/-
  Kinds of image files, told by the extension of a file's name.

  * `extension?`  — what stands behind the last dot of the last part of a path.  A dot in front of
    the name begins no extension, and neither does a dot at its end.
  * `ofPath`      — the kind of file that a path names.
  * `readImage`   — the image in a file.  Only bitmaps can be read.
  * `messages`    — the words for an error, and behind them those for its causes.
-/
import LedAnimation.Image.Bitmap
import LedAnimation.Text.Quoted

namespace LedAnimation

/-- A kind of image file. -/
inductive ImageFormat where
  | avif | bmp | dds | farbfeld | gif | hdr | ico | jpeg | openExr | png | pnm | qoi | tga | tiff
  | webP
  deriving DecidableEq, Repr

/-- Why a file is not read as an image. -/
inductive ImageError where
  /-- The path has no extension. -/
  | undetermined
  /-- The extension belongs to no kind of image file. -/
  | unrecognized (extension : String)
  /-- Files of this kind cannot be read. -/
  | unsupported (format : ImageFormat)
  /-- The file does not begin as files of this kind do. -/
  | foreign (format : ImageFormat)
  /-- The file is called a bitmap, but holds no image. -/
  | bitmap (fault : Bitmap.Fault)
  deriving DecidableEq, Repr

namespace ImageFormat

/-- The name of the format. -/
def name : ImageFormat → String
  | .avif => "Avif"
  | .bmp => "Bmp"
  | .dds => "Dds"
  | .farbfeld => "Farbfeld"
  | .gif => "Gif"
  | .hdr => "Hdr"
  | .ico => "Ico"
  | .jpeg => "Jpeg"
  | .openExr => "OpenExr"
  | .png => "Png"
  | .pnm => "Pnm"
  | .qoi => "Qoi"
  | .tga => "Tga"
  | .tiff => "Tiff"
  | .webP => "WebP"

/-- The format that an extension stands for, in any case of letters. -/
def ofExtension? (extension : String) : Option ImageFormat :=
  match extension.map Char.toLower with
  | "avif" => some .avif
  | "bmp" => some .bmp
  | "dds" => some .dds
  | "exr" => some .openExr
  | "ff" => some .farbfeld
  | "gif" => some .gif
  | "hdr" => some .hdr
  | "ico" => some .ico
  | "jpg" | "jpeg" | "jfif" => some .jpeg
  | "png" | "apng" => some .png
  | "pbm" | "pam" | "ppm" | "pgm" | "pnm" => some .pnm
  | "qoi" => some .qoi
  | "tga" => some .tga
  | "tif" | "tiff" => some .tiff
  | "webp" => some .webP
  | _ => none

/-- The extension of a path, if it has one. -/
def extension? (path : String) : Option String :=
  let name := (path.toList.reverse.takeWhile (· != '/')).reverse
  let ending := (name.reverse.takeWhile (· != '.')).reverse
  if ending.isEmpty || name.length ≤ ending.length + 1 then none
  else some (String.ofList ending)

example : extension? "a.b/..bmp" = some "bmp" := by decide +kernel
example : extension? "a.b/s" = none ∧ extension? ".bmp" = none := by decide +kernel
example : extension? "s.bmp." = none ∧ extension? "s.." = none := by decide +kernel
example : ofExtension? "JPeg" = some .jpeg := by decide +kernel

/-- The kind of file that a path names. -/
def ofPath (path : String) : Except ImageError ImageFormat :=
  match extension? path with
  | none => .error .undetermined
  | some extension =>
    match ofExtension? extension with
    | none => .error (.unrecognized extension)
    | some format => .ok format

end ImageFormat

/-- A fault in the content of a file, told of the format and then `depth` times by itself. -/
def ImageFormat.fault (format : ImageFormat) (depth : Nat) (text : String) : List String :=
  ("Format error decoding " ++ format.name ++ ": " ++ text) :: List.replicate depth text

/-- What users read about a bitmap without an image. -/
def bitmapMessages : Bitmap.Fault → List String
  | .noBitmap => ImageFormat.bmp.fault 1 "BMP signature not found"
  | .truncated => ["failed to fill whole buffer"]
  | .otherKind => ["Format error decoding Bmp"]
  | .negativeWidth width => ImageFormat.bmp.fault 1 s!"Negative width ({width})"
  | .tooLarge width height =>
    ImageFormat.bmp.fault 1
      s!"Image too large (one of ({width}, {height}) > soft limit of {Bitmap.longestSide})"
  | .invalidHeight => ImageFormat.bmp.fault 1 "Invalid height"
  | .severalPlanes => ImageFormat.bmp.fault 1 "More than one plane"
  | .noPixels width height =>
    [s!"The decoder for Bmp does not support the format features Image dimensions ({width}x{height}"
      ++ " w/3 channels) are too large"]

/-- The error as users read it, and the causes behind it. -/
def ImageError.messages : ImageError → List String
  | .undetermined => ["The image format could not be determined"]
  | .unrecognized extension =>
    let shown := Text.quoted extension
    [s!"The file extension `.{shown}` was not recognized as an image format"]
  | .unsupported format => ["The image format " ++ format.name ++ " is not supported"]
  | .foreign .png => ImageFormat.png.fault 1 "Invalid PNG signature."
  | .foreign .gif => ImageFormat.gif.fault 3 "malformed GIF header"
  | .foreign format => ["Format error decoding " ++ format.name]
  | .bitmap fault => bitmapMessages fault

/-- The bytes that a file of a format may begin with, where they are looked at. -/
def ImageFormat.signatures : ImageFormat → List (List UInt8)
  | .png => [[0x89, 0x50, 0x4e, 0x47, 0x0d, 0x0a, 0x1a, 0x0a]]
  | .gif => [[0x47, 0x49, 0x46, 0x38, 0x37, 0x61], [0x47, 0x49, 0x46, 0x38, 0x39, 0x61]]
  | _ => [[]]

/-- The image in a file with this path and content. -/
def readImage (path : String) (content : ByteArray) : Except ImageError Image :=
  match ImageFormat.ofPath path with
  | .error e => .error e
  | .ok .bmp => (Bitmap.decode content).mapError .bitmap
  | .ok format =>
    if format.signatures.any (·.isPrefixOf content.data.toList) then .error (.unsupported format)
    else .error (.foreign format)

end LedAnimation
