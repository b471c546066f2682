/-
  Bitmap files of uncompressed 24-bit colour.

  A file header of 14 bytes (`BM`, and at 10 where the pixels begin), an info header of 40 bytes
  (width, height, 1 plane, 24 bits, no compression), then rows of blue, green and red bytes, each
  row filled up to a multiple of 4 bytes.  Numbers are little-endian.  The rows run from the bottom
  up, or from the top down if the height is negative.
-/
import LedAnimation.Image.Basic

namespace LedAnimation

namespace Bitmap

/-- A byte of a file; beyond its end there are only zeros. -/
def byteAt (file : ByteArray) (i : Nat) : Nat := (file.data[i]?.getD 0).toNat

/-- A little-endian number of `size` bytes. -/
def numberAt (file : ByteArray) (i : Nat) : Nat → Nat
  | 0 => 0
  | size + 1 => byteAt file i + 256 * numberAt file (i + 1) size

/-- A little-endian number of 4 bytes with a sign. -/
def signedAt (file : ByteArray) (i : Nat) : Int := (numberAt file i 4 : Int).bmod UInt32.size

/-- The length of a row, filled up to whole words. -/
def rowBytes (width : Nat) : Nat := (width * 3 + 3) / 4 * 4

/-- Why a file holds no image. -/
inductive Fault where
  /-- It does not begin as a bitmap does. -/
  | noBitmap
  /-- It ends too early. -/
  | truncated
  /-- It is a bitmap of another kind. -/
  | otherKind
  /-- Rows cannot have less than no pixels. -/
  | negativeWidth (width : Int)
  /-- One side of the image is longer than `longestSide`. -/
  | tooLarge (width height : Int)
  /-- The height is the one number that has no counterpart of the other sign. -/
  | invalidHeight
  /-- There is not exactly one plane. -/
  | severalPlanes
  /-- The image has no rows, or rows without pixels. -/
  | noPixels (width height : Nat)
  deriving DecidableEq, Repr

/-- The longest side of an image.  It does not bound the rows of an image from the top down. -/
def longestSide : Nat := 65535

/-- The first fault in the headers, if there is one. -/
def headerFault? (file : ByteArray) : Option Fault :=
  let width := signedAt file 18
  let height := signedAt file 22
  if file.size < 2 then some .truncated
  else if numberAt file 0 2 ≠ 0x4d42 then some .noBitmap
  else if file.size < 54 then some .truncated
  else if numberAt file 14 4 ≠ 40 then some .otherKind
  else if width < 0 then some (.negativeWidth width)
  else if longestSide < width ∨ longestSide < height then some (.tooLarge width height)
  else if height = -0x80000000 then some .invalidHeight
  else if numberAt file 26 2 ≠ 1 then some .severalPlanes
  else if numberAt file 28 2 ≠ 24 ∨ numberAt file 30 4 ≠ 0 then some .otherKind
  else if width = 0 ∨ height = 0 then some (.noPixels width.natAbs height.natAbs)
  else none

/-- The image in a file. -/
def decode (file : ByteArray) : Except Fault Image :=
  let start := numberAt file 10 4
  let width := (signedAt file 18).natAbs
  let height := (signedAt file 22).natAbs
  let topDown := signedAt file 22 < 0
  match headerFault? file with
  | some fault => .error fault
  | none =>
    if file.size < start + rowBytes width * height then .error .truncated
    else
      .ok (Image.generate width height fun column row =>
        let line := if topDown then row else height - 1 - row
        let first := start + line * rowBytes width + 3 * column
        let level (i : Nat) : UInt8 := file.data[i]?.getD 0
        ⟨level (first + 2), level (first + 1), level first⟩)

end Bitmap

end LedAnimation
