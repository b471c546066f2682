/-
  Sprites: images as lists of frames.

  Two layouts are told apart by the shape of the image, for a strip of `n` LEDs:

  * `grid`   — an image `n` pixels wide: one frame per row, from the top down;
  * `scroll` — a single row of at least `n` pixels: a window of `n` pixels that moves from left to
    right by one pixel per frame.

  Colours are corrected before the image is cut into frames.  Cutting goes by position in the flat
  list of pixels: rows start at the multiples of `n`, windows at every pixel.
-/
import LedAnimation.Gamma
import LedAnimation.Image.Basic
import LedAnimation.Script
import LedAnimation.Log

namespace LedAnimation

/-- Why an image is no sprite. -/
inductive SpriteError where
  | widthMismatch (width height expected : Nat)
  | emptyImage
  deriving DecidableEq, Repr

/-- The error as users read it. -/
def SpriteError.message : SpriteError → String
  | .widthMismatch width height expected =>
    s!"sprite is {width}x{height}: expected rows of {expected} pixels, " ++
      s!"or a single row of at least {expected}"
  | .emptyImage => "sprite image is empty"

namespace Sprite

/-- How an image is cut into frames. -/
inductive Layout where
  | grid
  | scroll
  deriving DecidableEq, Repr

/-- The name of a layout in reports. -/
def Layout.name : Layout → String
  | .grid => "Grid"
  | .scroll => "Scroll"

/-- The layout of an image of the given size on a strip of `n` LEDs. -/
def layout (n width height : Nat) : Except SpriteError Layout :=
  if width = 0 ∨ height = 0 then .error .emptyImage
  else if n = 0 then .error (.widthMismatch width height n)
  else if height = 1 then
    if n ≤ width then .ok .scroll else .error (.widthMismatch width height n)
  else if width = n then .ok .grid
  else .error (.widthMismatch width height n)

/-- The `n` pixels from `start` on, if there are as many. -/
def slice? (n : Nat) (pixels : Array Rgb) (start : Nat) : Option (Frame n) :=
  if h : start + n ≤ pixels.size then
    some ⟨pixels.extract start (start + n), by simp; omega⟩
  else none

/-- Cut a list of pixels into rows of `n`; an incomplete last row is left out. -/
def rows (n : Nat) (pixels : Array Rgb) : List (Frame n) :=
  (List.range (pixels.size / n)).filterMap fun i => slice? n pixels (i * n)

/-- All windows of `n` neighbouring pixels. -/
def windows (n : Nat) (pixels : Array Rgb) : List (Frame n) :=
  (List.range (pixels.size + 1 - n)).filterMap fun i => slice? n pixels i

/-- The frames of a sprite on a strip of `n` LEDs, gamma-corrected if a table is given. -/
def decode (n : Nat) (image : Image) (gamma : Option GammaTable) :
    Logged (Except SpriteError (List (Frame n))) := do
  match layout n image.width image.height with
  | .error e => pure (.error e)
  | .ok layout =>
    let corrected := match gamma with
      | some table => image.map table.correct
      | none => image
    let frames := match layout with
      | .grid => rows n corrected.pixels
      | .scroll => windows n corrected.pixels
    let width := image.width
    let height := image.height
    let shape := layout.name
    let count := frames.length
    report .debug s!"[sprite.decode] {width}x{height} {shape} sprite -> {count} frames"
    pure (.ok frames)

/-- A sprite as a static script. -/
def script (n : Nat) (image : Image) (gamma : Option GammaTable) :
    Logged (Except SpriteError (Script n)) := do
  pure ((← decode n image gamma).map Script.ofFrames)

end Sprite

end LedAnimation
