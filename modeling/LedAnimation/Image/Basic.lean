/-
  Images: a rectangle of colours, row by row from the top, each row from the left.

  `Image.ofSamples` builds an image from raw samples in one of the common layouts: one sample of
  grey or three of colour per pixel, with or without one of opacity behind them, each of 8 or 16
  bits.  Opacity is dropped, grey goes to all three channels, and 16-bit samples are scaled down
  to the nearest 8-bit level.
-/
import LedAnimation.Color

namespace LedAnimation

/-- A rectangle of colours. -/
structure Image where
  width : Nat
  height : Nat
  pixels : Array Rgb
  size_pixels : pixels.size = width * height

namespace Image

/-- The image with a given colour in each column of each row. -/
def generate (width height : Nat) (color : Nat → Nat → Rgb) : Image where
  width
  height
  pixels := Array.ofFn fun i : Fin (width * height) => color (i % width) (i / width)
  size_pixels := by simp

/-- The colour in a column of a row; nothing is lit outside the image. -/
def pixel (image : Image) (column row : Nat) : Rgb :=
  image.pixels[row * image.width + column]?.getD off

/-- Change every colour. -/
def map (f : Rgb → Rgb) (image : Image) : Image where
  width := image.width
  height := image.height
  pixels := image.pixels.map f
  size_pixels := by simp [image.size_pixels]

end Image

/-! ## Raw samples -/

/-- How the samples of a pixel are laid out. -/
structure SampleFormat where
  /-- Three samples of colour rather than one of grey. -/
  color : Bool
  /-- One more sample that tells how opaque the pixel is. -/
  alpha : Bool
  /-- Samples of 16 bits rather than 8. -/
  deep : Bool
  deriving DecidableEq, Repr

namespace SampleFormat

/-- The number of samples of a pixel. -/
def samples (format : SampleFormat) : Nat :=
  (if format.color then 3 else 1) + (if format.alpha then 1 else 0)

/-- The level of a sample. -/
def level (format : SampleFormat) (sample : Nat) : UInt8 :=
  if format.deep then ((sample + 128) / 257).toUInt8 else sample.toUInt8

end SampleFormat

/-- The image that a row of samples stands for. -/
def Image.ofSamples (format : SampleFormat) (width height : Nat) (samples : Array Nat) : Image :=
  Image.generate width height fun column row =>
    let first := (row * width + column) * format.samples
    let channel (i : Nat) : UInt8 := format.level (samples[first + i]?.getD 0)
    if format.color then ⟨channel 0, channel 1, channel 2⟩
    else ⟨channel 0, channel 0, channel 0⟩

end LedAnimation
