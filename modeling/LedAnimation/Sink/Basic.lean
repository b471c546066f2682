/-
  Sinks: where composed frames go.

  A sink stages pixels one at a time and displays what is staged.  A frame is written by staging
  all of its pixels in order and displaying them once (`write`), so whatever is displayed is a
  whole frame.

  `Staging` is the memory that sinks of a fixed strip share: the colour staged last at every
  position, and one brightness for the whole strip, that of the pixel staged last.  Pixels beyond
  the end of the strip are lost, but their brightness counts.

  `Recorder` is the sink that only keeps account of what it was asked to do.
-/
import LedAnimation.Binary32.Basic
import LedAnimation.Frame
import LedAnimation.Log

namespace LedAnimation

/-- Something that shows pixels. -/
class Sink (τ : Type) where
  /-- Stage one pixel. -/
  setPixel : τ → Nat → Rgb → Binary32 → τ
  /-- Display the staged pixels. -/
  display : τ → Logged τ

namespace Sink

variable {τ : Type} [Sink τ]

/-- Stage a row of pixels, the first one at `index`. -/
def stageFrom (sink : τ) (index : Nat) (brightness : Binary32) : List Rgb → τ
  | [] => sink
  | color :: row => stageFrom (setPixel sink index color brightness) (index + 1) brightness row

/-- Stage a row of pixels from the start of the strip and display it. -/
def write (sink : τ) (row : List Rgb) (brightness : Binary32) : Logged τ :=
  display (stageFrom sink 0 brightness row)

end Sink

/-! ## Staged pixels -/

/-- What is staged for a strip of `n` pixels. -/
structure Staging (n : Nat) where
  pixels : Frame n
  brightness : UInt8

namespace Staging

variable {n : Nat}

/-- Nothing staged yet: a dark strip at full brightness. -/
def clean : Staging n := ⟨Frame.dark n, 255⟩

/-- Stage one pixel.  Only a position on the strip takes its colour. -/
def setPixel (s : Staging n) (index : Nat) (color : Rgb) (brightness : Binary32) : Staging n :=
  { pixels := s.pixels.setIfInBounds index color, brightness := brightness.level }

end Staging

/-! ## Recording -/

/-- A request to a sink. -/
inductive Call where
  | setPixel (index : Nat) (color : Rgb) (brightness : Binary32)
  | display
  deriving DecidableEq, Repr

/-- All requests made so far. -/
structure Recorder where
  calls : Array Call

namespace Recorder

/-- No requests yet. -/
def blank : Recorder := ⟨#[]⟩

instance : Sink Recorder where
  setPixel r index color brightness := ⟨r.calls.push (.setPixel index color brightness)⟩
  display r := pure ⟨r.calls.push .display⟩

end Recorder

end LedAnimation
