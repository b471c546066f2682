/-
  Frames: one colour for every LED of a strip of `n`, and how frames are laid over each other.

  `off` is transparent: a pixel of the upper frame covers the one below only if it is lit.  An
  effect that needs real black somewhere has to leave that position uncovered.

  Laying frames over each other is the same rule at every position (`Rgb.onto`), so a whole stack
  shows, at every position, its topmost lit pixel.
-/
import LedAnimation.Color

namespace LedAnimation

/-- One colour per LED. -/
abbrev Frame (n : Nat) := Vector Rgb n

/-- The colour seen when `upper` lies on `lower`. -/
def Rgb.onto (upper lower : Rgb) : Rgb := if upper = off then lower else upper

@[simp] theorem Rgb.off_onto (c : Rgb) : off.onto c = c := by simp [Rgb.onto]

@[simp] theorem Rgb.onto_off (c : Rgb) : c.onto off = c := by
  by_cases h : c = off <;> simp [Rgb.onto, h]

theorem Rgb.onto_assoc (a b c : Rgb) : (a.onto b).onto c = a.onto (b.onto c) := by
  by_cases h : a = off <;> simp [Rgb.onto, h]

namespace Frame

/-- The frame without any light. -/
def dark (n : Nat) : Frame n := Vector.replicate n off

/-- The same frame seen from the other end of the strip. -/
def mirror {n : Nat} (frame : Frame n) : Frame n := frame.reverse

/-- The frame seen when `upper` lies on `lower`. -/
def merge {n : Nat} (lower upper : Frame n) : Frame n :=
  lower.zipWith (fun under layer => layer.onto under) upper

variable {n : Nat}

@[simp] theorem mirror_mirror (frame : Frame n) : frame.mirror.mirror = frame := by
  simp [mirror]

@[simp] theorem getElem_mirror (frame : Frame n) (i : Nat) (h : i < n) :
    frame.mirror[i] = frame[n - 1 - i] := by
  simp [mirror]

@[simp] theorem getElem_merge (lower upper : Frame n) (i : Nat) (h : i < n) :
    (lower.merge upper)[i] = upper[i].onto lower[i] := by
  simp [merge]

@[simp] theorem getElem_dark (i : Nat) (h : i < n) : (dark n)[i] = off := by
  simp [dark]

/-- Both ends of the strip see the same stack. -/
theorem mirror_merge (lower upper : Frame n) :
    (lower.merge upper).mirror = lower.mirror.merge upper.mirror := by
  ext i h
  simp

end Frame

/-! ## Rows of any length -/

/-- A row of pixels laid on another one, as far as both reach.  What the lower row has beyond
    that stays as it is, and what the upper row has beyond that is not seen. -/
def mergeRow : List Rgb → List Rgb → List Rgb
  | under :: lower, layer :: upper => layer.onto under :: mergeRow lower upper
  | lower, _ => lower

theorem length_mergeRow (lower upper : List Rgb) :
    (mergeRow lower upper).length = lower.length := by
  fun_induction mergeRow lower upper <;> simp_all

end LedAnimation
