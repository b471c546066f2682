/-
  One-shot playback: every compiled frame once and in order, and then nothing more.

  A one-shot player never compiles by itself, so after `j` reads it stands at frame `j` of the one
  list it began with, or behind its last frame for good (`after_once`).
-/
import LedAnimation.Proofs.Playback.Orientation

namespace LedAnimation

variable {n : Nat}

namespace Player

/-- The frames a player begins with: one compilation, in its orientation. -/
theorem frames_begun (script : Script n) (mirrored : Bool) (mode : PlaybackMode) (g : Generator) :
    (begun script mirrored mode g).frames
      = ((script.cycle g).map (Frame.orient mirrored)).toArray := by
  cases mirrored with
  | false =>
    rw [Frame.orient_false_eq_id, List.map_id]
    rfl
  | true =>
    show (script.cycle g).toArray.map Frame.mirror = _
    rw [List.map_toArray]
    rfl

/-- A player begins in the mode it was asked for, -/
theorem mode_begun (script : Script n) (mirrored : Bool) (mode : PlaybackMode) (g : Generator) :
    (begun script mirrored mode g).mode = mode := by
  cases mirrored <;> rfl

/-- and at its first frame. -/
theorem position_begun (script : Script n) (mirrored : Bool) (mode : PlaybackMode)
    (g : Generator) : (begun script mirrored mode g).position = 0 := by
  cases mirrored <;> rfl

/-- A one-shot player moves on by one frame, as long as there is one. -/
theorem next_once {p : Player n} (hmode : p.mode = .once) (hinside : p.position ≤ p.frames.size) :
    p.next = { p with position := min (p.position + 1) p.frames.size } := by
  rcases Nat.lt_or_eq_of_le hinside with hlt | hend
  · have hframe : p.frames[p.position]? = some p.frames[p.position] :=
      Array.getElem?_eq_getElem hlt
    rw [next_of_some hframe, advanced, hmode, Nat.min_eq_left (Nat.succ_le_of_lt hlt)]
  · have hframe : p.frames[p.position]? = none := Array.getElem?_eq_none (Nat.le_of_eq hend.symm)
    rw [next_of_none hframe, hend, Nat.min_eq_right (Nat.le_succ _), ← hend]

/-- Where a one-shot player is after `j` reads. -/
theorem after_once {p : Player n} (hmode : p.mode = .once) (hstart : p.position = 0) (j : Nat) :
    p.after j = { p with position := min j p.frames.size } := by
  induction j with
  | zero =>
    -- before any read the cursor is at 0, however few frames there are
    have hzero : min 0 p.frames.size = p.position := by rw [Nat.zero_min, hstart]
    rw [hzero]
    rfl
  | succ j ih =>
    let q := { p with position := min j p.frames.size }
    have hstep : q.next = { q with position := min (q.position + 1) q.frames.size } :=
      next_once hmode (Nat.min_le_right j p.frames.size)
    have hmin : min (min j p.frames.size + 1) p.frames.size = min (j + 1) p.frames.size := by
      omega
    rw [after_succ, ih, hstep]
    show ({ p with position := min (min j p.frames.size + 1) p.frames.size } : Player n) = _
    rw [hmin]

/-- Read `j` gives compiled frame `j`, if there is one. -/
theorem frame?_after_once (script : Script n) (mirrored : Bool) (g : Generator) (j : Nat) :
    ((begun script mirrored .once g).after j).frame?
      = ((script.cycle g).map (Frame.orient mirrored))[j]? := by
  rw [after_once (mode_begun ..) (position_begun ..), frame?_eq, frames_begun]
  dsimp only
  rw [List.size_toArray, List.getElem?_toArray]
  -- behind its last frame the player stands still, and reads nothing there
  rcases Nat.lt_or_ge j ((script.cycle g).map (Frame.orient mirrored)).length with hlt | hge
  · rw [Nat.min_eq_left (Nat.le_of_lt hlt)]
  · rw [Nat.min_eq_right hge, List.getElem?_eq_none (Nat.le_refl _), List.getElem?_eq_none hge]

/-- A one-shot player is empty as soon as its last frame was read. -/
theorem isEmpty_after_once (script : Script n) (mirrored : Bool) (g : Generator) (j : Nat) :
    ((begun script mirrored .once g).after j).isEmpty
      = decide (((script.cycle g).map (Frame.orient mirrored)).length ≤ j) := by
  have hmode := mode_begun script mirrored .once g
  rw [after_once hmode (position_begun ..), isEmpty, length]
  dsimp only
  rw [hmode, frames_begun, List.size_toArray]
  dsimp only
  rw [Bool.eq_iff_iff, beq_iff_eq, decide_eq_true_eq]
  omega

end Player

end LedAnimation
