/-
  Where a player can stand, whatever is done with it.

  Only a player of an empty script has no frames at all, and a looping player that has frames always
  stands on one of them.  A one-shot player may stand behind its last frame, but it tells so by
  being empty.  `Seated` says this of a player; every move keeps it (`Seated.act`), whether the
  player reads on, starts over, compiles its script again or is turned around.

  So a player that is not empty is never found exhausted (`Seated.exists_read`).
-/
import LedAnimation.Proofs.Playback.OneShot

namespace LedAnimation

variable {n : Nat}

@[simp] theorem Script.isEmpty_mirror (script : Script n) :
    script.mirror.isEmpty = script.isEmpty :=
  List.isEmpty_map

namespace Player

variable {p : Player n}

/-- The position of a player fits its frames. -/
structure Seated (p : Player n) : Prop where
  /-- Only a player of an empty script has no frames. -/
  frames : p.script.isEmpty = false → 0 < p.frames.size
  /-- A looping player stands on a frame, and without frames it stands at 0. -/
  loop : p.mode = .loop → p.position ≤ p.frames.size - 1

namespace Seated

/-- A new cycle is read from its first frame, whatever the player was doing.  Its script has
    entries, so the cycle has frames. -/
theorem recompiled (p : Player n) : p.recompiled.Seated := by
  constructor
  case frames =>
    intro hscript
    show 0 < (p.script.cycle p.generator).toArray.size
    rw [List.size_toArray]
    exact Script.length_cycle_pos hscript p.generator
  case loop => exact fun _ => Nat.zero_le _

/-- Starting over goes to the first frame, of this cycle or of the next, from wherever the player
    stands. -/
theorem rewound (hframes : p.script.isEmpty = false → 0 < p.frames.size) : p.rewound.Seated := by
  rw [Player.rewound]
  by_cases hdynamic : p.isDynamic
  · rw [if_pos hdynamic]
    exact recompiled p
  · rw [if_neg hdynamic]
    exact ⟨hframes, fun _ => Nat.zero_le _⟩

/-- Moving on goes to the next frame, or starts over where there is none. -/
theorem advanced (h : p.Seated) : p.advanced.Seated := by
  rw [Player.advanced]
  cases hmode : p.mode with
  | once =>
    -- one-shot players are not bound to a frame
    have hne : PlaybackMode.once ≠ .loop := by decide
    exact ⟨h.frames, fun hloop => absurd hloop hne⟩
  | loop =>
    dsimp only
    by_cases hlt : p.position + 1 < p.frames.size
    · rw [if_pos hlt]
      exact ⟨h.frames, fun _ => Nat.le_sub_one_of_lt hlt⟩
    · rw [if_neg hlt]
      exact rewound h.frames

/-- A read that fails does not move the player, so only a read that gives a frame needs a look. -/
theorem next (h : p.Seated) : p.next.Seated := by
  cases hframe : p.frames[p.position]? with
  | none =>
    rw [next_of_none hframe]
    exact h
  | some frame =>
    rw [next_of_some hframe]
    exact h.advanced

/-- Turning changes the order of no frames, and so neither their number nor the position. -/
theorem mirror (h : p.Seated) : p.mirror.Seated := by
  have hsize : p.mirror.frames.size = p.frames.size := Array.size_map
  constructor
  case frames =>
    intro hscript
    rw [hsize]
    exact h.frames (p.script.isEmpty_mirror.symm.trans hscript)
  case loop =>
    intro hmode
    rw [hsize]
    exact h.loop hmode

/-- **One move.** -/
theorem act (h : p.Seated) (move : Move) : (p.act move).Seated := by
  cases move with
  | read => exact h.next
  | recompile =>
    rw [act_recompile]
    exact recompiled p
  | mirror => exact h.mirror

/-- **Any moves.** -/
theorem acts (h : p.Seated) (moves : List Move) : (p.acts moves).Seated := by
  induction moves generalizing p with
  | nil => exact h
  | cons move moves ih => exact ih (h.act move)

/-- Every player begins so. -/
theorem begun (script : Script n) (mirrored : Bool) (mode : PlaybackMode) (g : Generator) :
    (begun script mirrored mode g).Seated := by
  rw [begun_eq_orient]
  have hupright : (Player.begun script false mode g).Seated := by
    constructor
    case frames =>
      intro hscript
      rw [frames_begun, List.size_toArray, List.length_map]
      exact Script.length_cycle_pos hscript g
    case loop => exact fun _ => Nat.zero_le _
  cases mirrored with
  | false => exact hupright
  | true => exact hupright.mirror

/-- The cursor of a looping player is on one of its frames. -/
theorem cursor_lt_length (h : p.Seated) (hmode : p.mode = .loop)
    (hscript : p.script.isEmpty = false) : p.cursor < p.length := by
  have hframes := h.frames hscript
  have hloop := h.loop hmode
  rw [cursor, length, hmode]
  dsimp only
  omega

/-- **What is not empty can be read.** -/
theorem exists_read (h : p.Seated) (hleft : p.isEmpty = false) :
    ∃ frame, p.nextFrame.value = .ok (frame, p.next) := by
  have hlength : p.length ≠ 0 := bne_iff_ne.1 (congrArg not hleft)
  have hinside : p.position < p.frames.size := by
    -- a looping player stands on a frame, and a one-shot player with something left before its end
    rw [length] at hlength
    split at hlength
    · rename_i hloop
      have hposition := h.loop hloop
      omega
    · omega
  have hframe : p.frames[p.position]? = some p.frames[p.position] :=
    Array.getElem?_eq_getElem hinside
  rw [value_nextFrame_of_some hframe, next_of_some hframe]
  exact ⟨_, rfl⟩

end Seated

end Player

end LedAnimation
