/-
  A player one move at a time, with everything that cannot happen left out.

  A script always compiles, so starting a player, compiling it again and rewinding it always give a
  player.  `begun`, `recompiled` and `rewound` are those players in closed form, and `value_start`,
  `value_recompile` and `value_rewind` say so.

  * `outcome`, `next`  — what a read gives, and the player it leaves behind.  A read that fails
    leaves the player as it was.
  * `after k`          — the player after `k` reads in a row.
  * `Move`, `act`      — the three things that can be done with a player, and what they make of it.
    Every run of a player is a list of moves (`acts`).
  * `orient`           — one of the two orientations of a frame, a script or a player.
-/
import LedAnimation.Player
import LedAnimation.Proofs.Compilation

namespace LedAnimation

variable {n : Nat}

/-- A frame in one of its two orientations: as it is, or from its last pixel to its first. -/
def Frame.orient (turned : Bool) (frame : Frame n) : Frame n :=
  if turned then frame.reverse else frame

/-- A script in one of its two orientations. -/
def Script.orient (turned : Bool) (script : Script n) : Script n :=
  if turned then script.mirror else script

namespace Player

/-- A player in one of its two orientations. -/
def orient (turned : Bool) (p : Player n) : Player n := if turned then p.mirror else p

/-! ## Compiling and starting -/

/-- The player at the first frame of a new cycle. -/
def recompiled (p : Player n) : Player n :=
  { p with
    frames := (p.script.cycle p.generator).toArray
    position := 0
    generator := p.script.generatorAfter p.generator }

/-- Compiling again never fails. -/
theorem value_recompile (p : Player n) : p.recompile.value = .ok p.recompiled := by
  rw [recompile, Script.compile_eq]
  rfl

/-- The player at the start of its next cycle. -/
def rewound (p : Player n) : Player n :=
  if p.isDynamic then p.recompiled else { p with position := 0 }

/-- So rewinding is a function: the compilation in it cannot fail. -/
theorem value_rewind (p : Player n) : p.rewind.value = p.rewound := by
  rw [rewind, rewound]
  by_cases hdynamic : p.isDynamic
  · rw [if_pos hdynamic, if_pos hdynamic, Logged.value_bind, value_recompile]
    rfl
  · rw [if_neg hdynamic, if_neg hdynamic]
    rfl

/-- The player at the first frame of the first cycle of a script.  For a static script that cycle
    is the script itself, and costs no draw. -/
def begun (script : Script n) (mirrored : Bool) (mode : PlaybackMode) (g : Generator) : Player n :=
  orient mirrored
    { script
      frames := (script.cycle g).toArray
      position := 0
      mode
      mirrored := false
      generator := script.generatorAfter g }

/-- **Starting a player never fails.** -/
theorem value_start (script : Script n) (mirrored : Bool) (mode : PlaybackMode) (g : Generator) :
    (start script mirrored mode g).value = .ok (begun script mirrored mode g) := by
  rw [start, begun]
  by_cases hdynamic : script.isDynamic
  -- a dynamic script is compiled, and a static one is a cycle already
  · rw [if_pos hdynamic, Logged.value_bind, value_recompile]
    rfl
  · rw [if_neg hdynamic]
    have hstatic : script.isDynamic = false := Bool.not_eq_true _ ▸ hdynamic
    rw [Script.cycle_of_static hstatic, Script.generatorAfter_of_static hstatic]
    rfl

/-! ## Reading -/

/-- What a read gives. -/
def outcome (p : Player n) : Except PlaybackError (Frame n) := p.nextFrame.value.map (·.1)

/-- The player after a read.  A read that fails changes nothing. -/
def next (p : Player n) : Player n :=
  match p.nextFrame.value with
  | .ok (_, q) => q
  | .error _ => p

/-- The player that has left its current frame behind. -/
def advanced (p : Player n) : Player n :=
  match p.mode with
  | .once => { p with position := p.position + 1 }
  | .loop =>
    if p.position + 1 < p.frames.size then { p with position := p.position + 1 }
    else { p with position := p.position + 1 }.rewound

/-- Moving on in closed form, with the report that it may leave put aside. -/
theorem value_advance (p : Player n) : p.advance.value = p.advanced := by
  rw [advance, advanced]
  cases p.mode with
  | once => rfl
  | loop =>
    show (if p.position + 1 < p.frames.size then _ else _ : Logged (Player n)).value = _
    by_cases hlt : p.position + 1 < p.frames.size
    · rw [if_pos hlt]
      show _ = if p.position + 1 < p.frames.size then _ else _
      rw [if_pos hlt]
      rfl
    · rw [if_neg hlt, value_rewind]
      show _ = if p.position + 1 < p.frames.size then _ else _
      rw [if_neg hlt]

/-- A read where no frame is. -/
theorem value_nextFrame_of_none {p : Player n} (h : p.frames[p.position]? = none) :
    p.nextFrame.value = .error .exhausted := by
  rw [nextFrame, h]
  rfl

/-- A read where a frame is. -/
theorem value_nextFrame_of_some {p : Player n} {frame : Frame n}
    (h : p.frames[p.position]? = some frame) :
    p.nextFrame.value = .ok (frame, p.advanced) := by
  rw [nextFrame, h]
  show (p.advance >>= _ : Logged _).value = _
  rw [Logged.value_bind, value_advance]
  rfl

/-- What a read gives is decided by the place of the cursor alone: beyond the frames it is
    an error, -/
theorem outcome_of_none {p : Player n} (h : p.frames[p.position]? = none) :
    p.outcome = .error .exhausted := by
  rw [outcome, value_nextFrame_of_none h]
  rfl

/-- and before their end it is the frame there. -/
theorem outcome_of_some {p : Player n} {frame : Frame n}
    (h : p.frames[p.position]? = some frame) : p.outcome = .ok frame := by
  rw [outcome, value_nextFrame_of_some h]
  rfl

/-- An exhausted player stays as it is, -/
theorem next_of_none {p : Player n} (h : p.frames[p.position]? = none) : p.next = p := by
  rw [next, value_nextFrame_of_none h]

/-- and any other one leaves its frame behind. -/
theorem next_of_some {p : Player n} {frame : Frame n}
    (h : p.frames[p.position]? = some frame) : p.next = p.advanced := by
  rw [next, value_nextFrame_of_some h]

/-- The frame a read gives, if it gives one. -/
def frame? (p : Player n) : Option (Frame n) := p.outcome.toOption

/-- A read gives what the compiled frames have at the cursor. -/
theorem frame?_eq (p : Player n) : p.frame? = p.frames[p.position]? := by
  cases h : p.frames[p.position]? with
  | none =>
    rw [frame?, outcome_of_none h]
    rfl
  | some frame =>
    rw [frame?, outcome_of_some h]
    rfl

/-- Where nothing is left to read, no frame is. -/
theorem frames_of_isEmpty {p : Player n} (h : p.isEmpty = true) :
    p.frames[p.position]? = none := by
  have hlength : p.length = 0 := beq_iff_eq.mp h
  rw [Array.getElem?_eq_none_iff]
  rw [length] at hlength
  split at hlength <;> omega

/-- What no compilation and no read changes: the script, what happens at its end, and the end of
    the strip it is seen from. -/
structure SameSetup (p q : Player n) : Prop where
  script : p.script = q.script
  mode : p.mode = q.mode
  mirrored : p.mirrored = q.mirrored

/-- Two players of one setup are compared across any number of moves, so the relation has to
    compose. -/
theorem SameSetup.refl (p : Player n) : SameSetup p p := ⟨rfl, rfl, rfl⟩

theorem SameSetup.trans {p q r : Player n} (h : SameSetup p q) (h' : SameSetup q r) :
    SameSetup p r :=
  ⟨h.script.trans h'.script, h.mode.trans h'.mode, h.mirrored.trans h'.mirrored⟩

/-- Compiling again replaces the frames and the generator, and nothing of the setup. -/
theorem recompiled_sameSetup (p : Player n) : SameSetup p.recompiled p := ⟨rfl, rfl, rfl⟩

/-- Moving on does not change the setup, though it may compile a new cycle, -/
theorem advanced_sameSetup (p : Player n) : SameSetup p.advanced p := by
  rw [advanced]
  split
  · exact ⟨rfl, rfl, rfl⟩
  · split
    · exact ⟨rfl, rfl, rfl⟩
    · rw [rewound]
      split <;> exact ⟨rfl, rfl, rfl⟩

/-- and so neither does a read, whether it gives a frame or not. -/
theorem next_sameSetup (p : Player n) : SameSetup p.next p := by
  cases h : p.frames[p.position]? with
  | none =>
    rw [next_of_none h]
    exact SameSetup.refl p
  | some frame =>
    rw [next_of_some h]
    exact p.advanced_sameSetup

/-- The player after `k` reads in a row. -/
def after (p : Player n) : Nat → Player n
  | 0 => p
  | k + 1 => (p.after k).next

@[simp] theorem after_succ (p : Player n) (k : Nat) : p.after (k + 1) = (p.after k).next := rfl

/-! ## Moves -/

/-- What can be done with a player. -/
inductive Move where
  | read
  | recompile
  | mirror
  deriving DecidableEq, Repr

/-- The player after one move. -/
def act (p : Player n) : Move → Player n
  | .read => p.next
  | .recompile =>
    match p.recompile.value with
    | .ok q => q
    | .error _ => p
  | .mirror => p.mirror

/-- The player after several moves. -/
def acts (p : Player n) (moves : List Move) : Player n := moves.foldl act p

/-- The move `recompile`, which would keep the player on an error, in its only case. -/
theorem act_recompile (p : Player n) : p.act .recompile = p.recompiled := by
  rw [act, value_recompile]

@[simp] theorem acts_cons (p : Player n) (move : Move) (moves : List Move) :
    p.acts (move :: moves) = (p.act move).acts moves := rfl

end Player

end LedAnimation
