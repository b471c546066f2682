/-
  A player with everything stored.

  `Player` keeps the frames of its cycle whatever was read of them, and derives from its position
  and its script what an onlooker sees.  A `Reel` is the plain machine: it stores the frames that
  are left, the cursor, and whether its cycles are compiled.  A one-shot reel takes its frames off
  the front and has no use for the cursor; a looping one keeps them and moves the cursor.

  `Player.reel` is what a player shows, as a reel.  Starting, reading, compiling again and turning
  do the same to both (`load_eq_begun`, `read_reel`, `reel_act`), so a player may be taken for a
  reel over whole runs (`reel_acts`).  The flag of a reel need not be that of its script: a reel can
  be told to compile a script without actions as well.
-/
import LedAnimation.Proofs.Playback.OneShot

namespace LedAnimation

variable {n : Nat}

/-- A player that stores what `Player` derives. -/
structure Reel (n : Nat) where
  script : Script n
  /-- The frames of the cycle, without those a one-shot reel has given away. -/
  frames : List (Frame n)
  /-- Where a looping reel reads next. -/
  cursor : Nat
  mode : PlaybackMode
  /-- Whether the script is compiled anew for every cycle. -/
  dynamic : Bool
  mirrored : Bool
  generator : Generator

namespace Reel

/-- Compile the script afresh and go to its first frame. -/
def recompile (r : Reel n) : Except ScriptError (Reel n) :=
  match r.script.compile r.generator with
  | (.error fault, _) => .error fault
  | (.ok frames, generator) => .ok { r with frames, cursor := 0, generator }

/-- Turn the script and the frames that are left to the other end of the strip. -/
def mirror (r : Reel n) : Reel n :=
  { r with
    script := r.script.mirror
    frames := r.frames.map Frame.mirror
    mirrored := !r.mirrored }

/-- A reel at the first frame of a script.  It compiles the script if it is to be dynamic, and
    copies its frames otherwise. -/
def load (script : Script n) (dynamic mirrored : Bool) (mode : PlaybackMode) (g : Generator) :
    Except ScriptError (Reel n) :=
  let fresh : Reel n :=
    { script, frames := [], cursor := 0, mode, dynamic, mirrored := false, generator := g }
  let upright := if dynamic then fresh.recompile else .ok { fresh with frames := script.stills }
  upright.map fun r => if mirrored then r.mirror else r

/-- A reel with nothing on it. -/
def blank (mode : PlaybackMode) : Reel n :=
  { script := .empty, frames := [], cursor := 0, mode, dynamic := false, mirrored := false
    generator := ⟨0⟩ }

/-- Move the cursor on.  At the end of the cycle it goes back, and a dynamic reel compiles the next
    cycle. -/
def advance (r : Reel n) : Reel n :=
  let next := { r with cursor := r.cursor + 1 }
  if next.cursor < next.frames.length then next
  else if next.dynamic then
    match next.recompile with
    | .ok fresh => fresh
    | .error _ => { next with cursor := 0 }
  else { next with cursor := 0 }

/-- Read the current frame and leave it behind. -/
def read (r : Reel n) : Except PlaybackError (Frame n) × Reel n :=
  match r.mode with
  | .loop =>
    match r.frames[r.cursor]? with
    | none => (.error .exhausted, r)
    | some frame => (.ok frame, r.advance)
  | .once =>
    match r.frames with
    | [] => (.error .exhausted, r)
    | frame :: rest => (.ok frame, { r with frames := rest })

/-- The reel after one move. -/
def act (r : Reel n) : Player.Move → Reel n
  | .read => r.read.2
  | .recompile =>
    match r.recompile with
    | .ok q => q
    | .error _ => r
  | .mirror => r.mirror

/-- The reel after several moves. -/
def acts (r : Reel n) (moves : List Player.Move) : Reel n := moves.foldl act r

/-- Moves are made from the first to the last. -/
@[simp] theorem acts_cons (r : Reel n) (move : Player.Move) (moves : List Player.Move) :
    r.acts (move :: moves) = (r.act move).acts moves := rfl

/-- Compiling again never fails. -/
theorem recompile_eq (r : Reel n) :
    r.recompile = .ok { r with
      frames := r.script.cycle r.generator
      cursor := 0
      generator := r.script.generatorAfter r.generator } := by
  rw [recompile, Script.compile_eq]

/-- The reel at the first frame of the first cycle of a script, as the script stands. -/
def upright (script : Script n) (dynamic : Bool) (mode : PlaybackMode) (g : Generator) : Reel n :=
  { script
    frames := script.cycle g
    cursor := 0
    mode, dynamic
    mirrored := false
    generator := script.generatorAfter g }

/-- Loading never fails.  To copy the frames is as good as to compile them where there are no
    actions. -/
theorem load_eq {script : Script n} {dynamic : Bool}
    (h : dynamic = false → script.isDynamic = false) (mirrored : Bool) (mode : PlaybackMode)
    (g : Generator) :
    load script dynamic mirrored mode g
      = .ok (if mirrored then (upright script dynamic mode g).mirror
          else upright script dynamic mode g) := by
  cases dynamic with
  | true =>
    rw [load, if_pos rfl, recompile_eq]
    rfl
  | false =>
    rw [upright, Script.cycle_of_static (h rfl), Script.generatorAfter_of_static (h rfl)]
    rfl

/-- Inside a cycle the cursor moves on. -/
theorem advance_of_lt {r : Reel n} (h : r.cursor + 1 < r.frames.length) :
    r.advance = { r with cursor := r.cursor + 1 } :=
  if_pos h

/-- At its end a reel that is not dynamic goes back, -/
theorem advance_of_static {r : Reel n} (h : ¬ r.cursor + 1 < r.frames.length)
    (hdynamic : r.dynamic = false) : r.advance = { r with cursor := 0 } := by
  rw [advance, if_neg h, hdynamic]
  rfl

/-- and a dynamic one compiles. -/
theorem advance_of_dynamic {r : Reel n} (h : ¬ r.cursor + 1 < r.frames.length)
    (hdynamic : r.dynamic = true) : r.recompile = .ok r.advance := by
  rw [advance, if_neg h, if_pos hdynamic, recompile_eq, recompile_eq]

/-- A looping reel reads at its cursor and keeps its frames. -/
theorem read_of_loop {r : Reel n} (hmode : r.mode = .loop) :
    r.read = match r.frames[r.cursor]? with
      | none => (.error .exhausted, r)
      | some frame => (.ok frame, r.advance) := by
  rw [read, hmode]

/-- A one-shot reel gives away the frame in front. -/
theorem read_of_once {r : Reel n} (hmode : r.mode = .once) :
    r.read = match r.frames with
      | [] => (.error .exhausted, r)
      | frame :: rest => (.ok frame, { r with frames := rest }) := by
  rw [read, hmode]

end Reel

namespace Player

/-- What a player shows, as a reel. -/
def reel (p : Player n) : Reel n :=
  { script := p.script
    frames := p.left
    cursor := p.cursor
    mode := p.mode
    dynamic := p.isDynamic
    mirrored := p.mirrored
    generator := p.generator }

/-- What is left to a looping player are all the frames of its cycle, -/
theorem left_of_loop {p : Player n} (hmode : p.mode = .loop) : p.left = p.frames.toList := by
  rw [left, hmode]

/-- and to a one-shot player those behind its position. -/
theorem left_of_once {p : Player n} (hmode : p.mode = .once) :
    p.left = p.frames.toList.drop p.position := by
  rw [left, hmode]

/-- A looping player shows its position as the cursor, -/
theorem cursor_of_loop {p : Player n} (hmode : p.mode = .loop) : p.cursor = p.position := by
  rw [cursor, hmode]

/-- and a one-shot player, which has taken off what it has read, stands at 0. -/
theorem cursor_of_once {p : Player n} (hmode : p.mode = .once) : p.cursor = 0 := by
  rw [cursor, hmode]

theorem advanced_of_loop {p : Player n} (hmode : p.mode = .loop) :
    p.advanced
      = if p.position + 1 < p.frames.size then { p with position := p.position + 1 }
        else { p with position := p.position + 1 }.rewound := by
  rw [advanced, hmode]

theorem advanced_of_once {p : Player n} (hmode : p.mode = .once) :
    p.advanced = { p with position := p.position + 1 } := by
  rw [advanced, hmode]

/-- At its end a player of a static script goes back, and compiles nothing, -/
theorem rewound_of_static {p : Player n} (h : p.isDynamic = false) :
    p.rewound = { p with position := 0 } :=
  if_neg (Bool.eq_false_iff.1 h)

/-- and one of a dynamic script compiles the next cycle. -/
theorem rewound_of_dynamic {p : Player n} (h : p.isDynamic = true) : p.rewound = p.recompiled :=
  if_pos h

/-! ## One move -/

/-- A new cycle is left as a whole, in both modes. -/
theorem left_recompiled (p : Player n) : p.recompiled.left = p.script.cycle p.generator := by
  cases hmode : p.mode with
  | loop => exact left_of_loop (p := p.recompiled) hmode
  | once => exact left_of_once (p := p.recompiled) hmode

/-- Compiling again comes to the same for both, and fails for none. -/
theorem reel_recompiled (p : Player n) : p.reel.recompile = .ok p.recompiled.reel := by
  have hcursor : p.recompiled.cursor = 0 := by
    cases hmode : p.mode with
    | loop => exact cursor_of_loop (p := p.recompiled) hmode
    | once => exact cursor_of_once (p := p.recompiled) hmode
  rw [Reel.recompile_eq, reel, reel, left_recompiled, hcursor]
  rfl

/-- Turning turns the frames that are left, -/
theorem left_mirror (p : Player n) : p.mirror.left = p.left.map Frame.mirror :=
  (orient_seenTurned p true).left

/-- and everything else that a reel stores of a player. -/
theorem reel_mirror (p : Player n) : p.mirror.reel = p.reel.mirror := by
  have hdynamic : p.mirror.isDynamic = p.isDynamic := p.script.isDynamic_mirror
  have hcursor : p.mirror.cursor = p.cursor := (orient_seenTurned p true).cursor
  rw [reel, left_mirror, hdynamic, hcursor]
  rfl

/-- A looping player shows its position. -/
theorem reel_of_loop {p : Player n} (hmode : p.mode = .loop) (position : Nat) :
    Player.reel { p with position } = { p.reel with cursor := position } := by
  have hleft : Player.left { p with position } = p.left := by
    rw [left_of_loop hmode, left_of_loop (p := { p with position }) hmode]
  have hcursor : Player.cursor { p with position } = position :=
    cursor_of_loop (p := { p with position }) hmode
  rw [reel, hleft, hcursor]
  rfl

/-- Inside a cycle both move on, and at its end both go back or compile. -/
theorem reel_advanced_of_loop {p : Player n} (hmode : p.mode = .loop) :
    p.advanced.reel = p.reel.advance := by
  have hcursor : p.reel.cursor = p.position := cursor_of_loop hmode
  have hlength : p.reel.frames.length = p.frames.size := congrArg List.length (left_of_loop hmode)
  rw [advanced_of_loop hmode]
  by_cases hlt : p.position + 1 < p.frames.size
  · rw [if_pos hlt, reel_of_loop hmode, Reel.advance_of_lt (by omega), hcursor]
  -- the cycle of both ends here, and whether another is compiled is told by the same flag
  · have hend : ¬ p.reel.cursor + 1 < p.reel.frames.length := by omega
    rw [if_neg hlt]
    cases hdynamic : p.script.isDynamic with
    | false =>
      rw [Reel.advance_of_static hend hdynamic]
      exact (congrArg reel (rewound_of_static hdynamic)).trans (reel_of_loop hmode 0)
    | true =>
      have hcompiled : p.reel.advance = p.recompiled.reel :=
        Except.ok.inj ((Reel.advance_of_dynamic hend hdynamic).symm.trans p.reel_recompiled)
      rw [hcompiled]
      exact congrArg reel (rewound_of_dynamic hdynamic)

/-- A one-shot player gives its frames away from the front. -/
theorem reel_advanced_of_once {p : Player n} (hmode : p.mode = .once) :
    p.advanced.reel = { p.reel with frames := p.left.tail } := by
  have hleft : p.advanced.left = p.left.tail := by
    rw [advanced_of_once hmode, left_of_once hmode, List.tail_drop]
    exact left_of_once (p := { p with position := p.position + 1 }) hmode
  have hcursor : p.advanced.cursor = p.cursor := by
    rw [cursor_of_once hmode, cursor_of_once (p.advanced_sameSetup.mode.trans hmode)]
  rw [reel, hleft, hcursor, advanced_of_once hmode]
  rfl

/-- What a looping player reads is at its cursor, -/
theorem frames_of_loop {p : Player n} (hmode : p.mode = .loop) :
    p.frames[p.position]? = p.left[p.cursor]? := by
  rw [left_of_loop hmode, cursor_of_loop hmode, Array.getElem?_toList]

/-- and what a one-shot player reads is in front of what it has left. -/
theorem frames_of_once {p : Player n} (hmode : p.mode = .once) :
    p.frames[p.position]? = p.left.head? := by
  rw [left_of_once hmode, List.head?_drop, Array.getElem?_toList]

/-- **A read** gives the same, and leaves the same behind. -/
theorem read_reel (p : Player n) : p.reel.read = (p.outcome, p.next.reel) := by
  cases hmode : p.mode with
  | loop =>
    have hframe : p.reel.frames[p.reel.cursor]? = p.frames[p.position]? :=
      (frames_of_loop hmode).symm
    rw [Reel.read_of_loop hmode, hframe]
    cases h : p.frames[p.position]? with
    | none => rw [outcome_of_none h, next_of_none h]
    | some frame => rw [outcome_of_some h, next_of_some h, reel_advanced_of_loop hmode]
  | once =>
    have hframe := frames_of_once hmode
    rw [Reel.read_of_once hmode]
    show (match p.left with
      | [] => _
      | frame :: rest => _) = _
    cases hleft : p.left with
    | nil =>
      rw [hleft] at hframe
      rw [outcome_of_none hframe, next_of_none hframe]
    | cons frame rest =>
      rw [hleft] at hframe
      rw [outcome_of_some hframe, next_of_some hframe, reel_advanced_of_once hmode, hleft]
      rfl

/-- **One move.** -/
theorem reel_act (p : Player n) (move : Move) : (p.act move).reel = p.reel.act move := by
  cases move with
  | read =>
    show p.next.reel = p.reel.read.2
    rw [read_reel]
  | recompile =>
    rw [act_recompile, Reel.act, reel_recompiled]
  | mirror => exact p.reel_mirror

/-- **Any moves.** -/
theorem reel_acts (p : Player n) (moves : List Move) : (p.acts moves).reel = p.reel.acts moves := by
  induction moves generalizing p with
  | nil => rfl
  | cons move moves ih => rw [acts_cons, ih, reel_act, Reel.acts_cons]

/-! ## The beginning -/

/-- A player of a script is a reel loaded with the flag of that script. -/
theorem load_eq_begun (script : Script n) (mirrored : Bool) (mode : PlaybackMode) (g : Generator) :
    Reel.load script script.isDynamic mirrored mode g
      = .ok (begun script mirrored mode g).reel := by
  have hupright :
      (begun script false mode g).reel = Reel.upright script script.isDynamic mode g := by
    cases mode <;> rfl
  rw [Reel.load_eq id, begun_eq_orient, ← hupright]
  cases mirrored with
  | false => rfl
  | true => exact congrArg Except.ok (reel_mirror _).symm

/-- An empty player is a blank reel. -/
theorem reel_empty (mode : PlaybackMode) : (empty mode : Player n).reel = Reel.blank mode := by
  cases mode <;> rfl

end Player

end LedAnimation
