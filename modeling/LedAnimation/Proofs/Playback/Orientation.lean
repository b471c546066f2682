/-
  Turning a player around changes its orientation and nothing else.

  Every move of a player has the same effect before and after a turn (`outcome_mirror`,
  `next_mirror`, `recompiled_mirror`): the script and the compiled frames are turned together, and
  compiling a turned script gives the turned cycle from the same draws.  So a run with turns in it
  is the run without them, seen from the end of the strip that the number of turns tells
  (`acts_orient`).  The induction is on the moves, and carries the twin player and the orientation
  along.
-/
import LedAnimation.Proofs.Playback.Basic

namespace LedAnimation

variable {n : Nat}

/-! ## Orientations -/

@[simp] theorem Frame.orient_false (frame : Frame n) : frame.orient false = frame := rfl

@[simp] theorem Frame.orient_true (frame : Frame n) : frame.orient true = frame.mirror := rfl

theorem Frame.orient_false_eq_id : Frame.orient (n := n) false = id := rfl

/-- An entry in one of its two orientations.  An action has no ends. -/
def Entry.orient (turned : Bool) : Entry n → Entry n
  | .frame f => .frame (if turned then f.reverse else f)
  | .action a => .action a

/-- Turning a script turns its frames, entry by entry. -/
theorem Script.entries_orient (turned : Bool) (script : Script n) :
    (script.orient turned).entries = script.entries.map (Entry.orient turned) := by
  cases turned with
  | false =>
    have hid : Entry.orient (n := n) false = id := by
      funext entry
      cases entry <;> rfl
    rw [hid, List.map_id]
    rfl
  | true =>
    have hmirror : Entry.mirror (n := n) = Entry.orient true := by
      funext entry
      cases entry <;> rfl
    rw [← hmirror]
    rfl

namespace Player

/-- A player that is not turned is the player itself, -/
@[simp] theorem orient_false (p : Player n) : p.orient false = p := rfl

/-- and the turned one is its mirror image. -/
@[simp] theorem orient_true (p : Player n) : p.orient true = p.mirror := rfl

/-- **Turning twice gives the player back as it was**: its script, its compiled frames and its flag
    each come back. -/
@[simp] theorem mirror_mirror (p : Player n) : p.mirror.mirror = p := by
  have hframes : (p.frames.map Frame.mirror).map Frame.mirror = p.frames := by
    rw [Array.map_map]
    have hid : Frame.mirror ∘ Frame.mirror = (id : Frame n → Frame n) :=
      funext Frame.mirror_mirror
    rw [hid, Array.map_id]
  rw [mirror, mirror]
  dsimp only
  rw [Script.mirror_mirror, hframes, Bool.not_not]

/-- So a turn takes either orientation to the other. -/
theorem mirror_orient (p : Player n) (turned : Bool) :
    (p.orient turned).mirror = p.orient !turned := by
  cases turned with
  | false => rfl
  | true => exact p.mirror_mirror

/-- A player started turned is one started upright and turned at once: no draw is made before the
    orientation is known, and none depends on it. -/
theorem begun_eq_orient (script : Script n) (mirrored : Bool) (mode : PlaybackMode)
    (g : Generator) : begun script mirrored mode g = (begun script false mode g).orient mirrored :=
  rfl

/-! ## One move -/

/-- Compiling a turned player makes the cycle from the same draws, and turns it. -/
theorem recompiled_mirror (p : Player n) : p.mirror.recompiled = p.recompiled.mirror := by
  rw [recompiled, recompiled, mirror, mirror]
  dsimp only
  rw [Script.cycle_mirror, Script.generatorAfter_mirror, List.map_toArray]

/-- Whether a new cycle has to be compiled depends on the kinds of the entries only, so a turned
    player starts over in the same way, -/
theorem rewound_mirror (p : Player n) : p.mirror.rewound = p.rewound.mirror := by
  have hdynamic : p.mirror.isDynamic = p.isDynamic := p.script.isDynamic_mirror
  rw [rewound, rewound, hdynamic]
  by_cases h : p.isDynamic
  · rw [if_pos h, if_pos h, recompiled_mirror]
  · rw [if_neg h, if_neg h]
    rfl

/-- and it leaves its current frame behind at the same place of the same length. -/
theorem advanced_mirror (p : Player n) : p.mirror.advanced = p.advanced.mirror := by
  rw [advanced, advanced]
  have hmode : p.mirror.mode = p.mode := rfl
  have hsize : p.mirror.frames.size = p.frames.size := Array.size_map
  rw [hmode, hsize]
  cases p.mode with
  | once => rfl
  | loop =>
    show (if p.position + 1 < p.frames.size then _ else _)
      = Player.mirror (if p.position + 1 < p.frames.size then _ else _)
    by_cases h : p.position + 1 < p.frames.size
    · rw [if_pos h, if_pos h]
      rfl
    · rw [if_neg h, if_neg h]
      exact rewound_mirror { p with position := p.position + 1, mode := .loop }

/-- The frame a turned player reads next. -/
theorem frames_mirror_getElem? (p : Player n) :
    p.mirror.frames[p.mirror.position]? = p.frames[p.position]?.map Frame.mirror :=
  Array.getElem?_map

/-- A turned player reads the turned frame, and is exhausted where its twin is. -/
theorem outcome_mirror (p : Player n) : p.mirror.outcome = p.outcome.map Frame.mirror := by
  have hframe := p.frames_mirror_getElem?
  cases h : p.frames[p.position]? with
  | none =>
    rw [h] at hframe
    rw [outcome_of_none hframe, outcome_of_none h]
    rfl
  | some frame =>
    rw [h] at hframe
    rw [outcome_of_some hframe, outcome_of_some h]
    rfl

/-- The player after a read is turned too.  Both read a frame or neither does, so both move on or
    stand still. -/
theorem next_mirror (p : Player n) : p.mirror.next = p.next.mirror := by
  have hframe := p.frames_mirror_getElem?
  cases h : p.frames[p.position]? with
  | none =>
    rw [h] at hframe
    rw [next_of_none hframe, next_of_none h]
  | some frame =>
    rw [h] at hframe
    rw [next_of_some hframe, next_of_some h, advanced_mirror]

/-- Seen as an option, a read is turned as the frame in it is. -/
theorem frame?_mirror (p : Player n) : p.mirror.frame? = p.frame?.map Frame.mirror := by
  rw [frame?_eq, frame?_eq, frames_mirror_getElem?]

/-- Turning moves no frame in the order of playing, so as many are left. -/
theorem length_mirror (p : Player n) : p.mirror.length = p.length := by
  have hsize : p.mirror.frames.size = p.frames.size := Array.size_map
  rw [length, length, hsize]
  rfl

theorem isEmpty_mirror (p : Player n) : p.mirror.isEmpty = p.isEmpty := by
  rw [isEmpty, isEmpty, length_mirror]

/-- The same facts for either orientation at once, which a run needs as it does not know how often
    it has been turned.  First what a read gives, -/
theorem outcome_orient (p : Player n) (turned : Bool) :
    (p.orient turned).outcome = p.outcome.map (Frame.orient turned) := by
  cases turned with
  | false =>
    rw [Frame.orient_false_eq_id, Except.map_id]
    rfl
  | true => exact p.outcome_mirror

/-- then the player that it leaves, -/
theorem next_orient (p : Player n) (turned : Bool) :
    (p.orient turned).next = p.next.orient turned := by
  cases turned with
  | false => rfl
  | true => exact p.next_mirror

/-- and the player after any number of reads, by induction on their number. -/
theorem after_orient (p : Player n) (turned : Bool) (k : Nat) :
    (p.orient turned).after k = (p.after k).orient turned := by
  induction k with
  | zero => rfl
  | succ k ih => rw [after_succ, ih, next_orient, after_succ]

/-- A move that is no turn has the same effect in both orientations. -/
theorem act_orient (p : Player n) (turned : Bool) {move : Move} (h : move ≠ .mirror) :
    (p.orient turned).act move = (p.act move).orient turned := by
  cases move with
  | read => exact p.next_orient turned
  | recompile =>
    rw [act_recompile, act_recompile]
    cases turned with
    | false => rfl
    | true => exact p.recompiled_mirror
  | mirror => exact absurd rfl h

/-! ## Whole runs -/

/-- Whether a player that began turned or not is turned after some moves: whether the number of
    turns, the first one included, is odd. -/
def turnedAfter (turned : Bool) (moves : List Move) : Bool :=
  (turned.toNat + moves.count .mirror) % 2 = 1

/-- A turn makes an odd number even and an even one odd, -/
theorem turnedAfter_mirror (turned : Bool) (moves : List Move) :
    turnedAfter turned (.mirror :: moves) = turnedAfter (!turned) moves := by
  rw [turnedAfter, turnedAfter, List.count_cons_self, decide_eq_decide]
  cases turned with
  | false =>
    show (0 + (_ + 1)) % 2 = 1 ↔ (1 + _) % 2 = 1
    omega
  | true =>
    show (1 + (_ + 1)) % 2 = 1 ↔ (0 + _) % 2 = 1
    omega

/-- and no other move counts. -/
theorem turnedAfter_of_ne (turned : Bool) {move : Move} (h : move ≠ .mirror)
    (moves : List Move) : turnedAfter turned (move :: moves) = turnedAfter turned moves := by
  rw [turnedAfter, turnedAfter, List.count_cons_of_ne h]

/-- The moves without the turns. -/
def withoutTurns (moves : List Move) : List Move := moves.filter (· ≠ .mirror)

/-- **A run with turns is the run without them, seen from one end or the other.** -/
theorem acts_orient (q : Player n) (turned : Bool) (moves : List Move) :
    (q.orient turned).acts moves
      = (q.acts (withoutTurns moves)).orient (turnedAfter turned moves) := by
  induction moves generalizing q turned with
  | nil => cases turned <;> rfl
  | cons move moves ih =>
    by_cases hmirror : move = .mirror
    · -- the twin stands still, and is seen from the other end from now on
      subst hmirror
      have hact : (q.orient turned).act .mirror = q.orient !turned := q.mirror_orient turned
      rw [acts_cons, hact, ih, turnedAfter_mirror]
      rfl
    · -- a read or a compilation: the twin makes the same move, in its own orientation
      have hkeep : withoutTurns (move :: moves) = move :: withoutTurns moves :=
        List.filter_cons_of_pos (decide_eq_true hmirror)
      rw [acts_cons, q.act_orient turned hmirror, ih, hkeep, acts_cons, turnedAfter_of_ne _ hmirror]

/-- Without turns, moves keep the script and the orientation. -/
theorem acts_withoutTurns_sameSetup (q : Player n) (moves : List Move) :
    SameSetup (q.acts (withoutTurns moves)) q := by
  induction moves generalizing q with
  | nil => exact SameSetup.refl q
  | cons move moves ih =>
    -- without turns, the script and the flag pass through every move unchanged
    cases move with
    | read => exact (ih q.next).trans q.next_sameSetup
    | recompile =>
      have hrest := ih (q.act .recompile)
      rw [act_recompile] at hrest
      have hkeep : q.acts (withoutTurns (.recompile :: moves))
          = q.recompiled.acts (withoutTurns moves) := by
        rw [← act_recompile]
        rfl
      rw [hkeep]
      exact hrest.trans q.recompiled_sameSetup
    | mirror => exact ih q

/-- `p` shows what `q` shows, turned around or not. -/
structure SeenTurned (turned : Bool) (p q : Player n) : Prop where
  /-- A read succeeds for both or for none, and gives the same frame, from the same end or from the
      other. -/
  outcome : p.outcome = q.outcome.map fun frame => if turned then frame.reverse else frame
  /-- Compiling again has the same outcome for both. -/
  recompile : p.recompile.value.map (fun _ => ()) = q.recompile.value.map fun _ => ()
  /-- So it is with the frames that are still to be read, and with those of the script. -/
  left : p.left = q.left.map fun frame => if turned then frame.reverse else frame
  script : p.script.entries = q.script.entries.map (Entry.orient turned)
  cursor : p.cursor = q.cursor
  length : p.length = q.length
  generator : p.generator = q.generator

/-- The two orientations of a player show the same, each field by what turning does to one of the
    observations above. -/
theorem orient_seenTurned (q : Player n) (turned : Bool) :
    SeenTurned turned (q.orient turned) q := by
  constructor
  case outcome => exact q.outcome_orient turned
  case recompile => rw [value_recompile, value_recompile]; rfl
  case script =>
    rw [← Script.entries_orient]
    cases turned <;> rfl
  case cursor => cases turned <;> rfl
  case generator => cases turned <;> rfl
  case left =>
    cases turned with
    | false =>
      show Player.left q = q.left.map id
      rw [List.map_id]
    | true =>
      -- a one-shot player drops what it has read, before or after the turn
      show Player.left q.mirror = q.left.map Frame.mirror
      rw [Player.left, Player.left]
      have hlist : (q.frames.map Frame.mirror).toList = q.frames.toList.map Frame.mirror :=
        Array.toList_map
      cases hmode : q.mode with
      | loop => simp only [mirror, hmode, hlist]
      | once => simp only [mirror, hmode, hlist, List.map_drop]
  case length =>
    cases turned with
    | false => rfl
    | true => exact q.length_mirror

/-- **Turning a player changes its orientation and nothing else, at any point of a run.**  The
    player and its upright twin, which makes the same moves but the turns, are compared after any
    moves.  The player is turned exactly when the number of turns is odd, the one it may have begun
    with included; its script is always the one it began with, seen from that end, and so are the
    cycles compiled from it; turning it twice gives it back as it was. -/
theorem turning_only_turns (script : Script n) (mode : PlaybackMode) (g : Generator)
    (mirrored : Bool) (moves : List Move) :
    ∃ first twin : Player n,
      (start script mirrored mode g).value = .ok first ∧
      (start script false mode g).value = .ok twin ∧
      SeenTurned (turnedAfter mirrored moves) (first.acts moves) (twin.acts (withoutTurns moves)) ∧
      (first.acts moves).mirrored = turnedAfter mirrored moves ∧
      (first.acts moves).script.entries
        = script.entries.map (Entry.orient (turnedAfter mirrored moves)) ∧
      (first.acts moves).mirror.mirror = first.acts moves := by
  have htwin := acts_withoutTurns_sameSetup (begun script false mode g) moves
  have hrun := acts_orient (begun script false mode g) mirrored moves
  refine ⟨_, _, value_start script mirrored mode g, value_start script false mode g, ?_⟩
  rw [begun_eq_orient script mirrored, hrun]
  refine ⟨orient_seenTurned _ _, ?_, ?_, mirror_mirror _⟩
  -- whether the player is turned is told by its flag, which its upright twin never sets
  · generalize turnedAfter mirrored moves = turned
    cases turned with
    | false => exact htwin.mirrored
    | true =>
      show (!_) = true
      rw [htwin.mirrored]
      rfl
  · rw [(orient_seenTurned _ _).script, htwin.script]
    rfl

end Player

end LedAnimation
