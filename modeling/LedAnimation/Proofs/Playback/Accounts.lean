/-
  What can be said of a player in every state it can get into.

  A player is made for a script, or made empty, and then read, compiled again and turned in any
  order (`Player.Reached`).  Beside it runs the `Reel` that stores what the player shows, and an
  `Account` of what was read since the script was compiled last.

  The account of a one-shot player is always settled (`Reached.settled`): what was read, and then
  what is left, is what that compilation gave.  Turns between two reads show in the frames from then
  on, so the account turns every frame back before it writes it down.  A looping player stands on
  one of its frames (`Seated`), and a player that has nothing left stays so until it is compiled
  again (`isEmpty_acts`).
-/
import LedAnimation.Preview.Catalog
import LedAnimation.Proofs.Playback.Positions
import LedAnimation.Proofs.Playback.Reel

namespace LedAnimation

variable {n : Nat}

/-- A turn is undone by looking from the other end. -/
theorem Frame.orient_not_mirror (turned : Bool) (frame : Frame n) :
    frame.mirror.orient (!turned) = frame.orient turned := by
  cases turned with
  | false => exact frame.mirror_mirror
  | true => rfl

/-- A frame seen twice from the same end is as it was, which lets an account turn back what it
    reads. -/
theorem Frame.orient_orient (turned : Bool) (frame : Frame n) :
    (frame.orient turned).orient turned = frame := by
  cases turned with
  | false => rfl
  | true => exact frame.mirror_mirror

/-- What was read since the script of a player was compiled last. -/
structure Account (n : Nat) where
  /-- The frames that compilation gave. -/
  output : List (Frame n)
  /-- Whether the player was turned an odd number of times since. -/
  turned : Bool
  /-- The frames read since, in the order of reading, turned back as often as the player was. -/
  read : List (Frame n)

namespace Account

/-- A read is written down.  One that fails leaves nothing to write. -/
def note (account : Account n) : Except PlaybackError (Frame n) → Account n
  | .ok frame => { account with read := account.read ++ [frame.orient account.turned] }
  | .error _ => account

/-- A turn is written down. -/
def turn (account : Account n) : Account n := { account with turned := !account.turned }

end Account

namespace Player

/-- The states of a player, with its account and the reel that was moved along with it. -/
inductive Reached : Account n → Player n → Reel n → Prop where
  | start {script : Script n} {mirrored : Bool} {mode : PlaybackMode} {g after : Generator}
      {output : List (Frame n)} {p : Player n} {r : Reel n} :
      (Player.start script mirrored mode g).value = .ok p →
      Reel.load script script.isDynamic mirrored mode g = .ok r →
      script.compile g = (.ok output, after) → Reached ⟨output, mirrored, []⟩ p r
  | empty (mode : PlaybackMode) : Reached ⟨[], false, []⟩ (Player.empty mode) (Reel.blank mode)
  | read {account : Account n} {p : Player n} {r : Reel n} :
      Reached account p r → Reached (account.note p.outcome) (p.act .read) (r.act .read)
  | recompile {account : Account n} {p : Player n} {r : Reel n} {after : Generator}
      {output : List (Frame n)} :
      Reached account p r → p.script.compile p.generator = (.ok output, after) →
      Reached ⟨output, false, []⟩ (p.act .recompile) (r.act .recompile)
  | mirror {account : Account n} {p : Player n} {r : Reel n} :
      Reached account p r → Reached account.turn (p.act .mirror) (r.act .mirror)

/-! ## What stays -/

/-- The mode is decided when a player is made. -/
theorem mode_act (p : Player n) (move : Move) : (p.act move).mode = p.mode := by
  cases move with
  | read => exact p.next_sameSetup.mode
  | recompile =>
    rw [act_recompile]
    rfl
  | mirror => rfl

/-- A compilation gives something, unless there is nothing to compile. -/
theorem isEmpty_recompiled (p : Player n) : p.recompiled.isEmpty = p.script.isEmpty := by
  rw [isEmpty, ← length_left, left_recompiled]
  cases hscript : p.script.isEmpty with
  | true =>
    have hcycle : p.script.cycle p.generator = [] := by
      rw [Script.cycle, Script.compile, List.isEmpty_iff.1 hscript]
      rfl
    rw [hcycle]
    rfl
  | false => exact beq_false_of_ne (Nat.ne_zero_of_lt (Script.length_cycle_pos hscript p.generator))

/-- **What is empty stays empty** until it is compiled again. -/
theorem isEmpty_acts {p : Player n} (h : p.isEmpty = true) {moves : List Move}
    (hmoves : .recompile ∉ moves) : (p.acts moves).isEmpty = true := by
  induction moves generalizing p with
  | nil => exact h
  | cons move moves ih =>
    rw [List.mem_cons, not_or] at hmoves
    refine ih ?_ hmoves.2
    cases move with
    | read =>
      show p.next.isEmpty = true
      rw [next_of_none (frames_of_isEmpty h)]
      exact h
    | recompile => exact absurd rfl hmoves.1
    | mirror => exact p.isEmpty_mirror.trans h

namespace Seated

/-- Without frames, or a script to have some from, any position will do. -/
theorem empty (mode : PlaybackMode) : (Player.empty mode : Player n).Seated :=
  ⟨fun hscript => (nomatch hscript), fun _ => Nat.zero_le _⟩

/-- A looping player stands on one of its frames, or it has none and is at the beginning. -/
theorem cursor_of_loop {p : Player n} (h : p.Seated) (hmode : p.mode = .loop) :
    (p.length = 0 ∧ p.cursor = 0 ∧ p.script.isEmpty = true) ∨ p.cursor < p.length := by
  have hposition := h.loop hmode
  rw [Player.cursor_of_loop hmode, length, hmode]
  dsimp only
  rcases Nat.eq_zero_or_pos p.frames.size with hnone | hsome
  · refine .inl ⟨hnone, by omega, ?_⟩
    cases hscript : p.script.isEmpty with
    | true => rfl
    | false =>
      have hframes := h.frames hscript
      omega
  · exact .inr (by omega)

/-- A read fails exactly where nothing is left. -/
theorem exhausted_iff {p : Player n} (h : p.Seated) :
    p.nextFrame.value = .error .exhausted ↔ p.isEmpty = true := by
  constructor
  · intro hread
    cases hleft : p.isEmpty with
    | true => rfl
    | false =>
      obtain ⟨frame, hframe⟩ := h.exists_read hleft
      rw [hframe] at hread
      exact nomatch hread
  · intro hempty
    exact value_nextFrame_of_none (frames_of_isEmpty hempty)

end Seated

/-! ## Every state -/

namespace Reached

variable {account : Account n} {p : Player n} {r : Reel n}

/-- The reel stores what the player shows. -/
theorem reel_eq (h : Reached account p r) : r = p.reel := by
  induction h with
  | start hstart hload _ =>
    rw [value_start] at hstart
    rw [load_eq_begun] at hload
    obtain rfl := Except.ok.inj hstart
    exact (Except.ok.inj hload).symm
  | empty mode => exact (reel_empty mode).symm
  | read _ ih => rw [reel_act, ih]
  | recompile _ _ ih => rw [reel_act, ih]
  | mirror _ ih => rw [reel_act, ih]

/-- **The invariant holds in every state**, by induction on the way there. -/
theorem seated (h : Reached account p r) : p.Seated := by
  induction h with
  | start hstart _ _ =>
    rw [value_start] at hstart
    obtain rfl := Except.ok.inj hstart
    exact Seated.begun ..
  | empty mode => exact Seated.empty mode
  | read _ ih => exact ih.act .read
  | recompile _ _ ih => exact ih.act .recompile
  | mirror _ ih => exact ih.act .mirror

/-- **The account of a one-shot player is settled**: what was read and what is left is what the last
    compilation gave. -/
theorem settled (h : Reached account p r) (hmode : p.mode = .once) :
    account.read ++ p.left.map (Frame.orient account.turned) = account.output := by
  induction h with
  | @start script mirrored mode g after output p r hstart _ hcompile =>
    rw [value_start] at hstart
    obtain rfl := Except.ok.inj hstart
    rw [Script.compile_eq] at hcompile
    obtain rfl := Except.ok.inj (congrArg Prod.fst hcompile)
    -- what a player begins with is one compilation, in its orientation; the account turns it back
    rw [left_of_once hmode, frames_begun, position_begun, List.drop_zero, List.map_map]
    have hback : Frame.orient mirrored ∘ Frame.orient mirrored = (id : Frame n → Frame n) :=
      funext (Frame.orient_orient mirrored)
    rw [hback, List.map_id]
    rfl
  | empty mode =>
    cases mode <;> rfl
  | @read account p r _ ih =>
    rw [mode_act] at hmode
    have hframe := frames_of_once hmode
    have hbefore := ih hmode
    show (account.note p.outcome).read ++ p.next.left.map _ = _
    cases hleft : p.left with
    | nil =>
      -- nothing is left, and nothing happens
      rw [hleft] at hframe
      rw [outcome_of_none hframe, next_of_none hframe]
      exact hbefore
    | cons frame rest =>
      -- the frame in front goes over to what was read
      have hrest : p.advanced.left = rest := by
        have htail := congrArg Reel.frames (reel_advanced_of_once hmode)
        rw [hleft] at htail
        exact htail
      rw [hleft] at hframe hbefore
      rw [outcome_of_some hframe, next_of_some hframe, hrest]
      show (account.read ++ [_]) ++ rest.map (Frame.orient account.turned) = account.output
      rw [List.append_assoc, ← hbefore]
      rfl
  | @recompile account p r after output _ hcompile _ =>
    rw [act_recompile] at hmode
    rw [Script.compile_eq] at hcompile
    obtain rfl := Except.ok.inj (congrArg Prod.fst hcompile)
    rw [act_recompile, left_of_once hmode, Frame.orient_false_eq_id, List.map_id]
    rfl
  | @mirror account p r _ ih =>
    -- the frames that are left are turned, and the account turns them back once more
    have hturned : Frame.orient (!account.turned) ∘ Frame.mirror
        = (Frame.orient account.turned : Frame n → Frame n) :=
      funext (Frame.orient_not_mirror account.turned)
    show account.read ++ p.mirror.left.map (Frame.orient !account.turned) = account.output
    rw [left_mirror, List.map_map, hturned]
    exact ih hmode

end Reached

/-! ## All together -/

/-- What holds of a player in every state, of its account, and of what is stored. -/
structure InOrder (account : Account n) (p : Player n) (r : Reel n) : Prop where
  /-- What is stored is what the player shows, -/
  shown : r = p.reel
  /-- the flag included, which is never stored again after the beginning. -/
  dynamic : r.dynamic = r.script.isDynamic ∧ p.isDynamic = p.script.isDynamic
  /-- A looping player stands on one of its frames, or has none, for want of a script. -/
  loop_cursor : p.mode = .loop →
    (p.length = 0 ∧ p.cursor = 0 ∧ p.script.isEmpty = true) ∨ p.cursor < p.length
  loop_read : p.mode = .loop → p.isEmpty = false →
    ∃ frame, p.nextFrame.value = .ok (frame, p.act .read)
  once_cursor : p.mode = .once → r.cursor = 0 ∧ p.cursor = 0
  /-- Of a one-shot player, what was read since the last compilation and what is left is what that
      compilation gave: each of its frames once, and in their order. -/
  once_settled : p.mode = .once →
    account.read ++ r.frames.map (Frame.orient account.turned) = account.output
  exhausted : p.nextFrame.value = .error .exhausted ↔ p.isEmpty = true
  /-- A read that fails changes nothing, -/
  unchanged : p.isEmpty = true → r.read = (.error .exhausted, r) ∧ p.act .read = p
  /-- so reads fail from then on, -/
  stays : p.isEmpty = true → ∀ moves, .recompile ∉ moves →
    (p.acts moves).nextFrame.value = .error .exhausted
  /-- until a compilation gives new frames, as that of any script but the empty one does. -/
  refilled : (p.act .recompile).isEmpty = p.script.isEmpty

/-- **A player is in order in every state it can get into.** -/
theorem reached_players_inOrder {account : Account n} {p : Player n} {r : Reel n}
    (h : Reached account p r) : InOrder account p r := by
  have hseated := h.seated
  have hreel := h.reel_eq
  constructor
  case shown => exact hreel
  case dynamic =>
    rw [hreel]
    exact ⟨rfl, rfl⟩
  case loop_cursor => exact hseated.cursor_of_loop
  case loop_read => exact fun _ hleft => hseated.exists_read hleft
  case once_cursor =>
    intro hmode
    rw [hreel]
    exact ⟨cursor_of_once hmode, cursor_of_once hmode⟩
  case once_settled =>
    intro hmode
    rw [hreel]
    exact h.settled hmode
  case exhausted => exact hseated.exhausted_iff
  case unchanged =>
    intro hempty
    have hnone := frames_of_isEmpty hempty
    rw [hreel, read_reel, outcome_of_none hnone, act, next_of_none hnone]
    exact ⟨rfl, rfl⟩
  case stays =>
    intro hempty moves hmoves
    exact value_nextFrame_of_none (frames_of_isEmpty (isEmpty_acts hempty hmoves))
  case refilled =>
    rw [act_recompile]
    exact p.isEmpty_recompiled

/-- A raindrop that falls once, seen from the other end of the strip: it is read, turned, read
    again, compiled again in the middle and read once more. -/
theorem raindrop_inOrder :
    let p := (begun Catalog.raindropFalling true .once ⟨7⟩).acts
      [.read, .mirror, .read, .recompile, .read]
    ∃ account r, Reached account p r ∧ p.mode = .once ∧ InOrder account p r := by
  intro p
  have hbegun := (Reached.start (value_start Catalog.raindropFalling true .once ⟨7⟩)
    (load_eq_begun Catalog.raindropFalling true .once ⟨7⟩)
    (Catalog.raindropFalling.compile_eq ⟨7⟩)).read.mirror.read
  have hreached := (hbegun.recompile (Script.compile_eq _ _)).read
  have hmode : p.mode = .once := by
    simp only [p, acts, List.foldl_cons, List.foldl_nil, mode_act, mode_begun]
  exact ⟨_, _, hreached, hmode, reached_players_inOrder hreached⟩

end Player

end LedAnimation
