/-
  Intents on their way from their senders to the effect.

  Senders act when they like, also while a drain is under way.  A drain is not one act but many: it
  takes an intent, applies it, takes the next one, and so on until it finds the queue empty.

  * `Exchange`     — a queue, the effect at its end, how far a drain has come, and the history of
    what has happened.
  * `Exchange.act` — one atomic move.  Any list of moves is an interleaving; a move that is not open
    to the drain at that moment (going on when none is under way, say) is not made.

  The invariant is `Sound`: what was accepted is what was settled, then what is in hand, then what
  still waits, in this order.  Every move keeps it (`Sound.act`), so it holds after every
  interleaving, and all that is promised to senders and to the caller of a drain is read off it
  (`Delivers`).  A drain that nobody interrupts does what `Queue.drain` does
  (`Exchange.run_proceed`).
-/
import LedAnimation.Proofs.Effect.Steps

namespace LedAnimation

variable {σ : Type} {n : Nat}

/-! ## What a queue does -/

namespace Queue

/-- An intent is accepted while there is room, and goes behind the others. -/
theorem send_eq_ok_iff (q next : Queue n) (intent : Intent n) :
    q.send intent = .ok next ↔
      q.waiting.length < q.capacity ∧ next = { q with waiting := q.waiting ++ [intent] } := by
  rw [send]
  by_cases hroom : q.waiting.length < q.capacity
  · rw [if_pos hroom, Except.ok.injEq]
    exact ⟨fun h => ⟨hroom, h.symm⟩, fun h => h.2.symm⟩
  · rw [if_neg hroom]
    exact iff_of_false (fun h => nomatch h) (fun h => hroom h.1)

/-- Nothing is received from a queue exactly if nothing waits in it. -/
theorem receive?_eq_none_iff (q : Queue n) : q.receive? = none ↔ q.waiting = [] := by
  rw [receive?]
  cases q.waiting with
  | nil => exact iff_of_true rfl rfl
  | cons first rest => exact iff_of_false (fun h => nomatch h) (fun h => nomatch h)

/-- What is received is the oldest intent, and the queue is left with the others. -/
theorem receive?_eq_some_iff (q next : Queue n) (intent : Intent n) :
    q.receive? = some (intent, next) ↔
      q.waiting = intent :: next.waiting ∧ q.capacity = next.capacity := by
  rw [receive?]
  cases q.waiting with
  | nil => exact iff_of_false (fun h => nomatch h) (fun h => nomatch h.1)
  | cons first rest =>
    obtain ⟨capacity, waiting⟩ := next
    constructor
    · intro h
      cases h
      exact ⟨rfl, rfl⟩
    · rintro ⟨hcons, rfl⟩
      cases hcons
      rfl

end Queue

/-! ## The exchange -/

/-- How far a drain has come. -/
inductive Drain (n : Nat) where
  /-- None is under way. -/
  | resting
  /-- The next intent is to be taken.  So many of this drain have been applied. -/
  | taking (applied : Nat)
  /-- An intent was taken, and is now to be applied. -/
  | applying (applied : Nat) (intent : Intent n)

/-- The intent that is neither waiting nor settled. -/
@[simp] def Drain.inHand : Drain n → List (Intent n)
  | .applying _ intent => [intent]
  | _ => []

/-- What has happened. -/
inductive Note (n : Nat) where
  | accepted (intent : Intent n)
  | refused (intent : Intent n)
  /-- A drain was asked for. -/
  | called
  /-- An intent was taken from the queue and handed to the effect, -/
  | handed (intent : Intent n)
  /-- which carried it out -/
  | applied (intent : Intent n)
  /-- or rejected it. -/
  | rejected (intent : Intent n) (fault : EffectError)
  /-- The drain came to its end, and counted so many intents. -/
  | returned (applied : Nat)
  /-- Something else was done with the effect, between two drains. -/
  | stepped (step : Effect.Step n)

namespace Note

/-- The intent a sender got rid of. -/
@[simp] def accepted? : Note n → Option (Intent n)
  | .accepted intent => some intent
  | _ => none

/-- The intent the effect was handed. -/
@[simp] def handed? : Note n → Option (Intent n)
  | .handed intent => some intent
  | _ => none

/-- The intent the effect is done with. -/
@[simp] def settled? : Note n → Option (Intent n)
  | .applied intent => some intent
  | .rejected intent _ => some intent
  | _ => none

/-- What was done with the effect.  A rejected intent does not count. -/
@[simp] def deed? : Note n → Option (Effect.Step n)
  | .applied intent => some (.intent intent)
  | .stepped step => some step
  | _ => none

/-- An intent was applied. -/
def isApplied : Note n → Bool
  | .applied _ => true
  | _ => false

/-- One more note adds to a reading of a history what it gives itself. -/
@[simp] theorem filterMap_singleton {α : Type} (read : Note n → Option α) (note : Note n) :
    [note].filterMap read = (read note).toList := by
  rw [List.filterMap_cons]
  cases read note <;> rfl

end Note

/-- What can happen next. -/
inductive Move (n : Nat) where
  /-- A sender, whichever it is, sends an intent. -/
  | send (intent : Intent n)
  /-- A drain is asked for. -/
  | call
  /-- The drain goes on. -/
  | proceed
  /-- Something else is done with the effect. -/
  | step (step : Effect.Step n)

/-- Senders, a queue, and the effect the queue is drained into. -/
structure Exchange (σ : Type) (n : Nat) where
  queue : Queue n
  effect : Effect σ n
  drain : Drain n
  history : List (Note n)

namespace Exchange

/-- An exchange before anything has happened. -/
def opened (capacity : Nat) (effect : Effect σ n) : Exchange σ n :=
  { queue := .empty capacity, effect, drain := .resting, history := [] }

/-- One atomic move. -/
def act (x : Exchange σ n) : Move n → Exchange σ n
  | .send intent =>
    match x.queue.send intent with
    | .ok queue => { x with queue, history := x.history ++ [.accepted intent] }
    | .error back => { x with history := x.history ++ [.refused back] }
  | .call =>
    match x.drain with
    | .resting => { x with drain := .taking 0, history := x.history ++ [.called] }
    | _ => x
  | .proceed =>
    match x.drain with
    | .resting => x
    | .taking applied =>
      match x.queue.receive? with
      | none => { x with drain := .resting, history := x.history ++ [.returned applied] }
      | some (intent, queue) =>
        { x with
          queue, drain := .applying applied intent, history := x.history ++ [.handed intent] }
    | .applying applied intent =>
      match (x.effect.apply intent).value with
      | (.ok (), effect) =>
        { x with
          effect, drain := .taking (applied + 1), history := x.history ++ [.applied intent] }
      | (.error fault, effect) =>
        { x with
          effect, drain := .taking applied, history := x.history ++ [.rejected intent fault] }
  | .step step =>
    match x.drain with
    | .resting =>
      { x with effect := (x.effect.step step).2, history := x.history ++ [.stepped step] }
    | _ => x

/-- An interleaving of moves. -/
def run (x : Exchange σ n) (moves : List (Move n)) : Exchange σ n := moves.foldl act x

/-! ## The invariant -/

/-- A drain is under way, and `applied` of its intents were applied, as the history tells. -/
def Counts (history : List (Note n)) (applied : Nat) : Prop :=
  ∃ earlier during, history = earlier ++ .called :: during ∧ .called ∉ during ∧
    during.countP Note.isApplied = applied

/-- A drain that was just asked for has applied nothing, -/
theorem counts_called (history : List (Note n)) : Counts (history ++ [.called]) 0 :=
  ⟨history, [], rfl, List.not_mem_nil, rfl⟩

/-- and each note of an applied intent adds one.  Only a new call would begin another count. -/
theorem Counts.concat {history : List (Note n)} {applied : Nat} (h : Counts history applied)
    {note : Note n} (hnote : note ≠ .called) :
    Counts (history ++ [note]) (applied + if note.isApplied then 1 else 0) := by
  obtain ⟨earlier, during, rfl, hduring, rfl⟩ := h
  refine ⟨earlier, during ++ [note], by simp, ?_, ?_⟩
  · simpa [hduring] using hnote.symm
  · simp [List.countP_append, List.countP_cons]

/-- How far a drain has come agrees with the history. -/
def Agrees (history : List (Note n)) : Drain n → Prop
  | .resting => True
  | .taking applied => Counts history applied
  | .applying applied _ => Counts history applied

/-- While a drain is under way, what others do does not change its count. -/
theorem Agrees.concat {history : List (Note n)} {drain : Drain n} (h : Agrees history drain)
    {note : Note n} (hnote : note ≠ .called) (hkept : note.isApplied = false) :
    Agrees (history ++ [note]) drain := by
  cases drain with
  | resting => trivial
  | taking applied => simpa [Agrees, hkept] using Counts.concat h hnote
  | applying applied intent => simpa [Agrees, hkept] using Counts.concat h hnote

/-- What is true after every move, of a queue of this size and an effect that was `e` at first. -/
structure Sound (size : Nat) (e : Effect σ n) (x : Exchange σ n) : Prop where
  capacity : x.queue.capacity = size
  bounded : x.queue.waiting.length ≤ size
  settled : x.history.filterMap Note.settled? ++ x.drain.inHand = x.history.filterMap Note.handed?
  waiting : x.history.filterMap Note.handed? ++ x.queue.waiting = x.history.filterMap Note.accepted?
  effect : x.effect = e.run (x.history.filterMap Note.deed?)
  agrees : Agrees x.history x.drain

/-- Before anything has happened there is nothing to keep in order. -/
theorem sound_opened (size : Nat) (e : Effect σ n) : Sound size e (opened size e) :=
  ⟨rfl, Nat.zero_le _, rfl, rfl, rfl, trivial⟩

/-- **Every move keeps it.** -/
theorem Sound.act {size : Nat} {e : Effect σ n} {x : Exchange σ n} (h : Sound size e x)
    (move : Move n) : Sound size e (x.act move) := by
  have ⟨hcapacity, hbounded, hsettled, hwaiting, heffect, hagrees⟩ := h
  -- one case for each thing a move can do, and one for each move that is not made
  fun_cases Exchange.act x move with
  | case1 intent queue hsend =>
    -- a sender is rid of an intent: it waits behind the others
    obtain ⟨hroom, rfl⟩ := (Queue.send_eq_ok_iff ..).1 hsend
    constructor
    case capacity => exact hcapacity
    case bounded =>
      rw [List.length_append, List.length_singleton, ← hcapacity]
      exact hroom
    case settled => simpa using hsettled
    case waiting => simp [← hwaiting]
    case effect => simpa using heffect
    case agrees => exact hagrees.concat (by simp) rfl
  | case2 intent back hsend =>
    exact ⟨hcapacity, hbounded, by simpa using hsettled, by simpa using hwaiting,
      by simpa using heffect, hagrees.concat (by simp) rfl⟩
  | case3 hdrain =>
    rw [hdrain] at hsettled
    exact ⟨hcapacity, hbounded, by simpa using hsettled, by simpa using hwaiting,
      by simpa using heffect, counts_called x.history⟩
  | case4 hdrain => exact h
  | case5 hdrain => exact h
  | case6 applied hdrain hreceive =>
    -- nothing waits any more, so the drain comes to its end
    rw [hdrain] at hsettled
    exact ⟨hcapacity, hbounded, by simpa using hsettled, by simpa using hwaiting,
      by simpa using heffect, trivial⟩
  | case7 applied hdrain intent queue hreceive =>
    -- the oldest intent that waits is taken in hand
    obtain ⟨holdest, hsame⟩ := (Queue.receive?_eq_some_iff ..).1 hreceive
    rw [hdrain] at hsettled hagrees
    rw [holdest] at hbounded hwaiting
    constructor
    case capacity => exact hsame.symm.trans hcapacity
    case bounded => exact Nat.le_of_succ_le hbounded
    case settled => simpa using hsettled
    case waiting => simpa using hwaiting
    case effect => simpa using heffect
    case agrees => exact hagrees.concat (by simp) rfl
  | case8 applied intent hdrain effect happly =>
    -- an intent that was carried out is settled, is a deed, and counts
    rw [hdrain] at hsettled hagrees
    constructor
    case capacity => exact hcapacity
    case bounded => exact hbounded
    case settled => simpa using hsettled
    case waiting => simpa using hwaiting
    case effect => simp [Effect.run_concat, ← heffect, Effect.step_of_apply happly]
    case agrees => exact Counts.concat hagrees (by simp)
  | case9 applied intent hdrain fault effect happly =>
    -- a rejected intent is settled as well, but it is no deed, as the effect is what it was
    obtain ⟨rfl, -⟩ := Effect.apply_eq_error_iff.1 happly
    rw [hdrain] at hsettled hagrees
    exact ⟨hcapacity, hbounded, by simpa using hsettled, by simpa using hwaiting,
      by simpa using heffect, hagrees.concat (by simp) rfl⟩
  | case10 step hdrain =>
    constructor
    case capacity => exact hcapacity
    case bounded => exact hbounded
    case settled => simpa using hsettled
    case waiting => simpa using hwaiting
    case effect => simp [Effect.run_concat, ← heffect]
    case agrees => exact hagrees.concat (by simp) rfl
  | case11 step hdrain => exact h

/-- **Every interleaving keeps it.** -/
theorem Sound.run {size : Nat} {e : Effect σ n} {x : Exchange σ n} (h : Sound size e x)
    (moves : List (Move n)) : Sound size e (x.run moves) := by
  induction moves generalizing x with
  | nil => exact h
  | cons move moves ih => exact ih (h.act move)

/-! ## One move at a time -/

section Moves

variable {x : Exchange σ n} {applied : Nat} {intent : Intent n} {next : Effect σ n}
  {fault : EffectError}

/-- A sender is given its intent back while the queue is full, -/
theorem act_send_of_full (h : x.queue.waiting.length = x.queue.capacity) :
    x.act (.send intent) = { x with history := x.history ++ [.refused intent] } := by
  rw [act, Queue.send, if_neg (by omega)]

/-- and is rid of it while there is room. -/
theorem act_send_of_room (h : x.queue.waiting.length < x.queue.capacity) :
    x.act (.send intent)
      = { x with
          queue := { x.queue with waiting := x.queue.waiting ++ [intent] }
          history := x.history ++ [.accepted intent] } := by
  rw [act, Queue.send, if_pos h]

/-- An intent in hand that the effect carries out is counted, -/
theorem act_apply (h : x.drain = .applying applied intent)
    (happly : (x.effect.apply intent).value = (.ok (), next)) :
    x.act .proceed
      = { x with
          effect := next
          drain := .taking (applied + 1)
          history := x.history ++ [.applied intent] } := by
  rw [act, h]
  dsimp only
  rw [happly]

/-- and one that it rejects is not, the effect being what it was. -/
theorem act_reject (h : x.drain = .applying applied intent)
    (happly : (x.effect.apply intent).value = (.error fault, next)) :
    x.act .proceed
      = { x with drain := .taking applied, history := x.history ++ [.rejected intent fault] } := by
  obtain ⟨rfl, -⟩ := Effect.apply_eq_error_iff.1 happly
  rw [act, h]
  dsimp only
  rw [happly]

/-- **A drain returns when nothing waits**, and tells what it has counted. -/
theorem act_returns (h : (x.act .proceed).history = x.history ++ [.returned applied]) :
    x.drain = .taking applied ∧ x.queue.waiting = [] := by
  -- the note of a return is written only where a drain looks for the next intent and finds none
  cases hdrain : x.drain with
  | resting =>
    rw [act, hdrain] at h
    simp at h
  | applying count intent =>
    rcases happly : (x.effect.apply intent).value with ⟨fault | ⟨⟩, next⟩
    · rw [act_reject hdrain happly] at h
      simp at h
    · rw [act_apply hdrain happly] at h
      simp at h
  | taking count =>
    rw [act, hdrain] at h
    dsimp only at h
    cases hreceive : x.queue.receive? with
    | some taken =>
      rw [hreceive] at h
      simp at h
    | none =>
      rw [hreceive] at h
      have hcount : count = applied := by simpa using h
      exact ⟨congrArg Drain.taking hcount, (Queue.receive?_eq_none_iff _).1 hreceive⟩

end Moves

/-! ## A drain that nobody interrupts -/

/-- A drain that nobody interrupts takes and applies every intent that waits, in two moves each, and
    returns with the next move. -/
theorem run_proceed (capacity : Nat) (waiting : List (Intent n)) (e : Effect σ n) (applied : Nat)
    (history : List (Note n)) :
    ∃ during,
      run { queue := ⟨capacity, waiting⟩, effect := e, drain := .taking applied, history }
          (List.replicate (2 * waiting.length + 1) .proceed)
        = { queue := .empty capacity
            effect := (e.applyAll waiting).value.2
            drain := .resting
            history := history ++ during ++
              [.returned (applied + (e.applyAll waiting).value.1)] } := by
  induction waiting generalizing e applied history with
  | nil =>
    refine ⟨[], ?_⟩
    rw [List.append_nil]
    rfl
  | cons intent rest ih =>
    let start : Exchange σ n :=
      { queue := ⟨capacity, intent :: rest⟩, effect := e, drain := .taking applied, history }
    have htwo : start.run (List.replicate (2 * (rest.length + 1) + 1) .proceed)
        = ((start.act .proceed).act .proceed).run (List.replicate (2 * rest.length + 1) .proceed) :=
      rfl
    rw [List.length_cons, htwo, Effect.value_applyAll_cons]
    rcases happly : (e.apply intent).value with ⟨fault | ⟨⟩, next⟩
    -- both moves for a rejected intent, and then those for the rest
    · obtain ⟨rfl, -⟩ := Effect.apply_eq_error_iff.1 happly
      have hrejected : (start.act .proceed).act .proceed
          = { queue := ⟨capacity, rest⟩
              effect := next
              drain := .taking applied
              history := history ++ [.handed intent] ++ [.rejected intent fault] } :=
        act_reject rfl happly
      obtain ⟨during, hrest⟩ :=
        ih next applied (history ++ [.handed intent] ++ [.rejected intent fault])
      refine ⟨[.handed intent, .rejected intent fault] ++ during, ?_⟩
      rw [hrejected, hrest]
      simp
    -- both moves for one that is carried out
    · have happlied : (start.act .proceed).act .proceed
          = { queue := ⟨capacity, rest⟩
              effect := next
              drain := .taking (applied + 1)
              history := history ++ [.handed intent] ++ [.applied intent] } :=
        act_apply rfl happly
      obtain ⟨during, hrest⟩ :=
        ih next (applied + 1) (history ++ [.handed intent] ++ [.applied intent])
      refine ⟨[.handed intent, .applied intent] ++ during, ?_⟩
      rw [happlied, hrest]
      simp [Nat.add_assoc, Nat.add_comm 1]

/-! ## What is promised -/

/-- What senders and the caller of a drain may rely on, at any moment. -/
structure Delivers (size : Nat) (e : Effect σ n) (x : Exchange σ n) : Prop where
  /-- The queue never holds more intents than it has room for. -/
  bounded : x.queue.waiting.length ≤ size
  /-- If it is full, a sender gets its intent back and the queue stays as it is. -/
  refuses : x.queue.waiting.length = size → ∀ intent,
    x.act (.send intent) = { x with history := x.history ++ [.refused intent] }
  /-- If it is not, the intent is accepted, and waits behind the others. -/
  accepts : x.queue.waiting.length ≠ size → ∀ intent,
    x.act (.send intent)
      = { x with
          queue := { x.queue with waiting := x.queue.waiting ++ [intent] }
          history := x.history ++ [.accepted intent] }
  /-- The intents that were handed to the effect, and then those that wait, are the accepted ones in
      the order of their acceptance. -/
  inOrder : x.history.filterMap Note.handed? ++ x.queue.waiting = x.history.filterMap Note.accepted?
  /-- The effect is done with all it was handed, but for the one it may be busy with. -/
  settled : x.history.filterMap Note.settled? ++ x.drain.inHand = x.history.filterMap Note.handed?
  /-- It is what those it carried out have made of it; rejected ones leave no trace, -/
  effect : x.effect = e.run (x.history.filterMap Note.deed?)
  /-- are levels of brightness out of range, and do not stop the drain. -/
  rejects : ∀ applied intent fault after, x.drain = .applying applied intent →
    (x.effect.apply intent).value = (.error fault, after) →
      x.act .proceed
          = { x with drain := .taking applied, history := x.history ++ [.rejected intent fault] } ∧
        ∃ level, intent = .brightness level ∧ brightnessFault? level ≠ none
  /-- A drain returns only when nothing waits, and tells how many intents were applied since it was
      called. -/
  returns : ∀ applied, (x.act .proceed).history = x.history ++ [.returned applied] →
    x.queue.waiting = [] ∧ Counts x.history applied
  /-- It does return if nobody interrupts it, having done what `Queue.drain` does at once. -/
  drains : x.drain = .resting →
    ∃ during,
      x.run (.call :: List.replicate (2 * x.queue.waiting.length + 1) .proceed)
        = { queue := (x.queue.drain x.effect).value.2.1
            effect := (x.queue.drain x.effect).value.2.2
            drain := .resting
            history := x.history ++ during ++ [.returned (x.queue.drain x.effect).value.1] }

/-- **Intents are delivered.**  Whoever sends what and when, and however the drains are cut up: no
    intent is lost, given twice or overtaken. -/
theorem intents_are_delivered (size : Nat) (e : Effect σ n) (moves : List (Move n)) :
    Delivers size e ((opened size e).run moves) := by
  have hsound := (sound_opened size e).run moves
  generalize (opened size e).run moves = x at hsound
  constructor
  case bounded => exact hsound.bounded
  case refuses =>
    intro hfull intent
    exact act_send_of_full (hfull.trans hsound.capacity.symm)
  case accepts =>
    intro hroom intent
    apply act_send_of_room
    rw [hsound.capacity]
    exact Nat.lt_of_le_of_ne hsound.bounded hroom
  case inOrder => exact hsound.waiting
  case settled => exact hsound.settled
  case effect => exact hsound.effect
  case rejects =>
    intro applied intent fault after hdrain happly
    obtain ⟨-, level, reason, hlevel, hreason, -⟩ := Effect.apply_eq_error_iff.1 happly
    refine ⟨act_reject hdrain happly, level, hlevel, ?_⟩
    rw [hreason]
    exact Option.some_ne_none reason
  case returns =>
    intro applied hreturned
    obtain ⟨hdrain, hnothing⟩ := act_returns hreturned
    have hcounts := hsound.agrees
    rw [hdrain] at hcounts
    exact ⟨hnothing, hcounts⟩
  case drains =>
    intro hdrain
    obtain ⟨⟨capacity, waiting⟩, effect, drain, history⟩ := x
    obtain rfl : drain = .resting := hdrain
    obtain ⟨during, hrun⟩ := run_proceed capacity waiting effect 0 (history ++ [.called])
    refine ⟨.called :: during, hrun.trans ?_⟩
    simp [Queue.drain]

/-- An intent that finds no room is sent again when the drain has taken one, and is still part of
    that drain.  A brightness of 3 is rejected. -/
example (e : Effect σ n) :
    ((opened 1 e).run [.send (.brightness ⟨0x40400000⟩), .send (.underlay none), .call, .proceed,
        .send (.underlay none), .proceed, .proceed, .proceed, .proceed]).history
      = [.accepted (.brightness ⟨0x40400000⟩), .refused (.underlay none), .called,
          .handed (.brightness ⟨0x40400000⟩), .accepted (.underlay none),
          .rejected (.brightness ⟨0x40400000⟩) (.config (.invalidBrightness ⟨0x40400000⟩)),
          .handed (.underlay none), .applied (.underlay none), .returned 1] := by cbv

end Exchange

end LedAnimation
