/-
  A scheduler one tick at a time.

  A tick does two things that do not look at each other.  It moves the schedule: from the moment the
  frame was due, or from `now` if that is more than two periods later (`resumesAt`), by one period.
  And it plays a frame: it applies what waits in the inbox (`informed`), composes and writes
  (`played_eq`).  `value_tick` puts the two together, with the two additions that may leave the
  range of the clock.

  * `told`, `ticked` — what a tick tells its caller, and the scheduler it leaves behind.
  * `told_eq_ok_iff` — when a tick can tell the next deadline, and which.
-/
import LedAnimation.Proofs.Effect.Steps
import LedAnimation.Scheduler

namespace LedAnimation

/-- A frame is shown for at most one second. -/
theorem framePeriod_le (fps : Nat) : framePeriod fps ≤ 1000000 := Nat.div_le_self ..

namespace Scheduler

variable {σ τ : Type} {n : Nat}

/-- The moment the schedule goes on from: the one the frame was due at, or `now` if the frame is
    more than two periods late. -/
def resumesAt (s : Scheduler σ τ n) (now : Nat) : Nat :=
  if s.due + 2 * s.period < now then now else s.due

/-- The clock can tell the end of the tolerated delay, and the deadline after it. -/
def InRange (s : Scheduler σ τ n) (now : Nat) : Prop :=
  s.due + 2 * s.period < UInt64.size ∧ s.resumesAt now + s.period < UInt64.size

/-- The queue a scheduler listens to.  One that listens to none has no room for intents. -/
def queue (s : Scheduler σ τ n) : Queue n := s.inbox.getD (.empty 0)

/-- The effect of a scheduler, once all that waits is applied to it. -/
def informed (s : Scheduler σ τ n) : Effect σ n := s.effect.run (s.queue.waiting.map .intent)

/-- Reading the inbox informs the effect, and empties the queue. -/
theorem value_readInbox (s : Scheduler σ τ n) :
    s.readInbox.value
      = { s with inbox := s.inbox.map fun q => .empty q.capacity, effect := s.informed } := by
  obtain ⟨output, effect, inbox, due, period, frames⟩ := s
  cases inbox with
  | none => rfl
  | some queue =>
    have hdrained := effect.effect_applyAll queue.waiting
    rw [readInbox]
    dsimp only
    rw [Logged.value_bind, Queue.drain]
    dsimp only [Logged.value_bind, Logged.value_pure]
    rw [hdrained]
    rfl

variable [Sink τ]

/-- The scheduler once the frame of a tick is written, before it moves on to the next deadline. -/
def played (s : Scheduler σ τ n) (now : Nat) : Scheduler σ τ n :=
  ({ s with due := s.resumesAt now }.readInbox.value).emit.value

/-- **The frame of a tick** is the one the informed effect shows. -/
theorem played_eq (s : Scheduler σ τ n) (now : Nat) :
    s.played now
      = { output := (Sink.write s.output s.informed.shown.toList s.informed.brightness).value
          effect := s.informed.ticked
          inbox := s.inbox.map fun q => .empty q.capacity
          due := s.resumesAt now
          period := s.period
          frames := s.frames + 1 } := by
  rw [played, value_readInbox, emit, Logged.value_bind, Effect.value_tick]
  rfl

/-- Playing a frame leaves the deadline at the moment the schedule goes on from; the tick adds the
    period afterwards. -/
theorem due_played (s : Scheduler σ τ n) (now : Nat) : (s.played now).due = s.resumesAt now := by
  rw [played_eq]

/-- It does not change the rate, so the period that is added is that of the scheduler before it, -/
theorem period_played (s : Scheduler σ τ n) (now : Nat) : (s.played now).period = s.period := by
  rw [played_eq]

/-- and it counts the one frame it has written. -/
theorem frames_played (s : Scheduler σ τ n) (now : Nat) :
    (s.played now).frames = s.frames + 1 := by
  rw [played_eq]

/-- **One tick.** -/
theorem value_tick (s : Scheduler σ τ n) (now : Nat) :
    (s.tick now).value
      = match later s.due (2 * s.period) with
        | .error e => (.error e, s)
        | .ok _ =>
          match later (s.resumesAt now) s.period with
          | .error e => (.error e, s.played now)
          | .ok deadline =>
            (.ok { deadline, sleep := deadline - now }, { s.played now with due := deadline }) := by
  rw [tick]
  -- the two sums that may leave the range of the clock are made before and after the frame is
  -- played
  by_cases hlatest : s.due + 2 * s.period < UInt64.size
  · rw [later, if_pos hlatest]
    dsimp only
    have honTime : (if s.due + 2 * s.period < now then { s with due := now } else s)
        = { s with due := s.resumesAt now } := by
      rw [resumesAt]
      split <;> rfl
    rw [honTime, Logged.value_bind, Logged.value_bind]
    have hplayed : ({ s with due := s.resumesAt now }.readInbox.value).emit.value = s.played now :=
      rfl
    rw [hplayed, due_played, period_played]
    cases later (s.resumesAt now) s.period <;> rfl
  · rw [later, if_neg hlatest]
    rfl

/-- What a tick tells its caller. -/
def told (s : Scheduler σ τ n) (now : Nat) : Except ClockError Timing := (s.tick now).value.1

/-- The scheduler a tick leaves behind. -/
def ticked (s : Scheduler σ τ n) (now : Nat) : Scheduler σ τ n := (s.tick now).value.2

/-- A tick in range goes through: it plays its frame and puts the deadline a period further. -/
theorem value_tick_of_inRange {s : Scheduler σ τ n} {now : Nat} (h : s.InRange now) :
    (s.tick now).value
      = (.ok { deadline := s.resumesAt now + s.period, sleep := s.resumesAt now + s.period - now },
          { s.played now with due := s.resumesAt now + s.period }) := by
  rw [value_tick, later, if_pos h.1]
  dsimp only
  rw [later, if_pos h.2]

/-- Out of range it is an error, whether or not the frame was played before that was found. -/
theorem told_of_not_inRange {s : Scheduler σ τ n} {now : Nat} (h : ¬ s.InRange now) :
    s.told now = .error .overflow := by
  rw [told, value_tick, later]
  by_cases hlatest : s.due + 2 * s.period < UInt64.size
  · have hnext : ¬ s.resumesAt now + s.period < UInt64.size := fun hnext => h ⟨hlatest, hnext⟩
    rw [if_pos hlatest]
    dsimp only
    rw [later, if_neg hnext]
  · rw [if_neg hlatest]

/-- **What a tick tells.**  The next deadline is one period after the moment the schedule goes on
    from. -/
theorem told_eq_ok_iff (s : Scheduler σ τ n) (now : Nat) (timing : Timing) :
    s.told now = .ok timing ↔ s.InRange now ∧
      timing.deadline = s.resumesAt now + s.period ∧ timing.sleep = timing.deadline - now := by
  by_cases hrange : s.InRange now
  · rw [told, value_tick_of_inRange hrange, Except.ok.injEq]
    constructor
    · rintro rfl
      exact ⟨hrange, rfl, rfl⟩
    · rintro ⟨_, hdeadline, hsleep⟩
      cases timing
      dsimp only at hdeadline hsleep
      rw [hsleep, hdeadline]
  · rw [told_of_not_inRange hrange]
    exact iff_of_false (fun h => nomatch h) (fun h => hrange h.1)

/-- A tick at most two periods late is told to sleep until a period after the frame was due. -/
theorem told_of_punctual {s : Scheduler σ τ n} {now : Nat}
    (hrange : s.due + 2 * s.period < UInt64.size) (hpunctual : now ≤ s.due + 2 * s.period) :
    s.told now = .ok { deadline := s.due + s.period, sleep := s.due + s.period - now } := by
  have hresumes : s.resumesAt now = s.due := if_neg (Nat.not_lt.2 hpunctual)
  rw [told_eq_ok_iff, InRange, hresumes]
  exact ⟨⟨hrange, by omega⟩, rfl, rfl⟩

/-- A tick can tell its deadline if neither it nor the frame it plays comes in the last three
    periods of the clock. -/
theorem exists_told {s : Scheduler σ τ n} {now latest : Nat} (hdue : s.due ≤ latest)
    (hnow : now ≤ latest) (hrange : latest + 3 * s.period < UInt64.size) :
    ∃ timing, s.told now = .ok timing ∧ timing.deadline ≤ latest + s.period := by
  have hresumes : s.resumesAt now ≤ latest := by
    rw [resumesAt]
    split
    · exact hnow
    · exact hdue
  have hinRange : s.InRange now := by
    rw [InRange]
    omega
  exact ⟨_, congrArg Prod.fst (value_tick_of_inRange hinRange), Nat.add_le_add_right hresumes _⟩

/-- The deadline a tick tells is when the next frame is due. -/
theorem due_ticked {s : Scheduler σ τ n} {now : Nat} {timing : Timing}
    (h : s.told now = .ok timing) : (s.ticked now).due = timing.deadline := by
  obtain ⟨hrange, hdeadline, _⟩ := (s.told_eq_ok_iff now timing).1 h
  rw [ticked, value_tick_of_inRange hrange, hdeadline]

/-- A tick that tells a deadline has written one frame. -/
theorem frames_ticked {s : Scheduler σ τ n} {now : Nat} {timing : Timing}
    (h : s.told now = .ok timing) : (s.ticked now).frames = s.frames + 1 := by
  obtain ⟨hrange, _, _⟩ := (s.told_eq_ok_iff now timing).1 h
  rw [ticked, value_tick_of_inRange hrange]
  exact s.frames_played now

/-- No tick changes the rate. -/
theorem period_ticked (s : Scheduler σ τ n) (now : Nat) : (s.ticked now).period = s.period := by
  rw [ticked, value_tick]
  cases later s.due (2 * s.period) with
  | error e => rfl
  | ok latest =>
    dsimp only
    cases later (s.resumesAt now) s.period with
    | error e => exact s.period_played now
    | ok deadline => exact s.period_played now

end Scheduler

end LedAnimation
