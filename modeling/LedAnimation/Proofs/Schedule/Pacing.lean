/-
  How a scheduler keeps its pace within one run.

  A `Performance` is a scheduler ticked again and again, at moments of the caller's choice.  What
  happens to its effect, output and inbox in between is left open.  The caller is only asked to wait
  as long as it was told (`Waits`).

  The invariant is `Ready`: when tick `i` comes, at least `i` periods are scheduled, the frame that
  is pending is due, and as long as no tick was more than two periods late it is due at `i` periods
  sharp.  A tick that can tell its deadline is then `InPace`, whether it goes on from the deadline
  that was pending or from the moment it comes at, and the next tick is ready again if the caller
  has waited.
-/
import LedAnimation.Preview.Catalog
import LedAnimation.Proofs.Effect.Steps
import LedAnimation.Proofs.Schedule.Ticks
import LedAnimation.Sink.Basic

namespace LedAnimation

variable {σ τ : Type} {n : Nat}

/-- Two schedulers are at the same point of the same schedule. -/
structure Scheduler.SameSchedule (s t : Scheduler σ τ n) : Prop where
  due : s.due = t.due
  period : s.period = t.period

variable [Sink τ]

/-- A scheduler that is ticked again and again.  Between two ticks anything may happen to its
    effect, its output and its inbox, but nothing else touches its schedule. -/
structure Performance (σ τ : Type) (n : Nat) [Sink τ] where
  /-- The moment tick `i` comes at. -/
  now : Nat → Nat
  /-- The scheduler as tick `i` finds it. -/
  found : Nat → Scheduler σ τ n
  undisturbed : ∀ i, (found (i + 1)).SameSchedule ((found i).ticked (now i))

namespace Performance

/-- When the frame of tick `i` is due. -/
def pending (P : Performance σ τ n) (i : Nat) : Nat := (P.found i).due

/-- What tick `i` tells the caller. -/
def told (P : Performance σ τ n) (i : Nat) : Except ClockError Timing :=
  (P.found i).told (P.now i)

/-- After tick `i` the caller waits at least as long as it was told. -/
def Waits (P : Performance σ τ n) (i : Nat) : Prop :=
  ∀ timing, P.told i = .ok timing → P.now i + timing.sleep ≤ P.now (i + 1)

variable {P : Performance σ τ n} {D i : Nat} {timing : Timing}

/-! ## One tick -/

/-- What is true of a scheduler with period `D` when tick `i` comes. -/
structure Ready (P : Performance σ τ n) (D i : Nat) : Prop where
  period : (P.found i).period = D
  scheduled : i * D ≤ P.pending i
  due : P.pending i ≤ P.now i
  onGrid : (∀ j < i, P.now j ≤ P.pending j + 2 * D) → P.pending i = i * D

/-- Tick `i` of a scheduler with period `D` keeps the pace, and tells `timing`. -/
structure InPace (P : Performance σ τ n) (D i : Nat) (timing : Timing) : Prop where
  /-- No frame comes before its time. -/
  notEarly : i * D ≤ P.now i
  /-- The deadline it tells is the one pending for the next tick, -/
  pends : P.pending (i + 1) = timing.deadline
  /-- and grows by at least a period. -/
  grows : P.pending i + D ≤ timing.deadline
  /-- The caller is told to sleep until the deadline, if it is still to come, -/
  sleep : timing.sleep = timing.deadline - P.now i
  /-- and never for longer than a frame. -/
  sleep_le : timing.sleep ≤ D
  /-- The schedule is never left more than one frame behind. -/
  lag : P.now i ≤ timing.deadline + D
  /-- More than two periods late, it gives up what was missed. -/
  skips : P.pending i + 2 * D < P.now i → timing.deadline = P.now i + D
  /-- As long as no tick is that late, deadlines lie on the grid of whole periods. -/
  onGrid : (∀ j ≤ i, P.now j ≤ P.pending j + 2 * D) → timing.deadline = (i + 1) * D

/-- **A tick keeps the pace.**  The case split is whether it skips. -/
theorem Ready.inPace (h : Ready P D i) (htold : P.told i = .ok timing) : InPace P D i timing := by
  obtain ⟨_, hdeadline, hsleep⟩ := ((P.found i).told_eq_ok_iff (P.now i) timing).1 htold
  have hscheduled := h.scheduled
  have hdue := h.due
  have hpends : P.pending (i + 1) = timing.deadline := by
    rw [pending, (P.undisturbed i).due]
    exact Scheduler.due_ticked htold
  rw [Scheduler.resumesAt, h.period] at hdeadline
  change timing.deadline = (if P.pending i + 2 * D < P.now i then P.now i else P.pending i) + D
    at hdeadline
  have hgrid : (i + 1) * D = i * D + D := Nat.succ_mul i D
  -- more than two periods late it goes on from now, and else from the frame that was due
  by_cases hlate : P.pending i + 2 * D < P.now i
  · rw [if_pos hlate] at hdeadline
    constructor
    case pends => exact hpends
    case sleep => exact hsleep
    case onGrid =>
      intro honTime
      have := honTime i (Nat.le_refl i)
      omega
    all_goals omega
  · rw [if_neg hlate] at hdeadline
    constructor
    case pends => exact hpends
    case sleep => exact hsleep
    case onGrid =>
      intro honTime
      have hpending := h.onGrid fun j hj => honTime j (Nat.le_of_lt hj)
      omega
    all_goals omega

/-- **And the next one is ready**, if the caller has waited. -/
theorem Ready.succ (h : Ready P D i) (htold : P.told i = .ok timing) (hwait : P.Waits i) :
    Ready P D (i + 1) := by
  have hpace := h.inPace htold
  have hpends := hpace.pends
  have hgrid : (i + 1) * D = i * D + D := Nat.succ_mul i D
  constructor
  case period =>
    rw [(P.undisturbed i).period, Scheduler.period_ticked]
    exact h.period
  case scheduled =>
    have hscheduled := h.scheduled
    have hgrows := hpace.grows
    omega
  case due =>
    have hsleep := hpace.sleep
    have hnext := hwait timing htold
    omega
  case onGrid =>
    intro honTime
    rw [hpends]
    exact hpace.onGrid fun j hj => honTime j (Nat.lt_succ_of_le hj)

/-! ## A whole run -/

/-- A new scheduler is ready for its first tick, whenever that comes. -/
theorem ready_zero {effect : Effect σ n} {output : τ}
    (hnew : (P.found 0).SameSchedule (Scheduler.start effect output)) :
    Ready P (framePeriod effect.fps) 0 := by
  have hdue : P.pending 0 = 0 := hnew.due
  constructor
  case period => exact hnew.period
  case scheduled => omega
  case due => omega
  case onGrid =>
    intro _
    omega

/-- Every tick finds the scheduler ready, as long as the ready ticks before it could tell their
    deadlines and the caller has waited for them. -/
theorem ready_of_waits {effect : Effect σ n} {output : τ}
    (hnew : (P.found 0).SameSchedule (Scheduler.start effect output))
    (htell : ∀ j < i, Ready P (framePeriod effect.fps) j → ∃ timing, P.told j = .ok timing)
    (hwait : ∀ j < i, P.Waits j) : Ready P (framePeriod effect.fps) i := by
  -- by induction on the ticks; each one needs the one before it to have told its deadline
  induction i with
  | zero => exact ready_zero hnew
  | succ i ih =>
    have hready := ih (fun j hj => htell j (Nat.lt_succ_of_lt hj))
      fun j hj => hwait j (Nat.lt_succ_of_lt hj)
    obtain ⟨timing, htold⟩ := htell i (Nat.lt_succ_self i) hready
    exact hready.succ htold (hwait i (Nat.lt_succ_self i))

/-- Three periods before the end of the clock a tick can still tell its deadline. -/
theorem Ready.exists_told (h : Ready P D i) (hrange : P.now i + 3 * D < UInt64.size) :
    ∃ timing, P.told i = .ok timing := by
  obtain ⟨timing, htold, _⟩ :=
    Scheduler.exists_told h.due (Nat.le_refl _) (by rwa [h.period])
  exact ⟨timing, htold⟩

/-- **A scheduler keeps its pace.**  It is new at its first tick; up to tick `i` its caller has
    waited at least as long as it was told, and the ticks have come at least three periods before
    the end of the clock.  Then tick `i` can tell its deadline, and keeps the pace of the effect. -/
theorem new_scheduler_keeps_pace {effect : Effect σ n} {output : τ} {inbox : Option (Queue n)}
    (hnew : P.found 0 = { Scheduler.start effect output with inbox })
    (hwait : ∀ j < i, P.Waits j)
    (hrange : ∀ j ≤ i, P.now j ≤ UInt64.size - 1 - 3 * framePeriod effect.fps) :
    P.pending 0 = 0 ∧
      ∃ timing, P.told i = .ok timing ∧ InPace P (framePeriod effect.fps) i timing := by
  have hschedule : (P.found 0).SameSchedule (Scheduler.start effect output) := by
    rw [hnew]
    exact ⟨rfl, rfl⟩
  have htell : ∀ j ≤ i, Ready P (framePeriod effect.fps) j → ∃ timing, P.told j = .ok timing := by
    intro j hj hready
    have hnow := hrange j hj
    have hperiod := framePeriod_le effect.fps
    have hsize : UInt64.size = 18446744073709551616 := rfl
    exact hready.exists_told (by omega)
  have hready := ready_of_waits hschedule (fun j hj => htell j (Nat.le_of_lt hj)) hwait
  obtain ⟨timing, htold⟩ := htell i (Nat.le_refl i) hready
  exact ⟨hschedule.due, timing, htold, hready.inPace htold⟩

/-! ## Left alone -/

/-- The scheduler after `i` ticks, when nothing happens between them. -/
def leftAlone (s : Scheduler σ τ n) (now : Nat → Nat) : Nat → Scheduler σ τ n
  | 0 => s
  | i + 1 => (leftAlone s now i).ticked (now i)

/-- Ticks at the given moments, and nothing between them. -/
def undistracted (s : Scheduler σ τ n) (now : Nat → Nat) : Performance σ τ n where
  now := now
  found := leftAlone s now
  undisturbed := fun _ => ⟨rfl, rfl⟩

/-- Whoever waits for a whole period waits long enough. -/
theorem Ready.waits (h : Ready P D i) (hgap : P.now i + D ≤ P.now (i + 1)) : P.Waits i := by
  intro timing htold
  have hsleep := (h.inPace htold).sleep_le
  omega

/-- A punctual tick, one that comes at most two periods late, leaves the deadlines on the grid of
    whole periods; so the next tick may come at the end of its period. -/
theorem Ready.punctual (h : Ready P D i) (hgrid : P.pending i = i * D)
    (hrange : P.now i + 3 * D < UInt64.size) (hpunctual : P.now i ≤ (i + 2) * D)
    (hnext : max (P.now i) ((i + 1) * D) ≤ P.now (i + 1)) :
    (∃ timing, P.told i = .ok timing) ∧ P.Waits i ∧ Ready P D (i + 1) ∧
      P.pending (i + 1) = (i + 1) * D := by
  have hperiod := h.period
  have hdue : (P.found i).due = i * D := hgrid
  have hpending := h.due
  have hlater : (i + 2) * D = i * D + 2 * D := Nat.add_mul ..
  have hgrown : (i + 1) * D = i * D + D := Nat.succ_mul i D
  have htold : (P.found i).told (P.now i) = _ :=
    Scheduler.told_of_punctual (by rw [hdue, hperiod]; omega) (by rw [hdue, hperiod]; omega)
  rw [hdue, hperiod, ← hgrown] at htold
  have hwait : P.Waits i := by
    intro timing htiming
    obtain rfl := Except.ok.inj (htold.symm.trans htiming)
    dsimp only
    omega
  exact ⟨⟨_, htold⟩, hwait, h.succ htold hwait, (h.inPace htold).pends⟩

/-- Snow at 5 frames a second.  The second tick is a quarter of a period late, and the third one so
    late that the schedule goes on from it. -/
theorem stalled_snow_keeps_pace :
    let snow := Effect.started Catalog.snowFalling {} 0
    let P := undistracted (Scheduler.start snow Recorder.blank) fun i =>
      [0, 250000, 900000].getD i 0
    P.found 0 = { Scheduler.start snow Recorder.blank with inbox := none } ∧
      (∀ j < 2, P.Waits j) ∧
      (∀ j ≤ 2, P.now j ≤ UInt64.size - 1 - 3 * framePeriod 5) ∧
      P.pending 0 = 0 ∧ ∃ timing, P.told 2 = .ok timing ∧ InPace P (framePeriod 5) 2 timing := by
  intro snow P
  have hnew : P.found 0 = { Scheduler.start snow Recorder.blank with inbox := none } := rfl
  have hschedule : (P.found 0).SameSchedule (Scheduler.start snow Recorder.blank) := ⟨rfl, rfl⟩
  have hrange : ∀ j ≤ 2, P.now j ≤ UInt64.size - 1 - 3 * framePeriod 5 := by decide
  have hfirst : Ready P (framePeriod 5) 0 := ready_zero hschedule
  have hwaitFirst : P.Waits 0 := hfirst.waits (by decide)
  obtain ⟨timing, htold⟩ := hfirst.exists_told (by decide)
  have hwaitSecond : P.Waits 1 := (hfirst.succ htold hwaitFirst).waits (by decide)
  have hwait : ∀ j < 2, P.Waits j := by
    intro j hj
    match j with
    | 0 => exact hwaitFirst
    | 1 => exact hwaitSecond
  exact ⟨hnew, hwait, hrange, new_scheduler_keeps_pace hnew hwait hrange⟩

end Performance

end LedAnimation
