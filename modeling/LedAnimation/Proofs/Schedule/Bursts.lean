/-
  A backlog is skipped, not replayed.

  A caller that was kept from ticking may catch up for a moment: the ticks it missed are told to
  sleep for nothing.  But after every tick the schedule is at most one frame behind
  (`InPace.lag`), from there on the deadlines grow by a period with every tick, and no tick comes
  before the frame that is pending.  So `k` ticks after tick `i` at least `k - 2` periods have gone
  by (`Steady.elapsed`), whatever happened before tick `i`, and a window of time can hold no more
  ticks than that allows.
-/
import LedAnimation.Proofs.Schedule.Pacing
import Mathlib.Algebra.BigOperators.Group.Finset.Basic
import Mathlib.Data.Finset.Max
import Mathlib.Order.Interval.Finset.Nat

namespace LedAnimation

variable {σ τ : Type} {n : Nat} [Sink τ]

namespace Performance

variable {P : Performance σ τ n} {D count i j : Nat}

/-- The ticks, among the first `count`, that come in the `width` microseconds from `opening` on,
    both ends included. -/
def within (P : Performance σ τ n) (count opening width : Nat) : Finset Nat :=
  (Finset.range count).filter fun i => opening ≤ P.now i ∧ P.now i ≤ opening + width

/-- How many frames tick `i` writes. -/
def written (P : Performance σ τ n) (i : Nat) : Nat :=
  ((P.found i).ticked (P.now i)).frames - (P.found i).frames

/-- A tick that can tell its deadline has written its frame. -/
theorem written_of_told {timing : Timing} (h : P.told i = .ok timing) : P.written i = 1 := by
  rw [written, Scheduler.frames_ticked h]
  exact Nat.add_sub_cancel_left ..

/-! ## What goes by between two ticks -/

/-- The first `count` ticks all find the scheduler ready, and can tell their deadlines. -/
structure Steady (P : Performance σ τ n) (D count : Nat) : Prop where
  ready : ∀ i < count, Ready P D i
  told : ∀ i < count, ∃ timing, P.told i = .ok timing

/-- Of such ticks the pace is known, one by one. -/
theorem Steady.inPace (h : Steady P D count) (hi : i < count) : ∃ timing, InPace P D i timing := by
  obtain ⟨timing, htold⟩ := h.told i hi
  exact ⟨timing, (h.ready i hi).inPace htold⟩

/-- Every tick moves the schedule on by at least a period. -/
theorem Steady.pending_add_le (h : Steady P D count) {k : Nat} (hk : i + k < count) :
    P.pending i + k * D ≤ P.pending (i + k) := by
  induction k with
  | zero =>
    rw [Nat.zero_mul]
    exact Nat.le_refl _
  | succ k ih =>
    obtain ⟨timing, hpace⟩ := h.inPace (i := i + k) (by omega)
    have hbefore := ih (by omega)
    have hgrows := hpace.grows
    have hpends : P.pending (i + (k + 1)) = timing.deadline := hpace.pends
    have hperiods : (k + 1) * D = k * D + D := Nat.succ_mul k D
    omega

/-- **Between two ticks** all periods go by but two: the one the schedule may be behind after the
    earlier tick, and the one that ends with the later tick. -/
theorem Steady.elapsed (h : Steady P D count) {k : Nat} (hk : i + 1 + k < count) :
    P.now i + k * D ≤ P.now (i + 1 + k) + D := by
  -- the earlier tick leaves the schedule at most a period behind, and the later one comes when due
  obtain ⟨timing, hpace⟩ := h.inPace (i := i) (by omega)
  have hlag : P.now i ≤ P.pending (i + 1) + D := by
    rw [hpace.pends]
    exact hpace.lag
  have hgrown := h.pending_add_le hk
  have hdue := (h.ready (i + 1 + k) hk).due
  omega

/-! ## Windows of time -/

/-- Two ticks in one window are not many periods apart. -/
theorem Steady.distance_le (h : Steady P D count) (hD : 0 < D) {opening width : Nat}
    (hi : i ∈ P.within count opening width) (hj : j ∈ P.within count opening width) :
    j ≤ i + (width / D + 2) := by
  simp only [within, Finset.mem_filter, Finset.mem_range] at hi hj
  obtain ⟨_, hopened, _⟩ := hi
  obtain ⟨hcount, _, hclosed⟩ := hj
  by_contra hfar
  -- then one period more than the window is wide would have gone by between the two
  obtain ⟨k, rfl⟩ : ∃ k, j = i + 1 + (k + (width / D + 2)) :=
    ⟨j - (i + 1) - (width / D + 2), by omega⟩
  have helapsed := h.elapsed hcount
  have hsplit : (k + (width / D + 2)) * D = k * D + (D * (width / D) + 2 * D) := by
    rw [Nat.add_mul, Nat.add_mul, Nat.mul_comm (width / D)]
  have hwide : width < D * (width / D) + D := Nat.lt_mul_div_succ width hD
  omega

/-- **No window holds more ticks** than the periods that fit into it, and three. -/
theorem Steady.card_within_le (h : Steady P D count) (hD : 0 < D) (opening width : Nat) :
    (P.within count opening width).card ≤ width / D + 3 := by
  rcases (P.within count opening width).eq_empty_or_nonempty with hnone | hsome
  · rw [hnone, Finset.card_empty]
    exact Nat.zero_le _
  · -- all of them lie between the first one and the last one it allows
    let first := (P.within count opening width).min' hsome
    have hspread : P.within count opening width ⊆ Finset.Icc first (first + (width / D + 2)) := by
      intro i hi
      rw [Finset.mem_Icc]
      exact ⟨Finset.min'_le _ i hi, h.distance_le hD (Finset.min'_mem _ hsome) hi⟩
    calc (P.within count opening width).card
        ≤ (Finset.Icc first (first + (width / D + 2))).card := Finset.card_le_card hspread
      _ = first + (width / D + 3) - first := Nat.card_Icc ..
      _ = width / D + 3 := Nat.add_sub_cancel_left ..

/-- In a window as many frames are written as there are ticks, one by each. -/
theorem Steady.written_within (h : Steady P D count) (opening width : Nat) :
    ∑ i ∈ P.within count opening width, P.written i = (P.within count opening width).card := by
  rw [Finset.card_eq_sum_ones]
  apply Finset.sum_congr rfl
  intro i hi
  obtain ⟨timing, htold⟩ := h.told i (Finset.mem_range.1 (Finset.mem_filter.1 hi).1)
  exact written_of_told htold

/-- A new scheduler is steady as long as its caller waits. -/
theorem steady_of_waits {effect : Effect σ n} {output : τ} {inbox : Option (Queue n)}
    (hnew : P.found 0 = { Scheduler.start effect output with inbox })
    (htold : ∀ i < count, ∃ timing, P.told i = .ok timing)
    (hwait : ∀ i, i + 1 < count → P.Waits i) : Steady P (framePeriod effect.fps) count := by
  have hschedule : (P.found 0).SameSchedule (Scheduler.start effect output) := by
    rw [hnew]
    exact ⟨rfl, rfl⟩
  constructor
  case told => exact htold
  case ready =>
    intro i hi
    exact ready_of_waits hschedule (fun j hj _ => htold j (by omega))
      fun j hj => hwait j (by omega)

/-- **The backlog is skipped.**  A new scheduler is ticked `count` times, all of them within the
    range of the clock, by a caller that waits at least as long as it was told.  However long it was
    kept from ticking, no window of time holds more than three ticks beyond the periods that fit
    into it, and no more than three frames are written at one and the same moment. -/
theorem backlog_is_skipped {effect : Effect σ n} {output : τ} {inbox : Option (Queue n)}
    (hperiod : 0 < framePeriod effect.fps)
    (hnew : P.found 0 = { Scheduler.start effect output with inbox })
    (htold : ∀ i < count, ∃ timing, P.told i = .ok timing)
    -- the caller has waited before each of the ticks, so each of them finds the scheduler ready
    (hwait : ∀ i, i + 1 < count → P.Waits i) :
    (∀ opening width,
        (P.within count opening width).card ≤ width / framePeriod effect.fps + 3) ∧
      ∀ moment, ∑ i ∈ P.within count moment 0, P.written i ≤ 3 := by
  have hsteady := steady_of_waits hnew htold hwait
  have hwindow := hsteady.card_within_le hperiod
  refine ⟨hwindow, fun moment => ?_⟩
  have hmoment := hwindow moment 0
  rw [Nat.zero_div] at hmoment
  rw [hsteady.written_within]
  exact hmoment

/-- Snow at 5 frames a second, kept from its second tick until that is exactly two periods late. -/
def lateSnow : Performance Unit Recorder Catalog.leds :=
  undistracted (Scheduler.start (Effect.started Catalog.snowFalling {} 0) Recorder.blank) fun i =>
    [0, 600000, 600000, 600000].getD i 0

/-- It writes three frames at once, which is as many as there can be. -/
theorem lateSnow_writes_three_at_once :
    let snow := Effect.started Catalog.snowFalling {} 0
    0 < framePeriod 5 ∧
      lateSnow.found 0 = { Scheduler.start snow Recorder.blank with inbox := none } ∧
      (∀ i < 4, ∃ timing, lateSnow.told i = .ok timing) ∧
      (∀ i, i + 1 < 4 → lateSnow.Waits i) ∧
      (lateSnow.within 4 600000 0).card = 3 ∧
      (∀ opening width, (lateSnow.within 4 opening width).card ≤ width / framePeriod 5 + 3) ∧
      ∀ moment, ∑ i ∈ lateSnow.within 4 moment 0, lateSnow.written i ≤ 3 := by
  intro snow
  have hperiod : 0 < framePeriod 5 := by decide
  have hnew : lateSnow.found 0 = { Scheduler.start snow Recorder.blank with inbox := none } := rfl
  have hschedule : (lateSnow.found 0).SameSchedule (Scheduler.start snow Recorder.blank) :=
    ⟨rfl, rfl⟩
  have hready0 : Ready lateSnow (framePeriod 5) 0 := ready_zero hschedule
  obtain ⟨htold0, hwait0, hready1, hgrid1⟩ :=
    hready0.punctual rfl (by decide) (by decide) (by decide)
  obtain ⟨htold1, hwait1, hready2, hgrid2⟩ :=
    hready1.punctual hgrid1 (by decide) (by decide) (by decide)
  obtain ⟨htold2, hwait2, hready3, hgrid3⟩ :=
    hready2.punctual hgrid2 (by decide) (by decide) (by decide)
  have htold : ∀ i < 4, ∃ timing, lateSnow.told i = .ok timing := by
    intro i hi
    match i with
    | 0 => exact htold0
    | 1 => exact htold1
    | 2 => exact htold2
    | 3 => exact hready3.exists_told (by decide)
  have hwait : ∀ i, i + 1 < 4 → lateSnow.Waits i := by
    intro i hi
    match i with
    | 0 => exact hwait0
    | 1 => exact hwait1
    | 2 => exact hwait2
  exact ⟨hperiod, hnew, htold, hwait, by decide, backlog_is_skipped hperiod hnew htold hwait⟩

end Performance

end LedAnimation
