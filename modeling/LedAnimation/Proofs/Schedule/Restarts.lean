/-
  Stopping a scheduler and playing it again.

  Every run counts time from its own start, but the deadline that is pending is kept from one run to
  the next.

  * `Plays`      — one run: ticks that come no earlier than they were told to.
  * `PlaysAgain` — several runs of one scheduler, each of them on a clock that begins at 0.

  Within a run no tick but the first can be told to sleep for more than a period, as its caller has
  waited for the deadline that is pending (`Plays.sleep_le`).  The first tick of a run comes when it
  comes: if that is before the deadline the runs before have left, it is told to sleep until a
  period after that deadline, so for about as long as they have played (`only_restarts_oversleep`).
-/
import LedAnimation.Proofs.Schedule.Pacing

namespace LedAnimation

variable {σ τ : Type} {n : Nat}

/-- A tick as its caller sees it: when it came, and what it told. -/
structure Beat where
  now : Nat
  timing : Timing
  deriving DecidableEq

namespace Scheduler

/-- The deadline that is pending after some ticks: the one the last of them told, or else the one
    that was pending before. -/
def pendingAfter (due : Nat) : List Beat → Nat
  | [] => due
  | beat :: beats => pendingAfter beat.timing.deadline beats

/-- Ticks may be looked at in groups, such as the runs they belong to. -/
theorem pendingAfter_append (due : Nat) (earlier later : List Beat) :
    pendingAfter due (earlier ++ later) = pendingAfter (pendingAfter due earlier) later := by
  induction earlier generalizing due with
  | nil => rfl
  | cons beat earlier ih => exact ih beat.timing.deadline

/-- A scheduler with period `D` whose next frame is due at `due`. -/
structure DueAt (s : Scheduler σ τ n) (D due : Nat) : Prop where
  due : s.due = due
  period : s.period = D

/-- What happens between two ticks does not touch the schedule. -/
theorem SameSchedule.dueAt {s next : Scheduler σ τ n} {D due : Nat} (between : next.SameSchedule s)
    (h : s.DueAt D due) : next.DueAt D due :=
  ⟨between.due.trans h.due, between.period.trans h.period⟩

variable [Sink τ] {s last : Scheduler σ τ n} {D due earliest now : Nat} {timing : Timing}
  {beat : Beat} {beats : List Beat} {runs : List (List Beat)}

/-- One run, of which the first tick comes at `earliest` or later, and every other one when the tick
    before it told, or later. -/
inductive Plays : Scheduler σ τ n → Nat → List Beat → Scheduler σ τ n → Prop
  | stop {s : Scheduler σ τ n} {earliest : Nat} : Plays s earliest [] s
  | tick {s next last : Scheduler σ τ n} {earliest now : Nat} {timing : Timing} {beats : List Beat}
      (late : earliest ≤ now) (told : s.told now = .ok timing)
      (between : next.SameSchedule (s.ticked now))
      (rest : Plays next (now + timing.sleep) beats last) :
      Plays s earliest (⟨now, timing⟩ :: beats) last

/-- Several runs, one after the other, each with a clock of its own. -/
inductive PlaysAgain : Scheduler σ τ n → List (List Beat) → Scheduler σ τ n → Prop
  | never {s : Scheduler σ τ n} : PlaysAgain s [] s
  | run {s stopped next last : Scheduler σ τ n} {beats : List Beat} {runs : List (List Beat)}
      (plays : Plays s 0 beats stopped) (between : next.SameSchedule stopped)
      (rest : PlaysAgain next runs last) : PlaysAgain s (beats :: runs) last

/-! ## One tick -/

/-- A tick is told to sleep for more than a period if it comes before its frame is due, and only
    then. -/
theorem sleep_le_period_iff (h : s.told now = .ok timing) :
    timing.sleep ≤ s.period ↔ s.due ≤ now := by
  obtain ⟨_, hdeadline, hsleep⟩ := (s.told_eq_ok_iff now timing).1 h
  rw [hsleep, hdeadline, resumesAt]
  by_cases hlate : s.due + 2 * s.period < now
  · rw [if_pos hlate]
    omega
  · rw [if_neg hlate]
    omega

/-- Then it sleeps until a period after that. -/
theorem sleep_of_early (h : s.told now = .ok timing) (hearly : now < s.due) :
    timing.sleep = s.due + s.period - now := by
  obtain ⟨_, hdeadline, hsleep⟩ := (s.told_eq_ok_iff now timing).1 h
  have honTime : ¬ s.due + 2 * s.period < now := by omega
  rw [hsleep, hdeadline, resumesAt, if_neg honTime]

/-- Whoever sleeps as long as it is told wakes when the next frame is due. -/
theorem deadline_le_add_sleep (h : s.told now = .ok timing) :
    timing.deadline ≤ now + timing.sleep := by
  have hsleep := ((s.told_eq_ok_iff now timing).1 h).2.2
  omega

/-- Every tick puts the deadline off by at least a period. -/
theorem due_add_period_le (h : s.told now = .ok timing) : s.due + s.period ≤ timing.deadline := by
  obtain ⟨_, hdeadline, _⟩ := (s.told_eq_ok_iff now timing).1 h
  have hresumes : s.due ≤ s.resumesAt now := by
    rw [resumesAt]
    split
    · omega
    · exact Nat.le_refl _
  rw [hdeadline]
  exact Nat.add_le_add_right hresumes _

/-! ## Several ticks -/

/-- After a tick that frame is due which it has told, -/
theorem DueAt.ticked (h : s.DueAt D due) (told : s.told now = .ok timing) :
    (s.ticked now).DueAt D timing.deadline :=
  ⟨due_ticked told, (period_ticked s now).trans h.period⟩

/-- and after a punctual one the frame of the next period. -/
theorem DueAt.told_of_punctual (h : s.DueAt D due) (now : Nat) (hrange : due + 2 * D < UInt64.size)
    (hpunctual : now ≤ due + 2 * D) :
    s.told now = .ok ⟨due + D, due + D - now⟩ ∧ (s.ticked now).DueAt D (due + D) := by
  obtain ⟨rfl, rfl⟩ := h
  have htold := Scheduler.told_of_punctual hrange hpunctual
  exact ⟨htold, DueAt.ticked ⟨rfl, rfl⟩ htold⟩

/-- A run leaves the deadline pending that its last tick has told. -/
theorem Plays.dueAt (h : s.Plays earliest beats last) (hs : s.DueAt D due) :
    last.DueAt D (pendingAfter due beats) := by
  induction h generalizing due with
  | stop => exact hs
  | tick late told between rest ih => exact ih (between.dueAt (hs.ticked told))

/-- What is pending after a run has grown by a period with every tick. -/
theorem Plays.add_length_mul_le (h : s.Plays earliest beats last) (hs : s.DueAt D due) :
    due + beats.length * D ≤ pendingAfter due beats := by
  induction h generalizing due with
  | stop =>
    rw [List.length_nil, Nat.zero_mul]
    exact Nat.le_refl due
  | @tick s next last earliest now timing beats late told between rest ih =>
    -- this tick adds a period, and the ticks after it one each
    have hgrows := due_add_period_le told
    rw [hs.due, hs.period] at hgrows
    calc due + (beats.length + 1) * D
        = due + D + beats.length * D := by rw [Nat.succ_mul]; omega
      _ ≤ timing.deadline + beats.length * D := Nat.add_le_add_right hgrows _
      _ ≤ pendingAfter timing.deadline beats := ih (between.dueAt (hs.ticked told))

/-- **Whoever starts in time stays in time**: if a run cannot begin before the frame that is pending
    is due, none of its ticks is told to sleep for more than a period. -/
theorem Plays.sleep_le (h : s.Plays earliest beats last) (hs : s.DueAt D due)
    (hstart : due ≤ earliest) : ∀ beat ∈ beats, beat.timing.sleep ≤ D := by
  induction h generalizing due with
  | stop =>
    intro beat hbeat
    exact nomatch hbeat
  | @tick s next last earliest now timing beats late told between rest ih =>
    intro beat hbeat
    rcases List.mem_cons.1 hbeat with rfl | hbeat
    · have hdue : s.due ≤ now := by
        rw [hs.due]
        exact Nat.le_trans hstart late
      rw [← hs.period]
      exact (sleep_le_period_iff told).2 hdue
    · exact ih (between.dueAt (hs.ticked told)) (deadline_le_add_sleep told) beat hbeat

/-! ## Several runs -/

/-- A scheduler that is stopped and played again goes on with the deadline it has, -/
theorem PlaysAgain.dueAt (h : s.PlaysAgain runs last) (hs : s.DueAt D due) :
    last.DueAt D (pendingAfter due runs.flatten) := by
  induction h generalizing due with
  | never => exact hs
  | run plays between rest ih =>
    rw [List.flatten_cons, pendingAfter_append]
    exact ih (between.dueAt (plays.dueAt hs))

/-- and so the periods of all runs add up, though each run counts its time from 0. -/
theorem PlaysAgain.add_length_mul_le (h : s.PlaysAgain runs last) (hs : s.DueAt D due) :
    due + runs.flatten.length * D ≤ pendingAfter due runs.flatten := by
  induction h generalizing due with
  | never =>
    rw [List.flatten_nil, List.length_nil, Nat.zero_mul]
    exact Nat.le_refl due
  | run plays between rest ih =>
    have hrun := plays.add_length_mul_le hs
    have hrest := ih (between.dueAt (plays.dueAt hs))
    rw [List.flatten_cons, List.length_append, Nat.add_mul, pendingAfter_append]
    omega

/-- The runs before a run bring the scheduler to where it starts. -/
theorem PlaysAgain.split {earlier later : List (List Beat)}
    (h : s.PlaysAgain (earlier ++ beats :: later) last) :
    ∃ start stopped, s.PlaysAgain earlier start ∧ Plays start 0 beats stopped := by
  induction earlier generalizing s with
  | nil =>
    cases h with
    | run plays between rest => exact ⟨s, _, .never, plays⟩
  | cons first earlier ih =>
    cases h with
    | run plays between rest =>
      obtain ⟨start, stopped, hbefore, hrun⟩ := ih rest
      exact ⟨start, stopped, .run plays between hbefore, hrun⟩

/-! ## The loop that plays -/

/-- One tick of the loop, which asks for a stop before it and after it. -/
theorem value_play (stopped : τ → Bool) (s : Scheduler σ τ n) (earliest late : Nat)
    (oversleep : List Nat) :
    (s.play stopped earliest (late :: oversleep)).value
      = if stopped s.output then (.ok (), s)
        else
          let next := s.ticked (earliest + late)
          match s.told (earliest + late) with
          | .error e => (.error e, next)
          | .ok timing =>
            if stopped next.output then (.ok (), next)
            else (next.play stopped (earliest + late + timing.sleep) oversleep).value := by
  rw [play, told, ticked]
  by_cases hstopped : stopped s.output = true
  · rw [if_pos hstopped, if_pos hstopped]
    rfl
  -- the loop was not asked to stop, so it ticks, and goes on from what the tick has left
  · rw [if_neg hstopped, if_neg hstopped, Logged.value_bind]
    dsimp only
    obtain ⟨outcome, next⟩ := (s.tick (earliest + late)).value
    cases outcome with
    | error e => rfl
    | ok timing =>
      dsimp only
      cases stopped next.output <;> rfl

/-- What `play` does until it is asked to stop is a run, with a tick for every frame it writes. -/
theorem plays_of_play {stopped : τ → Bool} {oversleep : List Nat}
    (h : (s.play stopped earliest oversleep).value = (.ok (), last)) :
    ∃ beats, s.Plays earliest beats last ∧ last.frames = s.frames + beats.length := by
  induction oversleep generalizing s earliest with
  | nil =>
    obtain rfl : s = last := congrArg Prod.snd h
    exact ⟨[], .stop, rfl⟩
  | cons late oversleep ih =>
    rw [value_play] at h
    by_cases hstopped : stopped s.output = true
    · rw [if_pos hstopped] at h
      obtain rfl : s = last := congrArg Prod.snd h
      exact ⟨[], .stop, rfl⟩
    · rw [if_neg hstopped] at h
      cases htold : s.told (earliest + late) with
      | error e =>
        rw [htold] at h
        exact nomatch h
      | ok timing =>
        rw [htold] at h
        dsimp only at h
        have hframes := frames_ticked htold
        by_cases hasked : stopped (s.ticked (earliest + late)).output = true
        · rw [if_pos hasked] at h
          obtain rfl : s.ticked (earliest + late) = last := congrArg Prod.snd h
          exact ⟨_, .tick (Nat.le_add_right ..) htold ⟨rfl, rfl⟩ .stop, hframes⟩
        · rw [if_neg hasked] at h
          obtain ⟨beats, hrest, hcount⟩ := ih h
          refine ⟨_, .tick (Nat.le_add_right ..) htold ⟨rfl, rfl⟩ hrest, ?_⟩
          rw [hcount, hframes, List.length_cons]
          omega

/-- The frame around the loop only adds reports. -/
theorem value_run (stopped : τ → Bool) (s : Scheduler σ τ n) (oversleep : List Nat) :
    (s.run stopped oversleep).value = (s.play stopped 0 oversleep).value := by
  rw [run, Logged.value_bind, Logged.value_bind]
  obtain ⟨outcome, last⟩ := (s.play stopped 0 oversleep).value
  cases outcome <;> rfl

/-! ## Snow that is stopped and played again -/

/-- Snow at 5 frames a second. -/
def snow : Scheduler Unit Recorder Catalog.leds :=
  start (Effect.started Catalog.snowFalling {} 0) Recorder.blank

/-- It is stopped after three ticks, -/
def firstRun : List Beat :=
  [⟨0, ⟨200000, 200000⟩⟩, ⟨200000, ⟨400000, 200000⟩⟩, ⟨400000, ⟨600000, 200000⟩⟩]

/-- and played again for two more. -/
def secondRun : List Beat := [⟨0, ⟨800000, 800000⟩⟩, ⟨800000, ⟨1000000, 200000⟩⟩]

/-- The second run follows the first: its first tick finds the deadline that the first run
    has left. -/
theorem snow_plays_again : ∃ last, snow.PlaysAgain [firstRun, secondRun] last := by
  have hnew : snow.DueAt 200000 0 := ⟨rfl, rfl⟩
  obtain ⟨htold0, hdue1⟩ := hnew.told_of_punctual 0 (by decide) (by decide)
  obtain ⟨htold1, hdue2⟩ := hdue1.told_of_punctual 200000 (by decide) (by decide)
  obtain ⟨htold2, hdue3⟩ := hdue2.told_of_punctual 400000 (by decide) (by decide)
  obtain ⟨htold3, hdue4⟩ := hdue3.told_of_punctual 0 (by decide) (by decide)
  obtain ⟨htold4, _⟩ := hdue4.told_of_punctual 800000 (by decide) (by decide)
  have hsecond : Plays _ 0 secondRun _ :=
    .tick (by decide) htold3 ⟨rfl, rfl⟩ (.tick (by decide) htold4 ⟨rfl, rfl⟩ .stop)
  have hfirst : Plays snow 0 firstRun _ :=
    .tick (by decide) htold0 ⟨rfl, rfl⟩ (.tick (by decide) htold1 ⟨rfl, rfl⟩
      (.tick (by decide) htold2 ⟨rfl, rfl⟩ .stop))
  exact ⟨_, .run hfirst ⟨rfl, rfl⟩ (.run hsecond ⟨rfl, rfl⟩ .never)⟩

/-- Stopped by nothing but the end of the input, snow is played for one frame. -/
theorem snow_runs :
    (snow.run (fun _ => false) [0]).value = (.ok (), snow.ticked 0) := by
  have hnew : snow.DueAt 200000 0 := ⟨rfl, rfl⟩
  obtain ⟨htold, _⟩ := hnew.told_of_punctual 0 (by decide) (by decide)
  rw [value_run, value_play, htold]
  rfl

/-! ## What a run is told -/

/-- The ticks of a run, `beat` being the first of them, are told to sleep as this says, when the
    deadline `pending` is left from before. -/
structure Sleeps (D pending : Nat) (beat : Beat) (beats : List Beat) : Prop where
  /-- No tick but the first sleeps for more than a period. -/
  others : ∀ other ∈ beats, other.timing.sleep ≤ D
  /-- Nor does the first one, just if it does not come before that deadline. -/
  first : beat.timing.sleep ≤ D ↔ pending ≤ beat.now
  /-- Coming before it, it sleeps until a period after it. -/
  early : beat.now < pending → beat.timing.sleep = pending + D - beat.now

/-- The first tick meets the deadline of the runs before, and every other one that of a tick before
    it, for which its caller has waited. -/
theorem Plays.sleeps (h : s.Plays earliest (beat :: beats) last) (hs : s.DueAt D due) :
    Sleeps D due beat beats := by
  cases h with
  | @tick _ next _ _ now timing _ late told between rest =>
    have hdue := hs.due
    have hperiod := hs.period
    subst hdue hperiod
    have hnext := between.dueAt (DueAt.ticked ⟨rfl, rfl⟩ told)
    exact ⟨rest.sleep_le hnext (deadline_le_add_sleep told), sleep_le_period_iff told,
      sleep_of_early told⟩

/-- **Only a restart oversleeps.**  What a scheduler does from a start to a stop is a run in the
    sense of `Plays`, with a tick for every frame.  And when a new scheduler is played again and
    again, no tick of a run but its first is told to sleep for more than a period.  The first one is
    told so exactly if it comes before the deadline the runs before have left, and that is at least
    as many periods as they have had ticks. -/
theorem only_restarts_oversleep (effect : Effect σ n) (output : τ) (inbox : Option (Queue n)) :
    (∀ (s last : Scheduler σ τ n) (stopped : τ → Bool) (oversleep : List Nat),
        (s.run stopped oversleep).value = (.ok (), last) →
          ∃ beats, s.Plays 0 beats last ∧ last.frames = s.frames + beats.length) ∧
      ∀ (earlier later : List (List Beat)) (beat : Beat) (beats : List Beat)
        (last : Scheduler σ τ n),
        PlaysAgain { start effect output with inbox } (earlier ++ (beat :: beats) :: later) last →
          Sleeps (framePeriod effect.fps) (pendingAfter 0 earlier.flatten) beat beats ∧
            earlier.flatten.length * framePeriod effect.fps ≤ pendingAfter 0 earlier.flatten := by
  constructor
  · intro s last stopped oversleep hrun
    rw [value_run] at hrun
    exact plays_of_play hrun
  -- the runs before bring a new scheduler to a pending deadline, and this run starts with it
  · intro earlier later beat beats last hplayed
    obtain ⟨begun, stopped, hbefore, hrun⟩ := hplayed.split
    have hnew : DueAt { start effect output with inbox } (framePeriod effect.fps) 0 := ⟨rfl, rfl⟩
    have hgrown := hbefore.add_length_mul_le hnew
    rw [Nat.zero_add] at hgrown
    exact ⟨hrun.sleeps (hbefore.dueAt hnew), hgrown⟩

/-- The second run of snow begins three periods before its frame is due. -/
theorem replayed_snow_sleeps :
    (snow.run (fun _ => false) [0]).value = (.ok (), snow.ticked 0) ∧
      (∃ beats, snow.Plays 0 beats (snow.ticked 0) ∧
        (snow.ticked 0).frames = snow.frames + beats.length) ∧
      ∃ last, snow.PlaysAgain ([firstRun] ++ secondRun :: []) last ∧
        Sleeps (framePeriod 5) 600000 ⟨0, ⟨800000, 800000⟩⟩ [⟨800000, ⟨1000000, 200000⟩⟩] ∧
        3 * framePeriod 5 ≤ 600000 := by
  obtain ⟨last, hplayed⟩ := snow_plays_again
  have hrestarts :=
    only_restarts_oversleep (Effect.started Catalog.snowFalling {} 0) Recorder.blank none
  exact ⟨snow_runs, hrestarts.1 _ _ _ _ snow_runs, last, hplayed,
    hrestarts.2 [firstRun] [] _ _ last hplayed⟩

/-- So it is not true that no tick is told to sleep for more than a period. -/
theorem replayed_snow_oversleeps :
    ∃ last, snow.PlaysAgain [firstRun, secondRun] last ∧
      ¬ ∀ beats ∈ [firstRun, secondRun], ∀ beat ∈ beats, beat.timing.sleep ≤ framePeriod 5 := by
  obtain ⟨last, hplayed⟩ := snow_plays_again
  exact ⟨last, hplayed, by decide⟩

end Scheduler

end LedAnimation
