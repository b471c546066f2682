/-
  What a scheduler gives to its sink.

  Two things happen to a scheduler: somebody sends an intent, or it ticks.  What comes of it is told
  without a clock.

  * `Queue.deeds`     — what a history does with a bare effect: it hands it every intent when it is
    accepted, and it ticks.
  * `Effect.pictures` — what the bare effect shows meanwhile: one picture for every tick.
  * `Picture.calls`   — what a sink is asked for to show a picture: every pixel once, in order and
    at one brightness, and then one display.

  The invariant looks at the effect of a scheduler as it will be once all that waits is applied
  (`informed`).  Sending an accepted intent does to it what the intent does to the bare effect, a
  tick does to it what a tick does, and the clock does nothing to it; so it keeps in step with the
  bare effect, and every picture of that is shown (`output_of_perform`).

  Two runs of one history on two clocks keep in step with the same bare effect, and with each other:
  they may differ in the deadline that is pending, and in nothing else (`Scheduler.Alike`).
-/
import LedAnimation.Preview.Catalog
import LedAnimation.Proofs.Intents.Delivery
import LedAnimation.Proofs.Schedule.Ticks
import LedAnimation.Proofs.Sinks

namespace LedAnimation

variable {σ τ : Type} {n : Nat}

/-! ## Pictures -/

/-- A frame, and the brightness it is shown at. -/
structure Picture (n : Nat) where
  frame : Frame n
  brightness : Binary32
  deriving DecidableEq

/-- What a sink is asked for to show a picture. -/
def Picture.calls (picture : Picture n) : List Call :=
  picture.frame.toList.mapIdx (fun i color => .setPixel i color picture.brightness) ++ [.display]

/-- A strip of two pixels. -/
example (brightness : Binary32) :
    (Picture.mk #v[⟨255, 0, 0⟩, ⟨0, 0, 255⟩] brightness).calls
      = [.setPixel 0 ⟨255, 0, 0⟩ brightness, .setPixel 1 ⟨0, 0, 255⟩ brightness, .display] := rfl

/-- **To write a frame is to show a picture.** -/
theorem value_write [Sink τ] (sink : τ) (picture : Picture n) :
    (Sink.write sink picture.frame.toList picture.brightness).value
      = picture.calls.foldl Call.carryOut sink :=
  Request.carryOut_eq sink (.write picture.frame.toList picture.brightness)

/-- A recorder knows what it was asked for. -/
theorem Recorder.calls_carryOut (recorder : Recorder) (calls : List Call) :
    (calls.foldl Call.carryOut recorder).calls.toList = recorder.calls.toList ++ calls := by
  induction calls generalizing recorder with
  | nil => exact (List.append_nil _).symm
  | cons call calls ih =>
    rw [List.foldl_cons, ih]
    cases call with
    | setPixel index color brightness => simp [Call.carryOut, Sink.setPixel]
    | display => simp [Call.carryOut, Sink.display]

namespace Effect

/-- The picture a step shows, if it is a tick. -/
def picture? : Reply n × View → Option (Picture n)
  | (.frame frame, seen) => some ⟨frame, seen.brightness⟩
  | (.done _, _) => none

/-- The pictures an effect shows. -/
def pictures (e : Effect σ n) (steps : List (Step n)) : List (Picture n) :=
  (e.trace steps).filterMap picture?

/-- The picture the next tick shows. -/
def picture (e : Effect σ n) : Picture n := ⟨e.shown, e.brightness⟩

/-- A tick shows the picture of the effect as it is found, -/
theorem pictures_tick (e : Effect σ n) (steps : List (Step n)) :
    e.pictures (.tick :: steps) = e.picture :: e.ticked.pictures steps := by
  rw [pictures, trace, step_tick]
  rfl

/-- and an intent shows none, but changes those that follow. -/
theorem pictures_intent (e : Effect σ n) (intent : Intent n) (steps : List (Step n)) :
    e.pictures (.intent intent :: steps) = (e.step (.intent intent)).2.pictures steps := by
  rw [pictures, trace, step]
  rfl

end Effect

/-! ## Histories -/

/-- What happens to a scheduler, but not when. -/
inductive Happening (n : Nat) where
  /-- Somebody sends an intent. -/
  | sent (intent : Intent n)
  | tick
  deriving DecidableEq

/-- What a history does with an effect.  Of the intents the queue passes on those it has room for,
    and every tick empties it. -/
def Queue.deeds (q : Queue n) : List (Happening n) → List (Effect.Step n)
  | [] => []
  | .sent intent :: history =>
    match q.send intent with
    | .ok longer => .intent intent :: longer.deeds history
    | .error _ => q.deeds history
  | .tick :: history => .tick :: (empty q.capacity).deeds history

/-- The pictures a bare effect shows in the course of a history.  It is handed what waits in the
    inbox at first, and then every accepted intent, in order; so when it ticks, all that was
    accepted before is applied.  Without an inbox there is no room for any. -/
def Effect.picturesOf (e : Effect σ n) (inbox : Option (Queue n)) (history : List (Happening n)) :
    List (Picture n) :=
  let q := inbox.getD (.empty 0)
  (e.run (q.waiting.map .intent)).pictures (q.deeds history)

/-- Every tick shows one picture. -/
theorem length_pictures_deeds (e : Effect σ n) (q : Queue n) (history : List (Happening n)) :
    (e.pictures (q.deeds history)).length = history.count .tick := by
  induction history generalizing e q with
  | nil => rfl
  | cons happening history ih =>
    cases happening with
    | tick =>
      rw [Queue.deeds, Effect.pictures_tick, List.length_cons, ih, List.count_cons_self]
    | sent intent =>
      -- an intent that finds no room is not even handed to the effect
      rw [List.count_cons_of_ne (by simp), Queue.deeds]
      cases q.send intent with
      | ok longer =>
        dsimp only
        rw [Effect.pictures_intent, ih]
      | error back => exact ih e q

namespace Scheduler

/-- Somebody sends an intent.  Unless it is accepted, nothing happens. -/
def offer (s : Scheduler σ τ n) (intent : Intent n) : Scheduler σ τ n :=
  match s.queue.send intent with
  | .ok queue => { s with inbox := some queue }
  | .error _ => s

/-- A run of a history.  Tick `i` comes at the moment `now i`; the first one that cannot tell its
    deadline ends the run. -/
def perform [Sink τ] (now : Nat → Nat) (s : Scheduler σ τ n) :
    List (Happening n) → Except ClockError (Scheduler σ τ n)
  | [] => .ok s
  | .sent intent :: history => perform now (s.offer intent) history
  | .tick :: history =>
    match s.told (now 0) with
    | .error e => .error e
    | .ok _ => perform (fun i => now (i + 1)) (s.ticked (now 0)) history

/-- A run gets past a tick exactly if that can tell its deadline. -/
theorem perform_tick_eq_ok_iff [Sink τ] {now : Nat → Nat} {s last : Scheduler σ τ n}
    {history : List (Happening n)} :
    s.perform now (.tick :: history) = .ok last ↔
      ∃ timing, s.told (now 0) = .ok timing ∧
        (s.ticked (now 0)).perform (fun i => now (i + 1)) history = .ok last := by
  rw [perform]
  cases s.told (now 0) with
  | error e => exact iff_of_false (fun h => nomatch h) (fun h => nomatch h.choose_spec.1)
  | ok timing => exact ⟨fun h => ⟨timing, rfl, h⟩, fun h => h.choose_spec.2⟩

/-! ## In step with the bare effect -/

section Bare

/-- An accepted intent does to the effect what it does to the bare effect. -/
theorem informed_offer {s : Scheduler σ τ n} {intent : Intent n} {longer : Queue n}
    (h : s.queue.send intent = .ok longer) :
    (s.offer intent).queue = longer ∧
      (s.offer intent).informed = (s.informed.step (.intent intent)).2 ∧
      (s.offer intent).output = s.output ∧ (s.offer intent).frames = s.frames := by
  have hoffer : s.offer intent = { s with inbox := some longer } := by
    rw [offer, h]
  have hinformed : (s.offer intent).informed = (s.informed.step (.intent intent)).2 := by
    obtain ⟨_, rfl⟩ := (Queue.send_eq_ok_iff ..).1 h
    rw [hoffer, informed, informed, ← Effect.run_concat, ← List.map_singleton, ← List.map_append]
    rfl
  rw [hoffer] at hinformed ⊢
  exact ⟨rfl, hinformed, rfl, rfl⟩

/-- A full queue gives the intent back, and the scheduler is as it was. -/
theorem offer_of_refused {s : Scheduler σ τ n} {intent back : Intent n}
    (h : s.queue.send intent = .error back) : s.offer intent = s := by
  rw [offer, h]

variable [Sink τ]

/-- **A tick, whole.**  The clock has its say in the deadline only. -/
theorem ticked_eq {s : Scheduler σ τ n} {now : Nat} {timing : Timing}
    (h : s.told now = .ok timing) :
    s.ticked now
      = { output := s.informed.picture.calls.foldl Call.carryOut s.output
          effect := s.informed.ticked
          inbox := s.inbox.map fun q => .empty q.capacity
          due := timing.deadline
          period := s.period
          frames := s.frames + 1 } := by
  obtain ⟨hrange, hdeadline, _⟩ := (s.told_eq_ok_iff now timing).1 h
  rw [ticked, value_tick_of_inRange hrange, played_eq, hdeadline, ← value_write]
  rfl

/-- A tick takes all that waits out of the queue, -/
theorem queue_ticked {s : Scheduler σ τ n} {now : Nat} {timing : Timing}
    (h : s.told now = .ok timing) : (s.ticked now).queue = .empty s.queue.capacity := by
  rw [ticked_eq h, queue, queue]
  cases s.inbox <;> rfl

/-- so the effect it leaves is informed of all there is. -/
theorem informed_ticked {s : Scheduler σ τ n} {now : Nat} {timing : Timing}
    (h : s.told now = .ok timing) : (s.ticked now).informed = s.informed.ticked := by
  rw [informed, queue_ticked h, ticked_eq h]
  rfl

/-- **A run, whole.**  The sink is as the pictures of the bare effect leave it, and every tick has
    counted. -/
theorem output_of_perform {s last : Scheduler σ τ n} {now : Nat → Nat}
    {history : List (Happening n)} (h : s.perform now history = .ok last) :
    last.output = ((s.informed.pictures (s.queue.deeds history)).flatMap Picture.calls).foldl
        Call.carryOut s.output ∧
      last.frames = s.frames + history.count .tick := by
  induction history generalizing s now with
  | nil =>
    obtain rfl := Except.ok.inj h
    exact ⟨rfl, rfl⟩
  | cons happening history ih =>
    cases happening with
    | sent intent =>
      have hrest := ih h
      rw [List.count_cons_of_ne (by simp), Queue.deeds]
      cases hsend : s.queue.send intent with
      | ok longer =>
        obtain ⟨hqueue, hinformed, houtput, hframes⟩ := informed_offer hsend
        rw [hqueue, hinformed, houtput, hframes] at hrest
        dsimp only
        rw [Effect.pictures_intent]
        exact hrest
      | error back =>
        rw [offer_of_refused hsend] at hrest
        exact hrest
    | tick =>
      -- the picture of this tick is shown first, and then those of the rest
      obtain ⟨timing, htold, hrest⟩ := perform_tick_eq_ok_iff.1 h
      obtain ⟨houtput, hframes⟩ := ih hrest
      rw [queue_ticked htold, informed_ticked htold, ticked_eq htold] at houtput
      rw [frames_ticked htold] at hframes
      rw [List.count_cons_self, Queue.deeds, Effect.pictures_tick, List.flatMap_cons,
        List.foldl_append]
      exact ⟨houtput, hframes.trans (Nat.add_right_comm ..)⟩

end Bare

/-! ## Two clocks -/

/-- The two may differ in the deadline that is pending, and in nothing else. -/
def Alike (s t : Scheduler σ τ n) : Prop := ∃ due, s = { t with due }

/-- Whether there is room for an intent is not a question of time. -/
theorem Alike.offer {s t : Scheduler σ τ n} (h : s.Alike t) (intent : Intent n) :
    (s.offer intent).Alike (t.offer intent) := by
  obtain ⟨due, rfl⟩ := h
  refine ⟨due, ?_⟩
  have hqueue : queue { t with due } = t.queue := rfl
  rw [Scheduler.offer, Scheduler.offer, hqueue]
  cases t.queue.send intent <;> rfl

variable [Sink τ]

/-- Ticks at two moments may tell different deadlines, and do the same for the rest. -/
theorem Alike.ticked {s t : Scheduler σ τ n} (h : s.Alike t) {nowS nowT : Nat}
    {timingS timingT : Timing} (hs : s.told nowS = .ok timingS) (ht : t.told nowT = .ok timingT) :
    (s.ticked nowS).Alike (t.ticked nowT) := by
  obtain ⟨due, rfl⟩ := h
  refine ⟨timingS.deadline, ?_⟩
  rw [ticked_eq hs, ticked_eq ht]
  rfl

/-- **Two runs of one history** end alike, whatever the clocks say. -/
theorem Alike.perform {s t lastS lastT : Scheduler σ τ n} {nowS nowT : Nat → Nat}
    {history : List (Happening n)} (h : s.Alike t) (hs : s.perform nowS history = .ok lastS)
    (ht : t.perform nowT history = .ok lastT) : lastS.Alike lastT := by
  induction history generalizing s t nowS nowT with
  | nil =>
    obtain rfl := Except.ok.inj hs
    obtain rfl := Except.ok.inj ht
    exact h
  | cons happening history ih =>
    -- only ticks look at the clock, and they leave the same but for the deadline
    cases happening with
    | sent intent => exact ih (h.offer intent) hs ht
    | tick =>
      obtain ⟨timingS, htoldS, hrestS⟩ := perform_tick_eq_ok_iff.1 hs
      obtain ⟨timingT, htoldT, hrestT⟩ := perform_tick_eq_ok_iff.1 ht
      exact ih (h.ticked htoldS htoldT) hrestS hrestT

/-- A run comes to its end if all its ticks come, and all its deadlines can be told, within the
    range of the clock. -/
theorem exists_perform {s : Scheduler σ τ n} {now : Nat → Nat} {history : List (Happening n)}
    (latest : Nat) (hdue : s.due ≤ latest) (hnow : ∀ i < history.count .tick, now i ≤ latest)
    (hrange : latest + (history.count .tick + 2) * s.period < UInt64.size) :
    ∃ last, s.perform now history = .ok last := by
  induction history generalizing s now latest with
  | nil => exact ⟨s, rfl⟩
  | cons happening history ih =>
    cases happening with
    | sent intent =>
      rw [List.count_cons_of_ne (by simp)] at hnow hrange
      have hsame : (s.offer intent).due = s.due ∧ (s.offer intent).period = s.period := by
        rw [offer]
        cases s.queue.send intent <;> exact ⟨rfl, rfl⟩
      exact ih latest (by rwa [hsame.1]) hnow (by rwa [hsame.2])
    | tick =>
      rw [List.count_cons_self] at hnow hrange
      have hmore : (history.count .tick + 1 + 2) * s.period
          = s.period + (history.count .tick + 2) * s.period := by
        rw [Nat.add_right_comm, Nat.succ_mul, Nat.add_comm]
      have hperiods : 2 * s.period ≤ (history.count .tick + 2) * s.period :=
        Nat.mul_le_mul_right _ (Nat.le_add_left ..)
      obtain ⟨timing, htold, hdeadline⟩ :=
        exists_told hdue (hnow 0 (Nat.succ_pos _)) (by omega)
      -- what is left of the run has a period less to go, and may begin a period later
      have hdueNext : (s.ticked (now 0)).due ≤ latest + s.period := by rwa [due_ticked htold]
      have hnowNext : ∀ i < history.count .tick, now (i + 1) ≤ latest + s.period := fun i hi =>
        Nat.le_add_right_of_le (hnow (i + 1) (Nat.succ_lt_succ hi))
      have hperiod := s.period_ticked (now 0)
      obtain ⟨last, hrest⟩ := ih (latest + s.period) hdueNext hnowNext (by rw [hperiod]; omega)
      exact ⟨last, perform_tick_eq_ok_iff.2 ⟨timing, htold, hrest⟩⟩

/-! ## What is promised -/

/-- A scheduler that is new but for the queue it may listen to. -/
def fresh (effect : Effect σ n) (output : τ) (inbox : Option (Queue n)) : Scheduler σ τ n :=
  { start effect output with inbox }

/-- What there is to say of a run of a new scheduler that ended with `last`. -/
structure WholeFrames (effect : Effect σ n) (blank : τ) (inbox : Option (Queue n))
    (history : List (Happening n)) (last : Scheduler σ τ n) : Prop where
  /-- The bare effect shows one picture for every tick, -/
  onePerTick : (effect.picturesOf inbox history).length = history.count .tick
  /-- and as many frames were counted. -/
  frames : last.frames = history.count .tick
  /-- The sink has carried out the requests of these pictures, one picture after the other. -/
  output : last.output
    = ((effect.picturesOf inbox history).flatMap Picture.calls).foldl Call.carryOut blank
  /-- A sink that keeps account was asked for them, and for nothing else, whatever its clock
      says. -/
  recorded : ∀ now recorded,
    (fresh effect Recorder.blank inbox).perform now history = .ok recorded →
    recorded.output.calls.toList = (effect.picturesOf inbox history).flatMap Picture.calls
  /-- The run comes to its end on every clock that does not get to the end of its range, -/
  ends : ∀ now latest, (∀ i < history.count .tick, now i ≤ latest) →
    latest + (history.count .tick + 2) * framePeriod effect.fps < UInt64.size →
      ∃ other, (fresh effect blank inbox).perform now history = .ok other
  /-- and wherever it does, it ends the same, but for the deadline that is pending. -/
  anyClock : ∀ now other, (fresh effect blank inbox).perform now history = .ok other →
    other.Alike last ∧ other.output = last.output

/-- **Sinks see whole frames**, those of the bare effect, and the clock does not show in them. -/
theorem sinks_see_whole_frames {effect : Effect σ n} {output : τ} {inbox : Option (Queue n)}
    {history : List (Happening n)} {now : Nat → Nat} {last : Scheduler σ τ n}
    (h : (fresh effect output inbox).perform now history = .ok last) :
    WholeFrames effect output inbox history last := by
  obtain ⟨houtput, hframes⟩ := output_of_perform h
  constructor
  case onePerTick => exact length_pictures_deeds ..
  case frames => exact hframes.trans (Nat.zero_add _)
  case output => exact houtput
  case recorded =>
    -- its calls are those of the pictures, and it began with none
    intro now recorded hrecorded
    rw [(output_of_perform hrecorded).1, Recorder.calls_carryOut]
    rfl
  case ends =>
    intro now latest hnow hrange
    exact exists_perform latest (Nat.zero_le latest) hnow hrange
  case anyClock =>
    intro now other hother
    have halike : other.Alike last := Alike.perform ⟨_, rfl⟩ hother h
    refine ⟨halike, ?_⟩
    obtain ⟨due, rfl⟩ := halike
    rfl

/-- Snow at 5 frames a second, with a queue for two intents. -/
def heardSnow : Scheduler Unit Recorder Catalog.leds :=
  fresh (Effect.started Catalog.snowFalling {} 0) Recorder.blank (some (.empty 2))

/-- There is no room for the third intent, and the last one is no brightness. -/
def heardIntents : List (Happening Catalog.leds) :=
  [.sent (.brightness ⟨0x3f000000⟩), .sent (.overlay none), .sent (.underlay none), .tick,
    .sent (.brightness ⟨0x40400000⟩), .tick, .tick]

/-- A second late, it shows the pictures it shows in time. -/
theorem late_snow_shows_the_same :
    ∃ punctual late,
      heardSnow.perform (200000 * ·) heardIntents = .ok punctual ∧
        heardSnow.perform (fun i => [0, 1200000, 1200000].getD i 0) heardIntents = .ok late ∧
        late.output = punctual.output ∧
        WholeFrames (Effect.started Catalog.snowFalling {} 0) Recorder.blank (some (.empty 2))
          heardIntents late := by
  have hperiod : heardSnow.period = framePeriod 5 := rfl
  have hticks : heardIntents.count .tick = 3 := by decide
  have hrun : ∀ now : Nat → Nat, (∀ i < 3, now i ≤ 1200000) →
      ∃ last, heardSnow.perform now heardIntents = .ok last := by
    intro now hnow
    refine exists_perform 1200000 (Nat.zero_le _) (by rwa [hticks]) ?_
    rw [hticks, hperiod]
    decide
  obtain ⟨punctual, hpunctual⟩ := hrun (200000 * ·) (by decide)
  obtain ⟨late, hlate⟩ := hrun (fun i => [0, 1200000, 1200000].getD i 0) (by decide)
  have hwhole := sinks_see_whole_frames hlate
  exact ⟨punctual, late, hpunctual, hlate, (hwhole.anyClock _ _ hpunctual).2.symm, hwhole⟩

end Scheduler

end LedAnimation
