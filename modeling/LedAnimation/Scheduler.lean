/-
  Playing an effect at a fixed rate.

  Time is counted in microseconds from the start of a run, in 64-bit words; an addition that leaves
  their range is an error.  A scheduler knows when its next frame is `due`.

  * `tick`  — play the frame for the moment `now`, and tell when the next one is due and how long
    to sleep until then.  Waiting intents are applied first, then one frame is composed and written
    as a whole.  A tick more than two periods late gives up the backlog: the schedule goes on from
    `now`.  It is time that is skipped, never a frame of the animation.
  * `run`   — tick, sleep, and tick again until the stop signal is raised.  The signal is looked at
    between frames only.  Sleeping takes at least as long as asked; by how much longer each sleep
    lasts is part of the input.
-/
import LedAnimation.Intent
import LedAnimation.Sink.Basic

namespace LedAnimation

/-! ## The stop signal -/

/-- A request to stop playing, raised from outside. -/
structure StopSignal where
  raised : Bool
  deriving DecidableEq, Repr

namespace StopSignal

/-- The signal before anyone raised it. -/
def lowered : StopSignal := ⟨false⟩

/-- Ask to stop. -/
def raise (_ : StopSignal) : StopSignal := ⟨true⟩

/-- Take the request back. -/
def reset (_ : StopSignal) : StopSignal := ⟨false⟩

end StopSignal

/-! ## Time -/

/-- How long a frame is shown, in microseconds.  A rate of 0 counts as 1. -/
def framePeriod (fps : Nat) : Nat := 1000000 / max fps 1

/-- Why a moment cannot be told. -/
inductive ClockError where
  | overflow
  deriving DecidableEq, Repr

/-- The error as users read it. -/
def ClockError.message : ClockError → String
  | .overflow => "overflow when adding duration to instant"

/-- The moment `duration` after another one. -/
def later (moment duration : Nat) : Except ClockError Nat :=
  if moment + duration < UInt64.size then .ok (moment + duration) else .error .overflow

/-- What a tick tells its caller. -/
structure Timing where
  /-- When the next frame is due. -/
  deadline : Nat
  /-- How long to wait for it. -/
  sleep : Nat
  deriving DecidableEq, Repr

/-! ## The scheduler -/

/-- An effect that is played to an output of type `τ`. -/
structure Scheduler (σ τ : Type) (n : Nat) where
  output : τ
  effect : Effect σ n
  /-- Where intents come from, if it listens to any. -/
  inbox : Option (Queue n)
  due : Nat
  period : Nat
  /-- Frames written so far.  They are counted without a bound: a count in a 64-bit word, one frame
      a microsecond, would run over after half a million years. -/
  frames : Nat

namespace Scheduler

variable {σ τ : Type} {n : Nat}

/-- A scheduler at the frame rate of its effect, that listens to no intents. -/
def start (effect : Effect σ n) (output : τ) : Scheduler σ τ n :=
  { output, effect, inbox := none, due := 0, period := framePeriod effect.fps, frames := 0 }

/-- Listen to the intents of a queue. -/
def listen (s : Scheduler σ τ n) (queue : Queue n) : Scheduler σ τ n :=
  { s with inbox := some queue }

/-- Apply the intents that wait. -/
def readInbox (s : Scheduler σ τ n) : Logged (Scheduler σ τ n) :=
  match s.inbox with
  | none => pure s
  | some queue => do
    let (_, emptied, effect) ← queue.drain s.effect
    pure { s with inbox := some emptied, effect }

/-- Compose one frame and write it. -/
def emit [Sink τ] (s : Scheduler σ τ n) : Logged (Scheduler σ τ n) := do
  let (frame, effect) ← s.effect.tick
  let output ← Sink.write s.output frame.toList effect.brightness
  pure { s with output, effect, frames := s.frames + 1 }

/-- Play one frame at the moment `now`.  When the end of a tolerated delay cannot be told, nothing
    happens at all; when the next deadline cannot, the frame has been written. -/
def tick [Sink τ] (s : Scheduler σ τ n) (now : Nat) :
    Logged (Except ClockError Timing × Scheduler σ τ n) :=
  match later s.due (2 * s.period) with
  | .error e => pure (.error e, s)
  | .ok latest => do
    let onTime := if latest < now then { s with due := now } else s
    let informed ← onTime.readInbox
    let written ← informed.emit
    match later written.due written.period with
    | .error e => pure (.error e, written)
    | .ok deadline =>
      pure (.ok { deadline, sleep := deadline - now }, { written with due := deadline })

/-- Tick until the output asks to stop.  `oversleep` tells for every tick how much later it comes
    than at `earliest`, and so limits the number of ticks. -/
def play [Sink τ] (stopped : τ → Bool) (s : Scheduler σ τ n) (earliest : Nat) :
    List Nat → Logged (Except ClockError Unit × Scheduler σ τ n)
  | [] => pure (.ok (), s)
  | late :: oversleep => do
    if stopped s.output then pure (.ok (), s)
    else
      let now := earliest + late
      match ← s.tick now with
      | (.error e, next) => pure (.error e, next)
      | (.ok timing, next) =>
        if stopped next.output then pure (.ok (), next)
        else next.play stopped (now + timing.sleep) oversleep

/-- What is reported at the start of a run. -/
def opening (s : Scheduler σ τ n) : String :=
  let fps := s.effect.fps
  s!"[FrameScheduler.run] playing at {fps} fps"

/-- What is reported at the end of a run. -/
def closing (s : Scheduler σ τ n) : String :=
  let frames := s.frames
  s!"[FrameScheduler.run] stopped after {frames} frames"

/-- Play from moment 0 on until the output asks to stop. -/
def run [Sink τ] (stopped : τ → Bool) (s : Scheduler σ τ n) (oversleep : List Nat) :
    Logged (Except ClockError Unit × Scheduler σ τ n) := do
  report .info s.opening
  match ← s.play stopped 0 oversleep with
  | (.error e, last) => pure (.error e, last)
  | (.ok (), last) =>
    report .info last.closing
    pure (.ok (), last)

end Scheduler

end LedAnimation
