/-
  Intents: changes of a running effect asked for from outside, and the bounded queue they wait in.

  The queue is first in, first out.  Sending to a full queue gives the intent back and changes
  nothing.  Between two ticks all waiting intents are applied in order (`drain`).  One that the
  effect rejects is reported and dropped; it neither changes the effect nor stops the others.
-/
import LedAnimation.Effect.Basic

namespace LedAnimation

/-- A change of a running effect. -/
inductive Intent (n : Nat) where
  /-- Play a script once over everything else. -/
  | overwrite (script : Script n)
  /-- Fill the underlay slot, or empty it. -/
  | underlay (script : Option (Script n))
  /-- Fill the overlay slot, or empty it. -/
  | overlay (script : Option (Script n))
  /-- Change the brightness. -/
  | brightness (brightness : Binary32)
  deriving DecidableEq

namespace Effect

variable {σ : Type} {n : Nat}

/-- Fill a layer slot, or empty it. -/
def change (e : Effect σ n) (slot : Slot) :
    Option (Script n) → Logged (Except EffectError Unit × Effect σ n)
  | some script => e.add slot script
  | none => pure (.ok (), e.clear slot)

/-- Carry out an intent. -/
def apply (e : Effect σ n) : Intent n → Logged (Except EffectError Unit × Effect σ n)
  | .overwrite script => e.add .overwrite script
  | .underlay script => e.change .underlay script
  | .overlay script => e.change .overlay script
  | .brightness brightness =>
    let (outcome, changed) := e.setBrightness brightness
    pure (outcome.mapError .config, changed)

/-- Carry out several intents in order, and count those that were not rejected. -/
def applyAll (e : Effect σ n) : List (Intent n) → Logged (Nat × Effect σ n)
  | [] => pure (0, e)
  | intent :: rest => do
    match ← e.apply intent with
    | (.ok (), next) =>
      let (applied, last) ← next.applyAll rest
      pure (applied + 1, last)
    | (.error fault, next) =>
      let reason := fault.message
      report .warn s!"[IntentProcessor.process_pending] dropped intent: {reason}"
      next.applyAll rest

end Effect

/-- A queue of at most `capacity` intents, the oldest one in front. -/
structure Queue (n : Nat) where
  capacity : Nat
  waiting : List (Intent n)

namespace Queue

variable {σ : Type} {n : Nat}

/-- A queue in which nothing waits. -/
def empty (capacity : Nat) : Queue n := ⟨capacity, []⟩

/-- Put an intent at the end, or get it back if the queue is full. -/
def send (q : Queue n) (intent : Intent n) : Except (Intent n) (Queue n) :=
  if q.waiting.length < q.capacity then .ok { q with waiting := q.waiting ++ [intent] }
  else .error intent

/-- Take the oldest intent. -/
def receive? (q : Queue n) : Option (Intent n × Queue n) :=
  match q.waiting with
  | [] => none
  | intent :: rest => some (intent, { q with waiting := rest })

/-- Apply all that waits to an effect, and count what was applied. -/
def drain (q : Queue n) (e : Effect σ n) : Logged (Nat × Queue n × Effect σ n) := do
  let (applied, last) ← e.applyAll q.waiting
  pure (applied, empty q.capacity, last)

end Queue

end LedAnimation
