/-
  Effects: a base script and the layers around it, one composed frame per tick.

  * `start`           — set up an effect.  The generator seeded by the configuration hands its first
    child to the base; the layers keep the generator itself and take one child per layer.
  * `tick`            — read the base, lay the layers around it, then let the hook look at the
    layers, so that what it changes shows from the next tick on.
  * `setBrightness`, `add`, `clear` — changes between ticks.  One that can fail gives its outcome
    and the effect after it, in either case.

  A hook is a function on the layers with a memory of its own.  `σ` is the type of that memory;
  effects without a hook have `Unit`.
-/
import LedAnimation.Effect.Config
import LedAnimation.Effect.Layers

namespace LedAnimation

/-- What happens after every tick: a change of the layers, and of the hook's own memory. -/
abbrev Hook (σ : Type) (n : Nat) := σ → Layers n → Logged (σ × Layers n)

/-- A hook that does nothing. -/
def Hook.idle {σ : Type} {n : Nat} : Hook σ n := fun memory layers => pure (memory, layers)

/-- Whether an effect has produced a frame yet. -/
inductive PlaybackState where
  | idle
  | running
  deriving DecidableEq, Repr

/-- A base script with its layers. -/
structure Effect (σ : Type) (n : Nat) where
  base : Player n
  layers : Layers n
  fps : Nat
  brightness : Binary32
  state : PlaybackState
  hook : Hook σ n
  memory : σ

/-- The layers an effect begins with, in the order in which they are added. -/
def Config.layers {n : Nat} (config : Config n) : List (Slot × Script n) :=
  (config.underlay.toList.map (.underlay, ·)) ++ (config.overlay.toList.map (.overlay, ·))

namespace Effect

variable {σ : Type} {n : Nat}

/-- Set up an effect without a hook.  `entropy` seeds it if the configuration does not. -/
def start (script : Script n) (config : Config n) (entropy : UInt64) :
    Logged (Except EffectError (Effect Unit n)) :=
  match config.fault? with
  | some fault => pure (.error (.config fault))
  | none => do
    if script.isEmpty then pure (.error (.script .empty))
    else
      let seeds := (Generator.mk (config.seed.getD entropy)).fork
      match ← Player.looping script config.mirrored seeds.1 with
      | .error fault => pure (.error (.script fault))
      | .ok base =>
        match ← (Layers.bare config.mirrored seeds.2).addAll config.layers with
        | .error fault => pure (.error (.script fault))
        | .ok layers =>
          pure (.ok {
            base, layers
            fps := config.fps
            brightness := config.brightness
            state := .idle
            hook := Hook.idle
            memory := () })

/-- The same effect with another hook. -/
def withHook {τ : Type} (e : Effect σ n) (hook : Hook τ n) (memory : τ) : Effect τ n :=
  { e with hook, memory }

/-- The next base frame; a base that has none stays dark. -/
def readBase (base : Player n) : Logged (Frame n × Player n) := do
  match ← base.nextFrame with
  | .ok (frame, next) => pure (frame, next)
  | .error _ => pure (Frame.dark n, base)

/-- Produce the frame of one tick. -/
def tick (e : Effect σ n) : Logged (Frame n × Effect σ n) := do
  let (below, base) ← readBase e.base
  let (frame, composed) ← e.layers.compose below
  let (memory, layers) ← e.hook e.memory composed
  pure (frame, { e with base, layers, memory, state := .running })

/-- Fill a layer slot. -/
def add (e : Effect σ n) (slot : Slot) (script : Script n) :
    Logged (Except EffectError Unit × Effect σ n) := do
  let (outcome, layers) ← e.layers.add slot script
  pure (outcome.mapError .script, { e with layers })

/-- Empty a layer slot. -/
def clear (e : Effect σ n) (slot : Slot) : Effect σ n := { e with layers := e.layers.clear slot }

/-- Change the brightness, unless it is out of range. -/
def setBrightness (e : Effect σ n) (brightness : Binary32) :
    Except ConfigError Unit × Effect σ n :=
  match brightnessFault? brightness with
  | some fault => (.error fault, e)
  | none => (.ok (), { e with brightness })

end Effect

end LedAnimation
