/-
  Thunder: a hook that lets lightning strike at random.

  After every tick it draws a number in 0..10 from the generator of the layers, and on a 1 plays the
  flash once over everything else.  A new stroke restarts one that is still running.
-/
import LedAnimation.Effect.Basic
import LedAnimation.Preview.Catalog

namespace LedAnimation

namespace Thunder

/-- Draw, and strike on a 1. -/
def strike (layers : Layers Catalog.leds) : Logged (Layers Catalog.leds) := do
  let draw := layers.generator.byteIn 0 10
  let drawn := { layers with generator := draw.2 }
  if draw.1 = 1 then
    report .debug "[Thunder.after_tick] flash"
    let (outcome, struck) ← drawn.add .overwrite Catalog.thunderFlash
    if let .error fault := outcome then
      let reason := fault.message
      report .warn s!"[Thunder.after_tick] {reason}"
    pure struck
  else pure drawn

/-- The hook that lets lightning strike after every tick. -/
def hook : Hook Unit Catalog.leds := fun _ layers => do
  pure ((), ← strike layers)

/-- The hook as it is made: first the flash has to pass the check. -/
def make : Except ScriptError (Hook Unit Catalog.leds) := do
  let _ ← Script.ofEntries Catalog.thunderFlash.entries
  .ok hook

end Thunder

end LedAnimation
