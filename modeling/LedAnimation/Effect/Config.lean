/-
  How an effect is set up: its frame rate, its brightness, the layers it begins with, and the seed
  of all that is random in it.

  A configuration is checked before anything is played.  Of several faults the frame rate is named
  first, then the brightness; that a script is empty shows only after both.
-/
import LedAnimation.Binary32.Text
import LedAnimation.Script

namespace LedAnimation

/-- What is wrong with a configuration. -/
inductive ConfigError where
  | invalidFps
  | invalidBrightness (brightness : Binary32)
  deriving DecidableEq, Repr

/-- The error as users read it. -/
def ConfigError.message : ConfigError → String
  | .invalidFps => "frame rate must be positive"
  | .invalidBrightness brightness =>
    let shown := brightness.text
    s!"brightness {shown} is outside 0.0..=1.0"

/-- Why an effect cannot be set up or changed. -/
inductive EffectError where
  | script (fault : ScriptError)
  | config (fault : ConfigError)
  deriving DecidableEq, Repr

/-- The error as users read it: that of the part it comes from. -/
def EffectError.message : EffectError → String
  | .script fault => fault.message
  | .config fault => fault.message

/-- A brightness has to lie in `0.0..=1.0`. -/
def brightnessFault? (brightness : Binary32) : Option ConfigError :=
  if brightness.isShare then none else some (.invalidBrightness brightness)

/-- The setup of an effect. -/
structure Config (n : Nat) where
  /-- Frames per second. -/
  fps : Nat := 5
  /-- Share of the full brightness; it is handed on to the output with every frame. -/
  brightness : Binary32 := .nearest 1 5
  /-- Turn every frame of every layer to the other end of the strip. -/
  mirrored : Bool := false
  /-- Played over the base frames from the start. -/
  overlay : Option (Script n) := none
  /-- Played under the base frames from the start. -/
  underlay : Option (Script n) := none
  /-- Without a seed the random source starts wherever the surroundings let it. -/
  seed : Option UInt64 := none

instance {n : Nat} : Inhabited (Config n) := ⟨{}⟩

/-- The first fault of a configuration. -/
def Config.fault? {n : Nat} (config : Config n) : Option ConfigError :=
  if config.fps = 0 then some .invalidFps else brightnessFault? config.brightness

end LedAnimation
