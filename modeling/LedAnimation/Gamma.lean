/-
  Gamma correction.

  LEDs answer linearly to the duty they are driven with, the eye does not, so colours made for a
  screen look washed out on a strip.  A `GammaTable` maps every level `v` of a channel to the level
  nearest to `255 * (v / 255) ^ gamma`, which single-precision arithmetic knows up to rounding.
-/
import LedAnimation.Binary32.Power
import LedAnimation.Color

namespace LedAnimation

/-- The corrected level of every level. -/
structure GammaTable where
  levels : Vector UInt8 256

namespace GammaTable

/-- The exponent that suits common LEDs, 2.6. -/
def defaultExponent : Binary32 := .nearest 26 10

/-- The table of an exponent. -/
def ofExponent (gamma : Binary32) : GammaTable :=
  ⟨Vector.ofFn fun v => ((Binary32.nearest v 255).power gamma).level⟩

instance : Inhabited GammaTable := ⟨ofExponent defaultExponent⟩

/-- Correct one channel. -/
def apply (table : GammaTable) (level : UInt8) : UInt8 :=
  table.levels.get ⟨level.toNat, level.toNat_lt⟩

/-- Correct every channel of a colour. -/
def correct (table : GammaTable) (c : Rgb) : Rgb :=
  ⟨table.apply c.r, table.apply c.g, table.apply c.b⟩

end GammaTable

end LedAnimation
