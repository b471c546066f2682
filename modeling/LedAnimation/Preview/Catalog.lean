/-
  The scripts the preview knows by name, for a strip of 8 LEDs.

  Water: `raindrop_falling`, `raindrop_dripping`, `flood`.  Weather: `thunder_flash` (meant to be
  played once over everything else), `snow_falling`, `snow_layer` (meant to lie under something
  else).  Light: `knight_rider`, `hue_cycle`.
-/
import LedAnimation.Script

namespace LedAnimation

namespace Catalog

/-- The number of LEDs of the preview's strip. -/
abbrev leds : Nat := 8

/-! ## Colours -/

/-- Water. -/
def rain : Rgb := ⟨0, 0, 255⟩

/-- A falling flake. -/
def snow : Rgb := ⟨180, 180, 180⟩

/-- Snow on the ground. -/
def snowCap : Rgb := ⟨60, 60, 70⟩

/-- Lightning that begins. -/
def flashDim : Rgb := ⟨100, 100, 100⟩

/-- Lightning at its height. -/
def flash : Rgb := ⟨255, 255, 255⟩

/-- The light that scans. -/
def scanner : Rgb := ⟨255, 0, 0⟩

/-- Its neighbours. -/
def scannerTail : Rgb := ⟨60, 0, 0⟩

/-! ## Building blocks -/

/-- The frame with a colour at the positions that fit, and no other light. -/
def lit (color : Rgb) (fits : Nat → Bool) : Frame leds :=
  Vector.ofFn fun i => if fits i then color else off

/-- One lit pixel. -/
def single (index : Nat) (color : Rgb) : Entry leds := .frame (lit color (· == index))

/-- A strip without light. -/
def dark : Entry leds := .frame (Frame.dark leds)

/-- A strip in one colour. -/
def full (color : Rgb) : Entry leds := .frame (lit color fun _ => true)

/-- A random pause. -/
def hold (min max : UInt16) : Entry leds := .action (.delay min max)

/-- The positions below the top one, downwards. -/
def below : List Nat := (List.range (leds - 1)).map (· + 1)

/-- A list of entries that is known to be well-formed. -/
def script (entries : List (Entry leds)) (h : fault? entries = none) : Script leds :=
  ⟨entries, (fault?_eq_none_iff entries).1 h⟩

/-! ## Scripts -/

/-- A drop falling down the strip, with a random pause on top. -/
def raindropFalling : Script leds :=
  script ([single 0 rain, hold 1 3] ++ below.map (single · rain) ++ [dark, hold 0 2]) (by decide)

/-- A drop that swells on top before it falls. -/
def raindropDripping : Script leds :=
  script ([single 0 ⟨0, 0, 40⟩, .action (.shift .value 40 5), hold 2 6]
    ++ below.map (single · rain) ++ [dark, hold 0 4]) (by decide)

/-- Water rising from the far end, then draining. -/
def flood : Script leds :=
  script ((List.range leds).map (fun level => .frame (lit rain (leds - 1 - level ≤ ·)))
    ++ [hold 3 6, .action (.shift .value (-48) 5), dark, hold 2 2]) (by decide)

/-- One stroke of lightning. -/
def thunderFlash : Script leds := script [.frame (lit flashDim (· < 3)), full flash] (by decide)

/-- A flake drifting down at an uneven pace. -/
def snowFalling : Script leds :=
  script ((List.range leds).flatMap (fun index => [single index snow, hold 0 1])
    ++ [dark, hold 1 4]) (by decide)

/-- Snow lying at the bottom. -/
def snowLayer : Script leds := script [.frame (lit snowCap (leds - 2 ≤ ·))] (by decide)

/-- The scanner at one position, with a tail on both sides. -/
def scannerAt (index : Nat) : Frame leds :=
  Vector.ofFn fun i =>
    if i.val = index then scanner
    else if i.val + 1 = index ∨ i.val = index + 1 then scannerTail
    else off

/-- A red scanner bouncing between both ends. -/
def knightRider : Script leds :=
  Script.ofFrames ((List.range leds ++ [6, 5, 4, 3, 2, 1]).map scannerAt)

/-- The whole strip walking around the circle of hues. -/
def hueCycle : Script leds := script [full scanner, .action (.shift .hue 8 31)] (by decide)

/-! ## Names -/

/-- All scripts under their names. -/
def all : List (String × Script leds) := [
  ("raindrop_falling", raindropFalling),
  ("raindrop_dripping", raindropDripping),
  ("flood", flood),
  ("thunder_flash", thunderFlash),
  ("snow_falling", snowFalling),
  ("snow_layer", snowLayer),
  ("knight_rider", knightRider),
  ("hue_cycle", hueCycle)]

/-- The names in the order of the list. -/
def names : List String := all.map (·.1)

/-- The script of a name. -/
def find? (name : String) : Option (Script leds) := all.lookup name

/-- The script of a name as it is built, from its entries and by way of the check. -/
def build? (name : String) : Option (Except ScriptError (Script leds)) :=
  (find? name).map fun script => Script.ofEntries script.entries

end Catalog

end LedAnimation
