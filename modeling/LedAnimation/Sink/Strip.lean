/-
  A strip of addressable LEDs on a bus.

  Displaying sends all pixels of the strip, dimmed to the staged brightness `b`: every channel `c`
  becomes `c * (b + 1) / 256`, so full brightness changes nothing.  A bus may refuse a frame; that
  is reported, and the strip goes on as before.
-/
import LedAnimation.Sink.Basic

namespace LedAnimation

/-- A channel dimmed to a brightness. -/
def dimmed (brightness level : UInt8) : UInt8 :=
  (level.toNat * (brightness.toNat + 1) / 256).toUInt8

/-- A colour dimmed to a brightness. -/
def Rgb.dimmed (brightness : UInt8) (c : Rgb) : Rgb :=
  ⟨LedAnimation.dimmed brightness c.r, LedAnimation.dimmed brightness c.g,
    LedAnimation.dimmed brightness c.b⟩

/-- What a strip is wired to: it takes rows of colours, and may answer with a fault. -/
class Bus (β : Type) where
  send : β → List Rgb → β × Option String

/-- A strip of `n` LEDs. -/
structure Strip (β : Type) (n : Nat) where
  bus : β
  staging : Staging n

namespace Strip

variable {β : Type} [Bus β] {n : Nat}

/-- A strip on a bus, with nothing staged. -/
def on (bus : β) : Strip β n := ⟨bus, .clean⟩

/-- The row of colours the staged pixels are displayed with. -/
def shown (s : Strip β n) : List Rgb :=
  (s.staging.pixels.map (Rgb.dimmed s.staging.brightness)).toList

instance : Sink (Strip β n) where
  setPixel s index color brightness :=
    { s with staging := s.staging.setPixel index color brightness }
  display s := do
    let (bus, fault) := Bus.send s.bus s.shown
    if let some text := fault then
      report .warn s!"[SmartLedsDriver.show] write failed: {text}"
    pure { s with bus }

end Strip

/-! ## A bus for the bench -/

/-- A bus that keeps all rows it is sent, and answers every one of them with the same fault, if
    any. -/
structure Bench where
  rows : Array (List Rgb)
  fault : Option String

instance : Bus Bench where
  send bench row := ({ bench with rows := bench.rows.push row }, bench.fault)

end LedAnimation
