/-
  A strip drawn on a terminal that knows 24-bit colours.

  Every display draws the whole strip over the line it stands on: a carriage return, then one
  square per LED, separated by spaces, each between the escape sequences that set and reset its
  colour.  Staged brightness `b` turns a channel `c` into `c * b / 255`.  A terminal may refuse a
  line; that is reported, and the strip goes on as before.
-/
import LedAnimation.Sink.Basic

namespace LedAnimation

/-- A channel at a share of `brightness / 255`. -/
def faded (brightness level : UInt8) : UInt8 := (level.toNat * brightness.toNat / 255).toUInt8

/-- A colour at a share of `brightness / 255`. -/
def Rgb.faded (brightness : UInt8) (c : Rgb) : Rgb :=
  ⟨LedAnimation.faded brightness c.r, LedAnimation.faded brightness c.g,
    LedAnimation.faded brightness c.b⟩

/-- A coloured square. -/
def Rgb.square (c : Rgb) : String :=
  let r := c.r.toNat
  let g := c.g.toNat
  let b := c.b.toNat
  s!"\x1b[38;2;{r};{g};{b}m■\x1b[0m"

/-- The line that draws a row of colours. -/
def Terminal.line (row : List Rgb) : String :=
  "\r" ++ String.intercalate " " (row.map Rgb.square)

/-- What a terminal writes to: it takes texts, each of them as far as it can, and may answer with a
    fault. -/
class Outlet (ω : Type) where
  put : ω → String → ω × Option String

/-- A strip of `n` LEDs drawn on an outlet. -/
structure Screen (ω : Type) (n : Nat) where
  outlet : ω
  staging : Staging n

namespace Screen

variable {ω : Type} [Outlet ω] {n : Nat}

/-- A strip on an outlet, with nothing staged. -/
def on (outlet : ω) : Screen ω n := ⟨outlet, .clean⟩

/-- The colours the staged pixels are displayed with. -/
def shown (s : Screen ω n) : List Rgb :=
  (s.staging.pixels.map (Rgb.faded s.staging.brightness)).toList

instance : Sink (Screen ω n) where
  setPixel s index color brightness :=
    { s with staging := s.staging.setPixel index color brightness }
  display s := do
    let (outlet, fault) := Outlet.put s.outlet (Terminal.line s.shown)
    if let some text := fault then
      report .warn s!"[TerminalDriver.show] {text}"
    pure { s with outlet }

end Screen

/-! ## Text on its way -/

/-- The text drawn that was not taken yet. -/
structure Drawing where
  text : String

instance : Outlet Drawing where
  put drawing text := (⟨drawing.text ++ text⟩, none)

/-- A strip on a terminal that takes all it is given. -/
abbrev Terminal (n : Nat) := Screen Drawing n

namespace Terminal

variable {n : Nat}

/-- Nothing staged and nothing drawn. -/
def start : Terminal n := .on ⟨""⟩

/-- The text drawn so far. -/
def drawn (t : Terminal n) : String := t.outlet.text

/-- What ends the drawing: the cursor leaves the line of the strip. -/
def ending : String := "\n"

/-- Take the text drawn so far. -/
def take (t : Terminal n) : String × Terminal n := (t.drawn, { t with outlet := ⟨""⟩ })

end Terminal

end LedAnimation
