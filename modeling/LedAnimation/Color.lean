/-
  Colours of an LED, on the 0-255 scale in both of their descriptions.

  * `Rgb`     — the three channels a pixel is driven with.  `off`, the colour with no light at
    all, doubles as the TRANSPARENT colour of layered frames.
  * `Hsv`     — hue, saturation and value.  The circle of hues has 256 points; red sits at 0,
    green at 85 and blue at 170.
  * `Rgb.toHsv`, `Hsv.toRgb` — the two conversions.  Both are integer arithmetic that truncates,
    so they undo each other only up to rounding; the largest and the smallest channel survive a
    round trip exactly.
  * `Rgb.shift` — move one of the three `Hsv` coordinates by a signed step: hues wrap around the
    circle, saturation and value stop at both ends.

  All arithmetic runs over `Nat` and `Int` and enters the 8-bit channels only at the end, so that
  `omega` can follow it.
-/

namespace LedAnimation

/-- A pixel colour: the duty of the red, the green and the blue light. -/
structure Rgb where
  r : UInt8
  g : UInt8
  b : UInt8
  deriving DecidableEq, Repr, Inhabited

/-- A colour by hue, saturation and value. -/
structure Hsv where
  hue : UInt8
  sat : UInt8
  val : UInt8
  deriving DecidableEq, Repr, Inhabited

/-- One coordinate of an `Hsv` colour. -/
inductive Channel where
  | hue
  | saturation
  | value
  deriving DecidableEq, Repr

/-- No light.  A layer pixel that is `off` never covers the pixel below it. -/
def off : Rgb := ⟨0, 0, 0⟩

namespace Rgb

/-- The channel with most light. -/
def brightest (c : Rgb) : Nat := max (max c.r.toNat c.g.toNat) c.b.toNat

/-- The channel with least light. -/
def darkest (c : Rgb) : Nat := min (min c.r.toNat c.g.toNat) c.b.toNat

/-- How far the channels lie apart; greys are the colours of spread 0. -/
def spread (c : Rgb) : Nat := c.brightest - c.darkest

/-! ## From channels to hue, saturation and value -/

/-- The hue before it is brought onto the circle: the origin of the brightest channel's sector,
    moved by up to 43 points towards the brighter of the two other channels.  When channels tie
    for brightest, red goes before green and green before blue. -/
def hueAngle (c : Rgb) : Int :=
  let part (origin : Int) (rising falling : UInt8) : Int :=
    origin + (43 * ((rising.toNat : Int) - falling.toNat)).tdiv c.spread
  if c.brightest = c.r.toNat then part 0 c.g c.b
  else if c.brightest = c.g.toNat then part 85 c.b c.r
  else part 170 c.r c.g

/-- The share of the brightest channel that the darkest one lacks, out of 255. -/
def saturation (c : Rgb) : Nat := c.spread * 255 / c.brightest

/-- Greys have neither hue nor saturation. -/
def toHsv (c : Rgb) : Hsv :=
  if c.spread = 0 then ⟨0, 0, c.brightest.toUInt8⟩
  else ⟨(c.hueAngle % 256).toNat.toUInt8, c.saturation.toUInt8, c.brightest.toUInt8⟩

end Rgb

/-! ## And back -/

/-- Six sectors of the hue circle.  In each of them one channel carries the whole value, one the
    least amount of light the saturation allows, and the third rises or falls between the two.
    Point 255 closes the circle and belongs to the first sector again. -/
def Hsv.toRgb (c : Hsv) : Rgb :=
  let h := c.hue.toNat
  let s := c.sat.toNat
  let v := c.val.toNat
  let f := h * 2 % 85 * 3
  let least := (v * (255 - s) / 255).toUInt8
  let falling := (v * (255 - s * f / 255) / 255).toUInt8
  let rising := (v * (255 - s * (255 - f) / 255) / 255).toUInt8
  if h < 43 then ⟨c.val, rising, least⟩
  else if h < 85 then ⟨falling, c.val, least⟩
  else if h < 128 then ⟨least, c.val, rising⟩
  else if h < 170 then ⟨least, falling, c.val⟩
  else if h < 213 then ⟨rising, least, c.val⟩
  else if h < 255 then ⟨c.val, least, falling⟩
  else ⟨c.val, rising, least⟩

/-! ## Moving along one coordinate -/

/-- A hue moved by `step`, around the circle as often as it takes. -/
def turned (hue : UInt8) (step : Int) : UInt8 :=
  ((hue.toNat + step) % 256).toNat.toUInt8

/-- A level moved by `step`, which stops at 0 and at 255. -/
def clamped (level : UInt8) (step : Int) : UInt8 :=
  (min 255 (level.toNat + step).toNat).toUInt8

/-- Move one coordinate of a colour by `step`. -/
def Hsv.shift (c : Hsv) (channel : Channel) (step : Int) : Hsv :=
  match channel with
  | .hue => { c with hue := turned c.hue step }
  | .saturation => { c with sat := clamped c.sat step }
  | .value => { c with val := clamped c.val step }

/-- Move one coordinate of a colour by `step`, by way of its hue, saturation and value. -/
def Rgb.shift (c : Rgb) (channel : Channel) (step : Int) : Rgb :=
  (c.toHsv.shift channel step).toRgb

example : off.toHsv.toRgb = off := by decide
example : (Rgb.mk 255 0 0).shift .hue 85 = ⟨0, 255, 0⟩ := by decide
example : (Rgb.mk 255 0 255).hueAngle = -43 := by decide

end LedAnimation
