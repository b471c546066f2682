/-
  Binary floating-point numbers of 32 bits, as words.

  Nothing here computes with floats.  A word is taken apart into a sign and a `magnitude`, and
  every finite magnitude is a whole number of `units` of 2 ^ -149, the smallest positive number;
  so all arithmetic is exact arithmetic on `Nat`.

  * `le`       — the order of the numbers: the order of the magnitudes with their signs.  The two
    zeros are equal, and a NaN is not comparable with anything.
  * `nearest`  — the number next to a fraction; a fraction half way between two numbers goes to
    the one with the even significand, and one beyond the largest number becomes infinite.
  * `level`    — the nearest of the 256 levels of a share of 0 to 1.
-/

namespace LedAnimation

/-- A 32-bit binary floating-point number, known by its bits. -/
structure Binary32 where
  bits : UInt32
  deriving DecidableEq, Repr, Inhabited

namespace Binary32

/-! ## Taking a word apart -/

/-- The sign bit; the lower zero and half of the NaNs have it too. -/
def isNegative (x : Binary32) : Bool := 0x80000000 ≤ x.bits.toNat

/-- The word without its sign. -/
def magnitude (x : Binary32) : Nat := x.bits.toNat % 0x80000000

/-- The magnitude of the infinities.  Those above it are no numbers. -/
def infinite : Nat := 0x7f800000

/-- The word stands for no number. -/
def isNaN (x : Binary32) : Bool := infinite < x.magnitude

/-- One of the two infinities. -/
def isInfinite (x : Binary32) : Bool := x.magnitude = infinite

/-- One of the two zeros. -/
def isZero (x : Binary32) : Bool := x.magnitude = 0

/-- The leading bit of a significand, which the word does not store. -/
def leadingBit : Nat := 0x800000

/-- The significand of 24 bits; numbers next to zero lack its leading bit. -/
def significand (x : Binary32) : Nat :=
  if x.magnitude < leadingBit then x.magnitude else leadingBit + x.magnitude % leadingBit

/-- One step of the significand is worth `1 <<< scale` units. -/
def scale (x : Binary32) : Nat := x.magnitude / leadingBit - 1

/-- The size of a finite number as a multiple of 2 ^ -149. -/
def units (x : Binary32) : Nat := x.significand <<< x.scale

/-- How many units make up 1. -/
def unit : Nat := 1 <<< 149

/-! ## The order -/

/-- The place of a number on the scale of all magnitudes with their signs. -/
def place (x : Binary32) : Int := if x.isNegative then -x.magnitude else x.magnitude

/-- The order of the numbers. -/
def le (x y : Binary32) : Bool := !x.isNaN && !y.isNaN && decide (x.place ≤ y.place)

/-! ## Rounding -/

/-- The whole number next to `num / den`, an even one if two are equally near. -/
def divEven (num den : Nat) : Nat :=
  let floor := num / den
  let rest := 2 * (num % den)
  if den < rest ∨ den = rest ∧ floor % 2 = 1 then floor + 1 else floor

/-- The number next to `num / den`.  The significand is rounded at the scale of the fraction; one
    that rounds up to 2 ^ 24 carries into the exponent bits and so starts the next scale. -/
def nearest (num den : Nat) : Binary32 :=
  let scaled := num * unit
  let scale := (scaled / den).log2 - 23
  let significand := divEven scaled (den <<< scale)
  ⟨(min infinite (scale * leadingBit + significand)).toUInt32⟩

/-- The number 0. -/
def zero : Binary32 := ⟨0⟩

/-- The number 1. -/
def one : Binary32 := ⟨0x3f800000⟩

/-- The infinity above all numbers. -/
def infinity : Binary32 := ⟨0x7f800000⟩

/-- The NaN that arithmetic gives. -/
def nan : Binary32 := ⟨0x7fc00000⟩

/-- The same number on the other side of zero. -/
def neg (x : Binary32) : Binary32 := ⟨x.bits ^^^ 0x80000000⟩

/-! ## Shares -/

/-- The number lies in `0.0..=1.0`. -/
def isShare (x : Binary32) : Bool := zero.le x && x.le one

/-- The level of a share on the scale of 0 to 255: the product with 255 is rounded to a number,
    and that to the whole number next to it, half a level upwards.  What is not above 0 has level
    0, NaN included, and what is above 1 has level 255. -/
def level (x : Binary32) : UInt8 :=
  if x.isNaN || x.isNegative then 0
  else if one.le x then 255
  else
    let product := nearest (255 * x.units) unit
    ((2 * product.units + unit) / (2 * unit)).toUInt8

example : nearest 1 5 = ⟨0x3e4ccccd⟩ := by decide +kernel
example : (nearest 1 2).level = 128 := by decide +kernel
example : nan.isShare = false ∧ (neg zero).isShare = true := by decide

end Binary32

end LedAnimation
