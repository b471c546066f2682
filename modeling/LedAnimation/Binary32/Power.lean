/-
  Powers of numbers without a sign, in single-precision arithmetic.

  The mathematical libraries of most systems share one algorithm for `base ^ exponent`.  It rounds
  after every operation, and its result may be the neighbour of the number that is nearest to the
  exact power.  Colours depend on that neighbour, so `power` goes through the same operations in the
  same order rather than round the exact power:

  * `log2`     — the logarithm of the base to base 2, from the series of the logarithm around 1 or
    around 3/2, whichever is nearer;
  * `product`  — that logarithm times the exponent;
  * `exp2`     — the power of 2 with the product as its exponent: a whole power of 2 times a
    rational approximation of what is left.

  All three hand on a sum of two floats (`Split`), the greater one cut short, so that a product of
  two such heads is exact and nothing of the sum is lost before the end.
-/
import LedAnimation.Binary32.Basic

namespace LedAnimation

namespace Binary32

/-- The float with the bits of a number. -/
def toFloat (x : Binary32) : Float32 := Float32.ofBits x.bits

/-- The number with the bits of a float. -/
def ofFloat (x : Float32) : Binary32 := ⟨x.toBits⟩

/-! ## Sums of two floats -/

/-- A value in two floats: its upper bits, and what is left of it. -/
structure Split where
  high : Float32
  low : Float32

/-- A float without the last 12 bits of its significand. -/
def head (x : Float32) : Float32 := .ofBits (x.toBits &&& 0xfffff000)

/-- The polynomial with the given coefficients, from the constant one on. -/
def horner (x : Float32) : List Float32 → Float32
  | [] => 0
  | coefficient :: rest => coefficient + x * horner x rest

/-! ## Logarithms -/

/-- 1 / ln 2. -/
def perLn2 : Float32 := .ofBits 0x3fb8aa3b

/-- 1 / ln 2 once more, in a head of 16 bits and the rest. -/
def perLn2Split : Split := ⟨.ofBits 0x3fb8aa00, .ofBits 0x36eca570⟩

/-- 2 / (3 ln 2). -/
def seriesFactor : Float32 := .ofBits 0x3f76384f

/-- 2 / (3 ln 2) once more, in a head of 12 bits and the rest. -/
def seriesFactorSplit : Split := ⟨.ofBits 0x3f764000, .ofBits 0xb8f623c6⟩

/-- Coefficients of the series of the logarithm, behind its first two terms. -/
def logTerms : List Float32 :=
  [.ofBits 0x3f19999a, .ofBits 0x3edb6db7, .ofBits 0x3eaaaaab, .ofBits 0x3e8ba305,
    .ofBits 0x3e6c3255, .ofBits 0x3e53f142]

/-- A point to develop the logarithm around. -/
structure Anchor where
  point : Float32
  /-- The logarithm of the point to base 2. -/
  log : Split
  /-- Half the distance of the point from 1, in the bits of a float between 2 and 4. -/
  offset : UInt32

/-- The number 1. -/
def Anchor.one : Anchor := ⟨1, ⟨0, 0⟩, 0⟩

/-- The number 3/2. -/
def Anchor.threeHalves : Anchor := ⟨1.5, ⟨.ofBits 0x3f15c000, .ofBits 0x35d1cfdc⟩, 0x00200000⟩

/-- The logarithm of `x * 2 ^ exponent` for the float `x` with the given bits, by the series at
    `s = (x - a) / (x + a)` for an anchor `a`. -/
def logAround (anchor : Anchor) (bits : UInt32) (exponent : Int) : Split :=
  let x := Float32.ofBits bits
  let difference := x - anchor.point
  let perSum := 1 / (x + anchor.point)
  let s := difference * perSum
  -- `s` and the sum it was divided by, each in two floats
  let sHigh := head s
  let sumHigh := Float32.ofBits
    ((((bits >>> 1) &&& 0xfffff000) ||| 0x20000000) + 0x00400000 + anchor.offset)
  let sumLow := x - (sumHigh - anchor.point)
  let sLow := perSum * ((difference - sHigh * sumHigh) - sHigh * sumLow)
  -- the series divided by `2 s / 3`: `3 + s ^ 2` and the rest
  let square := s * s
  let rest := square * square * horner square logTerms + sLow * (sHigh + s)
  let squareHigh := sHigh * sHigh
  let seriesHigh := head (3 + squareHigh + rest)
  let seriesLow := rest - ((seriesHigh - 3) - squareHigh)
  -- times `s`
  let upper := sHigh * seriesHigh
  let lower := sLow * seriesHigh + seriesLow * s
  let productHigh := head (upper + lower)
  let productLow := lower - (productHigh - upper)
  -- times `2 / (3 ln 2)`, then the logarithms of the anchor and of the power of 2
  let logHigh := seriesFactorSplit.high * productHigh
  let logLow :=
    seriesFactorSplit.low * productHigh + productLow * seriesFactor + anchor.log.low
  let shift := Float32.ofInt exponent
  let high := head (((logHigh + logLow) + anchor.log.high) + shift)
  ⟨high, logLow - (((high - shift) - anchor.log.high) - logHigh)⟩

/-- The logarithm of a positive number to base 2.  Numbers next to zero are scaled up first, and a
    significand above the square root of 3 counts as one below 1. -/
def log2 (x : Binary32) : Split :=
  let isTiny := x.magnitude < leadingBit
  let bits := if isTiny then (x.toFloat * 16777216).toBits else x.bits
  let exponent : Int := (bits >>> 23).toNat - if isTiny then 151 else 127
  let fraction := bits &&& 0x007fffff
  if fraction ≤ 0x1cc471 then logAround .one (fraction ||| 0x3f800000) exponent
  else if fraction < 0x5db3d7 then logAround .threeHalves (fraction ||| 0x3f800000) exponent
  else logAround .one (fraction ||| 0x3f000000) (exponent + 1)

/-- The logarithm of a number that is 1 up to the last 20 bits, from four terms of its series. -/
def log2NextToOne (x : Binary32) : Split :=
  let t := x.toFloat - 1
  let w := (t * t) * (0.5 - t * (.ofBits 0x3eaaaaab - t * 0.25))
  let upper := perLn2Split.high * t
  let lower := t * perLn2Split.low - w * perLn2
  let high := head (upper + lower)
  ⟨high, lower - (high - upper)⟩

/-! ## Powers of 2 -/

/-- The logarithm of a power: that of the base, times the exponent. -/
def product (log : Split) (exponent : Float32) : Split :=
  let exponentHigh := head exponent
  ⟨exponentHigh * log.high, (exponent - exponentHigh) * log.high + exponent * log.low⟩

/-- ln 2. -/
def ln2 : Float32 := .ofBits 0x3f317218

/-- ln 2 once more, in a head of 16 bits and the rest. -/
def ln2Split : Split := ⟨.ofBits 0x3f317200, .ofBits 0x35bfbe8c⟩

/-- Coefficients of the rational approximation of the exponential. -/
def expTerms : List Float32 :=
  [.ofBits 0x3e2aaaab, .ofBits 0xbb360b61, .ofBits 0x388ab355, .ofBits 0xb5ddea0e,
    .ofBits 0x3331bb4c]

/-- The number `x * 2 ^ n` for an `x` next to 1.  Where that is next to zero, it is rounded. -/
def scaled (x : Binary32) (n : Int) : Binary32 :=
  let word : Int := x.bits.toNat + n * leadingBit
  if word < leadingBit then nearest x.units (unit <<< (-n).toNat) else ⟨word.toNat.toUInt32⟩

/-- The whole number next to the float with the given bits, as a float and as an integer.  The float
    lies above 1/2 or below -1/2. -/
def wholePart (bits : UInt32) : Float32 × Int :=
  let raised := bits + ((0x00800000 : UInt32) >>> (((bits &&& 0x7fffffff) >>> 23) - 126))
  let places := ((raised &&& 0x7fffffff) >>> 23) - 127
  let size : Int := (((raised &&& 0x007fffff) ||| 0x00800000) >>> (23 - places)).toNat
  (.ofBits (raised &&& ~~~((0x007fffff : UInt32) >>> places)),
    if bits < 0x80000000 then size else -size)

/-- The power of 2 with an exponent in two floats that is neither too large nor too small. -/
def exp2Within (p : Split) : Binary32 :=
  let bits := (p.low + p.high).toBits
  let (whole, n) := if 0x3f000000 < (bits &&& 0x7fffffff) then wholePart bits else (0, 0)
  let high := p.high - whole
  let t := Float32.ofBits ((p.low + high).toBits &&& 0xffff8000)
  let upper := t * ln2Split.high
  let lower := (p.low - (t - high)) * ln2 + t * ln2Split.low
  let z := upper + lower
  let w := lower - (z - upper)
  let square := z * z
  let approximant := z - square * horner square expTerms
  let r := (z * approximant) / (approximant - 2) - (w + z * w)
  scaled (ofFloat (1 - (r - z))) n

/-- What the largest exponent lacks of 128, up to half a step. -/
def overflowTail : Float32 := .ofBits 0x3338aa3c

/-- The power of 2 with an exponent in two floats: infinite from 128 on, and 0 down from -150. -/
def exp2 (p : Split) : Binary32 :=
  let z := p.low + p.high
  let bits := z.toBits
  if bits < 0x80000000 ∧ 0x43000000 < bits then infinity
  else if bits = 0x43000000 ∧ z - p.high < p.low + overflowTail then infinity
  else if 0x43160000 < (bits &&& 0x7fffffff) then zero
  else if bits = 0xc3160000 ∧ p.low ≤ z - p.high then zero
  else exp2Within p

/-! ## Powers -/

/-- What powers with a huge exponent come to: those of a base below 1 vanish, those of a base above
    1 grow without bound, and the other way round if the exponent is negative. -/
def extreme (base exponent : Binary32) : Binary32 :=
  if decide (base.magnitude < one.magnitude) = exponent.isNegative then infinity else zero

/-- From here on exponents are huge: 2 ^ 27. -/
def hugeExponent : Nat := 0x4d000000

/-- The base is so near to 1 that a huge exponent is not yet too much for it. -/
def isNextToOne (x : Binary32) : Bool := 0x3f7ffff8 ≤ x.magnitude && x.magnitude ≤ 0x3f800007

/-- The power `base ^ exponent` for a base without a sign.  Every number to the power of zero is 1,
    and so is every power of 1, even where the other number is NaN. -/
def power (base exponent : Binary32) : Binary32 :=
  if exponent.isZero || base = one then one
  else if base.isNaN || exponent.isNaN then nan
  else if exponent.isInfinite then extreme base exponent
  else if exponent = one then base
  else if exponent = neg one then ofFloat (1 / base.toFloat)
  else if exponent = ⟨0x40000000⟩ then ofFloat (base.toFloat * base.toFloat)
  else if exponent = ⟨0x3f000000⟩ then ofFloat base.toFloat.sqrt
  else if base.isZero || base.isInfinite then
    if exponent.isNegative then ofFloat (1 / base.toFloat) else base
  else if exponent.magnitude ≤ hugeExponent then exp2 (product (log2 base) exponent.toFloat)
  else if base.isNextToOne then exp2 (product (log2NextToOne base) exponent.toFloat)
  else extreme base exponent

example : power (nearest 1 4) (nearest 1 2) = nearest 1 2 := by decide +kernel
example : power (nearest 1 2) (neg (nearest 3 1)) = nearest 8 1 := by decide +kernel
/-- The exact power lies just above the midpoint of two levels, its nearest number does too, and the
    number below that does not. -/
example : ((nearest 240 255).power (nearest 16662 10000)).level = 230 := by decide +kernel

end Binary32

end LedAnimation
