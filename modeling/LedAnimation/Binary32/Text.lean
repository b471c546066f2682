/-
  Binary floating-point numbers as decimal text.

  * `text`  — the fewest digits that read back to the same number, never with an exponent: `1.5`,
    `2`, `0.1`.  Infinities are `inf` and `-inf`, and `NaN` has no sign.
  * `read?` — a decimal with an optional sign, point and exponent, rounded once to the number next
    to it; or one of the words `inf`, `infinity` and `nan` in any case of letters.

  Shortness is found on grids: the multiples of 10 ^ g, from the coarsest grid down.  The grids
  are nested, so the first one with a point that reads back gives the fewest digits, and its
  point has no trailing zero.
-/
import LedAnimation.Binary32.Basic

namespace LedAnimation

namespace Binary32

/-! ## Writing -/

/-- Distance to the next smaller number, in units.  Below a power of two the numbers lie twice as
    dense as above it. -/
def gapBelow (x : Binary32) : Nat :=
  if x.significand = leadingBit ∧ 0 < x.scale then 1 <<< (x.scale - 1) else 1 <<< x.scale

/-- Whether `num / den` is rounded to `x`: it lies between the two midpoints to the neighbours of
    `x`, and on one of them only if the significand is even. -/
def roundsHere (x : Binary32) (num den : Nat) : Bool :=
  let value := 2 * num * unit
  let low := (2 * x.units - x.gapBelow) * den
  let high := (2 * x.units + 1 <<< x.scale) * den
  if x.significand % 2 = 0 then low ≤ value && value ≤ high else low < value && value < high

/-- The fraction `digits * 10 ^ g`. -/
def decimalFraction (digits : Nat) (g : Int) : Nat × Nat :=
  if 0 ≤ g then (digits * Nat.pow 10 g.toNat, 1) else (digits, Nat.pow 10 (-g).toNat)

/-- The point of the grid 10 ^ g that reads back to `x`, the nearer one if there are two, and the
    upper one if both are equally near. -/
def gridPoint? (x : Binary32) (g : Int) : Option Nat :=
  let (num, den) := if 0 ≤ g then (x.units, unit * Nat.pow 10 g.toNat)
    else (x.units * Nat.pow 10 (-g).toNat, unit)
  let lower := num / den
  let fits (point : Nat) : Bool :=
    let (p, q) := decimalFraction point g
    x.roundsHere p q
  match fits lower, fits (lower + 1) with
  | true, true => some (if 2 * (num % den) < den then lower else lower + 1)
  | true, false => some lower
  | false, true => some (lower + 1)
  | false, false => none

/-- Exponents of the grids to try, from the coarsest one down to one that is finer than the gaps
    between any two numbers. -/
def gridExponents : List Int := (List.range 94).map fun (i : Nat) => 39 - i

/-- Digits and exponent of the shortest decimal that reads back to a finite number.  The exact
    value stands behind the grids, so that there always is one. -/
def shortest (x : Binary32) : Nat × Int :=
  (gridExponents.findSome? fun g => (x.gridPoint? g).map fun point => (point, g)).getD
    (x.units * Nat.pow 5 149, -149)

/-- The decimal `digits * 10 ^ g` in positional notation. -/
def positional (digits : Nat) (g : Int) : String :=
  let written := Nat.toDigits 10 digits
  if 0 ≤ g then String.ofList (written ++ List.replicate g.toNat '0')
  else
    let places := (-g).toNat
    let padded := List.replicate (places + 1 - written.length) '0' ++ written
    let whole := padded.length - places
    String.ofList (padded.take whole ++ '.' :: padded.drop whole)

/-- The shortest decimal that reads back, or the word for what is no finite number. -/
def text (x : Binary32) : String :=
  if x.isNaN then "NaN"
  else
    let sign := if x.isNegative then "-" else ""
    if x.isInfinite then sign ++ "inf"
    else if x.isZero then sign ++ "0"
    else
      let (digits, g) := x.shortest
      sign ++ positional digits g

/-! ## Reading -/

/-- The number that a row of digits stands for. -/
def digitsValue (digits : List Char) : Nat :=
  digits.foldl (fun value c => 10 * value + (c.toNat - '0'.toNat)) 0

/-- A whole number with an optional sign, and nothing else. -/
def readExponent? (cs : List Char) : Option Int :=
  let (sign, digits) : Int × List Char := match cs with
    | '-' :: rest => (-1, rest)
    | '+' :: rest => (1, rest)
    | _ => (1, cs)
  if digits.isEmpty || !digits.all Char.isDigit then none
  else some (sign * digitsValue digits)

/-- The number next to `digits * 10 ^ g`.  A decimal whose first digit lies far outside the range
    of numbers needs no rounding. -/
def ofDecimal (digits : Nat) (g : Int) : Binary32 :=
  let top := (Nat.toDigits 10 digits).length + g
  if digits = 0 || top < -50 then zero
  else if 50 < top then infinity
  else
    let (num, den) := decimalFraction digits g
    nearest num den

/-- Digits with an optional point and an optional exponent, at least one digit before or behind
    the point. -/
def readDecimal? (cs : List Char) : Option Binary32 := do
  let whole := cs.takeWhile Char.isDigit
  let afterWhole := cs.dropWhile Char.isDigit
  let (places, rest) : List Char × List Char := match afterWhole with
    | '.' :: behind => (behind.takeWhile Char.isDigit, behind.dropWhile Char.isDigit)
    | _ => ([], afterWhole)
  if whole.isEmpty && places.isEmpty then none
  let exponent ← match rest with
    | [] => some 0
    | c :: behind => if c = 'e' ∨ c = 'E' then readExponent? behind else none
  some (ofDecimal (digitsValue (whole ++ places)) (exponent - places.length))

/-- A decimal or one of the words for infinities and NaN. -/
def readUnsigned? (cs : List Char) : Option Binary32 :=
  let word := String.ofList (cs.map Char.toLower)
  if word = "inf" ∨ word = "infinity" then some infinity
  else if word = "nan" then some nan
  else readDecimal? cs

/-- The number a text stands for, if it stands for one. -/
def read? (s : String) : Option Binary32 :=
  match s.toList with
  | '-' :: rest => (readUnsigned? rest).map neg
  | '+' :: rest => readUnsigned? rest
  | cs => readUnsigned? cs

example : (nearest 1 10).text = "0.1" := by decide +kernel
example : (nearest 1000000000 1).text = "1000000000" := by decide +kernel
example : read? "-2.5e-1" = some ⟨0xbe800000⟩ := by decide +kernel
example : read? "." = none := by decide +kernel

end Binary32

end LedAnimation
