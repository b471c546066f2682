/-
  The random source of an animation: a 64-bit counter that advances by a fixed odd stride, each
  of its values scrambled into one output word.  Draws return the number and the generator that
  goes on from there, so one seed fixes all that is ever drawn.

  * `word64`, `word32` — the next output word, or its lower half.
  * `fork`            — hand a child generator to someone else; the parent moves on by one word.
  * `upTo top`        — a number in `0..top`: a draw `r` is scaled to `r * (top + 1) / 2 ^ 32`, and
    the draws that would favour some results (remainder below `(2 ^ 32 - n) % n`) are thrown away.
  * `byteIn`, `wordIn` — a number in an inclusive range of bytes or of 16-bit words.

  Throwing draws away needs no limit on their number.  The stride is odd, so the counter runs
  through all its `2 ^ 64` values before one returns, and `calmState` is a value whose draw is
  never thrown away whatever the range: `distance`, the number of steps from here to
  `calmState`, goes down with each draw.
-/

namespace LedAnimation

/-- A random source, known by the value of its counter. -/
structure Generator where
  state : UInt64
  deriving DecidableEq, Repr, Inhabited

namespace Generator

/-- How far the counter moves at every draw. -/
def stride : UInt64 := 0x2d358dccaa6c78a5

/-- The word shown for a value of the counter: it is multiplied with a whitened copy of itself,
    and the two halves of the product are folded together. -/
def scramble (state : UInt64) : UInt64 :=
  let product := state.toNat * (state ^^^ 0x8bb84b93962eacc9).toNat
  product.toUInt64 ^^^ (product / UInt64.size).toUInt64

/-- The generator one draw later. -/
def advance (g : Generator) : Generator := ⟨g.state + stride⟩

/-- The next output word. -/
def word64 (g : Generator) : UInt64 := scramble g.advance.state

/-- The lower half of the next output word. -/
def word32 (g : Generator) : UInt32 := g.word64.toUInt32

/-- A child generator seeded with the next word, and this generator after that draw. -/
def fork (g : Generator) : Generator × Generator := (⟨g.word64⟩, g.advance)

/-! ## Numbers below a bound -/

/-- A state whose next draw is 1, which no range throws away. -/
def calmState : UInt64 := 1667207865

/-- The number of draws until the counter is at `calmState`.  The factor is the inverse of the
    stride among the 64-bit words. -/
def distance (g : Generator) : Nat := ((calmState - g.state) * 0x32e25c49d2beaf2d).toNat

/-- A draw `r` is thrown away for the range `0..top` when `r * n` leaves too small a remainder,
    `n` being the number of results. -/
def unfair (top : Nat) (r : UInt32) : Prop :=
  r.toNat * (top + 1) % UInt32.size < (UInt32.size - (top + 1)) % (top + 1)

instance (top : Nat) (r : UInt32) : Decidable (unfair top r) := by
  unfold unfair; infer_instance

theorem not_unfair_one (top : Nat) : ¬ unfair top 1 := by
  have hmod : (UInt32.size - (top + 1)) % (top + 1) < top + 1 := Nat.mod_lt _ (by omega)
  have hone : (1 : UInt32).toNat = 1 := rfl
  unfold unfair
  rw [hone, Nat.one_mul]
  by_cases h : top + 1 < UInt32.size
  · rw [Nat.mod_eq_of_lt h]; omega
  · rw [show UInt32.size - (top + 1) = 0 by omega, Nat.zero_mod]; omega

theorem word32_calmState : word32 ⟨calmState⟩ = 1 := by decide

/-- Every draw that does not start at `calmState` comes one step closer to it. -/
theorem distance_advance_lt {g : Generator} (h : g.state ≠ calmState) :
    g.advance.distance < g.distance := by
  have hinv : (stride : UInt64) * 0x32e25c49d2beaf2d = 1 := by decide
  have hstep : (calmState - g.advance.state) * 0x32e25c49d2beaf2d
      = (calmState - g.state) * 0x32e25c49d2beaf2d - 1 := by
    show (calmState - (g.state + stride)) * _ = _
    grind
  have hne : (calmState - g.state) * 0x32e25c49d2beaf2d ≠ 0 := by
    intro hz
    apply h
    grind
  unfold distance
  rw [hstep]
  generalize (calmState - g.state) * 0x32e25c49d2beaf2d = d at hne
  have hpos : d.toNat ≠ 0 := fun hz => hne (UInt64.toNat_inj.1 (by simpa using hz))
  rw [UInt64.toNat_sub_of_le _ _ (by rw [UInt64.le_iff_toNat_le]; simp; omega)]
  simp; omega

/-- A number in `0..top`, from the first draw that is fair. -/
def upTo (top : Nat) (g : Generator) : Nat × Generator :=
  if unfair top g.word32 then upTo top g.advance
  else (g.word32.toNat * (top + 1) / UInt32.size, g.advance)
termination_by g.distance
decreasing_by
  refine distance_advance_lt fun h => ?_
  rename_i hu
  rw [show g = ⟨calmState⟩ by cases g; simp_all, word32_calmState] at hu
  exact not_unfair_one top hu

theorem upTo_le (top : Nat) (g : Generator) : (g.upTo top).1 ≤ top := by
  fun_induction upTo top g with
  | case1 g _ ih => exact ih
  | case2 g _ =>
    have hr : g.word32.toNat < UInt32.size := g.word32.toNat_lt_size
    have : g.word32.toNat * (top + 1) < UInt32.size * (top + 1) :=
      Nat.mul_lt_mul_of_pos_right hr (by omega)
    exact Nat.lt_succ_iff.1 (Nat.div_lt_of_lt_mul this)

/-! ## Inclusive ranges -/

/-- A number in `low..high`.  When the range is all of a type with `size` values, nothing has to
    be scaled and the low bits of one draw are the result. -/
def within (size low high : Nat) (g : Generator) : Nat × Generator :=
  if low = 0 ∧ high + 1 = size then (g.word32.toNat % size, g.advance)
  else
    let draw := g.upTo (high - low)
    (low + draw.1, draw.2)

/-- A byte in `low..high`. -/
def byteIn (low high : UInt8) (g : Generator) : Nat × Generator :=
  g.within 256 low.toNat high.toNat

/-- A 16-bit word in `low..high`. -/
def wordIn (low high : UInt16) (g : Generator) : Nat × Generator :=
  g.within 65536 low.toNat high.toNat

theorem le_within {size low high : Nat} (g : Generator) : low ≤ (g.within size low high).1 := by
  unfold within
  split
  · omega
  · exact Nat.le_add_right low _

theorem within_le {size low high : Nat} (h : low ≤ high) (g : Generator) :
    (g.within size low high).1 ≤ high := by
  unfold within
  split
  · rename_i hs
    have : g.word32.toNat % size < size := Nat.mod_lt _ (by omega)
    exact Nat.le_of_lt_succ (show _ < high + 1 from hs.2 ▸ this)
  · have := upTo_le (high - low) g
    show low + _ ≤ high
    omega

end Generator

end LedAnimation
