/-
  Actions: what a script can hold in the place of a frame.  An action continues from the last
  frame before it, and expands into any number of frames, possibly none.

  * `delay min max` holds that frame for a random number of further frames in `min..max`.
  * `shift channel step times` emits `times` frames, each made from the one before it by moving
    one colour coordinate of every lit pixel.

  A shift never touches transparency: a pixel that is `off` stays so, and a lit pixel whose shifted
  colour would be `off` keeps the colour it has.
-/
import LedAnimation.Frame
import LedAnimation.Generator

namespace LedAnimation

/-- An instruction of a script. -/
inductive Action where
  | delay (min max : UInt16)
  | shift (channel : Channel) (step : Int16) (times : UInt16)
  deriving DecidableEq, Repr

/-! ## Shifting frames -/

/-- One step of a shift on a single pixel. -/
def Rgb.shiftLit (channel : Channel) (step : Int) (c : Rgb) : Rgb :=
  if c = off then c
  else
    let shifted := c.shift channel step
    if shifted = off then c else shifted

/-- One step of a shift on a whole frame. -/
def Frame.shiftLit {n : Nat} (channel : Channel) (step : Int) (frame : Frame n) : Frame n :=
  frame.map (Rgb.shiftLit channel step)

/-- A step neither lights a pixel nor puts one out. -/
@[simp] theorem Rgb.shiftLit_eq_off_iff (channel : Channel) (step : Int) (c : Rgb) :
    c.shiftLit channel step = off ↔ c = off := by
  unfold Rgb.shiftLit
  by_cases h : c = off
  · simp [h]
  · by_cases hs : c.shift channel step = off <;> simp [h, hs]

section Chain

variable {α : Type}

/-- The chain from `x` on, put behind what `acc` holds in reverse. -/
def chainOnto (f : α → α) : Nat → α → List α → List α
  | 0, _, acc => acc.reverse
  | k + 1, x, acc => chainOnto f k (f x) (f x :: acc)

/-- The first `k` elements of `f x, f (f x), …` -/
def chain (f : α → α) (k : Nat) (x : α) : List α := chainOnto f k x []

theorem chainOnto_eq (f : α → α) (k : Nat) (x : α) (acc : List α) :
    chainOnto f k x acc = acc.reverse ++ chain f k x := by
  induction k generalizing x acc with
  | zero => simp [chainOnto, chain]
  | succ k ih => simp [chainOnto, chain, ih (f x) (f x :: acc), ih (f x) [f x]]

@[simp] theorem chain_zero (f : α → α) (x : α) : chain f 0 x = [] := rfl

@[simp] theorem chain_succ (f : α → α) (k : Nat) (x : α) :
    chain f (k + 1) x = f x :: chain f k (f x) := by
  rw [chain, chainOnto, chainOnto_eq]; rfl

@[simp] theorem length_chain (f : α → α) (k : Nat) (x : α) : (chain f k x).length = k := by
  induction k generalizing x with
  | zero => rfl
  | succ k ih => simp [ih]

end Chain

namespace Action

/-- A delay needs a range that holds a number. -/
def isValid : Action → Bool
  | .delay min max => min ≤ max
  | .shift .. => true

/-- The frames an action stands for when `last` is the frame before it. -/
def expand {n : Nat} (action : Action) (last : Frame n) (g : Generator) :
    List (Frame n) × Generator :=
  match action with
  | .delay min max =>
    let hold := g.wordIn min max
    (List.replicate hold.1 last, hold.2)
  | .shift channel step times => (chain (Frame.shiftLit channel step.toInt) times.toNat last, g)

/-- The name a shift of this channel goes by in messages. -/
def shiftName : Channel → String
  | .hue => "ShiftHue"
  | .saturation => "ShiftSaturation"
  | .value => "ShiftValue"

/-- An action as messages show it: its name and its fields in braces. -/
def text : Action → String
  | .delay min max => s!"VariableDelay \x7b min: {min}, max: {max} \x7d"
  | .shift channel step times =>
    s!"{shiftName channel} \x7b step: {step}, repeat: {times} \x7d"

example : (delay 3 1).text = "VariableDelay \x7b min: 3, max: 1 \x7d" := by decide +kernel
example : (shift .hue (-8) 5).text = "ShiftHue \x7b step: -8, repeat: 5 \x7d" := by decide +kernel

end Action

end LedAnimation
