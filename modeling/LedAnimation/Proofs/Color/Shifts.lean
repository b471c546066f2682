/-
  What a shift does to the brightest and the darkest channel of a pixel, along a whole chain.

  The way to hue, saturation and value and back keeps both channels exactly, so one step of a shift
  changes them by what it changes of the saturation and the value alone (`brightest_shift_value`,
  `darkest_shift_saturation`).  Nothing adds up along a chain:

  * a hue that turns moves neither of them;
  * a saturation that moves leaves the brightest one, and moves the darkest one against its step;
  * a value that rises adds full steps until it is at 255;
  * a value that falls takes full steps as long as some light is left, and then stands still: the
    next step would put the pixel out, so the pixel keeps its colour from then on.

  A hue and a saturation cannot put a pixel out, as they leave its brightest channel.
-/
import LedAnimation.Proofs.Color.RoundTrip
import LedAnimation.Proofs.Compilation
import Mathlib.Data.List.Iterate

namespace LedAnimation

/-! ## One step -/

namespace Rgb

variable {c : Rgb} {channel : Channel} {step : Int}

/-- Dark is what has no light in its brightest channel. -/
theorem eq_off_iff (c : Rgb) : c = off ↔ c.brightest = 0 := by
  constructor
  · rintro rfl
    rfl
  · intro h
    obtain ⟨r, g, b⟩ := c
    simp only [brightest] at h
    have hr : r = 0 := UInt8.toNat_inj.1 (show r.toNat = 0 by omega)
    have hg : g = 0 := UInt8.toNat_inj.1 (show g.toNat = 0 by omega)
    have hb : b = 0 := UInt8.toNat_inj.1 (show b.toNat = 0 by omega)
    rw [hr, hg, hb]
    rfl

/-- A level stops at 255, which fits into its byte, and at 0, where the difference of
    numbers does. -/
theorem toNat_clamped (level : UInt8) (step : Int) :
    (clamped level step).toNat = min 255 (level.toNat + step).toNat :=
  UInt8.toNat_ofNat_of_lt (Nat.lt_succ_of_le (Nat.min_le_left 255 _))

/-- A hue that turns leaves the brightest channel, as it only names another sector, -/
theorem brightest_shift_hue (c : Rgb) (step : Int) :
    (c.shift .hue step).brightest = c.brightest := by
  rw [shift, Hsv.brightest_toRgb]
  exact c.toNat_val_toHsv

/-- and for the same reason the darkest one. -/
theorem darkest_shift_hue (c : Rgb) (step : Int) : (c.shift .hue step).darkest = c.darkest := by
  rw [shift, Hsv.darkest_toRgb]
  exact c.least_toHsv

/-- A saturation that moves leaves the value, and so the brightest channel. -/
theorem brightest_shift_saturation (c : Rgb) (step : Int) :
    (c.shift .saturation step).brightest = c.brightest := by
  rw [shift, Hsv.brightest_toRgb]
  exact c.toNat_val_toHsv

/-- What it does change is the darkest channel, which is the least light that the new saturation
    allows. -/
theorem darkest_shift_saturation (c : Rgb) (step : Int) :
    (c.shift .saturation step).darkest
      = Hsv.least c.brightest (min 255 (c.saturation + step).toNat) := by
  rw [shift, Hsv.darkest_toRgb]
  show Hsv.least c.toHsv.val.toNat (clamped c.toHsv.sat step).toNat = _
  rw [toNat_clamped, toNat_val_toHsv, toNat_sat_toHsv]

/-- A value that moves is the brightest channel that moves, and stops where the value does. -/
theorem brightest_shift_value (c : Rgb) (step : Int) :
    (c.shift .value step).brightest = min 255 (c.brightest + step).toNat := by
  rw [shift, Hsv.brightest_toRgb]
  show (clamped c.toHsv.val step).toNat = _
  rw [toNat_clamped, toNat_val_toHsv]

/-- Only a change of the value can put a pixel out. -/
theorem shift_ne_off (hlit : c ≠ off) (hchannel : channel ≠ .value) (step : Int) :
    c.shift channel step ≠ off := by
  have hbright : (c.shift channel step).brightest = c.brightest := by
    cases channel with
    | hue => exact c.brightest_shift_hue step
    | saturation => exact c.brightest_shift_saturation step
    | value => exact absurd rfl hchannel
  rw [Ne, eq_off_iff, hbright, ← eq_off_iff]
  exact hlit

/-- A pixel with light takes its shift as long as there is light after it, -/
theorem shiftLit_of_ne_off (hlit : c ≠ off) (h : c.shift channel step ≠ off) :
    c.shiftLit channel step = c.shift channel step := by
  rw [shiftLit, if_neg hlit, if_neg h]

/-- and keeps its colour where there would be none. -/
theorem shiftLit_of_eq_off (h : c.shift channel step = off) : c.shiftLit channel step = c := by
  rw [shiftLit]
  split
  · rfl
  · exact if_pos h

/-- More saturation leaves less light in the darkest channel. -/
theorem least_le_least (v : Nat) {s s' : Nat} (h : s ≤ s') : Hsv.least v s' ≤ Hsv.least v s :=
  Nat.div_le_div_right (Nat.mul_le_mul_left v (Nat.sub_le_sub_left h 255))

/-- The darkest channel as the saturation tells it. -/
theorem least_saturation_eq_darkest (c : Rgb) : Hsv.least c.brightest c.saturation = c.darkest := by
  rw [← toNat_val_toHsv, ← toNat_sat_toHsv]
  exact c.least_toHsv

/-- **The saturation moves the darkest channel against its step.** -/
theorem darkest_shift_saturation_le (c : Rgb) (step : Int) :
    (step ≤ 0 → c.darkest ≤ (c.shift .saturation step).darkest) ∧
      (0 ≤ step → (c.shift .saturation step).darkest ≤ c.darkest) := by
  have hle := c.saturation_le
  rw [darkest_shift_saturation, ← least_saturation_eq_darkest]
  constructor
  · intro hstep
    exact least_le_least _ (by omega)
  · intro hstep
    exact least_le_least _ (by omega)

/-- **A value that falls** loses a full step, or stands still. -/
theorem shiftLit_value_of_neg (hlit : c ≠ off) (hstep : step < 0) :
    if c.brightest ≤ step.natAbs then c.shiftLit .value step = c
    else (c.shiftLit .value step).brightest = c.brightest - step.natAbs := by
  have hshift := c.brightest_shift_value step
  have hle := c.brightest_le
  split
  · exact shiftLit_of_eq_off ((eq_off_iff _).2 (by omega))
  · have hne : c.shift .value step ≠ off := by
      rw [Ne, eq_off_iff]
      omega
    rw [shiftLit_of_ne_off hlit hne]
    omega

/-- **A value that rises** gains a full step, up to 255. -/
theorem brightest_shiftLit_value_of_nonneg (hlit : c ≠ off) (hstep : 0 ≤ step) :
    (c.shiftLit .value step).brightest = min 255 (c.brightest + step.natAbs) := by
  have hshift := c.brightest_shift_value step
  have hpos : c.brightest ≠ 0 := fun h => hlit ((eq_off_iff c).2 h)
  have hne : c.shift .value step ≠ off := by
    rw [Ne, eq_off_iff]
    omega
  rw [shiftLit_of_ne_off hlit hne]
  omega

end Rgb

/-! ## Along a chain -/

/-- A chain and the element it begins with are the iterates of its step. -/
theorem cons_chain {α : Type} (f : α → α) (k : Nat) (x : α) :
    x :: chain f k x = List.iterate f x (k + 1) := by
  induction k generalizing x with
  | zero => rfl
  | succ k ih => rw [chain_succ, ih]; rfl

/-- Element `i` of a chain, counted from the element it begins with. -/
theorem getElem?_cons_chain {α : Type} {f : α → α} {k i : Nat} {x y : α}
    (h : (x :: chain f k x)[i]? = some y) : i ≤ k ∧ y = f^[i] x := by
  rw [cons_chain] at h
  obtain ⟨hi, rfl⟩ := List.getElem?_eq_some_iff.1 h
  rw [List.length_iterate] at hi
  exact ⟨Nat.le_of_lt_succ hi, List.getElem_iterate ..⟩

/-- Whatever is on a chain is some iterate, for facts that hold of all of them. -/
theorem exists_iterate_of_mem {α : Type} {f : α → α} {k : Nat} {x y : α}
    (h : y ∈ x :: chain f k x) : ∃ i, y = f^[i] x := by
  rw [cons_chain, List.mem_iterate] at h
  obtain ⟨i, -, hi⟩ := h
  exact ⟨i, hi⟩

/-- And every iterate within its length is on the chain. -/
theorem getElem?_cons_chain_of_le {α : Type} (f : α → α) {k i : Nat} (x : α) (h : i ≤ k) :
    (x :: chain f k x)[i]? = some (f^[i] x) := by
  rw [cons_chain, List.getElem?_iterate f x _ _ (Nat.lt_succ_of_le h)]

namespace Rgb

variable {c : Rgb} {channel : Channel} {step : Int}

/-- A lit pixel stays lit. -/
theorem shiftLit_iterate_ne_off (channel : Channel) (step : Int) (hlit : c ≠ off) (i : Nat) :
    (shiftLit channel step)^[i] c ≠ off := by
  induction i with
  | zero => exact hlit
  | succ i ih =>
    rw [Function.iterate_succ_apply', Ne, shiftLit_eq_off_iff]
    exact ih

/-- Along a chain of hues or saturations every step is the shift itself. -/
theorem shiftLit_iterate_succ (hlit : c ≠ off) (hchannel : channel ≠ .value) (i : Nat) :
    (shiftLit channel step)^[i + 1] c = ((shiftLit channel step)^[i] c).shift channel step := by
  have hi := shiftLit_iterate_ne_off channel step hlit i
  rw [Function.iterate_succ_apply', shiftLit_of_ne_off hi (shift_ne_off hi hchannel step)]

/-- The extremes along a chain of hues.  Nothing adds up, since each step keeps both exactly. -/
theorem extremes_iterate_hue (hlit : c ≠ off) (i : Nat) :
    ((shiftLit .hue step)^[i] c).brightest = c.brightest ∧
      ((shiftLit .hue step)^[i] c).darkest = c.darkest := by
  induction i with
  | zero => exact ⟨rfl, rfl⟩
  | succ i ih =>
    rw [shiftLit_iterate_succ hlit (by decide), brightest_shift_hue, darkest_shift_hue]
    exact ih

/-- The brightest channel along a chain of saturations. -/
theorem brightest_iterate_saturation (hlit : c ≠ off) (i : Nat) :
    ((shiftLit .saturation step)^[i] c).brightest = c.brightest := by
  induction i with
  | zero => rfl
  | succ i ih =>
    rw [shiftLit_iterate_succ hlit (by decide), brightest_shift_saturation]
    exact ih

/-- A rising value gains full steps until it is full.  Having stopped at 255 it stays there, so that
    the two bounds, that of a step and that of the chain, are one. -/
theorem brightest_iterate_value_of_nonneg (hlit : c ≠ off) (hstep : 0 ≤ step) (i : Nat) :
    ((shiftLit .value step)^[i] c).brightest = min 255 (c.brightest + i * step.natAbs) := by
  induction i with
  | zero =>
    have hle := c.brightest_le
    rw [Function.iterate_zero_apply, Nat.zero_mul]
    omega
  | succ i ih =>
    have hi := shiftLit_iterate_ne_off .value step hlit i
    rw [Function.iterate_succ_apply', brightest_shiftLit_value_of_nonneg hi hstep, ih,
      Nat.add_one_mul i]
    omega

/-- The number of full steps a value of `v` can fall without losing all its light. -/
def fullSteps (v : Nat) (step : Int) : Nat := (v - 1) / step.natAbs

/-- It has light enough for these, and something is left of it, -/
theorem mul_fullSteps_le (v : Nat) (step : Int) : step.natAbs * fullSteps v step ≤ v - 1 :=
  Nat.mul_div_le _ _

/-- but not enough for one more. -/
theorem lt_mul_fullSteps_add (v : Nat) {step : Int} (hstep : step < 0) :
    v - 1 < step.natAbs * fullSteps v step + step.natAbs := by
  have hlt : v - 1 < step.natAbs * (fullSteps v step + 1) :=
    Nat.lt_mul_div_succ _ (Int.natAbs_pos.2 (Int.ne_of_lt hstep))
  rw [Nat.mul_add_one] at hlt
  exact hlt

/-- **A falling value takes full steps while it can.**  By induction on the steps; the case split is
    whether there is light enough left for one more. -/
theorem brightest_iterate_value_of_neg (hlit : c ≠ off) (hstep : step < 0) (i : Nat) :
    ((shiftLit .value step)^[i] c).brightest
      = c.brightest - step.natAbs * min i (fullSteps c.brightest step) := by
  have hpos : c.brightest ≠ 0 := fun h => hlit ((eq_off_iff c).2 h)
  have hfull := mul_fullSteps_le c.brightest step
  have hfull' := lt_mul_fullSteps_add c.brightest hstep
  induction i with
  | zero => rw [Nat.zero_min, Nat.mul_zero]; rfl
  | succ i ih =>
    have hi := shiftLit_iterate_ne_off .value step hlit i
    have hone := shiftLit_value_of_neg hi hstep
    rw [← Function.iterate_succ_apply' (shiftLit .value step) i c, ih] at hone
    rcases Nat.lt_or_ge i (fullSteps c.brightest step) with hlt | hge
    -- enough light for a full step
    · have hroom := Nat.mul_le_mul_left step.natAbs (Nat.succ_le_of_lt hlt)
      rw [Nat.mul_succ] at hroom
      rw [Nat.min_eq_left (Nat.le_of_lt hlt), if_neg (by omega)] at hone
      rw [Nat.min_eq_left hlt, Nat.mul_succ, hone]
      omega
    -- too little for one, so the pixel keeps its colour
    · rw [Nat.min_eq_right hge, if_pos (by omega)] at hone
      rw [Nat.min_eq_right (Nat.le_succ_of_le hge), hone, ih, Nat.min_eq_right hge]

/-- **Then it stands still**, with all that there is to the colour. -/
theorem iterate_value_of_fullSteps_le (hlit : c ≠ off) (hstep : step < 0) {i : Nat}
    (h : fullSteps c.brightest step ≤ i) :
    (shiftLit .value step)^[i] c = (shiftLit .value step)^[fullSteps c.brightest step] c := by
  have hfull' := lt_mul_fullSteps_add c.brightest hstep
  obtain ⟨more, rfl⟩ := Nat.exists_eq_add_of_le h
  induction more with
  | zero => rfl
  | succ more ih =>
    have hmore := Nat.le_add_right (fullSteps c.brightest step) more
    have hlast := shiftLit_iterate_ne_off .value step hlit
      (fullSteps c.brightest step + more)
    have hone := shiftLit_value_of_neg hlast hstep
    have hbright := brightest_iterate_value_of_neg hlit hstep (fullSteps c.brightest step + more)
    rw [Nat.min_eq_right hmore] at hbright
    rw [if_pos (by omega)] at hone
    rw [← Nat.add_assoc, Function.iterate_succ_apply', hone, ih hmore]

end Rgb

/-! ## The pixels of an action -/

variable {n : Nat}

/-- The colours a pixel goes through while an action plays: that of the frame before the action, and
    then one for each frame of the action. -/
def Action.colors (action : Action) (start : Frame n) (g : Generator) (x : Fin n) : List Rgb :=
  (start :: (action.expand start g).1).map (·[x])

/-- A pixel goes its own way: what an action does to a frame it does to each pixel by itself. -/
theorem Action.colors_shift (channel : Channel) (step : Int16) (times : UInt16) (start : Frame n)
    (g : Generator) (x : Fin n) :
    (Action.shift channel step times).colors start g x
      = start[x] :: chain (Rgb.shiftLit channel step.toInt) times.toNat start[x] := by
  have hpixel : ∀ frame : Frame n,
      (frame.shiftLit channel step.toInt)[x] = Rgb.shiftLit channel step.toInt frame[x] :=
    fun frame => Vector.getElem_map _ x.isLt
  rw [colors, List.map_cons]
  exact congrArg (start[x] :: ·) (map_chain hpixel times.toNat start)

/-- What the shifts of a lit pixel by one step, each along its own channel, keep of its brightest
    and its darkest channel.  Colour 0 is the one before the action, colour `i` the one in its frame
    `i`. -/
structure ExtremesKept (step : Int) (times : Nat) (first : Rgb) (colors : Channel → List Rgb) :
    Prop where
  /-- There is one colour for each frame. -/
  length : ∀ channel, (colors channel).length = times + 1
  begins : ∀ channel, (colors channel)[0]? = some first
  hue : ∀ c ∈ colors .hue, c.brightest = first.brightest ∧ c.darkest = first.darkest
  saturation : ∀ c ∈ colors .saturation, c.brightest = first.brightest
  /-- From frame to frame a saturation that falls never takes light from the darkest channel, and
      one that rises never gives it any. -/
  darkest : ∀ i c d, (colors .saturation)[i]? = some c → (colors .saturation)[i + 1]? = some d →
    (step ≤ 0 → c.darkest ≤ d.darkest) ∧ (0 ≤ step → d.darkest ≤ c.darkest)
  rising : 0 ≤ step → ∀ i c, (colors .value)[i]? = some c →
    c.brightest = min 255 (first.brightest + i * step.natAbs)
  falling : step < 0 → ∀ i c, (colors .value)[i]? = some c →
    c.brightest
      = first.brightest - step.natAbs * min i ((first.brightest - 1) / step.natAbs)
  /-- After the last full step the colour does not change any more. -/
  frozen : step < 0 → ∀ i c, (colors .value)[i]? = some c →
    (first.brightest - 1) / step.natAbs ≤ i →
    (colors .value)[(first.brightest - 1) / step.natAbs]? = some c
  /-- No pixel goes out, and only a value has to be kept from putting it out. -/
  lit : ∀ channel, ∀ c ∈ colors channel,
    c ≠ off ∧ (channel ≠ .value → c.shift channel step ≠ off)

/-- **What a shift does to brightness and extremes**, for every chain. -/
theorem Action.shift_keeps_extremes (start : Frame n) (g : Generator) (step : Int16)
    (times : UInt16) (x : Fin n) (hlit : start[x] ≠ off) :
    ExtremesKept step.toInt times.toNat start[x]
      fun channel => (Action.shift channel step times).colors start g x := by
  simp only [colors_shift]
  constructor
  case length =>
    intro channel
    rw [List.length_cons, length_chain]
  case begins => exact fun _ => rfl
  case hue =>
    intro c hc
    obtain ⟨i, rfl⟩ := exists_iterate_of_mem hc
    exact Rgb.extremes_iterate_hue hlit i
  case saturation =>
    intro c hc
    obtain ⟨i, rfl⟩ := exists_iterate_of_mem hc
    exact Rgb.brightest_iterate_saturation hlit i
  case darkest =>
    intro i c d hc hd
    obtain ⟨-, rfl⟩ := getElem?_cons_chain hc
    obtain ⟨-, rfl⟩ := getElem?_cons_chain hd
    rw [Rgb.shiftLit_iterate_succ hlit (by decide)]
    exact Rgb.darkest_shift_saturation_le _ step.toInt
  case rising =>
    intro hstep i c hc
    obtain ⟨-, rfl⟩ := getElem?_cons_chain hc
    exact Rgb.brightest_iterate_value_of_nonneg hlit hstep i
  case falling =>
    intro hstep i c hc
    obtain ⟨-, rfl⟩ := getElem?_cons_chain hc
    exact Rgb.brightest_iterate_value_of_neg hlit hstep i
  case frozen =>
    intro hstep i c hc hi
    obtain ⟨htimes, rfl⟩ := getElem?_cons_chain hc
    rw [Rgb.iterate_value_of_fullSteps_le hlit hstep hi]
    exact getElem?_cons_chain_of_le _ _ (Nat.le_trans hi htimes)
  case lit =>
    intro channel c hc
    obtain ⟨i, rfl⟩ := exists_iterate_of_mem hc
    have hci := Rgb.shiftLit_iterate_ne_off channel step.toInt hlit i
    exact ⟨hci, fun hchannel => Rgb.shift_ne_off hci hchannel step.toInt⟩

/-- A setting sun: the red one falls from 255 by 100 at a time, twice. -/
theorem Action.setting_sun_keeps_extremes :
    ExtremesKept (-100) 3 ⟨255, 40, 0⟩ fun channel =>
      (Action.shift channel (-100) 3).colors #v[⟨255, 40, 0⟩, off] ⟨7⟩ 0 :=
  Action.shift_keeps_extremes (#v[⟨255, 40, 0⟩, off] : Frame 2) ⟨7⟩ (-100) 3 0 (by decide)

end LedAnimation
