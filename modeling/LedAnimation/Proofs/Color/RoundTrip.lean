/-
  A colour that goes to hue, saturation and value and comes back.

  Its brightest channel is the value and comes back as it was.  So does its darkest one: the
  saturation is rounded down by less than one point, which is worth less than one level of any value
  (`least_saturation`).  The channel between them is rounded three times over, and its hue is
  rounded to one of 43 steps of a sector.  All in all it comes back at most 4 levels brighter and at
  most 12 levels darker (`between_le_add`, `le_between_add`), and in its own place
  (`exists_common_sector`).

  On the way nothing is divided by 0, and every number that is put into a byte fits there: `toHsv?`
  is the same conversion on guard, which gives up as soon as one of these happens.  The way back
  divides by 85 and by 255 only.
-/
import LedAnimation.Proofs.Color.Sectors

namespace LedAnimation

/-! ## What rounding costs -/

namespace Hsv

/-- **The darkest channel comes back**, `d` being its distance from the brightest one. -/
theorem least_saturation {top d : Nat} (hd : d ≤ top) (htop : top ≤ 255) (hpos : 0 < top) :
    least top (d * 255 / top) = top - d := by
  have hs := Nat.mul_div_le (d * 255) top
  have hs' := Nat.lt_mul_div_succ (d * 255) hpos
  generalize d * 255 / top = s at hs hs'
  rw [Nat.mul_add_one top s] at hs'
  rw [least, Nat.mul_sub]
  -- a whole point of saturation would be worth `top` out of 255 levels, which is one at most
  refine Nat.div_eq_of_lt_le ?_ ?_ <;> omega

/-! The channel in the middle lies `e` levels above the darkest one, and comes back with weight `w`.
    The value loses `top * (… / 255)` out of 255 to it; without rounding that would be
    `d * (255 - w)`. -/

section Middle

variable {top d e w : Nat}

/-- What is lost to the weight is at most what would be lost without rounding: the saturation and
    the share of it are both rounded down, so the value is cut too little and never too much. -/
theorem loss_le (top d w : Nat) : top * (d * 255 / top * (255 - w) / 255) ≤ d * (255 - w) := by
  have hsat : top * (d * 255 / top) ≤ d * 255 := Nat.mul_div_le (d * 255) top
  generalize d * 255 / top = s at hsat
  -- each floor is bounded by what it was taken of, and the two bounds are multiplied through
  have hshare : 255 * (s * (255 - w) / 255) ≤ s * (255 - w) := Nat.mul_div_le _ 255
  generalize s * (255 - w) / 255 = a at hshare
  have hscaled : 255 * (top * a) ≤ 255 * (d * (255 - w)) :=
    calc 255 * (top * a) = top * (255 * a) := by rw [Nat.mul_left_comm]
      _ ≤ top * (s * (255 - w)) := Nat.mul_le_mul_left top hshare
      _ = top * s * (255 - w) := (Nat.mul_assoc ..).symm
      _ ≤ d * 255 * (255 - w) := Nat.mul_le_mul_right (255 - w) hsat
      _ = 255 * (d * (255 - w)) := by rw [Nat.mul_comm d 255, Nat.mul_assoc]
  exact Nat.le_of_mul_le_mul_left hscaled (by decide)

/-- And it is less than that by the two roundings at most.  A point of saturation is worth `top` at
    full weight, and the rounded share falls short by 254 out of 255 of one more. -/
theorem mul_le_loss_add (hpos : 0 < top) :
    255 * (d * (255 - w))
      ≤ 255 * (top * (d * 255 / top * (255 - w) / 255)) + top * (255 - w) + top * 254 := by
  have hsat : d * 255 < top * (d * 255 / top + 1) := Nat.lt_mul_div_succ (d * 255) hpos
  generalize d * 255 / top = s at hsat
  have hshare : s * (255 - w) < 255 * (s * (255 - w) / 255 + 1) :=
    Nat.lt_mul_div_succ _ (by decide)
  generalize s * (255 - w) / 255 = a at hshare
  -- the rounding of the saturation, and after it the rounding of the share
  have hfirst : 255 * (d * (255 - w)) ≤ top * (s * (255 - w)) + top * (255 - w) :=
    calc 255 * (d * (255 - w)) = d * 255 * (255 - w) := by rw [Nat.mul_comm d 255, Nat.mul_assoc]
      _ ≤ top * (s + 1) * (255 - w) := Nat.mul_le_mul_right (255 - w) (Nat.le_of_lt hsat)
      _ = top * (s * (255 - w)) + top * (255 - w) := by
          rw [Nat.mul_add_one top s, Nat.add_mul, Nat.mul_assoc]
  have hsecond : top * (s * (255 - w)) ≤ 255 * (top * a) + top * 254 :=
    calc top * (s * (255 - w)) ≤ top * (255 * a + 254) := Nat.mul_le_mul_left top (by omega)
      _ = 255 * (top * a) + top * 254 := by rw [Nat.mul_add, Nat.mul_left_comm]
  omega

/-- In levels that is less than two, which `between_le_add` needs: 509 out of 255. -/
theorem le_loss_add (hpos : 0 < top) (htop : top ≤ 255) :
    d * (255 - w) ≤ top * (d * 255 / top * (255 - w) / 255) + 509 := by
  have hloss := mul_le_loss_add (d := d) (w := w) hpos
  have hrest : top * (255 - w) ≤ top * 255 := Nat.mul_le_mul_left top (Nat.sub_le 255 w)
  omega

/-- The middle channel comes back at most 4 levels brighter, -/
theorem between_le_add (hpos : 0 < top) (htop : top ≤ 255) (hd : d ≤ top) (hw : w ≤ 255)
    (hweight : d * w ≤ 255 * e + 3 * d) :
    between top (d * 255 / top) w ≤ top - d + e + 4 := by
  have hloss := le_loss_add (d := d) (w := w) hpos htop
  have hall : d * w ≤ d * 255 := Nat.mul_le_mul_left d hw
  rw [between]
  -- from here on only the bounds on the quotient count, so it may be any number
  generalize d * 255 / top * (255 - w) / 255 = a at hloss
  rw [Nat.mul_sub] at hloss ⊢
  omega

/-- and at most 12 levels darker. -/
theorem le_between_add (htop : top ≤ 255) (hd : d ≤ top) (hw : w ≤ 255)
    (hweight : 255 * e ≤ d * w + 12 * d) :
    top - d + e ≤ between top (d * 255 / top) w + 12 := by
  have hloss := loss_le top d w
  have hall : d * w ≤ d * 255 := Nat.mul_le_mul_left d hw
  rw [between]
  generalize d * 255 / top * (255 - w) / 255 = a at hloss
  rw [Nat.mul_sub] at hloss ⊢
  omega

end Middle

end Hsv

/-! ## The way there -/

namespace Rgb

/-- So the spread, a difference of natural numbers, is never cut off at 0. -/
theorem darkest_le_brightest (c : Rgb) : c.darkest ≤ c.brightest := by
  unfold darkest brightest
  omega

/-- A channel is a byte, and so is the brightest of the three. -/
theorem brightest_le (c : Rgb) : c.brightest ≤ 255 := by
  have hr : c.r.toNat < 256 := c.r.toNat_lt_size
  have hg : c.g.toNat < 256 := c.g.toNat_lt_size
  have hb : c.b.toNat < 256 := c.b.toNat_lt_size
  unfold brightest
  omega

/-- The saturation divides the one by the other, and comes out as a share. -/
theorem spread_le_brightest (c : Rgb) : c.spread ≤ c.brightest := Nat.sub_le _ _

/-- The saturation fits into its byte. -/
theorem saturation_le (c : Rgb) : c.saturation ≤ 255 :=
  Nat.div_le_of_le_mul (Nat.mul_le_mul_right 255 c.spread_le_brightest)

/-- Nothing is cut off where the value becomes a byte. -/
theorem toNat_val_toHsv (c : Rgb) : c.toHsv.val.toNat = c.brightest := by
  have hbyte : c.brightest.toUInt8.toNat = c.brightest :=
    UInt8.toNat_ofNat_of_lt (Nat.lt_succ_of_le c.brightest_le)
  rw [toHsv]
  -- greys and other colours have the same value
  split <;> exact hbyte

/-- Nothing is cut off of the saturation either.  Greys, whose hue and saturation are left at 0
    without any division, fall under the same formula. -/
theorem toNat_sat_toHsv (c : Rgb) : c.toHsv.sat.toNat = c.saturation := by
  rw [toHsv]
  by_cases hspread : c.spread = 0
  · rw [if_pos hspread, saturation, hspread, Nat.zero_mul, Nat.zero_div]
    rfl
  · rw [if_neg hspread]
    exact UInt8.toNat_ofNat_of_lt (Nat.lt_succ_of_le c.saturation_le)

/-- The hue is the angle, brought onto the circle.  Only a grey has none. -/
theorem toNat_hue_toHsv {c : Rgb} (hspread : c.spread ≠ 0) :
    (c.toHsv.hue.toNat : Int) = c.hueAngle % 256 := by
  rw [toHsv, if_neg hspread]
  show (((c.hueAngle % 256).toNat.toUInt8.toNat : Nat) : Int) = _
  have hbyte : (c.hueAngle % 256).toNat.toUInt8.toNat = (c.hueAngle % 256).toNat :=
    UInt8.toNat_ofNat_of_lt (show _ < 256 by omega)
  rw [hbyte]
  omega

/-- The saturation leaves exactly the darkest channel. -/
theorem least_toHsv (c : Rgb) : Hsv.least c.toHsv.val.toNat c.toHsv.sat.toNat = c.darkest := by
  rw [toNat_val_toHsv, toNat_sat_toHsv]
  -- black has no brightest channel to divide by, and is its own case
  rcases Nat.eq_zero_or_pos c.brightest with hdark | hpos
  · have hle := c.darkest_le_brightest
    rw [hdark, Hsv.least, Nat.zero_mul, Nat.zero_div]
    omega
  · have hle := c.darkest_le_brightest
    have hleast := Hsv.least_saturation c.spread_le_brightest c.brightest_le hpos
    rw [saturation, hleast, spread]
    omega

end Rgb

/-! ## There and back -/

namespace Sector

/-- All sectors have the same greys. -/
theorem arrange_grey (s s' : Sector) (x : UInt8) : s.arrange x x x = s'.arrange x x x := by
  cases s <;> cases s' <;> rfl

/-- The weight of a middle channel that comes back after `43 * e / d` steps is off by less than two
    steps. -/
theorem weight_near {d e w : Nat} (hd : 0 < d) (he : e ≤ d) (hleast : 6 * (43 * e / d) ≤ w + 6)
    (hmost : w ≤ 6 * (43 * e / d)) : d * w ≤ 255 * e + 3 * d ∧ 255 * e ≤ d * w + 12 * d := by
  have hk : d * (43 * e / d) ≤ 43 * e := Nat.mul_div_le (43 * e) d
  have hk' : 43 * e < d * (43 * e / d + 1) := Nat.lt_mul_div_succ (43 * e) hd
  generalize 43 * e / d = k at hk hk' hleast hmost
  have hscaled : d * (6 * k) ≤ d * (w + 6) := Nat.mul_le_mul_left d hleast
  have hscaled' : d * w ≤ d * (6 * k) := Nat.mul_le_mul_left d hmost
  rw [Nat.mul_add_one d k] at hk'
  rw [Nat.mul_add] at hscaled
  rw [Nat.mul_left_comm] at hscaled hscaled'
  omega

end Sector

namespace Rgb

variable {top mid low : UInt8}

/-- The middle channel a colour comes back with. -/
def middle (c : Rgb) : UInt8 :=
  (Hsv.between c.toHsv.val.toNat c.toHsv.sat.toNat (Sector.weight c.toHsv.hue.toNat)).toUInt8

/-- The brightest and the darkest channel come back as they were, in the sector of the hue. -/
theorem toRgb_toHsv_arrange (s : Sector) (hlow : low ≤ mid) (htop : mid ≤ top) :
    (s.arrange top mid low).toHsv.toRgb
        = (Sector.ofHue (s.arrange top mid low).toHsv.hue.toNat).arrange top
            (s.arrange top mid low).middle low ∧
      low ≤ (s.arrange top mid low).middle ∧ (s.arrange top mid low).middle ≤ top := by
  -- the value, and the least amount of light for the saturation, are those of the colour itself
  have hval := toNat_val_toHsv (s.arrange top mid low)
  have hleast := least_toHsv (s.arrange top mid low)
  have hordered := (s.arrange top mid low).toHsv.channels_ordered
    (Sector.weight (s.arrange top mid low).toHsv.hue.toNat)
  rw [s.brightest_arrange hlow htop, UInt8.toNat_inj] at hval
  rw [← Hsv.toNat_least, s.darkest_arrange hlow htop, UInt8.toNat_inj] at hleast
  rw [hleast, hval] at hordered
  refine ⟨?_, ?_, ?_⟩
  · rw [Hsv.toRgb_eq, hleast, middle, hval]
  · rw [middle, hval]
    exact hordered.1
  · rw [middle, hval]
    exact hordered.2

/-- The middle channel of a colour that is no grey, in closed form. -/
theorem toNat_middle (s : Sector) (hlow : low ≤ mid) (htop : mid ≤ top) (hlit : low < top)
    (hlead : mid = top → s.leads) :
    (s.arrange top mid low).toHsv.hue.toNat = s.hue (Sector.share top mid low) ∧
      (s.arrange top mid low).middle.toNat
        = Hsv.between top.toNat ((top.toNat - low.toNat) * 255 / top.toNat)
            (Sector.weight (s.hue (Sector.share top mid low))) := by
  -- the hue lands in the byte it is meant for, and so the sector and the weight are known
  have hspread : (s.arrange top mid low).spread ≠ 0 := by
    rw [UInt8.lt_iff_toNat_lt] at hlit
    rw [s.spread_arrange hlow htop]
    omega
  have hhue : (s.arrange top mid low).toHsv.hue.toNat = s.hue (Sector.share top mid low) := by
    have hangle := toNat_hue_toHsv hspread
    rw [s.hueAngle_arrange hlow htop hlit hlead] at hangle
    exact Int.ofNat.inj hangle
  refine ⟨hhue, ?_⟩
  rw [middle, Hsv.toNat_between, toNat_val_toHsv, toNat_sat_toHsv, saturation, hhue,
    s.brightest_arrange hlow htop, s.spread_arrange hlow htop]

/-- The middle channel comes back at most 4 levels brighter or 12 levels darker. -/
theorem middle_near (s : Sector) (hlow : low ≤ mid) (htop : mid ≤ top) (hlit : low < top)
    (hlead : mid = top → s.leads) :
    (s.arrange top mid low).middle.toNat ≤ mid.toNat + 4 ∧
      mid.toNat ≤ (s.arrange top mid low).middle.toNat + 12 := by
  obtain ⟨-, hmiddle⟩ := toNat_middle s hlow htop hlit hlead
  obtain ⟨hleast, hmost, -⟩ := s.ofHue_hue (Sector.share_le hlow htop)
    -- a full share means two bright channels, and then the sector leads
    fun h => hlead (Sector.eq_of_share_eq hlow htop h)
  rw [UInt8.le_iff_toNat_le] at hlow htop
  rw [UInt8.lt_iff_toNat_lt] at hlit
  have htop255 : top.toNat ≤ 255 := Nat.le_of_lt_succ top.toNat_lt_size
  have hspread : 0 < top.toNat - low.toNat := by omega
  have hway : mid.toNat - low.toNat ≤ top.toNat - low.toNat := by omega
  obtain ⟨hup, hdown⟩ := Sector.weight_near hspread hway hleast hmost
  have hw := Sector.weight_le (s.hue (Sector.share top mid low))
  have hbrighter := Hsv.between_le_add (by omega) htop255 (Nat.sub_le _ _) hw hup
  have hdarker := Hsv.le_between_add htop255 (Nat.sub_le _ _) hw hdown
  rw [← hmiddle] at hbrighter hdarker
  omega

/-- A middle channel that comes back without any weight is as dark as the darkest one. -/
theorem middle_of_weight_zero (s : Sector) (hlow : low ≤ mid) (htop : mid ≤ top) (hlit : low < top)
    (hlead : mid = top → s.leads)
    (hzero : Sector.weight (s.hue (Sector.share top mid low)) = 0) :
    (s.arrange top mid low).middle = low := by
  obtain ⟨-, hmiddle⟩ := toNat_middle s hlow htop hlit hlead
  rw [UInt8.lt_iff_toNat_lt] at hlit
  have htop255 : top.toNat ≤ 255 := Nat.le_of_lt_succ top.toNat_lt_size
  rw [hzero, Hsv.between_zero,
    Hsv.least_saturation (Nat.sub_le _ _) htop255 (by omega)] at hmiddle
  exact UInt8.toNat_inj.1 (by omega)

/-- **A colour comes back with its brightest and its darkest channel, in their places**, and with
    a middle channel that is at most 4 levels brighter or 12 levels darker. -/
theorem exists_common_sector (c : Rgb) :
    ∃ (s : Sector) (top mid mid' low : UInt8), c = s.arrange top mid low ∧
      c.toHsv.toRgb = s.arrange top mid' low ∧ low ≤ mid ∧ mid ≤ top ∧ low ≤ mid' ∧ mid' ≤ top ∧
      mid'.toNat ≤ mid.toNat + 4 ∧ mid.toNat ≤ mid'.toNat + 12 := by
  obtain ⟨s, top, mid, low, rfl, hlow, htop, hlead⟩ := Sector.exists_arrange c
  obtain ⟨hback, hlow', htop'⟩ := toRgb_toHsv_arrange s hlow htop
  by_cases hlit : low < top
  · have hnear := middle_near s hlow htop hlit hlead
    obtain ⟨hhue, -⟩ := toNat_middle s hlow htop hlit hlead
    obtain ⟨-, -, hsector⟩ := s.ofHue_hue (Sector.share_le hlow htop)
      fun h => hlead (Sector.eq_of_share_eq hlow htop h)
    rw [hhue] at hback
    rcases hsector with hsame | ⟨hzero, hplace⟩ | ⟨hfull, hplace⟩
    · rw [hsame] at hback
      exact ⟨s, top, mid, _, low, rfl, hback, hlow, htop, hlow', htop', hnear⟩
    · -- at the lower end of the sector, both sectors put the middle channel where the darkest is
      have hmiddle := middle_of_weight_zero s hlow htop hlit hlead hzero
      rw [hmiddle] at hback hnear
      rw [Sector.arrange_low_eq hplace] at hback
      exact ⟨s, top, mid, low, low, rfl, hback, hlow, htop, UInt8.le_refl low,
        UInt8.le_trans hlow htop, hnear⟩
    · -- at its upper end, the colour has two bright channels, and belongs to both sectors
      obtain rfl := Sector.eq_of_share_eq hlow htop hfull
      exact ⟨_, mid, mid, _, low, (Sector.arrange_top_eq hplace mid low).symm, hback, hlow, htop,
        hlow', htop', hnear⟩
  · -- a grey has one level only, and all sectors have it
    obtain rfl : low = top := UInt8.le_antisymm (UInt8.le_trans hlow htop) (UInt8.not_lt.1 hlit)
    obtain rfl : mid = low := UInt8.le_antisymm htop hlow
    have hmiddle : (s.arrange mid mid mid).middle = mid := UInt8.le_antisymm htop' hlow'
    rw [hmiddle, Sector.arrange_grey (Sector.ofHue _) s] at hback
    exact ⟨s, mid, mid, mid, mid, rfl, hback, hlow, htop, hlow, htop,
      Nat.le_add_right _ 4, Nat.le_add_right _ 12⟩

/-- No channel of one colour is further than `d` levels from that of the other. -/
structure Within (d : Nat) (x y : Rgb) : Prop where
  red : ((x.r.toNat : Int) - y.r.toNat).natAbs ≤ d
  green : ((x.g.toNat : Int) - y.g.toNat).natAbs ≤ d
  blue : ((x.b.toNat : Int) - y.b.toNat).natAbs ≤ d

/-- Colours that differ in their middle channel are as far apart as these are. -/
theorem within_arrange (s : Sector) (top low : UInt8) {mid mid' : UInt8} {d : Nat}
    (h : ((mid.toNat : Int) - mid'.toNat).natAbs ≤ d) :
    Within d (s.arrange top mid low) (s.arrange top mid' low) := by
  have hsame : ∀ x : UInt8, ((x.toNat : Int) - x.toNat).natAbs ≤ d := by
    intro x
    omega
  cases s with
  | redYellow => exact ⟨hsame top, h, hsame low⟩
  | yellowGreen => exact ⟨h, hsame top, hsame low⟩
  | greenCyan => exact ⟨hsame low, hsame top, h⟩
  | cyanBlue => exact ⟨hsame low, h, hsame top⟩
  | blueMagenta => exact ⟨h, hsame low, hsame top⟩
  | magentaRed => exact ⟨hsame top, hsame low, h⟩

/-! ## Nothing is lost on the way -/

/-- A quotient, truncated towards 0.  There is none by 0. -/
def quotient? (a b : Int) : Option Int := if b = 0 then none else some (a.tdiv b)

/-- The byte of a number.  There is none for a number that does not fit. -/
def byte? (a : Int) : Option UInt8 :=
  if 0 ≤ a ∧ a < 256 then some a.toNat.toUInt8 else none

/-- The origin of the sector of the brightest channel, and the two other channels, the one that
    turns the hue forwards before the one that turns it backwards. -/
def sides (c : Rgb) : Int × UInt8 × UInt8 :=
  if c.brightest = c.r.toNat then (0, c.g, c.b)
  else if c.brightest = c.g.toNat then (85, c.b, c.r)
  else (170, c.r, c.g)

/-- The conversion `toHsv` on guard: it gives up where something is divided by 0, or would be cut
    off to fit into a byte. -/
def toHsv? (c : Rgb) : Option Hsv := do
  let val ← byte? c.brightest
  let spread ← byte? (c.brightest - c.darkest)
  if spread = 0 then pure ⟨0, 0, val⟩
  else
    let (origin, rising, falling) := c.sides
    let offset ← quotient? (43 * (rising.toNat - falling.toNat)) spread.toNat
    let hue ← byte? ((origin + offset) % 256)
    let share ← quotient? (spread.toNat * 255) val.toNat
    let sat ← byte? share
    pure ⟨hue, sat, val⟩

/-- On guard, a quotient is there as soon as its divisor is not 0. -/
theorem quotient?_of_ne {a b : Int} (h : b ≠ 0) : quotient? a b = some (a.tdiv b) := if_neg h

/-- On guard, a number that fits becomes its byte. -/
theorem byte?_of_le {a : Nat} (h : a ≤ 255) : byte? a = some a.toUInt8 :=
  if_pos ⟨Int.natCast_nonneg a, by omega⟩

/-- The angle, in the terms of the guarded conversion, whose branches differ in `sides` only. -/
theorem hueAngle_eq_sides (c : Rgb) :
    c.hueAngle
      = c.sides.1 + (43 * ((c.sides.2.1.toNat : Int) - c.sides.2.2.toNat)).tdiv c.spread := by
  unfold hueAngle sides
  split
  · rfl
  · split <;> rfl

/-- **Nothing is divided by 0 and nothing is cut off.** -/
theorem toHsv?_eq (c : Rgb) : c.toHsv? = some c.toHsv := by
  have hdarkest := c.darkest_le_brightest
  have hbright := c.brightest_le
  have hspread : c.spread ≤ 255 := Nat.le_trans c.spread_le_brightest hbright
  have hgap : (c.brightest : Int) - c.darkest = (c.spread : Nat) := by
    rw [spread]
    omega
  have htoNat : c.spread.toUInt8.toNat = c.spread :=
    UInt8.toNat_ofNat_of_lt (Nat.lt_succ_of_le hspread)
  rw [toHsv?, byte?_of_le hbright, hgap, byte?_of_le hspread, toHsv]
  dsimp only [Option.bind_eq_bind, Option.bind_some]
  by_cases hgrey : c.spread = 0
  · rw [if_pos hgrey, hgrey]
    rfl
  · have hbyte : ¬ c.spread.toUInt8 = 0 := by
      intro h
      rw [h] at htoNat
      exact hgrey htoNat.symm
    have hval : c.brightest.toUInt8.toNat = c.brightest :=
      UInt8.toNat_ofNat_of_lt (Nat.lt_succ_of_le hbright)
    -- both divisors are levels of a colour that is no grey, and so has some light
    have hdiv : (c.spread : Int) ≠ 0 := by omega
    have hdiv' : (c.brightest : Int) ≠ 0 := by
      have hle := c.spread_le_brightest
      omega
    have hangle : c.hueAngle % 256 = ((c.hueAngle % 256).toNat : Nat) := by omega
    have hshare : ((c.spread : Int) * 255).tdiv c.brightest = (c.saturation : Nat) :=
      (Int.ofNat_tdiv (c.spread * 255) c.brightest).symm
    rw [if_neg hgrey, if_neg hbyte, htoNat, hval, quotient?_of_ne hdiv]
    dsimp only [Option.bind_some]
    rw [← hueAngle_eq_sides, hangle, byte?_of_le (by omega)]
    dsimp only [Option.bind_some]
    rw [quotient?_of_ne hdiv', hshare]
    dsimp only [Option.bind_some]
    rw [byte?_of_le c.saturation_le]
    rfl

/-- **A colour comes back from hue, saturation and value up to rounding.**  On the way there nothing
    is divided by 0 and nothing is cut off.  The brightest and the darkest channel come back
    exactly, so greys do, and darkness among them; and no channel is off by more than 12. -/
theorem comes_back (c : Rgb) :
    c.toHsv? = some c.toHsv ∧
      c.toHsv.toRgb.brightest = c.brightest ∧ c.toHsv.toRgb.darkest = c.darkest ∧
      (c.brightest = c.darkest → c.toHsv.toRgb = c) ∧
      Within 12 c c.toHsv.toRgb := by
  obtain ⟨s, top, mid, mid', low, hc, hback, hlow, htop, hlow', htop', hup, hdown⟩ :=
    c.exists_common_sector
  have hbrightest : c.toHsv.toRgb.brightest = c.brightest := by
    rw [Hsv.brightest_toRgb, toNat_val_toHsv]
  have hdarkest : c.toHsv.toRgb.darkest = c.darkest := by
    rw [Hsv.darkest_toRgb, least_toHsv]
  refine ⟨c.toHsv?_eq, hbrightest, hdarkest, ?_, ?_⟩
  -- a grey has no room for its middle channel to move in
  · intro hgrey
    rw [hc, s.brightest_arrange hlow htop, s.darkest_arrange hlow htop, UInt8.toNat_inj] at hgrey
    subst hgrey
    have hmid := UInt8.le_antisymm htop hlow
    have hmid' := UInt8.le_antisymm htop' hlow'
    rw [hback, hc, hmid, hmid']
  · rw [hback, hc]
    exact within_arrange s top low (by omega)

/-- The red and magenta sector has the worst of it. -/
example : (Rgb.mk 244 0 17).toHsv.toRgb = ⟨244, 0, 5⟩ := by decide

end Rgb

end LedAnimation
