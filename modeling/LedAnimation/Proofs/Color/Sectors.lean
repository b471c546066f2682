/-
  The six sectors of the circle of hues.

  In a sector one channel carries the whole value, one the least amount of light, and the third lies
  between them.  `Sector.arrange top mid low` is the colour of a sector with those three channels,
  and every colour is one (`Sector.exists_arrange`).

  * `Hsv.toRgb` finds the sector of a hue (`ofHue`) and puts there the value, a middle channel
    `between` value and least, and the least amount of light (`toRgb_eq`).  So its brightest channel
    is the value and its darkest one the least amount, whatever the hue.
  * `Rgb.toHsv` finds the hue of a sector from the `share` of the way that the middle channel has
    come, in 43 steps (`hueAngle_arrange`).

  The way to a hue and back ends in the sector it began in, but for the two ends of a sector, where
  it may end in a neighbour: at the lower end the middle channel is the darkest one, and at the
  upper end the brightest one, so both sectors name the same colours there (`ofHue_hue`).
-/
import LedAnimation.Color

namespace LedAnimation

/-- One sixth of the circle of hues. -/
inductive Sector where
  | redYellow
  | yellowGreen
  | greenCyan
  | cyanBlue
  | blueMagenta
  | magentaRed
  deriving DecidableEq, Repr

namespace Sector

/-- The colour of a sector, by its channels from the brightest to the darkest. -/
def arrange (top mid low : UInt8) : Sector → Rgb
  | redYellow => ⟨top, mid, low⟩
  | yellowGreen => ⟨mid, top, low⟩
  | greenCyan => ⟨low, top, mid⟩
  | cyanBlue => ⟨low, mid, top⟩
  | blueMagenta => ⟨mid, low, top⟩
  | magentaRed => ⟨top, low, mid⟩

/-- The place of the brightest channel. -/
def topPlace : Sector → Fin 3
  | redYellow | magentaRed => 0
  | yellowGreen | greenCyan => 1
  | cyanBlue | blueMagenta => 2

/-- The place of the darkest channel. -/
def lowPlace : Sector → Fin 3
  | greenCyan | cyanBlue => 0
  | blueMagenta | magentaRed => 1
  | redYellow | yellowGreen => 2

/-- A colour with two bright channels counts to a sector that leads, as red goes before green and
    green before blue. -/
def leads : Sector → Bool
  | redYellow | greenCyan | magentaRed => true
  | yellowGreen | cyanBlue | blueMagenta => false

/-- The middle channel rises along the circle, or it falls. -/
def rises : Sector → Bool
  | redYellow | greenCyan | blueMagenta => true
  | yellowGreen | cyanBlue | magentaRed => false

variable {top mid low : UInt8}

/-- The brightest channel is where the sector puts it.  This reads the description of a colour by a
    sector back into the terms of the conversions. -/
theorem brightest_arrange (s : Sector) (hlow : low ≤ mid) (htop : mid ≤ top) :
    (s.arrange top mid low).brightest = top.toNat := by
  rw [UInt8.le_iff_toNat_le] at hlow htop
  cases s <;> simp only [arrange, Rgb.brightest] <;> omega

/-- The same for the darkest one. -/
theorem darkest_arrange (s : Sector) (hlow : low ≤ mid) (htop : mid ≤ top) :
    (s.arrange top mid low).darkest = low.toNat := by
  rw [UInt8.le_iff_toNat_le] at hlow htop
  cases s <;> simp only [arrange, Rgb.darkest] <;> omega

/-- Where the middle channel is the darkest one, only the place of the brightest one counts. -/
theorem arrange_low_eq {s s' : Sector} (h : s.topPlace = s'.topPlace) (top low : UInt8) :
    s.arrange top low low = s'.arrange top low low := by
  cases s <;> cases s' <;> first | rfl | exact absurd h (by decide)

/-- Where it is the brightest one, only the place of the darkest one counts. -/
theorem arrange_top_eq {s s' : Sector} (h : s.lowPlace = s'.lowPlace) (top low : UInt8) :
    s.arrange top top low = s'.arrange top top low := by
  cases s <;> cases s' <;> first | rfl | exact absurd h (by decide)

/-- **Every colour has a sector.** -/
theorem exists_arrange (c : Rgb) :
    ∃ (s : Sector) (top mid low : UInt8), c = s.arrange top mid low ∧ low ≤ mid ∧ mid ≤ top ∧
      (mid = top → s.leads) := by
  -- the order of the channels decides the sector, and a tie goes to the one that leads
  obtain ⟨r, g, b⟩ := c
  rcases UInt8.le_total b g with hbg | hgb
  · rcases UInt8.le_total g r with hgr | hrg
    · exact ⟨redYellow, r, g, b, rfl, hbg, hgr, fun _ => rfl⟩
    · by_cases hr : r = g
      · exact ⟨redYellow, r, g, b, rfl, hbg, hr ▸ UInt8.le_refl r, fun _ => rfl⟩
      · rcases UInt8.le_total b r with hbr | hrb
        · exact ⟨yellowGreen, g, r, b, rfl, hbr, hrg, fun h => absurd h hr⟩
        · exact ⟨greenCyan, g, b, r, rfl, hrb, hbg, fun _ => rfl⟩
  · rcases UInt8.le_total b r with hbr | hrb
    · exact ⟨magentaRed, r, b, g, rfl, hgb, hbr, fun _ => rfl⟩
    · by_cases hr : r = b
      · exact ⟨magentaRed, r, b, g, rfl, hgb, hr ▸ UInt8.le_refl r, fun _ => rfl⟩
      · rcases UInt8.le_total g r with hgr | hrg
        · exact ⟨blueMagenta, b, r, g, rfl, hgr, hrb, fun h => absurd h hr⟩
        · by_cases hg : g = b
          · exact ⟨greenCyan, g, b, r, rfl, hg ▸ hrg, hg ▸ UInt8.le_refl g, fun _ => rfl⟩
          · exact ⟨cyanBlue, b, g, r, rfl, hrg, hgb, fun h => absurd h hg⟩

/-! ## From a hue to its sector -/

/-- The sector of a hue.  Point 255 closes the circle and belongs to the first sector again. -/
def ofHue (hue : Nat) : Sector :=
  if hue < 43 then redYellow
  else if hue < 85 then yellowGreen
  else if hue < 128 then greenCyan
  else if hue < 170 then cyanBlue
  else if hue < 213 then blueMagenta
  else if hue < 255 then magentaRed
  else redYellow

/-- How far the middle channel of a hue has come from the darkest one to the brightest one, out of
    255. -/
def weight (hue : Nat) : Nat :=
  let f := hue * 2 % 85 * 3
  if (ofHue hue).rises then f else 255 - f

/-- A weight is a share out of 255, whichever way its sector runs. -/
theorem weight_le (hue : Nat) : weight hue ≤ 255 := by
  have hf : hue * 2 % 85 * 3 ≤ 255 := by omega
  unfold weight
  split
  · exact hf
  · exact Nat.sub_le 255 _

end Sector

namespace Hsv

/-- The least amount of light that a value and a saturation allow. -/
def least (v s : Nat) : Nat := v * (255 - s) / 255

/-- The amount of light that has come `w` out of 255 of the way from the least one to the value. -/
def between (v s w : Nat) : Nat := v * (255 - s * (255 - w) / 255) / 255

/-- The middle channel never goes below the least amount of light, as it has part of its saturation
    taken off at most, -/
theorem least_le_between (v s w : Nat) : least v s ≤ between v s w := by
  have hshare : s * (255 - w) / 255 ≤ s := by
    have hle : s * (255 - w) ≤ s * 255 := Nat.mul_le_mul_left s (Nat.sub_le 255 w)
    exact Nat.div_le_of_le_mul (Nat.mul_comm s 255 ▸ hle)
  exact Nat.div_le_div_right (Nat.mul_le_mul_left v (Nat.sub_le_sub_left hshare 255))

/-- nor above the value. -/
theorem between_le (v s w : Nat) : between v s w ≤ v := by
  have hle : v * (255 - s * (255 - w) / 255) ≤ v * 255 := Nat.mul_le_mul_left v (Nat.sub_le 255 _)
  exact Nat.div_le_of_le_mul (Nat.mul_comm v 255 ▸ hle)

/-- At the lower end of a sector the middle channel is the darkest one. -/
theorem between_zero (v s : Nat) : between v s 0 = least v s := by
  rw [between, least, Nat.sub_zero, Nat.mul_div_cancel s (by decide)]

/-- **The way back.** -/
theorem toRgb_eq (c : Hsv) :
    c.toRgb = (Sector.ofHue c.hue.toNat).arrange c.val
      (between c.val.toNat c.sat.toNat (Sector.weight c.hue.toNat)).toUInt8
      (least c.val.toNat c.sat.toNat).toUInt8 := by
  -- where the middle channel falls, its weight is what the other end leaves of 255
  have hfall : 255 - (255 - c.hue.toNat * 2 % 85 * 3) = c.hue.toNat * 2 % 85 * 3 := by omega
  unfold toRgb Sector.weight Sector.ofHue between least
  dsimp only
  -- one goal for each arm; what was asked on the way to it settles the sector and its direction
  repeat' split
  all_goals simp_all [Sector.arrange, Sector.rises]

/-- The least amount of light fits into its byte, below the value, -/
theorem toNat_least (c : Hsv) :
    (least c.val.toNat c.sat.toNat).toUInt8.toNat = least c.val.toNat c.sat.toNat := by
  have hle := Nat.le_trans (least_le_between c.val.toNat c.sat.toNat 255)
    (between_le c.val.toNat c.sat.toNat 255)
  exact UInt8.toNat_ofNat_of_lt (Nat.lt_of_le_of_lt hle c.val.toNat_lt_size)

/-- and so does everything between the two. -/
theorem toNat_between (c : Hsv) (w : Nat) :
    (between c.val.toNat c.sat.toNat w).toUInt8.toNat = between c.val.toNat c.sat.toNat w :=
  UInt8.toNat_ofNat_of_lt
    (Nat.lt_of_le_of_lt (between_le c.val.toNat c.sat.toNat w) c.val.toNat_lt_size)

/-- The three channels of a sector are in order. -/
theorem channels_ordered (c : Hsv) (w : Nat) :
    (least c.val.toNat c.sat.toNat).toUInt8 ≤ (between c.val.toNat c.sat.toNat w).toUInt8 ∧
      (between c.val.toNat c.sat.toNat w).toUInt8 ≤ c.val := by
  rw [UInt8.le_iff_toNat_le, UInt8.le_iff_toNat_le, toNat_least, toNat_between]
  exact ⟨least_le_between .., between_le ..⟩

/-- **The brightest channel is the value.** -/
theorem brightest_toRgb (c : Hsv) : c.toRgb.brightest = c.val.toNat := by
  obtain ⟨hlow, htop⟩ := c.channels_ordered (Sector.weight c.hue.toNat)
  rw [toRgb_eq, Sector.brightest_arrange _ hlow htop]

/-- **The darkest channel is the least amount of light.** -/
theorem darkest_toRgb (c : Hsv) : c.toRgb.darkest = least c.val.toNat c.sat.toNat := by
  obtain ⟨hlow, htop⟩ := c.channels_ordered (Sector.weight c.hue.toNat)
  rw [toRgb_eq, Sector.darkest_arrange _ hlow htop, toNat_least]

end Hsv

/-! ## From a sector to its hue -/

namespace Rgb

variable {c : Rgb}

/-- With red the brightest channel, the hue lies around point 0.  A tie goes to red too, which is
    why the two lemmas below ask that the channels before them are darker. -/
theorem hueAngle_of_red (h : c.brightest = c.r.toNat) :
    c.hueAngle = (43 * ((c.g.toNat : Int) - c.b.toNat)).tdiv c.spread := by
  rw [hueAngle, if_pos h]
  exact Int.zero_add _

/-- With green the brightest channel, it lies around point 85, -/
theorem hueAngle_of_green (hr : c.brightest ≠ c.r.toNat) (h : c.brightest = c.g.toNat) :
    c.hueAngle = 85 + (43 * ((c.b.toNat : Int) - c.r.toNat)).tdiv c.spread := by
  rw [hueAngle, if_neg hr, if_pos h]

/-- and with blue around point 170. -/
theorem hueAngle_of_blue (hr : c.brightest ≠ c.r.toNat) (hg : c.brightest ≠ c.g.toNat) :
    c.hueAngle = 170 + (43 * ((c.r.toNat : Int) - c.g.toNat)).tdiv c.spread := by
  rw [hueAngle, if_neg hr, if_neg hg]

end Rgb

namespace Sector

/-- The hue of a sector whose middle channel has come `k` of 43 steps. -/
def hue : Sector → Nat → Nat
  | redYellow, k => k
  | yellowGreen, k => 85 - k
  | greenCyan, k => 85 + k
  | cyanBlue, k => 170 - k
  | blueMagenta, k => 170 + k
  | magentaRed, k => (256 - k) % 256

/-- How many of the 43 steps the middle channel has come. -/
def share (top mid low : UInt8) : Nat := 43 * (mid.toNat - low.toNat) / (top.toNat - low.toNat)

variable {top mid low : UInt8}

/-- The middle channel comes all the way at most. -/
theorem share_le (hlow : low ≤ mid) (htop : mid ≤ top) : share top mid low ≤ 43 := by
  rw [UInt8.le_iff_toNat_le] at hlow htop
  exact Nat.div_le_of_le_mul (by omega)

/-- The middle channel has come all the way only where it is as bright as the brightest one. -/
theorem eq_of_share_eq (hlow : low ≤ mid) (htop : mid ≤ top) (h : share top mid low = 43) :
    mid = top := by
  rw [UInt8.le_iff_toNat_le] at hlow htop
  have hmul := Nat.div_mul_le_self (43 * (mid.toNat - low.toNat)) (top.toNat - low.toNat)
  have hall : 43 * (top.toNat - low.toNat) ≤ 43 * (mid.toNat - low.toNat) := by
    rw [share] at h
    rw [h] at hmul
    exact hmul
  exact UInt8.toNat_inj.1 (by omega)

/-- The spread of a colour is what its middle channel has to go. -/
theorem spread_arrange (s : Sector) (hlow : low ≤ mid) (htop : mid ≤ top) :
    (s.arrange top mid low).spread = top.toNat - low.toNat := by
  rw [Rgb.spread, s.brightest_arrange hlow htop, s.darkest_arrange hlow htop]

/-- Where the middle channel rises along the circle, the angle grows by its share. -/
theorem tdiv_rising (hlow : low ≤ mid) :
    (43 * ((mid.toNat : Int) - low.toNat)).tdiv ((top.toNat - low.toNat : Nat) : Int)
      = share top mid low := by
  rw [UInt8.le_iff_toNat_le] at hlow
  have hcast : 43 * ((mid.toNat : Int) - low.toNat) = (43 * (mid.toNat - low.toNat) : Nat) := by
    omega
  rw [hcast, ← Int.ofNat_tdiv]
  rfl

/-- Where it falls, the angle shrinks by its share.  The division truncates towards 0, so nothing
    but the sign changes. -/
theorem tdiv_falling (hlow : low ≤ mid) :
    (43 * ((low.toNat : Int) - mid.toNat)).tdiv ((top.toNat - low.toNat : Nat) : Int)
      = -share top mid low := by
  have hneg : 43 * ((low.toNat : Int) - mid.toNat) = -(43 * ((mid.toNat : Int) - low.toNat)) := by
    omega
  rw [hneg, Int.neg_tdiv, tdiv_rising hlow]

/-- The hue of a colour, by its sector. -/
theorem hueAngle_arrange (s : Sector) (hlow : low ≤ mid) (htop : mid ≤ top) (hlit : low < top)
    (hlead : mid = top → s.leads) :
    (s.arrange top mid low).hueAngle % 256 = s.hue (share top mid low) := by
  have hshare := share_le hlow htop
  have hne : top.toNat ≠ low.toNat := by
    rw [UInt8.lt_iff_toNat_lt] at hlit
    omega
  -- in a sector that follows, the middle channel is strictly darker: on a tie the colour is not its
  -- own
  have hmid : s.leads = false → top.toNat ≠ mid.toNat := by
    intro hfollows heq
    rw [hlead (UInt8.toNat_inj.1 heq.symm)] at hfollows
    exact nomatch hfollows
  have hbright := s.brightest_arrange hlow htop
  have hspread := s.spread_arrange hlow htop
  have hred : top.toNat ≠ (s.arrange top mid low).r.toNat →
      (s.arrange top mid low).brightest ≠ (s.arrange top mid low).r.toNat := hbright ▸ id
  have hgreen : top.toNat ≠ (s.arrange top mid low).g.toNat →
      (s.arrange top mid low).brightest ≠ (s.arrange top mid low).g.toNat := hbright ▸ id
  -- per sector: which channel is the brightest, and whether the middle one rises or falls
  cases s with
  | redYellow =>
    rw [Rgb.hueAngle_of_red hbright, hspread]
    show (43 * ((mid.toNat : Int) - low.toNat)).tdiv _ % 256 = _
    rw [tdiv_rising hlow, hue]
    omega
  | yellowGreen =>
    rw [Rgb.hueAngle_of_green (hred (hmid rfl)) hbright, hspread]
    show (85 + (43 * ((low.toNat : Int) - mid.toNat)).tdiv _) % 256 = _
    rw [tdiv_falling hlow, hue]
    omega
  | greenCyan =>
    rw [Rgb.hueAngle_of_green (hred hne) hbright, hspread]
    show (85 + (43 * ((mid.toNat : Int) - low.toNat)).tdiv _) % 256 = _
    rw [tdiv_rising hlow, hue]
    omega
  | cyanBlue =>
    rw [Rgb.hueAngle_of_blue (hred hne) (hgreen (hmid rfl)), hspread]
    show (170 + (43 * ((low.toNat : Int) - mid.toNat)).tdiv _) % 256 = _
    rw [tdiv_falling hlow, hue]
    omega
  | blueMagenta =>
    rw [Rgb.hueAngle_of_blue (hred (hmid rfl)) (hgreen hne), hspread]
    show (170 + (43 * ((mid.toNat : Int) - low.toNat)).tdiv _) % 256 = _
    rw [tdiv_rising hlow, hue]
    omega
  | magentaRed =>
    rw [Rgb.hueAngle_of_red hbright, hspread]
    show (43 * ((low.toNat : Int) - mid.toNat)).tdiv _ % 256 = _
    rw [tdiv_falling hlow, hue]
    omega

/-! ## There and back -/

/-- **There and back a hue ends in the sector it began in**, or in one that names the same colours
    at the end of the sector it is at.  The weight it comes back with is 6 for each of the 43 steps,
    or one step less. -/
theorem ofHue_hue (s : Sector) {k : Nat} (hk : k ≤ 43) (hlead : k = 43 → s.leads) :
    6 * k ≤ weight (s.hue k) + 6 ∧ weight (s.hue k) ≤ 6 * k ∧
      (ofHue (s.hue k) = s ∨
        weight (s.hue k) = 0 ∧ (ofHue (s.hue k)).topPlace = s.topPlace ∨
        k = 43 ∧ (ofHue (s.hue k)).lowPlace = s.lowPlace) := by
  -- six sectors of 44 steps, few enough to ask them all
  have hall : ∀ k < 44, (k = 43 → s.leads) →
      6 * k ≤ weight (s.hue k) + 6 ∧ weight (s.hue k) ≤ 6 * k ∧
        (ofHue (s.hue k) = s ∨
          weight (s.hue k) = 0 ∧ (ofHue (s.hue k)).topPlace = s.topPlace ∨
          k = 43 ∧ (ofHue (s.hue k)).lowPlace = s.lowPlace) := by
    cases s <;> decide
  exact hall k (Nat.lt_succ_of_le hk) hlead

end Sector

end LedAnimation
