/-
  A colour that goes to hue, saturation and value and comes back, again and again.

  Every round trip keeps the brightest and the darkest channel.  In a sector of the circle of hues,
  the middle channel that comes back (`Sector.regained`) is a monotone function of the one that
  went, so a run of round trips moves it one way only; and it comes back with one of 43 weights, so
  the run stands still after 43 of them.  What a single round trip loses does add up on the way
  there.

  * From magenta to red it always adds up.  The circle of hues has 256 points on the way there and
    255 on the way back, so every round trip loses one of the 43 steps between the two, whatever
    else is rounded off (`Sector.kept`).  A colour that is not too pale loses them all, and is red
    in the end.
  * In the other sectors what is rounded off can add up just as well, towards either end of the
    sector, until no step is lost any more.

  So a shift by 0, and a rise of a value that is at 255, turn some colours into others.  A value
  that cannot fall any further keeps its pixel without a round trip, and so exactly.
-/
import LedAnimation.Proofs.Color.Shifts
import Mathlib.Order.Monotone.Basic

namespace LedAnimation

/-! ## The middle channel of a round trip -/

namespace Sector

variable {s : Sector} {top mid mid' low : UInt8}

/-- How many of `k` steps come back.  The last one of a sector never does, and from magenta to red
    one more is lost. -/
def kept : Sector → Nat → Nat
  | magentaRed, k => min k 43 - 1
  | _, k => min k 42

/-- A step that is kept comes back as 6 points of weight. -/
theorem weight_hue (s : Sector) {k : Nat} (hk : k ≤ 43) : weight (s.hue k) = 6 * s.kept k := by
  have hall : ∀ k < 44, weight (s.hue k) = 6 * s.kept k := by
    cases s <;> decide
  exact hall k (Nat.lt_succ_of_le hk)

/-- At most 42 of the 43 steps are kept, which bounds how long a walk of them can be. -/
theorem kept_le (s : Sector) (k : Nat) : s.kept k ≤ 42 := by
  cases s <;> simp only [kept] <;> omega

/-- More steps that go are never fewer steps that come back. -/
theorem kept_mono (s : Sector) {k k' : Nat} (h : k ≤ k') : s.kept k ≤ s.kept k' := by
  cases s <;> simp only [kept] <;> omega

/-- A brighter middle channel has come at least as far. -/
theorem share_mono (top low : UInt8) (h : mid ≤ mid') :
    share top mid low ≤ share top mid' low := by
  rw [UInt8.le_iff_toNat_le] at h
  exact Nat.div_le_div_right (by omega)

/-- The middle channel that comes back from a round trip. -/
def regained (s : Sector) (top low mid : UInt8) : UInt8 :=
  (Hsv.between top.toNat ((top.toNat - low.toNat) * 255 / top.toNat)
    (6 * s.kept (share top mid low))).toUInt8

/-- What comes back is no brighter than the value, and so fits into its byte. -/
theorem toNat_regained (s : Sector) (top low mid : UInt8) :
    (s.regained top low mid).toNat
      = Hsv.between top.toNat ((top.toNat - low.toNat) * 255 / top.toNat)
          (6 * s.kept (share top mid low)) :=
  UInt8.toNat_ofNat_of_lt (Nat.lt_of_le_of_lt (Hsv.between_le _ _ _) top.toNat_lt_size)

/-- Only the steps that are kept count, so there are no more than 43 channels that come back. -/
theorem regained_eq_of_kept_eq (h : s.kept (share top mid low) = s.kept (share top mid' low)) :
    s.regained top low mid = s.regained top low mid' := by
  rw [regained, regained, h]

/-- More light in the middle channel comes back as more light. -/
theorem regained_mono (s : Sector) (top low : UInt8) (h : mid ≤ mid') :
    s.regained top low mid ≤ s.regained top low mid' := by
  have hkept := s.kept_mono (share_mono top low h)
  rw [UInt8.le_iff_toNat_le, toNat_regained, toNat_regained]
  refine Nat.div_le_div_right (Nat.mul_le_mul_left _ (Nat.sub_le_sub_left ?_ 255))
  exact Nat.div_le_div_right (Nat.mul_le_mul_left _ (by omega))

/-- A middle channel is still one when it comes back: it is not brighter than the brightest, -/
theorem regained_le_top (s : Sector) (top low mid : UInt8) : s.regained top low mid ≤ top := by
  rw [UInt8.le_iff_toNat_le, toNat_regained]
  exact Hsv.between_le _ _ _

/-- and a grey has only one level to come back to. -/
theorem regained_grey (s : Sector) (x : UInt8) : s.regained x x x = x := by
  rw [← UInt8.toNat_inj, toNat_regained, share, Nat.sub_self, Nat.mul_zero, Nat.zero_mul,
    Nat.zero_div, Nat.zero_div, Hsv.between, Nat.zero_mul, Nat.zero_div, Nat.sub_zero]
  exact Nat.mul_div_cancel _ (by decide)

/-! ## Round trips stay in a sector -/

/-- The sector in which the middle channel falls, of the two with this darkest channel. -/
def falling : Sector → Sector
  | redYellow | yellowGreen => yellowGreen
  | greenCyan | cyanBlue => cyanBlue
  | blueMagenta | magentaRed => magentaRed

/-- A falling sector shares its darkest channel, so both have the same colour at their
    common end, -/
@[simp] theorem lowPlace_falling (s : Sector) : s.falling.lowPlace = s.lowPlace := by
  cases s <;> rfl

/-- and it is the falling one of the two itself. -/
@[simp] theorem falling_falling (s : Sector) : s.falling.falling = s.falling := by
  cases s <;> rfl

/-- A colour with two bright channels counts to one of its two sectors, and comes back to the one in
    which the middle channel falls. -/
theorem exists_leader (s : Sector) :
    ∃ s' : Sector, s'.leads ∧ s'.lowPlace = s.lowPlace ∧ ofHue (s'.hue 43) = s.falling := by
  cases s with
  | redYellow | yellowGreen => exact ⟨redYellow, rfl, rfl, rfl⟩
  | greenCyan | cyanBlue => exact ⟨greenCyan, rfl, rfl, rfl⟩
  | blueMagenta | magentaRed => exact ⟨magentaRed, rfl, rfl, rfl⟩

end Sector

/-- To hue, saturation and value, and back. -/
def Rgb.roundTrip (c : Rgb) : Rgb := c.toHsv.toRgb

namespace Sector

variable {s : Sector} {top mid low : UInt8}

/-- Greys are at home everywhere. -/
theorem roundTrip_grey (s : Sector) (x : UInt8) :
    (s.arrange x x x).roundTrip = s.arrange x x x := by
  obtain ⟨hback, hlow, htop⟩ :=
    Rgb.toRgb_toHsv_arrange s (UInt8.le_refl x) (UInt8.le_refl x)
  rw [UInt8.le_antisymm htop hlow] at hback
  exact hback.trans (arrange_grey _ s x)

/-- The colours of a sector that the hue counts to it come back to the sector of that hue. -/
theorem roundTrip_of_leads (hlow : low ≤ mid) (htop : mid ≤ top) (hlit : low < top)
    (hlead : mid = top → s.leads) :
    (s.arrange top mid low).roundTrip
        = (ofHue (s.hue (share top mid low))).arrange top (s.regained top low mid) low ∧
      low ≤ s.regained top low mid := by
  obtain ⟨hback, hlow', -⟩ := Rgb.toRgb_toHsv_arrange s hlow htop
  obtain ⟨hhue, hmiddle⟩ := Rgb.toNat_middle s hlow htop hlit hlead
  -- the hue tells the weight in steps, so the closed form is the middle channel regained
  rw [weight_hue s (share_le hlow htop), ← toNat_regained, UInt8.toNat_inj] at hmiddle
  rw [hhue, hmiddle] at hback
  rw [hmiddle] at hlow'
  exact ⟨hback, hlow'⟩

/-- Short of the upper end of its sector a colour comes back to that sector. -/
theorem roundTrip_of_lt (hlow : low ≤ mid) (hmid : mid < top) :
    (s.arrange top mid low).roundTrip = s.arrange top (s.regained top low mid) low ∧
      low ≤ s.regained top low mid := by
  have htop := UInt8.le_of_lt hmid
  have hlead : mid = top → s.leads := fun h => absurd (h ▸ hmid) (UInt8.lt_irrefl top)
  have hlit := UInt8.lt_of_le_of_lt hlow hmid
  obtain ⟨hback, hlow'⟩ := roundTrip_of_leads hlow htop hlit hlead
  refine ⟨hback.trans ?_, hlow'⟩
  obtain ⟨-, -, hsector⟩ := s.ofHue_hue (share_le hlow htop)
    fun h => hlead (eq_of_share_eq hlow htop h)
  rcases hsector with hsame | ⟨hzero, hplace⟩ | ⟨hfull, -⟩
  · rw [hsame]
  · -- at the lower end two sectors name the colour
    have hdark : s.regained top low mid = low := by
      have hmiddle := Rgb.middle_of_weight_zero s hlow htop hlit hlead hzero
      obtain ⟨-, hclosed⟩ := Rgb.toNat_middle s hlow htop hlit hlead
      rw [weight_hue s (share_le hlow htop), ← toNat_regained, UInt8.toNat_inj] at hclosed
      exact hclosed.symm.trans hmiddle
    rw [hdark, arrange_low_eq hplace]
  · exact absurd (eq_of_share_eq hlow htop hfull ▸ hmid) (UInt8.lt_irrefl top)

/-- A colour with two bright channels comes back to the falling one of its two sectors. -/
theorem roundTrip_full (s : Sector) (hlit : low < top) :
    (s.arrange top top low).roundTrip = s.falling.arrange top (s.regained top low top) low ∧
      low ≤ s.regained top low top := by
  have hlow := UInt8.le_of_lt hlit
  have htop := UInt8.le_refl top
  obtain ⟨s', hleads, hplace, hhue⟩ := s.exists_leader
  obtain ⟨hback, hlow'⟩ := roundTrip_of_leads (s := s') hlow htop hlit fun _ => hleads
  have hshare : share top top low = 43 := by
    rw [UInt8.lt_iff_toNat_lt] at hlit
    rw [share]
    exact Nat.mul_div_cancel 43 (by omega)
  -- both sectors keep 42 of the 43 steps
  have hsame : s'.regained top low top = s.regained top low top := by
    have hkept : ∀ s : Sector, s.kept 43 = 42 := by
      intro s
      cases s <;> rfl
    rw [regained, regained, hshare, hkept, hkept]
  rw [hshare, hhue, hsame, arrange_top_eq hplace] at hback
  rw [hsame] at hlow'
  exact ⟨hback, hlow'⟩

/-- A colour is at home in a sector that its round trips do not leave. -/
structure Home (s : Sector) (top low mid : UInt8) : Prop where
  low_le : low ≤ mid
  le_top : mid ≤ top
  /-- At the upper end two sectors name the colour.  Home is the falling one, unless the colour
      comes back as it was. -/
  full : mid = top → s.falling = s ∨ s.regained top low top = top

/-- **Every colour is at home somewhere**: one with two bright channels in its falling sector. -/
theorem exists_home (c : Rgb) :
    ∃ (s : Sector) (top low mid : UInt8), c = s.arrange top mid low ∧ s.Home top low mid := by
  obtain ⟨s, top, mid, low, hc, hlow, htop, -⟩ := exists_arrange c
  by_cases hfull : mid = top
  · subst hfull
    rw [← arrange_top_eq s.lowPlace_falling] at hc
    exact ⟨s.falling, mid, low, mid, hc, hlow, htop, fun _ => Or.inl s.falling_falling⟩
  · exact ⟨s, top, low, mid, hc, hlow, htop, fun h => absurd h hfull⟩

/-- **A round trip changes the middle channel of a colour at home**, which stays at home. -/
theorem Home.roundTrip (h : s.Home top low mid) :
    (s.arrange top mid low).roundTrip = s.arrange top (s.regained top low mid) low ∧
      s.Home top low (s.regained top low mid) := by
  have hnext : s.regained top low mid = top → s.falling = s ∨ s.regained top low top = top := by
    intro hfull
    have hmono := s.regained_mono top low h.le_top
    rw [hfull] at hmono
    exact Or.inr (UInt8.le_antisymm (s.regained_le_top top low top) hmono)
  -- the way back is the same for all colours at home; what is left is where it ends
  suffices hback : (s.arrange top mid low).roundTrip = s.arrange top (s.regained top low mid) low ∧
      low ≤ s.regained top low mid from
    ⟨hback.1, hback.2, s.regained_le_top top low mid, hnext⟩
  by_cases hfull : mid = top
  · subst hfull
    by_cases hlit : low < mid
    · obtain ⟨hback, hlow'⟩ := s.roundTrip_full hlit
      refine ⟨hback.trans ?_, hlow'⟩
      rcases h.full rfl with hfalls | hbright
      · rw [hfalls]
      · rw [hbright, arrange_top_eq s.lowPlace_falling]
    · obtain rfl : low = mid := UInt8.le_antisymm h.low_le (UInt8.not_lt.1 hlit)
      rw [regained_grey]
      exact ⟨s.roundTrip_grey low, UInt8.le_refl low⟩
  · refine roundTrip_of_lt h.low_le ?_
    exact UInt8.lt_of_le_of_ne h.le_top hfull

/-- **A run of round trips** is one of the middle channel. -/
theorem Home.roundTrip_iterate (h : s.Home top low mid) (i : Nat) :
    Rgb.roundTrip^[i] (s.arrange top mid low)
        = s.arrange top ((s.regained top low)^[i] mid) low ∧
      s.Home top low ((s.regained top low)^[i] mid) := by
  induction i with
  | zero => exact ⟨rfl, h⟩
  | succ i ih =>
    -- one more trip from a colour at home, which the induction hypothesis says it is
    obtain ⟨hback, hhome⟩ := ih
    rw [Function.iterate_succ_apply', Function.iterate_succ_apply', hback]
    exact hhome.roundTrip

end Sector

/-! ## A monotone walk goes one way, and comes to a halt -/

/-- A walk that loses rank with every step, or stands still from the next one on, stands still after
    as many steps as it had rank. -/
theorem iterate_succ_eq_of_rank_lt {α : Type} {f : α → α} {x : α} (rank : α → Nat)
    (hstep : ∀ i, rank (f^[i + 1] x) < rank (f^[i] x) ∨ f^[i + 2] x = f^[i + 1] x) {i : Nat}
    (hi : rank x < i) : f^[i + 1] x = f^[i] x := by
  -- either the rank has paid for every step so far, or the walk stands still already
  have hloses : ∀ i, rank (f^[i] x) + i ≤ rank x ∨ f^[i + 1] x = f^[i] x := by
    intro i
    induction i with
    | zero => exact Or.inl (Nat.le_refl _)
    | succ i ih =>
      rcases ih with hrank | hstill
      · rcases hstep i with hless | hstill
        · exact Or.inl (by omega)
        · exact Or.inr hstill
      · refine Or.inr ?_
        calc f^[i + 2] x = f (f^[i + 1] x) := Function.iterate_succ_apply' f (i + 1) x
          _ = f (f^[i] x) := congrArg f hstill
          _ = f^[i + 1] x := (Function.iterate_succ_apply' f i x).symm
  rcases hloses i with hrank | hstill
  · omega
  · exact hstill

/-- How the first step of a walk goes, all of them go, if the map keeps that relation. -/
theorem rel_iterate_succ {α : Type} {f : α → α} {R : α → α → Prop}
    (hf : ∀ {x y}, R x y → R (f x) (f y)) {x : α} (h : R x (f x)) (i : Nat) :
    R (f^[i] x) (f^[i + 1] x) := by
  induction i with
  | zero => exact h
  | succ i ih =>
    have hnext := hf ih
    rw [← Function.iterate_succ_apply' f, ← Function.iterate_succ_apply' f] at hnext
    exact hnext

namespace Sector

variable {s : Sector} {top mid low : UInt8}

/-- As `regained` is monotone, the first trip tells the way for all of them. -/
theorem regained_oneWay (s : Sector) (top low mid : UInt8) :
    (∀ i, (s.regained top low)^[i + 1] mid ≤ (s.regained top low)^[i] mid) ∨
      ∀ i, (s.regained top low)^[i] mid ≤ (s.regained top low)^[i + 1] mid := by
  rcases UInt8.le_total (s.regained top low mid) mid with hdown | hup
  · exact Or.inl (rel_iterate_succ (R := fun x y => y ≤ x) (s.regained_mono top low) hdown)
  · exact Or.inr (rel_iterate_succ (s.regained_mono top low) hup)

/-- A middle channel that keeps its steps comes to a halt. -/
theorem regained_iterate_of_kept_eq {i : Nat}
    (h : s.kept (share top ((s.regained top low)^[i + 1] mid) low)
      = s.kept (share top ((s.regained top low)^[i] mid) low)) :
    (s.regained top low)^[i + 2] mid = (s.regained top low)^[i + 1] mid := by
  have hnext := regained_eq_of_kept_eq h
  rw [← Function.iterate_succ_apply' (s.regained top low),
    ← Function.iterate_succ_apply' (s.regained top low)] at hnext
  exact hnext

/-- The rank of a channel on its way down is the number of steps it keeps, and on its way up the
    number of those that are left. -/
theorem regained_halts (s : Sector) (top low mid : UInt8) {i : Nat} (hi : 43 ≤ i) :
    (s.regained top low)^[i + 1] mid = (s.regained top low)^[i] mid := by
  have hmost := s.kept_le (share top mid low)
  rcases s.regained_oneWay top low mid with hdown | hup
  · refine iterate_succ_eq_of_rank_lt (fun x => s.kept (share top x low)) ?_ (by omega)
    intro i
    rcases Nat.lt_or_eq_of_le (s.kept_mono (share_mono top low (hdown i))) with hless | heq
    · exact Or.inl hless
    · exact Or.inr (regained_iterate_of_kept_eq heq)
  · refine iterate_succ_eq_of_rank_lt (fun x => 42 - s.kept (share top x low)) ?_ (by omega)
    intro i
    rcases Nat.lt_or_eq_of_le (s.kept_mono (share_mono top low (hup i))) with hmore | heq
    · have hmost' := s.kept_le (share top ((s.regained top low)^[i + 1] mid) low)
      exact Or.inl (by omega)
    · exact Or.inr (regained_iterate_of_kept_eq heq.symm)

/-- So 43 trips are as good as any number more. -/
theorem regained_settled (s : Sector) (top low mid : UInt8) {i : Nat} (hi : 43 ≤ i) :
    (s.regained top low)^[i] mid = (s.regained top low)^[43] mid := by
  induction i, hi using Nat.le_induction with
  | base => rfl
  | succ i hi ih => rw [s.regained_halts top low mid hi, ih]

/-- The middle channel never goes beyond the place where it comes to a halt. -/
theorem regained_between (s : Sector) (top low mid : UInt8) (i : Nat) :
    ((mid.toNat : Int) - ((s.regained top low)^[i] mid).toNat).natAbs
      ≤ ((mid.toNat : Int) - ((s.regained top low)^[43] mid).toNat).natAbs := by
  -- past 43 trips nothing changes, so only the trips up to there have to be looked at
  have hclip : (s.regained top low)^[i] mid = (s.regained top low)^[min i 43] mid := by
    rcases Nat.le_total i 43 with hle | hge
    · rw [Nat.min_eq_left hle]
    · rw [Nat.min_eq_right hge, s.regained_settled top low mid hge]
  rw [hclip]
  rcases s.regained_oneWay top low mid with hdown | hup
  · have hanti : Antitone fun i => ((s.regained top low)^[i] mid).toNat :=
      antitone_nat_of_succ_le fun i => UInt8.le_iff_toNat_le.1 (hdown i)
    have hfirst : ((s.regained top low)^[min i 43] mid).toNat ≤ mid.toNat := hanti (Nat.zero_le _)
    have hlast : ((s.regained top low)^[43] mid).toNat
        ≤ ((s.regained top low)^[min i 43] mid).toNat :=
      hanti (Nat.min_le_right i 43)
    omega
  · have hmono : Monotone fun i => ((s.regained top low)^[i] mid).toNat :=
      monotone_nat_of_le_succ fun i => UInt8.le_iff_toNat_le.1 (hup i)
    have hfirst : mid.toNat ≤ ((s.regained top low)^[min i 43] mid).toNat := hmono (Nat.zero_le _)
    have hlast : ((s.regained top low)^[min i 43] mid).toNat
        ≤ ((s.regained top low)^[43] mid).toNat :=
      hmono (Nat.min_le_right i 43)
    omega

/-! ## From magenta to red -/

/-- A weight of `j` steps comes back as less than one step more, unless the colour is pale. -/
theorem lt_of_between {top low j : Nat} (hlit : low < top) (hpale : 2 * low ≤ top) (hj : j ≤ 42) :
    43 * (Hsv.between top ((top - low) * 255 / top) (6 * j) - low) < (top - low) * (j + 1) := by
  -- all quotients become numbers with bounds, and what is left is linear in `d * j`
  obtain ⟨d, rfl⟩ := Nat.exists_eq_add_of_le (Nat.le_of_lt hlit)
  rw [Nat.add_sub_cancel_left]
  have hloss := @Hsv.mul_le_loss_add (low + d) d (6 * j) (by omega)
  rw [Hsv.between]
  generalize d * 255 / (low + d) * (255 - 6 * j) / 255 = a at hloss
  have hdiv := Nat.mul_div_le ((low + d) * (255 - a)) 255
  generalize (low + d) * (255 - a) / 255 = m at hdiv
  have htop : (low + d) * (255 - 6 * j) ≤ 2 * d * (255 - 6 * j) :=
    Nat.mul_le_mul_right _ (by omega)
  have hsteps : d * j ≤ d * 42 := Nat.mul_le_mul_left d hj
  have hweight : d * (255 - 6 * j) = d * 255 - 6 * (d * j) := by
    rw [Nat.mul_sub, Nat.mul_left_comm]
  have htwice : 2 * d * (255 - 6 * j) = 2 * (d * (255 - 6 * j)) := Nat.mul_assoc ..
  rw [Nat.mul_sub (low + d) 255 a] at hdiv
  rw [Nat.mul_add_one d j]
  omega

/-- So from magenta to red every round trip loses a step, as long as there is one to lose. -/
theorem kept_regained (hlit : low < top) (hpale : 2 * low.toNat ≤ top.toNat) (mid : UInt8) :
    magentaRed.kept (share top (magentaRed.regained top low mid) low)
      ≤ magentaRed.kept (share top mid low) - 1 := by
  rw [UInt8.lt_iff_toNat_lt] at hlit
  have hlt := lt_of_between hlit hpale (magentaRed.kept_le (share top mid low))
  rw [← toNat_regained] at hlt
  have hshare : share top (magentaRed.regained top low mid) low
      < magentaRed.kept (share top mid low) + 1 :=
    Nat.div_lt_of_lt_mul hlt
  show min (share top (magentaRed.regained top low mid) low) 43 - 1 ≤ _
  omega

/-- After 42 steps lost there is none left, and one more trip leaves the darkest channel. -/
theorem regained_iterate_magentaRed (hlit : low < top) (hpale : 2 * low.toNat ≤ top.toNat)
    (mid : UInt8) : (magentaRed.regained top low)^[43] mid = low := by
  have hkept : ∀ i, magentaRed.kept (share top ((magentaRed.regained top low)^[i] mid) low)
      ≤ 42 - i := by
    -- each trip loses one of the steps, from 42 down
    intro i
    induction i with
    | zero => exact magentaRed.kept_le _
    | succ i ih =>
      have hless := kept_regained hlit hpale ((magentaRed.regained top low)^[i] mid)
      rw [← Function.iterate_succ_apply' (magentaRed.regained top low)] at hless
      exact Nat.le_trans hless (by omega)
  have hnone := Nat.eq_zero_of_le_zero (hkept 42)
  rw [UInt8.lt_iff_toNat_lt] at hlit
  have htop : top.toNat ≤ 255 := Nat.le_of_lt_succ top.toNat_lt_size
  rw [Function.iterate_succ_apply', ← UInt8.toNat_inj, toNat_regained, hnone, Nat.mul_zero,
    Hsv.between_zero, Hsv.least_saturation (Nat.sub_le _ _) htop (by omega)]
  omega

end Sector

/-! ## The colours of a run of round trips -/

namespace Rgb

variable {c : Rgb}

/-- No channel of the one colour has more light than that of the other. -/
structure Under (x y : Rgb) : Prop where
  red : x.r ≤ y.r
  green : x.g ≤ y.g
  blue : x.b ≤ y.b

/-- A middle channel with less light is a colour with less light. -/
theorem under_arrange (s : Sector) (top low : UInt8) {mid mid' : UInt8} (h : mid ≤ mid') :
    Under (s.arrange top mid low) (s.arrange top mid' low) := by
  have hsame : ∀ x : UInt8, x ≤ x := UInt8.le_refl
  cases s with
  | redYellow => exact ⟨hsame top, h, hsame low⟩
  | yellowGreen => exact ⟨h, hsame top, hsame low⟩
  | greenCyan => exact ⟨hsame low, hsame top, h⟩
  | cyanBlue => exact ⟨hsame low, h, hsame top⟩
  | blueMagenta => exact ⟨h, hsame low, hsame top⟩
  | magentaRed => exact ⟨hsame top, hsame low, h⟩

/-- How far apart two colours of a sector are is told by their middle channels alone. -/
theorem within_arrange_iff (s : Sector) (top low : UInt8) {mid mid' : UInt8} {d : Nat} :
    Within d (s.arrange top mid low) (s.arrange top mid' low) ↔
      ((mid.toNat : Int) - mid'.toNat).natAbs ≤ d := by
  refine ⟨fun h => ?_, within_arrange s top low⟩
  cases s with
  | redYellow | cyanBlue => exact h.green
  | yellowGreen | blueMagenta => exact h.red
  | greenCyan | magentaRed => exact h.blue

/-- What becomes of a colour that loses some light in one channel, or gains some, again and
    again. -/
structure Settles (c : Rgb) (colors : Nat → Rgb) : Prop where
  begins : colors 0 = c
  brightest : ∀ i, (colors i).brightest = c.brightest
  darkest : ∀ i, (colors i).darkest = c.darkest
  /-- A single step goes 12 levels at most, -/
  step : ∀ i, Within 12 (colors i) (colors (i + 1))
  /-- always the same way, -/
  oneWay : (∀ i, Under (colors (i + 1)) (colors i)) ∨ ∀ i, Under (colors i) (colors (i + 1))
  /-- and not for ever. -/
  settled : ∀ i, 43 ≤ i → colors i = colors 43
  /-- So the colour stays near where it began exactly if it comes to a halt near there. -/
  near_iff : ∀ d, (∀ i, Within d c (colors i)) ↔ Within d c (colors 43)
  /-- Between magenta and red it comes to a halt at red only, unless it is pale. -/
  red : c.g ≤ c.b → c.b ≤ c.r → 2 * c.g.toNat ≤ c.r.toNat → colors 43 = ⟨c.r, c.g, c.g⟩

/-- A round trip keeps the brightest channel, -/
theorem brightest_roundTrip (c : Rgb) : c.roundTrip.brightest = c.brightest := by
  rw [roundTrip, Hsv.brightest_toRgb, toNat_val_toHsv]

/-- keeps the darkest one, -/
theorem darkest_roundTrip (c : Rgb) : c.roundTrip.darkest = c.darkest := by
  rw [roundTrip, Hsv.darkest_toRgb, least_toHsv]

/-- and moves the one between them by 12 levels at most. -/
theorem within_roundTrip (c : Rgb) : Within 12 c c.roundTrip := by
  obtain ⟨s, top, mid, mid', low, hc, hback, -, -, -, -, hup, hdown⟩ := c.exists_common_sector
  rw [roundTrip, hback, hc]
  exact within_arrange s top low (by omega)

/-- **Magenta wears down to red**, and so does what lies between the two. -/
theorem roundTrip_iterate_red (hlow : c.g ≤ c.b) (htop : c.b ≤ c.r)
    (hpale : 2 * c.g.toNat ≤ c.r.toNat) : roundTrip^[43] c = ⟨c.r, c.g, c.g⟩ := by
  have hhome : Sector.magentaRed.Home c.r c.g c.b := ⟨hlow, htop, fun _ => Or.inl rfl⟩
  obtain ⟨hrun, hend⟩ := hhome.roundTrip_iterate 43
  have hred : (Sector.magentaRed.regained c.r c.g)^[43] c.b = c.g := by
    by_cases hlit : c.g < c.r
    · exact Sector.regained_iterate_magentaRed hlit hpale c.b
    · exact UInt8.le_antisymm (UInt8.le_trans hend.le_top (UInt8.not_lt.1 hlit)) hend.low_le
  rw [hred] at hrun
  exact hrun

/-- **A run of round trips settles.** -/
theorem roundTrip_settles (c : Rgb) : Settles c fun i => roundTrip^[i] c := by
  obtain ⟨s, top, low, mid, hc, hhome⟩ := Sector.exists_home c
  have hrun : ∀ i, roundTrip^[i] c = s.arrange top ((s.regained top low)^[i] mid) low := by
    intro i
    rw [hc]
    exact (hhome.roundTrip_iterate i).1
  -- the extremes are kept trip by trip; all else is read off the walk of the middle channel
  constructor
  case begins => rfl
  case brightest =>
    intro i
    induction i with
    | zero => rfl
    | succ i ih => rw [Function.iterate_succ_apply', brightest_roundTrip, ih]
  case darkest =>
    intro i
    induction i with
    | zero => rfl
    | succ i ih => rw [Function.iterate_succ_apply', darkest_roundTrip, ih]
  case step =>
    intro i
    rw [Function.iterate_succ_apply']
    exact within_roundTrip _
  case oneWay =>
    simp only [hrun]
    rcases s.regained_oneWay top low mid with hdown | hup
    · exact Or.inl fun i => under_arrange s top low (hdown i)
    · exact Or.inr fun i => under_arrange s top low (hup i)
  case settled =>
    intro i hi
    rw [hrun, hrun, s.regained_settled top low mid hi]
  case near_iff =>
    intro d
    simp only [hrun]
    rw [hc]
    simp only [within_arrange_iff]
    exact ⟨fun h => h 43, fun h i => Nat.le_trans (s.regained_between top low mid i) h⟩
  case red => exact roundTrip_iterate_red

/-! ## Shifts that move nothing -/

/-- A hue that does not turn stays where it is on the circle, -/
theorem turned_zero (hue : UInt8) : turned hue 0 = hue := by
  have hlt : hue.toNat < 256 := hue.toNat_lt_size
  have hbyte : (turned hue 0).toNat = ((hue.toNat + (0 : Int)) % 256).toNat :=
    UInt8.toNat_ofNat_of_lt (show _ < 256 by omega)
  rw [← UInt8.toNat_inj, hbyte]
  omega

/-- and a level that is not moved is not clamped either. -/
theorem clamped_zero (level : UInt8) : clamped level 0 = level := by
  have hlt : level.toNat < 256 := level.toNat_lt_size
  rw [← UInt8.toNat_inj, toNat_clamped]
  omega

/-- **A shift by 0 is not nothing**: the pixel makes the round trip. -/
theorem shift_zero (c : Rgb) (channel : Channel) : c.shift channel 0 = c.roundTrip := by
  have hsame : c.toHsv.shift channel 0 = c.toHsv := by
    cases channel with
    | hue => rw [Hsv.shift, turned_zero]
    | saturation => rw [Hsv.shift, clamped_zero]
    | value => rw [Hsv.shift, clamped_zero]
  rw [shift, hsame, roundTrip]

/-- A step by 0 is a round trip for dark pixels too. -/
theorem shiftLit_zero (channel : Channel) (c : Rgb) :
    c.shiftLit channel 0 = c.shift channel 0 := by
  by_cases hdark : c = off
  · subst hdark
    rw [shift_zero]
    rfl
  · refine shiftLit_of_ne_off hdark ?_
    rw [shift_zero, Ne, eq_off_iff, brightest_roundTrip, ← eq_off_iff]
    exact hdark

/-- A value at its upper bound stays there, and only makes the round trip. -/
theorem shiftLit_value_of_full {step : Int} (hfull : c.brightest = 255) (hstep : 0 ≤ step) :
    c.shiftLit .value step = c.shift .value 0 := by
  have hval : clamped c.toHsv.val step = clamped c.toHsv.val 0 := by
    rw [← UInt8.toNat_inj, toNat_clamped, toNat_clamped, toNat_val_toHsv]
    omega
  have hshift : c.shift .value step = c.shift .value 0 := by
    rw [shift, shift, Hsv.shift, Hsv.shift, hval]
  rw [← hshift]
  refine shiftLit_of_ne_off ?_ ?_
  · rw [Ne, eq_off_iff]
    omega
  · rw [Ne, eq_off_iff, brightest_shift_value]
    omega

/-- A value that cannot fall by a whole step keeps its pixel as it is. -/
theorem shiftLit_value_of_low {step : Int} (hstep : step < 0) (hlow : c.brightest ≤ step.natAbs) :
    c.shiftLit .value step = c := by
  refine shiftLit_of_eq_off ?_
  rw [eq_off_iff, brightest_shift_value]
  omega

end Rgb

/-- A step that moves nothing makes a chain of repetitions. -/
theorem chain_of_fixed {α : Type} {f : α → α} {x : α} (h : f x = x) (k : Nat) :
    chain f k x = List.replicate k x := by
  induction k with
  | zero => rfl
  | succ k ih => rw [chain_succ, h, ih, List.replicate_succ]

/-- Two steps that agree on a walk of one of them make the same chain. -/
theorem chain_congr {α : Type} {f f' : α → α} {P : α → Prop}
    (h : ∀ x, P x → f x = f' x ∧ P (f' x)) (k : Nat) {x : α} (hx : P x) :
    chain f k x = chain f' k x := by
  induction k generalizing x with
  | zero => rfl
  | succ k ih =>
    obtain ⟨hsame, hnext⟩ := h x hx
    rw [chain_succ, chain_succ, hsame, ih hnext]

namespace Rgb

/-- **Shifts that move nothing settle**, but they need not settle near the colour they began with.
    A shift by 0, and one by which a value at 255 would rise, are runs of round trips.  A value that
    would fall by more than it has keeps its pixel. -/
theorem idle_shifts_settle (c : Rgb) :
    (∀ channel, Settles c fun i => (fun x : Rgb => x.shift channel 0)^[i] c) ∧
      ∀ {n : Nat} (start : Frame n) (g : Generator) (x : Nat) (hx : x < n) (channel : Channel)
        (step : Int16) (times : UInt16), start[x] = c →
        (step = 0 ∨ channel = .value ∧ 0 ≤ step.toInt ∧ c.brightest = 255 →
          (Action.shift channel step times).colors start g ⟨x, hx⟩
            = List.iterate (fun y : Rgb => y.shift channel 0) c (times.toNat + 1)) ∧
        (channel = .value ∧ step.toInt < 0 ∧ c.brightest ≤ step.toInt.natAbs →
          (Action.shift channel step times).colors start g ⟨x, hx⟩
            = List.replicate (times.toNat + 1) c) := by
  refine ⟨fun channel => ?_, ?_⟩
  · have hround : (fun x : Rgb => x.shift channel 0) = roundTrip :=
      funext fun x => x.shift_zero channel
    rw [hround]
    exact c.roundTrip_settles
  · rintro n start g x hx channel step times rfl
    rw [Action.colors_shift]
    show (_ → start[x] :: chain _ _ start[x] = _) ∧ (_ → start[x] :: chain _ _ start[x] = _)
    constructor
    -- the first two kinds of chain are runs of round trips, the third is no change at all
    · rintro (rfl | ⟨rfl, hstep, hfull⟩)
      · have hzero : shiftLit channel (0 : Int16).toInt = fun y : Rgb => y.shift channel 0 :=
          funext (shiftLit_zero channel)
        rw [hzero, cons_chain]
      · have hsame : ∀ y : Rgb, y.brightest = 255 →
            y.shiftLit .value step.toInt = y.shift .value 0 ∧
              (y.shift .value 0).brightest = 255 := by
          intro y hy
          refine ⟨shiftLit_value_of_full hy hstep, ?_⟩
          rw [shift_zero, brightest_roundTrip, hy]
        rw [chain_congr hsame times.toNat hfull, cons_chain]
    · rintro ⟨rfl, hstep, hlow⟩
      rw [chain_of_fixed (shiftLit_value_of_low hstep hlow), List.replicate_succ]

/-- No smaller number than 43 will do. -/
example : roundTrip^[42] ⟨43, 0, 43⟩ ≠ roundTrip^[43] ⟨43, 0, 43⟩ := by decide +kernel

/-- Magenta is 15 levels off after three shifts by 0. -/
theorem idle_shifts_wear_magenta_down :
    (Rgb.mk 255 0 255).shift .hue 0 = ⟨255, 0, 252⟩ ∧
      ¬ ∀ (c : Rgb) (channel : Channel) (i : Nat), c ≠ off → 1 ≤ i →
        Within 12 c ((fun x : Rgb => x.shift channel 0)^[i] c) := by
  refine ⟨by decide, fun h => ?_⟩
  have hblue := (h ⟨255, 0, 255⟩ .hue 3 (by decide) (by decide)).blue
  have hthird : (fun x : Rgb => x.shift .hue 0)^[3] ⟨255, 0, 255⟩ = ⟨255, 0, 240⟩ := by decide
  rw [hthird] at hblue
  exact absurd hblue (by decide)

end Rgb

end LedAnimation
