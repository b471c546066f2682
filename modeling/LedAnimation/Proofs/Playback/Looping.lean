/-
  Looping playback is the endless concatenation of its cycles.

  Cycle `i` is compiled with the generator that cycle `i - 1` left behind (`Script.seedOf`), and
  every cycle may have another length.  `Script.played g i` is the concatenation of the first `i`
  cycles.  After `k` reads the player stands somewhere in some cycle:

    played g i ++ cycle i   has frame `k` at   (played g i).length + j = k,  j < (cycle i).length

  `standing i j` is the player there, in closed form, and `after_eq_standing` finds `i` and `j`.  A
  read either moves `j` on or, on the last frame of the cycle, goes to `standing (i + 1) 0`: the
  next cycle is compiled at that moment and not later, so the generator of `standing i j` is always
  the one cycle `i` has left.
-/
import LedAnimation.Preview.Catalog
import LedAnimation.Proofs.Playback.Basic

namespace LedAnimation

variable {n : Nat}

/-! ## The endless concatenation -/

namespace Script

/-- The generator cycle `i` is compiled with. -/
def seedOf (script : Script n) (g : Generator) : Nat → Generator
  | 0 => g
  | i + 1 => script.generatorAfter (script.seedOf g i)

/-- The first `i` cycles, one after the other. -/
def played (script : Script n) (g : Generator) : Nat → List (Frame n)
  | 0 => []
  | i + 1 => script.played g i ++ script.cycle (script.seedOf g i)

theorem played_succ (script : Script n) (g : Generator) (i : Nat) :
    script.played g (i + 1) = script.played g i ++ script.cycle (script.seedOf g i) := rfl

/-- Positions in the concatenation are counted cycle by cycle, as each may have another length. -/
theorem length_played_succ (script : Script n) (g : Generator) (i : Nat) :
    (script.played g (i + 1)).length
      = (script.played g i).length + (script.cycle (script.seedOf g i)).length := by
  rw [played_succ, List.length_append]

/-- What is played at first stays the beginning of all that is played. -/
theorem played_prefix (script : Script n) (g : Generator) {i c : Nat} (h : i ≤ c) :
    script.played g i <+: script.played g c := by
  obtain ⟨d, rfl⟩ := Nat.exists_eq_add_of_le h
  clear h
  induction d with
  | zero => exact List.prefix_rfl
  | succ d ih =>
    rw [← Nat.add_assoc, played_succ]
    exact ih.trans (List.prefix_append _ _)

/-- Frame `j` of cycle `i`, as a frame of the whole concatenation. -/
theorem played_getElem? (script : Script n) (g : Generator) {i j c : Nat} (hi : i < c)
    (hj : j < (script.cycle (script.seedOf g i)).length) :
    (script.played g c)[(script.played g i).length + j]?
      = some (script.cycle (script.seedOf g i))[j] := by
  obtain ⟨rest, hrest⟩ := script.played_prefix g (Nat.succ_le_of_lt hi)
  rw [← hrest, played_succ, List.append_assoc, List.getElem?_append_right (Nat.le_add_right _ _),
    Nat.add_sub_cancel_left, List.getElem?_append_left hj, List.getElem?_eq_getElem hj]

/-- No cycle is empty, so `i` cycles have at least `i` frames. -/
theorem le_length_played {script : Script n} (hscript : script.isEmpty = false) (g : Generator)
    (i : Nat) : i ≤ (script.played g i).length := by
  induction i with
  | zero => exact Nat.zero_le _
  | succ i ih =>
    have hpos := length_cycle_pos hscript (script.seedOf g i)
    rw [length_played_succ]
    omega

/-- A static script draws nothing for any cycle. -/
theorem seedOf_of_static {script : Script n} (hstatic : script.isDynamic = false) (g : Generator)
    (i : Nat) : script.seedOf g i = g := by
  induction i with
  | zero => rfl
  | succ i ih => rw [seedOf, generatorAfter_of_static hstatic, ih]

/-- The cycles of a static script are all alike. -/
theorem length_played_of_static {script : Script n} (hstatic : script.isDynamic = false)
    (g : Generator) (i : Nat) : (script.played g i).length = script.length * i := by
  have hlength : script.stills.length = script.length := by
    rw [length, entries_of_static hstatic, List.length_map]
  induction i with
  | zero => rfl
  | succ i ih =>
    rw [length_played_succ, ih, cycle_of_static hstatic, hlength, Nat.mul_succ]

end Script

/-! ## Where a looping player stands -/

namespace Player

/-- The looping player of a script at frame `j` of cycle `i`. -/
def standing (script : Script n) (g : Generator) (i j : Nat) : Player n :=
  { begun script false .loop (script.seedOf g i) with position := j }

/-- What the player reads at frame `j` of cycle `i`. -/
theorem standing_frame {script : Script n} {g : Generator} {i j : Nat}
    (hj : j < (script.cycle (script.seedOf g i)).length) :
    (standing script g i j).frames[(standing script g i j).position]?
      = some (script.cycle (script.seedOf g i))[j] := by
  show (script.cycle (script.seedOf g i)).toArray[j]? = _
  rw [List.getElem?_toArray, List.getElem?_eq_getElem hj]

/-- Inside a cycle a read moves on by one frame. -/
theorem next_standing_of_lt {script : Script n} {g : Generator} {i j : Nat}
    (hj : j + 1 < (script.cycle (script.seedOf g i)).length) :
    (standing script g i j).next = standing script g i (j + 1) := by
  rw [next_of_some (standing_frame (Nat.lt_of_succ_lt hj))]
  exact if_pos hj

/-- The last frame of a cycle leads to the first frame of the next one. -/
theorem next_standing_of_last {script : Script n} {g : Generator} {i j : Nat}
    (hj : j + 1 = (script.cycle (script.seedOf g i)).length) :
    (standing script g i j).next = standing script g (i + 1) 0 := by
  have hlast : ¬ j + 1 < (script.cycle (script.seedOf g i)).length := by omega
  rw [next_of_some (standing_frame (by omega))]
  have hadvanced : (standing script g i j).advanced = (standing script g i (j + 1)).rewound :=
    if_neg hlast
  rw [hadvanced, rewound]
  cases hdynamic : script.isDynamic with
  | true => exact if_pos hdynamic
  | false =>
    -- a static script goes back to the frames it has, which are those of every other cycle
    have hkeep : ¬ (standing script g i (j + 1)).isDynamic = true := by
      rw [isDynamic]
      exact Bool.eq_false_iff.mp hdynamic
    rw [if_neg hkeep, standing, standing, Script.seedOf_of_static hdynamic,
      Script.seedOf_of_static hdynamic]

/-- **Where the player stands after `k` reads.**  By induction on `k`; the case split is whether
    the frame read last was the last one of its cycle. -/
theorem after_eq_standing {script : Script n} (hscript : script.isEmpty = false) (g : Generator)
    (k : Nat) :
    ∃ i j, (begun script false .loop g).after k = standing script g i j ∧
      j < (script.cycle (script.seedOf g i)).length ∧ (script.played g i).length + j = k := by
  induction k with
  | zero => exact ⟨0, 0, rfl, Script.length_cycle_pos hscript _, rfl⟩
  | succ k ih =>
    obtain ⟨i, j, hafter, hj, hk⟩ := ih
    rw [after_succ, hafter]
    -- inside its cycle, or on the last frame of it
    rcases Nat.lt_or_eq_of_le (Nat.succ_le_of_lt hj) with hlt | hlast
    · exact ⟨i, j + 1, next_standing_of_lt hlt, hlt, by omega⟩
    · refine ⟨i + 1, 0, next_standing_of_last hlast, Script.length_cycle_pos hscript _, ?_⟩
      rw [Script.length_played_succ]
      omega

/-- Read `k` gives frame `k` of any concatenation that is long enough. -/
theorem outcome_after {script : Script n} (hscript : script.isEmpty = false) (g : Generator)
    {k c : Nat} (hk : k < (script.played g c).length) :
    ((begun script false .loop g).after k).outcome = .ok (script.played g c)[k] := by
  obtain ⟨i, j, hafter, hj, hsum⟩ := after_eq_standing hscript g k
  -- frame `k` lies in a cycle before the end of cycle `c`, so all of that cycle has been played by
  -- then
  have hi : i < c := by
    rcases Nat.lt_or_ge i c with hlt | hge
    · exact hlt
    · have hle := (script.played_prefix g hge).length_le
      omega
  have hframe := script.played_getElem? g hi hj
  rw [hsum, List.getElem?_eq_getElem hk] at hframe
  rw [hafter, outcome_of_some (standing_frame hj), Option.some.inj hframe]

/-- A static script is read round and round, and its generator stays as it was. -/
theorem outcome_after_of_static {script : Script n} (hscript : script.isEmpty = false)
    (hstatic : script.isDynamic = false) (g : Generator) (k : Nat) :
    ∃ frame, script.entries[k % script.length]? = some (.frame frame) ∧
      ((begun script false .loop g).after k).outcome = .ok frame ∧
      ((begun script false .loop g).after k).generator = g := by
  -- cycle and frame of the cycle are quotient and remainder of `k`, as all cycles have one length
  obtain ⟨i, j, hafter, hj, hsum⟩ := after_eq_standing hscript g k
  have hstills : j < script.stills.length := by
    rw [Script.cycle_of_static hstatic] at hj
    exact hj
  have hlength : script.length = script.stills.length := by
    rw [Script.length, Script.entries_of_static hstatic, List.length_map]
  have hmod : k % script.length = j := by
    rw [← hsum, Script.length_played_of_static hstatic, Nat.mul_add_mod,
      Nat.mod_eq_of_lt (hlength ▸ hstills)]
  refine ⟨script.stills[j], ?_, ?_, ?_⟩
  · rw [hmod, Script.entries_of_static hstatic, List.getElem?_map,
      List.getElem?_eq_getElem hstills]
    rfl
  · rw [hafter, outcome_of_some (standing_frame hj)]
    simp only [Script.cycle_of_static hstatic]
  · rw [hafter]
    show script.seedOf g (i + 1) = g
    exact Script.seedOf_of_static hstatic g (i + 1)

/-! ## The whole of it -/

/-- `p` plays the endless concatenation of the cycles of `script` that begins with `g`. -/
structure PlaysForever (script : Script n) (g : Generator) (p : Player n) : Prop where
  /-- Every cycle is one compilation, with the generator the cycle before it has left. -/
  compiles : ∀ i, script.compile (script.seedOf g i)
    = (.ok (script.cycle (script.seedOf g i)), script.seedOf g (i + 1))
  /-- `k` reads succeed and give the first `k` frames. -/
  reads : ∀ k c, k ≤ (script.played g c).length →
    (List.range k).map (fun t => (p.after t).outcome) = ((script.played g c).take k).map .ok
  /-- There are always cycles enough for `k` frames. -/
  unbounded : ∀ k, k ≤ (script.played g k).length
  /-- At every moment the stored frames are those of the cycle now being read, and the stored
      generator is the one its compilation has left. -/
  stands : ∀ k, ∃ i, (script.played g i).length ≤ k ∧ k < (script.played g (i + 1)).length ∧
    (p.after k).left = script.cycle (script.seedOf g i) ∧
    (p.after k).cursor = k - (script.played g i).length ∧
    (p.after k).generator = script.seedOf g (i + 1)
  /-- A static script is read round and round, and its generator is never touched. -/
  rounds : script.isDynamic = false → ∀ k, ∃ frame,
    script.entries[k % script.length]? = some (.frame frame) ∧
    (p.after k).outcome = .ok frame ∧ (p.after k).generator = g

/-- The outcomes of the first reads, as one list. -/
theorem outcomes_eq_take {script : Script n} (hscript : script.isEmpty = false) (g : Generator)
    {k c : Nat} (hk : k ≤ (script.played g c).length) :
    (List.range k).map (fun t => ((begun script false .loop g).after t).outcome)
      = ((script.played g c).take k).map .ok := by
  apply List.ext_getElem
  · rw [List.length_map, List.length_range, List.length_map, List.length_take, Nat.min_eq_left hk]
  · intro t ht _
    rw [List.length_map, List.length_range] at ht
    rw [List.getElem_map, List.getElem_range, List.getElem_map, List.getElem_take]
    exact outcome_after hscript g (Nat.lt_of_lt_of_le ht hk)

/-- The cycle now being read, and the generator that belongs to it. -/
theorem exists_cycle_after {script : Script n} (hscript : script.isEmpty = false) (g : Generator)
    (k : Nat) :
    ∃ i, (script.played g i).length ≤ k ∧ k < (script.played g (i + 1)).length ∧
      ((begun script false .loop g).after k).left = script.cycle (script.seedOf g i) ∧
      ((begun script false .loop g).after k).cursor = k - (script.played g i).length ∧
      ((begun script false .loop g).after k).generator = script.seedOf g (i + 1) := by
  obtain ⟨i, j, hafter, hj, hsum⟩ := after_eq_standing hscript g k
  have hstart : (script.played g i).length ≤ k := by omega
  have hend : k < (script.played g (i + 1)).length := by
    rw [Script.length_played_succ]
    omega
  have hcursor : j = k - (script.played g i).length := by omega
  rw [hafter]
  exact ⟨i, hstart, hend, rfl, hcursor, rfl⟩

/-- **Looping playback never drifts and never runs dry.** -/
theorem looping_playsForever {script : Script n} (hscript : script.isEmpty = false)
    (g : Generator) :
    ∃ p, (looping script false g).value = .ok p ∧ PlaysForever script g p := by
  refine ⟨begun script false .loop g, value_start script false .loop g, ?_⟩
  constructor
  case compiles => exact fun i => script.compile_eq (script.seedOf g i)
  case reads => exact fun k c hk => outcomes_eq_take hscript g hk
  case unbounded => exact Script.le_length_played hscript g
  case stands => exact exists_cycle_after hscript g
  case rounds => exact fun hstatic k => outcome_after_of_static hscript hstatic g k

/-- A script with two random pauses, whose cycles have between 10 and 14 frames. -/
theorem looping_raindrop :
    Catalog.raindropFalling.isEmpty = false ∧
      ∃ p, (looping Catalog.raindropFalling false ⟨7⟩).value = .ok p ∧
        PlaysForever Catalog.raindropFalling ⟨7⟩ p :=
  ⟨by decide, looping_playsForever (by decide) ⟨7⟩⟩

end Player

end LedAnimation
