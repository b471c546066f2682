/-
  What compilation draws from the generator: one number for each delay, and nothing else.

  `Generator.holds` draws for a list of ranges, one after the other, and knows neither scripts nor
  frames.  Compilation leaves the generator that this leaves for the `delays` of the script, and
  holds frames for exactly the numbers drawn (`Blocks.holds_delays`).  So two scripts with the same
  delays draw alike, whatever else is in them, on strips of whatever length.

  A list that is refused is compiled up to the first entry with which it is no script any more.
  What stands before that entry has been drawn for, and nothing behind it
  (`FirstOffending.compile_generator`).
-/
import LedAnimation.Proofs.Compilation.Blocks

namespace LedAnimation

variable {n m : Nat}

/-! ## The draws of a list of delays -/

/-- The numbers drawn for a list of ranges, and the generator after the last one. -/
def Generator.holds (g : Generator) : List (UInt16 × UInt16) → List Nat × Generator
  | [] => ([], g)
  | (min, max) :: rest =>
    let hold := g.wordIn min max
    let tail := hold.2.holds rest
    (hold.1 :: tail.1, tail.2)

/-- The range of a delay. -/
def Entry.delay? : Entry n → Option (UInt16 × UInt16)
  | .action (.delay min max) => some (min, max)
  | _ => none

/-- The ranges of all delays, in their order. -/
def delays (entries : List (Entry n)) : List (UInt16 × UInt16) := entries.filterMap Entry.delay?

/-- For how many frames each delay has held the frame before it. -/
def holdCounts (entries : List (Entry n)) (blocks : List (List (Frame n))) : List Nat :=
  (entries.zip blocks).filterMap fun (entry, block) => entry.delay?.map fun _ => block.length

/-- **Compilation draws for its delays only**, and holds for as long as was drawn. -/
theorem Blocks.holds_delays {output : List (Frame n)} {g after : Generator}
    {entries : List (Entry n)} {blocks : List (List (Frame n))}
    (h : Blocks output g entries blocks after) :
    g.holds (delays entries) = (holdCounts entries blocks, after) := by
  induction h with
  | nil => rfl
  | @cons output frames g next after entry entries blocks block _ ih =>
    cases block with
    | frame frame => exact ih
    | shift origin count derived => exact ih
    | @delay last min max k _ held drawn _ _ =>
      show ((g.wordIn min max).1 :: ((g.wordIn min max).2.holds (delays entries)).1,
          ((g.wordIn min max).2.holds (delays entries)).2) = _
      rw [drawn]
      dsimp only
      rw [ih]
      show (k :: _, _) = ((List.replicate k last).length :: _, _)
      rw [List.length_replicate]
      rfl

/-- What compiles leaves the generator of its draws. -/
theorem compile_generator {entries : List (Entry n)} {g after : Generator}
    {frames : List (Frame n)} (h : compile entries g = (.ok frames, after)) :
    (g.holds (delays entries)).2 = after := by
  obtain ⟨blocks, hblocks, -⟩ := Blocks.exists_of_compile h
  rw [hblocks.holds_delays]

/-! ## The draws of a list that is refused -/

/-- The entry is the first one with which the list is no script any more. -/
def FirstOffending (entries before : List (Entry n)) (entry : Entry n) : Prop :=
  (∃ rest, entries = before ++ entry :: rest) ∧ WellFormed before ∧
    ¬ WellFormed (before ++ [entry])

/-- A list that is no script has a shortest front that is none. -/
theorem exists_firstOffending {entries : List (Entry n)} (h : ¬ WellFormed entries) :
    ∃ before entry, FirstOffending entries before entry := by
  -- the front grows by one entry at a time, as long as it is a script
  have hfront : ∀ (behind before : List (Entry n)), WellFormed before →
      ¬ WellFormed (before ++ behind) →
      ∃ front entry, FirstOffending (before ++ behind) front entry := by
    intro behind
    induction behind with
    | nil =>
      intro before hwell hnot
      rw [List.append_nil] at hnot
      exact absurd hwell hnot
    | cons entry rest ih =>
      intro before hwell hnot
      by_cases hnext : WellFormed (before ++ [entry])
      · have hbehind := ih (before ++ [entry]) hnext
        rw [List.append_assoc] at hbehind
        exact hbehind hnot
      · exact ⟨before, entry, ⟨rest, rfl⟩, hwell, hnext⟩
  exact hfront entries [] (by constructor <;> exact fun _ hnone => nomatch hnone) h

/-- A frame can always be put behind a script, and a valid action behind one that is not empty. -/
theorem WellFormed.concat {before : List (Entry n)} (h : WellFormed before) {entry : Entry n}
    (hentry : ∀ action, entry = .action action → action.isValid ∧ before ≠ []) :
    WellFormed (before ++ [entry]) := by
  constructor
  case starts_with_frame =>
    intro action hhead
    cases before with
    | nil => exact (hentry action (Option.some.inj hhead)).2 rfl
    | cons first rest => exact h.starts_with_frame action hhead
  case actions_valid =>
    intro action hmem
    rcases List.mem_append.1 hmem with hbefore | hlast
    · exact h.actions_valid action hbefore
    · exact (hentry action (List.mem_singleton.1 hlast).symm).1

/-- Only an action offends: one that contradicts itself, or one in front. -/
theorem FirstOffending.exists_action {entries before : List (Entry n)} {entry : Entry n}
    (h : FirstOffending entries before entry) :
    ∃ action, entry = .action action ∧ (action.isValid → before = []) := by
  obtain ⟨-, hwell, hnot⟩ := h
  -- with neither of the two the front would go on to be a script
  by_contra hnone
  refine hnot (hwell.concat fun action haction => ?_)
  by_contra hneither
  refine hnone ⟨action, haction, fun hvalid => ?_⟩
  by_contra hbefore
  exact hneither ⟨hvalid, hbefore⟩

/-- **Compilation goes as far as the first offending entry**, and has drawn for the delays up to
    there. -/
theorem FirstOffending.compile_generator {entries before : List (Entry n)} {entry : Entry n}
    (h : FirstOffending entries before entry) (g : Generator) :
    (compile entries g).2 = (g.holds (delays before)).2 := by
  obtain ⟨action, rfl, hfront⟩ := h.exists_action
  obtain ⟨⟨rest, rfl⟩, hwell, -⟩ := h
  have hbefore : compile before g = _ := Script.compile_eq ⟨before, hwell⟩ g
  rw [LedAnimation.compile_generator hbefore, compile, compileAfter_append hbefore]
  dsimp only
  by_cases hvalid : action.isValid
  · -- nothing has been emitted before an action in front
    obtain rfl := hfront hvalid
    have hcycle : (⟨[], hwell⟩ : Script n).cycle g = [] := rfl
    rw [hcycle, List.getLast?_nil, Option.none_or, compileAfter_orphan hvalid]
  · rw [compileAfter_invalid hvalid]

/-! ## All together -/

/-- **Randomness is used by delays only.**  Two scripts with the same delays, on strips of whatever
    length, hold frames for the same counts, which are those drawn for the delays alone, and leave
    the same generator.  Without delays nothing is drawn.  A list that is refused has been drawn for
    up to its first offending entry. -/
theorem compile_draws_for_delays_only (g : Generator) (xs : List (Entry n)) :
    (∀ {m : Nat} (ys : List (Entry m)) (framesX : List (Frame n)) (framesY : List (Frame m))
        (afterX afterY : Generator),
      compile xs g = (.ok framesX, afterX) → compile ys g = (.ok framesY, afterY) →
      delays xs = delays ys →
      afterX = afterY ∧
        ∃ blocksX blocksY, Blocks [] g xs blocksX afterX ∧ blocksX.flatten = framesX ∧
          Blocks [] g ys blocksY afterY ∧ blocksY.flatten = framesY ∧
          holdCounts xs blocksX = holdCounts ys blocksY ∧
          g.holds (delays xs) = (holdCounts xs blocksX, afterX)) ∧
      (delays xs = [] → (compile xs g).2 = g) ∧
      (∀ fault, (compile xs g).1 = .error fault →
        ∃ before entry, FirstOffending xs before entry ∧
          (compile xs g).2 = (g.holds (delays before)).2) := by
  have hrefused : ∀ fault, (compile xs g).1 = .error fault →
      ∃ before entry, FirstOffending xs before entry ∧
        (compile xs g).2 = (g.holds (delays before)).2 := by
    intro fault hfault
    have hnot : ¬ WellFormed xs := by
      intro hwell
      rw [show compile xs g = _ from Script.compile_eq ⟨xs, hwell⟩ g] at hfault
      exact nomatch hfault
    obtain ⟨before, entry, hfirst⟩ := exists_firstOffending hnot
    exact ⟨before, entry, hfirst, hfirst.compile_generator g⟩
  refine ⟨?_, ?_, hrefused⟩
  -- both lists draw for the same ranges, so they get the same numbers and leave the same generator
  · intro m ys framesX framesY afterX afterY hx hy hsame
    obtain ⟨blocksX, hblocksX, hflattenX⟩ := Blocks.exists_of_compile hx
    obtain ⟨blocksY, hblocksY, hflattenY⟩ := Blocks.exists_of_compile hy
    have hdrawn := hblocksX.holds_delays
    have hboth := hblocksY.holds_delays
    rw [← hsame, hdrawn, Prod.mk.injEq] at hboth
    exact ⟨hboth.2, blocksX, blocksY, hblocksX, hflattenX, hblocksY, hflattenY, hboth.1, hdrawn⟩
  · intro hnone
    cases hresult : (compile xs g).1 with
    | ok frames =>
      have hdrawn : (g.holds (delays xs)).2 = (compile xs g).2 :=
        compile_generator (Prod.ext hresult rfl)
      rw [← hdrawn, hnone]
      rfl
    | error fault =>
      obtain ⟨before, entry, ⟨⟨rest, rfl⟩, -⟩, hdrawn⟩ := hrefused fault hresult
      have hbefore : delays before = [] := by
        rw [delays, List.filterMap_append, List.append_eq_nil_iff] at hnone
        exact hnone.1
      rw [hdrawn, hbefore]
      rfl

/-- A held dot that turns and is held again, and two dark frames on a longer strip that are held. -/
theorem dots_and_dark_draw_alike :
    let dots : List (Entry 2) :=
      [.frame #v[⟨255, 40, 0⟩, off], .action (.delay 0 9), .action (.shift .hue 40 3),
        .action (.delay 2 5)]
    let dark : List (Entry 5) :=
      [.frame (Frame.dark 5), .action (.delay 0 9), .frame (Frame.dark 5), .action (.delay 2 5)]
    ∃ framesX framesY after, compile dots ⟨7⟩ = (.ok framesX, after) ∧
      compile dark ⟨7⟩ = (.ok framesY, after) ∧
      ∃ blocksX blocksY, Blocks [] ⟨7⟩ dots blocksX after ∧ Blocks [] ⟨7⟩ dark blocksY after ∧
        holdCounts dots blocksX = holdCounts dark blocksY := by
  intro dots dark
  have hx := Script.compile_eq ⟨dots, (fault?_eq_none_iff dots).1 rfl⟩ ⟨7⟩
  have hy := Script.compile_eq ⟨dark, (fault?_eq_none_iff dark).1 rfl⟩ ⟨7⟩
  obtain ⟨hafter, blocksX, blocksY, hblocksX, -, hblocksY, -, hcounts, -⟩ :=
    (compile_draws_for_delays_only ⟨7⟩ dots).1 dark _ _ _ _ hx hy rfl
  exact ⟨_, _, _, hx, hafter ▸ hy, blocksX, blocksY, hblocksX, hafter ▸ hblocksY, hcounts⟩

end LedAnimation
