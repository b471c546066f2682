/-
  The language of scripts, told without its compiler.

  A script is read from its first entry to its last.  Every entry puts one block of frames behind
  the `output` that is there already (`Block`):

  * a frame is a block of its own;
  * a delay holds the last frame of the output as often as the next draw of the generator says,
    which lies between the two ends of the delay;
  * a shift is a chain of as many frames as it says.  The first one is derived from the last frame
    of the output, each further one from the frame before it (`FrameShift`), one pixel at a time
    (`PixelShift`).

  `Blocks` reads a whole list of entries that way.  It always looks at the end of the output itself,
  frames of earlier actions included, whereas the compiler carries its last frame along and never
  sees the rest.  The two agree: what has blocks compiles to their concatenation
  (`Blocks.compileAfter_eq`), and well-formed entries have blocks (`Blocks.exists_of_valid`).
-/
import LedAnimation.Proofs.Compilation.Faults
import Mathlib.Algebra.GroupWithZero.Nat
import Mathlib.Data.List.Chain

namespace LedAnimation

variable {n : Nat}

/-! ## One step of a shift -/

/-- What one step of a shift makes of a pixel. -/
inductive PixelShift (channel : Channel) (step : Int) : Rgb → Rgb → Prop
  /-- A dark pixel stays dark. -/
  | dark : PixelShift channel step off off
  /-- A lit pixel takes the shifted colour, -/
  | moved {c : Rgb} (lit : c ≠ off) (stays : c.shift channel step ≠ off) :
      PixelShift channel step c (c.shift channel step)
  /-- unless that would put it out: then it keeps its own. -/
  | kept {c : Rgb} (lit : c ≠ off) (out : c.shift channel step = off) :
      PixelShift channel step c c

/-- What one step of a shift makes of a frame. -/
def FrameShift (channel : Channel) (step : Int) (before after : Frame n) : Prop :=
  ∀ i (h : i < n), PixelShift channel step before[i] after[i]

/-- The relation is the step that the compiler takes.  It says in three cases what `shiftLit` says
    in two conditions. -/
theorem pixelShift_iff (channel : Channel) (step : Int) (c d : Rgb) :
    PixelShift channel step c d ↔ d = c.shiftLit channel step := by
  constructor
  · intro h
    cases h with
    | dark => rfl
    | moved lit stays => rw [Rgb.shiftLit, if_neg lit, if_neg stays]
    | kept lit out => rw [Rgb.shiftLit, if_neg lit, if_pos out]
  · intro h
    subst h
    rw [Rgb.shiftLit]
    by_cases hdark : c = off
    · subst hdark
      exact .dark
    · rw [if_neg hdark]
      by_cases hout : c.shift channel step = off
      · rw [if_pos hout]
        exact .kept hdark hout
      · rw [if_neg hout]
        exact .moved hdark hout

/-- A frame takes its step pixel by pixel. -/
theorem frameShift_iff (channel : Channel) (step : Int) (before after : Frame n) :
    FrameShift channel step before after ↔ after = before.shiftLit channel step := by
  constructor
  · intro h
    ext i hi
    have hpixel := (pixelShift_iff channel step _ _).1 (h i hi)
    rw [hpixel, Frame.shiftLit, Vector.getElem_map]
  · intro h i hi
    rw [pixelShift_iff, h, Frame.shiftLit, Vector.getElem_map]

/-- A list in which every element is `f` of the one before it is the chain of `f`. -/
theorem isChain_iff_eq_chain {α : Type} {f : α → α} {R : α → α → Prop}
    (hR : ∀ a b, R a b ↔ b = f a) (x : α) (xs : List α) :
    List.IsChain R (x :: xs) ↔ xs = chain f xs.length x := by
  induction xs generalizing x with
  | nil => exact ⟨fun _ => rfl, fun _ => List.isChain_singleton x⟩
  | cons y ys ih =>
    rw [List.isChain_cons_cons, hR, ih, List.length_cons, chain_succ, List.cons.injEq]
    refine and_congr_right ?_
    rintro rfl
    exact Iff.rfl

/-! ## The language -/

/-- The block of frames an entry stands for behind some output, and the generator after it. -/
inductive Block (output : List (Frame n)) (g : Generator) :
    Entry n → List (Frame n) → Generator → Prop
  | frame (frame : Frame n) : Block output g (.frame frame) [frame] g
  | delay {last : Frame n} {min max : UInt16} {k : Nat} {after : Generator}
      (held : output.getLast? = some last) (drawn : g.wordIn min max = (k, after))
      (least : min.toNat ≤ k) (most : k ≤ max.toNat) :
      Block output g (.action (.delay min max)) (List.replicate k last) after
  | shift {last : Frame n} {channel : Channel} {step : Int16} {times : UInt16}
      {frames : List (Frame n)} (origin : output.getLast? = some last)
      (count : frames.length = times.toNat)
      (derived : List.IsChain (FrameShift channel step.toInt) (last :: frames)) :
      Block output g (.action (.shift channel step times)) frames g

/-- The blocks of a list of entries behind some output, one for each entry and in their order, and
    the generator after the last one. -/
inductive Blocks : List (Frame n) → Generator → List (Entry n) → List (List (Frame n)) →
    Generator → Prop
  | nil {output : List (Frame n)} {g : Generator} : Blocks output g [] [] g
  | cons {output frames : List (Frame n)} {g next after : Generator} {entry : Entry n}
      {entries : List (Entry n)} {blocks : List (List (Frame n))}
      (block : Block output g entry frames next)
      (rest : Blocks (output ++ frames) next entries blocks after) :
      Blocks output g (entry :: entries) (frames :: blocks) after

/-! ## The compiler follows it -/

/-- The block of an action is what the action expands to. -/
theorem Block.expand_eq {output : List (Frame n)} {last : Frame n} {g after : Generator}
    {action : Action} {frames : List (Frame n)} (hlast : output.getLast? = some last)
    (h : Block output g (.action action) frames after) :
    action.isValid ∧ action.expand last g = (frames, after) := by
  -- a delay has drawn a length between its ends, and so has ends in order
  cases h with
  | delay held drawn least most =>
    rw [hlast, Option.some.injEq] at held
    subst held
    refine ⟨?_, ?_⟩
    · rw [Action.isValid, decide_eq_true_eq, UInt16.le_iff_toNat_le]
      exact Nat.le_trans least most
    · rw [Action.expand, drawn]
  | shift origin count derived =>
    rw [hlast, Option.some.injEq] at origin
    subst origin
    refine ⟨rfl, ?_⟩
    rw [isChain_iff_eq_chain (frameShift_iff _ _), count] at derived
    rw [Action.expand, ← derived]

/-- An action has a block wherever it is valid and has a frame to continue from. -/
theorem Block.exists_of_valid {output : List (Frame n)} (houtput : output ≠ []) {action : Action}
    (h : action.isValid) (g : Generator) :
    ∃ frames after, Block output g (.action action) frames after := by
  have hlast := List.getLast?_eq_some_getLast houtput
  cases action with
  | delay min max =>
    rw [Action.isValid, decide_eq_true_eq, UInt16.le_iff_toNat_le] at h
    exact ⟨_, _, .delay hlast rfl (Generator.le_within g) (Generator.within_le h g)⟩
  | shift channel step times =>
    have hcount := length_chain (Frame.shiftLit channel step.toInt) times.toNat
      (output.getLast houtput)
    refine ⟨_, _, .shift hlast hcount ?_⟩
    rw [isChain_iff_eq_chain (frameShift_iff _ _), hcount]

/-- **What has blocks compiles to their concatenation.**  By induction on the entries; the frame the
    compiler carries along is always the last one of the output. -/
theorem Blocks.compileAfter_eq {output : List (Frame n)} {g after : Generator}
    {entries : List (Entry n)} {blocks : List (List (Frame n))}
    (h : Blocks output g entries blocks after) :
    compileAfter output.getLast? entries g = (.ok blocks.flatten, after) := by
  induction h with
  | nil => rfl
  | @cons output frames g next after entry entries blocks block _ ih =>
    rw [List.getLast?_append] at ih
    cases entry with
    | frame frame =>
      cases block
      rw [List.getLast?_singleton, Option.some_or] at ih
      rw [compileAfter_frame, ih]
      rfl
    | action action =>
      obtain ⟨last, hlast⟩ : ∃ last, output.getLast? = some last := by
        cases block with
        | delay held _ _ _ => exact ⟨_, held⟩
        | shift origin _ _ => exact ⟨_, origin⟩
      obtain ⟨hvalid, hexpand⟩ := block.expand_eq hlast
      rw [hlast] at ih
      rw [hlast, compileAfter_action hvalid, hexpand]
      dsimp only
      rw [ih]
      rfl

/-- **Valid entries have blocks**, as long as the first of them has a frame to continue from: one of
    the output, or itself. -/
theorem Blocks.exists_of_valid {output : List (Frame n)} {entries : List (Entry n)}
    (hstart : output = [] → ∀ action, entries.head? ≠ some (.action action))
    (hvalid : ∀ action, .action action ∈ entries → action.isValid) (g : Generator) :
    ∃ blocks after, Blocks output g entries blocks after := by
  induction entries generalizing output g with
  | nil => exact ⟨[], g, .nil⟩
  | cons entry entries ih =>
    have hrest : ∀ action, .action action ∈ entries → action.isValid :=
      fun action h => hvalid action (List.mem_cons_of_mem entry h)
    cases entry with
    | frame frame =>
      have hsome : output ++ [frame] ≠ [] :=
        List.append_ne_nil_of_right_ne_nil output (List.cons_ne_nil frame [])
      obtain ⟨blocks, after, h⟩ := ih (fun hnil => absurd hnil hsome) hrest g
      exact ⟨[frame] :: blocks, after, .cons (.frame frame) h⟩
    | action action =>
      have houtput : output ≠ [] := fun hnil => hstart hnil action rfl
      have hok : action.isValid := hvalid action List.mem_cons_self
      obtain ⟨frames, next, hblock⟩ := Block.exists_of_valid houtput hok g
      -- what follows continues from the same output, whether or not the action added a frame
      have hsome : output ++ frames ≠ [] := List.append_ne_nil_of_left_ne_nil houtput _
      obtain ⟨blocks, after, h⟩ := ih (fun hnil => absurd hnil hsome) hrest next
      exact ⟨frames :: blocks, after, .cons hblock h⟩

/-- **What compiles has blocks**, and they are all that comes out. -/
theorem Blocks.exists_of_compile {entries : List (Entry n)} {g after : Generator}
    {frames : List (Frame n)} (h : compile entries g = (.ok frames, after)) :
    ∃ blocks, Blocks [] g entries blocks after ∧ blocks.flatten = frames := by
  have hwell : WellFormed entries := wellFormed_of_compile (congrArg Prod.fst h)
  obtain ⟨blocks, after', hblocks⟩ : ∃ blocks after, Blocks [] g entries blocks after :=
    Blocks.exists_of_valid (fun _ => hwell.starts_with_frame) hwell.actions_valid g
  have hcompile : compile entries g = (.ok blocks.flatten, after') := hblocks.compileAfter_eq
  rw [h] at hcompile
  cases hcompile
  exact ⟨blocks, hblocks, rfl⟩

/-! ## How long the output is -/

/-- How often an entry shifts the frame before it. -/
def Entry.repeats : Entry n → Nat
  | .frame _ => 0
  | .action (.delay _ _) => 0
  | .action (.shift _ _ times) => times.toNat

/-- How long an entry holds the frame before it, at least. -/
def Entry.shortestHold : Entry n → Nat
  | .frame _ => 0
  | .action (.delay min _) => min.toNat
  | .action (.shift _ _ _) => 0

/-- How long an entry holds the frame before it, at most. -/
def Entry.longestHold : Entry n → Nat
  | .frame _ => 0
  | .action (.delay _ max) => max.toNat
  | .action (.shift _ _ _) => 0

/-- How many frames stand in a list of entries. -/
def frameCount (entries : List (Entry n)) : Nat := entries.countP fun entry => !entry.isAction

/-- Frames are counted one entry at a time. -/
theorem frameCount_cons (entry : Entry n) (entries : List (Entry n)) :
    frameCount (entry :: entries) = frameCount entries + frameCount [entry] := by
  rw [frameCount, frameCount, frameCount, List.countP_cons, List.countP_singleton]

/-- A block of a frame is one long, that of a shift as long as it says, and that of a delay lies
    between its ends. -/
theorem Block.length_bounds {output : List (Frame n)} {g after : Generator} {entry : Entry n}
    {frames : List (Frame n)} (h : Block output g entry frames after) :
    frameCount [entry] + entry.repeats + entry.shortestHold ≤ frames.length ∧
      frames.length ≤ frameCount [entry] + entry.repeats + entry.longestHold := by
  cases h with
  | frame frame => exact ⟨Nat.le_refl 1, Nat.le_refl 1⟩
  | @delay _ min max k _ _ _ least most =>
    show 0 + 0 + min.toNat ≤ _ ∧ _ ≤ 0 + 0 + max.toNat
    rw [List.length_replicate]
    omega
  | @shift _ _ _ times _ _ count _ =>
    show 0 + times.toNat + 0 ≤ _ ∧ _ ≤ 0 + times.toNat + 0
    omega

/-- Delays are all that leaves the length of the output open. -/
theorem Blocks.length_bounds {output : List (Frame n)} {g after : Generator}
    {entries : List (Entry n)} {blocks : List (List (Frame n))}
    (h : Blocks output g entries blocks after) :
    frameCount entries + (entries.map Entry.repeats).sum + (entries.map Entry.shortestHold).sum
        ≤ blocks.flatten.length ∧
      blocks.flatten.length ≤ frameCount entries + (entries.map Entry.repeats).sum
        + (entries.map Entry.longestHold).sum := by
  induction h with
  | nil => exact ⟨Nat.le_refl 0, Nat.le_refl 0⟩
  | cons block _ ih =>
    have hblock := block.length_bounds
    rw [frameCount_cons, List.flatten_cons, List.length_append]
    simp only [List.map_cons, List.sum_cons]
    omega

/-! ## The whole of it -/

/-- **The compiler implements the language of scripts.**  What is accepted as a script compiles with
    every generator, to the concatenation of one block for each entry.  So its length is that of the
    frames and shifts, and of holds between the shortest and the longest; and only the empty script
    has nothing to show. -/
theorem compile_gives_blocks {entries : List (Entry n)} {script : Script n}
    (h : Script.ofEntries entries = .ok script) (g : Generator) :
    ∃ blocks after, Blocks [] g entries blocks after ∧
      compile entries g = (.ok blocks.flatten, after) ∧
      frameCount entries + (entries.map Entry.repeats).sum + (entries.map Entry.shortestHold).sum
        ≤ blocks.flatten.length ∧
      blocks.flatten.length ≤ frameCount entries + (entries.map Entry.repeats).sum
        + (entries.map Entry.longestHold).sum ∧
      (blocks.flatten = [] ↔ entries = []) := by
  obtain rfl := Script.ofEntries_eq_ok_iff.1 h
  have hwell := script.wellFormed
  obtain ⟨blocks, after, hblocks⟩ : ∃ blocks after, Blocks [] g script.entries blocks after :=
    Blocks.exists_of_valid (fun _ => hwell.starts_with_frame) hwell.actions_valid g
  obtain ⟨hleast, hmost⟩ := hblocks.length_bounds
  refine ⟨blocks, after, hblocks, hblocks.compileAfter_eq, hleast, hmost, ?_⟩
  constructor
  -- without any output there is no frame, and so no entry in front
  · intro hnil
    rw [hnil, List.length_nil] at hleast
    -- a script that is not empty begins with a frame, and that frame counts
    cases hentries : script.entries with
    | nil => rfl
    | cons entry rest =>
      cases entry with
      | frame frame =>
        rw [hentries, frameCount_cons] at hleast
        have hone : frameCount [Entry.frame frame] = 1 := rfl
        omega
      | action action =>
        exact absurd (by rw [hentries]; rfl) (hwell.starts_with_frame action)
  · intro hnil
    rw [hnil] at hblocks
    cases hblocks
    rfl

/-- A frame that is held at random, then shifted, not held at all, and shifted until its value would
    be gone. -/
theorem compile_gives_blocks_sunset :
    let sun : Frame 3 := #v[⟨255, 40, 0⟩, off, ⟨1, 1, 1⟩]
    let entries : List (Entry 3) :=
      [.frame sun, .action (.delay 0 9), .action (.shift .hue (-20) 4), .action (.delay 0 0),
        .action (.shift .value (-100) 3), .action (.delay 2 5), .frame sun.mirror]
    ∃ script, Script.ofEntries entries = .ok script ∧
      ∃ blocks after, Blocks [] ⟨7⟩ entries blocks after ∧
        compile entries ⟨7⟩ = (.ok blocks.flatten, after) ∧
        11 ≤ blocks.flatten.length ∧ blocks.flatten.length ≤ 23 := by
  intro sun entries
  have hscript : Script.ofEntries entries = .ok ⟨entries, (fault?_eq_none_iff entries).1 rfl⟩ :=
    Script.ofEntries_eq_ok_iff.2 rfl
  obtain ⟨blocks, after, hblocks, hcompile, hleast, hmost, _⟩ := compile_gives_blocks hscript ⟨7⟩
  exact ⟨_, hscript, blocks, after, hblocks, hcompile, hleast, hmost⟩

end LedAnimation
