/-
  What compilation does to single pixels.

  * It does the same at every position of the strip, and looks at no other position for it.  Frames
    whose pixels are taken from elsewhere (`Frame.reindex`: turned around, in any order, a few of
    them only, or some of them twice) compile to frames whose pixels are taken from elsewhere in the
    same way.  Which delays are drawn, and what is refused, does not depend on pixels at all.
  * It never changes where a frame is transparent.  Whatever actions a frame of the output has come
    through, it covers the positions that the frame of the script covers from which it descends
    (`lastStill?`), no more and no less.
-/
import LedAnimation.Proofs.Compilation.Blocks

namespace LedAnimation

variable {n m : Nat}

/-! ## Every position alike -/

/-- The frame that takes its pixel at `i` from position `σ i` of another one. -/
def Frame.reindex (σ : Fin m → Fin n) (frame : Frame n) : Frame m := Vector.ofFn fun i => frame[σ i]

/-- Read at one position, which is how `ext` compares frames. -/
theorem Frame.getElem_reindex (σ : Fin m → Fin n) (frame : Frame n) (i : Nat) (h : i < m) :
    (frame.reindex σ)[i] = frame[σ ⟨i, h⟩] :=
  Vector.getElem_ofFn h

/-- A shift changes a pixel as if it were alone on the strip. -/
theorem Frame.reindex_commutesWithShifts (σ : Fin m → Fin n) :
    CommutesWithShifts (Frame.reindex σ) := by
  intro channel step frame
  ext i h
  rw [getElem_reindex, shiftLit, shiftLit, Vector.getElem_map, getElem_reindex]
  exact Vector.getElem_map _ (σ ⟨i, h⟩).isLt

/-- **Compilation treats all positions alike**, and each of them alone.  Taking pixels from
    elsewhere, on a strip of any length, may be done before it or after it, with the same refusals
    and the same draws.  Turning the strip around is the best known case. -/
theorem compile_treats_positions_alike (entries : List (Entry n)) (g : Generator) :
    (∀ (m : Nat) (σ : Fin m → Fin n),
      compile (entries.map (Entry.map (Frame.reindex σ))) g
        = ((compile entries g).1.map (List.map (Frame.reindex σ)), (compile entries g).2)) ∧
      compile (entries.map Entry.mirror) g
        = ((compile entries g).1.map (List.map Frame.mirror), (compile entries g).2) ∧
      ∀ frame : Frame n, frame.mirror = frame.reindex Fin.rev := by
  refine ⟨?_, ?_, ?_⟩
  · intro m σ
    exact compileAfter_map (Frame.reindex_commutesWithShifts σ) none entries g
  · have hmirror : Entry.mirror (n := n) = Entry.map Frame.mirror := funext Entry.mirror_eq_map
    rw [hmirror]
    exact compileAfter_map Frame.mirror_commutesWithShifts none entries g
  · intro frame
    ext i h
    rw [Frame.getElem_mirror, Frame.getElem_reindex]
    congr 1
    exact (Nat.sub_right_comm ..).trans (Nat.sub_sub n i 1)

/-! ## Transparency -/

/-- Both frames are transparent at the same positions. -/
def Frame.CoversAlike (x y : Frame n) : Prop := ∀ i (_ : i < n), x[i] = off ↔ y[i] = off

/-- A block is compared with the frame it descends from over a chain of frames, so the relation has
    to begin somewhere -/
theorem Frame.CoversAlike.refl (x : Frame n) : x.CoversAlike x := fun _ _ => Iff.rfl

/-- and to compose. -/
theorem Frame.CoversAlike.trans {x y z : Frame n} (h : x.CoversAlike y) (h' : y.CoversAlike z) :
    x.CoversAlike z :=
  fun i hi => (h i hi).trans (h' i hi)

/-- The three cases of a step: dark pixels stay dark, and lit ones stay lit. -/
theorem PixelShift.eq_off_iff {channel : Channel} {step : Int} {c d : Rgb}
    (h : PixelShift channel step c d) : d = off ↔ c = off := by
  cases h with
  | dark => exact Iff.rfl
  | moved lit stays => exact iff_of_false stays lit
  | kept lit out => exact Iff.rfl

/-- One step of a shift keeps what is transparent, -/
theorem FrameShift.coversAlike {channel : Channel} {step : Int} {before after : Frame n}
    (h : FrameShift channel step before after) : after.CoversAlike before :=
  fun i hi => (h i hi).eq_off_iff

/-- and so does a chain of them. -/
theorem coversAlike_of_isChain {channel : Channel} {step : Int} {last : Frame n}
    {frames : List (Frame n)} (h : List.IsChain (FrameShift channel step) (last :: frames)) :
    ∀ frame ∈ frames, frame.CoversAlike last := by
  induction frames generalizing last with
  | nil => exact fun _ hmem => nomatch hmem
  | cons next frames ih =>
    obtain ⟨hnext, hrest⟩ := List.isChain_cons_cons.1 h
    intro frame hmem
    rcases List.mem_cons.1 hmem with rfl | hmem
    · exact hnext.coversAlike
    · exact (ih hrest frame hmem).trans hnext.coversAlike

/-- The frame an entry shows, if it is one. -/
def Entry.still? : Entry n → Option (Frame n)
  | .frame x => some x
  | .action _ => none

/-- The last frame that stands in a list of entries. -/
def lastStill? (entries : List (Entry n)) : Option (Frame n) :=
  (entries.filterMap Entry.still?).getLast?

/-- A frame is the last one as soon as it stands there, -/
theorem lastStill?_concat_frame (entries : List (Entry n)) (frame : Frame n) :
    lastStill? (entries ++ [.frame frame]) = some frame := by
  rw [lastStill?, List.filterMap_append]
  exact List.getLast?_concat

/-- and an action does not change which one is. -/
theorem lastStill?_concat_action (entries : List (Entry n)) (action : Action) :
    lastStill? (entries ++ [.action action]) = lastStill? entries := by
  rw [lastStill?, List.filterMap_append]
  exact congrArg List.getLast? (List.append_nil _)

/-- The frame covers what the last frame among the entries covers. -/
def Descends (frame : Frame n) (entries : List (Entry n)) : Prop :=
  ∃ still, lastStill? entries = some still ∧ frame.CoversAlike still

/-- **A block descends from the last frame up to its entry**, if the output before it does. -/
theorem Block.descends {output : List (Frame n)} {g after : Generator} {entry : Entry n}
    {frames : List (Frame n)} (h : Block output g entry frames after) {before : List (Entry n)}
    (houtput : ∀ last, output.getLast? = some last → Descends last before) :
    ∀ frame ∈ frames, Descends frame (before ++ [entry]) := by
  intro frame hmem
  -- a frame descends from itself, a held one and a shifted one from what they go on from
  cases h with
  | frame still =>
    rw [List.mem_singleton.1 hmem]
    exact ⟨still, lastStill?_concat_frame before still, .refl still⟩
  | delay held _ _ _ =>
    obtain ⟨still, hstill, hlast⟩ := houtput _ held
    rw [List.eq_of_mem_replicate hmem]
    exact ⟨still, (lastStill?_concat_action before _).trans hstill, hlast⟩
  | shift origin _ derived =>
    obtain ⟨still, hstill, hlast⟩ := houtput _ origin
    exact ⟨still, (lastStill?_concat_action before _).trans hstill,
      (coversAlike_of_isChain derived frame hmem).trans hlast⟩

/-- What comes after a block goes on from a frame that descends from the same one. -/
theorem Block.descends_last {output : List (Frame n)} {g after : Generator} {entry : Entry n}
    {frames : List (Frame n)} (h : Block output g entry frames after) {before : List (Entry n)}
    (houtput : ∀ last, output.getLast? = some last → Descends last before) :
    ∀ last, (output ++ frames).getLast? = some last → Descends last (before ++ [entry]) := by
  intro last hlast
  rw [List.getLast?_append, Option.or_eq_some_iff] at hlast
  rcases hlast with hown | ⟨hnone, hbefore⟩
  · exact h.descends houtput last (List.mem_of_getLast? hown)
  · -- an action that emitted nothing leaves the frame to continue from
    obtain rfl := List.getLast?_eq_none_iff.1 hnone
    cases entry with
    | frame still => cases h
    | action action =>
      obtain ⟨still, hstill, hcovers⟩ := houtput last hbefore
      exact ⟨still, (lastStill?_concat_action before action).trans hstill, hcovers⟩

/-- **Every frame descends from the last frame up to the entry that emitted it.**  By induction on
    the entries; what is carried along is that the output ends with such a frame. -/
theorem Blocks.descends {output : List (Frame n)} {g after : Generator} {entries : List (Entry n)}
    {blocks : List (List (Frame n))} (h : Blocks output g entries blocks after)
    {before : List (Entry n)}
    (houtput : ∀ last, output.getLast? = some last → Descends last before) :
    ∀ i block, blocks[i]? = some block →
      ∀ frame ∈ block, Descends frame (before ++ entries.take (i + 1)) := by
  induction h generalizing before with
  | nil => exact fun _ _ hblock => nomatch hblock
  | @cons output frames g next after entry entries blocks hfirst _ ih =>
    intro i block hblock frame hmem
    cases i with
    | zero =>
      obtain rfl : frames = block := Option.some.inj hblock
      exact hfirst.descends houtput frame hmem
    | succ i =>
      have hrest := ih (hfirst.descends_last houtput) i block hblock frame hmem
      rw [List.append_assoc] at hrest
      exact hrest

/-- **Actions never change which pixels are transparent.**  What compiles consists of one block for
    each entry, and all frames of a block are transparent at exactly those positions at which the
    last frame is that stands up to the entry. -/
theorem compile_keeps_transparency {entries : List (Entry n)} {g after : Generator}
    {frames : List (Frame n)} (h : compile entries g = (.ok frames, after)) :
    ∃ blocks, Blocks [] g entries blocks after ∧ blocks.flatten = frames ∧
      ∀ i block, blocks[i]? = some block → ∀ frame ∈ block,
        ∃ still, lastStill? (entries.take (i + 1)) = some still ∧
          ∀ x (_ : x < n), frame[x] = off ↔ still[x] = off := by
  obtain ⟨blocks, hblocks, hflatten⟩ := Blocks.exists_of_compile h
  have hdescends : ∀ i block, blocks[i]? = some block →
      ∀ frame ∈ block, Descends frame ([] ++ entries.take (i + 1)) :=
    hblocks.descends fun _ hnone => nomatch hnone
  exact ⟨blocks, hblocks, hflatten, hdescends⟩

/-- A sun that loses its value until it would go out, then its saturation, and one that rises after
    it. -/
theorem setting_sun_keeps_transparency :
    let sun : Frame 3 := #v[⟨255, 40, 0⟩, off, ⟨1, 1, 1⟩]
    let entries : List (Entry 3) :=
      [.frame sun, .action (.shift .value (-100) 3), .action (.shift .saturation (-300) 1),
        .frame sun.mirror, .action (.shift .hue 40 1)]
    ∃ frames, compile entries ⟨7⟩ = (.ok frames, ⟨7⟩) ∧
      ∃ blocks, Blocks [] ⟨7⟩ entries blocks ⟨7⟩ ∧ blocks.flatten = frames ∧
        ∀ i block, blocks[i]? = some block → ∀ frame ∈ block,
          ∃ still, lastStill? (entries.take (i + 1)) = some still ∧
            ∀ x (_ : x < 3), frame[x] = off ↔ still[x] = off := by
  intro sun entries
  have hcompile : compile entries ⟨7⟩
      = (.ok [sun, #v[⟨155, 21, 0⟩, off, ⟨1, 1, 1⟩], #v[⟨55, 6, 0⟩, off, ⟨1, 1, 1⟩],
          #v[⟨55, 6, 0⟩, off, ⟨1, 1, 1⟩], #v[⟨55, 55, 55⟩, off, ⟨1, 1, 1⟩], sun.mirror,
          #v[⟨1, 1, 1⟩, off, ⟨234, 255, 0⟩]], ⟨7⟩) := by
    decide +kernel
  exact ⟨_, hcompile, compile_keeps_transparency hcompile⟩

end LedAnimation
