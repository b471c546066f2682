/-
  What one compilation gives, for every script and every generator.

  * A script always compiles (`Script.compile_eq`).  `Script.cycle` is the list of frames it gives
    and `Script.generatorAfter` the generator it leaves behind; a script that is not empty gives at
    least one frame.
  * A static script gives its own frames and leaves the generator alone.
  * Compilation does not know where on the strip a pixel is.  A change of frames that may as well
    be made after a shift as before it (`Frame.CommutesWithShifts`) may as well be made after the
    whole compilation (`compileAfter_map`).  Turning the strip around is such a change.
-/
import LedAnimation.Script

namespace LedAnimation

variable {n m : Nat}

/-! ## One entry at a time -/

/-- A frame goes through as it is, and what follows continues from it. -/
theorem compileAfter_frame (last : Option (Frame n)) (frame : Frame n) (rest : List (Entry n))
    (g : Generator) :
    compileAfter last (.frame frame :: rest) g
      = ((compileAfter (some frame) rest g).1.map (frame :: ·),
          (compileAfter (some frame) rest g).2) :=
  rfl

/-- A valid action emits its frames, and the rest continues from the last of them, or from where
    the action began when there are none. -/
theorem compileAfter_action {action : Action} (h : action.isValid) (previous : Frame n)
    (rest : List (Entry n)) (g : Generator) :
    compileAfter (some previous) (.action action :: rest) g
      = let block := action.expand previous g
        let tail := compileAfter (block.1.getLast?.or (some previous)) rest block.2
        (tail.1.map (block.1 ++ ·), tail.2) :=
  if_pos h

/-- A valid action with nothing before it. -/
theorem compileAfter_orphan {action : Action} (h : action.isValid) (rest : List (Entry n))
    (g : Generator) :
    compileAfter none (.action action :: rest) g = (.error .leadingAction, g) :=
  if_pos h

/-- An invalid action is an error wherever it stands, and nothing is drawn for it. -/
theorem compileAfter_invalid {action : Action} (h : ¬ action.isValid) (last : Option (Frame n))
    (rest : List (Entry n)) (g : Generator) :
    compileAfter last (.action action :: rest) g = (.error (.invalidAction action), g) :=
  if_neg h

/-! ## A script always compiles -/

/-- Entries whose actions are valid compile, as long as the first of them has a frame to continue
    from: one emitted before, or itself. -/
theorem compileAfter_isOk (last : Option (Frame n)) {entries : List (Entry n)}
    (hstart : last = none → ∀ action, entries.head? ≠ some (.action action))
    (hvalid : ∀ action, .action action ∈ entries → action.isValid) (g : Generator) :
    ∃ frames, (compileAfter last entries g).1 = .ok frames := by
  induction entries generalizing last g with
  | nil => exact ⟨[], rfl⟩
  | cons entry rest ih =>
    have hrest : ∀ action, .action action ∈ rest → action.isValid :=
      fun action h => hvalid action (List.mem_cons_of_mem entry h)
    cases entry with
    | frame frame =>
      obtain ⟨frames, hframes⟩ := ih (some frame) (fun h => nomatch h) hrest g
      refine ⟨frame :: frames, ?_⟩
      rw [compileAfter_frame, hframes]
      rfl
    | action action =>
      have hok : action.isValid := hvalid action List.mem_cons_self
      cases last with
      | none => exact absurd rfl (hstart rfl action)
      | some previous =>
        -- the rest has something to continue from, whether or not the action emitted a frame
        have hlast : (action.expand previous g).1.getLast?.or (some previous) = none → False := by
          intro h
          rw [Option.or_eq_none_iff] at h
          exact nomatch h.2
        obtain ⟨frames, hframes⟩ :=
          ih _ (fun h => absurd h hlast) hrest (action.expand previous g).2
        refine ⟨(action.expand previous g).1 ++ frames, ?_⟩
        rw [compileAfter_action hok]
        show Except.map _ (compileAfter _ rest _).1 = _
        rw [hframes]
        rfl

/-- What comes out behind a block of frames comes out without it as well. -/
theorem exists_eq_append_of_map {block frames : List (Frame n)} {after : Generator}
    {result : Except ScriptError (List (Frame n)) × Generator}
    (h : (result.1.map (block ++ ·), result.2) = (.ok frames, after)) :
    ∃ tail, result = (.ok tail, after) ∧ frames = block ++ tail := by
  obtain ⟨fault | tail, g⟩ := result
  · exact nomatch congrArg Prod.fst h
  · cases h
    exact ⟨tail, rfl, rfl⟩

/-- **Entries that compile can be followed by others**, which go on from the frame emitted last and
    with the generator left behind. -/
theorem compileAfter_append {last : Option (Frame n)} {entries : List (Entry n)}
    {frames : List (Frame n)} {g after : Generator}
    (h : compileAfter last entries g = (.ok frames, after)) (more : List (Entry n)) :
    compileAfter last (entries ++ more) g
      = ((compileAfter (frames.getLast?.or last) more after).1.map (frames ++ ·),
          (compileAfter (frames.getLast?.or last) more after).2) := by
  -- what stands behind a block continues from the last frame of both
  have hblock : ∀ (block tail : List (Frame n)) (last : Option (Frame n)),
      (block ++ tail).getLast?.or last = tail.getLast?.or (block.getLast?.or last) := by
    intro block tail last
    rw [List.getLast?_append, Option.or_assoc]
  have hmap : ∀ (block tail : List (Frame n)) (x : Except ScriptError (List (Frame n))),
      (x.map (tail ++ ·)).map (block ++ ·) = x.map (block ++ tail ++ ·) := by
    rintro block tail (fault | frames)
    · rfl
    · exact congrArg Except.ok (List.append_assoc block tail frames).symm
  -- the frame to continue from changes along the way, so the induction is over any
  induction entries generalizing last g frames with
  | nil =>
    cases h
    have hnothing : ∀ x : Except ScriptError (List (Frame n)), x.map ([] ++ ·) = x := by
      rintro (fault | frames) <;> rfl
    exact Prod.ext (hnothing _).symm rfl
  | cons entry rest ih =>
    cases entry with
    | frame frame =>
      rw [compileAfter_frame] at h
      obtain ⟨tail, htail, rfl⟩ := @exists_eq_append_of_map n [frame] _ _ _ h
      rw [List.cons_append, compileAfter_frame, ih htail, hblock]
      exact Prod.ext (hmap [frame] tail _) rfl
    | action action =>
      by_cases hok : action.isValid
      · cases last with
        | none =>
          rw [compileAfter_orphan hok] at h
          exact nomatch congrArg Prod.fst h
        | some previous =>
          rw [compileAfter_action hok] at h
          obtain ⟨tail, htail, rfl⟩ := exists_eq_append_of_map h
          rw [List.cons_append, compileAfter_action hok, hblock]
          dsimp only
          rw [ih htail, hmap]
      · rw [compileAfter_invalid hok] at h
        exact nomatch congrArg Prod.fst h

/-- What begins with a frame compiles to something that begins with it. -/
theorem compileAfter_frame_ne_nil {last : Option (Frame n)} {frame : Frame n}
    {rest : List (Entry n)} {g : Generator} {frames : List (Frame n)}
    (h : (compileAfter last (.frame frame :: rest) g).1 = .ok frames) : frames ≠ [] := by
  rw [compileAfter_frame] at h
  cases htail : (compileAfter (some frame) rest g).1 with
  | error fault =>
    rw [htail] at h
    exact nomatch h
  | ok tail =>
    rw [htail] at h
    have hcons : frame :: tail = frames := Except.ok.inj h
    rw [← hcons]
    exact List.cons_ne_nil frame tail

/-- Frames alone compile to themselves, and nothing is drawn for them. -/
theorem compileAfter_frames (last : Option (Frame n)) (frames : List (Frame n)) (g : Generator) :
    compileAfter last (frames.map .frame) g = (.ok frames, g) := by
  induction frames generalizing last with
  | nil => rfl
  | cons frame rest ih =>
    rw [List.map_cons, compileAfter_frame, ih]
    rfl

namespace Script

/-- The entries of a script are those it was made of. -/
theorem ofEntries_eq_ok_iff {entries : List (Entry n)} {script : Script n} :
    ofEntries entries = .ok script ↔ script.entries = entries := by
  have hnone : fault? script.entries = none := (fault?_eq_none_iff _).2 script.wellFormed
  constructor
  · intro h
    unfold ofEntries at h
    split at h
    · rw [← Except.ok.inj h]
    · exact nomatch h
  · intro h
    subst h
    unfold ofEntries
    split
    · rfl
    · rename_i fault hfault
      rw [hnone] at hfault
      exact nomatch hfault

/-- What is no script is refused with its fault. -/
theorem ofEntries_eq_error_iff {entries : List (Entry n)} {fault : ScriptError} :
    ofEntries entries = .error fault ↔ fault? entries = some fault := by
  unfold ofEntries
  split
  · rename_i hnone
    constructor
    · exact fun h => nomatch h
    · intro h
      rw [hnone] at h
      exact nomatch h
  · rename_i found hfound
    rw [hfound, Except.error.injEq, Option.some.injEq]

/-- The frames one compilation gives. -/
def cycle (script : Script n) (g : Generator) : List (Frame n) :=
  match (script.compile g).1 with
  | .ok frames => frames
  | .error _ => []

/-- The generator one compilation leaves behind. -/
def generatorAfter (script : Script n) (g : Generator) : Generator := (script.compile g).2

/-- **A script always compiles.** -/
theorem compile_eq (script : Script n) (g : Generator) :
    script.compile g = (.ok (script.cycle g), script.generatorAfter g) := by
  have hstart := script.wellFormed.starts_with_frame
  obtain ⟨frames, hframes⟩ := compileAfter_isOk none (fun _ => hstart)
    script.wellFormed.actions_valid g
  have hcompile : (script.compile g).1 = .ok frames := hframes
  have hcycle : script.cycle g = frames := by rw [cycle, hcompile]
  exact Prod.ext (by rw [hcompile, hcycle]) rfl

/-- No cycle of a script that is not empty is empty. -/
theorem cycle_ne_nil {script : Script n} (h : script.isEmpty = false) (g : Generator) :
    script.cycle g ≠ [] := by
  have hcompile : (compileAfter none script.entries g).1 = .ok (script.cycle g) :=
    congrArg Prod.fst (script.compile_eq g)
  cases hentries : script.entries with
  | nil =>
    rw [isEmpty, hentries] at h
    exact nomatch h
  | cons entry rest =>
    cases entry with
    | action action =>
      have hhead : script.entries.head? = some (.action action) := by rw [hentries]; rfl
      exact absurd hhead (script.wellFormed.starts_with_frame action)
    | frame frame =>
      rw [hentries] at hcompile
      exact compileAfter_frame_ne_nil hcompile

/-- The same as a number, which is what positions are compared with. -/
theorem length_cycle_pos {script : Script n} (h : script.isEmpty = false) (g : Generator) :
    0 < (script.cycle g).length :=
  List.length_pos_iff.mpr (cycle_ne_nil h g)

/-! ## Static scripts -/

/-- A static script holds nothing but frames. -/
theorem entries_of_static {script : Script n} (h : script.isDynamic = false) :
    script.entries = script.stills.map .frame := by
  rw [isDynamic] at h
  rw [stills]
  generalize script.entries = entries at h
  induction entries with
  | nil => rfl
  | cons entry rest ih =>
    cases entry with
    | action action => exact absurd h (ne_false_of_eq_true rfl)
    | frame frame =>
      rw [List.any_cons] at h
      have hrest := ih h
      show _ = Entry.frame frame :: List.map Entry.frame (List.filterMap _ rest)
      rw [← hrest]

/-- A static script compiles to its own frames and leaves the generator alone. -/
theorem compile_of_static {script : Script n} (h : script.isDynamic = false) (g : Generator) :
    script.compile g = (.ok script.stills, g) := by
  rw [compile, LedAnimation.compile, entries_of_static h]
  exact compileAfter_frames none script.stills g

/-- The frames of such a cycle, for any generator, -/
theorem cycle_of_static {script : Script n} (h : script.isDynamic = false) (g : Generator) :
    script.cycle g = script.stills := by
  rw [cycle, compile_of_static h]

/-- and the generator it leaves, which is the one it was given. -/
theorem generatorAfter_of_static {script : Script n} (h : script.isDynamic = false)
    (g : Generator) : script.generatorAfter g = g := by
  rw [generatorAfter, compile_of_static h]

end Script

/-! ## Changing frames before or after compilation -/

/-- The entry with its frame changed.  An action has none. -/
def Entry.map (f : Frame n → Frame m) : Entry n → Entry m
  | .frame x => .frame (f x)
  | .action a => .action a

/-- A turn changes the frames of the entries and nothing else of them. -/
theorem Entry.mirror_eq_map (entry : Entry n) : entry.mirror = entry.map Frame.mirror := by
  cases entry <;> rfl

/-- A change of frames that may as well be made after a shift as before it. -/
def Frame.CommutesWithShifts (f : Frame n → Frame m) : Prop :=
  ∀ channel step frame, f (frame.shiftLit channel step) = (f frame).shiftLit channel step

/-- A shift treats every pixel by itself, so the order of the pixels may be changed before or after
    it. -/
theorem Frame.mirror_commutesWithShifts : CommutesWithShifts (Frame.mirror (n := n)) := by
  intro channel step frame
  exact Vector.map_reverse.symm

/-- A chain can be followed before or after a change that commutes with its step. -/
theorem map_chain {α β : Type} {f : α → α} {f' : β → β} {h : α → β}
    (hcomm : ∀ x, h (f x) = f' (h x)) (k : Nat) (x : α) :
    (chain f k x).map h = chain f' k (h x) := by
  induction k generalizing x with
  | zero => rfl
  | succ k ih => rw [chain_succ, chain_succ, List.map_cons, ih, hcomm]

variable {f : Frame n → Frame m}

/-- An action expands alike from a frame and from the changed frame. -/
theorem Action.expand_map (hf : Frame.CommutesWithShifts f) (action : Action) (last : Frame n)
    (g : Generator) :
    action.expand (f last) g = ((action.expand last g).1.map f, (action.expand last g).2) := by
  cases action with
  | delay min max =>
    show (List.replicate _ _, _) = (List.map f (List.replicate _ _), _)
    rw [List.map_replicate]
    rfl
  | shift channel step times =>
    show (chain _ _ _, g) = (List.map f (chain _ _ _), g)
    rw [map_chain (hf channel step.toInt)]

/-- **Compilation treats every position alike.**  Changing the frames of all entries changes the
    frames that come out in the same way, and neither the error nor the draws.  By induction on the
    entries; the frame emitted last is changed along with them. -/
theorem compileAfter_map (hf : Frame.CommutesWithShifts f) (last : Option (Frame n))
    (entries : List (Entry n)) (g : Generator) :
    compileAfter (last.map f) (entries.map (Entry.map f)) g
      = ((compileAfter last entries g).1.map (List.map f), (compileAfter last entries g).2) := by
  induction entries generalizing last g with
  | nil => rfl
  | cons entry rest ih =>
    cases entry with
    | frame frame =>
      have htail := ih (some frame) g
      rw [Option.map_some] at htail
      rw [List.map_cons, Entry.map, compileAfter_frame, compileAfter_frame, htail]
      cases (compileAfter (some frame) rest g).1 <;> rfl
    | action action =>
      rw [List.map_cons, Entry.map]
      by_cases hok : action.isValid
      · cases last with
        | none => rw [Option.map_none, compileAfter_orphan hok, compileAfter_orphan hok]; rfl
        | some previous =>
          -- the frame to continue from is a changed frame again
          have hlast : ((action.expand previous g).1.map f).getLast?.or (some (f previous))
              = ((action.expand previous g).1.getLast?.or (some previous)).map f := by
            rw [List.getLast?_map, ← Option.map_some, ← Option.map_or]
          rw [Option.map_some, compileAfter_action hok, compileAfter_action hok,
            Action.expand_map hf]
          dsimp only
          rw [hlast, ih]
          cases (compileAfter _ rest _).1 with
          | error fault => rfl
          | ok tail =>
            show (Except.ok (_ ++ tail.map f), _) = (Except.ok (List.map f (_ ++ tail)), _)
            rw [List.map_append]
      · rw [compileAfter_invalid hok, compileAfter_invalid hok]
        rfl

namespace Script

/-- Turning a script turns its cycles. -/
theorem compile_mirror (script : Script n) (g : Generator) :
    script.mirror.compile g
      = (.ok ((script.cycle g).map Frame.mirror), script.generatorAfter g) := by
  have hentries : script.mirror.entries = script.entries.map (Entry.map Frame.mirror) :=
    List.map_congr_left fun entry _ => entry.mirror_eq_map
  have hmap := compileAfter_map Frame.mirror_commutesWithShifts none script.entries g
  have hcompile : compileAfter none script.entries g = _ := script.compile_eq g
  rw [compile, LedAnimation.compile, hentries]
  rw [hcompile] at hmap
  exact hmap

@[simp] theorem cycle_mirror (script : Script n) (g : Generator) :
    script.mirror.cycle g = (script.cycle g).map Frame.mirror := by
  rw [cycle, compile_mirror]

@[simp] theorem generatorAfter_mirror (script : Script n) (g : Generator) :
    script.mirror.generatorAfter g = script.generatorAfter g := by
  rw [generatorAfter, compile_mirror]

end Script

end LedAnimation
