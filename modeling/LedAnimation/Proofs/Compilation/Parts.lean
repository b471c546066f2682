/-
  Compiling a list of entries in parts.

  A list can be cut in two anywhere (`compileAfter_cut`).  The second part continues from the frame
  the first one has emitted last, or from where that began if it has emitted none, and with the
  generator it has left.  A fault of the first part is the fault of the whole, and nothing behind it
  is drawn for.

  * A part that begins with a frame continues from nothing, so it is a list of its own.
  * What compiles alike from wherever it continues may be put in the place of each other in any list
    (`compile_replace`).  So a shift may be cut into two, anywhere along its chain.
-/
import LedAnimation.Proofs.Compilation.Faults

namespace LedAnimation

variable {n : Nat}

/-! ## Cutting a list -/

/-- A fault stays the fault of the list, whatever stands behind it. -/
theorem compileAfter_append_of_error {last : Option (Frame n)} {entries : List (Entry n)}
    {fault : ScriptError} {g after : Generator}
    (h : compileAfter last entries g = (.error fault, after)) (more : List (Entry n)) :
    compileAfter last (entries ++ more) g = (.error fault, after) := by
  -- a block in front of the fault neither hides it nor draws again
  have hblock : ∀ {block : List (Frame n)} {tail : Except ScriptError (List (Frame n)) × Generator},
      (tail.1.map (block ++ ·), tail.2) = (.error fault, after) ↔ tail = (.error fault, after) := by
    intro block tail
    rw [Prod.mk.injEq, Prod.ext_iff, map_eq_error_iff]
  induction entries generalizing last g with
  | nil => exact nomatch congrArg Prod.fst h
  | cons entry rest ih =>
    rw [List.cons_append]
    cases entry with
    | frame frame =>
      rw [compileAfter_frame] at h
      rw [compileAfter_frame]
      exact (@hblock [frame] _).2 (ih ((@hblock [frame] _).1 h))
    | action action =>
      -- a valid action goes on behind a frame, and has no chance without one
      by_cases hok : action.isValid
      · cases last with
        | none =>
          rw [compileAfter_orphan hok] at h
          rw [compileAfter_orphan hok, h]
        | some previous =>
          rw [compileAfter_action hok] at h
          rw [compileAfter_action hok]
          exact hblock.2 (ih (hblock.1 h))
      · rw [compileAfter_invalid hok] at h
        rw [compileAfter_invalid hok, h]

/-- A second compilation behind a first one: the first fault is the fault of both, and without one
    the frames of both come out, one after the other. -/
def andThen (first : Except ScriptError (List (Frame n)) × Generator)
    (second : List (Frame n) → Generator → Except ScriptError (List (Frame n)) × Generator) :
    Except ScriptError (List (Frame n)) × Generator :=
  match first with
  | (.error fault, after) => (.error fault, after)
  | (.ok frames, between) =>
    match second frames between with
    | (.error fault, after) => (.error fault, after)
    | (.ok more, after) => (.ok (frames ++ more), after)

/-- **A list can be cut anywhere.** -/
theorem compileAfter_cut (last : Option (Frame n)) (front back : List (Entry n)) (g : Generator) :
    compileAfter last (front ++ back) g
      = andThen (compileAfter last front g) fun frames between =>
          compileAfter (frames.getLast?.or last) back between := by
  cases hfront : compileAfter last front g with
  | mk result between =>
    cases result with
    | error fault => exact compileAfter_append_of_error hfront back
    | ok frames =>
      rw [compileAfter_append hfront, andThen]
      cases compileAfter (frames.getLast?.or last) back between with
      | mk result after => cases result <;> rfl

/-- A list that does not begin with an action has no use for a frame before it. -/
theorem compileAfter_eq_compile {entries : List (Entry n)}
    (h : ∀ action, entries.head? ≠ some (.action action)) (last : Option (Frame n))
    (g : Generator) : compileAfter last entries g = compile entries g := by
  cases entries with
  | nil => rfl
  | cons entry rest =>
    cases entry with
    | frame frame => rfl
    | action action => exact absurd rfl (h action)

/-- **What compiles alike from wherever it continues** may be put in the place of each other. -/
theorem compile_replace {xs ys : List (Entry n)}
    (h : ∀ last g, compileAfter last xs g = compileAfter last ys g) (before after : List (Entry n))
    (g : Generator) :
    compile (before ++ (xs ++ after)) g = compile (before ++ (ys ++ after)) g := by
  have hbehind : ∀ last g,
      compileAfter last (xs ++ after) g = compileAfter last (ys ++ after) g := by
    intro last g
    -- the part before and the part behind are compiled alike, so only the middle can differ
    rw [compileAfter_cut last xs, compileAfter_cut last ys, h]
  rw [compile, compile, compileAfter_cut none before, compileAfter_cut none before]
  congr 1
  funext frames between
  exact hbehind _ between

/-! ## Cutting a shift -/

/-- A chain can be cut anywhere, and goes on from the last element of its first part. -/
theorem chain_add {α : Type} (f : α → α) (a b : Nat) (x : α) :
    chain f (a + b) x = chain f a x ++ chain f b ((chain f a x).getLastD x) := by
  induction a generalizing x with
  | zero => rw [Nat.zero_add]; rfl
  | succ a ih =>
    rw [Nat.succ_add, chain_succ, chain_succ, ih, List.getLastD_cons, List.cons_append]

/-- A shift is as good as two shorter ones in a row, also where there is nothing to shift. -/
theorem compileAfter_shift_add {channel : Channel} {step : Int16} {a b times : UInt16}
    (htimes : times.toNat = a.toNat + b.toNat) (last : Option (Frame n)) (g : Generator) :
    compileAfter last [.action (.shift channel step times)] g
      = compileAfter last
          [.action (.shift channel step a), .action (.shift channel step b)] g := by
  -- a shift is always valid
  have hok : ∀ times, (Action.shift channel step times).isValid := fun _ => rfl
  cases last with
  | none => rw [compileAfter_orphan (hok times), compileAfter_orphan (hok a)]
  | some previous =>
    let first := chain (Frame.shiftLit channel step.toInt) a.toNat previous
    -- the second shift continues from the last frame of the first
    have hlast : first.getLast?.or (some previous) = some (first.getLastD previous) := by
      rw [Option.or_some, List.getLastD_eq_getLast?]
    rw [compileAfter_action (hok times), compileAfter_action (hok a)]
    simp only [Action.expand, htimes, chain_add]
    rw [hlast, compileAfter_action (hok b)]
    show (Except.ok (_ ++ []), g) = (Except.ok (first ++ (_ ++ [])), g)
    rw [List.append_nil, List.append_nil]
    rfl

/-! ## All together -/

/-- **Compilation is made of parts.**  In front of a list that does not begin with an action, any
    list is compiled as if it stood alone, and then the other with the generator it has left; the
    fault of the first counts before that of the second.  And a shift may be cut into two anywhere
    along its chain, wherever it stands and whatever is wrong around it. -/
theorem compile_in_parts (g : Generator) :
    (∀ xs ys : List (Entry n), (∀ action, ys.head? ≠ some (.action action)) →
      compile (xs ++ ys) g = andThen (compile xs g) fun _ between => compile ys between) ∧
    ∀ (before after : List (Entry n)) (channel : Channel) (step : Int16) (a b : UInt16),
      a.toNat + b.toNat ≤ 65535 →
      compile (before ++ .action (.shift channel step (a + b)) :: after) g
        = compile (before ++ .action (.shift channel step a) :: .action (.shift channel step b)
            :: after) g := by
  constructor
  · intro xs ys hys
    rw [compile, compileAfter_cut]
    congr 1
    funext frames between
    exact compileAfter_eq_compile hys _ between
  · intro before after channel step a b hsum
    have htimes : (a + b).toNat = a.toNat + b.toNat := by
      rw [UInt16.toNat_add]
      omega
    exact compile_replace (compileAfter_shift_add htimes) before after g

/-- A held sun, a delay of 3 to 1 frames that is refused behind it, and a sunset in one shift or
    two, the first of which is none. -/
theorem compile_sunset_in_parts :
    let sun : Frame 3 := #v[⟨255, 40, 0⟩, off, ⟨1, 1, 1⟩]
    let held : List (Entry 3) := [.frame sun, .action (.delay 0 9)]
    let night : List (Entry 3) := [.frame (Frame.dark 3), .action (.delay 3 1)]
    (∀ action, night.head? ≠ some (.action action)) ∧
      compile (held ++ night) ⟨7⟩
        = andThen (compile held ⟨7⟩) (fun _ between => compile night between) ∧
      (0 : UInt16).toNat + (300 : UInt16).toNat ≤ 65535 ∧
      compile (held ++ .action (.shift .value (-3) (0 + 300)) :: night) ⟨7⟩
        = compile (held ++ .action (.shift .value (-3) 0) :: .action (.shift .value (-3) 300)
            :: night) ⟨7⟩ := by
  intro sun held night
  have hnight : ∀ action, night.head? ≠ some (.action action) := fun _ h => nomatch h
  have hsum : (0 : UInt16).toNat + (300 : UInt16).toNat ≤ 65535 := by decide
  exact ⟨hnight, (compile_in_parts ⟨7⟩).1 held night hnight, hsum,
    (compile_in_parts ⟨7⟩).2 held night .value (-3) 0 300 hsum⟩

end LedAnimation
