/-
  Which lists of entries are refused, and with what reason: by the check that makes a script of them
  (`fault?`), and by the compiler that runs into it (`firstMet?`).

  The check looks at the front of the list before it looks for an action that contradicts itself.
  The compiler goes from entry to entry, and looks at an action's parameters before it looks for the
  frame to continue from.  Both refuse the same lists.  They name the same reason for all of them
  but those that begin with an inverted delay: there the check misses a frame in front, and the
  compiler stops at the delay.
-/
import LedAnimation.Proofs.Compilation

namespace LedAnimation

variable {n : Nat}

/-! ## What is wrong with an action -/

/-- Only a delay can contradict itself: by ending before it begins. -/
theorem Action.not_isValid_iff (action : Action) :
    ¬ action.isValid ↔ ∃ min max, action = .delay min max ∧ max < min := by
  cases action with
  | delay min max =>
    rw [isValid, decide_eq_true_eq, UInt16.not_le]
    constructor
    · intro h
      exact ⟨min, max, rfl, h⟩
    · rintro ⟨_, _, heq, h⟩
      cases heq
      exact h
  | shift channel step times =>
    constructor
    · intro h
      exact absurd rfl h
    · rintro ⟨_, _, heq, _⟩
      exact nomatch heq

/-- The delay is the first one of the list that ends before it begins. -/
def FirstInverted (entries : List (Entry n)) (min max : UInt16) : Prop :=
  max < min ∧ ∃ before after, entries = before ++ .action (.delay min max) :: after ∧
    ∀ action, .action action ∈ before → action.isValid

/-- **The action that is named is the first inverted delay.** By induction on the list; an entry in
    front is either that delay or can be skipped. -/
theorem firstInvalid?_eq_some_iff (entries : List (Entry n)) (action : Action) :
    firstInvalid? entries = some action ↔
      ∃ min max, action = .delay min max ∧ FirstInverted entries min max := by
  induction entries with
  | nil =>
    constructor
    · intro h
      exact nomatch h
    · rintro ⟨min, max, _, _, before, after, hsplit, _⟩
      exact nomatch List.append_eq_nil_iff.1 hsplit.symm
  | cons entry rest ih =>
    -- an entry in front that is no inverted delay can be put before the first inverted one
    have hskip : (∀ other, entry = .action other → other.isValid) →
        ((∃ min max, action = .delay min max ∧ FirstInverted rest min max) ↔
          ∃ min max, action = .delay min max ∧ FirstInverted (entry :: rest) min max) := by
      intro hentry
      constructor
      · rintro ⟨min, max, haction, hlt, before, after, rfl, hbefore⟩
        refine ⟨min, max, haction, hlt, entry :: before, after, rfl, ?_⟩
        intro other hmem
        rcases List.mem_cons.1 hmem with heq | hmem
        · exact hentry other heq.symm
        · exact hbefore other hmem
      · rintro ⟨min, max, haction, hlt, before, after, hsplit, hbefore⟩
        cases before with
        | nil =>
          have hfront : entry = .action (.delay min max) := (List.cons.inj hsplit).1
          exact absurd (hentry _ hfront) ((Action.not_isValid_iff _).2 ⟨min, max, rfl, hlt⟩)
        | cons first before =>
          obtain ⟨_, hsplit⟩ := List.cons.inj hsplit
          exact ⟨min, max, haction, hlt, before, after, hsplit,
            fun other hmem => hbefore other (List.mem_cons_of_mem first hmem)⟩
    cases entry with
    | frame frame => exact ih.trans (hskip fun _ h => nomatch h)
    | action first =>
      rw [firstInvalid?]
      by_cases hok : first.isValid
      -- a valid action is skipped, and an invalid one is the first inverted delay itself
      · rw [if_pos hok]
        refine ih.trans (hskip ?_)
        intro other h
        cases h
        exact hok
      · rw [if_neg hok]
        obtain ⟨min, max, rfl, hlt⟩ := (Action.not_isValid_iff first).1 hok
        constructor
        · intro h
          cases h
          exact ⟨min, max, rfl, hlt, [], rest, rfl, fun _ h => nomatch h⟩
        · rintro ⟨min', max', rfl, hlt', before, after, hsplit, hbefore⟩
          cases before with
          | nil =>
            cases hsplit
            rfl
          | cons other before =>
            -- the delay in front would be one of the valid actions before the first inverted one
            obtain ⟨hfront, _⟩ := List.cons.inj hsplit
            exact absurd (hbefore (.delay min max) (hfront ▸ List.mem_cons_self)) hok

/-! ## What the compiler meets -/

/-- The fault the compiler meets first.  The front of a list is faulty as an action before it is
    faulty for its place. -/
def firstMet? : List (Entry n) → Option ScriptError
  | .action action :: _ => some (if action.isValid then .leadingAction else .invalidAction action)
  | entries => (firstInvalid? entries).map .invalidAction

/-- What is done with the frames that come out does not change whether some do. -/
theorem map_eq_error_iff {α β ε : Type} {f : α → β} {x : Except ε α} {e : ε} :
    x.map f = .error e ↔ x = .error e := by
  cases x with
  | ok a => exact iff_of_false (fun h => nomatch h) (fun h => nomatch h)
  | error e' =>
    show Except.error e' = .error e ↔ _
    rw [Except.error.injEq, Except.error.injEq]

/-- Behind a frame only an action that contradicts itself stops the compiler. -/
theorem compileAfter_eq_error_iff (last : Frame n) (entries : List (Entry n)) (g : Generator)
    (fault : ScriptError) :
    (compileAfter (some last) entries g).1 = .error fault ↔
      (firstInvalid? entries).map .invalidAction = some fault := by
  induction entries generalizing last g with
  | nil => exact iff_of_false (fun h => nomatch h) (fun h => nomatch h)
  | cons entry rest ih =>
    cases entry with
    | frame frame =>
      rw [compileAfter_frame, map_eq_error_iff, ih]
      rfl
    | action action =>
      rw [firstInvalid?]
      by_cases hok : action.isValid
      · -- the rest goes on behind a frame again, whichever that is
        obtain ⟨next, hnext⟩ : ∃ next,
            (action.expand last g).1.getLast?.or (some last) = some next := by
          cases (action.expand last g).1.getLast? with
          | none => exact ⟨last, rfl⟩
          | some next => exact ⟨next, rfl⟩
        rw [if_pos hok, compileAfter_action hok]
        dsimp only
        rw [hnext, map_eq_error_iff, ih]
      · rw [if_neg hok, compileAfter_invalid hok, Except.error.injEq, Option.map_some,
          Option.some.injEq]

/-- **The compiler fails with the fault it meets first**, and only with it.  Nothing it has emitted
    or drawn has a say in that. -/
theorem compile_eq_error_iff (entries : List (Entry n)) (g : Generator) (fault : ScriptError) :
    (compile entries g).1 = .error fault ↔ firstMet? entries = some fault := by
  cases entries with
  | nil => exact iff_of_false (fun h => nomatch h) (fun h => nomatch h)
  | cons entry rest =>
    cases entry with
    | frame frame =>
      rw [compile, compileAfter_frame, map_eq_error_iff, compileAfter_eq_error_iff]
      rfl
    | action action =>
      rw [compile, firstMet?, Option.some.injEq]
      by_cases hok : action.isValid
      · rw [if_pos hok, compileAfter_orphan hok, Except.error.injEq]
      · rw [if_neg hok, compileAfter_invalid hok, Except.error.injEq]

/-! ## The check and the compiler -/

/-- Behind anything but an inverted delay, the compiler meets what the check finds. -/
theorem firstMet?_eq_fault? {entries : List (Entry n)}
    (h : ∀ action, entries.head? = some (.action action) → action.isValid) :
    firstMet? entries = fault? entries := by
  cases entries with
  | nil => rfl
  | cons entry rest =>
    cases entry with
    | frame frame => rfl
    | action action => rw [firstMet?, if_pos (h action rfl), fault?]

/-- The compiler stops at a list if and only if the check finds something in it: the two differ in
    the reason, never in the verdict. -/
theorem firstMet?_isSome (entries : List (Entry n)) :
    (firstMet? entries).isSome = (fault? entries).isSome := by
  cases entries with
  | nil => rfl
  | cons entry rest => cases entry <;> rfl

/-- What compiles is well-formed. -/
theorem wellFormed_of_compile {entries : List (Entry n)} {g : Generator} {frames : List (Frame n)}
    (h : (compile entries g).1 = .ok frames) : WellFormed entries := by
  rw [← fault?_eq_none_iff, ← Option.isNone_iff_eq_none, ← Option.not_isSome, ← firstMet?_isSome]
  cases hmet : firstMet? entries with
  | none => rfl
  | some fault =>
    rw [(compile_eq_error_iff entries g fault).2 hmet] at h
    exact nomatch h

/-- **The check and the compiler refuse the same lists**, whatever the generator, and with the same
    reason exactly if the list does not begin with an inverted delay.  An action in front is what
    the check names then, and the delay itself what the compiler names.  Of the other lists, one
    that begins with an action is refused for that, and one that begins with a frame for its first
    inverted delay. -/
theorem compile_refuses_what_is_no_script (entries : List (Entry n)) (g : Generator) :
    ((∃ fault, (compile entries g).1 = .error fault) ↔
        ∃ fault, Script.ofEntries entries = .error fault) ∧
      ((∀ fault, (compile entries g).1 = .error fault ↔ Script.ofEntries entries = .error fault) ↔
        ¬ ∃ min max rest, entries = .action (.delay min max) :: rest ∧ max < min) ∧
      (∀ min max rest, entries = .action (.delay min max) :: rest → max < min →
        (compile entries g).1 = .error (.invalidAction (.delay min max))) ∧
      (∀ action rest, entries = .action action :: rest →
        Script.ofEntries entries = .error .leadingAction) ∧
      (∀ frame rest, entries = .frame frame :: rest → ∀ fault,
        Script.ofEntries entries = .error fault ↔
          ∃ min max, fault = .invalidAction (.delay min max) ∧ FirstInverted entries min max) := by
  simp only [compile_eq_error_iff, Script.ofEntries_eq_error_iff]
  -- the verdict, when the reasons agree, and the reasons one by one
  refine ⟨?_, ⟨?_, ?_⟩, ?_, ?_, ?_⟩
  · rw [← Option.isSome_iff_exists, ← Option.isSome_iff_exists, firstMet?_isSome]
  · -- the two reasons of a list that begins with an inverted delay are not the same
    rintro hsame ⟨min, max, rest, rfl, hlt⟩
    have hinvalid := (Action.not_isValid_iff _).2 ⟨min, max, rfl, hlt⟩
    have hmet := (hsame .leadingAction).2 rfl
    rw [firstMet?, if_neg hinvalid] at hmet
    exact nomatch hmet
  · intro hfront fault
    rw [firstMet?_eq_fault?]
    intro action hhead
    by_cases hok : action.isValid
    · exact hok
    · obtain ⟨min, max, rfl, hlt⟩ := (Action.not_isValid_iff action).1 hok
      obtain ⟨rest, hrest⟩ := List.head?_eq_some_iff.1 hhead
      exact absurd ⟨min, max, rest, hrest, hlt⟩ hfront
  · rintro min max rest rfl hlt
    rw [firstMet?, if_neg ((Action.not_isValid_iff _).2 ⟨min, max, rfl, hlt⟩)]
  · rintro action rest rfl
    rfl
  · rintro frame rest rfl fault
    show (firstInvalid? (.frame frame :: rest)).map ScriptError.invalidAction = some fault ↔ _
    rw [Option.map_eq_some_iff]
    simp only [firstInvalid?_eq_some_iff]
    constructor
    · rintro ⟨_, ⟨min, max, rfl, hfirst⟩, rfl⟩
      exact ⟨min, max, rfl, hfirst⟩
    · rintro ⟨min, max, rfl, hfirst⟩
      exact ⟨_, ⟨min, max, rfl, hfirst⟩, rfl⟩

/-- The reasons differ for a delay of 3 to 1 frames in front of a dark frame. -/
theorem refusals_differ_at_inverted_front :
    let entries : List (Entry 3) := [.action (.delay 3 1), .frame (Frame.dark 3)]
    (compile entries ⟨7⟩).1 = .error (.invalidAction (.delay 3 1)) ∧
      Script.ofEntries entries = .error .leadingAction ∧
      ¬ ∀ fault, (compile entries ⟨7⟩).1 = .error fault ↔
        Script.ofEntries entries = .error fault := by
  intro entries
  have hcompile : (compile entries ⟨7⟩).1 = .error (.invalidAction (.delay 3 1)) := rfl
  have hcheck : Script.ofEntries entries = .error .leadingAction := rfl
  refine ⟨hcompile, hcheck, ?_⟩
  intro hsame
  have hboth := (hsame .leadingAction).2 hcheck
  rw [hcompile] at hboth
  exact nomatch hboth

end LedAnimation
