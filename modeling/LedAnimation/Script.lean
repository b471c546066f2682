/-
  Scripts and their compilation.

  * `Entry`   — one line of a script: a frame to show, or an action that continues from the frame
    before it.
  * `Script`  — a list of entries that is `WellFormed`: it does not begin with an action, and each
    of its delays has a range that holds a number.  `Script.ofEntries` refuses every other list
    with the reason.
  * `compile` — the flat list of frames that is played.  A frame stands for itself.  An action
    expands from the frame emitted last, not from the last frame written in the script.  The
    generator moves on with every delay, also when a later entry turns out to be faulty.

  A script without actions is static and compiles to its own frames.  Any other is dynamic: each
  compilation may give another list.
-/
import LedAnimation.Action

namespace LedAnimation

/-- Why a list of entries is no script. -/
inductive ScriptError where
  /-- A row with neither one colour for each LED nor a single action. -/
  | invalidEntry (length expected : Nat)
  /-- There is no frame for the first entry to continue from. -/
  | leadingAction
  /-- An action whose parameters contradict each other. -/
  | invalidAction (action : Action)
  /-- There is nothing to play. -/
  | empty
  deriving DecidableEq, Repr

/-- The error as users read it. -/
def ScriptError.message : ScriptError → String
  | .invalidEntry length expected =>
    s!"invalid frame entry of length {length}, must be 1 or {expected}"
  | .leadingAction => "first frame can't be an action frame"
  | .invalidAction action => s!"invalid action {action.text}"
  | .empty => "frame script is empty"

/-- One line of a script. -/
inductive Entry (n : Nat) where
  | frame (frame : Frame n)
  | action (action : Action)
  deriving DecidableEq, Repr

namespace Entry

variable {n : Nat}

/-- A row of colours is a frame if there is one colour for each LED. -/
def ofRow (n : Nat) (row : List Rgb) : Except ScriptError (Entry n) :=
  if h : row.length = n then .ok (.frame ⟨row.toArray, by simpa using h⟩)
  else .error (.invalidEntry row.length n)

/-- Only actions are not shown as they are. -/
def isAction : Entry n → Bool
  | .frame _ => false
  | .action _ => true

/-- An action looks the same from both ends of the strip. -/
def mirror : Entry n → Entry n
  | .frame f => .frame f.mirror
  | .action a => .action a

@[simp] theorem mirror_mirror (entry : Entry n) : entry.mirror.mirror = entry := by
  cases entry <;> simp [mirror]

@[simp] theorem isAction_mirror (entry : Entry n) : entry.mirror.isAction = entry.isAction := by
  cases entry <;> rfl

end Entry

/-! ## Well-formed lists of entries -/

/-- The entries can be compiled from the first one to the last. -/
structure WellFormed {n : Nat} (entries : List (Entry n)) : Prop where
  starts_with_frame : ∀ action, entries.head? ≠ some (.action action)
  actions_valid : ∀ action, .action action ∈ entries → action.isValid

/-- The first action of the list whose parameters contradict each other. -/
def firstInvalid? {n : Nat} : List (Entry n) → Option Action
  | [] => none
  | .frame _ :: rest => firstInvalid? rest
  | .action action :: rest => if action.isValid then firstInvalid? rest else some action

/-- What is wrong with a list of entries: an action in front is named before any other fault. -/
def fault? {n : Nat} (entries : List (Entry n)) : Option ScriptError :=
  match entries with
  | .action _ :: _ => some .leadingAction
  | _ => (firstInvalid? entries).map .invalidAction

theorem firstInvalid?_eq_none_iff {n : Nat} (entries : List (Entry n)) :
    firstInvalid? entries = none ↔ ∀ action, .action action ∈ entries → action.isValid := by
  fun_induction firstInvalid? entries <;> simp_all

theorem fault?_eq_none_iff {n : Nat} (entries : List (Entry n)) :
    fault? entries = none ↔ WellFormed entries := by
  unfold fault?
  split
  · simp only [reduceCtorEq, false_iff]
    exact fun h => h.starts_with_frame _ rfl
  · rename_i hframe
    rw [Option.map_eq_none_iff, firstInvalid?_eq_none_iff]
    refine ⟨fun h => ⟨fun action ha => ?_, h⟩, fun h => h.actions_valid⟩
    obtain ⟨rest, hrest⟩ := List.head?_eq_some_iff.1 ha
    exact hframe action rest hrest

theorem WellFormed.map_mirror {n : Nat} {entries : List (Entry n)} (h : WellFormed entries) :
    WellFormed (entries.map Entry.mirror) := by
  refine ⟨fun action ha => ?_, fun action ha => ?_⟩
  · rw [List.head?_map, Option.map_eq_some_iff] at ha
    obtain ⟨entry, he, hm⟩ := ha
    cases entry with
    | frame f => simp [Entry.mirror] at hm
    | action b => exact h.starts_with_frame b he
  · obtain ⟨entry, he, hm⟩ := List.mem_map.1 ha
    cases entry with
    | frame f => simp [Entry.mirror] at hm
    | action b =>
      obtain rfl : b = action := by simpa [Entry.mirror] using hm
      exact h.actions_valid b he

/-! ## Compilation -/

/-- Compile entries that follow after `last`, the frame emitted last, if there is one. -/
def compileAfter {n : Nat} (last : Option (Frame n)) :
    List (Entry n) → Generator → Except ScriptError (List (Frame n)) × Generator
  | [], g => (.ok [], g)
  | .frame frame :: rest, g =>
    let tail := compileAfter (some frame) rest g
    (tail.1.map (frame :: ·), tail.2)
  | .action action :: rest, g =>
    if action.isValid then
      match last with
      | none => (.error .leadingAction, g)
      | some previous =>
        let block := action.expand previous g
        let tail := compileAfter (block.1.getLast?.or (some previous)) rest block.2
        (tail.1.map (block.1 ++ ·), tail.2)
    else (.error (.invalidAction action), g)

/-- The frames a list of entries stands for, or the first fault met on the way through it, with
    the generator as the delays before that point have left it. -/
def compile {n : Nat} (entries : List (Entry n)) (g : Generator) :
    Except ScriptError (List (Frame n)) × Generator :=
  compileAfter none entries g

/-! ## Scripts -/

/-- A well-formed list of entries. -/
structure Script (n : Nat) where
  entries : List (Entry n)
  wellFormed : WellFormed entries
  deriving DecidableEq

namespace Script

variable {n : Nat}

/-- The script of a list of entries, or the reason why it is none. -/
def ofEntries (entries : List (Entry n)) : Except ScriptError (Script n) :=
  match h : fault? entries with
  | none => .ok ⟨entries, (fault?_eq_none_iff entries).1 h⟩
  | some fault => .error fault

/-- Frames alone are always well-formed. -/
def ofFrames (frames : List (Frame n)) : Script n where
  entries := frames.map .frame
  wellFormed := ⟨fun action => by cases frames <;> simp, fun action h => by simp at h⟩

/-- Rows of colours, one for each frame; the first row that is no frame is the error. -/
def ofRows (rows : List (List Rgb)) : Except ScriptError (Script n) := do
  ofEntries (← rows.mapM (Entry.ofRow n))

/-- The script without entries. -/
def empty : Script n := ofFrames []

instance : Inhabited (Script n) := ⟨empty⟩

/-- The number of entries. -/
def length (script : Script n) : Nat := script.entries.length

/-- There are no entries. -/
def isEmpty (script : Script n) : Bool := script.entries.isEmpty

/-- A script with actions may compile to another list each time. -/
def isDynamic (script : Script n) : Bool := script.entries.any Entry.isAction

/-- The same script seen from the other end of the strip. -/
def mirror (script : Script n) : Script n where
  entries := script.entries.map Entry.mirror
  wellFormed := script.wellFormed.map_mirror

/-- The frames written in the script, without what its actions add. -/
def stills (script : Script n) : List (Frame n) :=
  script.entries.filterMap fun
    | .frame frame => some frame
    | .action _ => none

/-- The frames the script stands for. -/
def compile (script : Script n) (g : Generator) :
    Except ScriptError (List (Frame n)) × Generator :=
  LedAnimation.compile script.entries g

@[ext] theorem ext {s t : Script n} (h : s.entries = t.entries) : s = t := by
  cases s; cases t; simp_all

@[simp] theorem mirror_mirror (script : Script n) : script.mirror.mirror = script := by
  ext1; simp [mirror, Function.comp_def]

@[simp] theorem length_mirror (script : Script n) : script.mirror.length = script.length := by
  simp [mirror, length]

@[simp] theorem isDynamic_mirror (script : Script n) :
    script.mirror.isDynamic = script.isDynamic := by
  simp [mirror, isDynamic, List.any_map, Function.comp_def]

end Script

end LedAnimation
