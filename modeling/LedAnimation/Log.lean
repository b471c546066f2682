/-
  What a running animation reports about itself.

  `Logged α` is a result together with the records made on the way to it, oldest first.  The
  records never influence a result: `value` forgets them and is compatible with everything that
  builds a `Logged`, so a statement about results unfolds as if nothing were reported.
-/

namespace LedAnimation

/-- How much a record matters. -/
inductive Level where
  | debug
  | info
  | warn
  deriving DecidableEq, Repr

/-- The name that stands in front of a record's text. -/
def Level.name : Level → String
  | .debug => "DEBUG"
  | .info => "INFO"
  | .warn => "WARN"

/-- One report. -/
structure Record where
  level : Level
  text : String
  deriving DecidableEq, Repr

/-- The record as one line of a log. -/
def Record.line (record : Record) : String := record.level.name ++ " " ++ record.text

/-- A result and the records made while it was computed. -/
structure Logged (α : Type) where
  value : α
  records : List Record

namespace Logged

/-- Records followed by later ones.  Nothing is copied where nothing follows. -/
def followedBy (earlier : List Record) : List Record → List Record
  | [] => earlier
  | later => earlier ++ later

theorem followedBy_eq (earlier later : List Record) :
    followedBy earlier later = earlier ++ later := by
  cases later <;> simp [followedBy]

instance : Monad Logged where
  pure a := ⟨a, []⟩
  bind := fun ⟨a, earlier⟩ f =>
    match f a with
    | ⟨b, later⟩ => ⟨b, followedBy earlier later⟩

variable {α β : Type}

@[simp] theorem value_pure (a : α) : (pure a : Logged α).value = a := rfl

@[simp] theorem value_bind (x : Logged α) (f : α → Logged β) :
    (x >>= f).value = (f x.value).value := rfl

@[simp] theorem value_map (f : α → β) (x : Logged α) : (f <$> x).value = f x.value := rfl

@[simp] theorem records_pure (a : α) : (pure a : Logged α).records = [] := rfl

@[simp] theorem records_bind (x : Logged α) (f : α → Logged β) :
    (x >>= f).records = x.records ++ (f x.value).records := followedBy_eq ..

@[ext] theorem ext {x y : Logged α} (hv : x.value = y.value) (hr : x.records = y.records) :
    x = y := by
  cases x; cases y; simp_all

instance : LawfulMonad Logged := LawfulMonad.mk' Logged
  (fun x => by ext1 <;> simp [Functor.map, followedBy])
  (fun a f => by ext1 <;> simp)
  (fun x f g => by ext1 <;> simp [List.append_assoc])

end Logged

/-- Report something. -/
def report (level : Level) (text : String) : Logged Unit := ⟨(), [⟨level, text⟩]⟩

@[simp] theorem value_report (level : Level) (text : String) : (report level text).value = () := rfl

end LedAnimation
