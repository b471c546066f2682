/-
  Invariants of reading a command line.

  Whatever the spelling of the arguments, the settings only change in three ways: an option that was
  not given before gets its value, an option that was not given before is turned on, and `-v` is
  counted once more.  `Kept` says of a relation between the settings and the options given so far
  that it survives these three; then it survives a whole list of arguments (`Kept.read`), as reading
  an argument is made of them (`Kept.readLong`, `Kept.readShort`).

  What `parse` looks at in the end are the options that were given, and what the program goes by are
  the settings.  `Marked` ties the two: a source that was given is there, and a list that was asked
  for is on.
-/
import LedAnimation.Preview.CommandLine

namespace LedAnimation

namespace CommandLine

/-- Two steps that go well are two steps that each go well. -/
theorem exists_of_bind_eq_ok {ε α β : Type} {x : Except ε α} {f : α → Except ε β} {b : β}
    (h : (x >>= f) = .ok b) : ∃ a, x = .ok a ∧ f a = .ok b := by
  cases x with
  | error fault => exact nomatch h
  | ok a => exact ⟨a, rfl, h⟩

/-- What two steps give is what the second gives from what the first gave. -/
theorem bind_eq_ok_iff {ε α β : Type} {x : Except ε α} {f : α → Except ε β} {b : β} :
    (x >>= f) = .ok b ↔ ∃ a, x = .ok a ∧ f a = .ok b := by
  constructor
  · exact exists_of_bind_eq_ok
  · rintro ⟨a, rfl, h⟩
    exact h

/-- A relation between the settings and the options given so far that no argument can break. -/
structure Kept (Good : Options → List Key → Prop) : Prop where
  store : ∀ {o after : Options} {given : List Key} {key : Key} {text : String},
    Good o given → key ∉ given → o.store? key text = some after → Good after (key :: given)
  switch : ∀ {o : Options} {given : List Key} {key : Key},
    Good o given → key ∉ given → key.takesValue = false → Good (o.switch key) (key :: given)
  /-- Only `-v` can be given again. -/
  again : ∀ {o : Options} {given : List Key}, Good o given → Good (o.switch .verbose) given

namespace Session

variable {s t : Session} {key : Key}

/-- An option is noted if it was not given before, and nothing else changes. -/
theorem note_eq_ok_iff :
    s.note key = .ok t ↔ key ∉ s.given ∧ t = { s with given := key :: s.given } := by
  unfold note
  by_cases hgiven : key ∈ s.given
  · rw [if_pos hgiven]
    exact iff_of_false (fun h => nomatch h) fun h => h.1 hgiven
  · rw [if_neg hgiven, Except.ok.injEq, and_iff_right hgiven]
    exact eq_comm

/-- The settings of a session stand in the relation to what was given in it. -/
def Holds (Good : Options → List Key → Prop) (s : Session) : Prop := Good s.options s.given

end Session

/-- What is looked at in the end, once all arguments are read. -/
theorem parse_eq_ok_iff_read {args : List String} {options : Options} :
    parse args = .ok options ↔
      ∃ s, Session.fresh.read args = .ok s ∧ ¬ (.gamma ∈ s.given ∧ .noGamma ∈ s.given) ∧
        (.frames ∈ s.given ∨ .list ∈ s.given) ∧ options = s.options := by
  rw [parse, bind_eq_ok_iff]
  refine exists_congr fun s => and_congr_right fun _ => ?_
  by_cases hconflict : .gamma ∈ s.given ∧ .noGamma ∈ s.given
  · rw [if_pos hconflict]
    exact iff_of_false nofun fun h => h.1 hconflict
  · rw [if_neg hconflict, and_iff_right hconflict]
    by_cases hmissing : .frames ∉ s.given ∧ .list ∉ s.given
    · rw [if_pos hmissing]
      exact iff_of_false nofun fun h => h.1.elim hmissing.1 hmissing.2
    · rw [if_neg hmissing, Except.ok.injEq, eq_comm]
      refine (and_iff_right ?_).symm
      exact Classical.or_iff_not_imp_left.2 fun hframes =>
        Classical.not_not.1 fun hlist => hmissing ⟨hframes, hlist⟩

namespace Kept

open Session (Holds)

variable {Good : Options → List Key → Prop} {s t : Session} {key : Key}

/-- A value that is put into the settings: the option is new, and its value could be read. -/
theorem assign (hkept : Kept Good) {text : String} (h : Holds Good s)
    (hok : s.assign key text = .ok t) : Holds Good t := by
  obtain ⟨noted, hnote, hok⟩ := exists_of_bind_eq_ok hok
  obtain ⟨hfresh, rfl⟩ := Session.note_eq_ok_iff.1 hnote
  cases hstore : s.options.store? key text with
  | none =>
    -- the text cannot be read, so there are no settings after it
    rw [hstore] at hok
    exact nomatch hok
  | some after =>
    rw [hstore] at hok
    obtain rfl := Except.ok.inj hok
    exact hkept.store h hfresh hstore

/-- The value that is pending is put into the settings, or there is none. -/
theorem settle (hkept : Kept Good) (h : Holds Good s) (hok : s.settle = .ok t) : Holds Good t := by
  unfold Session.settle at hok
  split at hok
  · obtain rfl := Except.ok.inj hok
    exact h
  · exact nomatch hok
  -- the settings are still those of the session, only nothing is pending any more
  · exact hkept.assign (s := { s with pending := none }) h hok

/-- A flag is new, or it is `-v`; whatever was pending is settled in front of it. -/
theorem flag (hkept : Kept Good) (hkey : key.takesValue = false) (h : Holds Good s)
    (hok : s.flag key = .ok t) : Holds Good t := by
  obtain ⟨settled, hsettle, hok⟩ := exists_of_bind_eq_ok hok
  have hsettled := hkept.settle h hsettle
  split at hok
  · exact nomatch hok
  · exact nomatch hok
  · obtain rfl := Except.ok.inj hok
    exact hkept.again hsettled
  · obtain ⟨noted, hnote, hok⟩ := exists_of_bind_eq_ok hok
    obtain ⟨hfresh, rfl⟩ := Session.note_eq_ok_iff.1 hnote
    obtain rfl := Except.ok.inj hok
    exact hkept.switch hsettled hfresh hkey

/-- A value that comes with its option settles what was pending, and then goes into the settings. -/
theorem attach (hkept : Kept Good) {text : String} (h : Holds Good s)
    (hok : s.attach key text = .ok t) : Holds Good t := by
  obtain ⟨settled, hsettle, hok⟩ := exists_of_bind_eq_ok hok
  exact hkept.assign (hkept.settle h hsettle) hok

/-- An option that waits for its value has not changed anything yet. -/
theorem await (hkept : Kept Good) (h : Holds Good s) (hok : s.await key = .ok t) :
    Holds Good t := by
  obtain ⟨settled, hsettle, hok⟩ := exists_of_bind_eq_ok hok
  obtain rfl := Except.ok.inj hok
  have hsettled := hkept.settle h hsettle
  exact hsettled

/-- What stands behind two minus signs is a flag, or an option with its value, now or later. -/
theorem readLong (hkept : Kept Good) {body : List Char} (h : Holds Good s)
    (hok : s.readLong body = .ok t) : Holds Good t := by
  unfold Session.readLong at hok
  dsimp only at hok
  split at hok
  · exact nomatch hok
  · rename_i key hname
    by_cases hvalue : key.takesValue = true
    · rw [if_pos hvalue] at hok
      split at hok
      · exact hkept.attach h hok
      -- without an equals sign the value is the next argument
      · exact hkept.await h hok
    · rw [if_neg hvalue] at hok
      split at hok
      · exact nomatch hok
      · exact hkept.flag (Bool.not_eq_true _ ▸ hvalue) h hok

/-- By induction on the letters: each one that takes no value is a flag in front of the others. -/
theorem readShort (hkept : Kept Good) {letters : List Char} (h : Holds Good s)
    (hok : s.readShort letters = .ok t) : Holds Good t := by
  induction letters generalizing s with
  | nil =>
    obtain rfl := Except.ok.inj hok
    exact h
  | cons letter rest ih =>
    rw [Session.readShort] at hok
    split at hok
    · exact nomatch hok
    · rename_i key hname
      by_cases hvalue : key.takesValue = true
      · rw [if_pos hvalue] at hok
        split at hok
        · exact hkept.await h hok
        · exact hkept.attach h hok
        · exact hkept.attach h hok
      · rw [if_neg hvalue] at hok
        obtain ⟨flagged, hflag, hok⟩ := exists_of_bind_eq_ok hok
        exact ih (hkept.flag (Bool.not_eq_true _ ▸ hvalue) h hflag) hok

/-- **A whole list of arguments**: what none of the three changes breaks, no arguments break. -/
theorem read (hkept : Kept Good) {args : List String} (h : Holds Good s)
    (hok : s.read args = .ok t) : Holds Good t := by
  induction args generalizing s with
  | nil => exact hkept.settle h hok
  | cons arg rest ih =>
    rw [Session.read] at hok
    split at hok
    · -- behind two minus signs there can only be the end
      split at hok
      · exact hkept.settle h hok
      · exact nomatch hok
    · obtain ⟨next, hnext, hok⟩ := exists_of_bind_eq_ok hok
      exact ih (hkept.readLong h hnext) hok
    · obtain ⟨next, hnext, hok⟩ := exists_of_bind_eq_ok hok
      exact ih (hkept.readShort h hnext) hok
    · split at hok
      -- a text is kept with the option that waits for it, and settled later
      · refine ih ?_ hok
        exact h
      · exact nomatch hok

/-- The settings of accepted arguments stand in the relation to options with which the last look at
    all of them finds no fault. -/
theorem parse (hkept : Kept Good) (hfresh : Good {} []) {args : List String} {options : Options}
    (hok : CommandLine.parse args = .ok options) :
    ∃ given, Good options given ∧ ¬ (.gamma ∈ given ∧ .noGamma ∈ given) ∧
      (.frames ∈ given ∨ .list ∈ given) := by
  obtain ⟨s, hread, hconflict, hgiven, rfl⟩ := parse_eq_ok_iff_read.1 hok
  exact ⟨s.given, hkept.read (s := Session.fresh) hfresh hread, hconflict, hgiven⟩

end Kept

/-! ## Something to do -/

/-- A source that was given is there, and a list that was asked for is on. -/
structure Marked (o : Options) (given : List Key) : Prop where
  frames : .frames ∈ given → o.frames.isSome = true
  list : .list ∈ given → o.list = true

/-- A value is a source only for `--frames`, and turns no list on. -/
theorem Options.store?_keeps {o after : Options} {key : Key} {text : String}
    (h : o.store? key text = some after) :
    after.frames = (if key = .frames then some text else o.frames) ∧ after.list = o.list := by
  cases key <;> simp only [store?, Option.some.injEq, Option.map_eq_some_iff, reduceCtorEq] at h
  case frames | overlay | underlay =>
    subst h
    exact ⟨rfl, rfl⟩
  all_goals
    obtain ⟨value, -, rfl⟩ := h
    exact ⟨rfl, rfl⟩

/-- An option without a value is no source, and only `--list` turns a list on. -/
theorem Options.switch_keeps (o : Options) (key : Key) :
    (o.switch key).frames = o.frames ∧ (o.switch key).list = (key == .list || o.list) := by
  cases key <;> exact ⟨rfl, rfl⟩

/-- What the last look goes by is found in the settings: each of the three changes leaves it so. -/
theorem kept_marked : Kept Marked := by
  constructor
  case store =>
    intro o after given key text h _ hstore
    obtain ⟨hframes, hlist⟩ := Options.store?_keeps hstore
    constructor
    case frames =>
      intro hmem
      rw [hframes]
      by_cases hkey : key = .frames
      · rw [if_pos hkey]
        rfl
      · rw [if_neg hkey]
        exact h.frames (List.mem_of_ne_of_mem (Ne.symm hkey) hmem)
    case list =>
      intro hmem
      rw [hlist]
      rcases List.mem_cons.1 hmem with rfl | hmem
      -- no text can be stored for `--list`, which takes none
      · exact nomatch hstore
      · exact h.list hmem
  case switch =>
    intro o given key h _ hvalue
    obtain ⟨hframes, hlist⟩ := Options.switch_keeps o key
    constructor
    case frames =>
      intro hmem
      rw [hframes]
      rcases List.mem_cons.1 hmem with rfl | hmem
      -- and `--frames`, which takes one, is no flag
      · exact nomatch hvalue
      · exact h.frames hmem
    case list =>
      intro hmem
      rw [hlist]
      rcases List.mem_cons.1 hmem with rfl | hmem
      · rfl
      · rw [h.list hmem, Bool.or_true]
  case again =>
    intro o given h
    exact ⟨h.frames, h.list⟩

/-- **Accepted arguments always ask for something**: for the list, or for something to play. -/
theorem asks_for_something {args : List String} {options : Options}
    (h : parse args = .ok options) : options.list = true ∨ options.frames.isSome = true := by
  obtain ⟨given, hmarked, -, hgiven⟩ := kept_marked.parse ⟨nofun, nofun⟩ h
  rcases hgiven with hframes | hlist
  · exact Or.inr (hmarked.frames hframes)
  · exact Or.inl (hmarked.list hlist)

end CommandLine

end LedAnimation
