/-
  How a command line is spelled.

  A command line is a row of option groups.  A group is what can be moved about as a whole: an
  option with its value, where it has one, or several letters behind a single minus sign, the last
  of which may have a value (`Group`).  Behind the groups two minus signs may stand (`Line`).  This
  grammar knows nothing of how arguments are read; it is tied to the reader in both directions:

  * `read_line`           — reading a line is giving its options one after the other, whatever their
    spelling;
  * `exists_line_of_read` — whatever is read without a fault is a line.

  The reader does not settle a value that stands as an argument of its own before the next option.
  `read_eq_ok_iff_settle` says that this cannot be seen where there is no fault.
-/
import LedAnimation.Proofs.Preview.Arguments

namespace LedAnimation

namespace CommandLine

/-! ## Options by their names -/

namespace Key

/-- The options that take a value, or those that take none. -/
abbrev Of (takes : Bool) : Type := { key : Key // key.takesValue = takes }

/-- An option is found by its own long name, and by no other. -/
theorem ofLong?_eq_some_iff {name : String} {key : Key} :
    ofLong? name = some key ↔ key.long = name := by
  constructor
  · intro h
    exact beq_iff_eq.1 (List.find?_some h :)
  · rintro rfl
    cases key <;> rfl

/-- An option is found by its own letter, and by no other. -/
theorem ofShort?_eq_some_iff {letter : Char} {key : Key} :
    ofShort? letter = some key ↔ key.short? = some letter := by
  constructor
  · intro h
    exact beq_iff_eq.1 (List.find?_some h :)
  · intro h
    cases key <;> simp only [short?, Option.some.injEq, reduceCtorEq] at h <;> subst h <;> rfl

/-- No option is without a long name. -/
theorem long_ne_nil (key : Key) : key.long.toList ≠ [] := by cases key <;> decide

/-- No long name has an equals sign in it, so the first one ends the name. -/
theorem ne_equals_of_mem_long (key : Key) :
    ∀ letter ∈ key.long.toList, (letter != '=') = true := by
  rw [← List.all_eq_true]
  cases key <;> rfl

/-- A long name is read to its end, -/
theorem takeWhile_long (key : Key) :
    key.long.toList.takeWhile (· != '=') = key.long.toList := by
  cases key <;> decide

/-- and nothing of it is left. -/
theorem dropWhile_long (key : Key) : key.long.toList.dropWhile (· != '=') = [] := by
  cases key <;> decide

/-- No option has a minus sign for a letter. -/
theorem ne_minus_of_short {key : Key} {letter : Char} (h : key.short? = some letter) :
    letter ≠ '-' := by
  rintro rfl
  revert h
  cases key <;> decide

end Key

/-! ## The grammar -/

/-- An option as it is given. -/
inductive Given where
  | flag (key : Key.Of false)
  | value (key : Key.Of true) (text : String)
  deriving DecidableEq

/-- Which option is given. -/
def Given.key : Given → Key
  | .flag key => key.val
  | .value key _ => key.val

/-- A letter that stands for an option. -/
structure Letter (takes : Bool) where
  key : Key.Of takes
  char : Char
  isShort : key.val.short? = some char

namespace Letter

/-- Letters behind one minus sign do not look like a long name. -/
theorem char_ne_minus {takes : Bool} (letter : Letter takes) : letter.char ≠ '-' :=
  Key.ne_minus_of_short letter.isShort

/-- The letters themselves. -/
def chars (flags : List (Letter false)) : List Char := flags.map Letter.char

/-- The options that letters without a value give. -/
def givens (flags : List (Letter false)) : List Given := flags.map fun flag => .flag flag.key

end Letter

/-- A text that can stand behind an option as an argument of its own: it looks like no option. -/
abbrev Apart : Type := { text : String // text.toList.head? = some '-' → text = "-" }

/-- A text that looks like no option does not begin with a minus sign and something behind it. -/
theorem Apart.ne_minus_cons (text : Apart) (letter : Char) (letters : List Char) :
    text.val.toList ≠ '-' :: letter :: letters := by
  intro h
  have hminus := text.property (by rw [h]; rfl)
  rw [hminus] at h
  exact nomatch h

/-- A text that can be joined to the letter of its option: there is something to join, and it does
    not begin with what would be taken for the equals sign between letter and value. -/
abbrev Joined : Type := { text : String // text.toList ≠ [] ∧ text.toList.head? ≠ some '=' }

/-- An argument that begins with two minus signs. -/
def longArg (body : List Char) : String := .ofList ('-' :: '-' :: body)

/-- An argument that begins with one minus sign. -/
def shortArg (body : List Char) : String := .ofList ('-' :: body)

/-- An option group, in one of its spellings. -/
inductive Group where
  /-- As in `--mirrored`. -/
  | long (key : Key.Of false)
  /-- As in `--frames=rain`. -/
  | longEquals (key : Key.Of true) (text : String)
  /-- As in `--frames rain`. -/
  | longApart (key : Key.Of true) (text : Apart)
  /-- As in `-mvv`. -/
  | short (flags : List (Letter false)) (nonempty : flags ≠ [])
  /-- As in `-mf=rain`. -/
  | shortEquals (flags : List (Letter false)) (last : Letter true) (text : String)
  /-- As in `-mfrain`. -/
  | shortJoined (flags : List (Letter false)) (last : Letter true) (text : Joined)
  /-- As in `-mf rain`. -/
  | shortApart (flags : List (Letter false)) (last : Letter true) (text : Apart)

namespace Group

/-- The arguments a group consists of. -/
def args : Group → List String
  | long key => [longArg key.val.long.toList]
  | longEquals key text => [longArg (key.val.long.toList ++ '=' :: text.toList)]
  | longApart key text => [longArg key.val.long.toList, text.val]
  | short flags _ => [shortArg (Letter.chars flags)]
  | shortEquals flags last text =>
    [shortArg (Letter.chars flags ++ last.char :: '=' :: text.toList)]
  | shortJoined flags last text => [shortArg (Letter.chars flags ++ last.char :: text.val.toList)]
  | shortApart flags last text => [shortArg (Letter.chars flags ++ [last.char]), text.val]

/-- The options a group gives, from left to right. -/
def givens : Group → List Given
  | long key => [.flag key]
  | longEquals key text => [.value key text]
  | longApart key text => [.value key text.val]
  | short flags _ => Letter.givens flags
  | shortEquals flags last text => Letter.givens flags ++ [.value last.key text]
  | shortJoined flags last text => Letter.givens flags ++ [.value last.key text.val]
  | shortApart flags last text => Letter.givens flags ++ [.value last.key text.val]

end Group

/-- A command line: option groups, and perhaps two minus signs behind the last of them. -/
structure Line where
  groups : List Group
  closed : Bool := false

namespace Line

/-- The arguments of a line. -/
def args (line : Line) : List String :=
  line.groups.flatMap Group.args ++ if line.closed then ["--"] else []

/-- The options a line gives, from left to right. -/
def givens (line : Line) : List Given := line.groups.flatMap Group.givens

/-- A group in front of a line. -/
def cons (group : Group) (line : Line) : Line := { line with groups := group :: line.groups }

/-- The arguments of a group stand in front of those of the line behind it. -/
theorem args_cons (group : Group) (line : Line) :
    (line.cons group).args = group.args ++ line.args :=
  List.append_assoc ..

/-- Its options are given in front of those of the line. -/
theorem givens_cons (group : Group) (line : Line) :
    (line.cons group).givens = group.givens ++ line.givens := rfl

end Line

/-- What an argument can be. -/
inductive Word : String → Prop where
  | ending : Word "--"
  | long {body : List Char} (nonempty : body ≠ []) : Word (longArg body)
  | short {letter : Char} {letters : List Char} (single : letter ≠ '-') :
    Word (shortArg (letter :: letters))
  | apart (text : Apart) : Word text.val

/-- Every argument is one of these. -/
theorem word (arg : String) : Word arg := by
  rw [← String.ofList_toList (s := arg)]
  rcases arg.toList with - | ⟨first, - | ⟨second, rest⟩⟩
  · exact .apart ⟨"", nofun⟩
  · refine .apart ⟨.ofList [first], fun h => ?_⟩
    rw [String.toList_ofList, List.head?_cons, Option.some.injEq] at h
    rw [h]
  -- which of the four it is depends on the minus signs in front
  · by_cases hfirst : first = '-'
    · subst hfirst
      by_cases hsecond : second = '-'
      · subst hsecond
        rcases rest with - | ⟨letter, letters⟩
        · exact .ending
        · exact .long (List.cons_ne_nil letter letters)
      · exact .short hsecond
    · refine .apart ⟨.ofList (first :: second :: rest), fun h => ?_⟩
      rw [String.toList_ofList, List.head?_cons, Option.some.injEq] at h
      exact absurd h hfirst

/-! ## Giving options -/

namespace Session

variable {s t : Session}

/-- Give an option to a session. -/
def give (s : Session) : Given → Except Refusal Session
  | .flag key => s.flag key.val
  | .value key text => s.attach key.val text

/-- Give options one after the other. -/
def giveAll (s : Session) (givens : List Given) : Except Refusal Session :=
  givens.foldlM give s

/-- Options are given one after the other, so they can be given in two parts. -/
theorem giveAll_append (s : Session) (first second : List Given) :
    s.giveAll (first ++ second) = s.giveAll first >>= (·.giveAll second) :=
  List.foldlM_append

theorem giveAll_singleton (s : Session) (given : Given) : s.giveAll [given] = s.give given := by
  rw [giveAll, List.foldlM_cons]
  exact bind_pure _

/-- Where nothing is pending there is nothing to settle. -/
theorem settle_of_none (h : s.pending = none) : s.settle = .ok s := by
  rw [settle, h]

/-- To put a value into the settings leaves alone what is pending. -/
theorem pending_of_assign {key : Key} {text : String} (h : s.assign key text = .ok t) :
    t.pending = s.pending := by
  obtain ⟨noted, hnote, h⟩ := exists_of_bind_eq_ok h
  obtain ⟨-, rfl⟩ := note_eq_ok_iff.1 hnote
  split at h
  · obtain rfl := Except.ok.inj h
    rfl
  · exact nomatch h

/-- Nothing is pending any more once it is settled. -/
theorem pending_of_settle (h : s.settle = .ok t) : t.pending = none := by
  unfold settle at h
  split at h
  · obtain rfl := Except.ok.inj h
    assumption
  · exact nomatch h
  · exact pending_of_assign h

/-- An option that is given with its value, or needs none, leaves nothing pending. -/
theorem pending_of_give (given : Given) (h : s.give given = .ok t) : t.pending = none := by
  cases given with
  | value key text =>
    obtain ⟨settled, hsettle, h⟩ := exists_of_bind_eq_ok h
    rw [pending_of_assign h]
    exact pending_of_settle hsettle
  | flag key =>
    -- it settles first, and is then refused, counted, or noted
    obtain ⟨settled, hsettle, h⟩ := exists_of_bind_eq_ok h
    have hnone := pending_of_settle hsettle
    split at h
    · exact nomatch h
    · exact nomatch h
    · obtain rfl := Except.ok.inj h
      exact hnone
    · obtain ⟨noted, hnote, h⟩ := exists_of_bind_eq_ok h
      obtain ⟨-, rfl⟩ := note_eq_ok_iff.1 hnote
      obtain rfl := Except.ok.inj h
      exact hnone

/-- No more do options that are given one after the other. -/
theorem pending_of_giveAll {givens : List Given} (hs : s.pending = none)
    (h : s.giveAll givens = .ok t) : t.pending = none := by
  induction givens generalizing s with
  | nil =>
    obtain rfl := Except.ok.inj h
    exact hs
  | cons given rest ih =>
    obtain ⟨next, hgive, h⟩ := exists_of_bind_eq_ok h
    exact ih (pending_of_give given hgive) h

/-! ## Settling -/

/-- What an action does to a session it does to the settled one. -/
def SettlesFirst (act : Session → Except Refusal Session) : Prop :=
  ∀ s t : Session, act s = .ok t ↔ ∃ u, s.settle = .ok u ∧ act u = .ok t

/-- Whatever begins with settling settles first: a session that is settled is not changed by doing
    so again. -/
theorem settlesFirst_bind (next : Session → Except Refusal Session) :
    SettlesFirst fun s => s.settle >>= next := by
  intro s t
  rw [bind_eq_ok_iff]
  refine exists_congr fun u => and_congr_right fun hu => ?_
  dsimp only
  rw [settle_of_none (pending_of_settle hu)]
  rfl

/-- What comes behind an action that settles first sees the same session either way. -/
theorem SettlesFirst.bind {act : Session → Except Refusal Session} (h : SettlesFirst act)
    (next : Session → Except Refusal Session) : SettlesFirst fun s => act s >>= next := by
  intro s t
  simp only [bind_eq_ok_iff]
  constructor
  · rintro ⟨r, hact, hnext⟩
    obtain ⟨u, hu, hact⟩ := (h _ _).1 hact
    exact ⟨u, hu, r, hact, hnext⟩
  · rintro ⟨u, hu, r, hact, hnext⟩
    exact ⟨r, (h _ _).2 ⟨u, hu, hact⟩, hnext⟩

theorem settlesFirst_error (refusal : Refusal) : SettlesFirst fun _ => .error refusal := by
  intro s t
  exact iff_of_false nofun fun ⟨_, _, h⟩ => nomatch h

theorem settlesFirst_settle : SettlesFirst settle := by
  intro s t
  constructor
  · intro h
    exact ⟨t, h, settle_of_none (pending_of_settle h)⟩
  · rintro ⟨u, hu, h⟩
    rw [settle_of_none (pending_of_settle hu)] at h
    obtain rfl := Except.ok.inj h
    exact hu

/-- A flag settles what was pending before it. -/
theorem settlesFirst_flag (key : Key) : SettlesFirst (·.flag key) := settlesFirst_bind _

theorem settlesFirst_attach (key : Key) (text : String) : SettlesFirst (·.attach key text) :=
  settlesFirst_bind _

theorem settlesFirst_await (key : Key) : SettlesFirst (·.await key) := settlesFirst_bind _

/-- Whatever stands behind two minus signs settles what was pending before it, -/
theorem settlesFirst_readLong (body : List Char) : SettlesFirst (·.readLong body) := by
  unfold readLong
  dsimp only
  cases Key.ofLong? (.ofList (body.takeWhile (· != '='))) with
  | none => exact settlesFirst_error _
  | some key =>
    dsimp only
    -- which of the three readings it is does not depend on the session
    by_cases hvalue : key.takesValue = true
    · simp only [if_pos hvalue]
      cases body.dropWhile (· != '=') with
      | nil => exact settlesFirst_await key
      | cons equals text => exact settlesFirst_attach key _
    · simp only [if_neg hvalue]
      cases body.dropWhile (· != '=') with
      | nil => exact settlesFirst_flag key
      | cons equals text => exact settlesFirst_error _

/-- and so do letters behind one minus sign, as long as there is one. -/
theorem settlesFirst_readShort (letter : Char) (letters : List Char) :
    SettlesFirst (·.readShort (letter :: letters)) := by
  simp only [readShort]
  cases Key.ofShort? letter with
  | none => exact settlesFirst_error _
  | some key =>
    dsimp only
    by_cases hvalue : key.takesValue = true
    · simp only [if_pos hvalue]
      split
      · exact settlesFirst_await key
      · exact settlesFirst_attach key _
      · exact settlesFirst_attach key _
    · simp only [if_neg hvalue]
      exact (settlesFirst_flag key).bind _

/-! ## Reading arguments -/

/-- The option that is pending still needs its value. -/
def Awaits (s : Session) : Prop := ∃ key, s.pending = some (key, none)

/-- An option that still needs its value cannot be settled. -/
theorem not_awaits_of_settle (h : s.settle = .ok t) : ¬ s.Awaits := by
  rintro ⟨key, hkey⟩
  rw [settle, hkey] at h
  exact nomatch h

/-- Two minus signs alone end the line. -/
theorem read_ending (s : Session) (rest : List String) :
    s.read ("--" :: rest) = if rest.isEmpty then s.settle else .error .unknownArgument := rfl

/-- Two minus signs with something behind them: a long name. -/
theorem read_longArg (s : Session) {body : List Char} (hbody : body ≠ []) (rest : List String) :
    s.read (longArg body :: rest) = s.readLong body >>= (·.read rest) := by
  rw [read, longArg, String.toList_ofList]
  cases body with
  | nil => exact absurd rfl hbody
  | cons letter letters => rfl

/-- One minus sign with something else behind it: letters. -/
theorem read_shortArg (s : Session) {letter : Char} (hletter : letter ≠ '-') (letters : List Char)
    (rest : List String) :
    s.read (shortArg (letter :: letters) :: rest)
      = s.readShort (letter :: letters) >>= (·.read rest) := by
  rw [read, shortArg, String.toList_ofList]
  split
  · rename_i h
    exact absurd (List.cons.inj (List.cons.inj h).2).1 hletter
  · rename_i h
    exact absurd (List.cons.inj (List.cons.inj h).2).1 hletter
  · rename_i h
    obtain ⟨rfl, rfl⟩ := List.cons.inj (List.cons.inj h).2
    rfl
  · rename_i h
    exact (h letter letters rfl).elim

/-- Anything else is the value of the option that waits for one. -/
theorem read_apart (s : Session) (text : Apart) (rest : List String) :
    s.read (text.val :: rest) = match s.pending with
      | some (key, none) => { s with pending := some (key, some text.val) }.read rest
      | _ => .error .unknownArgument := by
  rw [read]
  split
  · rename_i h
    exact absurd h (text.ne_minus_cons _ _)
  · rename_i h
    exact absurd h (text.ne_minus_cons _ _)
  · rename_i h
    exact absurd h (text.ne_minus_cons _ _)
  · rfl

/-- **Settling earlier makes no difference**, but for an option that still needs its value. -/
theorem read_eq_ok_iff_settle (hs : ¬ s.Awaits) (args : List String) :
    s.read args = .ok t ↔ ∃ u, s.settle = .ok u ∧ u.read args = .ok t := by
  cases args with
  | nil => exact settlesFirst_settle s t
  | cons arg rest =>
    cases word arg with
    | ending =>
      simp only [read_ending]
      cases rest with
      | nil => exact settlesFirst_settle s t
      | cons arg rest => exact settlesFirst_error _ s t
    | long hbody =>
      simp only [read_longArg _ hbody]
      exact (settlesFirst_readLong _).bind _ s t
    | short hletter =>
      simp only [read_shortArg _ hletter]
      exact (settlesFirst_readShort _ _).bind _ s t
    | apart text =>
      -- there is no option that the text could be the value of
      refine iff_of_false ?_ ?_
      · intro h
        rw [read_apart] at h
        split at h
        · rename_i key hkey
          exact hs ⟨key, hkey⟩
        · exact nomatch h
      · rintro ⟨u, hu, h⟩
        rw [read_apart, pending_of_settle hu] at h
        exact nomatch h

/-- A value that stands as an argument of its own is as good as one that is attached. -/
theorem read_await_apart (hs : s.pending = none) (key : Key) (text : Apart) (rest : List String) :
    (s.await key >>= (·.read (text.val :: rest))) = .ok t ↔
      ∃ u, s.attach key text.val = .ok u ∧ u.read rest = .ok t := by
  obtain ⟨options, given, pending⟩ := s
  obtain rfl : pending = none := hs
  show Session.read ⟨options, given, some (key, none)⟩ (text.val :: rest) = .ok t ↔ _
  rw [read_apart]
  exact read_eq_ok_iff_settle (fun ⟨_, h⟩ => nomatch h) rest

/-! ## Reading groups -/

/-- A name alone. -/
theorem readLong_name (s : Session) (key : Key) :
    s.readLong key.long.toList = if key.takesValue then s.await key else s.flag key := by
  rw [readLong, key.takeWhile_long, key.dropWhile_long, String.ofList_toList,
    Key.ofLong?_eq_some_iff.2 rfl]

/-- A name, and a value behind an equals sign. -/
theorem readLong_equals (s : Session) (key : Key) (text : String) :
    s.readLong (key.long.toList ++ '=' :: text.toList)
      = if key.takesValue then s.attach key text else .error .tooManyValues := by
  have htake : (key.long.toList ++ '=' :: text.toList).takeWhile (· != '=') = key.long.toList := by
    rw [List.takeWhile_append_of_pos key.ne_equals_of_mem_long]
    exact List.append_nil _
  have hdrop : (key.long.toList ++ '=' :: text.toList).dropWhile (· != '=')
      = '=' :: text.toList :=
    List.dropWhile_append_of_pos key.ne_equals_of_mem_long
  rw [readLong, htake, hdrop, String.ofList_toList, Key.ofLong?_eq_some_iff.2 rfl]
  dsimp only
  rw [String.ofList_toList]

/-- There is nothing else that can be read behind two minus signs. -/
theorem exists_name_of_readLong {body : List Char} (h : s.readLong body = .ok t) :
    ∃ key : Key, body = key.long.toList ∨
      ∃ text : String, body = key.long.toList ++ '=' :: text.toList := by
  unfold readLong at h
  dsimp only at h
  split at h
  · cases h
  · rename_i key hname
    have hlong : key.long.toList = body.takeWhile (· != '=') := by
      rw [Key.ofLong?_eq_some_iff.1 hname, String.toList_ofList]
    have hbody := List.takeWhile_append_dropWhile (p := (· != '=')) (l := body)
    have hequals := List.head?_dropWhile_not (· != '=') body
    rw [← hlong] at hbody
    refine ⟨key, ?_⟩
    cases hbehind : body.dropWhile (· != '=') with
    | nil =>
      rw [hbehind, List.append_nil] at hbody
      exact Or.inl hbody.symm
    | cons equals text =>
      rw [hbehind] at hequals hbody
      obtain rfl : equals = '=' := by simpa using hequals
      refine Or.inr ⟨.ofList text, ?_⟩
      rw [String.toList_ofList]
      exact hbody.symm

/-- What a letter stands for decides how the letters behind it are read. -/
theorem readShort_letter (s : Session) {key : Key} {letter : Char}
    (h : key.short? = some letter) (rest : List Char) :
    s.readShort (letter :: rest) = if key.takesValue then
      match rest with
      | [] => s.await key
      | '=' :: value => s.attach key (.ofList value)
      | value => s.attach key (.ofList value)
    else s.flag key >>= (·.readShort rest) := by
  rewrite [readShort, Key.ofShort?_eq_some_iff.2 h]
  rfl

/-- Letters without a value are given one after the other. -/
theorem readShort_flags (s : Session) (flags : List (Letter false)) (letters : List Char) :
    s.readShort (Letter.chars flags ++ letters)
      = s.giveAll (Letter.givens flags) >>= (·.readShort letters) := by
  induction flags generalizing s with
  | nil => rfl
  | cons flag flags ih =>
    show s.readShort (flag.char :: (Letter.chars flags ++ letters))
      = (s.flag flag.key.val >>= (·.giveAll (Letter.givens flags))) >>= (·.readShort letters)
    rw [readShort_letter s flag.isShort, if_neg (by rw [flag.key.property]; nofun), bind_assoc]
    simp only [ih]

/-- A letter at the end, whose value is the next argument. -/
theorem readShort_await (s : Session) (last : Letter true) :
    s.readShort [last.char] = s.await last.key.val := by
  rw [readShort_letter s last.isShort, if_pos last.key.property]

/-- A letter with its value behind an equals sign. -/
theorem readShort_equals (s : Session) (last : Letter true) (text : String) :
    s.readShort (last.char :: '=' :: text.toList) = s.attach last.key.val text := by
  rw [readShort_letter s last.isShort, if_pos last.key.property]
  show s.attach last.key.val (.ofList text.toList) = _
  rw [String.ofList_toList]

/-- A letter with its value joined to it. -/
theorem readShort_joined (s : Session) (last : Letter true) (text : Joined) :
    s.readShort (last.char :: text.val.toList) = s.attach last.key.val text.val := by
  rw [readShort_letter s last.isShort, if_pos last.key.property]
  -- the value is neither missing nor behind an equals sign
  split
  · rename_i h
    exact absurd h text.property.1
  · rename_i h
    exact absurd (by rw [h]; rfl) text.property.2
  · rw [String.ofList_toList]

/-- The letters in front of the one that has a value are flags: only how this one is read depends on
    how its value is attached. -/
theorem read_flags_value (hs : s.pending = none) (flags : List (Letter false))
    (last : Letter true) (text : String) {behind : List Char} {args rest : List String}
    (hlast : ∀ u : Session, u.pending = none →
      ((u.readShort (last.char :: behind) >>= (·.read args)) = .ok t ↔
        ∃ w, u.attach last.key.val text = .ok w ∧ w.read rest = .ok t)) :
    s.read (shortArg (Letter.chars flags ++ last.char :: behind) :: args) = .ok t ↔
      ∃ w, s.giveAll (Letter.givens flags ++ [.value last.key text]) = .ok w ∧
        w.read rest = .ok t := by
  have hread : s.read (shortArg (Letter.chars flags ++ last.char :: behind) :: args)
      = s.readShort (Letter.chars flags ++ last.char :: behind) >>= (·.read args) := by
    cases flags with
    | nil => exact read_shortArg s last.char_ne_minus _ args
    | cons flag flags => exact read_shortArg s flag.char_ne_minus _ args
  rw [hread, readShort_flags, bind_assoc, bind_eq_ok_iff]
  constructor
  · rintro ⟨u, hflags, h⟩
    obtain ⟨w, hattach, h⟩ := (hlast u (pending_of_giveAll hs hflags)).1 h
    -- nothing is pending behind the flags
    refine ⟨w, ?_, h⟩
    rw [giveAll_append, bind_eq_ok_iff]
    exact ⟨u, hflags, (giveAll_singleton u _).trans hattach⟩
  · rintro ⟨w, hgive, h⟩
    rw [giveAll_append, bind_eq_ok_iff] at hgive
    obtain ⟨u, hflags, hattach⟩ := hgive
    rw [giveAll_singleton] at hattach
    exact ⟨u, hflags, (hlast u (pending_of_giveAll hs hflags)).2 ⟨w, hattach, h⟩⟩

/-- **Reading a group** is giving its options. -/
theorem read_group (hs : s.pending = none) (group : Group) (rest : List String) :
    s.read (group.args ++ rest) = .ok t ↔
      ∃ u, s.giveAll group.givens = .ok u ∧ u.read rest = .ok t := by
  cases group with
  | long key =>
    rw [Group.args, Group.givens, List.singleton_append, read_longArg s key.val.long_ne_nil,
      readLong_name, if_neg (by rw [key.property]; nofun), giveAll_singleton, bind_eq_ok_iff]
    rfl
  | longEquals key text =>
    rw [Group.args, Group.givens, List.singleton_append,
      read_longArg s (List.append_ne_nil_of_left_ne_nil key.val.long_ne_nil _), readLong_equals,
      if_pos key.property, giveAll_singleton, bind_eq_ok_iff]
    rfl
  | longApart key text =>
    rw [Group.args, Group.givens, List.cons_append, List.singleton_append,
      read_longArg s key.val.long_ne_nil, readLong_name, if_pos key.property, giveAll_singleton]
    exact read_await_apart hs key.val text rest
  | short flags hsome =>
    have hflags := readShort_flags s flags []
    rw [List.append_nil] at hflags
    obtain ⟨flag, flags, rfl⟩ := List.exists_cons_of_ne_nil hsome
    have hread : s.read (shortArg (Letter.chars (flag :: flags)) :: rest)
        = s.readShort (Letter.chars (flag :: flags)) >>= (·.read rest) :=
      read_shortArg s flag.char_ne_minus _ rest
    rw [Group.args, Group.givens, List.singleton_append, hread, hflags, bind_assoc, bind_eq_ok_iff]
    rfl
  | shortEquals flags last text =>
    refine read_flags_value hs flags last text fun u _ => ?_
    rw [readShort_equals]
    exact bind_eq_ok_iff
  | shortJoined flags last text =>
    refine read_flags_value hs flags last text.val fun u _ => ?_
    rw [readShort_joined]
    exact bind_eq_ok_iff
  | shortApart flags last text =>
    refine read_flags_value hs flags last text.val fun u hu => ?_
    rw [readShort_await]
    exact read_await_apart hu last.key.val text rest

/-- **Reading a line** is giving its options, whatever their spelling. -/
theorem read_line (hs : s.pending = none) (line : Line) :
    s.read line.args = .ok t ↔ s.giveAll line.givens = .ok t := by
  obtain ⟨groups, closed⟩ := line
  induction groups generalizing s with
  | nil =>
    have hsettle : s.read (if closed then ["--"] else []) = .ok s := by
      rw [← settle_of_none hs]
      cases closed <;> rfl
    exact hsettle ▸ Iff.rfl
  | cons group groups ih =>
    show s.read (Line.cons group ⟨groups, closed⟩).args = .ok t ↔
      s.giveAll (Line.cons group ⟨groups, closed⟩).givens = .ok t
    rw [Line.args_cons, Line.givens_cons, read_group hs, giveAll_append, bind_eq_ok_iff]
    refine exists_congr fun u => and_congr_right fun hu => ?_
    exact ih (pending_of_giveAll hs hu)

/-! ## Finding the groups -/

/-- An argument is an option group, or with its value behind it will be one. -/
def Begins (arg : String) (t : Session) : Prop :=
  (t.pending = none ∧ ∃ group : Group, group.args = [arg]) ∨
    (t.Awaits ∧ ∀ text : Apart, ∃ group : Group, group.args = [arg, text.val])

/-- An option whose value has not come yet waits for it. -/
theorem awaits_of_await {key : Key} (h : s.await key = .ok t) : t.Awaits := by
  obtain ⟨settled, -, h⟩ := exists_of_bind_eq_ok h
  obtain rfl := Except.ok.inj h
  exact ⟨key, rfl⟩

/-- What is read behind two minus signs is a group, or is one with the value that it waits for. -/
theorem begins_of_readLong {body : List Char} (h : s.readLong body = .ok t) :
    Begins (longArg body) t := by
  obtain ⟨key, rfl | ⟨text, rfl⟩⟩ := exists_name_of_readLong h
  · rw [readLong_name] at h
    cases hvalue : key.takesValue with
    | true =>
      rw [if_pos hvalue] at h
      exact Or.inr ⟨awaits_of_await h, fun text => ⟨.longApart ⟨key, hvalue⟩ text, rfl⟩⟩
    | false =>
      rw [if_neg (by rw [hvalue]; nofun)] at h
      exact Or.inl ⟨pending_of_give (.flag ⟨key, hvalue⟩) h, .long ⟨key, hvalue⟩, rfl⟩
  · rw [readLong_equals] at h
    cases hvalue : key.takesValue with
    | true =>
      rw [if_pos hvalue] at h
      exact Or.inl ⟨pending_of_give (.value ⟨key, hvalue⟩ text) h,
        .longEquals ⟨key, hvalue⟩ text, rfl⟩
    | false =>
      rw [if_neg (by rw [hvalue]; nofun)] at h
      cases h

/-- By induction on the letters that are left, with the flags in front of them.  Where none are left
    there were flags, and they have been given. -/
theorem begins_of_readShort (flags : List (Letter false)) {letters : List Char}
    (hstart : letters = [] → flags ≠ [] ∧ s.pending = none) (h : s.readShort letters = .ok t) :
    Begins (shortArg (Letter.chars flags ++ letters)) t := by
  induction letters generalizing s flags with
  | nil =>
    -- the letters are used up, so the group consists of flags alone
    obtain ⟨hsome, hs⟩ := hstart rfl
    obtain rfl := Except.ok.inj h
    refine Or.inl ⟨hs, .short flags hsome, ?_⟩
    rw [List.append_nil]
    rfl
  | cons letter rest ih =>
    rw [readShort] at h
    split at h
    · cases h
    · rename_i key hname
      have hshort := Key.ofShort?_eq_some_iff.1 hname
      by_cases hvalue : key.takesValue = true
      · rw [if_pos hvalue] at h
        let last : Letter true := ⟨⟨key, hvalue⟩, letter, hshort⟩
        split at h
        · exact Or.inr ⟨awaits_of_await h, fun text => ⟨.shortApart flags last text, rfl⟩⟩
        · rename_i text
          refine Or.inl ⟨pending_of_give (.value last.key (.ofList text)) h,
            .shortEquals flags last (.ofList text), ?_⟩
          rw [Group.args, String.toList_ofList]
        · rename_i hsome hequals
          have hjoined : (String.ofList rest).toList ≠ [] ∧
              (String.ofList rest).toList.head? ≠ some '=' := by
            rw [String.toList_ofList]
            -- an equals sign in front would be the one between letter and value
            refine ⟨hsome, fun hhead => ?_⟩
            obtain ⟨text, htext⟩ := List.head?_eq_some_iff.1 hhead
            exact hequals text htext
          refine Or.inl ⟨pending_of_give (.value last.key (.ofList rest)) h,
            .shortJoined flags last ⟨.ofList rest, hjoined⟩, ?_⟩
          rw [Group.args, String.toList_ofList]
      · rw [if_neg hvalue] at h
        obtain ⟨next, hflag, h⟩ := exists_of_bind_eq_ok h
        let flag : Letter false := ⟨⟨key, Bool.not_eq_true _ ▸ hvalue⟩, letter, hshort⟩
        -- the flag joins those in front, and the letters behind it are read with nothing pending
        have hnext := pending_of_give (.flag flag.key) hflag
        have hbegins := ih (flags ++ [flag]) (fun _ => ⟨List.concat_ne_nil _ _, hnext⟩) h
        rw [Letter.chars, List.map_append, List.append_assoc] at hbegins
        exact hbegins

/-- A line behind an argument that begins a group is a line together with it. -/
theorem exists_line_of_begins {arg : String} {rest : List String} (h : Begins arg s)
    (hawaits : s.Awaits → ∃ (text : Apart) (line : Line), rest = text.val :: line.args)
    (hfree : ¬ s.Awaits → ∃ line : Line, rest = line.args) :
    ∃ line : Line, arg :: rest = line.args := by
  rcases h with ⟨hnone, group, hgroup⟩ | ⟨hs, hgroup⟩
  · obtain ⟨line, rfl⟩ := hfree (not_awaits_of_settle (settle_of_none hnone))
    refine ⟨line.cons group, ?_⟩
    rw [Line.args_cons, hgroup]
    rfl
  · obtain ⟨text, line, rfl⟩ := hawaits hs
    obtain ⟨group, hgroup⟩ := hgroup text
    refine ⟨line.cons group, ?_⟩
    rw [Line.args_cons, hgroup]
    rfl

/-- **Whatever is read without a fault is a line**, in front of which an option may still need its
    value. -/
theorem exists_line_of_read {args : List String} (h : s.read args = .ok t) :
    (s.Awaits → ∃ (text : Apart) (line : Line), args = text.val :: line.args) ∧
      (¬ s.Awaits → ∃ line : Line, args = line.args) := by
  induction args generalizing s with
  | nil => exact ⟨fun hs => absurd hs (not_awaits_of_settle h), fun _ => ⟨⟨[], false⟩, rfl⟩⟩
  | cons arg rest ih =>
    cases word arg with
    | ending =>
      -- two minus signs end a line that may be empty
      rw [read_ending] at h
      cases rest with
      | nil => exact ⟨fun hs => absurd hs (not_awaits_of_settle h), fun _ => ⟨⟨[], true⟩, rfl⟩⟩
      | cons arg rest => exact nomatch h
    | long hbody =>
      rw [read_longArg s hbody] at h
      obtain ⟨next, hlong, h⟩ := exists_of_bind_eq_ok h
      obtain ⟨u, hu, -⟩ := (settlesFirst_readLong _ s next).1 hlong
      refine ⟨fun hs => absurd hs (not_awaits_of_settle hu), fun _ => ?_⟩
      exact exists_line_of_begins (begins_of_readLong hlong) (ih h).1 (ih h).2
    | short hletter =>
      rw [read_shortArg s hletter] at h
      obtain ⟨next, hshort, h⟩ := exists_of_bind_eq_ok h
      obtain ⟨u, hu, -⟩ := (settlesFirst_readShort _ _ s next).1 hshort
      refine ⟨fun hs => absurd hs (not_awaits_of_settle hu), fun _ => ?_⟩
      exact exists_line_of_begins (begins_of_readShort [] nofun hshort) (ih h).1 (ih h).2
    | apart text =>
      -- it is the value of the option that waits, and the line goes on behind it
      rw [read_apart] at h
      split at h
      · rename_i key hkey
        obtain ⟨line, rfl⟩ := (ih h).2 fun ⟨_, h⟩ => nomatch h
        exact ⟨fun _ => ⟨text, line, rfl⟩, fun hs => absurd ⟨key, hkey⟩ hs⟩
      · exact nomatch h

end Session

end CommandLine

end LedAnimation
