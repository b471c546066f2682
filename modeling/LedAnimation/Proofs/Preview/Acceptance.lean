/-
  What makes a command line accepted, and what it stands for.

  The order of the options and their spelling do not enter into either.  A line is accepted if every
  value can be read and nobody asks for help (`Given.setting?`), no option but `-v` is given twice,
  and the options go together (`Acceptable`).  The settings it stands for are those of its options,
  one upon the other (`Options.ofGivens`).

  * `parse_eq_ok_iff` — accepted lines and their settings, told without the reader;
  * `set_ofGivens`    — each option that is given is found in the settings;
  * `parse_of_perm`   — as no two options set the same, neither their order nor their spelling can
    be told from the result.
-/
import LedAnimation.Proofs.Preview.Spelling
import Mathlib.Data.List.Nodup

namespace LedAnimation

namespace CommandLine

/-! ## Settings -/

/-- What an option sets, once its value is read. -/
inductive Setting where
  | frames (source : String)
  | fps (rate : Nat)
  | brightness (share : Binary32)
  | mirrored
  | overlay (source : String)
  | underlay (source : String)
  | gamma (exponent : Binary32)
  | noGamma
  | seed (word : UInt64)
  | thunder
  | duration (seconds : UInt64)
  | list
  | verbose
  deriving DecidableEq

/-- The option that sets it. -/
def Setting.key : Setting → Key
  | .frames _ => .frames
  | .fps _ => .fps
  | .brightness _ => .brightness
  | .mirrored => .mirrored
  | .overlay _ => .overlay
  | .underlay _ => .underlay
  | .gamma _ => .gamma
  | .noGamma => .noGamma
  | .seed _ => .seed
  | .thunder => .thunder
  | .duration _ => .duration
  | .list => .list
  | .verbose => .verbose

/-- Only `-v` is counted. -/
theorem Setting.eq_verbose {c : Setting} (h : c.key = .verbose) : c = .verbose := by
  cases c <;> simp only [key, reduceCtorEq] at h
  rfl

/-- The settings with one of them set. -/
def Options.set (o : Options) : Setting → Options
  | .frames source => { o with frames := some source }
  | .fps rate => { o with fps := rate }
  | .brightness share => { o with brightness := share }
  | .mirrored => { o with mirrored := true }
  | .overlay source => { o with overlay := some source }
  | .underlay source => { o with underlay := some source }
  | .gamma exponent => { o with gamma := some exponent }
  | .noGamma => { o with noGamma := true }
  | .seed word => { o with seed := some word }
  | .thunder => { o with thunder := true }
  | .duration seconds => { o with duration := some seconds }
  | .list => { o with list := true }
  | .verbose => { o with verbosity := min 255 (o.verbosity + 1) }

/-- What an option that is given sets.  A value that cannot be read sets nothing, and neither does
    asking for help or for the version. -/
def Given.setting? : Given → Option Setting
  | .value key text =>
    match key.val with
    | .frames => some (.frames text)
    | .overlay => some (.overlay text)
    | .underlay => some (.underlay text)
    | .fps => (readRate? text).map .fps
    | .brightness => (Binary32.read? text).map .brightness
    | .gamma => (Binary32.read? text).map .gamma
    | .seed => (readWord? text).map .seed
    | .duration => (readWord? text).map .duration
    | _ => none
  | .flag key =>
    match key.val with
    | .mirrored => some .mirrored
    | .noGamma => some .noGamma
    | .thunder => some .thunder
    | .list => some .list
    | .verbose => some .verbose
    | _ => none

/-- What an option sets is its own setting. -/
theorem Given.key_setting? {given : Given} {c : Setting} (h : given.setting? = some c) :
    c.key = given.key := by
  rcases given with ⟨key, hkey⟩ | ⟨⟨key, hkey⟩, text⟩
  · cases key <;>
      simp only [setting?, Option.some.injEq, reduceCtorEq] at h <;> subst h <;> rfl
  · cases key <;>
      simp only [setting?, Option.some.injEq, Option.map_eq_some_iff, reduceCtorEq] at h
    case frames | overlay | underlay =>
      subst h
      rfl
    all_goals
      obtain ⟨value, -, rfl⟩ := h
      rfl

/-- The settings after a value, told by what the value sets. -/
theorem Options.store?_eq (o : Options) (key : Key.Of true) (text : String) :
    o.store? key.val text = (Given.value key text).setting?.map o.set := by
  obtain ⟨key, hkey⟩ := key
  cases key <;> simp [store?, Given.setting?, Function.comp_def, set]

/-- Settings of different options do not get in each other's way. -/
theorem Options.set_comm (o : Options) {c d : Setting} (h : c.key ≠ d.key) :
    (o.set c).set d = (o.set d).set c := by
  cases c <;> cases d <;>
    simp only [Setting.key, ne_eq, not_true_eq_false, reduceCtorEq, not_false_eq_true] at h <;> rfl

/-- To set something once more makes no difference, but for what is counted. -/
theorem Options.set_set (o : Options) {c : Setting} (h : c.key ≠ .verbose) :
    (o.set c).set c = o.set c := by
  cases c
  case verbose => exact absurd rfl h
  all_goals rfl

/-- What the options of a line set, from left to right. -/
def settings (givens : List Given) : List Setting := givens.filterMap Given.setting?

theorem settings_cons {given : Given} {c : Setting} (h : given.setting? = some c)
    (rest : List Given) : settings (given :: rest) = c :: settings rest :=
  List.filterMap_cons_some h

theorem mem_settings_iff {givens : List Given} {c : Setting} :
    c ∈ settings givens ↔ ∃ given ∈ givens, given.setting? = some c :=
  List.mem_filterMap

/-- The settings a line stands for. -/
def Options.ofGivens (givens : List Given) : Options := (settings givens).foldl Options.set {}

/-- The options that a line must not give again. -/
def once (givens : List Given) : List Key :=
  (givens.filter (·.key != .verbose)).map Given.key

/-- But for `-v`, the options that must not be given again are all that are given. -/
theorem mem_once_iff {givens : List Given} {key : Key} (h : key ≠ .verbose) :
    key ∈ once givens ↔ key ∈ givens.map Given.key := by
  simp only [once, List.mem_map, List.mem_filter, bne_iff_ne]
  constructor
  · rintro ⟨given, ⟨hmem, -⟩, rfl⟩
    exact ⟨given, hmem, rfl⟩
  · rintro ⟨given, hmem, rfl⟩
    exact ⟨given, ⟨hmem, h⟩, rfl⟩

/-- The option `-v` may be given again. -/
theorem once_of_verbose {given : Given} (h : given.key = .verbose) : once [given] = [] := by
  simp [once, h]

theorem once_of_ne {given : Given} (h : given.key ≠ .verbose) : once [given] = [given.key] := by
  simp [once, h]

/-- The reader keeps the options in the opposite order, the one given last in front. -/
theorem reverse_once_cons (given : Given) (rest : List Given) :
    (once (given :: rest)).reverse = (once rest).reverse ++ once [given] := by
  by_cases h : given.key = .verbose
  · simp [once, h]
  · simp [once, h]

/-- What a line has to be like so that it is accepted. -/
structure Acceptable (givens : List Given) : Prop where
  /-- Each option sets something, -/
  readable : ∀ given ∈ givens, given.setting?.isSome = true
  /-- none but `-v` is given twice, -/
  single : (once givens).Nodup
  /-- a gamma does not stand beside its opposite, -/
  exclusive : ¬ (.gamma ∈ givens.map Given.key ∧ .noGamma ∈ givens.map Given.key)
  /-- and there is something to do. -/
  something : .frames ∈ givens.map Given.key ∨ .list ∈ givens.map Given.key

/-! ## Accepted lines -/

namespace Session

variable {t : Session} {o : Options} {earlier : List Key} {given : Given}

/-- An option that sets nothing cannot be given. -/
theorem give_of_none (h : given.setting? = none) : give ⟨o, earlier, none⟩ given ≠ .ok t := by
  intro hgive
  cases given with
  | value key text =>
    obtain ⟨noted, -, hgive⟩ := exists_of_bind_eq_ok (x := note ⟨o, earlier, none⟩ key.val) hgive
    rw [Options.store?_eq, h] at hgive
    -- the reader refuses the value for the same reason for which it sets nothing
    cases hgive
  | flag key =>
    obtain ⟨key, hflag⟩ := key
    cases key
    -- help and the version are faults of their own, and the other flags set something
    case help | version => cases hgive
    case mirrored | noGamma | thunder | list | verbose => cases h
    all_goals cases hflag

/-- But for `-v`, an option has to be noted. -/
theorem give_of_some {c : Setting} (h : given.setting? = some c) (hkey : given.key ≠ .verbose) :
    give ⟨o, earlier, none⟩ given = note ⟨o, earlier, none⟩ given.key >>= fun s =>
      .ok { s with options := s.options.set c } := by
  cases given with
  | value key text =>
    show note ⟨o, earlier, none⟩ key.val >>= _ = _
    simp only [Options.store?_eq, h]
    rfl
  | flag key =>
    obtain ⟨key, hflag⟩ := key
    cases key <;> simp only [Given.setting?, Option.some.injEq, reduceCtorEq] at h <;> subst h
    case verbose => exact absurd rfl hkey
    all_goals rfl

/-- The option `-v` needs no note, and can always be given. -/
theorem give_of_verbose (hkey : given.key = .verbose) :
    given.setting? = some .verbose ∧
      give ⟨o, earlier, none⟩ given = .ok ⟨o.set .verbose, earlier, none⟩ := by
  rcases given with ⟨key, hflag⟩ | ⟨⟨key, hvalue⟩, text⟩
  · obtain rfl : key = .verbose := hkey
    exact ⟨rfl, rfl⟩
  · obtain rfl : key = .verbose := hkey
    cases hvalue

/-- **Giving an option** sets what it sets, if it has not been given before. -/
theorem give_eq_ok_iff (hearlier : earlier.Nodup) :
    give ⟨o, earlier, none⟩ given = .ok t ↔
      ∃ c, given.setting? = some c ∧ (once [given] ++ earlier).Nodup ∧
        t = ⟨o.set c, once [given] ++ earlier, none⟩ := by
  by_cases hkey : given.key = .verbose
  · obtain ⟨hset, hgive⟩ := give_of_verbose hkey
    rw [hgive, hset, once_of_verbose hkey, List.nil_append]
    constructor
    · intro h
      obtain rfl := Except.ok.inj h
      exact ⟨.verbose, rfl, hearlier, rfl⟩
    · rintro ⟨c, hc, -, rfl⟩
      obtain rfl := Option.some.inj hc
      -- the option has to be new, and what it sets has to be readable
      rfl
  · rw [once_of_ne hkey, List.singleton_append, List.nodup_cons]
    cases hset : given.setting? with
    | none => exact iff_of_false (give_of_none hset) fun ⟨_, h, _⟩ => nomatch h
    | some c =>
      rw [give_of_some hset hkey, bind_eq_ok_iff]
      constructor
      · rintro ⟨noted, hnote, h⟩
        obtain ⟨hfresh, rfl⟩ := note_eq_ok_iff.1 hnote
        obtain rfl := Except.ok.inj h
        exact ⟨c, rfl, ⟨hfresh, hearlier⟩, rfl⟩
      · rintro ⟨d, hd, ⟨hfresh, -⟩, rfl⟩
        obtain rfl := Option.some.inj hd
        exact ⟨_, note_eq_ok_iff.2 ⟨hfresh, rfl⟩, rfl⟩

/-- **Giving options**, by induction on them: what the first of them leaves behind is what the
    others begin with. -/
theorem giveAll_eq_ok_iff (hearlier : earlier.Nodup) (givens : List Given) :
    giveAll ⟨o, earlier, none⟩ givens = .ok t ↔
      (∀ given ∈ givens, given.setting?.isSome = true) ∧
        ((once givens).reverse ++ earlier).Nodup ∧
          t = ⟨(settings givens).foldl Options.set o, (once givens).reverse ++ earlier, none⟩ := by
  induction givens generalizing o earlier with
  | nil =>
    constructor
    · intro h
      obtain rfl := Except.ok.inj h
      exact ⟨nofun, hearlier, rfl⟩
    · rintro ⟨-, -, rfl⟩
      rfl
  | cons given rest ih =>
    rw [reverse_once_cons, List.append_assoc, List.forall_mem_cons]
    constructor
    · intro h
      obtain ⟨next, hgive, h⟩ := exists_of_bind_eq_ok h
      obtain ⟨c, hset, hnext, rfl⟩ := (give_eq_ok_iff hearlier).1 hgive
      obtain ⟨hreadable, hnodup, rfl⟩ := (ih hnext).1 h
      refine ⟨⟨by rw [hset]; rfl, hreadable⟩, hnodup, ?_⟩
      rw [settings_cons hset]
      rfl
    · rintro ⟨⟨hset, hreadable⟩, hnodup, rfl⟩
      obtain ⟨c, hset⟩ := Option.isSome_iff_exists.1 hset
      -- the options in front of the others are not given again if none of all is
      have hnext : (once [given] ++ earlier).Nodup := (List.nodup_append'.1 hnodup).2.1
      refine bind_eq_ok_iff.2 ⟨_, (give_eq_ok_iff hearlier).2 ⟨c, hset, hnext, rfl⟩, ?_⟩
      refine (ih hnext).2 ⟨hreadable, hnodup, ?_⟩
      rw [settings_cons hset]
      rfl

end Session

/-- Accepted arguments consist of option groups. -/
theorem exists_line_of_parse {args : List String} {options : Options}
    (h : parse args = .ok options) : ∃ line : Line, line.args = args := by
  obtain ⟨s, hread, -⟩ := parse_eq_ok_iff_read.1 h
  obtain ⟨line, rfl⟩ := (Session.exists_line_of_read hread).2 fun ⟨_, h⟩ => nomatch h
  exact ⟨line, rfl⟩

/-- **Accepted lines and what they stand for**, told without the reader. -/
theorem parse_eq_ok_iff {line : Line} {options : Options} :
    parse line.args = .ok options ↔
      Acceptable line.givens ∧ options = .ofGivens line.givens := by
  have hread : ∀ s : Session, Session.fresh.read line.args = .ok s ↔
      (∀ given ∈ line.givens, given.setting?.isSome = true) ∧ (once line.givens).Nodup ∧
        s = ⟨.ofGivens line.givens, (once line.givens).reverse, none⟩ := by
    intro s
    rw [Session.read_line rfl, Session.fresh, Session.giveAll_eq_ok_iff List.nodup_nil,
      List.append_nil, List.nodup_reverse]
    rfl
  -- `-v` is in neither list that the last look goes by
  have hmem : ∀ key, key ≠ .verbose →
      (key ∈ (once line.givens).reverse ↔ key ∈ line.givens.map Given.key) := fun key hkey =>
    List.mem_reverse.trans (mem_once_iff hkey)
  rw [parse_eq_ok_iff_read]
  constructor
  · rintro ⟨s, hs, hexclusive, hsomething, rfl⟩
    obtain ⟨hreadable, hsingle, rfl⟩ := (hread s).1 hs
    refine ⟨⟨hreadable, hsingle, ?_, ?_⟩, rfl⟩
    · rw [← hmem .gamma nofun, ← hmem .noGamma nofun]
      exact hexclusive
    · rw [← hmem .frames nofun, ← hmem .list nofun]
      exact hsomething
  · rintro ⟨hline, rfl⟩
    refine ⟨_, (hread _).2 ⟨hline.readable, hline.single, rfl⟩, ?_, ?_, rfl⟩
    · rw [hmem .gamma nofun, hmem .noGamma nofun]
      exact hline.exclusive
    · rw [hmem .frames nofun, hmem .list nofun]
      exact hline.something

/-! ## The order of the options -/

/-- A list of options is accepted or not whatever their order. -/
theorem Acceptable.perm {givens others : List Given} (h : Acceptable givens)
    (hperm : others.Perm givens) : Acceptable others := by
  have hkeys : ∀ key, key ∈ others.map Given.key ↔ key ∈ givens.map Given.key :=
    fun key => (hperm.map Given.key).mem_iff
  constructor
  case readable =>
    intro given hmem
    exact h.readable given (hperm.mem_iff.1 hmem)
  case single => exact (((hperm.filter _).map Given.key).nodup_iff).2 h.single
  case exclusive =>
    rw [hkeys, hkeys]
    exact h.exclusive
  case something =>
    rw [hkeys, hkeys]
    exact h.something

/-- Where no option is given twice, no two settings get in each other's way. -/
theorem Acceptable.set_comm {givens : List Given} (h : Acceptable givens) {c d : Setting}
    (hc : c ∈ settings givens) (hd : d ∈ settings givens) (o : Options) :
    (o.set c).set d = (o.set d).set c := by
  -- two settings of one option are the same one: it is given only once, or it is `-v`
  by_cases hkeys : c.key = d.key
  · obtain ⟨given, hgiven, hc⟩ := mem_settings_iff.1 hc
    obtain ⟨other, hother, hd⟩ := mem_settings_iff.1 hd
    by_cases hverbose : c.key = .verbose
    · rw [Setting.eq_verbose hverbose, Setting.eq_verbose (hkeys.symm.trans hverbose)]
    · rw [Given.key_setting? hc] at hkeys hverbose
      rw [Given.key_setting? hd] at hkeys
      have hsame : given = other :=
        List.inj_on_of_nodup_map h.single (List.mem_filter.2 ⟨hgiven, bne_iff_ne.2 hverbose⟩)
          (List.mem_filter.2 ⟨hother, bne_iff_ne.2 (hkeys ▸ hverbose)⟩) hkeys
      obtain rfl := Option.some.inj (hc.symm.trans (hsame ▸ hd))
      rfl
  · exact o.set_comm hkeys

/-- **The order of the options cannot be told from the settings.** -/
theorem Acceptable.ofGivens_perm {givens others : List Given} (h : Acceptable givens)
    (hperm : others.Perm givens) : Options.ofGivens others = .ofGivens givens := by
  have hsettings : (settings givens).Perm (settings others) := hperm.symm.filterMap Given.setting?
  refine (hsettings.foldl_eq' ?_ _).symm
  intro c hc d hd o
  exact h.set_comm hc hd o

/-- **Each option that is given is found in the settings**: to set it once more makes no
    difference. -/
theorem Acceptable.set_ofGivens {givens : List Given} (h : Acceptable givens) {given : Given}
    {c : Setting} (hmem : given ∈ givens) (hset : given.setting? = some c)
    (hkey : c.key ≠ .verbose) : (Options.ofGivens givens).set c = .ofGivens givens := by
  -- the option can be moved to the end of the line, where its setting is the last one
  obtain ⟨before, behind, rfl⟩ := List.append_of_mem hmem
  have hperm : (before ++ behind ++ [given]).Perm (before ++ given :: behind) :=
    (List.perm_append_singleton ..).trans List.perm_middle.symm
  rw [← h.ofGivens_perm hperm, Options.ofGivens, settings, List.filterMap_append,
    List.filterMap_cons_some hset, List.foldl_append]
  exact Options.set_set _ hkey

/-- What only one option sets is as it was, where that option is not given. -/
theorem view_ofGivens {α : Type} {view : Options → α} {key : Key}
    (hview : ∀ (c : Setting) (o : Options), c.key ≠ key → view (o.set c) = view o)
    {givens : List Given} (h : key ∉ givens.map Given.key) :
    view (.ofGivens givens) = view {} := by
  refine List.foldlRecOn (motive := fun o => view o = view {}) _ _ rfl ?_
  intro o ho c hc
  obtain ⟨given, hmem, hset⟩ := mem_settings_iff.1 hc
  have hkey : c.key ≠ key := by
    rintro rfl
    exact h (List.mem_map.2 ⟨given, hmem, (Given.key_setting? hset).symm⟩)
  exact (hview c o hkey).trans ho

/-- **Lines that give the same options stand for the same settings**, in whatever order and spelling
    they give them. -/
theorem parse_of_perm {line other : Line} {options : Options}
    (h : parse line.args = .ok options) (hperm : other.givens.Perm line.givens) :
    parse other.args = .ok options := by
  obtain ⟨hline, rfl⟩ := parse_eq_ok_iff.1 h
  exact parse_eq_ok_iff.2 ⟨hline.perm hperm, (hline.ofGivens_perm hperm).symm⟩

example : parse ["-vf", "rain", "--fps=3", "-v"] = parse ["--fps", "3", "-vvf=rain"] := rfl

/-! ## Gamma -/

/-- A gamma that is given is the one that is set. -/
theorem Acceptable.gamma_ofGivens {givens : List Given} (h : Acceptable givens) {text : String}
    (hmem : .value ⟨.gamma, rfl⟩ text ∈ givens) :
    ∃ exponent, Binary32.read? text = some exponent ∧
      (Options.ofGivens givens).gamma = some exponent := by
  obtain ⟨c, hset⟩ := Option.isSome_iff_exists.1 (h.readable _ hmem)
  obtain ⟨exponent, hread, rfl⟩ := Option.map_eq_some_iff.1 hset
  refine ⟨exponent, hread, ?_⟩
  rw [← h.set_ofGivens hmem hset nofun]
  rfl

/-- Only `--gamma` sets the gamma. -/
theorem Options.gamma_set (c : Setting) (o : Options) (h : c.key ≠ .gamma) :
    (o.set c).gamma = o.gamma := by
  cases c
  case gamma => exact absurd rfl h
  all_goals rfl

/-- Only `--no-gamma` sets that there is none. -/
theorem Options.noGamma_set (c : Setting) (o : Options) (h : c.key ≠ .noGamma) :
    (o.set c).noGamma = o.noGamma := by
  cases c
  case noGamma => exact absurd rfl h
  all_goals rfl

/-- A gamma that is set has been given, and its opposite has not. -/
theorem Acceptable.noGamma_ofGivens {givens : List Given} (h : Acceptable givens)
    {exponent : Binary32} (hgamma : (Options.ofGivens givens).gamma = some exponent) :
    (Options.ofGivens givens).noGamma = false := by
  have hgiven : .gamma ∈ givens.map Given.key := by
    by_contra hmem
    have hnone : (Options.ofGivens givens).gamma = none := view_ofGivens Options.gamma_set hmem
    rw [hgamma] at hnone
    exact nomatch hnone
  exact view_ofGivens Options.noGamma_set fun hmem => h.exclusive ⟨hgiven, hmem⟩

end CommandLine

end LedAnimation
