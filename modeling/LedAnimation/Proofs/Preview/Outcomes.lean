/-
  What accepted arguments lead to, before anything is played.

  Five things can keep the program from playing, and the first of them ends it: the frames, the
  overlay and the underlay, each of which may not lead to a script, the frame rate, and the
  brightness (`failures`, `firstFailure?`).  The program looks at them in three places: `load` at a
  source, `prepare` at the sources one after the other, and `Effect.start` at the setup.

  * `value_load`     — a source as it is loaded, told by `sourceFailure?` and `scriptOf`;
  * `value_prepare`  — the sources and the setup;
  * `value_outcome`  — the whole way, from the arguments on.

  The checks of scripts never have anything to say here: the built-in scripts pass theirs
  (`Catalog.build?_eq`, `Thunder.make_eq`), and whatever is loaded has something to show
  (`isEmpty_scriptOf`).
-/
import LedAnimation.Preview.Program
import LedAnimation.Proofs.Preview.Arguments
import LedAnimation.Proofs.Sprites

namespace LedAnimation

/-! ## Built-in scripts -/

namespace Catalog

/-- A script is found if, and only if, its name is one of the names. -/
theorem find?_eq_none_iff (name : String) : find? name = none ↔ name ∉ names := by
  rw [find?, List.lookup_eq_none_iff, names, List.mem_map]
  constructor
  · rintro hnone ⟨entry, hmem, rfl⟩
    simpa using hnone entry hmem
  · intro hname entry hmem
    rw [bne_iff_ne]
    rintro rfl
    exact hname ⟨entry, hmem, rfl⟩

/-- The check lets every built-in script through. -/
theorem build?_eq (name : String) : build? name = (find? name).map .ok := by
  rw [build?]
  congr 1
  funext script
  exact Script.ofEntries_eq_ok_iff.2 rfl

/-- Every built-in script has something to show. -/
theorem isEmpty_of_mem : ∀ entry ∈ all, entry.2.isEmpty = false := by decide

/-- What is found stands in the table, -/
theorem mem_all_of_find? {name : String} {script : Script leds} (h : find? name = some script) :
    (name, script) ∈ all := by
  obtain ⟨before, behind, hall, -⟩ := List.lookup_eq_some_iff.1 h
  rw [hall]
  exact List.mem_append_right _ List.mem_cons_self

/-- and so does its name. -/
theorem mem_names_of_find? {name : String} {script : Script leds} (h : find? name = some script) :
    name ∈ names :=
  List.mem_map.2 ⟨(name, script), mem_all_of_find? h, rfl⟩

end Catalog

/-- The check lets the flash through. -/
theorem Thunder.make_eq : make = .ok hook := by
  have hflash : Script.ofEntries Catalog.thunderFlash.entries = .ok Catalog.thunderFlash :=
    Script.ofEntries_eq_ok_iff.2 rfl
  rw [make, hflash]
  rfl

namespace Preview

/-! ## Sources -/

/-- A source leads to a script: it is the name of one, or opens as an image that fits the strip. -/
def Gallery.Loads (gallery : Gallery) (source : String) : Prop :=
  source ∈ Catalog.names ∨
    ∃ image, gallery source = some (.ok image) ∧
      Sprite.Fits Catalog.leds image.width image.height

/-- Why a source leads to no script. -/
def sourceFailure? (gallery : Gallery) (source : String) : Option Failure :=
  if source ∈ Catalog.names then none
  else
    match gallery source with
    | none => some (.unknown source)
    | some (.error words) => some (.unreadable source words)
    | some (.ok image) =>
      match Sprite.layout Catalog.leds image.width image.height with
      | .error fault => some (.shapeless source fault)
      | .ok _ => none

/-- The script that a source leads to. -/
def scriptOf (gallery : Gallery) (gamma : Option GammaTable) (source : String) :
    Script Catalog.leds :=
  match Catalog.find? source with
  | some script => script
  | none =>
    match gallery source with
    | some (.ok image) =>
      match Sprite.layout Catalog.leds image.width image.height with
      | .ok way => .ofFrames (Sprite.cutouts Catalog.leds image gamma way)
      | .error _ => .empty
    | _ => .empty

variable {gallery : Gallery} {gamma : Option GammaTable} {source : String}

/-- Nothing is wrong with a source if, and only if, it leads to a script. -/
theorem sourceFailure?_eq_none_iff :
    sourceFailure? gallery source = none ↔ gallery.Loads source := by
  unfold sourceFailure? Gallery.Loads
  by_cases hname : source ∈ Catalog.names
  · rw [if_pos hname]
    exact iff_of_true rfl (Or.inl hname)
  · rw [if_neg hname, or_iff_right hname]
    rcases gallery source with - | words | image
    · simp
    · simp
    · -- the image that opens is the only one that counts
      simp only [Option.some.injEq, Except.ok.injEq, exists_eq_left']
      cases hlayout : Sprite.layout Catalog.leds image.width image.height with
      | error fault =>
        refine iff_of_false (fun h => nomatch h) fun hfits => ?_
        rw [Sprite.layout_of_fits hfits] at hlayout
        exact nomatch hlayout
      | ok way => exact iff_of_true rfl (Sprite.layout_eq_ok_iff.1 hlayout).1

/-- **A source as it is loaded.**  Nothing is written on the way. -/
theorem value_load (gallery : Gallery) (gamma : Option GammaTable) (source written : String) :
    ((load gallery gamma source).run written).value
      = (match sourceFailure? gallery source with
        | some failure => .error failure
        | none => .ok (scriptOf gallery gamma source), written) := by
  unfold load sourceFailure? scriptOf
  rw [Catalog.build?_eq]
  cases hname : Catalog.find? source with
  | some script =>
    -- a name of a built-in script is never looked for among the images
    rw [if_pos (Catalog.mem_names_of_find? hname)]
    rfl
  | none =>
    rw [if_neg ((Catalog.find?_eq_none_iff source).1 hname)]
    dsimp only [Option.map_none]
    rcases gallery source with - | words | image
    · rfl
    · rfl
    · -- an image that opens is laid out, and loaded if that goes well
      dsimp only
      rw [Console.value_bind, Console.value_lift, Sprite.value_script, Sprite.value_decode]
      cases Sprite.layout Catalog.leds image.width image.height <;> rfl

/-- **What is loaded has something to show.** -/
theorem isEmpty_scriptOf (h : sourceFailure? gallery source = none) :
    (scriptOf gallery gamma source).isEmpty = false := by
  unfold scriptOf
  cases hname : Catalog.find? source with
  | some script => exact Catalog.isEmpty_of_mem _ (Catalog.mem_all_of_find? hname)
  | none =>
    rcases sourceFailure?_eq_none_iff.1 h with hmem | ⟨image, himage, hfits⟩
    · exact absurd hmem ((Catalog.find?_eq_none_iff source).1 hname)
    · -- an image that fits has a cutout for each of its parts, and there is one at least
      have hlayout := Sprite.layout_of_fits hfits
      rw [himage]
      dsimp only
      rw [hlayout]
      exact Sprite.isEmpty_cutouts gamma hlayout

/-- A source that is not given cannot fail. -/
theorem value_loadOptional (gallery : Gallery) (gamma : Option GammaTable)
    (source : Option String) (written : String) :
    ((loadOptional gallery gamma source).run written).value
      = (match source.bind (sourceFailure? gallery) with
        | some failure => .error failure
        | none => .ok (source.map (scriptOf gallery gamma)), written) := by
  cases source with
  | none => rfl
  | some source =>
    unfold loadOptional
    rw [Console.value_bind, value_load, Option.bind_some]
    cases sourceFailure? gallery source <;> rfl

/-! ## Outcomes -/

/-- No brightness: not a number, or not one of `0.0..=1.0`. -/
abbrev NoBrightness (x : Binary32) : Prop :=
  x.isNaN ∨ ¬ (Binary32.zero.le x ∧ x.le Binary32.one)

/-- What can keep an effect from being set up, in the order in which it is looked at. -/
def setupFailures (options : CommandLine.Options) : List (Option Failure) :=
  [if options.fps = 0 then some (.effect (.config .invalidFps)) else none,
    if NoBrightness options.brightness then
      some (.effect (.config (.invalidBrightness options.brightness)))
    else none]

/-- All that can keep the program from playing, in the order in which it is looked at. -/
def failures (gallery : Gallery) (options : CommandLine.Options) (source : String) :
    List (Option Failure) :=
  sourceFailure? gallery source :: options.overlay.bind (sourceFailure? gallery) ::
    options.underlay.bind (sourceFailure? gallery) :: setupFailures options

/-- The first of them. -/
def firstFailure? (gallery : Gallery) (options : CommandLine.Options) (source : String) :
    Option Failure :=
  (failures gallery options source).findSome? id

/-- The effect that is asked for. -/
def asked (gallery : Gallery) (options : CommandLine.Options) (source : String)
    (entropy : UInt64) : Effect Unit Catalog.leds :=
  let script := scriptOf gallery (gammaTable options)
  let setup := config options (options.overlay.map script) (options.underlay.map script)
  let effect := Effect.started (script source) setup entropy
  if options.thunder then effect.withHook Thunder.hook () else effect

/-- The flash passes its check, so thunder can always be added. -/
theorem addThunder_eq (options : CommandLine.Options) (effect : Effect Unit Catalog.leds) :
    addThunder options effect
      = .ok (if options.thunder then effect.withHook Thunder.hook () else effect) := by
  rw [addThunder, Thunder.make_eq]
  by_cases hthunder : options.thunder = true
  · rw [if_pos hthunder, if_pos hthunder]
  · rw [if_neg hthunder, if_neg hthunder]

/-- The failures of the setup are those that its own check finds, in the same order. -/
theorem findSome?_setupFailures (options : CommandLine.Options)
    (overlay underlay : Option (Script Catalog.leds)) :
    (setupFailures options).findSome? id
      = (config options overlay underlay).fault?.map fun fault => .effect (.config fault) := by
  show _ = (if options.fps = 0 then some ConfigError.invalidFps
    else brightnessFault? options.brightness).map _
  rw [setupFailures, List.findSome?_cons, List.findSome?_singleton, brightnessFault?]
  by_cases hfps : options.fps = 0
  · rw [if_pos hfps, if_pos hfps]
    rfl
  · rw [if_neg hfps, if_neg hfps]
    dsimp only [id]
    by_cases hshare : options.brightness.isShare = true
    · rw [if_pos hshare, if_neg ((Binary32.isShare_iff _).1 hshare)]
      rfl
    · rw [if_neg hshare,
        if_pos (Classical.not_not.1 fun h => hshare ((Binary32.isShare_iff _).2 h))]
      rfl

/-- **The sources and the setup**: every look at something is one step along the list of
    failures. -/
theorem value_prepare (gallery : Gallery) (options : CommandLine.Options) (source : String)
    (entropy : UInt64) (written : String) :
    ((prepare gallery options source entropy).run written).value
      = (match firstFailure? gallery options source with
        | some failure => .error failure
        | none => .ok (asked gallery options source entropy), written) := by
  unfold prepare
  -- one look after the other: where it finds something the program ends, and so does the list
  dsimp only
  rw [Console.value_bind, value_load, firstFailure?, failures, List.findSome?_cons]
  cases hframes : sourceFailure? gallery source with
  | some failure => rfl
  | none =>
    dsimp only [id]
    rw [Console.value_bind, value_loadOptional, List.findSome?_cons]
    cases hoverlay : options.overlay.bind (sourceFailure? gallery) with
    | some failure => rfl
    | none =>
      dsimp only [id]
      rw [Console.value_bind, value_loadOptional, List.findSome?_cons]
      cases hunderlay : options.underlay.bind (sourceFailure? gallery) with
      | some failure => rfl
      | none =>
        dsimp only [id]
        -- there are scripts for all sources, and the base is not empty: only the setup is left
        let script := scriptOf gallery (gammaTable options)
        rw [Console.value_bind, Console.value_lift, Effect.value_start, isEmpty_scriptOf hframes,
          findSome?_setupFailures options (options.overlay.map script)
            (options.underlay.map script)]
        cases (config options (options.overlay.map script)
            (options.underlay.map script)).fault? with
        | some fault => rfl
        | none => exact congrArg (·, written) (addThunder_eq options _)

/-- **From the arguments on**: the first failure, or else the effect, unless the system has
    something against it. -/
theorem value_outcome (gallery : Gallery) (handler : Handler) {options : CommandLine.Options}
    (hlist : options.list = false) (hframes : options.frames = some source) (entropy : UInt64) :
    (gallery.outcome handler options entropy).value
      = (match firstFailure? gallery options source, handler with
        | some failure, _ => .fail failure
        | none, .error words => .fail (.handler words)
        | none, .ok () => .play (asked gallery options source entropy), "") := by
  unfold Gallery.outcome Gallery.carryOut
  rw [hlist, hframes]
  dsimp only
  rw [if_neg Bool.false_ne_true, Console.value_bind, value_prepare]
  cases firstFailure? gallery options source with
  | some failure => rfl
  | none => rcases handler with words | ⟨⟩ <;> rfl

/-- Nothing fails if, and only if, every source loads and both numbers can be used. -/
theorem firstFailure?_eq_none_iff {options : CommandLine.Options} :
    firstFailure? gallery options source = none ↔
      gallery.Loads source ∧ (∀ upper ∈ options.overlay, gallery.Loads upper) ∧
        (∀ lower ∈ options.underlay, gallery.Loads lower) ∧ options.fps ≠ 0 ∧
          ¬ NoBrightness options.brightness := by
  rw [firstFailure?, List.findSome?_eq_none_iff, failures, setupFailures]
  simp only [List.forall_mem_cons, List.not_mem_nil, false_imp_iff, implies_true, and_true, id,
    Option.bind_eq_none_iff, sourceFailure?_eq_none_iff, Option.mem_def, ite_eq_right_iff,
    reduceCtorEq, imp_false]

/-- A source is to blame only for itself. -/
theorem kind_of_sourceFailure? {failure : Failure}
    (h : sourceFailure? gallery source = some failure) :
    failure = .unknown source ∨ (∃ words, failure = .unreadable source words) ∨
      ∃ fault, failure = .shapeless source fault := by
  -- the three branches are those in which there is no name, no image, and no way to lay it out
  unfold sourceFailure? at h
  split at h
  · exact nomatch h
  · split at h
    · exact Or.inl (Option.some.inj h).symm
    · exact Or.inr (Or.inl ⟨_, (Option.some.inj h).symm⟩)
    · split at h
      · exact Or.inr (Or.inr ⟨_, (Option.some.inj h).symm⟩)
      · exact nomatch h

/-- Lines are written one behind the other, each with its end. -/
theorem value_forM_putLine (lines : List String) (written : String) :
    ((lines.forM putLine).run written).value
      = ((), written ++ String.join (lines.map fun line => line ++ "\n")) := by
  induction lines generalizing written with
  | nil =>
    rw [List.map_nil, String.join_nil, String.append_empty]
    rfl
  | cons line lines ih =>
    show ((lines.forM putLine).run (written ++ line ++ "\n")).value = _
    rw [ih, List.map_cons, String.join_cons, String.append_assoc, String.append_assoc,
      String.append_assoc]

/-- **The list**: every name and the end of its line, whatever else is asked for. -/
theorem value_outcome_list (gallery : Gallery) (handler : Handler) {options : CommandLine.Options}
    (hlist : options.list = true) (entropy : UInt64) :
    (gallery.outcome handler options entropy).value
      = (.finish, String.join (Catalog.names.map fun name => name ++ "\n")) := by
  unfold Gallery.outcome Gallery.carryOut
  rw [if_pos hlist, Console.value_bind, printNames, value_forM_putLine, String.empty_append]
  rfl

/-- It is a source that is to blame, or the setup: nothing else is in the list. -/
theorem kind_of_firstFailure? {options : CommandLine.Options} {failure : Failure}
    (h : firstFailure? gallery options source = some failure) :
    (∃ blamed, sourceFailure? gallery blamed = some failure) ∨
      ∃ fault, failure = .effect (.config fault) := by
  obtain ⟨looked, hmem, hlooked⟩ := List.exists_of_findSome?_eq_some h
  obtain rfl : looked = some failure := hlooked
  rw [failures, List.mem_cons, List.mem_cons, List.mem_cons] at hmem
  rcases hmem with hframes | hoverlay | hunderlay | hsetup
  · exact Or.inl ⟨source, hframes.symm⟩
  · obtain ⟨upper, -, hupper⟩ := Option.bind_eq_some_iff.1 hoverlay.symm
    exact Or.inl ⟨upper, hupper⟩
  · obtain ⟨lower, -, hlower⟩ := Option.bind_eq_some_iff.1 hunderlay.symm
    exact Or.inl ⟨lower, hlower⟩
  · right
    rw [setupFailures, List.mem_cons, List.mem_singleton] at hsetup
    rcases hsetup with hfps | hbrightness
    -- the frame rate, and then the brightness
    · split at hfps
      · exact ⟨_, Option.some.inj hfps⟩
      · exact nomatch hfps
    · split at hbrightness
      · exact ⟨_, Option.some.inj hbrightness⟩
      · exact nomatch hbrightness

/-! ## What is promised -/

/-- What there is to say of a program that has a source to play, and of what it has written by then:
    nothing. -/
structure Decided (gallery : Gallery) (options : CommandLine.Options) (source : String)
    (entropy : UInt64) (result : Outcome × String) : Prop where
  /-- It fails for one of five reasons, -/
  refused : (∃ failure, result = (.fail failure, "")) ↔
    ¬ gallery.Loads source ∨ (∃ upper ∈ options.overlay, ¬ gallery.Loads upper) ∨
      (∃ lower ∈ options.underlay, ¬ gallery.Loads lower) ∨ options.fps = 0 ∨
        NoBrightness options.brightness
  /-- and names the first of them; -/
  fails : ∀ failure, result = (.fail failure, "") ↔
    firstFailure? gallery options source = some failure
  /-- otherwise it plays what is asked for. -/
  plays : firstFailure? gallery options source = none →
    result = (.play (asked gallery options source entropy), "")
  /-- No script is ever to blame: none is built in that the check refuses, the flash is none that it
      refuses, and none that is loaded is empty. -/
  neverScripts : ∀ failure, result.1 = .fail failure → ∀ name fault,
    failure ≠ .builtIn name fault ∧ failure ≠ .thunder fault ∧ failure ≠ .effect (.script fault)

/-- What there is to say of accepted arguments, on a system that hands out interrupts. -/
structure Foretold (gallery : Gallery) (options : CommandLine.Options) (entropy : UInt64) :
    Prop where
  /-- The list goes before everything else, and needs no interrupts.  It has a line for every name,
      and no other, -/
  listed : options.list = true → ∀ handler,
    (gallery.outcome handler options entropy).value
      = (.finish, String.join (Catalog.names.map fun name => name ++ "\n"))
  /-- and these are the names under which a script is built in, each of them once. -/
  named : Catalog.names.Nodup ∧ ∀ name, name ∈ Catalog.names ↔ (Catalog.build? name).isSome
  /-- Without it there is a source. -/
  decided : options.list = false → ∃ source, options.frames = some source ∧
    Decided gallery options source entropy (gallery.outcome (.ok ()) options entropy).value
  /-- Failures are what the exit code tells, and nothing was written to the standard output before
      them. -/
  silent : ∀ handler, (gallery.outcome handler options entropy).value.1.exitCode ≠ 0 ↔
    ∃ failure, (gallery.outcome handler options entropy).value = (.fail failure, "")
  /-- The files that are called like a built-in script make no difference. -/
  builtInsWin : ∀ (other : Gallery) (handler : Handler),
    (∀ source, source ∉ Catalog.names → other source = gallery source) →
      other.outcome handler options entropy = gallery.outcome handler options entropy

/-- What a program with a source to play does comes down to the first failure, or to there being
    none. -/
theorem decided_of_frames {options : CommandLine.Options} (hlist : options.list = false)
    (hframes : options.frames = some source) (entropy : UInt64) :
    Decided gallery options source entropy
      (gallery.outcome (.ok ()) options entropy).value := by
  have hvalue := value_outcome gallery (.ok ()) hlist hframes entropy
  have hfails : ∀ failure,
      (gallery.outcome (.ok ()) options entropy).value = (.fail failure, "") ↔
        firstFailure? gallery options source = some failure := by
    intro failure
    rw [hvalue]
    cases firstFailure? gallery options source <;> simp
  constructor
  case refused =>
    rw [exists_congr hfails, ← Option.ne_none_iff_exists', Ne, firstFailure?_eq_none_iff]
    simp only [Classical.not_and_iff_not_or_not, Classical.not_forall, Classical.not_not,
      exists_prop, ne_eq]
  case fails => exact hfails
  case plays =>
    intro hnone
    rw [hvalue, hnone]
  case neverScripts =>
    intro failure hfail name fault
    have hfirst : firstFailure? gallery options source = some failure := by
      rw [hvalue] at hfail
      cases hfound : firstFailure? gallery options source with
      | none =>
        rw [hfound] at hfail
        cases hfail
      | some found =>
        rw [hfound] at hfail
        exact congrArg some (Outcome.fail.inj hfail)
    -- a failure is a source's or the setup's, and neither speaks of a script that is refused
    rcases kind_of_firstFailure? hfirst with ⟨blamed, hblamed⟩ | ⟨setup, rfl⟩
    · rcases kind_of_sourceFailure? hblamed with rfl | ⟨words, rfl⟩ | ⟨shape, rfl⟩
      all_goals exact ⟨nofun, nofun, nofun⟩
    · exact ⟨nofun, nofun, nofun⟩

/-- Files that are called like a built-in script are never opened. -/
theorem load_congr {other : Gallery}
    (h : ∀ source, source ∉ Catalog.names → other source = gallery source) :
    load other = load gallery := by
  funext gamma source
  unfold load
  rw [Catalog.build?_eq]
  cases hname : Catalog.find? source with
  | some script => rfl
  | none =>
    rw [h source ((Catalog.find?_eq_none_iff source).1 hname)]

/-- Neither are they as an overlay or as an underlay. -/
theorem loadOptional_congr {other : Gallery}
    (h : ∀ source, source ∉ Catalog.names → other source = gallery source) :
    loadOptional other = loadOptional gallery := by
  funext gamma source
  cases source with
  | none => rfl
  | some source =>
    unfold loadOptional
    rw [load_congr h]

/-- Without a list there is a source. -/
theorem exists_source {args : List String} {options : CommandLine.Options}
    (h : CommandLine.parse args = .ok options) (hlist : options.list = false) :
    ∃ source, options.frames = some source := by
  rcases CommandLine.asks_for_something h with hlisted | hsome
  · rw [hlist] at hlisted
    exact nomatch hlisted
  · exact Option.isSome_iff_exists.1 hsome

/-- **What accepted arguments lead to can be told beforehand**: whatever images are in reach, they
    either list the names, or fail without a word on the standard output for the first of the
    reasons there are, or play what they ask for. -/
theorem accepted_arguments_are_foretold (gallery : Gallery) (entropy : UInt64) {args : List String}
    {options : CommandLine.Options} (h : CommandLine.parse args = .ok options) :
    Foretold gallery options entropy := by
  constructor
  case listed =>
    intro hlist handler
    exact value_outcome_list gallery handler hlist entropy
  case named =>
    refine ⟨by decide, fun name => ?_⟩
    rw [Catalog.build?_eq, Option.isSome_map, Option.isSome_iff_ne_none, Ne,
      Catalog.find?_eq_none_iff, Classical.not_not]
  case decided =>
    intro hlist
    obtain ⟨source, hframes⟩ := exists_source h hlist
    exact ⟨source, hframes, decided_of_frames hlist hframes entropy⟩
  case silent =>
    intro handler
    cases hlist : options.list with
    | true =>
      rw [value_outcome_list gallery handler hlist]
      simp [Outcome.exitCode]
    | false =>
      obtain ⟨source, hframes⟩ := exists_source h hlist
      rw [value_outcome gallery handler hlist hframes]
      rcases firstFailure? gallery options source with - | failure
      · rcases handler with words | ⟨⟩ <;> simp [Outcome.exitCode]
      · simp [Outcome.exitCode]
  case builtInsWin =>
    intro other handler hother
    unfold Gallery.outcome Gallery.carryOut prepare
    rw [load_congr hother, loadOptional_congr hother]

/-- Neither a missing image nor a frame rate of none can be played: it is the image that is
    named. -/
theorem missing_overlay_is_foretold :
    let options : CommandLine.Options :=
      { frames := some "flood", overlay := some "snow.bmp", fps := 0 }
    CommandLine.parse ["-f", "flood", "--overlay", "snow.bmp", "--fps", "0"] = .ok options ∧
      Foretold (fun _ => none) options 7 ∧
        firstFailure? (fun _ => none) options "flood" = some (.unknown "snow.bmp") := by
  intro options
  have hparse : CommandLine.parse ["-f", "flood", "--overlay", "snow.bmp", "--fps", "0"]
      = .ok options := rfl
  exact ⟨hparse, accepted_arguments_are_foretold _ 7 hparse, by decide⟩

end Preview

end LedAnimation
