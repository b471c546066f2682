/-
  Accepted arguments are consistent.

  This is what the program relies on when it goes by the settings alone: there is something to do,
  so that it never finds itself without frames, and a gamma that is given is the one that images are
  corrected with.  And it is what whoever types the arguments relies on: option groups may stand in
  any order.
-/
import LedAnimation.Proofs.Preview.Acceptance
import LedAnimation.Proofs.Preview.Outcomes

namespace LedAnimation

namespace Preview

open CommandLine (Line Group Given)

/-- What there is to say of accepted arguments and of the settings they stand for. -/
structure Consistent (args : List String) (options : CommandLine.Options) : Prop where
  /-- They ask for the list, or have frames, -/
  something : options.list = true ∨ options.frames.isSome = true
  /-- so that the program never ends for want of frames. -/
  neverIdle : ∀ (gallery : Gallery) (handler : Handler) (entropy : UInt64),
    (gallery.outcome handler options entropy).value.1 ≠ .fail .framesRequired
  /-- A gamma is never set beside its opposite, and is what images are corrected with. -/
  gamma : ∀ exponent, options.gamma = some exponent →
    options.noGamma = false ∧ gammaTable options = some (.ofExponent exponent)
  /-- They consist of option groups, -/
  grouped : ∃ line : Line, line.args = args
  /-- which never give a gamma beside its opposite, -/
  exclusive : ∀ line : Line, line.args = args →
    ¬ (.gamma ∈ line.givens.map Given.key ∧ .noGamma ∈ line.givens.map Given.key)
  /-- and whose gamma, if they give one, is the one that is set. -/
  taken : ∀ line : Line, line.args = args → ∀ text, .value ⟨.gamma, rfl⟩ text ∈ line.givens →
    ∃ exponent, Binary32.read? text = some exponent ∧ options.gamma = some exponent
  /-- The groups may stand in any other order, -/
  reordered : ∀ line : Line, line.args = args → ∀ groups : List Group,
    groups.Perm line.groups → CommandLine.parse { line with groups }.args = .ok options
  /-- and the options may be put into groups and spelled in any other way. -/
  respelled : ∀ line : Line, line.args = args → ∀ other : Line,
    other.givens.Perm line.givens → CommandLine.parse other.args = .ok options

/-- The program ends for want of frames only if there are none. -/
theorem outcome_ne_framesRequired (gallery : Gallery) (handler : Handler)
    {options : CommandLine.Options} (h : options.list = true ∨ options.frames.isSome = true)
    (entropy : UInt64) :
    (gallery.outcome handler options entropy).value.1 ≠ .fail .framesRequired := by
  cases hlist : options.list with
  | true =>
    rw [value_outcome_list gallery handler hlist]
    rintro ⟨⟩
  | false =>
    rw [hlist] at h
    obtain ⟨source, hframes⟩ := Option.isSome_iff_exists.1 (h.resolve_left Bool.false_ne_true)
    rw [value_outcome gallery handler hlist hframes]
    cases hfirst : firstFailure? gallery options source with
    | none => rcases handler with words | ⟨⟩ <;> rintro ⟨⟩
    | some failure =>
      rintro ⟨⟩
      rcases kind_of_firstFailure? hfirst with ⟨blamed, hblamed⟩ | ⟨fault, hfault⟩
      · rcases kind_of_sourceFailure? hblamed with hunknown | ⟨words, hwords⟩ | ⟨shape, hshape⟩
        · cases hunknown
        · cases hwords
        · cases hshape
      · cases hfault

/-- **Accepted arguments are consistent.** -/
theorem accepted_arguments_are_consistent {args : List String} {options : CommandLine.Options}
    (h : CommandLine.parse args = .ok options) : Consistent args options := by
  have hline : ∀ line : Line, line.args = args → CommandLine.Acceptable line.givens ∧
      options = .ofGivens line.givens := by
    rintro line rfl
    exact CommandLine.parse_eq_ok_iff.1 h
  have hgrouped := CommandLine.exists_line_of_parse h
  have hsomething := CommandLine.asks_for_something h
  constructor
  case something => exact hsomething
  case neverIdle =>
    intro gallery handler entropy
    exact outcome_ne_framesRequired gallery handler hsomething entropy
  case gamma =>
    intro exponent hgamma
    obtain ⟨line, hargs⟩ := hgrouped
    obtain ⟨hacceptable, rfl⟩ := hline line hargs
    have hflag := hacceptable.noGamma_ofGivens hgamma
    refine ⟨hflag, ?_⟩
    rw [gammaTable, hflag, if_neg Bool.false_ne_true, hgamma]
    rfl
  case grouped => exact hgrouped
  case exclusive =>
    intro line hargs
    exact (hline line hargs).1.exclusive
  case taken =>
    intro line hargs text hmem
    obtain ⟨hacceptable, rfl⟩ := hline line hargs
    exact hacceptable.gamma_ofGivens hmem
  case reordered =>
    rintro line rfl groups hperm
    exact CommandLine.parse_of_perm h (hperm.flatMap_right Group.givens)
  case respelled =>
    rintro line rfl other hperm
    exact CommandLine.parse_of_perm h hperm

/-- Three option groups, and the same three from the last to the first. -/
theorem mirrored_rain_is_consistent :
    let options : CommandLine.Options :=
      { frames := some "rain", mirrored := true, gamma := Binary32.read? "2", verbosity := 2 }
    CommandLine.parse ["-mvf", "rain", "--gamma=2", "-v"] = .ok options ∧
      Consistent ["-mvf", "rain", "--gamma=2", "-v"] options ∧
        CommandLine.parse ["-v", "--gamma=2", "-mvf", "rain"] = .ok options := by
  intro options
  have hparse : CommandLine.parse ["-mvf", "rain", "--gamma=2", "-v"] = .ok options := rfl
  have hconsistent := accepted_arguments_are_consistent hparse
  let verbose : CommandLine.Letter false := ⟨⟨.verbose, rfl⟩, 'v', rfl⟩
  let groups : List Group :=
    [.shortApart [⟨⟨.mirrored, rfl⟩, 'm', rfl⟩, verbose] ⟨⟨.frames, rfl⟩, 'f', rfl⟩
        ⟨"rain", by decide⟩,
      .longEquals ⟨.gamma, rfl⟩ "2", .short [verbose] nofun]
  exact ⟨hparse, hconsistent,
    hconsistent.reordered ⟨groups, false⟩ (by decide) groups.reverse (List.reverse_perm groups)⟩

end Preview

end LedAnimation
