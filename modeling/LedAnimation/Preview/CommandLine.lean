/-
  The command line of the preview.

  Options have a long name, some also a letter.  A value stands behind its option as an argument of
  its own (`-f rain`), behind `=` (`--frames=rain`, `-f=rain`), or right behind the letter
  (`-frain`); letters of options without a value can be joined (`-mvv`).  An argument that starts
  with a minus sign is an option and never a value.

  Arguments are read from left to right, and the first fault is reported.  A value that stands as
  an argument of its own is settled only when the next option is read, or the end: so an argument
  that nothing knows is reported before a fault of the value in front of it.  What can only be
  told of all arguments together (`--gamma` beside `--no-gamma`, no `--frames`) comes last.
-/
import LedAnimation.Binary32.Text

namespace LedAnimation

namespace CommandLine

/-- The settings of the preview. -/
structure Options where
  /-- Name of a script or path of an image. -/
  frames : Option String := none
  fps : Nat := 5
  brightness : Binary32 := .nearest 1 5
  mirrored : Bool := false
  /-- Name or path of what is played over the frames. -/
  overlay : Option String := none
  /-- Name or path of what is played under the frames. -/
  underlay : Option String := none
  /-- The gamma images are corrected with. -/
  gamma : Option Binary32 := none
  /-- Do not correct images. -/
  noGamma : Bool := false
  seed : Option UInt64 := none
  thunder : Bool := false
  /-- Seconds after which playback ends. -/
  duration : Option UInt64 := none
  /-- Only list the names of the scripts. -/
  list : Bool := false
  verbosity : Nat := 0
  deriving DecidableEq, Repr

/-- Why a command line is not accepted; asking for help or for the version ends it too. -/
inductive Refusal where
  | displayHelp
  | displayVersion
  | missingRequiredArgument
  | argumentConflict
  | unknownArgument
  | invalidValue
  | valueValidation
  | tooManyValues
  deriving DecidableEq, Repr

namespace Refusal

/-- What is written about a refusal. -/
def message : Refusal → String
  | .displayHelp => "Usage: preview --frames <NAME|FILE> [OPTIONS], or preview --list"
  | .displayVersion => "preview 0.1.0"
  | .missingRequiredArgument => "error: --frames <NAME|FILE> is required"
  | .argumentConflict => "error: an option is given twice, or beside one that excludes it"
  | .unknownArgument => "error: unexpected argument"
  | .invalidValue => "error: an option lacks its value"
  | .valueValidation => "error: a value cannot be read"
  | .tooManyValues => "error: a value is given to an option that takes none"

/-- Asking for help or for the version is no fault. -/
def exitCode : Refusal → UInt32
  | .displayHelp => 0
  | .displayVersion => 0
  | _ => 2

end Refusal

/-! ## The options -/

/-- An option of the command line. -/
inductive Key where
  | frames
  | fps
  | brightness
  | mirrored
  | overlay
  | underlay
  | gamma
  | noGamma
  | seed
  | thunder
  | duration
  | list
  | verbose
  | help
  | version
  deriving DecidableEq, Repr

namespace Key

/-- The name behind two minus signs. -/
def long : Key → String
  | .frames => "frames"
  | .fps => "fps"
  | .brightness => "brightness"
  | .mirrored => "mirrored"
  | .overlay => "overlay"
  | .underlay => "underlay"
  | .gamma => "gamma"
  | .noGamma => "no-gamma"
  | .seed => "seed"
  | .thunder => "thunder"
  | .duration => "duration"
  | .list => "list"
  | .verbose => "verbose"
  | .help => "help"
  | .version => "version"

/-- The letter behind a single minus sign. -/
def short? : Key → Option Char
  | .frames => some 'f'
  | .brightness => some 'b'
  | .mirrored => some 'm'
  | .verbose => some 'v'
  | .help => some 'h'
  | .version => some 'V'
  | _ => none

/-- Whether an option needs a value. -/
def takesValue : Key → Bool
  | .frames | .fps | .brightness | .overlay | .underlay | .gamma | .seed | .duration => true
  | _ => false

/-- All options. -/
def all : List Key :=
  [.frames, .fps, .brightness, .mirrored, .overlay, .underlay, .gamma, .noGamma, .seed, .thunder,
    .duration, .list, .verbose, .help, .version]

/-- The option of a name. -/
def ofLong? (name : String) : Option Key := all.find? (·.long == name)

/-- The option of a letter. -/
def ofShort? (letter : Char) : Option Key := all.find? (·.short? == some letter)

end Key

/-! ## Values -/

/-- A row of decimal digits, and nothing else. -/
def readDigits? (cs : List Char) : Option Nat :=
  if cs.isEmpty || !cs.all Char.isDigit then none else some (Binary32.digitsValue cs)

/-- A whole number that may have a plus sign. -/
def readNatural? (text : String) : Option Nat :=
  match text.toList with
  | '+' :: digits => readDigits? digits
  | digits => readDigits? digits

/-- A rate is a number of 32 bits.  It is read with a sign, so that `-0` is a rate too. -/
def readRate? (text : String) : Option Nat := do
  let value ← match text.toList with
    | '-' :: digits => (readDigits? digits).filter (· == 0)
    | _ => readNatural? text
  if value < UInt32.size then some value else none

/-- A word is a number of 64 bits. -/
def readWord? (text : String) : Option UInt64 := do
  let value ← readNatural? text
  if value < UInt64.size then some value.toUInt64 else none

/-- Set an option to the value a text stands for. -/
def Options.store? (o : Options) (key : Key) (text : String) : Option Options :=
  match key with
  | .frames => some { o with frames := some text }
  | .overlay => some { o with overlay := some text }
  | .underlay => some { o with underlay := some text }
  | .fps => (readRate? text).map fun rate => { o with fps := rate }
  | .brightness => (Binary32.read? text).map fun share => { o with brightness := share }
  | .gamma => (Binary32.read? text).map fun gamma => { o with gamma := some gamma }
  | .seed => (readWord? text).map fun seed => { o with seed := some seed }
  | .duration => (readWord? text).map fun seconds => { o with duration := some seconds }
  | _ => none

/-- Turn an option on that has no value. -/
def Options.switch (o : Options) (key : Key) : Options :=
  match key with
  | .mirrored => { o with mirrored := true }
  | .noGamma => { o with noGamma := true }
  | .thunder => { o with thunder := true }
  | .list => { o with list := true }
  | .verbose => { o with verbosity := min 255 (o.verbosity + 1) }
  | _ => o

/-! ## Reading the arguments -/

/-- How far the arguments are read. -/
structure Session where
  options : Options
  /-- The options given so far; but for `-v` each can be given once. -/
  given : List Key
  /-- An option that waits for its value, or for its value to be settled. -/
  pending : Option (Key × Option String)

namespace Session

/-- Before the first argument. -/
def fresh : Session := ⟨{}, [], none⟩

/-- Note that an option is given, which must not have been given before. -/
def note (s : Session) (key : Key) : Except Refusal Session :=
  if key ∈ s.given then .error .argumentConflict else .ok { s with given := key :: s.given }

/-- Give an option its value. -/
def assign (s : Session) (key : Key) (text : String) : Except Refusal Session := do
  let s ← s.note key
  match s.options.store? key text with
  | some options => .ok { s with options }
  | none => .error .valueValidation

/-- Settle the option that is pending. -/
def settle (s : Session) : Except Refusal Session :=
  match s.pending with
  | none => .ok s
  | some (_, none) => .error .invalidValue
  | some (key, some text) => { s with pending := none }.assign key text

/-- Give an option that has no value. -/
def flag (s : Session) (key : Key) : Except Refusal Session := do
  let s ← s.settle
  match key with
  | .help => .error .displayHelp
  | .version => .error .displayVersion
  | .verbose => .ok { s with options := s.options.switch .verbose }
  | _ =>
    let s ← s.note key
    .ok { s with options := s.options.switch key }

/-- Give an option a value that is attached to it. -/
def attach (s : Session) (key : Key) (text : String) : Except Refusal Session := do
  (← s.settle).assign key text

/-- Let an option wait for its value. -/
def await (s : Session) (key : Key) : Except Refusal Session := do
  .ok { ← s.settle with pending := some (key, none) }

/-- Read what follows two minus signs: a name, and perhaps a value behind an equals sign. -/
def readLong (s : Session) (body : List Char) : Except Refusal Session :=
  let name := String.ofList (body.takeWhile (· != '='))
  let attached : Option String := match body.dropWhile (· != '=') with
    | _ :: value => some (String.ofList value)
    | [] => none
  match Key.ofLong? name with
  | none => .error .unknownArgument
  | some key =>
    if key.takesValue then
      match attached with
      | some text => s.attach key text
      | none => s.await key
    else
      match attached with
      | some _ => .error .tooManyValues
      | none => s.flag key

/-- Read what follows a single minus sign: letters, up to the first one that takes a value. -/
def readShort (s : Session) : List Char → Except Refusal Session
  | [] => .ok s
  | letter :: rest =>
    match Key.ofShort? letter with
    | none => .error .unknownArgument
    | some key =>
      if key.takesValue then
        match rest with
        | [] => s.await key
        | '=' :: value => s.attach key (String.ofList value)
        | value => s.attach key (String.ofList value)
      else do
        (← s.flag key).readShort rest

/-- Read all arguments.  Behind `--` no argument is an option any more, and there is nothing else
    an argument could be. -/
def read (s : Session) : List String → Except Refusal Session
  | [] => s.settle
  | arg :: rest =>
    match arg.toList with
    | ['-', '-'] => if rest.isEmpty then s.settle else .error .unknownArgument
    | '-' :: '-' :: body => do (← s.readLong body).read rest
    | '-' :: letter :: letters => do (← s.readShort (letter :: letters)).read rest
    | _ =>
      match s.pending with
      | some (key, none) => { s with pending := some (key, some arg) }.read rest
      | _ => .error .unknownArgument

end Session

/-- The settings a list of arguments stands for. -/
def parse (args : List String) : Except Refusal Options := do
  let s ← Session.fresh.read args
  if .gamma ∈ s.given ∧ .noGamma ∈ s.given then .error .argumentConflict
  else if .frames ∉ s.given ∧ .list ∉ s.given then .error .missingRequiredArgument
  else .ok s.options

end CommandLine

end LedAnimation
