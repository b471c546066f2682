/-
  The preview: what a command line and a directory of files lead to.

  Names of built-in scripts go before files.  The sources are loaded in the order frames, overlay,
  underlay, and the configuration is checked after them; the first fault ends the program before
  anything is played.

  What the program asks its surroundings for is passed to it: what opening an image leads to
  (`Gallery`, and `Files.images` for the images this library can read), what comes of asking for
  interrupts (`Handler`), and a word to begin the random source with.

  All of it runs at a `Console`, which keeps what is written to the standard output next to the
  reports, so that a failure can be told from a failure after something was printed.
-/
import LedAnimation.Image.Format
import LedAnimation.Preview.CommandLine
import LedAnimation.Preview.Thunder
import LedAnimation.Sprite

namespace LedAnimation

namespace Preview

/-! ## The standard output -/

/-- A computation that may write to the standard output.  It begins with what was written before,
    and ends with what is written then. -/
abbrev Console := StateT String Logged

namespace Console

variable {α β : Type}

/-- The second of two steps begins with what the first has written. -/
theorem value_bind (x : Console α) (f : α → Console β) (written : String) :
    ((x >>= f).run written).value
      = ((f (x.run written).value.1).run (x.run written).value.2).value := rfl

/-- What only reports writes nothing. -/
theorem value_lift (x : Logged α) (written : String) :
    ((liftM x : Console α).run written).value = (x.value, written) := rfl

end Console

/-- Write a text and end the line. -/
def putLine (text : String) : Console Unit := modify fun written => written ++ text ++ "\n"

/-! ## Failures -/

/-- Why the program ends before it plays anything. -/
inductive Failure where
  /-- There is nothing to play. -/
  | framesRequired
  /-- A built-in script that the check of scripts refuses. -/
  | builtIn (name : String) (fault : ScriptError)
  /-- A source that is neither the name of a script nor the path of a file. -/
  | unknown (source : String)
  /-- A file that gives no image, and the words of its reader, from the outside in. -/
  | unreadable (path : String) (words : List String)
  /-- An image that is no sprite. -/
  | shapeless (path : String) (fault : SpriteError)
  /-- An effect that cannot be set up. -/
  | effect (fault : EffectError)
  /-- Lightning that the check of scripts refuses. -/
  | thunder (fault : ScriptError)
  /-- A system that keeps interrupts to itself, and its words, from the outside in. -/
  | handler (words : List String)
  deriving DecidableEq, Repr

namespace Failure

/-- What could not be done. -/
def context : Failure → String
  | .framesRequired => "--frames is required"
  | .builtIn name _ => s!"Built-in frames '{name}' are invalid"
  | .unknown source =>
    let known := String.intercalate ", " Catalog.names
    s!"'{source}' is neither a file nor one of: {known}"
  | .unreadable path _ => "Failed to open " ++ path
  | .shapeless path _ => "Failed to decode sprite " ++ path
  | .effect _ => "Invalid effect"
  | .thunder _ => "Invalid thunder frames"
  | .handler _ => "Failed to install Ctrl-C handler"

/-- What kept it from being done, from the outside in. -/
def causes : Failure → List String
  | .framesRequired => []
  | .builtIn _ fault => [fault.message]
  | .unknown _ => []
  | .unreadable _ words => words
  | .shapeless _ fault => [fault.message]
  | .effect fault => [fault.message]
  | .thunder fault => [fault.message]
  | .handler words => words

/-- The failure as it is printed.  Several causes are numbered. -/
def message (failure : Failure) : String :=
  let behind := match failure.causes with
    | [] => ""
    | [cause] => "\n\nCaused by:\n    " ++ cause
    | causes =>
      let numbered := causes.zipIdx.map fun (cause, i) => s!"\n    {i}: {cause}"
      "\n\nCaused by:" ++ String.join numbered
  "Error: " ++ failure.context ++ behind ++ "\n"

end Failure

/-! ## Sources -/

/-- The regular files in reach, by their paths. -/
abbrev Files := String → Option ByteArray

/-- What opening an image leads to: nothing where there is no regular file, and for a file its image
    or the words of the reader that gave up, from the outside in. -/
abbrev Gallery := String → Option (Except (List String) Image)

/-- The images in files. -/
def Files.images (files : Files) : Gallery := fun path =>
  (files path).map fun content => (readImage path content).mapError ImageError.messages

/-- The script of a name, or of the sprite in a file. -/
def load (gallery : Gallery) (gamma : Option GammaTable) (source : String) :
    Console (Except Failure (Script Catalog.leds)) := do
  match Catalog.build? source with
  | some (.ok script) => pure (.ok script)
  | some (.error fault) => pure (.error (.builtIn source fault))
  | none =>
    match gallery source with
    | none => pure (.error (.unknown source))
    | some (.error words) => pure (.error (.unreadable source words))
    | some (.ok image) =>
      match ← Sprite.script Catalog.leds image gamma with
      | .error fault => pure (.error (.shapeless source fault))
      | .ok script =>
        let count := script.length
        report .debug s!"Loaded sprite {source} ({count} frames)"
        pure (.ok script)

/-- The script of a source that need not be given. -/
def loadOptional (gallery : Gallery) (gamma : Option GammaTable) :
    Option String → Console (Except Failure (Option (Script Catalog.leds)))
  | none => pure (.ok none)
  | some source => do pure ((← load gallery gamma source).map some)

/-! ## Outcomes -/

/-- The table images are corrected with. -/
def gammaTable (options : CommandLine.Options) : Option GammaTable :=
  if options.noGamma then none
  else some (.ofExponent (options.gamma.getD GammaTable.defaultExponent))

/-- The setup of the effect, once its layers are loaded. -/
def config (options : CommandLine.Options) (overlay underlay : Option (Script Catalog.leds)) :
    Config Catalog.leds where
  fps := options.fps
  brightness := options.brightness
  mirrored := options.mirrored
  overlay
  underlay
  seed := options.seed

/-- Let lightning strike in an effect, if that is asked for. -/
def addThunder (options : CommandLine.Options) (effect : Effect Unit Catalog.leds) :
    Except Failure (Effect Unit Catalog.leds) :=
  if options.thunder then
    match Thunder.make with
    | .error fault => .error (.thunder fault)
    | .ok hook => .ok (effect.withHook hook ())
  else .ok effect

/-- Set up the effect that a command line asks for. -/
def prepare (gallery : Gallery) (options : CommandLine.Options) (source : String)
    (entropy : UInt64) : Console (Except Failure (Effect Unit Catalog.leds)) := do
  let gamma := gammaTable options
  match ← load gallery gamma source with
  | .error failure => pure (.error failure)
  | .ok script =>
    match ← loadOptional gallery gamma options.overlay with
    | .error failure => pure (.error failure)
    | .ok overlay =>
      match ← loadOptional gallery gamma options.underlay with
      | .error failure => pure (.error failure)
      | .ok underlay =>
        match ← Effect.start script (config options overlay underlay) entropy with
        | .error fault => pure (.error (.effect fault))
        | .ok effect => pure (addThunder options effect)

/-- How the program goes on once its arguments are read. -/
inductive Outcome where
  /-- It has done what it was asked for, and ends. -/
  | finish
  /-- It ends with a failure. -/
  | fail (failure : Failure)
  /-- It plays an effect. -/
  | play (effect : Effect Unit Catalog.leds)

namespace Outcome

/-- What is written to the standard error output. -/
def complaint : Outcome → String
  | .finish => ""
  | .fail failure => failure.message
  | .play _ => ""

/-- Only failures are told by the exit code. -/
def exitCode : Outcome → UInt32
  | .finish => 0
  | .fail _ => 1
  | .play _ => 0

end Outcome

/-- Print the names of all scripts, one in each line. -/
def printNames : Console Unit := Catalog.names.forM putLine

/-- What comes of asking the system for interrupts: nothing, or the words of its refusal. -/
abbrev Handler := Except (List String) Unit

/-- Carry out accepted arguments, with these images in reach.  Listing the names goes before
    everything else, and the interrupts are asked for when there is an effect to be played. -/
def Gallery.carryOut (gallery : Gallery) (handler : Handler) (options : CommandLine.Options)
    (entropy : UInt64) : Console Outcome := do
  if options.list then
    printNames
    pure .finish
  else
    match options.frames with
    | none => pure (.fail .framesRequired)
    | some source =>
      match ← prepare gallery options source entropy with
      | .error failure => pure (.fail failure)
      | .ok effect =>
        match handler with
        | .error words => pure (.fail (.handler words))
        | .ok () => pure (.play effect)

/-- What accepted arguments lead to, and what was written by then. -/
def Gallery.outcome (gallery : Gallery) (handler : Handler) (options : CommandLine.Options)
    (entropy : UInt64) : Logged (Outcome × String) :=
  (gallery.carryOut handler options entropy).run ""

/-- What they lead to in a directory of files.  Here interrupts end the program without being asked
    for. -/
def outcome (files : Files) (options : CommandLine.Options) (entropy : UInt64) :
    Logged (Outcome × String) :=
  files.images.outcome (.ok ()) options entropy

end Preview

end LedAnimation
