/-
  The preview as a program: it reads arguments, files and the clock, and writes what the library
  makes of them.  Playback ends after the given number of seconds, or with Enter if someone sits at
  the terminal.
-/
import LedAnimation.Preview.Program
import LedAnimation.Scheduler
import LedAnimation.Sink.Terminal

namespace LedAnimation

namespace Preview

/-- The effect on its way to the terminal. -/
abbrev Show := Scheduler Unit (Terminal Catalog.leds) Catalog.leds

/-- How serious a record has to be to be written, by the number of `-v`. -/
def isWritten (verbosity : Nat) : Level → Bool
  | .warn => true
  | .info => 1 ≤ verbosity
  | .debug => 2 ≤ verbosity

/-- Write what was reported, line by line. -/
def writeRecords (verbosity : Nat) (records : List Record) : IO Unit := do
  for record in records do
    if isWritten verbosity record.level then IO.eprintln record.line

/-- The files that sources name, as far as they can be read. -/
def readFiles (sources : List String) : IO Files := do
  let mut contents : List (String × ByteArray) := []
  for source in sources do
    try contents := (source, ← IO.FS.readBinFile source) :: contents
    catch _ => pure ()
  let found := contents
  return fun path => found.lookup path

/-- Microseconds on a clock that never goes back. -/
def microseconds : IO Nat := do return (← IO.monoNanosNow) / 1000

/-- Tick and sleep until it is time to stop. -/
partial def performFrom (verbosity : Nat) (stopped : IO Bool) (started : Nat) (s : Show) :
    IO Show := do
  if ← stopped then return s
  let played := s.tick ((← microseconds) - started)
  writeRecords verbosity played.records
  let (timing, next) := played.value
  let (text, output) := next.output.take
  let out ← IO.getStdout
  try
    out.putStr text
    out.flush
  catch fault => writeRecords verbosity [⟨.warn, s!"[TerminalDriver.show] {fault}"⟩]
  match timing with
  | .error e => throw (IO.userError e.message)
  | .ok timing =>
    if ← stopped then return next
    IO.sleep ((timing.sleep + 999) / 1000).toUInt32
    performFrom verbosity stopped started { next with output }

/-- Whether Enter was pressed, or the seconds are over. -/
def stopCondition (duration : Option UInt64) (started : Nat) : IO (IO Bool) := do
  let input ← IO.getStdin
  let entered ← if ← input.isTty then some <$> IO.asTask input.getLine else pure none
  return do
    let pressed ← match entered with
      | some task => IO.hasFinished task
      | none => pure false
    let timeUp ← match duration with
      | some seconds => pure (decide (seconds.toNat * 1000000 ≤ (← microseconds) - started))
      | none => pure false
    return pressed || timeUp

/-- Play an effect to the end, and leave the line of the strip. -/
def perform (options : CommandLine.Options) (effect : Effect Unit Catalog.leds) : IO Unit := do
  let started ← microseconds
  let stopped ← stopCondition options.duration started
  let first : Show := Scheduler.start effect .start
  writeRecords options.verbosity [⟨.info, first.opening⟩]
  let last ← performFrom options.verbosity stopped started first
  writeRecords options.verbosity [⟨.info, last.closing⟩]
  IO.print Terminal.ending

/-- Read the arguments and do what they ask for. -/
def program (args : List String) : IO UInt32 := do
  match CommandLine.parse args with
  | .error refusal =>
    IO.eprintln refusal.message
    return refusal.exitCode
  | .ok options =>
    let sources := options.frames.toList ++ options.overlay.toList ++ options.underlay.toList
    let files ← readFiles sources
    let entropy ← IO.rand 0 (UInt64.size - 1)
    let planned := outcome files options entropy.toUInt64
    let (result, written) := planned.value
    writeRecords options.verbosity planned.records
    IO.print written
    IO.eprint result.complaint
    if let .play effect := result then perform options effect
    return result.exitCode

end Preview

end LedAnimation

/-- The preview on its command line. -/
def main (args : List String) : IO UInt32 := LedAnimation.Preview.program args
