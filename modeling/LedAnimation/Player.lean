/-
  Playing a script: a position in its compiled frames.

  A looping player starts over after its last frame.  If its script is dynamic, the next cycle is
  compiled at the very moment the last frame of the running one is read; a static script is never
  compiled again.  A one-shot player reads every frame once and then stays exhausted until it is
  recompiled.

  A player can be turned to the other end of the strip at any time (`mirror`): script and compiled
  frames turn together, so cycles compiled later keep the orientation.

  `position` counts the frames read since the last compilation or wrap in both modes.  What an
  onlooker sees is derived from it: a looping player shows it as its `cursor` and keeps all its
  frames, a one-shot player shows cursor 0 and only the frames that are `left`.
-/
import LedAnimation.Log
import LedAnimation.Script

namespace LedAnimation

/-- What happens after the last frame. -/
inductive PlaybackMode where
  | loop
  | once
  deriving DecidableEq, Repr, Inhabited

/-- Why no frame could be read. -/
inductive PlaybackError where
  | exhausted
  deriving DecidableEq, Repr

/-- The error as users read it. -/
def PlaybackError.message : PlaybackError → String
  | .exhausted => "frame sequence is exhausted"

/-- A position in the compiled frames of a script. -/
structure Player (n : Nat) where
  script : Script n
  frames : Array (Frame n)
  position : Nat
  mode : PlaybackMode
  mirrored : Bool
  generator : Generator

namespace Player

variable {n : Nat}

/-! ## What an onlooker sees -/

/-- Each cycle may be another one. -/
def isDynamic (p : Player n) : Bool := p.script.isDynamic

/-- The compiled frames that are left, in the order of playback. -/
def left (p : Player n) : List (Frame n) :=
  match p.mode with
  | .loop => p.frames.toList
  | .once => p.frames.toList.drop p.position

/-- The number of compiled frames that are left. -/
def length (p : Player n) : Nat :=
  match p.mode with
  | .loop => p.frames.size
  | .once => p.frames.size - p.position

/-- There is nothing left to read. -/
def isEmpty (p : Player n) : Bool := p.length == 0

/-- Where a looping player reads next. -/
def cursor (p : Player n) : Nat :=
  match p.mode with
  | .loop => p.position
  | .once => 0

@[simp] theorem length_left (p : Player n) : p.left.length = p.length := by
  unfold left length; split <;> simp

/-! ## Compiling and turning -/

/-- Compile the script afresh and go to its first frame. -/
def recompile (p : Player n) : Logged (Except ScriptError (Player n)) :=
  match p.script.compile p.generator with
  | (.error fault, _) => pure (.error fault)
  | (.ok frames, generator) => do
    let entries := p.script.length
    let count := frames.length
    report .debug s!"[FramePlayer.recompile] {entries} entries -> {count} frames"
    pure (.ok { p with frames := frames.toArray, position := 0, generator })

/-- Turn the script and its compiled frames to the other end of the strip. -/
def mirror (p : Player n) : Player n :=
  { p with
    script := p.script.mirror
    frames := p.frames.map Frame.mirror
    mirrored := !p.mirrored }

/-- A player at the first frame of a script.  A static script is not compiled, its frames are
    taken as they are.  The script is turned only after it was compiled. -/
def start (script : Script n) (mirrored : Bool) (mode : PlaybackMode) (generator : Generator) :
    Logged (Except ScriptError (Player n)) := do
  let fresh : Player n :=
    { script, frames := #[], position := 0, mode, mirrored := false, generator }
  let upright ←
    if script.isDynamic then fresh.recompile
    else pure (.ok { fresh with frames := script.stills.toArray })
  pure (upright.map fun p => if mirrored then p.mirror else p)

/-- A player that starts over after its last frame. -/
def looping (script : Script n) (mirrored : Bool) (generator : Generator) :
    Logged (Except ScriptError (Player n)) :=
  start script mirrored .loop generator

/-- A player that reads every frame once. -/
def oneShot (script : Script n) (mirrored : Bool) (generator : Generator) :
    Logged (Except ScriptError (Player n)) :=
  start script mirrored .once generator

/-- A player with nothing to play. -/
def empty (mode : PlaybackMode) : Player n :=
  { script := .empty, frames := #[], position := 0, mode, mirrored := false, generator := ⟨0⟩ }

/-! ## Reading frames -/

/-- Start over.  A dynamic script is compiled again for the new cycle. -/
def rewind (p : Player n) : Logged (Player n) := do
  if p.isDynamic then
    match ← p.recompile with
    | .ok next => pure next
    | .error fault =>
      let reason := fault.message
      report .warn s!"[FramePlayer.advance] keeping previous sequence: {reason}"
      pure { p with position := 0 }
  else pure { p with position := 0 }

/-- Leave the current frame behind. -/
def advance (p : Player n) : Logged (Player n) :=
  let next := { p with position := p.position + 1 }
  match p.mode with
  | .once => pure next
  | .loop => if next.position < next.frames.size then pure next else next.rewind

/-- Read the current frame and go to the next one. -/
def nextFrame (p : Player n) : Logged (Except PlaybackError (Frame n × Player n)) :=
  match p.frames[p.position]? with
  | none => pure (.error .exhausted)
  | some frame => do
    let next ← p.advance
    pure (.ok (frame, next))

end Player

end LedAnimation
