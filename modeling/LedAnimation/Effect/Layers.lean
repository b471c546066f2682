/-
  The layers around the base frames of an effect.

  There are three slots.  An `underlay` shows through the base wherever the base is dark, an
  `overlay` covers it wherever the overlay is lit, and an `overwrite` replaces whatever the others
  show until it is played out.  Filling a slot drops what was in it.

  Underlay and overlay are read on every tick, also while an overwrite hides them, so they stay in
  phase with the base.  Each layer is played with a generator of its own, a child of the layers'
  generator made at the moment the slot is filled; clearing a slot draws nothing.
-/
import LedAnimation.Player

namespace LedAnimation

/-- Where a layer is played. -/
inductive Slot where
  | underlay
  | overlay
  | overwrite
  deriving DecidableEq, Repr

/-- Only an overwrite comes to an end. -/
def Slot.mode : Slot → PlaybackMode
  | .underlay => .loop
  | .overlay => .loop
  | .overwrite => .once

/-- The auxiliary layers of an effect. -/
structure Layers (n : Nat) where
  underlay : Option (Player n)
  overlay : Option (Player n)
  overwrite : Option (Player n)
  /-- Layers are turned to the other end of the strip when they are added. -/
  mirrored : Bool
  /-- The random source layers and hooks share. -/
  generator : Generator

namespace Layers

variable {n : Nat}

/-- All slots empty. -/
def bare (mirrored : Bool) (generator : Generator) : Layers n :=
  { underlay := none, overlay := none, overwrite := none, mirrored, generator }

/-- What is in a slot. -/
def get (layers : Layers n) : Slot → Option (Player n)
  | .underlay => layers.underlay
  | .overlay => layers.overlay
  | .overwrite => layers.overwrite

/-- Put something in a slot, or nothing. -/
def set (layers : Layers n) (slot : Slot) (player : Option (Player n)) : Layers n :=
  match slot with
  | .underlay => { layers with underlay := player }
  | .overlay => { layers with overlay := player }
  | .overwrite => { layers with overwrite := player }

@[simp] theorem get_set_self (layers : Layers n) (slot : Slot) (player : Option (Player n)) :
    (layers.set slot player).get slot = player := by
  cases slot <;> rfl

/-- Slots do not touch each other. -/
theorem get_set_of_ne (layers : Layers n) {slot other : Slot} (player : Option (Player n))
    (h : other ≠ slot) : (layers.set slot player).get other = layers.get other := by
  cases slot <;> cases other <;> first | rfl | exact absurd rfl h

@[simp] theorem generator_set (layers : Layers n) (slot : Slot) (player : Option (Player n)) :
    (layers.set slot player).generator = layers.generator := by
  cases slot <;> rfl

@[simp] theorem mirrored_set (layers : Layers n) (slot : Slot) (player : Option (Player n)) :
    (layers.set slot player).mirrored = layers.mirrored := by
  cases slot <;> rfl

/-- Empty a slot. -/
def clear (layers : Layers n) (slot : Slot) : Layers n := layers.set slot none

/-- Fill a slot with a script, from its first frame.  A script that fails leaves the slot as it is,
    but has taken its child of the generator. -/
def add (layers : Layers n) (slot : Slot) (script : Script n) :
    Logged (Except ScriptError Unit × Layers n) := do
  let seeds := layers.generator.fork
  let forked := { layers with generator := seeds.2 }
  match ← Player.start script layers.mirrored slot.mode seeds.1 with
  | .error fault => pure (.error fault, forked)
  | .ok player => pure (.ok (), forked.set slot (some player))

/-- Fill several slots, one after the other.  Nothing is left of layers that fail to be set up. -/
def addAll (layers : Layers n) : List (Slot × Script n) → Logged (Except ScriptError (Layers n))
  | [] => pure (.ok layers)
  | (slot, script) :: rest => do
    match ← layers.add slot script with
    | (.error fault, _) => pure (.error fault)
    | (.ok (), next) => next.addAll rest

/-- Whether there is something to play in a slot.  An overwrite that is played out counts as
    gone. -/
def holds (layers : Layers n) (slot : Slot) : Bool :=
  match slot with
  | .overwrite => layers.overwrite.any fun player => !player.isEmpty
  | slot => (layers.get slot).isSome

/-- The next frame of a layer, if it has one. -/
def read : Option (Player n) → Logged (Option (Frame n) × Option (Player n))
  | none => pure (none, none)
  | some player => do
    if player.isEmpty then pure (none, some player)
    else
      match ← player.nextFrame with
      | .ok (frame, next) => pure (some frame, some next)
      | .error _ => pure (none, some player)

/-- What is seen when the frames of all layers come together. -/
def stack (base : Frame n) (under upper whole : Option (Frame n)) : Frame n :=
  let raised := match under with
    | some frame => frame.merge base
    | none => base
  let covered := match upper with
    | some frame => raised.merge frame
    | none => raised
  whole.getD covered

/-- Drop an overwrite that has nothing left. -/
def dropFinished (overwrite : Option (Player n)) : Logged (Option (Player n)) := do
  if overwrite.any Player.isEmpty then
    report .debug "[Layers.compose] overwrite finished"
    pure none
  else pure overwrite

/-- Read one frame of every layer and lay them around a base frame. -/
def compose (layers : Layers n) (base : Frame n) : Logged (Frame n × Layers n) := do
  let (under, underlay) ← read layers.underlay
  let (upper, overlay) ← read layers.overlay
  let (whole, playing) ← read layers.overwrite
  let overwrite ← dropFinished playing
  pure (stack base under upper whole, { layers with underlay, overlay, overwrite })

end Layers

end LedAnimation
