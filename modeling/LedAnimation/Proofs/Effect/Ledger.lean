/-
  What an effect should show, told from its history alone.

  A `Ledger` plays nothing.  It writes down how many ticks there were, and for every slot which
  script was put there, which number the layer has in the order of installation, and at which tick.
  From that and the seed generator `Ledger.picture` tells the frame of the next tick:

  * the base contributes frame `t` of its own looping player, `t` being the ticks so far;
  * an underlay or overlay contributes frame `j` of its own looping player, `j` being the ticks
    since it was installed, whether or not an overwrite was hiding it;
  * an overwrite contributes its compiled frame `j` as long as there is one;
  * the base player is seeded with word 0 of the seed generator, layer `k` with word `k`.

  The streams are independent: none of them looks at another one, nor at what became of it.
-/
import LedAnimation.Proofs.Effect.Steps

namespace LedAnimation

variable {n : Nat}

/-! ## The words of a seed -/

namespace Generator

/-- The generator after `i` words. -/
def skip (g : Generator) : Nat → Generator
  | 0 => g
  | i + 1 => (g.skip i).advance

/-- Word `i` of the generator, counted from 0. -/
def wordAt (g : Generator) (i : Nat) : UInt64 := (g.skip i).word64

end Generator

/-! ## What is written down -/

/-- A layer as it was installed. -/
structure Layer (n : Nat) where
  script : Script n
  /-- Its number in the order of installation, the first one being number 1. -/
  number : Nat
  /-- The ticks before it was installed. -/
  since : Nat

/-- What is written down about a run. -/
structure Ledger (n : Nat) where
  ticks : Nat
  installs : Nat
  layers : Slot → Option (Layer n)

namespace Ledger

/-- Nothing has happened yet. -/
def blank : Ledger n := { ticks := 0, installs := 0, layers := fun _ => none }

/-- A script was put in a slot. -/
def install (ledger : Ledger n) (slot : Slot) (script : Script n) : Ledger n :=
  let number := ledger.installs + 1
  { ledger with
    installs := number
    layers := fun other =>
      if other = slot then some { script, number, since := ledger.ticks } else ledger.layers other }

/-- A slot was emptied. -/
def remove (ledger : Ledger n) (slot : Slot) : Ledger n :=
  { ledger with layers := fun other => if other = slot then none else ledger.layers other }

/-- The layers of the configuration are installed first, the underlay before the overlay. -/
def opening (config : Config n) : Ledger n :=
  let under := match config.underlay with
    | some script => blank.install .underlay script
    | none => blank
  match config.overlay with
  | some script => under.install .overlay script
  | none => under

/-- One step is written down. -/
def note (ledger : Ledger n) : Effect.Step n → Ledger n
  | .tick => { ledger with ticks := ledger.ticks + 1 }
  | .add slot script => ledger.install slot script
  | .clear slot => ledger.remove slot
  | .brightness _ => ledger
  | .intent (.overwrite script) => ledger.install .overwrite script
  | .intent (.underlay (some script)) => ledger.install .underlay script
  | .intent (.underlay none) => ledger.remove .underlay
  | .intent (.overlay (some script)) => ledger.install .overlay script
  | .intent (.overlay none) => ledger.remove .overlay
  | .intent (.brightness _) => ledger

/-- A whole run is written down. -/
def notes (ledger : Ledger n) (steps : List (Effect.Step n)) : Ledger n := steps.foldl note ledger

/-- The ticks since a layer was installed. -/
def age (ledger : Ledger n) (layer : Layer n) : Nat := ledger.ticks - layer.since

end Ledger

/-! ## What is told from it -/

section Streams

variable (source : Generator) (mirrored : Bool)

/-- Frame `j` of the looping player of a script that is seeded with word `i`. -/
def loopFrame (script : Script n) (i j : Nat) : Option (Frame n) :=
  ((Player.begun script mirrored .loop ⟨source.wordAt i⟩).after j).frame?

/-- The frames of a script compiled with the generator that is seeded with word `i`. -/
def compiledFrames (script : Script n) (i : Nat) : List (Frame n) :=
  (script.cycle ⟨source.wordAt i⟩).map (Frame.orient mirrored)

namespace Ledger

/-- What an underlay or overlay contributes. -/
def looped (ledger : Ledger n) (slot : Slot) : Option (Frame n) :=
  (ledger.layers slot).bind fun layer =>
    loopFrame source mirrored layer.script layer.number (ledger.age layer)

/-- What an overwrite contributes. -/
def flashed (ledger : Ledger n) : Option (Frame n) :=
  (ledger.layers .overwrite).bind fun layer =>
    (compiledFrames source mirrored layer.script layer.number)[ledger.age layer]?

/-- Whether an overwrite is still playing. -/
def flashes (ledger : Ledger n) : Bool :=
  (ledger.layers .overwrite).any fun layer =>
    ledger.age layer < (compiledFrames source mirrored layer.script layer.number).length

/-- The frame of the next tick: the overwrite, or else the underlay below the base below the
    overlay. -/
def picture (ledger : Ledger n) (base : Script n) : Option (Frame n) :=
  (loopFrame source mirrored base 0 ledger.ticks).map fun frame =>
    (ledger.flashed source mirrored).getD
      ((((ledger.looped source mirrored .underlay).getD (Frame.dark n)).merge frame).merge
        ((ledger.looped source mirrored .overlay).getD (Frame.dark n)))

end Ledger

end Streams

end LedAnimation
