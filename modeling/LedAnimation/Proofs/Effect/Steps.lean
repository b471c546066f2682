/-
  An effect one step at a time.

  As scripts always compile, filling a slot always succeeds (`value_add`), and so does setting up an
  effect whose configuration is in order and whose base script is not empty (`value_start`).  A tick
  in closed form (`value_compose`) reads every layer once, whether or not it is seen.

  * `Effect.Step`   — what can be done with an effect, in any order: tick, fill or empty a slot,
    change the brightness, or send an intent, which is one of these under another name
    (`step_intent`).
  * `Effect.step`   — what a step gives back, and the effect after it.  A step that fails leaves the
    effect as it was.
  * `Effect.run`    — the effect after several steps.
-/
import LedAnimation.Intent
import LedAnimation.Proofs.Playback.Basic

namespace LedAnimation

variable {n : Nat}

/-! ## Layers -/

namespace Layers

/-- The layers with a script put in a slot. -/
def filled (layers : Layers n) (slot : Slot) (script : Script n) : Layers n :=
  { layers with generator := layers.generator.advance }.set slot
    (some (Player.begun script layers.mirrored slot.mode ⟨layers.generator.word64⟩))

/-- **Filling a slot never fails.** -/
theorem value_add (layers : Layers n) (slot : Slot) (script : Script n) :
    (layers.add slot script).value = (.ok (), layers.filled slot script) := by
  rw [add, Logged.value_bind, Player.value_start]
  rfl

/-- The layers with several slots filled, one after the other. -/
def filledAll (layers : Layers n) (entries : List (Slot × Script n)) : Layers n :=
  entries.foldl (fun layers entry => layers.filled entry.1 entry.2) layers

/-- Filling slots one after the other never fails, as none of the single fillings does. -/
theorem value_addAll (layers : Layers n) (entries : List (Slot × Script n)) :
    (layers.addAll entries).value = .ok (layers.filledAll entries) := by
  induction entries generalizing layers with
  | nil => rfl
  | cons entry rest ih =>
    obtain ⟨slot, script⟩ := entry
    rw [addAll, Logged.value_bind, value_add]
    exact ih (layers.filled slot script)

/-- A layer gives what its player gives, and moves on with it. -/
theorem value_read (slot : Option (Player n)) :
    (read slot).value = (slot.bind Player.frame?, slot.map Player.next) := by
  cases slot with
  | none => rfl
  | some p =>
    rw [read, Option.bind_some, Option.map_some, Player.frame?_eq]
    by_cases hempty : p.isEmpty = true
    · have hnone := Player.frames_of_isEmpty hempty
      rw [if_pos hempty, hnone, Player.next_of_none hnone]
      rfl
    · rw [if_neg hempty, Logged.value_bind]
      cases hframe : p.frames[p.position]? with
      | none =>
        rw [Player.value_nextFrame_of_none hframe, Player.next_of_none hframe]
        rfl
      | some frame =>
        rw [Player.value_nextFrame_of_some hframe, Player.next_of_some hframe]
        rfl

/-! ### Players with something left -/

/-- A slot, without a player that has nothing left. -/
def live (slot : Option (Player n)) : Option (Player n) := slot.filter fun p => !p.isEmpty

/-- With something left a player stays in its slot, and without it is taken out. -/
theorem live_some (p : Player n) : live (some p) = if p.isEmpty then none else some p := by
  rw [live, Option.filter_some]
  cases p.isEmpty <;> rfl

/-- The two cases of this, to rewrite with what is known of a player: one that has ended, -/
theorem live_of_isEmpty {p : Player n} (h : p.isEmpty = true) : live (some p) = none := by
  rw [live_some, if_pos h]

/-- and one that has not. -/
theorem live_of_not_isEmpty {p : Player n} (h : p.isEmpty = false) : live (some p) = some p := by
  rw [live_some, h]
  rfl

/-- An overwrite stays as long as there is something left of it. -/
theorem value_dropFinished (overwrite : Option (Player n)) :
    (dropFinished overwrite).value = live overwrite := by
  cases overwrite with
  | none => rfl
  | some p =>
    rw [dropFinished, Option.any_some, live_some]
    cases p.isEmpty <;> rfl

/-- An overwrite counts as there as long as there is something left of it. -/
theorem holds_overwrite (layers : Layers n) :
    layers.holds .overwrite = (live layers.overwrite).isSome := by
  show layers.overwrite.any _ = _
  cases layers.overwrite with
  | none => rfl
  | some p =>
    rw [Option.any_some, live_some]
    cases p.isEmpty <;> rfl

/-! ### One frame of each -/

/-- The layers after one frame of each was read. -/
def advanced (layers : Layers n) : Layers n :=
  { layers with
    underlay := layers.underlay.map Player.next
    overlay := layers.overlay.map Player.next
    overwrite := live (layers.overwrite.map Player.next) }

/-- **One frame of every layer, laid around a base frame.** -/
theorem value_compose (layers : Layers n) (base : Frame n) :
    (layers.compose base).value
      = (stack base (layers.underlay.bind Player.frame?) (layers.overlay.bind Player.frame?)
          (layers.overwrite.bind Player.frame?), layers.advanced) := by
  -- underlay, overlay and overwrite are read in this order, whether or not they will be seen
  rw [compose, Logged.value_bind, value_read]
  dsimp only
  rw [Logged.value_bind, value_read]
  dsimp only
  rw [Logged.value_bind, value_read]
  dsimp only
  rw [Logged.value_bind, value_dropFinished]
  rfl

/-! ### Players seen in another way -/

section SeenAs

variable {f : Player n → Player n}

/-- The layers with every player seen in another way. -/
def seenAs (f : Player n → Player n) (layers : Layers n) : Layers n :=
  { layers with
    underlay := layers.underlay.map f
    overlay := layers.overlay.map f
    overwrite := layers.overwrite.map f }

/-- A view that keeps the ends of players keeps those in the slots that count as live. -/
theorem live_map (hempty : ∀ p, (f p).isEmpty = p.isEmpty) (slot : Option (Player n)) :
    live (slot.map f) = (live slot).map f := by
  cases slot with
  | none => rfl
  | some p =>
    rw [Option.map_some, live_some, live_some, hempty]
    cases p.isEmpty <;> rfl

/-- Reading a slot as it is seen, provided that players may be read as they are seen. -/
theorem map_next_map (hnext : ∀ p, (f p).next = f p.next) (slot : Option (Player n)) :
    (slot.map f).map Player.next = (slot.map Player.next).map f := by
  cases slot with
  | none => rfl
  | some p => exact congrArg some (hnext p)

/-- Where a read goes the same way for both views of a player, it does so for the layers. -/
theorem advanced_seenAs (hnext : ∀ p, (f p).next = f p.next)
    (hempty : ∀ p, (f p).isEmpty = p.isEmpty) (layers : Layers n) :
    (layers.seenAs f).advanced = layers.advanced.seenAs f := by
  rw [advanced, advanced, seenAs, seenAs]
  dsimp only
  rw [map_next_map hnext, map_next_map hnext, map_next_map hnext, live_map hempty]

/-- Such a view takes no slot for another one: what is held is held in both. -/
theorem holds_seenAs (hempty : ∀ p, (f p).isEmpty = p.isEmpty) (layers : Layers n) (slot : Slot) :
    (layers.seenAs f).holds slot = layers.holds slot := by
  cases slot with
  | underlay => exact Option.isSome_map
  | overlay => exact Option.isSome_map
  | overwrite =>
    rw [holds_overwrite, holds_overwrite]
    show (live (layers.overwrite.map f)).isSome = _
    rw [live_map hempty]
    exact Option.isSome_map

end SeenAs

end Layers

/-! ## Effects -/

namespace Effect

variable {σ : Type}

/-- The effect a configuration in order and a base script that is not empty set up. -/
def started (script : Script n) (config : Config n) (entropy : UInt64) : Effect Unit n :=
  let source := Generator.mk (config.seed.getD entropy)
  { base := Player.begun script config.mirrored .loop ⟨source.word64⟩
    layers := (Layers.bare config.mirrored source.advance).filledAll config.layers
    fps := config.fps
    brightness := config.brightness
    state := .idle
    hook := Hook.idle
    memory := () }

/-- **The outcome of setting up an effect**: the first fault of the configuration, or that the base
    script is empty, or else an effect. -/
theorem value_start (script : Script n) (config : Config n) (entropy : UInt64) :
    (start script config entropy).value
      = match config.fault? with
        | some fault => .error (.config fault)
        | none =>
          if script.isEmpty then .error (.script .empty)
          else .ok (started script config entropy) := by
  rw [start]
  cases config.fault? with
  | some fault => rfl
  | none =>
    dsimp only
    by_cases hempty : script.isEmpty = true
    · rw [if_pos hempty, if_pos hempty]
      rfl
    · rw [if_neg hempty, if_neg hempty, Player.looping, Logged.value_bind, Player.value_start]
      dsimp only
      rw [Logged.value_bind, Layers.value_addAll]
      rfl

/-- A configuration in order and a base script that is not empty are all it takes. -/
theorem start_eq_ok {script : Script n} {config : Config n} (hfault : config.fault? = none)
    (hscript : script.isEmpty = false) (entropy : UInt64) :
    (start script config entropy).value = .ok (started script config entropy) := by
  rw [value_start, hfault, hscript]
  rfl

/-- A base gives what its player gives, or no light. -/
theorem value_readBase (base : Player n) :
    (readBase base).value = (base.frame?.getD (Frame.dark n), base.next) := by
  rw [readBase, Logged.value_bind, Player.frame?_eq]
  cases hframe : base.frames[base.position]? with
  | none =>
    rw [Player.value_nextFrame_of_none hframe, Player.next_of_none hframe]
    rfl
  | some frame =>
    rw [Player.value_nextFrame_of_some hframe, Player.next_of_some hframe]
    rfl

/-- The frame a tick shows. -/
def shown (e : Effect σ n) : Frame n :=
  Layers.stack (e.base.frame?.getD (Frame.dark n)) (e.layers.underlay.bind Player.frame?)
    (e.layers.overlay.bind Player.frame?) (e.layers.overwrite.bind Player.frame?)

/-- The effect a tick leaves behind. -/
def ticked (e : Effect σ n) : Effect σ n :=
  let hooked := (e.hook e.memory e.layers.advanced).value
  { e with base := e.base.next, layers := hooked.2, memory := hooked.1, state := .running }

/-- **A tick in closed form**: the frame it shows, and the effect it leaves.  This is where the
    reports of a tick are put aside. -/
theorem value_tick (e : Effect σ n) : e.tick.value = (e.shown, e.ticked) := by
  rw [tick, Logged.value_bind, value_readBase]
  dsimp only
  rw [Logged.value_bind, Layers.value_compose]
  rfl

/-- Without a hook a tick moves base and layers on, and does nothing else. -/
theorem ticked_of_idle {e : Effect σ n} (h : e.hook = Hook.idle) :
    e.ticked
      = { e with base := e.base.next, layers := e.layers.advanced, state := .running } := by
  rw [ticked, h]
  rfl

/-- The layers after it, which is all that most callers ask for. -/
theorem layers_ticked_of_idle {e : Effect σ n} (h : e.hook = Hook.idle) :
    e.ticked.layers = e.layers.advanced := by
  rw [ticked_of_idle h]

/-- Adding a script to an effect fills a slot and gives back no error. -/
theorem value_add (e : Effect σ n) (slot : Slot) (script : Script n) :
    (e.add slot script).value = (.ok (), { e with layers := e.layers.filled slot script }) := by
  rw [add, Logged.value_bind, Layers.value_add]
  rfl

/-! ## Steps -/

/-- What can be done with an effect. -/
inductive Step (n : Nat) where
  | tick
  | add (slot : Slot) (script : Script n)
  | clear (slot : Slot)
  | brightness (brightness : Binary32)
  | intent (intent : Intent n)

/-- What a step gives back. -/
inductive Reply (n : Nat) where
  | frame (frame : Frame n)
  | done (outcome : Except EffectError Unit)

/-- One step.  A change that is refused has an effect after it as well. -/
def step (e : Effect σ n) : Step n → Reply n × Effect σ n
  | .tick => e.tick.value.map .frame id
  | .add slot script => (e.add slot script).value.map .done id
  | .clear slot => (.done (.ok ()), e.clear slot)
  | .brightness brightness =>
    (e.setBrightness brightness).map (fun outcome => .done (outcome.mapError .config)) id
  | .intent intent => (e.apply intent).value.map .done id

/-- The effect after several steps. -/
def run (e : Effect σ n) (steps : List (Step n)) : Effect σ n :=
  steps.foldl (fun e step => (e.step step).2) e

@[simp] theorem run_cons (e : Effect σ n) (step : Step n) (steps : List (Step n)) :
    e.run (step :: steps) = (e.step step).2.run steps := rfl

/-- The steps one by one.  A tick gives back the frame that it shows, -/
theorem step_tick (e : Effect σ n) : e.step .tick = (.frame e.shown, e.ticked) := by
  rw [step, value_tick]
  rfl

/-- adding a script succeeds, -/
theorem step_add (e : Effect σ n) (slot : Slot) (script : Script n) :
    e.step (.add slot script)
      = (.done (.ok ()), { e with layers := e.layers.filled slot script }) := by
  rw [step, value_add]
  rfl

/-- and so does emptying a slot, whatever was in it. -/
theorem step_clear (e : Effect σ n) (slot : Slot) :
    e.step (.clear slot) = (.done (.ok ()), e.clear slot) := rfl

/-- A brightness out of range is refused. -/
theorem step_brightness (e : Effect σ n) (brightness : Binary32) :
    e.step (.brightness brightness)
      = match brightnessFault? brightness with
        | some fault => (.done (.error (.config fault)), e)
        | none => (.done (.ok ()), { e with brightness }) := by
  rw [step, setBrightness]
  cases brightnessFault? brightness <;> rfl

end Effect

/-- The step an intent asks for. -/
def Intent.asStep : Intent n → Effect.Step n
  | .overwrite script => .add .overwrite script
  | .underlay (some script) => .add .underlay script
  | .underlay none => .clear .underlay
  | .overlay (some script) => .add .overlay script
  | .overlay none => .clear .overlay
  | .brightness level => .brightness level

/-- An intent is another step under another name. -/
theorem Effect.step_intent {σ : Type} (e : Effect σ n) (intent : Intent n) :
    e.step (.intent intent) = e.step intent.asStep := by
  cases intent with
  | overwrite script => rfl
  | underlay script => cases script <;> rfl
  | overlay script => cases script <;> rfl
  | brightness brightness => rfl

/-- What is shown for every step may be shown of an intent by showing it of the step it asks
    for. -/
@[elab_as_elim]
theorem Effect.Step.inductionOn {motive : Step n → Prop} (step : Step n) (tick : motive .tick)
    (add : ∀ slot script, motive (.add slot script)) (clear : ∀ slot, motive (.clear slot))
    (brightness : ∀ level, motive (.brightness level))
    (intent : ∀ intent : Intent n, motive intent.asStep → motive (.intent intent)) :
    motive step := by
  cases step with
  | tick => exact tick
  | add slot script => exact add slot script
  | clear slot => exact clear slot
  | brightness level => exact brightness level
  | intent asked =>
    apply intent
    cases asked with
    | overwrite script => exact add .overwrite script
    | underlay script =>
      cases script with
      | none => exact clear .underlay
      | some script => exact add .underlay script
    | overlay script =>
      cases script with
      | none => exact clear .overlay
      | some script => exact add .overlay script
    | brightness level => exact brightness level

namespace Effect

variable {σ : Type}

/-- No step changes the hook. -/
theorem hook_step (e : Effect σ n) (step : Step n) : (e.step step).2.hook = e.hook := by
  induction step using Step.inductionOn with
  | tick => rw [step_tick]; rfl
  | add slot script => rw [step_add]
  | clear slot => rfl
  | brightness level =>
    rw [step_brightness]
    cases brightnessFault? level <;> rfl
  | intent intent ih => rw [step_intent, ih]

/-! ## Intents -/

/-- A run grows at its end. -/
theorem run_concat (e : Effect σ n) (steps : List (Step n)) (step : Step n) :
    e.run (steps ++ [step]) = ((e.run steps).step step).2 := by
  rw [run, List.foldl_append]
  rfl

/-- An intent makes of an effect what the step makes of it, whether it is carried out or not. -/
theorem step_of_apply {e next : Effect σ n} {intent : Intent n} {outcome : Except EffectError Unit}
    (h : (e.apply intent).value = (outcome, next)) : (e.step (.intent intent)).2 = next := by
  rw [step, h]
  rfl

/-- **Only a brightness is ever rejected**, and only for being out of range.  The effect then is
    what it was. -/
theorem apply_eq_error_iff {e after : Effect σ n} {intent : Intent n} {fault : EffectError} :
    (e.apply intent).value = (.error fault, after) ↔
      after = e ∧ ∃ level reason, intent = .brightness level ∧
        brightnessFault? level = some reason ∧ fault = .config reason := by
  constructor
  · intro h
    cases intent with
    | overwrite script =>
      rw [apply, value_add] at h
      exact nomatch h
    | underlay script =>
      cases script with
      | none => exact nomatch h
      | some script =>
        rw [apply, change, value_add] at h
        exact nomatch h
    | overlay script =>
      cases script with
      | none => exact nomatch h
      | some script =>
        rw [apply, change, value_add] at h
        exact nomatch h
    | brightness level =>
      rw [apply, setBrightness] at h
      cases hfault : brightnessFault? level with
      | none =>
        rw [hfault] at h
        exact nomatch h
      | some reason =>
        rw [hfault] at h
        obtain ⟨houtcome, hafter⟩ := Prod.mk.inj h
        exact ⟨hafter.symm, level, reason, rfl, hfault, (Except.error.inj houtcome).symm⟩
  · rintro ⟨rfl, level, reason, rfl, hfault, rfl⟩
    rw [apply, setBrightness, hfault]
    rfl

/-- Carrying out several intents, one at a time: those that succeed are counted, and one that is
    rejected stops nothing. -/
theorem value_applyAll_cons (e : Effect σ n) (intent : Intent n) (rest : List (Intent n)) :
    (e.applyAll (intent :: rest)).value
      = match (e.apply intent).value with
        | (.ok (), next) => ((next.applyAll rest).value.1 + 1, (next.applyAll rest).value.2)
        | (.error _, next) => (next.applyAll rest).value := by
  rw [applyAll, Logged.value_bind]
  rcases (e.apply intent).value with ⟨fault | ⟨⟩, next⟩ <;> rfl

/-- **Several intents in a row** make of an effect what their steps make of it. -/
theorem effect_applyAll (e : Effect σ n) (intents : List (Intent n)) :
    (e.applyAll intents).value.2 = e.run (intents.map .intent) := by
  induction intents generalizing e with
  | nil => rfl
  | cons intent rest ih =>
    -- counted or not, the first intent leaves the effect that its step leaves
    rw [value_applyAll_cons, List.map_cons, run_cons]
    rcases happly : (e.apply intent).value with ⟨fault | ⟨⟩, next⟩
    · rw [step_of_apply happly]
      exact ih next
    · rw [step_of_apply happly]
      exact ih next

/-! ## What an onlooker sees -/

/-- What can be asked of an effect between two steps. -/
structure View where
  underlay : Bool
  overlay : Bool
  overwrite : Bool
  brightness : Binary32
  generator : Generator
  deriving DecidableEq

/-- Asking all of it at once.  No question changes the effect. -/
def view (e : Effect σ n) : View where
  underlay := e.layers.holds .underlay
  overlay := e.layers.holds .overlay
  overwrite := e.layers.holds .overwrite
  brightness := e.brightness
  generator := e.layers.generator

/-- What every step of a run gives back, and what can be seen after it. -/
def trace (e : Effect σ n) : List (Step n) → List (Reply n × View)
  | [] => []
  | step :: steps =>
    let after := e.step step
    (after.1, after.2.view) :: after.2.trace steps

/-- A run from its first moment on. -/
def history (e : Effect σ n) (steps : List (Step n)) : View × List (Reply n × View) :=
  (e.view, e.trace steps)

end Effect

end LedAnimation
