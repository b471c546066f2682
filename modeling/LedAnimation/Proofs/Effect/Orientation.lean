/-
  A mirrored effect is the exact mirror image of the upright one, over whole runs.

  The mirror image of an effect has every player turned around, and will turn what is added to it
  the other way (`Effect.mirror`).  Setting up an effect with the flag gives the image of the effect
  without it (`start_mirror`), and a step of the image gives back the image of what the step gives
  back (`step_mirror`), so whole runs are images of each other (`history_mirror`).

  Merging commutes with turning for every pattern of transparency, as both ends of the strip see the
  same stack (`stack_mirror`).  A hook has to play along: what it does to the layers may not depend
  on the end they are seen from (`Hook.Turnable`).  No hook and thunder do.
-/
import LedAnimation.Preview.Thunder
import LedAnimation.Proofs.Effect.Steps
import LedAnimation.Proofs.Playback.Orientation

namespace LedAnimation

variable {n : Nat}

/-- An effect that shows nothing shows it from both ends. -/
@[simp] theorem Frame.mirror_dark : (Frame.dark n).mirror = Frame.dark n := by
  ext i h
  rw [Frame.getElem_mirror, Frame.getElem_dark, Frame.getElem_dark]

/-! ## Layers -/

namespace Layers

/-- All layers turned around, and all that will be added. -/
def mirror (layers : Layers n) : Layers n :=
  { layers with
    underlay := layers.underlay.map Player.mirror
    overlay := layers.overlay.map Player.mirror
    overwrite := layers.overwrite.map Player.mirror
    mirrored := !layers.mirrored }

/-- Both ends of the strip see the same stack. -/
theorem stack_mirror (base : Frame n) (under upper whole : Option (Frame n)) :
    stack base.mirror (under.map Frame.mirror) (upper.map Frame.mirror) (whole.map Frame.mirror)
      = (stack base under upper whole).mirror := by
  cases whole with
  | some frame => rfl
  | none =>
    cases under with
    | none =>
      cases upper with
      | none => rfl
      | some upper => exact (Frame.mirror_merge base upper).symm
    | some under =>
      have hraised : under.mirror.merge base.mirror = (under.merge base).mirror :=
        (Frame.mirror_merge under base).symm
      cases upper with
      | none => exact hraised
      | some upper =>
        show (under.mirror.merge base.mirror).merge upper.mirror = _
        rw [hraised]
        exact (Frame.mirror_merge _ upper).symm

/-- A player is started in the orientation that the layers were set up with, so the image of the
    layers starts the image of the player. -/
theorem begun_not (script : Script n) (mirrored : Bool) (mode : PlaybackMode) (g : Generator) :
    Player.begun script (!mirrored) mode g = (Player.begun script mirrored mode g).mirror := by
  rw [Player.begun_eq_orient, Player.begun_eq_orient script mirrored, Player.mirror_orient]

/-- Filling a slot of the image.  The seed of the new player is drawn from a generator that no turn
    touches. -/
theorem filled_mirror (layers : Layers n) (slot : Slot) (script : Script n) :
    layers.mirror.filled slot script = (layers.filled slot script).mirror := by
  have hplayer := begun_not script layers.mirrored slot.mode ⟨layers.generator.word64⟩
  have hflag : layers.mirror.mirrored = !layers.mirrored := rfl
  have hword : layers.mirror.generator.word64 = layers.generator.word64 := rfl
  rw [filled, filled, hflag, hword, hplayer]
  cases slot <;> rfl

/-- The layers of a configuration are filled one after the other, so the image goes through with
    them. -/
theorem filledAll_mirror (layers : Layers n) (entries : List (Slot × Script n)) :
    layers.mirror.filledAll entries = (layers.filledAll entries).mirror := by
  induction entries generalizing layers with
  | nil => rfl
  | cons entry rest ih =>
    show (layers.mirror.filled entry.1 entry.2).filledAll rest = _
    rw [filled_mirror, ih]
    rfl

/-- Emptying a slot of the image. -/
theorem clear_mirror (layers : Layers n) (slot : Slot) :
    layers.mirror.clear slot = (layers.clear slot).mirror := by
  cases slot <;> rfl

/-- What a slot contributes to the picture is turned, and an empty slot contributes nothing. -/
theorem bind_frame?_mirror (slot : Option (Player n)) :
    (slot.map Player.mirror).bind Player.frame? = (slot.bind Player.frame?).map Frame.mirror := by
  cases slot with
  | none => rfl
  | some p => exact p.frame?_mirror

/-- A tick reads the image of what it reads.  An overwrite that has nothing left is dropped from
    either end in the same tick, as turning keeps the number of frames. -/
theorem advanced_mirror (layers : Layers n) : layers.mirror.advanced = layers.advanced.mirror := by
  show { (layers.seenAs Player.mirror).advanced with mirrored := !layers.mirrored } = _
  rw [advanced_seenAs Player.next_mirror Player.isEmpty_mirror]
  rfl

/-- From both ends the same slots are taken. -/
theorem holds_mirror (layers : Layers n) (slot : Slot) :
    layers.mirror.holds slot = layers.holds slot := by
  rw [← holds_seenAs Player.isEmpty_mirror layers]
  cases slot <;> rfl

end Layers

/-! ## Hooks that do not care -/

/-- What the hook does to the layers does not depend on the end of the strip they are seen from. -/
def Hook.Turnable {σ : Type} (hook : Hook σ n) : Prop :=
  ∀ memory layers, (hook memory layers.mirror).value
    = ((hook memory layers).value.1, (hook memory layers).value.2.mirror)

/-- Without a hook there is nothing that could care. -/
theorem Hook.idle_turnable {σ : Type} : Hook.Turnable (Hook.idle : Hook σ n) :=
  fun _ _ => rfl

/-- A hook without a memory, that does the same to the layers from both ends. -/
theorem Hook.turnable_of_layers {f : Layers n → Logged (Layers n)}
    (h : ∀ layers, (f layers.mirror).value = (f layers).value.mirror) :
    Hook.Turnable (fun (_ : Unit) layers => do pure ((), ← f layers)) := by
  intro memory layers
  show ((), (f layers.mirror).value) = ((), (f layers).value.mirror)
  rw [h]

/-- The layers after a number was drawn for thunder. -/
def Thunder.struck (layers : Layers Catalog.leds) (draw : Nat × Generator) : Layers Catalog.leds :=
  let drawn := { layers with generator := draw.2 }
  if draw.1 = 1 then drawn.filled .overwrite Catalog.thunderFlash else drawn

/-- A stroke of lightning in closed form. -/
theorem Thunder.value_strike (layers : Layers Catalog.leds) :
    (strike layers).value = struck layers (layers.generator.byteIn 0 10) := by
  rw [strike, struck]
  generalize layers.generator.byteIn 0 10 = draw
  dsimp only
  by_cases hstrike : draw.1 = 1
  · rw [if_pos hstrike, if_pos hstrike, Logged.value_bind, Logged.value_bind, Layers.value_add]
    dsimp only
    rw [Logged.value_pure]
  · rw [if_neg hstrike, if_neg hstrike, Logged.value_pure]

/-- The draw decides whether there is a flash, and the flash is turned as any layer is. -/
theorem Thunder.struck_mirror (layers : Layers Catalog.leds) (draw : Nat × Generator) :
    struck layers.mirror draw = (struck layers draw).mirror := by
  rw [struck, struck]
  by_cases hdraw : draw.1 = 1
  · rw [if_pos hdraw, if_pos hdraw]
    exact Layers.filled_mirror { layers with generator := draw.2 } .overwrite Catalog.thunderFlash
  · -- no stroke: the layers are those of the draw
    rw [if_neg hdraw, if_neg hdraw]
    rfl

/-- So a stroke of lightning is the image of one, with the same draws, -/
theorem Thunder.value_strike_mirror (layers : Layers Catalog.leds) :
    (strike layers.mirror).value = (strike layers).value.mirror := by
  rw [value_strike, value_strike]
  exact struck_mirror layers (layers.generator.byteIn 0 10)

/-- and thunder plays along with mirrored effects. -/
theorem Thunder.hook_turnable : Hook.Turnable Thunder.hook :=
  Hook.turnable_of_layers value_strike_mirror

/-! ## Effects -/

namespace Effect

variable {σ : Type}

/-- The effect turned around. -/
def mirror (e : Effect σ n) : Effect σ n :=
  { e with base := e.base.mirror, layers := e.layers.mirror }

/-- The picture of the image is the image of the picture.  An exhausted base shows darkness, which
    has no ends. -/
theorem shown_mirror (e : Effect σ n) : e.mirror.shown = e.shown.mirror := by
  have hbase : e.base.mirror.frame?.getD (Frame.dark n)
      = (e.base.frame?.getD (Frame.dark n)).mirror := by
    rw [Player.frame?_mirror]
    cases e.base.frame? with
    | none => exact Frame.mirror_dark.symm
    | some frame => rfl
  rw [shown, shown, mirror, Layers.mirror]
  dsimp only
  rw [hbase, Layers.bind_frame?_mirror, Layers.bind_frame?_mirror, Layers.bind_frame?_mirror]
  exact Layers.stack_mirror _ _ _ _

/-- A tick of the image leaves the image of what the tick leaves, provided that the hook plays
    along: it is called on the layers that were just read. -/
theorem ticked_mirror {e : Effect σ n} (h : e.hook.Turnable) :
    e.mirror.ticked = e.ticked.mirror := by
  show ({ e with
      base := e.base.mirror.next
      layers := (e.hook e.memory e.layers.mirror.advanced).value.2
      memory := (e.hook e.memory e.layers.mirror.advanced).value.1
      state := .running } : Effect σ n) = _
  rw [Player.next_mirror, Layers.advanced_mirror, h e.memory e.layers.advanced]
  rfl

/-- **Setting up an effect with the flag** gives the image of the effect without it, or the same
    error. -/
theorem start_mirror (script : Script n) (config : Config n) (entropy : UInt64) :
    (start script { config with mirrored := true } entropy).value
      = (start script { config with mirrored := false } entropy).value.map mirror := by
  -- the flag changes no draw, so the same seeds go to the same layers
  have himage : started script { config with mirrored := true } entropy
      = (started script { config with mirrored := false } entropy).mirror := by
    let source := Generator.mk (config.seed.getD entropy)
    have hlayers : (Layers.bare true source.advance).filledAll config.layers
        = ((Layers.bare false source.advance).filledAll config.layers).mirror :=
      Layers.filledAll_mirror (Layers.bare false source.advance) config.layers
    show ({
        base := Player.begun script true .loop ⟨source.word64⟩
        layers := (Layers.bare true source.advance).filledAll config.layers
        fps := config.fps
        brightness := config.brightness
        state := .idle
        hook := Hook.idle
        memory := () } : Effect Unit n) = _
    rw [hlayers]
    rfl
  have hfault : Config.fault? { config with mirrored := true }
      = Config.fault? { config with mirrored := false } := rfl
  -- both setups refuse for the same reason, or both succeed
  rw [value_start, value_start, himage, hfault]
  cases Config.fault? _ with
  | some fault => rfl
  | none =>
    dsimp only
    cases script.isEmpty <;> rfl

/-! ## Steps -/

/-- What a step gives back, seen from the other end of the strip: a frame is reversed. -/
def Reply.mirror : Reply n → Reply n
  | .frame x => .frame x.reverse
  | .done outcome => .done outcome

/-- **A step of the image** gives back the image of what the step gives back, and leaves the image
    of what the step leaves.  One case for each kind of step; intents are other steps. -/
theorem step_mirror {e : Effect σ n} (h : e.hook.Turnable) (step : Step n) :
    e.mirror.step step = ((e.step step).1.mirror, (e.step step).2.mirror) := by
  induction step using Step.inductionOn with
  | tick =>
    rw [step_tick, step_tick, shown_mirror, ticked_mirror h]
    rfl
  | add slot script =>
    rw [step_add, step_add]
    show (_, { e.mirror with layers := e.layers.mirror.filled slot script }) = _
    rw [Layers.filled_mirror]
    rfl
  | clear slot =>
    rw [step_clear, step_clear]
    show (_, { e.mirror with layers := e.layers.mirror.clear slot }) = _
    rw [Layers.clear_mirror]
    rfl
  | brightness level =>
    rw [step_brightness, step_brightness]
    cases brightnessFault? level <;> rfl
  | intent intent ih => rw [step_intent, step_intent, ih]

/-! ## Whole runs -/

/-- The view has nothing with ends in it, so it is the same from both. -/
theorem view_mirror (e : Effect σ n) : e.mirror.view = e.view := by
  show ({ underlay := e.layers.mirror.holds .underlay
          overlay := e.layers.mirror.holds .overlay
          overwrite := e.layers.mirror.holds .overwrite
          brightness := e.brightness
          generator := e.layers.generator } : View) = _
  rw [Layers.holds_mirror, Layers.holds_mirror, Layers.holds_mirror]
  rfl

/-- A run seen from the other end of the strip. -/
def turnedHistory (history : View × List (Reply n × View)) : View × List (Reply n × View) :=
  (history.1, history.2.map fun entry => (entry.1.mirror, entry.2))

/-- **Runs of an effect and of its image** are images of each other.  By induction on the steps;
    the hook never changes, so it plays along at each of them. -/
theorem history_mirror {e : Effect σ n} (h : e.hook.Turnable) (steps : List (Step n)) :
    e.mirror.history steps = turnedHistory (e.history steps) := by
  have htrace : e.mirror.trace steps
      = (e.trace steps).map fun entry => (entry.1.mirror, entry.2) := by
    induction steps generalizing e with
    | nil => rfl
    | cons step steps ih =>
      -- no step replaces the hook
      have hnext : (e.step step).2.hook.Turnable := by
        rw [hook_step]
        exact h
      rw [trace, trace, step_mirror h, List.map_cons]
      dsimp only
      rw [view_mirror, ih hnext]
  rw [history, history, turnedHistory, view_mirror, htrace]

/-- Thunder may be put on the image, or on the effect before it is turned. -/
theorem withHook_mirror {τ : Type} (e : Effect σ n) (hook : Hook τ n) (memory : τ) :
    e.mirror.withHook hook memory = (e.withHook hook memory).mirror := rfl

/-- What is true of a fresh effect and its image is true of the two effects that are set up with
    and without the flag. -/
theorem start_map_mirror {α : Type} {f g : Effect Unit n → α}
    (h : ∀ e, e.hook = Hook.idle → f e.mirror = g e) (script : Script n) (config : Config n)
    (entropy : UInt64) :
    (start script { config with mirrored := true } entropy).value.map f
      = (start script { config with mirrored := false } entropy).value.map g := by
  rw [start_mirror, value_start]
  cases Config.fault? _ with
  | some fault => rfl
  | none =>
    dsimp only
    by_cases hempty : script.isEmpty = true
    · rw [if_pos hempty]
      rfl
    · rw [if_neg hempty]
      exact congrArg Except.ok (h _ rfl)

/-- **Mirrored effects are exact mirror images over whole runs.**  The mirrored effect and the
    upright one are set up by the same configurations, or refused with the same error.  Whatever is
    done with them, every tick of the mirrored one shows the upright frame turned around, every
    change succeeds or fails alike, and layers, brightness and generator agree after every step:
    without a hook, and with thunder. -/
theorem mirrored_run_is_mirror_image :
    (∀ {n : Nat} (script : Script n) (config : Config n) (entropy : UInt64) (steps : List (Step n)),
      (start script { config with mirrored := true } entropy).value.map (history · steps)
        = (start script { config with mirrored := false } entropy).value.map
            fun e => turnedHistory (e.history steps)) ∧
    (∀ (script : Script Catalog.leds) (config : Config Catalog.leds) (entropy : UInt64)
        (steps : List (Step Catalog.leds)),
      (start script { config with mirrored := true } entropy).value.map
          (fun e => (e.withHook Thunder.hook ()).history steps)
        = (start script { config with mirrored := false } entropy).value.map
            fun e => turnedHistory ((e.withHook Thunder.hook ()).history steps)) := by
  constructor
  · intro n script config entropy steps
    refine start_map_mirror (fun e hidle => ?_) script config entropy
    have hturnable : e.hook.Turnable := by
      rw [hidle]
      exact Hook.idle_turnable
    exact history_mirror hturnable steps
  · intro script config entropy steps
    refine start_map_mirror (fun e _ => ?_) script config entropy
    rw [withHook_mirror]
    exact history_mirror Thunder.hook_turnable steps

end Effect

end LedAnimation
