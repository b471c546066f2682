/-
  What holds of an effect whatever was done with it.

  * `Layers.Touched` — what can be done to layers from outside: fill a slot, empty it, or draw from
    the generator.  A draw may leave any generator behind, as the layers hand out the very one they
    have.
  * `Hook.Public`    — a hook that does no more than that.
  * `Effect.Reached` — the effects that can be reached from a setup that succeeds, and the number of
    ticks it took: by steps, by another hook, and by touching the layers between two ticks.

  `Effect.Sound` is the invariant.  Each of its players has the mode of its slot and the orientation
  of the configuration and stands where it can be read (`Player.Fits`), and the script of the base
  is not empty.  Everything that can be done keeps it (`Effect.Sound.step`), so every effect that
  can be reached is sound (`Effect.Reached.sound`).
-/
import LedAnimation.Proofs.Effect.Thunder
import LedAnimation.Proofs.Playback.Positions

namespace LedAnimation

variable {n : Nat}

/-! ## Players -/

/-- A player that plays as its place asks for, and stands where it can be read. -/
structure Player.Fits (mode : PlaybackMode) (mirrored : Bool) (p : Player n) : Prop where
  mode : p.mode = mode
  mirrored : p.mirrored = mirrored
  seated : p.Seated

namespace Player.Fits

variable {mode : PlaybackMode} {mirrored : Bool} {p : Player n}

/-- A player that was just started fits: it is turned if and only if the layers are. -/
theorem begun (script : Script n) (mirrored : Bool) (mode : PlaybackMode) (g : Generator) :
    Fits mode mirrored (begun script mirrored mode g) := by
  refine ⟨mode_begun .., ?_, Seated.begun ..⟩
  cases mirrored <;> rfl

/-- A read changes neither the mode nor the orientation, and leaves the player seated. -/
theorem next (h : Fits mode mirrored p) : Fits mode mirrored p.next :=
  have hsetup := p.next_sameSetup
  ⟨hsetup.mode.trans h.mode, hsetup.mirrored.trans h.mirrored, h.seated.next⟩

end Player.Fits

/-! ## Layers -/

namespace Layers

/-- What is in the three slots. -/
def slots (layers : Layers n) : List (Option (Player n)) :=
  [layers.underlay, layers.overlay, layers.overwrite]

/-- Each of the three contents is that of a slot, so `Sound.fits` speaks of all of them. -/
theorem exists_slot {layers : Layers n} {content : Option (Player n)} (h : content ∈ layers.slots) :
    ∃ slot, layers.get slot = content := by
  simp only [slots, List.mem_cons, List.not_mem_nil, or_false] at h
  rcases h with rfl | rfl | rfl
  · exact ⟨.underlay, rfl⟩
  · exact ⟨.overlay, rfl⟩
  · exact ⟨.overwrite, rfl⟩

/-- Layers in which every player fits its slot. -/
structure Sound (mirrored : Bool) (layers : Layers n) : Prop where
  flag : layers.mirrored = mirrored
  fits : ∀ slot player, layers.get slot = some player → player.Fits slot.mode mirrored

namespace Sound

variable {mirrored : Bool} {layers : Layers n}

/-- Layers without any player are sound. -/
theorem bare (mirrored : Bool) (g : Generator) : Sound mirrored (bare (n := n) mirrored g) := by
  refine ⟨rfl, fun slot player hplayer => ?_⟩
  cases slot <;> exact nomatch hplayer

/-- Layers are sound whatever generator they have. -/
theorem generator (h : layers.Sound mirrored) (g : Generator) :
    Sound mirrored { layers with generator := g } := by
  refine ⟨h.flag, fun slot player hplayer => h.fits slot player ?_⟩
  cases slot <;> exact hplayer

/-- A slot may be changed for what fits it, and for nothing. -/
theorem set (h : layers.Sound mirrored) {slot : Slot} {changed : Option (Player n)}
    (hfits : ∀ player, changed = some player → player.Fits slot.mode mirrored) :
    Sound mirrored (layers.set slot changed) := by
  refine ⟨(mirrored_set ..).trans h.flag, fun other player hplayer => ?_⟩
  by_cases hother : other = slot
  · subst hother
    rw [get_set_self] at hplayer
    exact hfits player hplayer
  · rw [get_set_of_ne _ _ hother] at hplayer
    exact h.fits other player hplayer

/-- A slot that is filled has a player that was started for it, in its mode and in the orientation
    of the layers; the other slots are as they were. -/
theorem filled (h : layers.Sound mirrored) (slot : Slot) (script : Script n) :
    Sound mirrored (layers.filled slot script) := by
  refine (h.generator _).set fun player hplayer => ?_
  obtain rfl := Option.some.inj hplayer
  rw [← h.flag]
  exact Player.Fits.begun ..

/-- The layers that a setup begins with are filled one by one. -/
theorem filledAll (h : layers.Sound mirrored) (entries : List (Slot × Script n)) :
    Sound mirrored (layers.filledAll entries) := by
  induction entries generalizing layers with
  | nil => exact h
  | cons entry rest ih => exact ih (h.filled entry.1 entry.2)

/-- An empty slot has no player that might not fit. -/
theorem clear (h : layers.Sound mirrored) (slot : Slot) : Sound mirrored (layers.clear slot) :=
  h.set fun _ hplayer => nomatch hplayer

/-- Reading every layer once. -/
theorem advanced (h : layers.Sound mirrored) : Sound mirrored layers.advanced := by
  have hnext : ∀ slot player, (layers.get slot).map Player.next = some player →
      player.Fits slot.mode mirrored := by
    intro slot player hplayer
    obtain ⟨before, hbefore, rfl⟩ := Option.map_eq_some_iff.1 hplayer
    exact (h.fits slot before hbefore).next
  refine ⟨h.flag, fun slot player hplayer => hnext slot player ?_⟩
  -- an overwrite that was dropped leaves an empty slot, which fits anyway
  cases slot with
  | underlay => exact hplayer
  | overlay => exact hplayer
  | overwrite => exact (Option.filter_eq_some_iff.1 hplayer).1

end Sound

/-- What can be done to layers from outside. -/
inductive Touched (layers : Layers n) : Layers n → Prop where
  | nothing : Touched layers layers
  | add {before : Layers n} (slot : Slot) (script : Script n) :
      Touched layers before → Touched layers (before.add slot script).value.2
  | clear {before : Layers n} (slot : Slot) :
      Touched layers before → Touched layers (before.clear slot)
  | draw {before : Layers n} (g : Generator) :
      Touched layers before → Touched layers { before with generator := g }

/-- **Touching the layers keeps them sound**, whatever is done from outside and however often. -/
theorem Touched.sound {mirrored : Bool} {layers after : Layers n} (h : Touched layers after)
    (hsound : layers.Sound mirrored) : after.Sound mirrored := by
  induction h with
  | nothing => exact hsound
  | add slot script _ ih =>
    rw [value_add]
    exact ih.filled slot script
  | clear slot _ ih => exact ih.clear slot
  | draw g _ ih => exact ih.generator g

end Layers

/-- A hook that does to the layers only what can be done from outside. -/
def Hook.Public {σ : Type} (hook : Hook σ n) : Prop :=
  ∀ memory layers, Layers.Touched layers (hook memory layers).value.2

/-- The idle hook touches nothing. -/
theorem Hook.idle_public {σ : Type} : Hook.Public (Hook.idle : Hook σ n) :=
  fun _ _ => Layers.Touched.nothing

/-- Thunder draws a number and may play its flash. -/
theorem Thunder.hook_public : Hook.Public Thunder.hook := by
  intro _ layers
  rw [value_hook, struck]
  have hdrawn := (Layers.Touched.nothing : layers.Touched layers).draw
    (layers.generator.byteIn 0 10).2
  split
  · exact hdrawn.add .overwrite Catalog.thunderFlash
  · exact hdrawn

/-! ## Effects -/

/-- The number of ticks in a step. -/
def Effect.Step.ticks : Effect.Step n → Nat
  | .tick => 1
  | _ => 0

/-- No intent asks for a tick. -/
theorem Intent.ticks_asStep (intent : Intent n) : intent.asStep.ticks = 0 := by
  cases intent with
  | overwrite script => rfl
  | underlay script => cases script <;> rfl
  | overlay script => cases script <;> rfl
  | brightness level => rfl

namespace Effect

variable {σ : Type}

/-- The effects that can be reached from a setup that succeeds, with the number of ticks. -/
inductive Reached (script : Script n) (config : Config n) (entropy : UInt64) :
    {σ : Type} → Nat → Effect σ n → Prop where
  | started {e : Effect Unit n} :
      (start script config entropy).value = .ok e → Reached script config entropy 0 e
  | hooked {σ τ : Type} {ticks : Nat} {e : Effect σ n} {hook : Hook τ n} (memory : τ) :
      Reached script config entropy ticks e → hook.Public →
      Reached script config entropy ticks (e.withHook hook memory)
  | touched {σ : Type} {ticks : Nat} {e : Effect σ n} {layers : Layers n} :
      Reached script config entropy ticks e → e.layers.Touched layers →
      Reached script config entropy ticks { e with layers }
  | stepped {σ : Type} {ticks : Nat} {e : Effect σ n} (step : Step n) :
      Reached script config entropy ticks e →
      Reached script config entropy (ticks + step.ticks) (e.step step).2

/-- The invariant. -/
structure Sound (config : Config n) (ticks : Nat) (e : Effect σ n) : Prop where
  base : e.base.Fits .loop config.mirrored
  script : e.base.script.isEmpty = false
  layers : e.layers.Sound config.mirrored
  hook : e.hook.Public
  fps : 0 < e.fps ∧ e.fps = config.fps
  brightness : brightnessFault? e.brightness = none
  state : e.state = .idle ↔ ticks = 0

namespace Sound

variable {config : Config n} {ticks : Nat} {e : Effect σ n}

/-- Between two ticks the layers may be touched from outside, and only they change. -/
theorem touched (h : e.Sound config ticks) {layers : Layers n}
    (htouched : e.layers.Touched layers) : Sound config ticks { e with layers } :=
  { h with layers := htouched.sound h.layers }

/-- Another public hook may be put in place of the old one. -/
theorem withHook (h : e.Sound config ticks) {τ : Type} {hook : Hook τ n} (hpublic : hook.Public)
    (memory : τ) : (e.withHook hook memory).Sound config ticks :=
  { h with hook := hpublic }

/-- A tick reads the base and every layer, and then lets the hook touch the layers. -/
theorem ticked (h : e.Sound config ticks) : e.ticked.Sound config (ticks + 1) where
  base := h.base.next
  script := (congrArg Script.isEmpty e.base.next_sameSetup.script).trans h.script
  layers := (h.hook e.memory e.layers.advanced).sound h.layers.advanced
  hook := h.hook
  fps := h.fps
  brightness := h.brightness
  state := iff_of_false (fun hidle => nomatch hidle) (Nat.succ_ne_zero ticks)

/-- **One step.** -/
theorem step (h : e.Sound config ticks) (step : Step n) :
    (e.step step).2.Sound config (ticks + step.ticks) := by
  induction step using Step.inductionOn with
  | tick =>
    rw [step_tick]
    exact h.ticked
  | add slot script =>
    rw [step_add]
    exact { h with layers := h.layers.filled slot script }
  | clear slot => exact { h with layers := h.layers.clear slot }
  | brightness level =>
    rw [step_brightness]
    cases hlevel : brightnessFault? level with
    | some fault => exact h
    | none => exact { h with brightness := hlevel }
  | intent intent ih =>
    have hticks : (Step.intent intent).ticks = intent.asStep.ticks := intent.ticks_asStep.symm
    rw [step_intent, hticks]
    exact ih

end Sound

/-- What an effect has to be before it is set up. -/
theorem fault?_of_start {script : Script n} {config : Config n} {entropy : UInt64}
    {e : Effect Unit n} (h : (start script config entropy).value = .ok e) :
    config.fault? = none := by
  rw [value_start] at h
  cases hfault : config.fault? with
  | none => rfl
  | some fault =>
    rw [hfault] at h
    exact nomatch h

/-- The invariant holds at the start.  A setup that succeeds has passed its checks, which are those
    of the invariant. -/
theorem started_sound {script : Script n} {config : Config n} {entropy : UInt64} {e : Effect Unit n}
    (h : (start script config entropy).value = .ok e) : e.Sound config 0 := by
  have hfault := fault?_of_start h
  rw [Config.fault?] at hfault
  split at hfault
  -- a setup with frame rate 0 does not succeed
  case isTrue => exact nomatch hfault
  case isFalse hfps =>
    obtain ⟨hscript, rfl⟩ := eq_started h
    constructor
    case base => exact Player.Fits.begun ..
    case script =>
      show (Player.begun script config.mirrored .loop _).script.isEmpty = false
      -- turning keeps the number of entries
      cases config.mirrored with
      | false => exact hscript
      | true => exact script.isEmpty_mirror.trans hscript
    case layers => exact (Layers.Sound.bare ..).filledAll _
    case hook => exact Hook.idle_public
    case fps => exact ⟨Nat.pos_of_ne_zero hfps, rfl⟩
    case brightness => exact hfault
    case state => exact iff_of_true rfl rfl

/-- **Every effect that can be reached is sound.** By induction on the way there, with one case for
    each thing that can be done. -/
theorem Reached.sound {script : Script n} {config : Config n} {entropy : UInt64} {ticks : Nat}
    {e : Effect σ n} (h : Reached script config entropy ticks e) : e.Sound config ticks := by
  induction h with
  | started hstart => exact started_sound hstart
  | hooked memory _ hpublic ih => exact ih.withHook hpublic memory
  | touched _ htouched ih => exact ih.touched htouched
  | stepped step _ ih => exact ih.step step

/-! ## What follows -/

/-- What holds of an effect after some ticks, seen from outside. -/
structure InOrder (config : Config n) (ticks : Nat) (e : Effect σ n) : Prop where
  /-- The base starts over after its last frame, and stands on one of its frames. -/
  base_mode : e.base.mode = .loop
  base_mirrored : e.base.mirrored = config.mirrored
  base_frames : e.base.isEmpty = false
  base_cursor : e.base.cursor < e.base.length
  /-- So a tick never has to show darkness in its place. -/
  base_read : ∃ frame, e.base.nextFrame.value = .ok (frame, e.base.next)
  /-- Underlay and overlay start over after their last frame as well, and an overwrite does not. -/
  underlay_mode : ∀ player, e.layers.underlay = some player → player.mode = .loop
  overlay_mode : ∀ player, e.layers.overlay = some player → player.mode = .loop
  overwrite_mode : ∀ player, e.layers.overwrite = some player → player.mode = .once
  layer_mirrored : ∀ player, some player ∈ e.layers.slots → player.mirrored = config.mirrored
  /-- A layer that is read is never found exhausted; one that is empty is not read. -/
  layer_read : ∀ player, some player ∈ e.layers.slots → player.isEmpty = false →
    ∃ frame, player.nextFrame.value = .ok (frame, player.next)
  fps : 0 < e.fps ∧ e.fps = config.fps
  /-- The brightness lies in `0.0..=1.0`. -/
  brightness : Binary32.zero.le e.brightness ∧ e.brightness.le Binary32.one
  state : e.state = .idle ↔ ticks = 0
  /-- Without a hook no overwrite is left standing that has nothing left. -/
  overwrite : e.hook = Hook.idle → ∀ player, e.tick.value.2.layers.overwrite = some player →
    player.isEmpty = false
  /-- A brightness out of this range is refused and changes nothing, also as one of several
      intents. -/
  refused : ∀ level, ¬ (Binary32.zero.le level ∧ level.le Binary32.one) →
    e.step (.brightness level) = (.done (.error (.config (.invalidBrightness level))), e) ∧
    e.step (.intent (.brightness level))
        = (.done (.error (.config (.invalidBrightness level))), e) ∧
    ∀ rest, (e.applyAll (.brightness level :: rest)).value = (e.applyAll rest).value

/-- The check of a brightness, written out. -/
theorem brightnessFault?_eq (x : Binary32) :
    brightnessFault? x
      = if Binary32.zero.le x ∧ x.le Binary32.one then none else some (.invalidBrightness x) := by
  rw [brightnessFault?, Binary32.isShare]
  simp only [Bool.and_eq_true]

/-- Right after a tick an overwrite has something left to play: a tick reads it and drops it in one
    go if that was its last frame.  A hook may install an empty one afterwards. -/
theorem live_after_tick {e : Effect σ n} (hidle : e.hook = Hook.idle) {player : Player n}
    (hplayer : e.tick.value.2.layers.overwrite = some player) : player.isEmpty = false := by
  rw [value_tick, layers_ticked_of_idle hidle] at hplayer
  have hleft := (Option.filter_eq_some_iff.1 hplayer).2
  exact Bool.not_eq_true' _ ▸ hleft

/-- A brightness out of range is refused wherever it is asked for, and the effect beside the error
    is the one that was asked. -/
theorem refused_brightness (e : Effect σ n) {level : Binary32}
    (h : ¬ (Binary32.zero.le level ∧ level.le Binary32.one)) :
    e.step (.brightness level) = (.done (.error (.config (.invalidBrightness level))), e) ∧
    e.step (.intent (.brightness level))
        = (.done (.error (.config (.invalidBrightness level))), e) ∧
    ∀ rest, (e.applyAll (.brightness level :: rest)).value = (e.applyAll rest).value := by
  -- the check runs before the assignment, so nothing has changed when it refuses
  have hfault : brightnessFault? level = some (.invalidBrightness level) := by
    rw [brightnessFault?_eq, if_neg h]
  have hstep : e.step (.brightness level)
      = (.done (.error (.config (.invalidBrightness level))), e) := by
    rw [step_brightness, hfault]
  refine ⟨hstep, (e.step_intent (.brightness level)).trans hstep, fun rest => ?_⟩
  have happly : (e.apply (.brightness level)).value
      = (.error (.config (.invalidBrightness level)), e) :=
    apply_eq_error_iff.2 ⟨rfl, level, _, rfl, hfault, rfl⟩
  rw [value_applyAll_cons, happly]

/-- **Whatever was done with an effect, it is in order.** -/
theorem reached_inOrder {script : Script n} {config : Config n} {entropy : UInt64} {ticks : Nat}
    {e : Effect σ n} (h : Reached script config entropy ticks e) : e.InOrder config ticks := by
  have hsound := h.sound
  have hcursor := hsound.base.seated.cursor_lt_length hsound.base.mode hsound.script
  have hbase : e.base.isEmpty = false := beq_false_of_ne (Nat.ne_zero_of_lt hcursor)
  constructor
  case base_mode => exact hsound.base.mode
  case base_mirrored => exact hsound.base.mirrored
  case base_frames => exact hbase
  case base_cursor => exact hcursor
  case base_read => exact hsound.base.seated.exists_read hbase
  case underlay_mode => exact fun player h => (hsound.layers.fits .underlay player h).mode
  case overlay_mode => exact fun player h => (hsound.layers.fits .overlay player h).mode
  case overwrite_mode => exact fun player h => (hsound.layers.fits .overwrite player h).mode
  case layer_mirrored =>
    intro player hmem
    obtain ⟨slot, hslot⟩ := Layers.exists_slot hmem
    exact (hsound.layers.fits slot player hslot).mirrored
  case layer_read =>
    intro player hmem
    obtain ⟨slot, hslot⟩ := Layers.exists_slot hmem
    exact (hsound.layers.fits slot player hslot).seated.exists_read
  case fps => exact hsound.fps
  case brightness =>
    have hfault := hsound.brightness
    rw [brightnessFault?_eq] at hfault
    by_cases hrange : Binary32.zero.le e.brightness ∧ e.brightness.le Binary32.one
    · exact hrange
    · rw [if_neg hrange] at hfault
      exact nomatch hfault
  case state => exact hsound.state
  case overwrite => exact fun hidle player => live_after_tick hidle
  case refused => exact fun level hlevel => refused_brightness e hlevel

/-- Snow falls into the rain, lightning may strike, and a brightness is asked for that is no
    number. -/
theorem snow_and_rain_inOrder :
    let config : Config Catalog.leds := { mirrored := true, seed := some 7 }
    ∃ e : Effect Unit Catalog.leds,
      Reached Catalog.raindropFalling config 0 2 e ∧ e.InOrder config 2 := by
  intro config
  have hstart : (start Catalog.raindropFalling config 0).value
      = .ok (started Catalog.raindropFalling config 0) :=
    start_eq_ok (by decide) (by decide) 0
  have hstormy := (Reached.started hstart).hooked () Thunder.hook_public
  have hsnow := (hstormy.stepped .tick).stepped (.add .underlay Catalog.snowFalling)
  have hlast := (hsnow.stepped (.intent (.brightness .nan))).stepped .tick
  exact ⟨_, hlast, reached_inOrder hlast⟩

end Effect

end LedAnimation
