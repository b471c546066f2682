/-
  A run of an effect is composed from independent streams.

  The effect plays four players that share one generator, and drops an overwrite that has ended.
  `Follows` ties it to the ledger of its history: every player of the effect is the ledger's player
  of the same slot, after one read for every tick since it was installed.  Only an overwrite with
  nothing left may have been dropped, which makes no difference to what is read (`live`).

  Every step keeps this (`Follows.step`), so every run does (`Follows.run`), and a tick of an effect
  that follows a ledger shows the ledger's picture (`Follows.picture_eq`).
-/
import LedAnimation.Preview.Catalog
import LedAnimation.Proofs.Effect.Ledger
import LedAnimation.Proofs.Playback.Looping
import LedAnimation.Proofs.Playback.OneShot
import LedAnimation.Proofs.Stacks

namespace LedAnimation

variable {n : Nat}

/-! ## Stacks without gaps -/

/-- A layer that contributes nothing might as well contribute darkness. -/
theorem Layers.stack_eq (base : Frame n) (under upper whole : Option (Frame n)) :
    stack base under upper whole
      = whole.getD
          (((under.getD (Frame.dark n)).merge base).merge (upper.getD (Frame.dark n))) := by
  cases whole with
  | some frame => rfl
  | none =>
    cases under with
    | none =>
      cases upper with
      | none =>
        show base = ((Frame.dark n).merge base).merge (Frame.dark n)
        rw [Frame.dark_merge, Frame.merge_dark]
      | some upper =>
        show base.merge upper = ((Frame.dark n).merge base).merge upper
        rw [Frame.dark_merge]
    | some under =>
      cases upper with
      | none =>
        show under.merge base = (under.merge base).merge (Frame.dark n)
        rw [Frame.merge_dark]
      | some upper => rfl

/-! ## Players with something left -/

namespace Layers

/-- Nothing is read from a player that has nothing left. -/
theorem bind_frame?_live (slot : Option (Player n)) :
    (live slot).bind Player.frame? = slot.bind Player.frame? := by
  cases slot with
  | none => rfl
  | some p =>
    cases hempty : p.isEmpty with
    | true =>
      rw [live_of_isEmpty hempty, Option.bind_some, Player.frame?_eq,
        Player.frames_of_isEmpty hempty]
      rfl
    | false => rw [live_of_not_isEmpty hempty]

/-- Nor does reading bring anything back. -/
theorem live_map_next_live (slot : Option (Player n)) :
    live ((live slot).map Player.next) = live (slot.map Player.next) := by
  cases slot with
  | none => rfl
  | some p =>
    cases hempty : p.isEmpty with
    | true =>
      rw [live_of_isEmpty hempty, Option.map_some,
        Player.next_of_none (Player.frames_of_isEmpty hempty), live_of_isEmpty hempty]
      rfl
    | false => rw [live_of_not_isEmpty hempty]

/-- Dropping what has ended a second time drops nothing more. -/
theorem live_live (slot : Option (Player n)) : live (live slot) = live slot := by
  cases slot with
  | none => rfl
  | some p =>
    cases hempty : p.isEmpty with
    | true =>
      rw [live_of_isEmpty hempty]
      rfl
    | false => rw [live_of_not_isEmpty hempty, live_of_not_isEmpty hempty]

end Layers

/-! ## The players of a ledger -/

/-- The ledger writes an intent down as the step it asks for, which lets `step_intent` do the same
    on both sides. -/
theorem Ledger.note_intent (ledger : Ledger n) (intent : Intent n) :
    ledger.note (.intent intent) = ledger.note intent.asStep := by
  cases intent with
  | overwrite script => rfl
  | underlay script => cases script <;> rfl
  | overlay script => cases script <;> rfl
  | brightness level => rfl

section Following

variable (source : Generator) (mirrored : Bool)

namespace Ledger

/-- The player of a slot: begun when the layer was installed, and read once at every tick since. -/
def player (ledger : Ledger n) (slot : Slot) : Option (Player n) :=
  (ledger.layers slot).map fun layer =>
    (Player.begun layer.script mirrored slot.mode ⟨source.wordAt layer.number⟩).after
      (ledger.age layer)

/-- No layer was installed after now. -/
def Timely (ledger : Ledger n) : Prop :=
  ∀ slot layer, ledger.layers slot = some layer → layer.since ≤ ledger.ticks

variable {source mirrored} {ledger : Ledger n}

/-- What installing a script writes down, in its own slot -/
theorem layers_install_self (slot : Slot) (script : Script n) :
    (ledger.install slot script).layers slot
      = some { script, number := ledger.installs + 1, since := ledger.ticks } :=
  if_pos rfl

/-- and in the others. -/
theorem layers_install_of_ne {slot other : Slot} (h : other ≠ slot) (script : Script n) :
    (ledger.install slot script).layers other = ledger.layers other :=
  if_neg h

/-- Emptying a slot concerns no other one. -/
theorem layers_remove_of_ne {slot other : Slot} (h : other ≠ slot) :
    (ledger.remove slot).layers other = ledger.layers other :=
  if_neg h

/-- A layer just installed is at its first frame. -/
theorem player_install_self (slot : Slot) (script : Script n) :
    (ledger.install slot script).player source mirrored slot
      = some (Player.begun script mirrored slot.mode
          ⟨source.wordAt (ledger.installs + 1)⟩) := by
  have hage : ledger.ticks - ledger.ticks = 0 := Nat.sub_self _
  rw [player, layers_install_self, Option.map_some]
  show some (Player.after _ (ledger.ticks - ledger.ticks)) = _
  rw [hage]
  rfl

/-- Nothing becomes of the other players, -/
theorem player_install_of_ne {slot other : Slot} (h : other ≠ slot) (script : Script n) :
    (ledger.install slot script).player source mirrored other
      = ledger.player source mirrored other := by
  rw [player, layers_install_of_ne h]
  rfl

/-- and where a slot was emptied there is none any more, -/
theorem player_remove_self (slot : Slot) :
    (ledger.remove slot).player source mirrored slot = none := by
  have hnone : (ledger.remove slot).layers slot = none := if_pos rfl
  rw [player, hnone]
  rfl

/-- the others being what they were. -/
theorem player_remove_of_ne {slot other : Slot} (h : other ≠ slot) :
    (ledger.remove slot).player source mirrored other = ledger.player source mirrored other := by
  rw [player, layers_remove_of_ne h]
  rfl

/-- With a tick every player is read once more. -/
theorem player_tick (h : ledger.Timely) (slot : Slot) :
    (ledger.note .tick).player source mirrored slot
      = (ledger.player source mirrored slot).map Player.next := by
  show (ledger.layers slot).map _ = ((ledger.layers slot).map _).map Player.next
  cases hlayer : ledger.layers slot with
  | none => rfl
  | some layer =>
    have hsince := h slot layer hlayer
    have hage : ledger.ticks + 1 - layer.since = ledger.ticks - layer.since + 1 := by omega
    show some (Player.after _ (ledger.ticks + 1 - layer.since)) = _
    rw [hage]
    rfl

/-- A ledger stays timely with the ticks, as time only goes on, -/
theorem Timely.tick (h : ledger.Timely) : (ledger.note .tick).Timely :=
  fun slot layer hlayer => Nat.le_succ_of_le (h slot layer hlayer)

/-- with new layers, which are installed now, -/
theorem Timely.install (h : ledger.Timely) (slot : Slot) (script : Script n) :
    (ledger.install slot script).Timely := by
  intro other layer hlayer
  by_cases hother : other = slot
  · rw [hother, layers_install_self] at hlayer
    rw [← Option.some.inj hlayer]
    exact Nat.le_refl _
  · rw [layers_install_of_ne hother] at hlayer
    exact h other layer hlayer

/-- and with layers that are forgotten. -/
theorem Timely.remove (h : ledger.Timely) (slot : Slot) : (ledger.remove slot).Timely := by
  intro other layer hlayer
  by_cases hother : other = slot
  · have hnone : (ledger.remove slot).layers other = none := if_pos hother
    rw [hnone] at hlayer
    exact nomatch hlayer
  · rw [layers_remove_of_ne hother] at hlayer
    exact h other layer hlayer

/-- What an underlay or overlay contributes is what its player gives. -/
theorem looped_eq {slot : Slot} (hslot : slot.mode = .loop) :
    ledger.looped source mirrored slot
      = (ledger.player source mirrored slot).bind Player.frame? := by
  rw [looped, player, hslot]
  cases ledger.layers slot <;> rfl

/-- What an overwrite contributes is what its player gives. -/
theorem flashed_eq :
    ledger.flashed source mirrored
      = (ledger.player source mirrored .overwrite).bind Player.frame? := by
  rw [flashed, player]
  cases ledger.layers .overwrite with
  | none => rfl
  | some layer =>
    exact (Player.frame?_after_once layer.script mirrored ⟨source.wordAt layer.number⟩ _).symm

/-- An overwrite is playing as long as its player has something left. -/
theorem flashes_eq :
    ledger.flashes source mirrored
      = (Layers.live (ledger.player source mirrored .overwrite)).isSome := by
  rw [flashes, player]
  cases ledger.layers .overwrite with
  | none => rfl
  | some layer =>
    have hempty := Player.isEmpty_after_once layer.script mirrored ⟨source.wordAt layer.number⟩
      (ledger.age layer)
    -- the frames that are left are the compiled ones not yet read
    rw [Option.any_some, Option.map_some]
    cases hleft : (Player.after _ (ledger.age layer)).isEmpty with
    | true =>
      rw [Layers.live_of_isEmpty hleft]
      have hover := of_decide_eq_true (hempty.symm.trans hleft)
      exact decide_eq_false (Nat.not_lt_of_le hover)
    | false =>
      rw [Layers.live_of_not_isEmpty hleft]
      have hinside := of_decide_eq_false (hempty.symm.trans hleft)
      exact decide_eq_true (Nat.lt_of_not_le hinside)

end Ledger

/-- The base always has a frame. -/
theorem exists_loopFrame {script : Script n} (hscript : script.isEmpty = false) (i t : Nat) :
    ∃ frame, loopFrame source mirrored script i t = some frame := by
  -- no cycle is empty, so `t + 1` cycles reach frame `t`
  have hlength : t < (script.played ⟨source.wordAt i⟩ (t + 1)).length :=
    Script.le_length_played hscript _ (t + 1)
  have hread := Player.outcome_after hscript ⟨source.wordAt i⟩ hlength
  refine ⟨Frame.orient mirrored (script.played ⟨source.wordAt i⟩ (t + 1))[t], ?_⟩
  rw [loopFrame, Player.begun_eq_orient, Player.after_orient, Player.frame?, Player.outcome_orient,
    hread]
  rfl

/-! ## Following a ledger -/

/-- The effect is where the ledger says it should be. -/
structure Follows (base : Script n) (ledger : Ledger n) (e : Effect Unit n) : Prop where
  base : e.base = (Player.begun base mirrored .loop ⟨source.wordAt 0⟩).after ledger.ticks
  hook : e.hook = Hook.idle
  flag : e.layers.mirrored = mirrored
  generator : e.layers.generator = source.skip (ledger.installs + 1)
  /-- A player with nothing left may be there or not. -/
  slots : ∀ slot, Layers.live (e.layers.get slot) = Layers.live (ledger.player source mirrored slot)
  timely : ledger.Timely

variable {source mirrored}

/-- A tick reads the player of every slot, whatever becomes of it. -/
theorem Layers.live_get_advanced (layers : Layers n) (slot : Slot) :
    Layers.live (layers.advanced.get slot) = Layers.live ((layers.get slot).map Player.next) := by
  cases slot with
  | underlay => rfl
  | overlay => rfl
  | overwrite => exact Layers.live_live (layers.overwrite.map Player.next)

namespace Follows

variable {base : Script n} {ledger : Ledger n} {e : Effect Unit n}

/-- Both read every player once. -/
theorem tick (h : Follows source mirrored base ledger e) :
    Follows source mirrored base (ledger.note .tick) e.ticked := by
  have hlayers := Effect.layers_ticked_of_idle h.hook
  constructor
  case base =>
    show e.base.next = _
    rw [h.base]
    rfl
  case hook => exact h.hook
  case flag =>
    rw [hlayers]
    exact h.flag
  case generator =>
    rw [hlayers]
    exact h.generator
  case slots =>
    -- `h.slots` knows the players up to `live` only, so both sides are first brought to
    -- `live ((live _).map next)`
    intro slot
    rw [hlayers, Layers.live_get_advanced, Ledger.player_tick h.timely, ← Layers.live_map_next_live,
      h.slots slot, Layers.live_map_next_live]
  case timely => exact h.timely.tick

/-- Both put the same player in a slot, or nothing, and keep the others. -/
theorem put (h : Follows source mirrored base ledger e) {ledger' : Ledger n} {slot : Slot}
    {player : Option (Player n)} {g : Generator} (hticks : ledger'.ticks = ledger.ticks)
    (hg : g = source.skip (ledger'.installs + 1))
    (hself : player = ledger'.player source mirrored slot)
    (hother : ∀ other, other ≠ slot →
      ledger'.player source mirrored other = ledger.player source mirrored other)
    (htimely : ledger'.Timely) :
    Follows source mirrored base ledger'
      { e with layers := { e.layers with generator := g }.set slot player } := by
  constructor
  -- what is put in its slot, and what is left as it was, one field each
  case base =>
    rw [hticks]
    exact h.base
  case hook => exact h.hook
  case flag =>
    rw [Layers.mirrored_set]
    exact h.flag
  case generator =>
    rw [Layers.generator_set]
    exact hg
  case slots =>
    intro other
    by_cases hne : other = slot
    · rw [hne, Layers.get_set_self, hself]
    · rw [Layers.get_set_of_ne _ _ hne, hother other hne, ← h.slots other]
      -- no player looks at the generator of the layers
      cases other <;> rfl
  case timely => exact htimely

/-- Both begin the same player with the same word. -/
theorem fill (h : Follows source mirrored base ledger e) (slot : Slot) (script : Script n) :
    Follows source mirrored base (ledger.install slot script)
      { e with layers := e.layers.filled slot script } := by
  -- the word for the new player is drawn at the same number of installations
  refine h.put rfl (congrArg Generator.advance h.generator) ?_
    (fun other hne => Ledger.player_install_of_ne hne script) (h.timely.install slot script)
  rw [Ledger.player_install_self, h.flag, h.generator]
  rfl

/-- Both forget the player of a slot, and neither draws anything. -/
theorem clear (h : Follows source mirrored base ledger e) (slot : Slot) :
    Follows source mirrored base (ledger.remove slot) (e.clear slot) :=
  h.put rfl h.generator (Ledger.player_remove_self slot).symm
    (fun _ hne => Ledger.player_remove_of_ne hne) (h.timely.remove slot)

/-- A change of the brightness concerns no player. -/
theorem brightness (h : Follows source mirrored base ledger e) (level : Binary32) :
    Follows source mirrored base ledger (e.step (.brightness level)).2 := by
  rw [Effect.step_brightness]
  cases brightnessFault? level with
  | some fault => exact h
  | none => exact ⟨h.base, h.hook, h.flag, h.generator, h.slots, h.timely⟩

/-- **One step.** -/
theorem step (h : Follows source mirrored base ledger e) (step : Effect.Step n) :
    Follows source mirrored base (ledger.note step) (e.step step).2 := by
  induction step using Effect.Step.inductionOn with
  | tick =>
    rw [Effect.step_tick]
    exact h.tick
  | add slot script =>
    rw [Effect.step_add]
    exact h.fill slot script
  | clear slot =>
    rw [Effect.step_clear]
    exact h.clear slot
  | brightness level => exact h.brightness level
  | intent intent ih =>
    rw [Effect.step_intent, Ledger.note_intent]
    exact ih

/-- **A whole run.** -/
theorem run (h : Follows source mirrored base ledger e) (steps : List (Effect.Step n)) :
    Follows source mirrored base (ledger.notes steps) (e.run steps) := by
  induction steps generalizing ledger e with
  | nil => exact h
  | cons step steps ih =>
    rw [Effect.run_cons]
    exact ih (h.step step)

/-- **The picture.**  An effect that follows a ledger shows what the ledger tells. -/
theorem picture_eq (h : Follows source mirrored base ledger e) (hbase : base.isEmpty = false) :
    ledger.picture source mirrored base = some e.shown := by
  obtain ⟨frame, hframe⟩ := exists_loopFrame source mirrored hbase 0 ledger.ticks
  have hread : e.base.frame? = some frame := by
    rw [h.base]
    exact hframe
  -- slots agree up to players that have ended, and those show nothing anyway
  have hslot : ∀ slot, (ledger.player source mirrored slot).bind Player.frame?
      = (e.layers.get slot).bind Player.frame? := by
    intro slot
    rw [← Layers.bind_frame?_live, ← h.slots slot, Layers.bind_frame?_live]
  rw [Ledger.picture, hframe, Option.map_some, Ledger.flashed_eq, Ledger.looped_eq rfl,
    Ledger.looped_eq rfl, hslot, hslot, hslot, Effect.shown, hread, Layers.stack_eq]
  rfl

/-- The overwrite is there as long as the ledger tells. -/
theorem flashes_eq (h : Follows source mirrored base ledger e) :
    e.layers.holds .overwrite = ledger.flashes source mirrored := by
  rw [Layers.holds_overwrite, Ledger.flashes_eq, ← h.slots .overwrite]
  rfl

end Follows

end Following

/-! ## From the beginning -/

/-- What setting up an effect takes, and what it gives. -/
theorem Effect.eq_started {script : Script n} {config : Config n} {entropy : UInt64}
    {e : Effect Unit n} (h : (start script config entropy).value = .ok e) :
    script.isEmpty = false ∧ e = started script config entropy := by
  rw [value_start] at h
  cases hfault : config.fault? with
  | some fault =>
    rw [hfault] at h
    exact nomatch h
  | none =>
    rw [hfault] at h
    cases hempty : script.isEmpty with
    | true =>
      rw [hempty] at h
      exact nomatch h
    | false =>
      rw [hempty] at h
      exact ⟨rfl, (Except.ok.inj h).symm⟩

/-- An effect begins with the layers of its configuration, in the order of the ledger. -/
theorem started_follows (script : Script n) {config : Config n} {seed : UInt64}
    (hseed : config.seed = some seed) (entropy : UInt64) :
    Follows ⟨seed⟩ config.mirrored script (Ledger.opening config)
      (Effect.started script config entropy) := by
  -- without the layers of the configuration the effect follows the blank ledger, and they are
  -- then installed like any other
  let source := Generator.mk seed
  have hsource : Generator.mk (config.seed.getD entropy) = source := by
    rw [hseed]
    rfl
  have hbare : Follows source config.mirrored script Ledger.blank
      { Effect.started script config entropy with
        layers := Layers.bare config.mirrored source.advance } := by
    constructor
    case base =>
      show Player.begun script config.mirrored .loop
        ⟨(Generator.mk (config.seed.getD entropy)).word64⟩ = _
      rw [hsource]
      rfl
    case hook => rfl
    case flag => rfl
    case generator => rfl
    case slots =>
      intro slot
      cases slot <;> rfl
    case timely =>
      intro slot layer hlayer
      exact nomatch hlayer
  have hlayers : Effect.started script config entropy
      = { Effect.started script config entropy with
          layers := (Layers.bare config.mirrored source.advance).filledAll config.layers } := by
    rw [← hsource]
    rfl
  rw [hlayers, Ledger.opening, Config.layers]
  cases config.underlay with
  | none =>
    cases config.overlay with
    | none => exact hbare
    | some overlay => exact hbare.fill .overlay overlay
  | some underlay =>
    cases config.overlay with
    | none => exact hbare.fill .underlay underlay
    | some overlay => exact (hbare.fill .underlay underlay).fill .overlay overlay

/-- **A run of an effect is composed from independent streams.**  Whatever was done with a seeded
    effect without a hook, the frame of its next tick is the picture that the history tells, every
    player being built with the mirrored flag of the configuration; an overwrite is there exactly as
    long as the history tells, so it is gone right after the tick that showed its last frame; and
    the generator of the layers has given one word to the base and one to every layer installed. -/
theorem run_composes_streams {script : Script n} {config : Config n} {seed : UInt64}
    {entropy : UInt64} {e : Effect Unit n} (hseed : config.seed = some seed)
    (hstart : (Effect.start script config entropy).value = .ok e) (steps : List (Effect.Step n)) :
    some (e.run steps).tick.value.1
        = ((Ledger.opening config).notes steps).picture ⟨seed⟩ config.mirrored script ∧
      (e.run steps).layers.holds .overwrite
        = ((Ledger.opening config).notes steps).flashes ⟨seed⟩ config.mirrored ∧
      (e.run steps).layers.generator
        = (Generator.mk seed).skip (((Ledger.opening config).notes steps).installs + 1) := by
  obtain ⟨hscript, rfl⟩ := Effect.eq_started hstart
  have hfollows := (started_follows script hseed entropy).run steps
  refine ⟨?_, hfollows.flashes_eq, hfollows.generator⟩
  rw [hfollows.picture_eq hscript, Effect.value_tick]

/-- Rain with random pauses, falling through snow from the other end of the strip, and lightning
    over it that is replaced before it has ended. -/
theorem storm_composes_streams :
    let config : Config Catalog.leds :=
      { mirrored := true
        seed := some 7
        underlay := some Catalog.snowLayer
        overlay := some Catalog.snowFalling }
    let steps : List (Effect.Step Catalog.leds) :=
      [.tick, .add .overwrite Catalog.thunderFlash, .tick, .clear .underlay,
        .intent (.overwrite Catalog.thunderFlash), .tick, .intent (.overlay none), .tick]
    let ledger := (Ledger.opening config).notes steps
    config.seed = some 7 ∧
      ∃ e, (Effect.start Catalog.raindropFalling config 0).value = .ok e ∧
        some (e.run steps).tick.value.1
            = ledger.picture ⟨7⟩ config.mirrored Catalog.raindropFalling ∧
          (e.run steps).layers.holds .overwrite = ledger.flashes ⟨7⟩ config.mirrored ∧
          (e.run steps).layers.generator = (Generator.mk 7).skip (ledger.installs + 1) := by
  intro config steps ledger
  have hstart : (Effect.start Catalog.raindropFalling config 0).value
      = .ok (Effect.started Catalog.raindropFalling config 0) := by
    rw [Effect.value_start]
    have hfault : config.fault? = none := by decide
    have hempty : Catalog.raindropFalling.isEmpty = false := by decide
    rw [hfault, hempty]
    rfl
  exact ⟨rfl, _, hstart, run_composes_streams rfl hstart steps⟩

end LedAnimation
