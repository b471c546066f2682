/-
  Thunder covers frames, and does nothing else.

  An effect with the thunder hook and the same effect without a hook are ticked side by side.  The
  hook draws from the generator of the layers and may fill the overwrite slot; the players of base,
  underlay and overlay were given generators of their own when they were made, and are read at every
  tick whether they are seen or not.  So these three stay equal in both effects, and what differs is
  the overwrite (`Covers`): none without the hook, and with it a flash of two frames that begins
  anew with every strike.

  `due` tells from the strikes which frame of the flash is up.  `Beside.tick` is one tick of both
  effects, `Beside.afterTicks` any number of them.  The strikes themselves follow from the generator
  of the layers alone (`strikes_eq`).

  The kernel must never be asked to compare two draws by computing them: `byteIn` does not come to
  an end on a generator it does not know.  Facts about hooks are therefore stated for any hook
  first.
-/
import LedAnimation.Proofs.Effect.Orientation
import LedAnimation.Proofs.Effect.Streams

namespace LedAnimation

variable {n : Nat}

/-! ## Ticks in a row -/

namespace Effect

variable {σ : Type}

/-- The effect after `t` ticks in a row. -/
def afterTicks (e : Effect σ n) (t : Nat) : Effect σ n := e.run (List.replicate t .tick)

/-- A run of ticks grows at its end, where the next tick falls. -/
theorem afterTicks_succ (e : Effect σ n) (t : Nat) :
    e.afterTicks (t + 1) = (e.afterTicks t).ticked := by
  rw [afterTicks, List.replicate_succ', run_concat, step_tick]
  rfl

/-- Ticks add no hook, and change nothing about the orientation of what is added. -/
theorem hook_afterTicks_of_idle {e : Effect σ n} (h : e.hook = Hook.idle) (t : Nat) :
    (e.afterTicks t).hook = Hook.idle ∧ (e.afterTicks t).layers.mirrored = e.layers.mirrored := by
  induction t with
  | zero => exact ⟨h, rfl⟩
  | succ t ih =>
    rw [afterTicks_succ, layers_ticked_of_idle ih.1]
    exact ih

section WithHook

variable {τ : Type} (e : Effect σ n) (hook : Hook τ n) (memory : τ)

@[simp] theorem base_withHook : (e.withHook hook memory).base = e.base := rfl

@[simp] theorem layers_withHook : (e.withHook hook memory).layers = e.layers := rfl

@[simp] theorem hook_withHook : (e.withHook hook memory).hook = hook := rfl

end WithHook

/-- No layer of a configuration is an overwrite. -/
theorem overwrite_started (script : Script n) (config : Config n) (entropy : UInt64) :
    (started script config entropy).layers.overwrite = none := by
  rw [started, Config.layers]
  cases config.underlay <;> cases config.overlay <;> rfl

/-- The layers of a new effect turn what is added to them as the configuration asks for. -/
theorem mirrored_started (script : Script n) (config : Config n) (entropy : UInt64) :
    (started script config entropy).layers.mirrored = config.mirrored := by
  rw [started, Config.layers]
  cases config.underlay <;> cases config.overlay <;> rfl

end Effect

/-- What a hook without a memory makes of the layers. -/
theorem Hook.value_of_layers {hook : Hook Unit n} {f : Layers n → Logged (Layers n)}
    (h : hook = fun _ layers => do pure ((), ← f layers)) (layers : Layers n) :
    (hook () layers).value = ((), (f layers).value) := by
  rw [h]
  rfl

/-- A draw that is fair is not repeated. -/
theorem Generator.upTo_of_fair {top : Nat} {g : Generator} (h : ¬ unfair top g.word32) :
    g.upTo top = (g.word32.toNat * (top + 1) / UInt32.size, g.advance) := by
  fun_induction upTo top g with
  | case1 g hunfair _ => exact absurd hunfair h
  | case2 g _ => rfl

namespace Thunder

open Catalog (leds thunderFlash)

/-! ## Strikes -/

/-- What the hook draws after a tick of an effect, from the layers that the tick hands to it. -/
def drawn (e : Effect Unit leds) : Nat × Generator := e.layers.advanced.generator.byteIn 0 10

/-- Whether lightning strikes after tick `t` of an effect with thunder: on a 1. -/
def strikes (e : Effect Unit leds) (t : Nat) : Bool := (drawn (e.afterTicks t)).1 == 1

/-- The frame of the flash that is up at tick `t`, counted from 0. -/
def due (struck : Nat → Bool) (t : Nat) : Option Nat :=
  if 1 ≤ t ∧ struck (t - 1) then some 0
  else if 2 ≤ t ∧ struck (t - 2) then some 1
  else none

theorem due_zero (struck : Nat → Bool) : due struck 0 = none := rfl

/-- The first frame of the flash is up right after a strike, even if an older flash had one frame to
    go. -/
theorem due_eq_zero_iff {struck : Nat → Bool} {t : Nat} :
    due struck t = some 0 ↔ 1 ≤ t ∧ struck (t - 1) := by
  rw [due]
  split
  · exact iff_of_true rfl ‹_›
  · refine iff_of_false ?_ ‹_›
    split <;> simp

/-- What is left of a flash after a tick. -/
def faded (up : Option Nat) : Option Nat := if up = some 0 then some 1 else none

/-- A strike begins the flash, and its first frame is followed by the second one. -/
theorem due_succ (struck : Nat → Bool) (t : Nat) :
    due struck (t + 1) = if struck t then some 0 else faded (due struck t) := by
  simp only [faded, due_eq_zero_iff]
  rw [due, Nat.add_sub_cancel, show t + 1 - 2 = t - 1 by omega]
  simp

/-- Only the two frames of the flash are ever due. -/
theorem lt_of_due {struck : Nat → Bool} {t i : Nat} (h : due struck t = some i) : i < 2 := by
  rw [due] at h
  split at h
  · obtain rfl : 0 = i := Option.some.inj h
    -- otherwise the second frame is due, or none
    decide
  · split at h
    · obtain rfl : 1 = i := Option.some.inj h
      decide
    · exact nomatch h

/-! ## The flash -/

/-- The player of a flash. -/
def flash (mirrored : Bool) (g : Generator) : Player leds :=
  Player.begun thunderFlash mirrored .once g

/-- A flash has two frames, and nothing in it is random. -/
theorem length_stills_thunderFlash : thunderFlash.stills.length = 2 := by decide

/-- Whatever generator a flash is given, its frames are those of the script, -/
theorem cycle_thunderFlash (g : Generator) : thunderFlash.cycle g = thunderFlash.stills :=
  Script.cycle_of_static (by decide) g

/-- and so what its player shows after some reads can be told from the script too. -/
theorem frame?_flash_after (mirrored : Bool) (g : Generator) (i : Nat) :
    ((flash mirrored g).after i).frame? = thunderFlash.stills[i]?.map (Frame.orient mirrored) := by
  rw [flash, Player.frame?_after_once, List.getElem?_map, cycle_thunderFlash]

/-- A flash is dropped as soon as its second frame was read. -/
theorem live_flash_after (mirrored : Bool) (g : Generator) (i : Nat) :
    Layers.live (some ((flash mirrored g).after (i + 1)))
      = if i = 0 then some ((flash mirrored g).after 1) else none := by
  rw [Layers.live_some, flash, Player.isEmpty_after_once, List.length_map,
    cycle_thunderFlash, length_stills_thunderFlash]
  cases i with
  | zero => rfl
  | succ i =>
    rw [if_neg (Nat.succ_ne_zero i), if_pos (decide_eq_true (Nat.le_add_left 2 i))]

/-! ## Side by side -/

/-- What thunder makes of the layers of an effect: the same layers, with a flash in the place of the
    overwrite if one is due. -/
structure Covers (up : Option Nat) (plain stormy : Layers leds) : Prop where
  underlay : stormy.underlay = plain.underlay
  overlay : stormy.overlay = plain.overlay
  mirrored : stormy.mirrored = plain.mirrored
  calm : plain.overwrite = none
  flash : ∃ g, stormy.overwrite = up.map fun i => (flash plain.mirrored g).after i

namespace Covers

variable {up : Option Nat} {plain stormy : Layers leds}

/-- Reading all layers reads the flash as well. -/
theorem advanced (h : Covers up plain stormy) :
    Covers (faded up) plain.advanced stormy.advanced := by
  obtain ⟨g, hflash⟩ := h.flash
  constructor
  -- the players of underlay and overlay are read in both effects, seen or not
  case underlay => exact congrArg (Option.map Player.next) h.underlay
  case overlay => exact congrArg (Option.map Player.next) h.overlay
  case mirrored => exact h.mirrored
  case calm =>
    show Layers.live (plain.overwrite.map Player.next) = none
    rw [h.calm]
    rfl
  case flash =>
    refine ⟨g, ?_⟩
    show Layers.live (stormy.overwrite.map Player.next) = _
    rw [hflash]
    -- a flash that is not up stays away; one that is up goes on to its next frame or is dropped
    cases up with
    | none => rfl
    | some i =>
      show Layers.live (some ((Thunder.flash plain.mirrored g).after (i + 1))) = _
      rw [live_flash_after, faded]
      cases i <;> rfl

/-- The hook changes the generator, and begins a new flash on a 1. -/
theorem struck (h : Covers up plain stormy) (draw : Nat × Generator) :
    Covers (if draw.1 == 1 then some 0 else up) plain (struck stormy draw) := by
  by_cases hdraw : draw.1 = 1
  -- a strike: the flash of before gives way to a new one, in the orientation of both
  · rw [if_pos (beq_iff_eq.2 hdraw), Thunder.struck, if_pos hdraw]
    refine ⟨h.underlay, h.overlay, h.mirrored, h.calm, ⟨draw.2.word64⟩, ?_⟩
    show some (Player.begun thunderFlash stormy.mirrored .once ⟨draw.2.word64⟩) = _
    rw [h.mirrored]
    rfl
  · rw [if_neg (mt beq_iff_eq.1 hdraw), Thunder.struck, if_neg hdraw]
    exact ⟨h.underlay, h.overlay, h.mirrored, h.calm, h.flash⟩

/-- What is seen of the flash. -/
theorem bind_frame? (h : Covers up plain stormy) :
    stormy.overwrite.bind Player.frame?
      = up.bind fun i => thunderFlash.stills[i]?.map (Frame.orient plain.mirrored) := by
  obtain ⟨g, hflash⟩ := h.flash
  rw [hflash]
  cases up with
  | none => rfl
  | some i => exact frame?_flash_after plain.mirrored g i

end Covers

/-- The hook has no memory, and is the stroke of lightning run on the layers. -/
theorem hook_eq : hook = (fun _ layers => do pure ((), ← strike layers)) := rfl

/-- The hook in closed form. -/
theorem value_hook (layers : Layers leds) :
    (hook () layers).value = ((), struck layers (layers.generator.byteIn 0 10)) := by
  rw [Hook.value_of_layers hook_eq, value_strike]

/-- The layers of an effect with thunder after a tick. -/
theorem layers_ticked {e : Effect Unit leds} (h : e.hook = hook) :
    e.ticked.layers = struck e.layers.advanced (drawn e) := by
  have hhooked : e.ticked.layers = (e.hook () e.layers.advanced).value.2 := rfl
  rw [hhooked, h, value_hook, drawn]

/-- An effect without a hook and one with thunder, side by side. -/
structure Beside (up : Option Nat) (plain stormy : Effect Unit leds) : Prop where
  base : stormy.base = plain.base
  plainHook : plain.hook = Hook.idle
  stormyHook : stormy.hook = hook
  layers : Covers up plain.layers stormy.layers

namespace Beside

variable {up : Option Nat} {plain stormy : Effect Unit leds}

/-- **One tick of both**, with the number the hook draws after it. -/
theorem tick (h : Beside up plain stormy) :
    Beside (if (drawn stormy).1 == 1 then some 0 else faded up) plain.ticked stormy.ticked := by
  have hstormy := layers_ticked h.stormyHook
  constructor
  case base => exact congrArg Player.next h.base
  case plainHook => exact h.plainHook
  case stormyHook => exact h.stormyHook
  case layers =>
    rw [Effect.layers_ticked_of_idle h.plainHook, hstormy]
    exact h.layers.advanced.struck _

/-- **Any number of ticks of both**, from the moment thunder is added. -/
theorem afterTicks (h : Beside none plain stormy) (t : Nat) :
    Beside (due (strikes stormy) t) (plain.afterTicks t) (stormy.afterTicks t) := by
  induction t with
  | zero =>
    rw [due_zero]
    -- thunder was just added, and nothing has struck
    exact h
  | succ t ih =>
    rw [Effect.afterTicks_succ, Effect.afterTicks_succ, due_succ, strikes]
    exact ih.tick

/-- What the effect with thunder shows: the flash, or else what the other one shows. -/
theorem shown (h : Beside up plain stormy) :
    stormy.shown
      = (up.bind fun i => thunderFlash.stills[i]?.map (Frame.orient plain.layers.mirrored)).getD
          plain.shown := by
  -- the two effects show the same but for the overwrite, which the plain one does not have
  rw [Effect.shown, Effect.shown, h.base, h.layers.underlay, h.layers.overlay, h.layers.calm,
    h.layers.bind_frame?]
  cases up.bind _ <;> rfl

/-- The flash has a frame whenever one is due. -/
theorem shown_afterTicks (h : Beside none plain stormy) (t : Nat) :
    some (stormy.afterTicks t).shown
      = match due (strikes stormy) t with
        | some i => thunderFlash.stills[i]?.map (Frame.orient plain.layers.mirrored)
        | none => some (plain.afterTicks t).shown := by
  rw [(h.afterTicks t).shown, (Effect.hook_afterTicks_of_idle h.plainHook t).2]
  -- a frame that is due is one of the two, so the flash can show it
  cases hdue : due (strikes stormy) t with
  | none => rfl
  | some i =>
    have hi : i < thunderFlash.stills.length := length_stills_thunderFlash ▸ lt_of_due hdue
    dsimp only [Option.bind_some]
    rw [List.getElem?_eq_getElem hi]
    rfl

end Beside

/-- Thunder is added between two ticks. -/
theorem beside_withHook {e : Effect Unit leds} (hidle : e.hook = Hook.idle)
    (hcalm : e.layers.overwrite = none) : Beside none e (e.withHook hook ()) := by
  constructor
  case base => rw [Effect.base_withHook]
  case plainHook => exact hidle
  case stormyHook => rw [Effect.hook_withHook]
  case layers =>
    rw [Effect.layers_withHook]
    exact ⟨rfl, rfl, rfl, hcalm, ⟨0⟩, hcalm⟩

/-! ## The weather -/

/-- The generator of the layers of an effect with thunder, after `t` ticks: every tick draws from
    it, and every strike gives one more word to the player of the flash. -/
def weather (g : Generator) : Nat → Generator
  | 0 => g
  | t + 1 =>
    let draw := (weather g t).byteIn 0 10
    if draw.1 = 1 then draw.2.advance else draw.2

/-- What a stroke leaves of the generator: the draw, and one word more if a flash was begun. -/
theorem generator_struck (layers : Layers leds) (draw : Nat × Generator) :
    (struck layers draw).generator = if draw.1 = 1 then draw.2.advance else draw.2 := by
  rw [struck]
  split <;> rfl

/-- No layer looks at the generator again once it is there, so the weather goes its own way. -/
theorem generator_afterTicks {stormy : Effect Unit leds} (h : stormy.hook = hook) (t : Nat) :
    (stormy.afterTicks t).hook = hook ∧
      (stormy.afterTicks t).layers.generator = weather stormy.layers.generator t := by
  induction t with
  | zero => exact ⟨h, rfl⟩
  | succ t ih =>
    have hdrawn : drawn (stormy.afterTicks t)
        = (weather stormy.layers.generator t).byteIn 0 10 := by
      rw [← ih.2]
      rfl
    rw [Effect.afterTicks_succ, layers_ticked ih.1, generator_struck, hdrawn, weather]
    exact ⟨ih.1, rfl⟩

/-- **The strikes follow from the generator of the layers alone.** -/
theorem strikes_eq {stormy : Effect Unit leds} (h : stormy.hook = hook) (t : Nat) :
    strikes stormy t = (((weather stormy.layers.generator t).byteIn 0 10).1 == 1) := by
  rw [strikes, drawn, ← (generator_afterTicks h t).2]
  rfl

/-! ## From the beginning -/

/-- **Thunder only covers frames.**  An effect with thunder and the same effect without a hook are
    compared after any number of ticks.  What the next tick shows is frame `i` of the flash if that
    is due, turned around as the configuration tells, and otherwise what the effect without thunder
    shows; base, underlay and overlay are the same players in both, at the same frame of the same
    cycle and with the same generator for the cycles to come. -/
theorem only_covers_frames {script : Script leds} {config : Config leds} {entropy : UInt64}
    {e : Effect Unit leds} (hstart : (Effect.start script config entropy).value = .ok e)
    (t : Nat) :
    let plain := e.afterTicks t
    let stormy := (e.withHook hook ()).afterTicks t
    some stormy.tick.value.1
        = (match due (strikes (e.withHook hook ())) t with
          | some i =>
            thunderFlash.stills[i]?.map fun flash =>
              if config.mirrored then flash.reverse else flash
          | none => some plain.tick.value.1) ∧
      stormy.base = plain.base ∧
      stormy.layers.underlay = plain.layers.underlay ∧
      stormy.layers.overlay = plain.layers.overlay := by
  obtain ⟨-, rfl⟩ := Effect.eq_started hstart
  have hbeside := beside_withHook rfl (Effect.overwrite_started script config entropy)
  generalize (Effect.started script config entropy).withHook hook () = stormy at hbeside
  have hshown := hbeside.shown_afterTicks t
  have hlayers := (hbeside.afterTicks t).layers
  rw [Effect.mirrored_started] at hshown
  dsimp only
  rw [Effect.value_tick, Effect.value_tick]
  exact ⟨hshown, (hbeside.afterTicks t).base, hlayers.underlay, hlayers.overlay⟩

/-- Thunder in the snow, seen from the other end of the strip: lightning strikes right after the
    first tick. -/
theorem thundersnow_only_covers :
    let config : Config leds :=
      { mirrored := true
        seed := some 16
        underlay := some Catalog.snowLayer }
    ∃ e, (Effect.start Catalog.raindropFalling config 0).value = .ok e ∧
      strikes (e.withHook hook ()) 0 = true ∧
      some ((e.withHook hook ()).afterTicks 1).tick.value.1
        = thunderFlash.stills[0]?.map Vector.reverse ∧
      ((e.withHook hook ()).afterTicks 1).base = (e.afterTicks 1).base ∧
      ((e.withHook hook ()).afterTicks 1).layers.underlay = (e.afterTicks 1).layers.underlay ∧
      ((e.withHook hook ()).afterTicks 1).layers.overlay = (e.afterTicks 1).layers.overlay := by
  intro config
  have hstart : (Effect.start Catalog.raindropFalling config 0).value
      = .ok (Effect.started Catalog.raindropFalling config 0) :=
    Effect.start_eq_ok (by decide) (by decide) 0
  have hgenerator : (Effect.started Catalog.raindropFalling config 0).layers.generator
      = (Generator.mk 16).skip 2 :=
    (started_follows Catalog.raindropFalling rfl 0).generator
  have hdraw : (((Generator.mk 16).skip 2).byteIn 0 10).1 = 1 := by
    rw [Generator.byteIn, Generator.within, if_neg (by decide),
      Generator.upTo_of_fair (by decide)]
    decide
  have hstrike : strikes ((Effect.started Catalog.raindropFalling config 0).withHook hook ()) 0
      = true := by
    rw [strikes_eq (Effect.hook_withHook ..), Effect.layers_withHook, hgenerator, weather, hdraw]
    rfl
  have hcovers := only_covers_frames hstart 1
  dsimp only at hcovers
  rw [due_succ, hstrike, if_pos rfl] at hcovers
  exact ⟨_, hstart, hstrike, hcovers⟩

end Thunder

end LedAnimation
