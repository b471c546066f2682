/-
  What an onlooker can see of an effect, as long as only static scripts are put into it.

  The generator of the layers is drawn from for one thing only: to give each new player a generator
  of its own.  A player of a static script never draws from the one it was given.  So `outward`
  forgets both, the generator of the layers and that of every static player; dynamic players keep
  theirs, as it decides on the cycles to come.

  Two effects that agree outwardly give back the same at every step, and still agree after it
  (`step_congr`); so their histories cannot be told apart (`history_congr`).
-/
import LedAnimation.Proofs.Effect.Steps
import LedAnimation.Proofs.Playback.Reel

namespace LedAnimation

variable {n : Nat}

/-! ## Players -/

namespace Player

/-- The player with another generator. -/
def reseeded (p : Player n) (g : Generator) : Player n := { p with generator := g }

/-- A player, without the generator it will never draw from. -/
def outward (p : Player n) : Player n := if p.isDynamic then p else p.reseeded ⟨0⟩

/-- A dynamic player keeps its generator, since its next cycles depend on it, -/
theorem outward_of_dynamic {p : Player n} (h : p.isDynamic = true) : p.outward = p := if_pos h

/-- and a static player loses it, whatever it was. -/
theorem outward_of_static {p : Player n} (h : p.isDynamic = false) :
    p.outward = p.reseeded ⟨0⟩ :=
  if_neg (Bool.eq_false_iff.1 h)

/-- A static player moves on without a look at its generator: at the end of its cycle it starts over
    with the frames it has. -/
theorem advanced_reseeded {p : Player n} (h : p.isDynamic = false) (g : Generator) :
    (p.reseeded g).advanced = p.advanced.reseeded g := by
  cases hmode : p.mode with
  | once =>
    rw [advanced_of_once hmode]
    exact advanced_of_once (p := p.reseeded g) hmode
  | loop =>
    rw [advanced_of_loop hmode, advanced_of_loop (p := p.reseeded g) hmode]
    by_cases hlt : p.position + 1 < p.frames.size
    · rw [if_pos hlt]
      exact if_pos hlt
    -- at the end of the cycle nothing is compiled, so no draw can tell the two apart
    · rw [if_neg hlt, rewound_of_static (p := { p with position := p.position + 1 }) h]
      exact (if_neg hlt).trans (rewound_of_static h)

/-- The same for a whole read, -/
theorem next_reseeded {p : Player n} (h : p.isDynamic = false) (g : Generator) :
    (p.reseeded g).next = p.next.reseeded g := by
  cases hframe : p.frames[p.position]? with
  | none =>
    rw [next_of_none hframe]
    exact next_of_none (p := p.reseeded g) hframe
  | some frame =>
    rw [next_of_some hframe, ← advanced_reseeded h]
    exact next_of_some (p := p.reseeded g) hframe

/-- The frame that is read next does not depend on the generator, -/
theorem frame?_outward (p : Player n) : p.outward.frame? = p.frame? := by
  rw [frame?_eq, frame?_eq, outward]
  split <;> rfl

/-- nor does what is left to read, -/
theorem isEmpty_outward (p : Player n) : p.outward.isEmpty = p.isEmpty := by
  rw [outward]
  split <;> rfl

/-- so an onlooker who has forgotten the generator can follow the player from read to read. -/
theorem next_outward (p : Player n) : p.outward.next = p.next.outward := by
  have hnext : p.next.isDynamic = p.isDynamic :=
    congrArg Script.isDynamic p.next_sameSetup.script
  cases h : p.isDynamic with
  | true => rw [outward_of_dynamic h, outward_of_dynamic (hnext.trans h)]
  | false => rw [outward_of_static h, outward_of_static (hnext.trans h), next_reseeded h]

/-- A new player of a static script looks the same, whatever generator it is given. -/
theorem outward_begun {script : Script n} (h : script.isDynamic = false) (mirrored : Bool)
    (mode : PlaybackMode) (g : Generator) :
    (begun script mirrored mode g).outward = (begun script mirrored mode ⟨0⟩).outward := by
  -- turning comes last, so the generator may be told apart before it
  have hbegun : ∀ g, begun script mirrored mode g
      = orient mirrored
          { script, frames := script.stills.toArray, position := 0, mode, mirrored := false
            generator := g } := by
    intro g
    rw [begun, Script.cycle_of_static h, Script.generatorAfter_of_static h]
  have hstatic : ∀ g, (begun script mirrored mode g).isDynamic = false := by
    intro g
    rw [hbegun]
    cases mirrored with
    | false => exact h
    | true => exact script.isDynamic_mirror.trans h
  rw [outward_of_static (hstatic g), outward_of_static (hstatic ⟨0⟩), hbegun, hbegun]
  cases mirrored <;> rfl

end Player

/-! ## Layers -/

namespace Layers

/-- The layers, without the generators nobody draws from any more. -/
def outward (layers : Layers n) : Layers n :=
  { layers.seenAs Player.outward with generator := ⟨0⟩ }

/-- What a slot contributes can be told outwardly. -/
theorem bind_frame?_outward (slot : Option (Player n)) :
    (slot.map Player.outward).bind Player.frame? = slot.bind Player.frame? := by
  cases slot with
  | none => rfl
  | some p => exact p.frame?_outward

/-- Reading all the layers once, as an onlooker sees it. -/
theorem advanced_outward (layers : Layers n) :
    layers.outward.advanced = layers.advanced.outward := by
  show { (layers.seenAs Player.outward).advanced with generator := ⟨0⟩ } = _
  rw [advanced_seenAs Player.next_outward Player.isEmpty_outward]
  rfl

/-- Which slots are taken can be told outwardly. -/
theorem holds_outward (layers : Layers n) (slot : Slot) :
    layers.outward.holds slot = layers.holds slot := by
  rw [← holds_seenAs Player.isEmpty_outward layers]
  cases slot <;> rfl

/-- A slot is changed for what can be seen of the new player. -/
theorem outward_set (layers : Layers n) (slot : Slot) (player : Option (Player n)) :
    (layers.set slot player).outward = layers.outward.set slot (player.map Player.outward) := by
  cases slot <;> rfl

/-- A static script in a slot looks the same, whatever was drawn for it. -/
theorem outward_filled (layers : Layers n) (slot : Slot) {script : Script n}
    (h : script.isDynamic = false) :
    (layers.filled slot script).outward
      = layers.outward.set slot
          (some (Player.begun script layers.mirrored slot.mode ⟨0⟩).outward) := by
  have hsource : ∀ generator, outward { layers with generator } = layers.outward := fun _ => rfl
  rw [filled, outward_set, Option.map_some, Player.outward_begun h, hsource]

end Layers

/-! ## Effects -/

/-- The script an intent brings. -/
def Intent.script? : Intent n → Option (Script n)
  | .overwrite script => some script
  | .underlay script => script
  | .overlay script => script
  | .brightness _ => none

/-- No action is in what an intent brings. -/
def Intent.isStatic (intent : Intent n) : Bool := intent.script?.all fun script => !script.isDynamic

namespace Effect

variable {σ : Type}

/-- No action is in what a step brings. -/
def Step.isStatic : Step n → Bool
  | .add _ script => !script.isDynamic
  | .intent asked => asked.isStatic
  | _ => true

/-- Static intents are static steps. -/
theorem isStatic_asStep (intent : Intent n) : intent.asStep.isStatic = intent.isStatic := by
  cases intent with
  | overwrite script => rfl
  | underlay script => cases script <;> rfl
  | overlay script => cases script <;> rfl
  | brightness level => rfl

/-- The effect, without the generators nobody draws from any more. -/
def outward (e : Effect σ n) : Effect σ n := { e with layers := e.layers.outward }

/-- The picture is made of what the players show, so it can be told outwardly, -/
theorem shown_outward (e : Effect σ n) : e.outward.shown = e.shown := by
  rw [shown, shown, outward, Layers.outward, Layers.seenAs]
  dsimp only
  rw [Layers.bind_frame?_outward, Layers.bind_frame?_outward, Layers.bind_frame?_outward]

/-- and without a hook so can a tick.  A hook might draw from the generator of the layers. -/
theorem ticked_outward {e : Effect σ n} (h : e.hook = Hook.idle) :
    e.outward.ticked = e.ticked.outward := by
  have houtward : e.outward.hook = Hook.idle := h
  rw [ticked_of_idle h, ticked_of_idle houtward, outward, outward]
  dsimp only
  rw [Layers.advanced_outward]

/-- What can be seen, without the generator of the layers. -/
def View.outward (view : View) : View := { view with generator := ⟨0⟩ }

/-- The view of an effect without hidden generators has a generator of its own to forget. -/
theorem view_outward (e : Effect σ n) : e.outward.view = e.view.outward := by
  show ({ underlay := e.layers.outward.holds .underlay
          overlay := e.layers.outward.holds .overlay
          overwrite := e.layers.outward.holds .overwrite
          brightness := e.brightness
          generator := ⟨0⟩ } : View) = _
  rw [Layers.holds_outward, Layers.holds_outward, Layers.holds_outward]
  rfl

/-- A run as an onlooker sees it. -/
def outwardHistory (history : View × List (Reply n × View)) : View × List (Reply n × View) :=
  (history.1.outward, history.2.map fun entry => (entry.1, entry.2.outward))

section Congruence

variable {a b : Effect σ n}

/-- Layers that agree outwardly may be put in place of each other. -/
theorem outward_layers_congr (h : a.outward = b.outward) {left right : Layers n}
    (hlayers : left.outward = right.outward) :
    outward { a with layers := left } = outward { b with layers := right } := by
  have hrest : ∀ layers, { a.outward with layers } = { b.outward with layers } := by
    intro layers
    rw [h]
  show ({ a.outward with layers := left.outward } : Effect σ n) = _
  rw [hrest, hlayers]
  rfl

/-- **Effects that agree outwardly** give back the same at every step that brings no action, and
    agree after it. -/
theorem step_congr (h : a.outward = b.outward) (hidle : a.hook = Hook.idle) {step : Step n}
    (hstep : step.isStatic) :
    (a.step step).1 = (b.step step).1 ∧ (a.step step).2.outward = (b.step step).2.outward := by
  have hlayers : a.layers.outward = b.layers.outward := congrArg layers h
  induction step using Step.inductionOn with
  | tick =>
    -- from what both effects show, and from what the tick leaves of them
    have hidle' : b.hook = Hook.idle := by
      show b.outward.hook = _
      rw [← h]
      exact hidle
    rw [step_tick, step_tick, ← shown_outward a, ← shown_outward b, ← ticked_outward hidle,
      ← ticked_outward hidle', h]
    exact ⟨rfl, rfl⟩
  | add slot script =>
    -- the seeds of the two new players may differ; a static player does not show it
    have hstatic : script.isDynamic = false := Bool.not_eq_true' _ ▸ hstep
    have hflag : a.layers.mirrored = b.layers.mirrored := by
      show a.layers.outward.mirrored = _
      rw [hlayers]
      rfl
    rw [step_add, step_add]
    refine ⟨rfl, outward_layers_congr h ?_⟩
    rw [Layers.outward_filled _ _ hstatic, Layers.outward_filled _ _ hstatic, hlayers, hflag]
  | clear slot =>
    refine ⟨rfl, outward_layers_congr h ?_⟩
    rw [Layers.clear, Layers.clear, Layers.outward_set, Layers.outward_set, hlayers]
  | brightness level =>
    -- both effects refuse the brightness, or both take it
    rw [step_brightness, step_brightness]
    cases brightnessFault? level with
    | some fault => exact ⟨rfl, h⟩
    | none => exact ⟨rfl, congrArg (fun e : Effect σ n => { e with brightness := level }) h⟩
  | intent intent ih =>
    rw [step_intent, step_intent]
    exact ih ((isStatic_asStep intent).trans hstep)

/-- **Their histories look the same.**  By induction on the steps; none of them adds a hook. -/
theorem history_congr (h : a.outward = b.outward) (hidle : a.hook = Hook.idle)
    {steps : List (Step n)} (hsteps : ∀ step ∈ steps, step.isStatic) :
    outwardHistory (a.history steps) = outwardHistory (b.history steps) := by
  have hview : ∀ {c d : Effect σ n}, c.outward = d.outward → c.view.outward = d.view.outward := by
    intro c d hsame
    rw [← view_outward, ← view_outward, hsame]
  have htrace : (a.trace steps).map (fun entry => (entry.1, entry.2.outward))
      = (b.trace steps).map fun entry => (entry.1, entry.2.outward) := by
    induction steps generalizing a b with
    | nil => rfl
    | cons step steps ih =>
      -- the first reply and the first view agree, and so do the two effects that go on
      rw [List.forall_mem_cons] at hsteps
      obtain ⟨hreply, hafter⟩ := step_congr h hidle hsteps.1
      have hrest := ih hafter ((a.hook_step step).trans hidle) hsteps.2
      rw [trace, trace, List.map_cons, List.map_cons, hreply, hview hafter, hrest]
  rw [history, history, outwardHistory, outwardHistory, hview h, htrace]

end Congruence

end Effect

end LedAnimation
