/-
  Between two ticks only the last change of each kind counts.

  There are four kinds of changes: one for each slot, and the brightness (`Kind`).  An intent puts
  something under its kind, a new player or none or a brightness, and touches nothing else
  (`content_told`); a brightness out of range is of no kind at all.  So after a batch there is under
  each kind what the last intent of that kind put there (`content_run`), and the order between kinds
  does not matter.

  What does remember every intent is the generator of the layers, and with it the generators that
  new players are given.  For static scripts nobody can ever see that (`Effect.outward`).
-/
import LedAnimation.Preview.Catalog
import LedAnimation.Proofs.Effect.Outward

namespace LedAnimation

variable {n : Nat}

/-! ## Kinds -/

/-- What an intent can change. -/
inductive Kind where
  | layer (slot : Slot)
  | brightness
  deriving DecidableEq, Repr

/-- All of them, in the order in which `lastOfEach` keeps the last intents. -/
def Kind.all : List Kind := [.layer .overwrite, .layer .underlay, .layer .overlay, .brightness]

namespace Intent

/-- What an intent changes.  A brightness out of range changes nothing. -/
def kind? : Intent n → Option Kind
  | .overwrite _ => some (.layer .overwrite)
  | .underlay _ => some (.layer .underlay)
  | .overlay _ => some (.layer .overlay)
  | .brightness level =>
    match brightnessFault? level with
    | none => some .brightness
    | some _ => none

/-- The last intent of a kind. -/
def last? (kind : Kind) (batch : List (Intent n)) : Option (Intent n) :=
  (batch.filter fun intent => intent.kind? = some kind).getLast?

/-- The last intent of each kind, where there is one. -/
def lastOfEach (batch : List (Intent n)) : List (Intent n) := Kind.all.filterMap (last? · batch)

/-- It is an intent of the batch, and of that kind. -/
theorem mem_of_last? {kind : Kind} {batch : List (Intent n)} {intent : Intent n}
    (h : last? kind batch = some intent) : intent ∈ batch ∧ intent.kind? = some kind := by
  have hmem := List.mem_filter.1 (List.mem_of_getLast? h)
  exact ⟨hmem.1, of_decide_eq_true hmem.2⟩

/-- Nothing is kept that was not in the batch. -/
theorem mem_of_mem_lastOfEach {batch : List (Intent n)} {intent : Intent n}
    (h : intent ∈ lastOfEach batch) : intent ∈ batch := by
  obtain ⟨kind, _, hlast⟩ := List.mem_filterMap.1 h
  exact (mem_of_last? hlast).1

/-- An intent in front is the last of its kind only if no other one follows. -/
theorem last?_cons (kind : Kind) (intent : Intent n) (rest : List (Intent n)) :
    last? kind (intent :: rest)
      = (last? kind rest).or (if intent.kind? = some kind then some intent else none) := by
  rw [last?, last?]
  by_cases hkind : intent.kind? = some kind
  · rw [List.filter_cons, if_pos (decide_eq_true hkind), List.getLast?_cons, if_pos hkind]
    cases List.getLast? _ <;> rfl
  · rw [List.filter_cons, if_neg (by simpa using hkind), if_neg hkind, Option.or_none]

/-- Of each kind there is at most one left. -/
theorem filter_lastOfEach (kind : Kind) (batch : List (Intent n)) :
    (lastOfEach batch).filter (fun intent => intent.kind? = some kind)
      = (last? kind batch).toList := by
  -- each of the last intents is kept for the sake of its own kind alone
  have hone : ∀ other, (last? other batch).filter (fun intent => intent.kind? = some kind)
      = if other = kind then last? kind batch else none := by
    intro other
    by_cases hsame : other = kind
    · rw [if_pos hsame, hsame]
      cases hlast : last? kind batch with
      | none => rfl
      | some intent =>
        exact Option.filter_eq_some_iff.2 ⟨rfl, decide_eq_true (mem_of_last? hlast).2⟩
    · rw [if_neg hsame, Option.filter_eq_none_iff]
      intro intent hlast
      rw [(mem_of_last? hlast).2]
      simpa using hsame
  rw [lastOfEach, List.filter_filterMap]
  simp only [hone]
  -- every kind stands once in the list of all kinds
  cases last? kind batch <;> cases kind with
  | layer slot => cases slot <;> rfl
  | brightness => rfl

/-- The last intents have the same last intents, in whatever order they stand. -/
theorem last?_of_perm {batch kept : List (Intent n)} (h : kept.Perm (lastOfEach batch))
    (kind : Kind) : last? kind kept = last? kind batch := by
  have hfilter := h.filter fun intent => intent.kind? = some kind
  rw [filter_lastOfEach] at hfilter
  rw [last?]
  cases hlast : last? kind batch with
  | none =>
    rw [hlast] at hfilter
    rw [List.perm_nil.1 hfilter]
    rfl
  | some intent =>
    rw [hlast] at hfilter
    rw [List.perm_singleton.1 hfilter]
    rfl

end Intent

/-! ## What stands under a kind -/

/-- The player of a slot as an onlooker sees it, or a brightness. -/
inductive Content (n : Nat) where
  | layer (player : Option (Player n))
  | brightness (level : Binary32)

/-- A new player of a script, or none. -/
def Content.fresh (mirrored : Bool) (slot : Slot) (script : Option (Script n)) : Content n :=
  .layer (script.map fun script => (Player.begun script mirrored slot.mode ⟨0⟩).outward)

/-- What an intent puts under its kind. -/
def Intent.content (mirrored : Bool) : Intent n → Content n
  | .overwrite script => .fresh mirrored .overwrite (some script)
  | .underlay script => .fresh mirrored .underlay script
  | .overlay script => .fresh mirrored .overlay script
  | .brightness level => .brightness level

namespace Layers

/-- The layers with a slot filled, or emptied. -/
def changed (layers : Layers n) (slot : Slot) : Option (Script n) → Layers n
  | some script => layers.filled slot script
  | none => layers.clear slot

/-- Outwardly a slot that is changed holds a new player, or none, whatever was drawn. -/
theorem outward_changed (layers : Layers n) (slot : Slot) {script : Option (Script n)}
    (h : script.all fun script => !script.isDynamic) :
    (layers.changed slot script).outward
      = layers.outward.set slot
          (script.map fun script =>
            (Player.begun script layers.mirrored slot.mode ⟨0⟩).outward) := by
  cases script with
  | none => exact outward_set layers slot none
  | some script =>
    have hstatic : script.isDynamic = false := by simpa using h
    exact outward_filled layers slot hstatic

/-- No slot has a say in the orientation, -/
theorem mirrored_changed (layers : Layers n) (slot : Slot) (script : Option (Script n)) :
    (layers.changed slot script).mirrored = layers.mirrored := by
  cases script with
  | none => exact mirrored_set layers slot none
  | some script => exact mirrored_set _ slot _

/-- or in what the other slots hold. -/
theorem get_changed_of_ne (layers : Layers n) {slot other : Slot} (script : Option (Script n))
    (h : other ≠ slot) : (layers.changed slot script).get other = layers.get other := by
  cases script with
  | none => exact get_set_of_ne layers none h
  | some script =>
    have hgenerator : ∀ generator, get { layers with generator } other = layers.get other := by
      intro generator
      cases other <;> rfl
    exact (get_set_of_ne _ _ h).trans (hgenerator _)

/-- What a slot holds after a tick depends on nothing but what it held before. -/
theorem get_advanced_congr {a b : Layers n} {slot : Slot} (h : a.get slot = b.get slot) :
    a.advanced.get slot = b.advanced.get slot := by
  cases slot with
  | underlay => exact congrArg (Option.map Player.next) h
  | overlay => exact congrArg (Option.map Player.next) h
  | overwrite => exact congrArg (fun player => live (player.map Player.next)) h

end Layers

namespace Effect

variable {σ : Type}

/-- What stands under a kind. -/
def content (e : Effect σ n) : Kind → Content n
  | .layer slot => .layer (e.layers.outward.get slot)
  | .brightness => .brightness e.brightness

/-- The effect without all that intents change. -/
def stripped (e : Effect σ n) : Effect σ n :=
  { e with layers := Layers.bare e.layers.mirrored ⟨0⟩, brightness := ⟨0⟩ }

/-- Without slots and brightness, the orientation is still there to be compared. -/
theorem mirrored_of_stripped {a b : Effect σ n} (h : a.stripped = b.stripped) :
    a.layers.mirrored = b.layers.mirrored := by
  show a.stripped.layers.mirrored = _
  rw [h]
  rfl

/-- Nothing else can be seen. -/
theorem outward_eq_of_content {a b : Effect σ n} (hstripped : a.stripped = b.stripped)
    (hcontent : ∀ kind, a.content kind = b.content kind) : a.outward = b.outward := by
  have hslot : ∀ slot, a.layers.outward.get slot = b.layers.outward.get slot :=
    fun slot => Content.layer.inj (hcontent (.layer slot))
  have hbrightness : a.brightness = b.brightness := Content.brightness.inj (hcontent .brightness)
  have hmirrored := mirrored_of_stripped hstripped
  have hlayers : a.layers.outward = b.layers.outward := by
    have hrebuilt : ∀ layers : Layers n, layers.outward
        = { underlay := layers.outward.get .underlay
            overlay := layers.outward.get .overlay
            overwrite := layers.outward.get .overwrite
            mirrored := layers.mirrored
            generator := ⟨0⟩ } := fun _ => rfl
    rw [hrebuilt, hslot, hslot, hslot, hmirrored]
    rfl
  show ({ a.stripped with layers := a.layers.outward, brightness := a.brightness } : Effect σ n) = _
  rw [hstripped, hlayers, hbrightness]
  rfl

/-- The effect after an intent.  A brightness out of range is rejected. -/
def told (e : Effect σ n) : Intent n → Effect σ n
  | .overwrite script => { e with layers := e.layers.changed .overwrite (some script) }
  | .underlay script => { e with layers := e.layers.changed .underlay script }
  | .overlay script => { e with layers := e.layers.changed .overlay script }
  | .brightness level =>
    match brightnessFault? level with
    | none => { e with brightness := level }
    | some _ => e

/-- An intent in closed form, which the step that it asks for comes to. -/
theorem step_eq_told (e : Effect σ n) (intent : Intent n) :
    (e.step (.intent intent)).2 = e.told intent := by
  rw [step_intent]
  cases intent with
  | overwrite script =>
    rw [Intent.asStep, step_add]
    rfl
  | underlay script =>
    cases script with
    | none => rfl
    | some script =>
      rw [Intent.asStep, step_add]
      rfl
  | overlay script =>
    cases script with
    | none => rfl
    | some script =>
      rw [Intent.asStep, step_add]
      rfl
  | brightness level =>
    rw [Intent.asStep, step_brightness, told]
    cases brightnessFault? level <;> rfl

/-- What stands where after a slot was changed. -/
theorem content_changed (e : Effect σ n) (slot : Slot) {script : Option (Script n)}
    (h : script.all fun script => !script.isDynamic) (kind : Kind) :
    content { e with layers := e.layers.changed slot script } kind
      = if some (Kind.layer slot) = some kind then .fresh e.layers.mirrored slot script
        else e.content kind := by
  cases kind with
  | brightness => rfl
  | layer other =>
    show Content.layer ((e.layers.changed slot script).outward.get other) = _
    rw [Layers.outward_changed e.layers slot h]
    by_cases hslot : other = slot
    · subst hslot
      rw [Layers.get_set_self, if_pos rfl]
      rfl
    · rw [Layers.get_set_of_ne _ _ hslot, if_neg (by simpa using Ne.symm hslot)]
      rfl

/-- **One intent** changes what stands under its kind, -/
theorem content_told (e : Effect σ n) {intent : Intent n} (h : intent.isStatic) (kind : Kind) :
    (e.told intent).content kind
      = if intent.kind? = some kind then intent.content e.layers.mirrored else e.content kind := by
  cases intent with
  | overwrite script => exact content_changed e .overwrite h kind
  | underlay script => exact content_changed e .underlay h kind
  | overlay script => exact content_changed e .overlay h kind
  | brightness level =>
    rw [told, Intent.kind?]
    cases brightnessFault? level with
    | some fault => rfl
    | none => cases kind <;> rfl

/-- and nothing besides. -/
theorem stripped_told (e : Effect σ n) (intent : Intent n) :
    (e.told intent).stripped = e.stripped := by
  have hchanged : ∀ slot script,
      stripped { e with layers := e.layers.changed slot script } = e.stripped := by
    intro slot script
    rw [stripped, Layers.mirrored_changed]
    rfl
  cases intent with
  | overwrite script => exact hchanged .overwrite (some script)
  | underlay script => exact hchanged .underlay script
  | overlay script => exact hchanged .overlay script
  | brightness level =>
    rw [told]
    cases brightnessFault? level <;> rfl

/-- **A whole batch** leaves under each kind what the last intent of that kind put there, or what
    was there before. -/
theorem content_run (e : Effect σ n) {batch : List (Intent n)}
    (h : ∀ intent ∈ batch, intent.isStatic) (kind : Kind) :
    (e.run (batch.map .intent)).content kind
      = ((Intent.last? kind batch).map (Intent.content e.layers.mirrored)).getD
          (e.content kind) := by
  induction batch generalizing e with
  | nil => rfl
  | cons intent rest ih =>
    rw [List.forall_mem_cons] at h
    have hflag : (e.told intent).layers.mirrored = e.layers.mirrored :=
      mirrored_of_stripped (e.stripped_told intent)
    rw [List.map_cons, run_cons, step_eq_told, ih _ h.2, hflag, content_told e h.1,
      Intent.last?_cons]
    -- an intent of this kind further back counts for more than the one in front
    cases Intent.last? kind rest with
    | some last => rfl
    | none =>
      rw [Option.none_or]
      split <;> rfl

/-- A whole batch leaves the effect as it was but for the four kinds. -/
theorem stripped_run (e : Effect σ n) (batch : List (Intent n)) :
    (e.run (batch.map .intent)).stripped = e.stripped := by
  induction batch generalizing e with
  | nil => rfl
  | cons intent rest ih => rw [List.map_cons, run_cons, ih, step_eq_told, stripped_told]

/-- So the last intents, in whatever order, do the same as all of them. -/
theorem outward_run_of_perm (e : Effect σ n) {batch kept : List (Intent n)}
    (h : ∀ intent ∈ batch, intent.isStatic) (hkept : kept.Perm (Intent.lastOfEach batch)) :
    (e.run (batch.map .intent)).outward = (e.run (kept.map .intent)).outward := by
  have hstatic : ∀ intent ∈ kept, intent.isStatic :=
    fun intent hmem => h intent (Intent.mem_of_mem_lastOfEach (hkept.subset hmem))
  refine outward_eq_of_content ?_ fun kind => ?_
  · rw [stripped_run, stripped_run]
  · rw [content_run e h, content_run e hstatic, Intent.last?_of_perm hkept]

/-! ## What keeps running -/

/-- Only a tick lets time pass. -/
def Step.isTick : Step n → Bool
  | .tick => true
  | _ => false

/-- The only step that lets time pass. -/
theorem Step.eq_tick {step : Step n} (h : step.isTick = true) : step = .tick := by
  cases step with
  | tick => rfl
  | add slot script => exact nomatch h
  | clear slot => exact nomatch h
  | brightness level => exact nomatch h
  | intent asked => exact nomatch h

/-- What a step changes. -/
def Step.kind? : Step n → Option Kind
  | .tick => none
  | .add slot _ => some (.layer slot)
  | .clear slot => some (.layer slot)
  | .brightness level => Intent.kind? (.brightness level : Intent n)
  | .intent asked => asked.kind?

/-- A part of the effect that nothing but ticks can change is after a run where the ticks of that
    run take it. -/
theorem part_run {α : Type} (part : Effect σ n → α) {steps : List (Step n)}
    (htick : ∀ a b : Effect σ n, a.hook = Hook.idle → b.hook = Hook.idle → part a = part b →
      part a.ticked = part b.ticked)
    (hstep : ∀ (e : Effect σ n), ∀ step ∈ steps, step.isTick = false →
      part (e.step step).2 = part e)
    {a b : Effect σ n} (ha : a.hook = Hook.idle) (hb : b.hook = Hook.idle) (h : part a = part b) :
    part (a.run steps) = part (b.run (steps.filter Step.isTick)) := by
  induction steps generalizing a b with
  | nil => exact h
  | cons step steps ih =>
    have hrest : ∀ e, ∀ step ∈ steps, step.isTick = false → part (e.step step).2 = part e :=
      fun e step hmem => hstep e step (List.mem_cons_of_mem _ hmem)
    have hnext := (a.hook_step step).trans ha
    cases hkind : step.isTick with
    | false =>
      -- the step changes something else, so the part is what it was
      rw [run_cons, List.filter_cons_of_neg (Bool.eq_false_iff.1 hkind)]
      exact ih hrest hnext hb ((hstep a step List.mem_cons_self hkind).trans h)
    | true =>
      obtain rfl := Step.eq_tick hkind
      rw [run_cons, List.filter_cons_of_pos hkind, run_cons]
      refine ih hrest hnext ((b.hook_step .tick).trans hb) ?_
      rw [step_tick, step_tick]
      exact htick a b ha hb h

/-- The base goes on whatever is done with the layers. -/
theorem base_step (e : Effect σ n) {step : Step n} (h : step.isTick = false) :
    (e.step step).2.base = e.base := by
  cases step with
  | tick => exact nomatch h
  | add slot script => rw [step_add]
  | clear slot => rfl
  | brightness level =>
    rw [step_brightness]
    cases brightnessFault? level <;> rfl
  | intent asked =>
    rw [step_eq_told]
    show (e.told asked).stripped.base = e.base
    rw [stripped_told]
    rfl

/-- So does a layer, as long as its slot is left alone. -/
theorem get_told (e : Effect σ n) {slot : Slot} {intent : Intent n}
    (h : intent.kind? ≠ some (.layer slot)) :
    (e.told intent).layers.get slot = e.layers.get slot := by
  have hne : ∀ {other : Slot}, some (Kind.layer other) ≠ some (.layer slot) → slot ≠ other := by
    rintro other hother rfl
    exact hother rfl
  cases intent with
  | overwrite script => exact Layers.get_changed_of_ne e.layers (some script) (hne h)
  | underlay script => exact Layers.get_changed_of_ne e.layers script (hne h)
  | overlay script => exact Layers.get_changed_of_ne e.layers script (hne h)
  | brightness level =>
    rw [told]
    cases brightnessFault? level <;> rfl

/-- The same for any step that is no tick and leaves the slot alone. -/
theorem get_step (e : Effect σ n) {slot : Slot} {step : Step n} (htick : step.isTick = false)
    (h : step.kind? ≠ some (.layer slot)) :
    (e.step step).2.layers.get slot = e.layers.get slot := by
  cases step with
  | tick => exact nomatch htick
  | add other script =>
    rw [step_add]
    refine Layers.get_changed_of_ne e.layers (some script) ?_
    rintro rfl
    exact h rfl
  | clear other =>
    refine Layers.get_changed_of_ne e.layers none ?_
    rintro rfl
    exact h rfl
  | brightness level =>
    rw [step_brightness]
    cases brightnessFault? level <;> rfl
  | intent asked =>
    rw [step_eq_told]
    exact e.get_told h

/-- So the base is read as often as there are ticks, and nothing else happens to it, -/
theorem base_run {e : Effect σ n} (hidle : e.hook = Hook.idle) (steps : List (Step n)) :
    (e.run steps).base = (e.run (steps.filter Step.isTick)).base := by
  refine part_run Effect.base ?_ ?_ hidle hidle rfl
  · intro a b _ _ hsame
    exact congrArg Player.next hsame
  · intro e step _ htick
    exact e.base_step htick

/-- and so it is with a layer whose slot is left alone. -/
theorem get_run {e : Effect σ n} (hidle : e.hook = Hook.idle) {slot : Slot} {steps : List (Step n)}
    (hslot : ∀ step ∈ steps, step.kind? ≠ some (.layer slot)) :
    (e.run steps).layers.get slot = (e.run (steps.filter Step.isTick)).layers.get slot := by
  refine part_run (fun e => e.layers.get slot) ?_ ?_ hidle hidle rfl
  · intro a b ha hb hsame
    rw [layers_ticked_of_idle ha, layers_ticked_of_idle hb]
    exact Layers.get_advanced_congr hsame
  · intro e step hmem htick
    exact e.get_step htick (hslot step hmem)

/-- No batch lets time pass. -/
theorem filter_isTick_batch (batch : List (Intent n)) (later : List (Step n)) :
    (batch.map Step.intent ++ later).filter Step.isTick = later.filter Step.isTick := by
  have hnone : (batch.map Step.intent).filter Step.isTick = [] := by
    rw [List.filter_eq_nil_iff]
    intro step hmem
    obtain ⟨intent, _, rfl⟩ := List.mem_map.1 hmem
    exact Bool.false_ne_true
  rw [List.filter_append, hnone, List.nil_append]

/-! ## All together -/

/-- What it means for the steps that follow that of a batch of intents only those that were kept
    were carried out. -/
structure OnlyLastCount (e : Effect σ n) (batch kept : List (Intent n)) (later : List (Step n)) :
    Prop where
  /-- A batch may as well be waiting in a queue, whatever its capacity. -/
  drained : ∀ capacity,
    ((Queue.mk capacity batch).drain e).value.2.2 = e.run (batch.map .intent)
  /-- Under each kind stands what the last intent of that kind put there, or what was there
      before. -/
  contents : ∀ kind, (e.run (batch.map .intent)).content kind
    = ((Intent.last? kind batch).map (Intent.content e.layers.mirrored)).getD (e.content kind)
  /-- All that follows looks the same: every frame, every reply, and after every step the brightness
      and what is in the slots. -/
  seen : outwardHistory ((e.run (batch.map .intent)).history later)
    = outwardHistory ((e.run (kept.map .intent)).history later)
  /-- A layer whose slot is left alone goes on as if there were nothing but ticks, -/
  running : ∀ slot, (∀ step ∈ batch.map Step.intent ++ later, step.kind? ≠ some (.layer slot)) →
    ((e.run (batch.map .intent)).run later).layers.get slot
      = (e.run (later.filter Step.isTick)).layers.get slot
  /-- and so does the base. -/
  base : ((e.run (batch.map .intent)).run later).base = (e.run (later.filter Step.isTick)).base

/-- **Between two ticks only the last change of each kind counts.**  Of a batch of static intents
    only the last overwrite, the last underlay, the last overlay and the last brightness in range
    have to be kept, and these may be carried out in any order. -/
theorem only_last_changes_count {e : Effect σ n} (hidle : e.hook = Hook.idle)
    {batch kept : List (Intent n)} (hbatch : ∀ intent ∈ batch, intent.isStatic)
    (hkept : kept.Perm (Intent.lastOfEach batch)) {later : List (Step n)}
    (hlater : ∀ step ∈ later, step.isStatic) : OnlyLastCount e batch kept later := by
  have hall : (e.run (batch.map .intent)).run later = e.run (batch.map .intent ++ later) :=
    List.foldl_append.symm
  constructor
  case drained =>
    intro capacity
    rw [Queue.drain, Logged.value_bind]
    exact effect_applyAll e batch
  case contents => exact content_run e hbatch
  case seen =>
    refine history_congr (e.outward_run_of_perm hbatch hkept) ?_ hlater
    show (e.run (batch.map .intent)).stripped.hook = _
    rw [stripped_run]
    exact hidle
  case running =>
    intro slot hslot
    rw [hall, get_run hidle hslot, filter_isTick_batch]
  case base => rw [hall, base_run hidle, filter_isTick_batch]

/-- Rain falls through a colour that wanders, both compiled anew for every cycle.  Of seven intents
    three are left, and carried out in the reverse order: a brightness that is no number was
    rejected, and an underlay was removed again. -/
theorem rain_keeps_three :
    let e := started Catalog.raindropFalling { overlay := some Catalog.hueCycle, seed := some 7 } 0
    let batch : List (Intent Catalog.leds) :=
      [.overwrite Catalog.thunderFlash, .underlay (some Catalog.snowLayer),
        .brightness (.nearest 1 2), .underlay none, .overwrite Catalog.snowLayer, .brightness .nan,
        .overwrite Catalog.thunderFlash]
    let kept : List (Intent Catalog.leds) :=
      [.brightness (.nearest 1 2), .underlay none, .overwrite Catalog.thunderFlash]
    let later : List (Step Catalog.leds) :=
      [.tick, .intent (.underlay (some Catalog.thunderFlash)), .tick, .tick]
    e.hook = Hook.idle ∧ (∀ intent ∈ batch, intent.isStatic) ∧
      kept.Perm (Intent.lastOfEach batch) ∧ (∀ step ∈ later, step.isStatic) ∧
      OnlyLastCount e batch kept later := by
  intro e batch kept later
  have hbatch : ∀ intent ∈ batch, intent.isStatic := by decide
  have hkept : kept.Perm (Intent.lastOfEach batch) := List.reverse_perm (Intent.lastOfEach batch)
  have hlater : ∀ step ∈ later, step.isStatic := by decide
  exact ⟨rfl, hbatch, hkept, hlater, only_last_changes_count rfl hbatch hkept hlater⟩

end Effect

end LedAnimation
