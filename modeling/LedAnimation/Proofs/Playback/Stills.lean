/-
  Players of scripts without actions take a short cut.

  They copy the frames of the script when they start, and go back to the first one at the end of a
  cycle, without compiling anything.  `Reel.compiling` is the same reel without the short cut: it
  compiles the script at the start and at every wrap, as a player of a script with actions does.

  The two stay in lockstep, whatever is done with them (`Copied.compiling_acts`).  What carries this
  is that a looping player always has all the frames of its script, in their order and in its own
  orientation (`Copied`): a wrap that compiles them finds the very frames it is to replace.  Neither
  of the two draws anything.
-/
import LedAnimation.Preview.Catalog
import LedAnimation.Proofs.Playback.Reel

namespace LedAnimation

variable {n : Nat}

/-- Turning a static script turns its frames. -/
theorem Script.stills_mirror {script : Script n} (hstatic : script.isDynamic = false) :
    script.mirror.stills = script.stills.map Frame.mirror := by
  have hmirror : script.mirror.isDynamic = false := script.isDynamic_mirror.trans hstatic
  -- both are what a compilation gives, with whatever generator
  rw [← cycle_of_static hmirror ⟨0⟩, cycle_mirror, cycle_of_static hstatic]

namespace Reel

/-- The same reel, but that it compiles its script for every cycle. -/
def compiling (r : Reel n) : Reel n := { r with dynamic := true }

variable {r : Reel n} {g : Generator}

/-- A compilation of a static script copies its frames. -/
theorem recompile_of_static (h : r.script.isDynamic = false) :
    r.recompile = .ok { r with frames := r.script.stills, cursor := 0 } := by
  rw [recompile_eq, Script.cycle_of_static h, Script.generatorAfter_of_static h]

/-- A reel that has copied the frames of its script, and was given the generator `g`. -/
structure Copied (g : Generator) (r : Reel n) : Prop where
  script : r.script.isDynamic = false
  dynamic : r.dynamic = false
  generator : r.generator = g
  /-- A looping reel has all of them, at every point of a cycle. -/
  frames : r.mode = .loop → r.frames = r.script.stills

namespace Copied

/-! ## The reel alone -/

/-- Moving on copies nothing: the frames of the script are those of every cycle. -/
theorem advance (h : r.Copied g) : r.advance.Copied g := by
  -- the cursor is all that moves
  by_cases hlt : r.cursor + 1 < r.frames.length
  · rw [advance_of_lt hlt]
    exact ⟨h.script, h.dynamic, h.generator, h.frames⟩
  · rw [advance_of_static hlt h.dynamic]
    exact ⟨h.script, h.dynamic, h.generator, h.frames⟩

/-- A one-shot reel gives frames away, so only of a looping one is it said that it has all
    of them. -/
theorem read (h : r.Copied g) : r.read.2.Copied g := by
  cases hmode : r.mode with
  | loop =>
    rw [read_of_loop hmode]
    cases r.frames[r.cursor]? with
    | none => exact h
    | some frame => exact h.advance
  | once =>
    rw [read_of_once hmode]
    cases r.frames with
    | nil => exact h
    | cons frame rest =>
      refine ⟨h.script, h.dynamic, h.generator, fun hloop => ?_⟩
      exact nomatch hmode.symm.trans hloop

/-- **One move.** -/
theorem act (h : r.Copied g) (move : Player.Move) : (r.act move).Copied g := by
  cases move with
  | read => exact h.read
  | recompile =>
    rw [Reel.act, recompile_of_static h.script]
    exact ⟨h.script, h.dynamic, h.generator, fun _ => rfl⟩
  | mirror =>
    refine ⟨r.script.isDynamic_mirror.trans h.script, h.dynamic, h.generator, fun hmode => ?_⟩
    show r.frames.map Frame.mirror = r.script.mirror.stills
    rw [h.frames hmode, Script.stills_mirror h.script]

/-- **Any moves.** -/
theorem acts (h : r.Copied g) (moves : List Player.Move) : (r.acts moves).Copied g := by
  induction moves generalizing r with
  | nil => exact h
  | cons move moves ih => exact ih (h.act move)

/-! ## In lockstep with the one that compiles -/

/-- At the end of a cycle it makes no difference whether the frames are compiled again or kept. -/
theorem compiling_advance (h : r.Copied g) (hmode : r.mode = .loop) :
    r.compiling.advance = r.advance.compiling := by
  by_cases hlt : r.cursor + 1 < r.frames.length
  · rw [advance_of_lt hlt]
    exact advance_of_lt (r := r.compiling) hlt
  · have hcompiled : r.compiling.recompile = .ok r.compiling.advance :=
      advance_of_dynamic (r := r.compiling) hlt rfl
    rw [recompile_of_static (r := r.compiling) h.script] at hcompiled
    rw [advance_of_static hlt h.dynamic, ← Except.ok.inj hcompiled]
    show { r.compiling with frames := r.script.stills, cursor := 0 } = _
    rw [← h.frames hmode]
    rfl

/-- Both read the same frame, or find none. -/
theorem compiling_read (h : r.Copied g) :
    r.compiling.read = (r.read.1, r.read.2.compiling) := by
  cases hmode : r.mode with
  | loop =>
    rw [read_of_loop hmode, read_of_loop (r := r.compiling) hmode]
    have hsame : r.compiling.frames[r.compiling.cursor]? = r.frames[r.cursor]? := rfl
    rw [hsame]
    cases r.frames[r.cursor]? with
    | none => rfl
    | some frame =>
      dsimp only
      rw [h.compiling_advance hmode]
  | once =>
    rw [read_of_once hmode, read_of_once (r := r.compiling) hmode]
    have hsame : r.compiling.frames = r.frames := rfl
    rw [hsame]
    cases r.frames <;> rfl

/-- Compiling a static script again gives both the frames of the script. -/
theorem compiling_recompile (h : r.Copied g) :
    r.compiling.recompile = r.recompile.map compiling := by
  rw [recompile_of_static h.script, recompile_of_static (r := r.compiling) h.script]
  rfl

/-- **One move of both.** -/
theorem compiling_act (h : r.Copied g) (move : Player.Move) :
    r.compiling.act move = (r.act move).compiling := by
  cases move with
  | read =>
    show r.compiling.read.2 = r.read.2.compiling
    rw [h.compiling_read]
  | recompile =>
    rw [Reel.act, Reel.act, h.compiling_recompile, recompile_of_static h.script]
    rfl
  | mirror => rfl

/-- **Any moves of both.** -/
theorem compiling_acts (h : r.Copied g) (moves : List Player.Move) :
    r.compiling.acts moves = (r.acts moves).compiling := by
  induction moves generalizing r with
  | nil => rfl
  | cons move moves ih => rw [acts_cons, acts_cons, h.compiling_act, ih (h.act move)]

end Copied

end Reel

namespace Player

/-! ## From the beginning -/

/-- The player of a static script, and the reel that compiles it, as they are loaded. -/
theorem copied_begun {script : Script n} (hstatic : script.isDynamic = false) (mirrored : Bool)
    (mode : PlaybackMode) (g : Generator) :
    (begun script mirrored mode g).reel.Copied g ∧
      Reel.load script true mirrored mode g
        = .ok (begun script mirrored mode g).reel.compiling := by
  have hfree : ∀ dynamic, dynamic = false → script.isDynamic = false := fun _ _ => hstatic
  have hloaded := load_eq_begun script mirrored mode g
  rw [hstatic, Reel.load_eq (hfree false)] at hloaded
  rw [← Except.ok.inj hloaded, Reel.load_eq (hfree true)]
  have hupright : (Reel.upright script false mode g).Copied g :=
    ⟨hstatic, rfl, Script.generatorAfter_of_static hstatic g,
      fun _ => Script.cycle_of_static hstatic g⟩
  cases mirrored with
  | false => exact ⟨hupright, rfl⟩
  | true => exact ⟨hupright.act .mirror, rfl⟩

/-- Going back to the first frame is not reported, as nothing is compiled. -/
theorem records_rewind_of_static {p : Player n} (h : p.isDynamic = false) :
    p.rewind.records = [] := by
  rw [rewind, h]
  rfl

/-- A read of a static script compiles nothing, so there is nothing to report. -/
theorem records_nextFrame_of_static {p : Player n} (h : p.isDynamic = false) :
    p.nextFrame.records = [] := by
  have hadvance : p.advance.records = [] := by
    rw [advance]
    cases p.mode with
    | once => rfl
    | loop =>
      show (if p.position + 1 < p.frames.size then _ else _ : Logged (Player n)).records = []
      by_cases hlt : p.position + 1 < p.frames.size
      · rw [if_pos hlt]
        rfl
      · rw [if_neg hlt]
        exact records_rewind_of_static h
  rw [nextFrame]
  cases p.frames[p.position]? with
  | none => rfl
  | some frame =>
    show (p.advance >>= _ : Logged _).records = []
    rw [Logged.records_bind, hadvance]
    rfl

/-- A player and a reel that show the same, give the same, and have drawn nothing. -/
structure Lockstep (g : Generator) (p : Player n) (r : Reel n) : Prop where
  /-- A read gives the same frame, or fails for both. -/
  read : p.nextFrame.value.map (·.1) = r.read.1
  /-- Compiling again has the same outcome for both. -/
  recompile : p.recompile.value.map (fun _ => ()) = r.recompile.map fun _ => ()
  left : p.left = r.frames
  length : p.length = r.frames.length
  cursor : p.cursor = r.cursor
  untouched : p.generator = g ∧ r.generator = g
  /-- The player compiles nothing on its own, -/
  copies : p.isDynamic = false ∧ p.nextFrame.records = []
  /-- while the reel compiles at the end of every cycle. -/
  compiles : r.dynamic = true

/-- **Copying the frames of a static script is as good as compiling them.**  A player of a script
    without actions, and a reel that compiles it at the start and at every wrap, are moved in the
    same way; they show the same at every moment, and the generator stays as it was given to
    them. -/
theorem copying_is_compiling {script : Script n} (hstatic : script.isDynamic = false)
    (mirrored : Bool) (mode : PlaybackMode) (g : Generator) (moves : List Move) :
    ∃ (p : Player n) (r : Reel n),
      (start script mirrored mode g).value = .ok p ∧
      (start script mirrored mode g).records = [] ∧
      Reel.load script true mirrored mode g = .ok r ∧
      Lockstep g (p.acts moves) (r.acts moves) := by
  obtain ⟨hbegun, hload⟩ := copied_begun hstatic mirrored mode g
  have hsilent : (start script mirrored mode g).records = [] := by
    -- from here on the player is any whose reel has copied its frames
    rw [start, hstatic]
    rfl
  refine ⟨_, _, value_start script mirrored mode g, hsilent, hload, ?_⟩
  generalize begun script mirrored mode g = first at hbegun
  rw [hbegun.compiling_acts]
  have hcopied := hbegun.acts moves
  rw [← reel_acts] at hcopied ⊢
  generalize first.acts moves = p at hcopied
  constructor
  case read =>
    rw [hcopied.compiling_read, read_reel]
    rfl
  case recompile =>
    rw [hcopied.compiling_recompile, reel_recompiled, value_recompile]
    rfl
  case left => rfl
  case length => exact p.length_left.symm
  case cursor => rfl
  case untouched => exact ⟨hcopied.generator, hcopied.generator⟩
  case copies => exact ⟨hcopied.script, records_nextFrame_of_static hcopied.script⟩
  case compiles => rfl

/-- Lightning that loops: turned before the first wrap, and compiled again in the middle of a
    cycle. -/
theorem looping_flash_is_copied :
    Catalog.thunderFlash.isDynamic = false ∧
      ∃ (p : Player Catalog.leds) (r : Reel Catalog.leds),
        (start Catalog.thunderFlash true .loop ⟨7⟩).value = .ok p ∧
        Reel.load Catalog.thunderFlash true true .loop ⟨7⟩ = .ok r ∧
        Lockstep ⟨7⟩ (p.acts [.read, .mirror, .read, .read, .recompile, .read])
          (r.acts [.read, .mirror, .read, .read, .recompile, .read]) := by
  have hstatic : Catalog.thunderFlash.isDynamic = false := by decide
  obtain ⟨p, r, hstart, -, hload, hlockstep⟩ := copying_is_compiling hstatic true .loop ⟨7⟩
    [.read, .mirror, .read, .read, .recompile, .read]
  exact ⟨hstatic, p, r, hstart, hload, hlockstep⟩

end Player

end LedAnimation
