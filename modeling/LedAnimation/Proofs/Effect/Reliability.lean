/-
  A script that was made never fails later.

  Its entries are looked at once, when it is made.  Rows and frames need no look, as they hold no
  actions (`Script.ofRows_of_mapM`), and turning a script keeps it in order.  All that comes later
  relies on this: compiling it, starting a player for it, compiling again at any point of any run of
  that player, and putting it in a layer slot of an effect.  `NeverFails` lists what is relied on.

  A player that starts over asks for the outcome of the compilation, and would report a warning and
  keep its frames if that was an error.  `Quiet` says of a computation that it warns of nothing; no
  read of any player warns.

  Setting up an effect can only fail for its frame rate, its brightness, or a base script without
  entries (`setupFault?`), whatever the layers are.
-/
import LedAnimation.Proofs.Effect.Steps

namespace LedAnimation

variable {n : Nat}

/-! ## Rows hold no actions -/

/-- Rows of the right length become frames, and nothing else: an entry that came from a row is no
    action. -/
theorem exists_frames_of_mapM {rows : List (List Rgb)} {entries : List (Entry n)}
    (h : rows.mapM (Entry.ofRow n) = .ok entries) :
    ∃ frames : List (Frame n), entries = frames.map .frame := by
  induction rows generalizing entries with
  | nil => exact ⟨[], (Except.ok.inj h).symm⟩
  | cons row rows ih =>
    rw [List.mapM_cons, Entry.ofRow] at h
    by_cases hlength : row.length = n
    · rw [dif_pos hlength] at h
      cases hrest : rows.mapM (Entry.ofRow n) with
      | error fault =>
        rw [hrest] at h
        exact nomatch h
      | ok rest =>
        obtain ⟨frames, rfl⟩ := ih hrest
        rw [hrest] at h
        exact ⟨_ :: frames, (Except.ok.inj h).symm⟩
    · rw [dif_neg hlength] at h
      exact nomatch h

/-- Rows that are frames make a script, and the check has nothing to refuse. -/
theorem Script.ofRows_of_mapM {rows : List (List Rgb)} {entries : List (Entry n)}
    (h : rows.mapM (Entry.ofRow n) = .ok entries) :
    ∃ script : Script n, ofRows rows = .ok script ∧ script.entries = entries := by
  obtain ⟨frames, rfl⟩ := exists_frames_of_mapM h
  refine ⟨ofFrames frames, ?_, rfl⟩
  show (rows.mapM (Entry.ofRow n) >>= ofEntries) = _
  rw [h]
  exact ofEntries_eq_ok_iff.2 rfl

/-! ## Computations that warn of nothing -/

namespace Logged

variable {α β : Type}

/-- No record is a warning. -/
def Quiet (x : Logged α) : Prop := ∀ record ∈ x.records, record.level ≠ .warn

/-- A computation that reports nothing does not warn, -/
theorem quiet_pure (a : α) : (pure a : Logged α).Quiet := by
  intro record hmem
  exact nomatch hmem

/-- nor does one after the other if neither of them does. -/
theorem Quiet.bind {x : Logged α} {f : α → Logged β} (hx : x.Quiet) (hf : (f x.value).Quiet) :
    (x >>= f).Quiet := by
  intro record hmem
  rw [records_bind, List.mem_append] at hmem
  rcases hmem with hmem | hmem
  · exact hx record hmem
  · exact hf record hmem

/-- A message for debugging is no warning. -/
theorem quiet_report_debug (text : String) : (report .debug text).Quiet := by
  intro record hmem
  obtain rfl := List.mem_singleton.1 hmem
  exact fun h => nomatch h

end Logged

namespace Player

open Logged

/-- Compiling again reports the number of frames for debugging, and no error, since there
    is none. -/
theorem recompile_quiet (p : Player n) : p.recompile.Quiet := by
  rw [recompile, Script.compile_eq]
  exact (quiet_report_debug _).bind (quiet_pure _)

/-- Starting over never keeps the frames of a cycle for want of another one. -/
theorem rewind_quiet (p : Player n) : p.rewind.Quiet := by
  rw [rewind]
  by_cases hdynamic : p.isDynamic
  · rw [if_pos hdynamic]
    refine p.recompile_quiet.bind ?_
    rw [value_recompile]
    exact quiet_pure _
  · rw [if_neg hdynamic]
    exact quiet_pure _

/-- Moving on warns of nothing, and starting over is the one case in which it could. -/
theorem advance_quiet (p : Player n) : p.advance.Quiet := by
  rw [advance]
  cases p.mode with
  | once => exact quiet_pure _
  | loop =>
    show (if p.position + 1 < p.frames.size then _ else _ : Logged (Player n)).Quiet
    by_cases hlt : p.position + 1 < p.frames.size
    · rw [if_pos hlt]
      exact quiet_pure _
    · rw [if_neg hlt]
      exact rewind_quiet _

/-- No read warns, whatever the player has been through. -/
theorem nextFrame_quiet (p : Player n) : p.nextFrame.Quiet := by
  rw [nextFrame]
  cases p.frames[p.position]? with
  | none => exact quiet_pure _
  | some frame => exact p.advance_quiet.bind (quiet_pure _)

end Player

/-! ## What is relied on -/

/-- Nothing that is done with a script can fail. -/
structure NeverFails (script : Script n) : Prop where
  /-- The check would accept it again, from either end of the strip. -/
  accepted : Script.ofEntries script.entries = .ok script ∧
    Script.ofEntries script.mirror.entries = .ok script.mirror
  compiles : ∀ g, ∃ frames after, script.compile g = (.ok frames, after)
  starts : ∀ mirrored mode g, ∃ p, (Player.start script mirrored mode g).value = .ok p
  /-- At any point of any run of a player, compiling again gives a player, -/
  recompiles : ∀ mirrored mode g p, (Player.start script mirrored mode g).value = .ok p →
    ∀ moves, ∃ q, (p.acts moves).recompile.value = .ok q
  /-- and so does starting over: reads do not warn of cycles that could not be compiled. -/
  startsOver : ∀ mirrored mode g p, (Player.start script mirrored mode g).value = .ok p →
    ∀ moves, (p.acts moves).nextFrame.Quiet
  /-- Every slot of every effect takes it, -/
  fills : ∀ {σ : Type} (e : Effect σ n) (slot : Slot),
    ∃ after, (e.add slot script).value = (.ok (), after)
  /-- and also by way of an intent. -/
  intended : ∀ {σ : Type} (e : Effect σ n),
    ∀ intent ∈ [Intent.overwrite script, .underlay (some script), .overlay (some script)],
      ∃ after, (e.apply intent).value = (.ok (), after)

/-- Each clause is the lemma that says the computation has a value; none of them asks how the script
    was made. -/
theorem Script.neverFails (script : Script n) : NeverFails script := by
  constructor
  case accepted => exact ⟨ofEntries_eq_ok_iff.2 rfl, ofEntries_eq_ok_iff.2 rfl⟩
  case compiles => exact fun g => ⟨_, _, script.compile_eq g⟩
  case starts => exact fun mirrored mode g => ⟨_, Player.value_start script mirrored mode g⟩
  case recompiles => exact fun _ _ _ p _ moves => ⟨_, (p.acts moves).value_recompile⟩
  case startsOver => exact fun _ _ _ p _ moves => (p.acts moves).nextFrame_quiet
  case fills => exact fun e slot => ⟨_, e.value_add slot script⟩
  case intended =>
    intro σ e intent hmem
    -- each of the three is the filling of a slot under another name
    simp only [List.mem_cons, List.not_mem_nil, or_false] at hmem
    rcases hmem with rfl | rfl | rfl
    · exact ⟨_, e.value_add .overwrite script⟩
    · exact ⟨_, e.value_add .underlay script⟩
    · exact ⟨_, e.value_add .overlay script⟩

/-! ## Setting up an effect -/

/-- Why no effect can be set up.  Of several reasons the first one counts. -/
def setupFault? (script : Script n) (config : Config n) : Option EffectError :=
  if config.fps = 0 then some (.config .invalidFps)
  else if config.brightness.isNaN ∨
      ¬ (Binary32.zero.le config.brightness ∧ config.brightness.le Binary32.one) then
    some (.config (.invalidBrightness config.brightness))
  else if script.length = 0 then some (.script .empty)
  else none

/-- A share is a number, and lies in `0.0..=1.0`. -/
theorem Binary32.isShare_iff (x : Binary32) :
    x.isShare = true ↔ ¬ (x.isNaN ∨ ¬ (zero.le x ∧ x.le one)) := by
  rw [isShare, Bool.and_eq_true]
  constructor
  · rintro hshare (hnan | hout)
    · have hle := hshare.2
      rw [le, hnan] at hle
      exact nomatch hle
    · exact hout hshare
  · intro h
    by_cases hshare : zero.le x ∧ x.le one
    · exact hshare
    · exact absurd (Or.inr hshare) h

/-- The three checks of a setup, in the order in which they are made.  The layers are filled between
    the last of them and the end, and cannot fail. -/
theorem Effect.start_eq_error_iff (script : Script n) (config : Config n) (entropy : UInt64)
    (fault : EffectError) :
    (start script config entropy).value = .error fault ↔
      setupFault? script config = some fault := by
  rw [value_start, Config.fault?, brightnessFault?, setupFault?]
  -- the frame rate is checked first, then the brightness, then the base script
  by_cases hfps : config.fps = 0
  · rw [if_pos hfps, if_pos hfps, Except.error.injEq, Option.some.injEq]
  · rw [if_neg hfps, if_neg hfps]
    by_cases hshare : config.brightness.isShare = true
    · rw [if_pos hshare, if_neg ((Binary32.isShare_iff _).1 hshare)]
      dsimp only
      have hempty : script.isEmpty = true ↔ script.length = 0 := List.isEmpty_iff_length_eq_zero
      by_cases hlength : script.length = 0
      · rw [if_pos hlength, if_pos (hempty.2 hlength), Except.error.injEq, Option.some.injEq]
      · rw [if_neg hlength, if_neg (fun h => hlength (hempty.1 h))]
        exact iff_of_false (fun h => nomatch h) (fun h => nomatch h)
    · have hout := Classical.not_not.1 (fun h => hshare ((Binary32.isShare_iff _).2 h))
      rw [if_neg hshare, if_pos hout, Except.error.injEq, Option.some.injEq]

/-- **A script that was made never fails later.**  Every script is one the check accepts, and rows
    that are frames are never refused by it; from then on nothing that is done with a script fails,
    however often it was turned.  An effect is refused exactly for its frame rate, its brightness or
    an empty base script, the first of them being named: no layer is ever the reason. -/
theorem made_scripts_never_fail :
    (∀ script : Script n, NeverFails script) ∧
      (∀ rows (entries : List (Entry n)), rows.mapM (Entry.ofRow n) = .ok entries →
        ∃ script : Script n, Script.ofRows rows = .ok script ∧ script.entries = entries) ∧
      ∀ (script : Script n) (config : Config n) (entropy : UInt64) (fault : EffectError),
        (Effect.start script config entropy).value = .error fault ↔
          setupFault? script config = some fault :=
  ⟨Script.neverFails, fun _ _ => Script.ofRows_of_mapM, Effect.start_eq_error_iff⟩

end LedAnimation
