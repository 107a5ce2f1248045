/-
Module: Integr8s.Proofs.LatestRun
Purpose: When the editor page shows its latest run only: as long as no step of
  a run that is over for the page finds something to change.
Trusted boundary: none
Main exports: LatestRun.Latest, LatestRun.Harmless, LatestRun.shows_latest_run,
  LatestRun.latest_run_overwritten
-/
import Integr8s.Frontend.ExecutionState

namespace Integr8s

namespace LatestRun

/-! ### The latest run alone -/

/-- The latest run, and what concerns it: its own moves, up to an abort or a
reset, and then only aborts and resets. -/
structure Latest where
  runs : Nat := 0
  dismissed : Bool := false
  moves : List EditorMove := []

/-- The run that a move takes on, if it takes on one. -/
def goesOn : EditorMove → Option RunId
  | .settle run _ | .resume run | .event run _ | .streamEnds run
  | .closed run | .throws run => some run
  | .execute | .abort | .reset => none

def Latest.step (latest : Latest) (move : EditorMove) : Latest :=
  match move with
  | .execute => { runs := latest.runs + 1, moves := [.execute] }
  | .abort | .reset =>
      { latest with dismissed := true, moves := latest.moves ++ [move] }
  | _ =>
      if (goesOn move).map (· + 1) = some latest.runs ∧
          latest.dismissed = false then
        { latest with moves := latest.moves ++ [move] }
      else latest

/-- The latest run of a history. -/
def latest (moves : List EditorMove) : Latest :=
  moves.foldl Latest.step {}

section

variable {Observer : Type} (mutation : MutationObserver Observer)

/-! ### Steps that are harmless

A run that is over for the page may still get answers and messages.  A step is
harmless if it changes nothing of what the latest run shows. -/

/-- A run is over for the page: another one was begun since, or there was an
abort or a reset. -/
def Stale (editor : Editor Observer) (run : RunId) : Prop :=
  run + 1 ≠ editor.runs ∨ editor.dismissed = true

/-- A step that changes nothing of what the latest run shows: a run that is
over for the page does not start after all, its stream has only events that
set nothing, and when it ends there is nothing to take away and its signal is
aborted.  An abort meets no start request and nothing that it would leave. -/
def Harmless (editor : Editor Observer) : EditorMove → Prop
  | .execute | .reset | .settle .. | .throws _ => True
  | .abort => (∀ run, mutation.shows editor.state.start ≠ .pending run) ∧
      editor.state.result = none ∧ editor.state.error mutation = none
  | .resume run => Stale editor run →
      ∀ data, editor.continuation run ≠ .started (.ok data)
  | .event run event => Stale editor run → ∀ told, event = some told →
      told.status.bind activePhase = none ∧
        told.eventType ≠ .event .resultStored ∧
        failureMessage told.eventType = none
  | .streamEnds run => Stale editor run →
      editor.aborted run = true ∧ editor.state.controller = none ∧
        editor.state.phase = .idle
  | .closed run => Stale editor run →
      editor.state.controller = none ∧ editor.state.phase = .idle

/-- Two pages show the same. -/
structure SameShown (first second : ExecutionState Observer) : Prop where
  phase : second.phase = first.phase
  result : second.result = first.result
  streamError : second.streamError = first.streamError
  controller : second.controller = first.controller
  start : mutation.shows second.start = mutation.shows first.start

/-- The page is where a page is on which only the latest run took place. -/
structure Alike (editor : Editor Observer) (latest : Latest)
    (alone : Editor Observer) : Prop where
  reached : (editorMachine mutation).run
    (.fresh mutation (latest.runs - 1)) latest.moves = some alone
  runs : editor.runs = latest.runs
  runsAlone : alone.runs = latest.runs
  dismissed : editor.dismissed = latest.dismissed
  shown : SameShown mutation editor.state alone.state
  current : editor.dismissed = false → ∀ run, run + 1 = editor.runs →
    alone.continuation run = editor.continuation run ∧
      alone.aborted run = false ∧ editor.aborted run = false

/-- What holds of the page in itself. -/
structure Tidy (editor : Editor Observer) : Prop where
  controller : ∀ run, editor.state.controller = some run →
    run + 1 = editor.runs
  future : ∀ run, editor.runs ≤ run → editor.aborted run = false
  called : ∀ run, editor.continuation run ≠ .uncalled → run < editor.runs
  pending : ∀ run, mutation.shows editor.state.start = .pending run →
    run + 1 = editor.runs ∧ editor.dismissed = false
  cleared : editor.dismissed = true → editor.state.phase = .idle ∧
    editor.state.result = none ∧ editor.state.error mutation = none

variable {mutation} {editor next alone : Editor Observer} {move : EditorMove}
  {run : RunId}

theorem SameShown.refl (state : ExecutionState Observer) :
    SameShown mutation state state :=
  ⟨rfl, rfl, rfl, rfl, rfl⟩

theorem SameShown.error {first second : ExecutionState Observer}
    (same : SameShown mutation first second) :
    second.error mutation = first.error mutation := by
  simp only [ExecutionState.error, same.streamError, same.start]

theorem SameShown.shows {first second : ExecutionState Observer}
    (same : SameShown mutation first second) :
    second.shows mutation = first.shows mutation := by
  simp only [ExecutionState.shows, ExecutionState.shownPhase, same.error,
    same.start, same.phase, same.result, same.controller]

/-! ### What a step can write -/

/-- A step of a run changes no other run, no signal, and not which run is the
latest. -/
structure Frame (editor next : Editor Observer) (run : RunId) : Prop where
  runs : next.runs = editor.runs
  dismissed : next.dismissed = editor.dismissed
  aborted : next.aborted = editor.aborted
  other : ∀ other, other ≠ run →
    next.continuation other = editor.continuation other
  called : editor.continuation run ≠ .uncalled

/-- A run that is taken on has its continuation changed only. -/
theorem frame_update {state : ExecutionState Observer}
    {continuation : Continuation}
    (called : editor.continuation run ≠ .uncalled) :
    Frame editor
      { editor with
        state := state
        continuation :=
          Function.update editor.continuation run continuation } run :=
  ⟨rfl, rfl, rfl, fun _ different => Function.update_of_ne different .., called⟩

private theorem frame_of_step (goes : goesOn move = some run)
    (stepped : (editorMachine mutation).step editor move = some next) :
    Frame editor next run := by
  cases move with
  | execute => cases goes
  | abort => cases goes
  | reset => cases goes
  | settle mover outcome =>
      cases goes
      obtain ⟨here, ⟨⟩⟩ := Option.ite_none_right_eq_some.mp stepped
      exact frame_update (by simp [here])
  | resume mover =>
      cases goes
      simp only [editorMachine] at stepped
      split at stepped
      · rename_i here
        cases stepped
        exact frame_update (by simp [here])
      · rename_i here
        cases stepped
        exact frame_update (by simp [here])
      · cases stepped
  | event mover event =>
      cases goes
      obtain ⟨here, ⟨⟩⟩ := Option.ite_none_right_eq_some.mp stepped
      have called : editor.continuation run ≠ .uncalled := by simp [here]
      cases event with
      | none => exact ⟨rfl, rfl, rfl, fun _ _ => rfl, called⟩
      | some event =>
          simp only [Editor.handle]
          split
          · exact frame_update called
          · split
            · exact frame_update called
            · exact ⟨rfl, rfl, rfl, fun _ _ => rfl, called⟩
  | streamEnds mover =>
      cases goes
      obtain ⟨here, ⟨⟩⟩ := Option.ite_none_right_eq_some.mp stepped
      exact frame_update (by simp [here])
  | closed mover =>
      cases goes
      obtain ⟨here, ⟨⟩⟩ := Option.ite_none_right_eq_some.mp stepped
      exact frame_update (by simp [here])
  | throws mover =>
      cases goes
      obtain ⟨here, ⟨⟩⟩ := Option.ite_none_right_eq_some.mp stepped
      exact frame_update (by simp [here])

/-- A harmless step of a run that is over for the page changes nothing that is
shown. -/
theorem shown_of_stale (tidy : Tidy mutation editor)
    (goes : goesOn move = some run) (stale : Stale editor run)
    (harmless : Harmless mutation editor move)
    (stepped : (editorMachine mutation).step editor move = some next) :
    SameShown mutation editor.state next.state := by
  cases move with
  | execute => cases goes
  | abort => cases goes
  | reset => cases goes
  | settle mover outcome =>
      cases goes
      obtain ⟨here, ⟨⟩⟩ := Option.ite_none_right_eq_some.mp stepped
      refine ⟨rfl, rfl, rfl, rfl, ?_⟩
      rw [mutation.shows_settle, if_neg]
      intro pending
      obtain ⟨isLatest, notDismissed⟩ := tidy.pending run pending
      rcases stale with other | dismissed
      · exact other isLatest
      · cases dismissed.symm.trans notDismissed
  | resume mover =>
      cases goes
      simp only [editorMachine] at stepped
      split at stepped
      · rename_i data here
        exact (harmless stale data here).elim
      · cases stepped
        exact .refl _
      · cases stepped
  | event mover event =>
      cases goes
      obtain ⟨here, ⟨⟩⟩ := Option.ite_none_right_eq_some.mp stepped
      cases event with
      | none => exact .refl _
      | some event =>
          obtain ⟨noPhase, notStored, noFailure⟩ :=
            harmless stale event rfl
          simp only [Editor.handle, noPhase, if_neg notStored, noFailure]
          exact .refl _
  | streamEnds mover =>
      cases goes
      obtain ⟨here, ⟨⟩⟩ := Option.ite_none_right_eq_some.mp stepped
      obtain ⟨aborted, noController, idle⟩ := harmless stale
      exact ⟨idle.symm, rfl, by simp [Editor.finish, aborted],
        noController.symm, rfl⟩
  | closed mover =>
      cases goes
      obtain ⟨here, ⟨⟩⟩ := Option.ite_none_right_eq_some.mp stepped
      obtain ⟨noController, idle⟩ := harmless stale
      exact ⟨idle.symm, rfl, by simp [Editor.finish], noController.symm, rfl⟩
  | throws mover =>
      cases goes
      obtain ⟨here, ⟨⟩⟩ := Option.ite_none_right_eq_some.mp stepped
      exact .refl _

/-- The same step of a run on two pages that show the same and are at the same
point of the run. -/
theorem same_of_step (goes : goesOn move = some run)
    (same : SameShown mutation editor.state alone.state)
    (point : alone.continuation run = editor.continuation run)
    (signal : alone.aborted run = editor.aborted run)
    (stepped : (editorMachine mutation).step editor move = some next) :
    ∃ after, (editorMachine mutation).step alone move = some after ∧
      SameShown mutation next.state after.state ∧
      after.continuation run = next.continuation run := by
  cases move with
  | execute => cases goes
  | abort => cases goes
  | reset => cases goes
  | settle mover outcome =>
      cases goes
      obtain ⟨here, ⟨⟩⟩ := Option.ite_none_right_eq_some.mp stepped
      refine ⟨_, if_pos (point.trans here), ⟨same.phase, same.result,
        same.streamError, same.controller, ?_⟩, by simp⟩
      rw [mutation.shows_settle, mutation.shows_settle, same.start]
  | resume mover =>
      cases goes
      simp only [editorMachine] at stepped ⊢
      rw [point]
      split at stepped
      · cases stepped
        exact ⟨_, rfl, ⟨rfl, same.result, same.streamError, rfl, same.start⟩,
          by simp [Editor.follow]⟩
      · cases stepped
        exact ⟨_, rfl, same, by simp⟩
      · cases stepped
  | event mover event =>
      cases goes
      obtain ⟨here, ⟨⟩⟩ := Option.ite_none_right_eq_some.mp stepped
      refine ⟨_, if_pos (point.trans here), ?_⟩
      cases event with
      | none => exact ⟨same, point⟩
      | some event =>
          simp only [Editor.handle, same.phase]
          split
          · exact ⟨⟨rfl, rfl, same.streamError, same.controller, same.start⟩,
              by simp⟩
          · split
            · exact ⟨⟨rfl, rfl, rfl, same.controller, same.start⟩, by simp⟩
            · exact ⟨⟨rfl, same.result, same.streamError, same.controller,
                same.start⟩, point⟩
  | streamEnds mover =>
      cases goes
      obtain ⟨here, ⟨⟩⟩ := Option.ite_none_right_eq_some.mp stepped
      refine ⟨_, if_pos (point.trans here), ⟨rfl, same.result, ?_, rfl,
        same.start⟩, by simp [Editor.finish]⟩
      simp only [Editor.finish, signal, same.streamError]
  | closed mover =>
      cases goes
      obtain ⟨here, ⟨⟩⟩ := Option.ite_none_right_eq_some.mp stepped
      refine ⟨_, if_pos (point.trans here), ⟨rfl, same.result, ?_, rfl,
        same.start⟩, by simp [Editor.finish]⟩
      simp [Editor.finish, same.streamError]
  | throws mover =>
      cases goes
      obtain ⟨here, ⟨⟩⟩ := Option.ite_none_right_eq_some.mp stepped
      exact ⟨_, if_pos (point.trans here), same, by simp⟩

/-- A step of a run leaves the controller, takes it away or puts the run's own
in its place; and it makes no start request. -/
theorem controller_of_step (goes : goesOn move = some run)
    (stepped : (editorMachine mutation).step editor move = some next) :
    (next.state.controller = editor.state.controller ∨
        next.state.controller = none ∨
        next.state.controller = some run) ∧
      ∀ other, mutation.shows next.state.start = .pending other →
        mutation.shows editor.state.start = .pending other := by
  cases move with
  | execute => cases goes
  | abort => cases goes
  | reset => cases goes
  | settle mover outcome =>
      cases goes
      obtain ⟨here, ⟨⟩⟩ := Option.ite_none_right_eq_some.mp stepped
      refine ⟨.inl rfl, fun other pending => ?_⟩
      rw [mutation.shows_settle] at pending
      split at pending
      · cases pending
      · exact pending
  | resume mover =>
      cases goes
      simp only [editorMachine] at stepped
      split at stepped
      · cases stepped
        exact ⟨.inr (.inr rfl), fun _ => id⟩
      · cases stepped
        exact ⟨.inl rfl, fun _ => id⟩
      · cases stepped
  | event mover event =>
      cases goes
      obtain ⟨here, ⟨⟩⟩ := Option.ite_none_right_eq_some.mp stepped
      cases event with
      | none => exact ⟨.inl rfl, fun _ => id⟩
      | some event =>
          simp only [Editor.handle]
          split
          · exact ⟨.inl rfl, fun _ => id⟩
          · split <;> exact ⟨.inl rfl, fun _ => id⟩
  | streamEnds mover =>
      cases goes
      obtain ⟨here, ⟨⟩⟩ := Option.ite_none_right_eq_some.mp stepped
      exact ⟨.inr (.inl rfl), fun _ => id⟩
  | closed mover =>
      cases goes
      obtain ⟨here, ⟨⟩⟩ := Option.ite_none_right_eq_some.mp stepped
      exact ⟨.inr (.inl rfl), fun _ => id⟩
  | throws mover =>
      cases goes
      obtain ⟨here, ⟨⟩⟩ := Option.ite_none_right_eq_some.mp stepped
      exact ⟨.inl rfl, fun _ => id⟩

/-- A run that is not the latest any more is over for the page. -/
theorem stale_of_not_current
    (other : ¬(run + 1 = editor.runs ∧ editor.dismissed = false)) :
    Stale editor run := by
  by_cases isLatest : run + 1 = editor.runs
  · refine .inr ?_
    rw [← Bool.not_eq_false]
    exact fun notDismissed => other ⟨isLatest, notDismissed⟩
  · exact .inl isLatest

/-- A harmless step of a run keeps the page tidy. -/
theorem Tidy.goesOn (tidy : Tidy mutation editor)
    (goes : goesOn move = some run)
    (harmless : Harmless mutation editor move)
    (stepped : (editorMachine mutation).step editor move = some next) :
    Tidy mutation next := by
  have frame := frame_of_step goes stepped
  obtain ⟨controllers, pendings⟩ := controller_of_step goes stepped
  refine ⟨fun other known => ?_, fun other later => ?_, fun other was => ?_,
    fun other pending => ?_, fun dismissed => ?_⟩
  · rw [frame.runs]
    by_cases current : run + 1 = editor.runs ∧ editor.dismissed = false
    · rcases controllers with same | gone | own
      · exact tidy.controller other (same.symm.trans known)
      · cases gone.symm.trans known
      · cases own.symm.trans known
        exact current.1
    · have same := shown_of_stale tidy goes (stale_of_not_current current)
        harmless stepped
      exact tidy.controller other (same.controller.symm.trans known)
  · rw [frame.aborted]
    exact tidy.future other (frame.runs ▸ later)
  · rw [frame.runs]
    by_cases own : other = run
    · exact own ▸ tidy.called run frame.called
    · exact tidy.called other (frame.other other own ▸ was)
  · rw [frame.runs, frame.dismissed]
    exact tidy.pending other (pendings other pending)
  · have dismissedBefore := frame.dismissed.symm.trans dismissed
    have same := shown_of_stale tidy goes (.inr dismissedBefore) harmless
      stepped
    rw [same.phase, same.result, same.error]
    exact tidy.cleared dismissedBefore

/-- The aborted signals after an abort are of runs that were called. -/
theorem aborted_abort (tidy : Tidy mutation editor) {later : RunId}
    (notCalled : editor.runs ≤ later) :
    editor.abort.aborted later = false := by
  cases known : editor.state.controller with
  | none =>
      simp only [Editor.abort, known]
      exact tidy.future later notCalled
  | some controlled =>
      have called := tidy.controller controlled known
      simp only [Editor.abort, known]
      have different : later ≠ controlled :=
        Nat.ne_of_gt (Nat.lt_of_succ_le (called.le.trans notCalled))
      rw [Function.update_of_ne different]
      exact tidy.future later notCalled

/-- A harmless step keeps the page tidy. -/
theorem Tidy.step (tidy : Tidy mutation editor)
    (harmless : Harmless mutation editor move)
    (stepped : (editorMachine mutation).step editor move = some next) :
    Tidy mutation next := by
  cases goes : LatestRun.goesOn move with
  | some run => exact tidy.goesOn goes harmless stepped
  | none =>
      cases move with
      | execute =>
          cases stepped
          refine ⟨(fun other known => by cases known),
            fun other later => aborted_abort tidy (Nat.le_of_succ_le later),
            fun other was => ?_, fun other pending => ?_,
            (fun dismissed => by cases dismissed)⟩
          · by_cases new : other = editor.runs
            · exact new ▸ Nat.lt_succ_self _
            · refine Nat.lt_succ_of_lt (tidy.called other ?_)
              simpa [Editor.execute, Function.update_of_ne new] using was
          · have same := (mutation.shows_mutate _ _).symm.trans pending
            cases same
            exact ⟨rfl, rfl⟩
      | abort =>
          cases stepped
          obtain ⟨noneStarts, noResult, noError⟩ := harmless
          exact ⟨(fun other known => by cases known),
            fun other later => aborted_abort tidy later, tidy.called,
            fun other pending => (noneStarts other pending).elim,
            fun _ => ⟨rfl, noResult, noError⟩⟩
      | reset =>
          cases stepped
          have idle := mutation.shows_reset editor.state.start
          refine ⟨tidy.controller, tidy.future, tidy.called,
            fun other pending => ?_, fun _ => ⟨rfl, rfl, ?_⟩⟩
          · cases idle.symm.trans pending
          · simp [ExecutionState.error, Editor.reset, ExecutionState.reset,
              idle]
      | settle run outcome => cases goes
      | resume run => cases goes
      | event run event => cases goes
      | streamEnds run => cases goes
      | closed run => cases goes
      | throws run => cases goes

private theorem latest_step (goes : goesOn move = some run) (latest : Latest) :
    latest.step move =
      if run + 1 = latest.runs ∧ latest.dismissed = false then
        { latest with moves := latest.moves ++ [move] }
      else latest := by
  have same : (goesOn move).map (· + 1) = some latest.runs ↔
      run + 1 = latest.runs := by
    simp [goes]
  cases move with
  | execute => cases goes
  | abort => cases goes
  | reset => cases goes
  | settle mover outcome => simp only [Latest.step, same]
  | resume mover => simp only [Latest.step, same]
  | event mover event => simp only [Latest.step, same]
  | streamEnds mover => simp only [Latest.step, same]
  | closed mover => simp only [Latest.step, same]
  | throws mover => simp only [Latest.step, same]

variable {newest : Latest}

/-! ### The law over runs -/

/-- One more move of what concerns the latest run. -/
theorem reached_append {after : Editor Observer}
    (reached : (editorMachine mutation).run
      (.fresh mutation (newest.runs - 1)) newest.moves = some alone)
    (stepped : (editorMachine mutation).step alone move = some after) :
    (editorMachine mutation).run (.fresh mutation (newest.runs - 1))
      (newest.moves ++ [move]) = some after := by
  rw [Machine.run_append, reached]
  simp [stepped]

/-- A harmless step of a run leaves the pages alike. -/
theorem Alike.goesOn (alike : Alike mutation editor newest alone)
    (tidy : Tidy mutation editor) (goes : goesOn move = some run)
    (harmless : Harmless mutation editor move)
    (stepped : (editorMachine mutation).step editor move = some next) :
    ∃ after, Alike mutation next (newest.step move) after := by
  have frame := frame_of_step goes stepped
  rw [latest_step goes]
  by_cases current : run + 1 = editor.runs ∧ editor.dismissed = false
  · rw [if_pos (alike.runs ▸ alike.dismissed ▸ current)]
    obtain ⟨point, signalAlone, signal⟩ :=
      alike.current current.2 run current.1
    obtain ⟨after, steppedAlone, shown, pointThen⟩ := same_of_step goes
      alike.shown point (signalAlone.trans signal.symm) stepped
    have frameAlone := frame_of_step goes steppedAlone
    refine ⟨after, reached_append alike.reached steppedAlone,
      frame.runs.trans alike.runs, frameAlone.runs.trans alike.runsAlone,
      frame.dismissed.trans alike.dismissed, shown, fun _ other isLatest => ?_⟩
    have own : other = run :=
      Nat.succ.inj ((isLatest.trans frame.runs).trans current.1.symm)
    subst own
    rw [frame.aborted, frameAlone.aborted]
    exact ⟨pointThen, signalAlone, signal⟩
  · rw [if_neg (alike.runs ▸ alike.dismissed ▸ current)]
    have same := shown_of_stale tidy goes (stale_of_not_current current)
      harmless stepped
    refine ⟨alone, alike.reached, frame.runs.trans alike.runs,
      alike.runsAlone, frame.dismissed.trans alike.dismissed,
      ⟨alike.shown.phase.trans same.phase.symm,
        alike.shown.result.trans same.result.symm,
        alike.shown.streamError.trans same.streamError.symm,
        alike.shown.controller.trans same.controller.symm,
        alike.shown.start.trans same.start.symm⟩,
      fun notDismissed other isLatest => ?_⟩
    rw [frame.dismissed] at notDismissed
    rw [frame.runs] at isLatest
    have different : other ≠ run := by
      intro own
      exact current ⟨own ▸ isLatest, notDismissed⟩
    rw [frame.other other different, frame.aborted]
    exact alike.current notDismissed other isLatest

/-- A harmless step leaves the pages alike. -/
theorem Alike.step (alike : Alike mutation editor newest alone)
    (tidy : Tidy mutation editor)
    (harmless : Harmless mutation editor move)
    (stepped : (editorMachine mutation).step editor move = some next) :
    ∃ after, Alike mutation next (newest.step move) after := by
  cases goes : LatestRun.goesOn move with
  | some run => exact alike.goesOn tidy goes harmless stepped
  | none =>
      cases move with
      | execute =>
          cases stepped
          refine ⟨(Editor.fresh mutation newest.runs).execute mutation, rfl,
            congrArg (· + 1) alike.runs, rfl, rfl,
            ⟨rfl, rfl, rfl, rfl, ?_⟩, fun _ run isLatest => ?_⟩
          · simp only [Editor.execute, mutation.shows_mutate, alike.runs]
            rfl
          · have own : run = editor.runs := Nat.succ.inj isLatest
            subst own
            refine ⟨?_, rfl, aborted_abort tidy le_rfl⟩
            simp [Editor.execute, Editor.fresh, alike.runs]
      | abort =>
          cases stepped
          exact ⟨{ alone.abort with dismissed := true },
            reached_append alike.reached rfl, alike.runs, alike.runsAlone,
            rfl, ⟨rfl, alike.shown.result, alike.shown.streamError, rfl,
              alike.shown.start⟩, (fun dismissed => by cases dismissed)⟩
      | reset =>
          cases stepped
          refine ⟨{ alone.reset mutation with dismissed := true },
            reached_append alike.reached rfl, alike.runs, alike.runsAlone,
            rfl, ⟨rfl, rfl, rfl, alike.shown.controller, ?_⟩,
            (fun dismissed => by cases dismissed)⟩
          exact (mutation.shows_reset _).trans (mutation.shows_reset _).symm
      | settle run outcome => cases goes
      | resume run => cases goes
      | event run event => cases goes
      | streamEnds run => cases goes
      | closed run => cases goes
      | throws run => cases goes

/-- Harmless runs leave the pages alike. -/
theorem Alike.along (alike : Alike mutation editor newest alone)
    (tidy : Tidy mutation editor) {moves : List EditorMove}
    (along : (editorMachine mutation).Along (Harmless mutation) editor moves)
    (reached : (editorMachine mutation).run editor moves = some next) :
    Tidy mutation next ∧
      ∃ after, Alike mutation next (moves.foldl Latest.step newest) after := by
  induction moves generalizing editor newest alone with
  | nil =>
      cases reached
      exact ⟨tidy, alone, alike⟩
  | cons move moves inductionHypothesis =>
      obtain ⟨middle, stepped, rest⟩ := Option.bind_eq_some_iff.mp reached
      obtain ⟨harmless, later⟩ := along
      obtain ⟨after, alikeThen⟩ := alike.step tidy harmless stepped
      exact inductionHypothesis alikeThen (tidy.step harmless stepped)
        (later middle stepped) rest

variable (mutation) in
/-- In every run all of whose steps are harmless, the page shows what the
latest run alone makes it show, and is idle and empty if an abort or a reset
followed it.  The two editors are kept alike: they agree on what is shown and
on the latest run, whatever the earlier ones are still waiting for. -/
theorem shows_latest_run {moves : List EditorMove} {final : Editor Observer}
    (along : (editorMachine mutation).Along (Harmless mutation)
      (.fresh mutation 0) moves)
    (reached : (editorMachine mutation).run (.fresh mutation 0) moves =
      some final) :
    (∃ alone,
      (editorMachine mutation).run
        (.fresh mutation ((latest moves).runs - 1)) (latest moves).moves =
          some alone ∧
      final.state.shows mutation = alone.state.shows mutation) ∧
    ((latest moves).dismissed = true →
      final.state.shownPhase mutation = .of .idle ∧
        final.state.result = none ∧ final.state.error mutation = none) := by
  have tidy : Tidy mutation (Editor.fresh mutation 0) := by
    refine ⟨(fun run known => by cases known), fun _ _ => rfl,
      fun _ called => (called rfl).elim, fun run pending => ?_,
      (fun dismissed => by cases dismissed)⟩
    cases mutation.shows_create.symm.trans pending
  have alike : Alike mutation (Editor.fresh mutation 0) {}
      (Editor.fresh mutation 0) :=
    ⟨rfl, rfl, rfl, rfl, .refl _, fun _ _ _ => ⟨rfl, rfl, rfl⟩⟩
  obtain ⟨tidyThen, alone, alikeThen⟩ := alike.along tidy along reached
  refine ⟨⟨alone, alikeThen.reached, alikeThen.shown.shows.symm⟩,
    fun dismissed => ?_⟩
  have isDismissed := alikeThen.dismissed.trans dismissed
  obtain ⟨idle, noResult, noError⟩ := tidyThen.cleared isDismissed
  refine ⟨?_, noResult, noError⟩
  unfold ExecutionState.shownPhase
  split
  · rename_i run pending
    cases (tidyThen.pending run pending).2.symm.trans isDismissed
  · rw [idle]

end

/-! ### A second run, and a late start -/

/-- A step of the latest run, or a call that is no abort. -/
def keepsToLatest {Observer : Type} (editor : Editor Observer)
    (move : EditorMove) : Bool :=
  match goesOn move with
  | some run => run + 1 == editor.runs && !editor.dismissed
  | none => move != .abort

private theorem harmless_of_keepsToLatest {Observer : Type}
    (mutation : MutationObserver Observer) (editor : Editor Observer)
    (move : EditorMove) (keeps : keepsToLatest editor move = true) :
    Harmless mutation editor move := by
  have current : ∀ {run}, goesOn move = some run → ¬Stale editor run := by
    intro run goes stale
    simp only [keepsToLatest, goes, Bool.and_eq_true, beq_iff_eq,
      Bool.not_eq_true'] at keeps
    rcases stale with other | dismissed
    · exact other keeps.1
    · cases dismissed.symm.trans keeps.2
  cases move with
  | execute => trivial
  | abort => simp [keepsToLatest, goesOn] at keeps
  | reset => trivial
  | settle run outcome => trivial
  | resume run => exact fun stale => (current rfl stale).elim
  | event run event => exact fun stale => (current rfl stale).elim
  | streamEnds run => exact fun stale => (current rfl stale).elim
  | closed run => exact fun stale => (current rfl stale).elim
  | throws run => trivial

/-- An observer that is what it shows. -/
def lastStart : MutationObserver Start where
  create := .idle
  mutate _ run := .pending run
  reset _ := .idle
  settle shown run outcome :=
    if shown = .pending run then
      .settled (match outcome with
        | .ok _ => none
        | .error detail => detail)
    else shown
  shows shown := shown
  shows_create := rfl
  shows_mutate _ _ := rfl
  shows_reset _ := rfl
  shows_settle _ _ _ := rfl

def resultOf (executionId : ExecutionId) : ExecutionResultDomain where
  executionId := executionId
  status := .completed
  exitCode := some 0
  stdout := some executionId
  stderr := some ""

/-- The last event of a run's stream. -/
def storedOf (executionId : ExecutionId) : SSEExecutionEventData where
  eventType := .event .resultStored
  executionId := executionId
  result := some (resultOf executionId)

/-- A run whose events come from its own execution, from the start request to
the end of its stream. -/
def wholeRun (run : RunId) (executionId : ExecutionId) : List EditorMove :=
  [.settle run (.ok { executionId := executionId, status := .queued }),
    .resume run, .event run (some (storedOf executionId)), .closed run]

theorem shows_latest_run_second :
    ∃ final,
      (editorMachine lastStart).run (.fresh lastStart 0)
        ([.execute] ++ wholeRun 0 "a" ++ [.reset, .execute] ++
          wholeRun 1 "b") = some final ∧
      final.state.result = some (resultOf "b") ∧
      (∃ alone,
        (editorMachine lastStart).run (.fresh lastStart 1)
          (.execute :: wholeRun 1 "b") = some alone ∧
        final.state.shows lastStart = alone.state.shows lastStart) ∧
      (false = true →
        final.state.shownPhase lastStart = .of .idle ∧
          final.state.result = none ∧ final.state.error lastStart = none) := by
  have shown : ((editorMachine lastStart).run (.fresh lastStart 0)
      ([.execute] ++ wholeRun 0 "a" ++ [.reset, .execute] ++
        wholeRun 1 "b")).map (fun final => final.state.result) =
      some (some (resultOf "b")) := by
    decide
  obtain ⟨final, reached, result⟩ := Option.map_eq_some_iff.mp shown
  exact ⟨final, reached, result, shows_latest_run lastStart
    ((editorMachine lastStart).along_of_check
      (harmless_of_keepsToLatest lastStart) (by decide)) reached⟩

/-- The response to the first start request comes when the second run is
followed already. -/
def lateStart : List EditorMove :=
  [.execute, .reset, .execute,
    .settle 1 (.ok { executionId := "b", status := .queued }), .resume 1] ++
  wholeRun 0 "a"

/-- The start of the first run is answered after the second run was asked for,
and what the page shows is the first run's result, with the second one's phase
and controller gone. -/
theorem latest_run_overwritten :
    ∃ final alone,
      (editorMachine lastStart).run (.fresh lastStart 0) lateStart =
        some final ∧
      (editorMachine lastStart).run
        (.fresh lastStart ((latest lateStart).runs - 1))
        (latest lateStart).moves = some alone ∧
      (latest lateStart).dismissed = false ∧
      final.state.shows lastStart =
        { phase := .of .idle
          result := some (resultOf "a")
          error := none
          controller := none } ∧
      alone.state.shows lastStart =
        { phase := .of .queued
          result := none
          error := none
          controller := some 1 } := by
  have shown : ((editorMachine lastStart).run (.fresh lastStart 0)
      lateStart).map (fun final => final.state.shows lastStart) =
    some
      { phase := .of .idle
        result := some (resultOf "a")
        error := none
        controller := none } := by
    decide
  have shownAlone : ((editorMachine lastStart).run
      (.fresh lastStart ((latest lateStart).runs - 1))
      (latest lateStart).moves).map
        (fun alone => alone.state.shows lastStart) =
    some
      { phase := .of .queued
        result := none
        error := none
        controller := some 1 } := by
    decide
  obtain ⟨final, reached, shows⟩ := Option.map_eq_some_iff.mp shown
  obtain ⟨alone, reachedAlone, showsAlone⟩ :=
    Option.map_eq_some_iff.mp shownAlone
  exact ⟨final, alone, reached, reachedAlone, rfl, shows, showsAlone⟩

end LatestRun

end Integr8s
