/-
Module: Integr8s.Proofs.ExecutionLifecycle
Purpose: The lifecycle of a stored execution under any sequence of repository
  calls: its status moves forward, a terminal status is final, and the first
  terminal write is the only one that succeeds.
Trusted boundary: none
Main exports: ExecutionStatus.rank, Advances, call_effect,
  performAll_advances, execution_lifecycle
-/
import Integr8s.Db.ExecutionRepository

namespace Integr8s

open Executions

/-- The position of a status in queued < scheduled < running < terminal. -/
def ExecutionStatus.rank : ExecutionStatus → Nat
  | queued => 0
  | scheduled => 1
  | running => 2
  | completed | failed | timeout | cancelled | error => 3

namespace ExecutionLifecycle

/-- What may happen to a document between two points of a run. -/
structure Advances (before after : ExecutionDocument) : Prop where
  forward : before.status.rank ≤ after.status.rank
  final : before.status.isTerminal = true →
    after.status = before.status ∧ after.resultFields = before.resultFields
  pending : after.status.isTerminal = false →
    after.resultFields = before.resultFields

/-- What the callers of the repository promise: the result they write has a
terminal status. -/
def WritesTerminal : RepositoryCall → Prop
  | .writeTerminalResult result _ => result.status.isTerminal = true
  | .advanceStatus .. => True
  | .updatePriority .. => True

/-- The result that a call tries to write for an execution. -/
def writeFor (executionId : ExecutionId) :
    RepositoryCall → Option ExecutionResultDomain
  | .writeTerminalResult result _ =>
      if result.executionId = executionId then some result else none
  | .advanceStatus .. => none
  | .updatePriority .. => none

/-- The results of the writes for an execution that returned true, in the
order in which they were applied. -/
def writesWon (executionId : ExecutionId) :
    Executions → List RepositoryCall → List ExecutionResultDomain
  | _, [] => []
  | executions, call :: calls =>
      (if (call.perform executions).1 = .flag true then
        (writeFor executionId call).toList else []) ++
        writesWon executionId (call.perform executions).2 calls

/-- The number of calls of a run that change the result fields. -/
def resultChanges (executionId : ExecutionId) :
    Executions → List RepositoryCall → Nat
  | _, [] => 0
  | executions, call :: calls =>
      (if ((call.perform executions).2 executionId).map
          ExecutionDocument.resultFields =
            (executions executionId).map ExecutionDocument.resultFields
        then 0 else 1) +
        resultChanges executionId (call.perform executions).2 calls

section Documents

variable {first second third : ExecutionDocument}

private theorem rank_of_terminal {status : ExecutionStatus}
    (terminal : status.isTerminal = true) : status.rank = 3 := by
  cases status <;> first | rfl | cases terminal

private theorem terminal_of_rank {status : ExecutionStatus}
    (rank : 3 ≤ status.rank) : status.isTerminal = true := by
  cases status <;> first | rfl | simp [ExecutionStatus.rank] at rank

private theorem rank_le_three (status : ExecutionStatus) : status.rank ≤ 3 := by
  cases status <;> decide

/-- An active status that precedes another in the list of active ones has a
smaller rank. -/
theorem rank_of_take {status target : ExecutionStatus} {index : Nat}
    (found : executionActive.idxOf? target = some index)
    (before : status ∈ executionActive.take index) :
    status.rank ≤ target.rank ∧ target.isTerminal = false := by
  revert before
  cases target <;> cases found <;> cases status <;> decide

theorem Advances.refl (doc : ExecutionDocument) : Advances doc doc :=
  ⟨Nat.le_refl _, fun _ => ⟨rfl, rfl⟩, fun _ => rfl⟩

theorem Advances.trans (earlier : Advances first second)
    (later : Advances second third) : Advances first third := by
  refine ⟨Nat.le_trans earlier.forward later.forward, fun terminal => ?_,
    fun active => ?_⟩
  · have firstStep := earlier.final terminal
    have secondStep := later.final (firstStep.1 ▸ terminal)
    exact ⟨secondStep.1.trans firstStep.1, secondStep.2.trans firstStep.2⟩
  · have middleActive : second.status.isTerminal = false := by
      by_contra ended
      have kept := later.final (by simpa using ended)
      rw [kept.1] at active
      exact ended active
    exact (later.pending active).trans (earlier.pending middleActive)

/-- A call that is not the winning write: it may move an active status
forward, and it leaves the result alone. -/
structure Keeps (before after : ExecutionDocument) : Prop where
  forward : before.status.rank ≤ after.status.rank
  ending : after.status.isTerminal = true → after.status = before.status
  fields : after.resultFields = before.resultFields

theorem Keeps.refl (doc : ExecutionDocument) : Keeps doc doc :=
  ⟨Nat.le_refl _, fun _ => rfl, rfl⟩

theorem Keeps.terminal (keeps : Keeps first second) :
    second.status.isTerminal = first.status.isTerminal := by
  cases ended : first.status.isTerminal with
  | true =>
      have rank := rank_of_terminal ended ▸ keeps.forward
      exact terminal_of_rank rank
  | false =>
      by_contra later
      rw [keeps.ending (by simpa using later)] at later
      exact later ended

theorem Keeps.advances (keeps : Keeps first second) :
    Advances first second := by
  refine ⟨keeps.forward, fun terminal => ⟨keeps.ending ?_, keeps.fields⟩,
    fun _ => keeps.fields⟩
  rw [keeps.terminal, terminal]

/-- A terminal result ends an active execution. -/
theorem setResult_advances {result : ExecutionResultDomain}
    (terminal : result.status.isTerminal = true) (now : Nat)
    (active : first.status.isTerminal = false) :
    Advances first (setResult result now first) := by
  refine ⟨?_, fun ended => ?_, fun stillActive => ?_⟩
  · simpa [setResult, rank_of_terminal terminal] using
      rank_le_three first.status
  · simp [active] at ended
  · simp [setResult, terminal] at stillActive

end Documents

/-! ### What a repository call does -/

/-- What one call does to the document of an execution: it is the write that
wins, or it keeps the result and, if it is a write for this execution, it
returns false. -/
inductive Effect (executionId : ExecutionId) (executions : Executions)
    (call : RepositoryCall) (doc next : ExecutionDocument) : Prop where
  | won (result : ExecutionResultDomain) (now : Nat)
      (wrote : writeFor executionId call = some result)
      (terminal : result.status.isTerminal = true)
      (active : doc.status.isTerminal = false)
      (answered : (call.perform executions).1 = .flag true)
      (stores : next = setResult result now doc)
  | kept (keeps : Keeps doc next)
      (refused : ∀ result, writeFor executionId call = some result →
        doc.status.isTerminal = true ∧
          (call.perform executions).1 = .flag false)

private theorem write_effect {executions : Executions}
    {executionId : ExecutionId} {doc : ExecutionDocument}
    (stored : executions executionId = some doc)
    (result : ExecutionResultDomain) (now : Nat)
    (terminal : result.status.isTerminal = true) :
    ∃ next, (executions.writeTerminalResult result now).2 executionId =
        some next ∧
      Effect executionId executions (.writeTerminalResult result now) doc
        next := by
  by_cases own : result.executionId = executionId
  · subst own
    refine ⟨_, writeTerminalResult_self stored now, ?_⟩
    have wins : (executions.writeTerminalResult result now).1 = true ↔ _ :=
      writeTerminalResult_won terminal
    cases active : doc.status.isTerminal with
    | true =>
        refine .kept (by simpa using Keeps.refl doc) fun _ _ => ⟨active, ?_⟩
        have lost : (executions.writeTerminalResult result now).1 = false := by
          by_contra answered
          obtain ⟨other, storedOther, otherActive⟩ :=
            wins.mp (by simpa using answered)
          cases stored.symm.trans storedOther
          simp [active] at otherActive
        simp [RepositoryCall.perform, lost]
    | false =>
        refine .won result now (by simp [writeFor]) terminal active ?_
          (by simp)
        simp [RepositoryCall.perform, wins.mpr ⟨doc, stored, active⟩]
  · refine ⟨doc, ?_, .kept (Keeps.refl doc) fun other wrote => ?_⟩
    · rw [writeTerminalResult_other (Ne.symm own), stored]
    · simp [writeFor, own] at wrote

private theorem advance_effect {executions : Executions}
    {executionId : ExecutionId} {doc : ExecutionDocument}
    (stored : executions executionId = some doc) (target : ExecutionId)
    (status : ExecutionStatus) (now : Nat) :
    ∃ next, (RepositoryCall.perform executions
        (.advanceStatus target status now)).2 executionId = some next ∧
      Keeps doc next := by
  cases advanced : executions.advanceStatus target status now with
  | error error =>
      exact ⟨doc, by simp [RepositoryCall.perform, advanced, stored],
        Keeps.refl doc⟩
  | ok answer =>
      obtain ⟨index, found, left⟩ := advanceStatus_get advanced executionId
      simp only [RepositoryCall.perform, advanced, left]
      by_cases own : executionId = target
      · subst own
        simp only [if_pos, stored, Option.map_some, Option.some.injEq,
          exists_eq_left']
        by_cases behind : doc.status ∈ executionActive.take index
        · obtain ⟨forward, active⟩ := rank_of_take found behind
          refine ⟨?_, fun ended => ?_, ?_⟩
          · simpa [behind, setStatus] using forward
          · simp [behind, setStatus, active] at ended
          · simp [behind, setStatus, ExecutionDocument.resultFields]
        · simpa [behind] using Keeps.refl doc
      · exact ⟨doc, by simp [own, stored], Keeps.refl doc⟩

/-- Everything one call of the repository does to a stored execution. -/
theorem call_effect {executions : Executions} {executionId : ExecutionId}
    {doc : ExecutionDocument} (stored : executions executionId = some doc)
    {call : RepositoryCall} (promised : WritesTerminal call) :
    ∃ next, (call.perform executions).2 executionId = some next ∧
      Effect executionId executions call doc next := by
  cases call with
  | writeTerminalResult result now =>
      exact write_effect stored result now promised
  | advanceStatus target status now =>
      obtain ⟨next, after, keeps⟩ := advance_effect stored target status now
      exact ⟨next, after, .kept keeps fun _ wrote => by cases wrote⟩
  | updatePriority target priority now =>
      simp only [RepositoryCall.perform, updatePriority_get]
      by_cases own : executionId = target
      · subst own
        refine ⟨setPriority priority now doc, by simp [stored],
          .kept ⟨Nat.le_refl _, fun _ => rfl, rfl⟩ fun _ wrote => by cases wrote⟩
      · exact ⟨doc, by simp [own, stored],
          .kept (Keeps.refl doc) fun _ wrote => by cases wrote⟩

/-- No call of the repository invents a document. -/
theorem call_missing {executions : Executions} {executionId : ExecutionId}
    (missing : executions executionId = none) (call : RepositoryCall) :
    (call.perform executions).2 executionId = none := by
  cases call with
  | writeTerminalResult result now =>
      by_cases own : executionId = result.executionId
      · subst own
        simp [RepositoryCall.perform, writeTerminalResult,
          Collection.updateOne_get, missing]
      · rw [← missing]
        exact writeTerminalResult_other own now
  | advanceStatus target status now =>
      cases advanced : executions.advanceStatus target status now with
      | error error => simp [RepositoryCall.perform, advanced, missing]
      | ok answer =>
          obtain ⟨index, found, left⟩ :=
            advanceStatus_get advanced executionId
          simp only [RepositoryCall.perform, advanced, left]
          split
          · next own => simp [← own, missing]
          · exact missing
  | updatePriority target priority now =>
      simp only [RepositoryCall.perform, updatePriority_get]
      split
      · next own => simp [← own, missing]
      · exact missing

theorem Effect.advances {executionId : ExecutionId}
    {executions : Executions} {call : RepositoryCall}
    {doc next : ExecutionDocument}
    (effect : Effect executionId executions call doc next) :
    Advances doc next := by
  cases effect with
  | won result now wrote terminal active answered stores =>
      exact stores ▸ setResult_advances terminal now active
  | kept keeps refused => exact keeps.advances

/-- A document that is stored after a call was stored before it, and only
advanced. -/
theorem call_advances {executions : Executions} {executionId : ExecutionId}
    {next : ExecutionDocument} {call : RepositoryCall}
    (promised : WritesTerminal call)
    (after : (call.perform executions).2 executionId = some next) :
    ∃ doc, executions executionId = some doc ∧ Advances doc next := by
  cases stored : executions executionId with
  | none => simp [call_missing stored call] at after
  | some doc =>
      obtain ⟨other, otherAfter, effect⟩ := call_effect stored promised
      cases after.symm.trans otherAfter
      exact ⟨doc, rfl, effect.advances⟩

/-- Any run of calls only advances a stored execution. -/
theorem performAll_advances {executions : Executions}
    {executionId : ExecutionId} {doc : ExecutionDocument}
    (stored : executions executionId = some doc)
    {calls : List RepositoryCall}
    (promised : ∀ call ∈ calls, WritesTerminal call) :
    ∃ final, performAll executions calls executionId = some final ∧
      Advances doc final := by
  induction calls generalizing executions doc with
  | nil => exact ⟨doc, stored, Advances.refl doc⟩
  | cons call calls inductionHypothesis =>
      obtain ⟨next, after, effect⟩ :=
        call_effect stored (promised call (by simp))
      obtain ⟨final, reached, advances⟩ :=
        inductionHypothesis after fun other member =>
          promised other (by simp [member])
      exact ⟨final, reached, effect.advances.trans advances⟩

/-- No write for a finished execution wins, and its result stays. -/
theorem finished_settled {executions : Executions}
    {executionId : ExecutionId} {doc : ExecutionDocument}
    (stored : executions executionId = some doc)
    (ended : doc.status.isTerminal = true) {calls : List RepositoryCall}
    (promised : ∀ call ∈ calls, WritesTerminal call) :
    writesWon executionId executions calls = [] ∧
      resultChanges executionId executions calls = 0 := by
  induction calls generalizing executions doc with
  | nil => exact ⟨rfl, rfl⟩
  | cons call calls inductionHypothesis =>
      obtain ⟨next, after, effect⟩ :=
        call_effect stored (promised call (by simp))
      cases effect with
      | won result now wrote terminal active answered stores =>
          simp [ended] at active
      | kept keeps refused =>
          obtain ⟨noneWon, unchanged⟩ :=
            inductionHypothesis after (keeps.terminal.trans ended)
              fun other member => promised other (by simp [member])
          have fields := keeps.fields
          constructor
          · cases wrote : writeFor executionId call with
            | none => simp [writesWon, wrote, noneWon]
            | some result =>
                simp [writesWon, noneWon, (refused result wrote).2]
          · simp [resultChanges, after, stored, fields, unchanged]

/-- The first write for an active execution wins, alone. -/
theorem active_settled {executions : Executions}
    {executionId : ExecutionId} {doc : ExecutionDocument}
    (stored : executions executionId = some doc)
    (active : doc.status.isTerminal = false) {calls : List RepositoryCall}
    (promised : ∀ call ∈ calls, WritesTerminal call) :
    writesWon executionId executions calls =
        (calls.filterMap (writeFor executionId)).take 1 ∧
      resultChanges executionId executions calls ≤ 1 := by
  induction calls generalizing executions doc with
  | nil => exact ⟨rfl, by simp [resultChanges]⟩
  | cons call calls inductionHypothesis =>
      have later : ∀ other ∈ calls, WritesTerminal other :=
        fun other member => promised other (by simp [member])
      obtain ⟨next, after, effect⟩ :=
        call_effect stored (promised call (by simp))
      cases effect with
      | won result now wrote terminal wasActive answered stores =>
          have ended : next.status.isTerminal = true := by
            simpa [stores, setResult] using terminal
          obtain ⟨noneWon, unchanged⟩ := finished_settled after ended later
          constructor
          · simp [writesWon, wrote, answered, noneWon]
          · simp only [resultChanges, unchanged]
            split <;> omega
      | kept keeps refused =>
          obtain ⟨firstWins, atMostOnce⟩ :=
            inductionHypothesis after (keeps.terminal.trans active) later
          have silent : writeFor executionId call = none := by
            cases wrote : writeFor executionId call with
            | none => rfl
            | some result => simp [(refused result wrote).1] at active
          have fields := keeps.fields
          constructor
          · simp [writesWon, silent, firstWins]
          · simpa [resultChanges, after, stored, fields] using atMostOnce

/-- The result of a write that wins is the one stored from then on. -/
theorem won_stored {executions : Executions} {executionId : ExecutionId}
    {doc : ExecutionDocument} (stored : executions executionId = some doc)
    {calls : List RepositoryCall}
    (promised : ∀ call ∈ calls, WritesTerminal call)
    {winner : ExecutionResultDomain}
    (won : winner ∈ writesWon executionId executions calls) :
    ∃ final, performAll executions calls executionId = some final ∧
      final.status = winner.status ∧
      final.resultFields = winner.resultFields := by
  induction calls generalizing executions doc with
  | nil => simp [writesWon] at won
  | cons call calls inductionHypothesis =>
      have later : ∀ other ∈ calls, WritesTerminal other :=
        fun other member => promised other (by simp [member])
      obtain ⟨next, after, effect⟩ :=
        call_effect stored (promised call (by simp))
      rcases List.mem_append.mp won with here | afterwards
      · cases effect with
        | won result now wrote terminal active answered stores =>
            have same : winner = result := by
              simpa [wrote, answered] using here
            obtain ⟨final, reached, advances⟩ :=
              performAll_advances after later
            have ended : next.status.isTerminal = true := by
              simpa [stores, setResult] using terminal
            obtain ⟨sameStatus, sameFields⟩ := advances.final ended
            refine ⟨final, reached, ?_, ?_⟩
            · rw [sameStatus, stores, same]
              rfl
            · rw [sameFields, stores, same]
              rfl
        | kept keeps refused =>
            cases wrote : writeFor executionId call with
            | none => simp [wrote] at here
            | some result => simp [(refused result wrote).2] at here
      · exact inductionHypothesis after later afterwards

/-- The lifecycle of a stored execution over any run of repository calls:
between any two points it only advances, its result fields change at most
once, exactly the first write that finds it active returns true, and the
result of that write is the one stored at the end. -/
theorem execution_lifecycle {executions : Executions}
    {executionId : ExecutionId} {doc : ExecutionDocument}
    (stored : executions executionId = some doc)
    {calls : List RepositoryCall}
    (promised : ∀ call ∈ calls, WritesTerminal call) :
    (∀ first second rest, calls = first ++ second ++ rest →
      ∃ earlier later,
        performAll executions first executionId = some earlier ∧
        performAll executions (first ++ second) executionId = some later ∧
        Advances earlier later) ∧
    resultChanges executionId executions calls ≤ 1 ∧
    writesWon executionId executions calls =
      (if doc.status.isTerminal then []
        else (calls.filterMap (writeFor executionId)).take 1) ∧
    ∀ winner ∈ writesWon executionId executions calls,
      ∃ final, performAll executions calls executionId = some final ∧
        final.status = winner.status ∧
        final.resultFields = winner.resultFields := by
  refine ⟨fun first second rest split => ?_, ?_, ?_, fun winner won =>
    won_stored stored promised won⟩
  · subst split
    have firstPromised : ∀ call ∈ first, WritesTerminal call :=
      fun call member => promised call (by simp [member])
    have secondPromised : ∀ call ∈ second, WritesTerminal call :=
      fun call member => promised call (by simp [member])
    obtain ⟨earlier, reached, -⟩ := performAll_advances stored firstPromised
    obtain ⟨later, reachedLater, advances⟩ :=
      performAll_advances reached secondPromised
    exact ⟨earlier, later, reached, by rw [performAll_append, reachedLater],
      advances⟩
  · cases ended : doc.status.isTerminal with
    | true => rw [(finished_settled stored ended promised).2]; omega
    | false => exact (active_settled stored ended promised).2
  · cases ended : doc.status.isTerminal with
    | true => simpa using (finished_settled stored ended promised).1
    | false => simpa using (active_settled stored ended promised).1

/-- A queued execution, as the API stores it. -/
def queuedExecution : ExecutionDocument where
  executionId := "e1"
  script := "print(1)"
  lang := "python"
  langVersion := "3.11"
  userId := some "u1"
  createdAt := 0
  updatedAt := 0

/-- The result of a cancelled execution. -/
def cancelledResult : ExecutionResultDomain where
  executionId := "e1"
  status := .cancelled
  exitCode := none
  stdout := none
  stderr := none

/-- The late report of the cancelled execution's pod. -/
def lateFailure : ExecutionResultDomain where
  executionId := "e1"
  status := .failed
  exitCode := some 137
  stdout := some ""
  stderr := some "killed"
  errorType := some .scriptError

/-- A cancel, and after it reports of the pod that was running. -/
def cancelRace : List RepositoryCall :=
  [.advanceStatus "e1" .scheduled 1, .updatePriority "e1" .high 2,
    .writeTerminalResult cancelledResult 3, .advanceStatus "e1" .running 4,
    .writeTerminalResult lateFailure 5, .advanceStatus "e1" .completed 6]

theorem execution_lifecycle_cancel_race :
    resultChanges "e1" (Collection.insert (fun _ => none) "e1"
        queuedExecution) cancelRace ≤ 1 ∧
      writesWon "e1" (Collection.insert (fun _ => none) "e1"
        queuedExecution) cancelRace = [cancelledResult] := by
  have stored : Collection.insert (fun _ => none) "e1" queuedExecution "e1" =
      some queuedExecution := by simp
  have law := execution_lifecycle stored
    (show ∀ call ∈ cancelRace, WritesTerminal call by
      simp [cancelRace, WritesTerminal, cancelledResult, lateFailure,
        ExecutionStatus.isTerminal])
  exact ⟨law.2.1, law.2.2.1⟩

end ExecutionLifecycle

end Integr8s
