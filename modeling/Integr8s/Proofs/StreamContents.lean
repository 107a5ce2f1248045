/-
Module: Integr8s.Proofs.StreamContents
Purpose: What an event stream shows its client, whatever happens meanwhile:
  the opening status to those who may see the execution, then the messages of
  its own channel from some point on, in order, none left out, up to the first
  terminal one, and with it the result that is stored.
Trusted boundary: none
Main exports: StreamContents.Told, StreamContents.Listening,
  StreamContents.contract, StreamContents.safe_run,
  StreamContents.stream_contents
-/
import Integr8s.Proofs.ExecutionLifecycle
import Integr8s.Services.Streams

namespace Integr8s

namespace StreamContents

open SSERedisBus SSEService

/-! ### Channels and what goes over them -/

section Channels

/-- The channel that a message goes to. -/
def Addressed (channel : String) : StreamMessage → Prop
  | .execution event => channel = executionChannel event.executionId
  | .notification _ => ∃ userId, channel = notificationChannel userId
  | .replay payload => channel = replayChannel payload.sessionId

/-- What a channel's name has in its fifth place. -/
private theorem kind_of_eq {first second : String}
    (same : first = second) : first.toList[4]? = second.toList[4]? := by
  rw [same]

private theorem execution_ne_notification (executionId : ExecutionId)
    (userId : UserId) :
    executionChannel executionId ≠ notificationChannel userId := by
  intro same
  have kinds := kind_of_eq same
  simp [executionChannel, notificationChannel] at kinds

private theorem execution_ne_replay (executionId : ExecutionId)
    (sessionId : ReplaySessionId) :
    executionChannel executionId ≠ replayChannel sessionId := by
  intro same
  have kinds := kind_of_eq same
  simp [executionChannel, replayChannel] at kinds

private theorem notification_ne_replay (userId : UserId)
    (sessionId : ReplaySessionId) :
    notificationChannel userId ≠ replayChannel sessionId := by
  intro same
  have kinds := kind_of_eq same
  simp [notificationChannel, replayChannel] at kinds

/-- An execution's channel has its own events only. -/
theorem addressed_execution {executionId : ExecutionId}
    {message : StreamMessage}
    (addressed : Addressed (executionChannel executionId) message) :
    ∃ event, message = .execution event ∧
      event.executionId = executionId := by
  cases message with
  | execution event =>
      exact ⟨event, rfl, ((String.append_right_inj _).mp addressed).symm⟩
  | notification payload =>
      obtain ⟨userId, same⟩ := addressed
      exact absurd same (execution_ne_notification _ _)
  | replay payload => exact absurd addressed (execution_ne_replay _ _)

/-- A user's channel has notifications only. -/
theorem addressed_notification {userId : UserId} {message : StreamMessage}
    (addressed : Addressed (notificationChannel userId) message) :
    ∃ payload, message = .notification payload := by
  cases message with
  | execution event =>
      exact absurd addressed.symm (execution_ne_notification _ _)
  | notification payload => exact ⟨payload, rfl⟩
  | replay payload => exact absurd addressed (notification_ne_replay _ _)

/-- A replay session's channel has its own statuses only. -/
theorem addressed_replay {sessionId : ReplaySessionId}
    {message : StreamMessage}
    (addressed : Addressed (replayChannel sessionId) message) :
    ∃ payload, message = .replay payload ∧ payload.sessionId = sessionId := by
  cases message with
  | execution event =>
      exact absurd addressed.symm (execution_ne_replay _ _)
  | notification payload =>
      obtain ⟨userId, same⟩ := addressed
      exact absurd same.symm (notification_ne_replay _ _)
  | replay payload =>
      exact ⟨payload, rfl, ((String.append_right_inj _).mp addressed).symm⟩

end Channels

/-! ### What a stream tells -/

section Told

variable (kept : ExecutionId → Prop) (past : StreamStore → Prop)
  (store : StreamStore)

/-- The event that opens an execution's stream. -/
def opening (execution : ExecutionDocument) : StreamMessage :=
  .execution
    { eventType := .status
      executionId := execution.executionId
      timestamp := some execution.updatedAt
      status := some execution.status }

/-- The event that closes the stream of a finished execution. -/
def closing (execution : ExecutionDocument)
    (result : Option ExecutionResultDomain) : StreamMessage :=
  .execution
    { eventType := .event .resultStored
      executionId := execution.executionId
      timestamp := some execution.updatedAt
      result := result }

/-- What a stream makes of a message of its channel: it passes it on as it is,
and `result_stored` with the stored result, if there is one. -/
def Passed : StreamCall → StreamMessage → StreamMessage → Prop
  | .execution executionId _ _, .execution event, shown =>
      event.executionId = executionId ∧
        if event.eventType = .event .resultStored then
          ∃ result, shown = .execution { event with result := result } ∧
            (kept executionId → result = none ∨
              result = store.executions.getTerminalResult executionId)
        else shown = .execution event
  | .notifications _, .notification payload, shown =>
      shown = .notification payload
  | .replay sessionId, .replay payload, shown =>
      payload.sessionId = sessionId ∧ shown = .replay payload
  | _, _, _ => False

/-- What a stream has shown follows its channel from some point on, in order
and without a gap, and ends with the first terminal message. -/
def Follows (call : StreamCall) (shown : List StreamMessage) : Prop :=
  ∃ since seen,
    seen <+: PubSub.upTo StreamMessage.isTerminal
      ((store.bus.published call.channel).drop since) ∧
    List.Forall₂ (Passed kept store call) seen shown

/-- A store of the past had this document of an execution, under its id. -/
def HeldExecution (execution : ExecutionDocument) : Prop :=
  ∃ earlier, past earlier ∧
    earlier.executions execution.executionId = some execution

/-- A store of the past had this document of a replay session, under its id. -/
def HeldSession (session : ReplaySessionDocument) : Prop :=
  ∃ earlier, past earlier ∧
    earlier.sessions session.sessionId = some session

/-- What a stream may have sent to its client when it could read in the stores
of the past.  The document that an execution's stream opens with is one that
was stored, and the client may see the execution by that same document. -/
inductive Told : StreamCall → List StreamMessage → Prop
  | nothing (call : StreamCall) : Told call []
  | opened (execution : ExecutionDocument) (userId : UserId)
      (userRole : UserRole) (held : HeldExecution past execution)
      (admitted : denies execution userId userRole = false) :
      Told (.execution execution.executionId userId userRole)
        [opening execution]
  | closed (execution : ExecutionDocument) (userId : UserId)
      (userRole : UserRole) (held : HeldExecution past execution)
      (admitted : denies execution userId userRole = false)
      (ended : execution.status.isTerminal = true)
      (result : Option ExecutionResultDomain)
      (stored : kept execution.executionId → result ≠ none ∧
        result = store.executions.getTerminalResult execution.executionId) :
      Told (.execution execution.executionId userId userRole)
        [opening execution, closing execution result]
  | followed (execution : ExecutionDocument) (userId : UserId)
      (userRole : UserRole) (held : HeldExecution past execution)
      (admitted : denies execution userId userRole = false)
      (active : execution.status.isTerminal = false)
      (shown : List StreamMessage)
      (follows : Follows kept store
        (.execution execution.executionId userId userRole) shown) :
      Told (.execution execution.executionId userId userRole)
        (opening execution :: shown)
  | session (session : ReplaySessionDocument)
      (held : HeldSession past session) (shown : List StreamMessage)
      (follows : Follows kept store (.replay session.sessionId) shown)
      (active : session.status.isTerminal = true → shown = []) :
      Told (.replay session.sessionId) (.replay session.ssePayload :: shown)
  | notified (userId : UserId) (shown : List StreamMessage)
      (follows : Follows kept store (.notifications userId) shown) :
      Told (.notifications userId) shown

end Told

/-- What a stream relies on: nobody else moves it on or sends to its client,
the channels only grow, and a result that is stored stays. -/
structure Relies (kept : ExecutionId → Prop) (caller : Caller)
    (before after : StreamStore) : Prop where
  apart : before.bus.Apart caller after.bus
  silent : after.sent caller = before.sent caller
  settled : ∀ executionId, kept executionId → ∀ result,
    before.executions.getTerminalResult executionId = some result →
      after.executions.getTerminalResult executionId = some result

/-! ### What was told stays true

A stream's opening tells of a document that the collection held when it was
read, and what follows was published on its channel later.  Both are facts
about the past, so no step takes them back. -/

section Later

variable {kept : ExecutionId → Prop} {past : StreamStore → Prop}
  {caller : Caller}
  {before middle after : StreamStore} {call : StreamCall}

theorem Relies.refl (store : StreamStore) : Relies kept caller store store :=
  ⟨.refl _, rfl, fun _ _ _ => id⟩

theorem Relies.trans (first : Relies kept caller before middle)
    (second : Relies kept caller middle after) :
    Relies kept caller before after :=
  ⟨first.apart.trans second.apart, second.silent.trans first.silent,
    fun executionId keeps result stored =>
      second.settled executionId keeps result
        (first.settled executionId keeps result stored)⟩

/-- A step that no channel and no result loses by leaves what was told true,
whoever made it. -/
structure Grows (kept : ExecutionId → Prop) (before after : StreamStore) :
    Prop where
  grows : ∀ channel,
    before.bus.published channel <+: after.bus.published channel
  settled : ∀ executionId, kept executionId → ∀ result,
    before.executions.getTerminalResult executionId = some result →
      after.executions.getTerminalResult executionId = some result

theorem Relies.toGrows (relies : Relies kept caller before after) :
    Grows kept before after :=
  ⟨relies.apart.grows, relies.settled⟩

/-- A result that was shown is still the stored one. -/
theorem Grows.shown (grows : Grows kept before after)
    {executionId : ExecutionId} (keeps : kept executionId)
    {result : Option ExecutionResultDomain} (given : result ≠ none)
    (stored : result = before.executions.getTerminalResult executionId) :
    result = after.executions.getTerminalResult executionId := by
  cases result with
  | none => exact absurd rfl given
  | some value =>
      exact (grows.settled executionId keeps value stored.symm).symm

theorem Passed.later (grows : Grows kept before after)
    {message shown : StreamMessage}
    (passed : Passed kept before call message shown) :
    Passed kept after call message shown := by
  cases call with
  | execution executionId userId userRole =>
      cases message with
      | execution event =>
          refine ⟨passed.1, ?_⟩
          have made := passed.2
          by_cases stores : event.eventType = .event .resultStored
          · rw [if_pos stores] at made ⊢
            obtain ⟨result, same, stored⟩ := made
            refine ⟨result, same, fun keeps => ?_⟩
            by_cases missing : result = none
            · exact .inl missing
            · exact .inr (grows.shown keeps missing
                ((stored keeps).resolve_left missing))
          · rw [if_neg stores] at made ⊢
            exact made
      | notification payload => exact passed
      | replay payload => exact passed
  | notifications userId => cases message <;> exact passed
  | replay sessionId => cases message <;> exact passed

theorem Follows.later (grows : Grows kept before after)
    {shown : List StreamMessage} (follows : Follows kept before call shown) :
    Follows kept after call shown := by
  obtain ⟨since, seen, within, passed⟩ := follows
  refine ⟨since, seen, within.trans ?_,
    passed.imp fun _ _ => Passed.later grows⟩
  obtain ⟨rest, same⟩ := grows.grows call.channel
  rw [← same, List.drop_append]
  exact PubSub.upTo_prefix _ _

theorem Told.later (grows : Grows kept before after)
    {sent : List StreamMessage} (told : Told kept past before call sent) :
    Told kept past after call sent := by
  cases told with
  | nothing => exact .nothing call
  | opened execution userId userRole held admitted =>
      exact .opened execution userId userRole held admitted
  | closed execution userId userRole held admitted ended result stored =>
      refine .closed execution userId userRole held admitted ended result
        fun keeps => ?_
      obtain ⟨given, same⟩ := stored keeps
      exact ⟨given, grows.shown keeps given same⟩
  | followed execution userId userRole held admitted active shown follows =>
      exact .followed execution userId userRole held admitted active shown
        (follows.later grows)
  | session session held shown follows active =>
      exact .session session held shown (follows.later grows) active
  | notified userId _ follows =>
      exact .notified userId _ (follows.later grows)

end Later

/-- What holds of the store in every run from an empty one. -/
structure Consistent (store : StreamStore) : Prop where
  coherent : store.bus.Coherent
  addressed : ∀ channel, ∀ message ∈ store.bus.published channel,
    Addressed channel message
  keyed : ∀ executionId doc, store.executions executionId = some doc →
    doc.executionId = executionId
  filed : ∀ sessionId session, store.sessions sessionId = some session →
    session.sessionId = sessionId

private theorem consistent_empty : Consistent {} where
  coherent := PubSub.coherent_empty
  addressed _ _ member := absurd member List.not_mem_nil
  keyed _ _ stored := by cases stored
  filed _ _ stored := by cases stored

/-! ### What the rest of the system does -/

section Environment

variable {kept : ExecutionId → Prop} {store : StreamStore}

/-- Publishing an addressed message keeps the channels in order. -/
theorem Consistent.publish (consistent : Consistent store)
    {channel : String} {message : StreamMessage}
    (addressed : Addressed channel message) :
    Consistent (store.publish channel message) where
  coherent := consistent.coherent.publish channel message
  addressed other published member := by
    simp only [StreamStore.publish, PubSub.publish] at member
    by_cases same : other = channel
    · subst same
      simp only [Function.update_self, List.mem_append,
        List.mem_singleton] at member
      rcases member with earlier | rfl
      · exact consistent.addressed other published earlier
      · exact addressed
    · simp only [Function.update_of_ne same] at member
      exact consistent.addressed other published member
  keyed := consistent.keyed
  filed := consistent.filed

/-- A repository call leaves a document with its id, and a terminal one with
its result. -/
theorem perform_stored {executions : Executions} (call : RepositoryCall)
    {executionId : ExecutionId} {doc : ExecutionDocument}
    (stored : executions executionId = some doc) :
    ∃ next, (call.perform executions).2 executionId = some next ∧
      next.executionId = doc.executionId ∧
      (doc.status.isTerminal = true →
        next.status = doc.status ∧ next.resultFields = doc.resultFields) := by
  cases call with
  | writeTerminalResult result now =>
      by_cases own : executionId = result.executionId
      · subst own
        refine ⟨_, Executions.writeTerminalResult_self stored now, ?_⟩
        cases ended : doc.status.isTerminal <;>
          simp [Executions.setResult]
      · refine ⟨doc, ?_, rfl, fun _ => ⟨rfl, rfl⟩⟩
        rw [RepositoryCall.perform,
          Executions.writeTerminalResult_other own now, stored]
  | advanceStatus other status now =>
      simp only [RepositoryCall.perform]
      cases advanced : executions.advanceStatus other status now with
      | error error => exact ⟨doc, stored, rfl, fun _ => ⟨rfl, rfl⟩⟩
      | ok answer =>
          obtain ⟨modified, after⟩ := answer
          obtain ⟨index, found, values⟩ :=
            Executions.advanceStatus_get advanced executionId
          simp only [values]
          by_cases own : executionId = other
          · subst own
            rw [if_pos rfl, stored, Option.map_some]
            by_cases behind :
                (executionActive.take index).contains doc.status = true
            · rw [if_pos behind]
              refine ⟨_, rfl, rfl, fun ended => ?_⟩
              have active := mem_executionActive.mp
                (List.mem_of_mem_take (List.contains_iff_mem.mp behind))
              rw [ended] at active
              cases active
            · rw [if_neg behind]
              exact ⟨doc, rfl, rfl, fun _ => ⟨rfl, rfl⟩⟩
          · rw [if_neg own, stored]
            exact ⟨doc, rfl, rfl, fun _ => ⟨rfl, rfl⟩⟩
  | updatePriority other priority now =>
      simp only [RepositoryCall.perform, Executions.updatePriority_get]
      by_cases own : executionId = other
      · subst own
        rw [if_pos rfl, stored]
        exact ⟨_, rfl, rfl, fun _ => ⟨rfl, rfl⟩⟩
      · rw [if_neg own, stored]
        exact ⟨doc, rfl, rfl, fun _ => ⟨rfl, rfl⟩⟩

private theorem getTerminalResult_eq_some {executions : Executions}
    {executionId : ExecutionId} {result : ExecutionResultDomain} :
    executions.getTerminalResult executionId = some result ↔
      ∃ doc, executions executionId = some doc ∧
        doc.status.isTerminal = true ∧
        result.executionId = doc.executionId ∧
        result.status = doc.status ∧
        result.resultFields = doc.resultFields := by
  unfold Executions.getTerminalResult
  rw [Executions.getExecution_eq]
  cases stored : executions executionId with
  | none => simp
  | some doc =>
      cases ended : doc.status.isTerminal with
      | false => simp [ended]
      | true =>
          simp only [ended, if_true, Option.some.injEq]
          constructor
          · intro same
            subst same
            exact ⟨doc, rfl, ended, rfl, rfl, rfl⟩
          · intro known
            obtain ⟨other, same, -, id, status, fields⟩ := known
            subst same
            cases result
            simp only [ExecutionResultDomain.resultFields,
              ExecutionDocument.resultFields,
              ResultFields.mk.injEq] at id status fields
            obtain ⟨exitCode, stdout, stderr, usage, errorType⟩ := fields
            subst id status exitCode stdout stderr usage errorType
            rfl

/-- The end of an execution that is not deleted stays as it is. -/
theorem settled_happen {event : StreamEvent}
    (permitted : ∀ executionId, event = .deleteExecution executionId →
      ¬ kept executionId)
    {executionId : ExecutionId} (keeps : kept executionId)
    {result : ExecutionResultDomain}
    (ended : store.executions.getTerminalResult executionId = some result) :
    (store.happen event).executions.getTerminalResult executionId =
      some result := by
  have known := getTerminalResult_eq_some.mp ended
  obtain ⟨doc, stored, terminal, same⟩ := known
  cases event with
  | createExecution created =>
      apply getTerminalResult_eq_some.mpr
      refine ⟨doc, ?_, terminal, same⟩
      simp only [StreamStore.happen, Executions.createExecution]
      cases taken : store.executions created.executionId with
      | some other => exact stored
      | none =>
          have different : executionId ≠ created.executionId := by
            intro own
            rw [own, taken] at stored
            cases stored
          simp [Collection.insert_other _ different, stored]
  | writeExecution call =>
      obtain ⟨next, nextStored, id, values⟩ := perform_stored call stored
      obtain ⟨status, fields⟩ := values terminal
      apply getTerminalResult_eq_some.mpr
      refine ⟨next, nextStored, ?_, ?_⟩
      · rw [status, terminal]
      · rw [id, status, fields]
        exact same
  | deleteExecution deleted =>
      have different : executionId ≠ deleted := by
        intro own
        exact permitted deleted rfl (own ▸ keeps)
      apply getTerminalResult_eq_some.mpr
      refine ⟨doc, ?_, terminal, same⟩
      simp only [StreamStore.happen, Executions.deleteExecution,
        Executions.getExecution_eq]
      cases store.executions deleted with
      | none => exact stored
      | some other => simp [different, stored]
  | saveSession session => exact ended
  | forward timestamp forwardedEvent =>
      simp only [StreamStore.happen]
      split <;> exact ended
  | publishReplayStatus session => exact ended
  | publishNotification userId payload => exact ended

variable (store) in
/-- The rest of the system moves no stream. -/
theorem relies_happen {event : StreamEvent}
    (permitted : ∀ executionId, event = .deleteExecution executionId →
      ¬ kept executionId) (caller : Caller) :
    Relies kept caller store (store.happen event) where
  apart := by
    cases event with
    | forward timestamp forwardedEvent =>
        simp only [StreamStore.happen]
        split
        · exact .refl _
        · exact PubSub.apart_publish caller _ _
    | publishReplayStatus session => exact PubSub.apart_publish caller _ _
    | publishNotification userId payload =>
        exact PubSub.apart_publish caller _ _
    | createExecution doc => exact .refl _
    | writeExecution call => exact .refl _
    | deleteExecution executionId => exact .refl _
    | saveSession session => exact .refl _
  silent := by
    cases event with
    | forward timestamp forwardedEvent =>
        simp only [StreamStore.happen]
        split <;> rfl
    | publishReplayStatus session => rfl
    | publishNotification userId payload => rfl
    | createExecution doc => rfl
    | writeExecution call => rfl
    | deleteExecution executionId => rfl
    | saveSession session => rfl
  settled _ keeps _ ended := settled_happen permitted keeps ended

theorem Consistent.happen (consistent : Consistent store)
    (event : StreamEvent) : Consistent (store.happen event) := by
  obtain ⟨coherent, addressed, keyed, filed⟩ := consistent
  cases event with
  | createExecution created =>
      refine ⟨coherent, addressed, fun executionId doc stored => ?_, filed⟩
      simp only [StreamStore.happen, Executions.createExecution] at stored
      cases taken : store.executions created.executionId with
      | some other =>
          simp only [taken] at stored
          exact keyed executionId doc stored
      | none =>
          simp only [taken] at stored
          by_cases own : executionId = created.executionId
          · subst own
            rw [Collection.insert_self] at stored
            cases stored
            rfl
          · rw [Collection.insert_other _ own] at stored
            exact keyed executionId doc stored
  | writeExecution call =>
      refine ⟨coherent, addressed, fun executionId doc stored => ?_, filed⟩
      cases before : store.executions executionId with
      | none =>
          have missing := ExecutionLifecycle.call_missing before call
          cases missing.symm.trans stored
      | some earlier =>
          obtain ⟨next, nextStored, id, -⟩ := perform_stored call before
          cases nextStored.symm.trans stored
          exact id.trans (keyed executionId earlier before)
  | deleteExecution deleted =>
      refine ⟨coherent, addressed, fun executionId doc stored => ?_, filed⟩
      exact keyed executionId doc (Executions.deleteExecution_stored stored)
  | saveSession saved =>
      refine ⟨coherent, addressed, keyed, fun sessionId session stored => ?_⟩
      simp only [StreamStore.happen] at stored
      by_cases own : sessionId = saved.sessionId
      · subst own
        rw [Collection.insert_self] at stored
        cases stored
        rfl
      · rw [Collection.insert_other _ own] at stored
        exact filed sessionId session stored
  | forward timestamp forwardedEvent =>
      simp only [StreamStore.happen]
      split
      · exact ⟨coherent, addressed, keyed, filed⟩
      · exact Consistent.publish ⟨coherent, addressed, keyed, filed⟩ rfl
  | publishReplayStatus session =>
      exact Consistent.publish ⟨coherent, addressed, keyed, filed⟩ rfl
  | publishNotification userId payload =>
      exact Consistent.publish ⟨coherent, addressed, keyed, filed⟩
        ⟨userId, rfl⟩

/-- Without its subscriptions the store is as consistent. -/
theorem Consistent.withBus (consistent : Consistent store)
    {bus : PubSub String Caller StreamMessage} (coherent : bus.Coherent)
    (same : bus.published = store.bus.published) :
    Consistent { store with bus := bus } where
  coherent := coherent
  addressed := same ▸ consistent.addressed
  keyed := consistent.keyed
  filed := consistent.filed

end Environment

/-! ### What a command does -/

section Commands

variable {caller : Caller} {store next : StreamStore} {choice : Outcome}

/-- A command goes wrong before it had an effect, or it has its effect and
perhaps no answer. -/
theorem performed_cases {command : StreamCommand}
    {reply : Except PyException (StreamReply command)}
    (performed : streamBackend.perform caller store command choice =
      some (reply, next)) :
    (∃ error, choice = .fails error ∧ reply = .error error ∧ next = store) ∨
    ∃ value, store.effect caller command = some (value, next) ∧
      (∀ error, choice ≠ .fails error) ∧
      (reply = .ok value ∨ ∃ error, reply = .error error ∧
        command.mayRaise error = true) := by
  cases choice with
  | fails error =>
      simp only [streamBackend, Option.ite_none_right_eq_some,
        Option.some.injEq, Prod.mk.injEq] at performed
      exact .inl ⟨error, rfl, performed.2.1.symm, performed.2.2.symm⟩
  | succeeds =>
      obtain ⟨⟨value, after⟩, effect, went⟩ :=
        Option.bind_eq_some_iff.mp performed
      rcases Outcome.perform_cases went with
        ⟨-, same⟩ | ⟨error, raised, may, ⟨same, -⟩ | ⟨same, -⟩⟩
      · cases same
        exact .inr ⟨value, effect, (by simp), .inl rfl⟩
      · cases same
      · cases same
  | unacknowledged lost =>
      obtain ⟨⟨value, after⟩, effect, went⟩ :=
        Option.bind_eq_some_iff.mp performed
      rcases Outcome.perform_cases went with
        ⟨same, -⟩ | ⟨error, raised, may, ⟨same, -⟩ | ⟨-, same⟩⟩
      · cases same
      · cases same
      · subst same
        exact .inr ⟨value, effect, (by simp),
          .inr ⟨error, raised, may⟩⟩

end Commands

/-! ### A stream that follows its channel -/

section Following

variable (kept : ExecutionId → Prop)
  (early : List StreamMessage → Prop)

/-- A stream has passed on, after what it opened with, all that it took from
its subscription but the pending messages, and none of that was terminal.
`early` is known of what its channel had before it subscribed. -/
def Following (caller : Caller) (call : StreamCall)
    (opened pending : List StreamMessage) (store : StreamStore) : Prop :=
  ∃ subscription seen shown,
    store.bus.subscriptions caller = some subscription ∧
    subscription.channel = call.channel ∧
    early ((store.bus.published call.channel).take subscription.since) ∧
    subscription.taken = seen ++ pending ∧
    (∀ message ∈ seen, message.isTerminal = false) ∧
    store.sent caller = opened ++ shown ∧
    List.Forall₂ (Passed kept store call) seen shown

variable {kept early} {caller : Caller} {call : StreamCall}
  {opened pending : List StreamMessage} {store after : StreamStore}

theorem Following.later (follows : Following kept early caller call opened
    pending store) (consistent : Consistent store)
    (relies : Relies kept caller store after) :
    Following kept early caller call opened pending after := by
  obtain ⟨subscription, seen, shown, subscribed, itsChannel, before, taken,
    goesOn, sent, passed⟩ := follows
  obtain ⟨inbox, found⟩ := relies.apart.finds subscribed
  refine ⟨_, seen, shown, found, itsChannel, ?_, taken, goesOn,
    relies.silent.trans sent, passed.imp fun _ _ => Passed.later
      relies.toGrows⟩
  have same := relies.apart.earlier consistent.coherent subscribed
  rw [itsChannel] at same
  exact same ▸ before

/-- What a stream has shown with a message that it took follows its
channel. -/
theorem Following.follows {message passedOn : StreamMessage}
    (follows : Following kept early caller call opened [message] store)
    (consistent : Consistent store)
    (passed : Passed kept store call message passedOn) :
    ∃ shown, store.sent caller = opened ++ shown ∧
      Follows kept store call (shown ++ [passedOn]) := by
  obtain ⟨subscription, seen, shown, subscribed, itsChannel, -, taken,
    goesOn, sent, earlier⟩ := follows
  refine ⟨shown, sent, subscription.since, seen ++ [message], ?_,
    List.rel_append earlier (.cons passed .nil)⟩
  have whole := (consistent.coherent caller subscription subscribed).2
  rw [itsChannel, taken, List.append_assoc] at whole
  rw [← whole]
  exact PubSub.prefix_upTo goesOn _

end Following

/-! ### The streams, one rule each -/

section Contract

variable (calls : Caller → StreamCall) (kept : ExecutionId → Prop)
  (past : StreamStore → Prop) (early : List StreamMessage → Prop)

/-- The contract of the streams: each tells its client what it may, and nobody
moves another's subscription.  It is about runs in which the kept executions
are not deleted, a stream asks only in a store of the past, and it subscribes
only when `early` holds of what its channel has had. -/
def contract : Contract Caller StreamStore StreamCommand Outcome
    StreamEvent where
  invariant store := Consistent store ∧
    ∀ caller, Told kept past store (calls caller) (store.sent caller)
  guarantee caller before after :=
    ∀ other, other ≠ caller → Relies kept other before after
  rely caller before after := Relies kept caller before after
  claims caller command store := command = .listen →
    ∃ opened, Following kept early caller (calls caller) opened [] store
  allows _ store command choice := past store ∧ ∀ channel,
    command = .subscribe channel → (∀ error, choice ≠ .fails error) →
      early (store.bus.published channel)
  permits _ _ event := ∀ executionId,
    event = .deleteExecution executionId → ¬ kept executionId

variable {calls kept past early} {caller : Caller} {store : StreamStore}

/-- A change of the channels that publishes nothing keeps what was told. -/
theorem invariant_withBus
    (invariant : (contract calls kept past early).invariant store)
    {bus : PubSub String Caller StreamMessage} (coherent : bus.Coherent)
    (same : bus.published = store.bus.published) :
    (contract calls kept past early).invariant { store with bus := bus } := by
  refine ⟨invariant.1.withBus coherent same, fun other => ?_⟩
  apply (invariant.2 other).later
  refine ⟨fun channel => ?_, fun _ _ _ => id⟩
  rw [same]

/-- A command that only reads. -/
theorem wp_read {command : StreamCommand}
    {post : Except PyException (StreamReply command) → StreamStore → Prop}
    (invariant : (contract calls kept past early).invariant store)
    (apart : command ≠ .listen)
    (reads : ∀ value next,
      store.effect caller command = some (value, next) → next = store)
    (leads : past store → ∀ reply later,
      (contract calls kept past early).Later caller store later →
        (∀ value, reply = .ok value →
          store.effect caller command = some (value, store)) →
          post reply later) :
    (contract calls kept past early).wp streamBackend caller
      (Coroutine.call command) post store := by
  apply Contract.wp_call (fun same => absurd same apart)
  intro choice reply next allowed performed
  have outcome : next = store ∧ ∀ value, reply = .ok value →
      store.effect caller command = some (value, store) := by
    rcases performed_cases performed with
      ⟨error, -, rfl, rfl⟩ | ⟨value, effect, -, answered⟩
    · exact ⟨rfl, fun _ same => by cases same⟩
    · have same := reads value next effect
      subst same
      refine ⟨rfl, fun other replied => ?_⟩
      rcases answered with went | ⟨error, raised, -⟩
      · cases went.symm.trans replied
        exact effect
      · cases raised.symm.trans replied
  obtain ⟨rfl, answers⟩ := outcome
  exact ⟨invariant, fun other _ => .refl _, fun later reached =>
    leads allowed.1 reply later reached answers⟩

/-- The store after a stream sent a message to its client. -/
def afterSend (store : StreamStore) (caller : Caller)
    (message : StreamMessage) : StreamStore :=
  { store with
    sent := Function.update store.sent caller
      (store.sent caller ++ [message]) }

/-- What a stream sends must be what it may tell. -/
theorem wp_send {message : StreamMessage}
    {post : Except PyException Unit → StreamStore → Prop}
    (invariant : (contract calls kept past early).invariant store)
    (told : Told kept past store (calls caller)
      (store.sent caller ++ [message]))
    (leads : ∀ later, (contract calls kept past early).Later caller
      (afterSend store caller message) later → post (.ok ()) later) :
    (contract calls kept past early).wp streamBackend caller
      (stream (.send message)) post store := by
  apply Contract.wp_call (fun same => by cases same)
  intro choice reply next _ performed
  have outcome : reply = .ok () ∧ next = afterSend store caller message := by
    rcases performed_cases performed with
      ⟨error, rfl, rfl, rfl⟩ | ⟨value, effect, -, answered⟩
    · simp [streamBackend, StreamCommand.mayRaise] at performed
    · cases effect
      rcases answered with went | ⟨error, -, may⟩
      · exact ⟨went, rfl⟩
      · cases may
  obtain ⟨rfl, rfl⟩ := outcome
  have grows : Grows kept store (afterSend store caller message) :=
    ⟨fun _ => List.prefix_rfl, fun _ _ _ => id⟩
  refine ⟨⟨⟨invariant.1.coherent, invariant.1.addressed, invariant.1.keyed,
    invariant.1.filed⟩, fun other => ?_⟩, fun other different => ?_, leads⟩
  · by_cases same : other = caller
    · subst same
      simpa [afterSend] using told.later grows
    · simpa [afterSend, Function.update_of_ne same] using
        (invariant.2 other).later grows
  · exact ⟨.refl _, by simp [afterSend, Function.update_of_ne different],
      fun _ _ _ => id⟩

/-- What a stream that opened so may have sent, whatever followed. -/
def Opens (calls : Caller → StreamCall) (kept : ExecutionId → Prop)
    (past : StreamStore → Prop) (caller : Caller)
    (opened : List StreamMessage) : Prop :=
  ∀ store shown, Follows kept store (calls caller) shown →
    Told kept past store (calls caller) (opened ++ shown)

/-- A stream passes on the message that it took, and reads on after it unless
it is terminal. -/
theorem wp_pass {opened : List StreamMessage}
    {message passedOn : StreamMessage}
    (invariant : (contract calls kept past early).invariant store)
    (opens : Opens calls kept past caller opened)
    (follows : Following kept early caller (calls caller) opened [message]
      store)
    (passed : Passed kept store (calls caller) message passedOn) :
    (contract calls kept past early).wp streamBackend caller
      (stream (.send passedOn))
      (fun _ after => message.isTerminal = false →
        Following kept early caller (calls caller) opened [] after)
      store := by
  obtain ⟨earlier, sent, whole⟩ := follows.follows invariant.1 passed
  apply wp_send invariant
  · rw [sent, List.append_assoc]
    exact opens store _ whole
  intro later reached goesOn
  have kept' : Consistent (afterSend store caller passedOn) :=
    ⟨invariant.1.coherent, invariant.1.addressed, invariant.1.keyed,
      invariant.1.filed⟩
  apply Following.later _ kept' reached.1
  obtain ⟨subscription, seen, shown, subscribed, itsChannel, before, taken,
    active, told, made⟩ := follows
  have same : earlier = shown :=
    List.append_cancel_left (sent.symm.trans told)
  subst same
  refine ⟨subscription, seen ++ [message], earlier ++ [passedOn], subscribed,
    itsChannel, before, by simpa using taken, ?_, ?_,
    List.rel_append made (.cons passed .nil)⟩
  · intro other member
    rcases List.mem_append.mp member with among | last
    · exact active other among
    · exact List.mem_singleton.mp last ▸ goesOn
  · simp [afterSend, sent]

/-- What is asked of a handler of messages: it goes on only with a message
passed on that was not terminal. -/
def Handles (calls : Caller → StreamCall) (kept : ExecutionId → Prop)
    (past : StreamStore → Prop) (early : List StreamMessage → Prop)
    (caller : Caller) (opened : List StreamMessage)
    (handle : StreamMessage → StreamProgram Bool) : Prop :=
  ∀ message store, (contract calls kept past early).invariant store →
    Following kept early caller (calls caller) opened [message] store →
      (contract calls kept past early).wp streamBackend caller (handle message)
        (fun answer after => answer = .ok true →
          Following kept early caller (calls caller) opened [] after) store

/-- However a stream ends, it gives up its subscription. -/
theorem wp_unsubscribe {result : Except PyException Unit}
    (invariant : (contract calls kept past early).invariant store) :
    (contract calls kept past early).wp streamBackend caller
      ((stream .unsubscribe).andThen fun _ => .done result)
      (fun _ _ => True) store := by
  rw [Contract.wp_andThen]
  apply Contract.wp_call (fun same => by cases same)
  intro choice reply next _ performed
  rcases performed_cases performed with
    ⟨error, -, -, rfl⟩ | ⟨value, effect, -, -⟩
  · exact ⟨invariant, fun _ _ => .refl _, fun _ _ => trivial⟩
  · cases effect
    refine ⟨invariant_withBus invariant
      (invariant.1.coherent.unsubscribe caller) rfl,
      fun other different => ?_, fun _ _ => trivial⟩
    exact ⟨PubSub.apart_unsubscribe different, rfl, fun _ _ _ => id⟩

/-- A stream that has told what it opens with follows its channel. -/
theorem wp_listening {opened : List StreamMessage}
    {handle : StreamMessage → StreamProgram Bool}
    (invariant : (contract calls kept past early).invariant store)
    (sent : store.sent caller = opened)
    (handles : Handles calls kept past early caller opened handle) :
    (contract calls kept past early).wp streamBackend caller
      (listening (calls caller).channel handle) (fun _ _ => True) store := by
  unfold listening
  rw [Contract.wp_andThen, Contract.wp_bind]
  apply Contract.wp_call (fun same => by cases same)
  intro choice reply next allowed performed
  rcases performed_cases performed with
    ⟨error, -, rfl, rfl⟩ | ⟨value, effect, went, answered⟩
  · exact ⟨invariant, fun _ _ => .refl _, fun later reached =>
      wp_unsubscribe reached.2⟩
  cases effect
  have subscribed := invariant_withBus invariant
    (invariant.1.coherent.subscribe caller (calls caller).channel) rfl
  refine ⟨subscribed, fun other different => ?_, fun later reached => ?_⟩
  · exact ⟨PubSub.apart_subscribe different _, rfl, fun _ _ _ => id⟩
  rcases answered with rfl | ⟨error, rfl, -⟩
  swap
  · exact wp_unsubscribe reached.2
  apply Contract.wp_repeatWhile
    (Following kept early caller (calls caller) opened [])
  · apply Following.later _ subscribed.1 reached.1
    refine ⟨_, [], [], Function.update_self .., rfl, ?_, rfl,
      fun _ member => absurd member List.not_mem_nil, by simpa using sent,
      .nil⟩
    have before := allowed.2 (calls caller).channel rfl went
    simpa [PubSub.subscribe] using before
  intro head follows kept'
  rw [Contract.wp_bind]
  apply Contract.wp_call fun _ => ⟨opened, follows⟩
  intro choice reply next _ performed
  rcases performed_cases performed with
    ⟨error, -, rfl, rfl⟩ | ⟨message, effect, -, answered⟩
  · exact ⟨kept', fun _ _ => .refl _, fun later reached =>
      wp_unsubscribe reached.2⟩
  obtain ⟨⟨message, bus⟩, took, same⟩ := Option.map_eq_some_iff.mp effect
  cases same
  have coherent := kept'.1.coherent.next took
  obtain ⟨subscription, inbox, isSubscribed, heads, rfl⟩ :=
    PubSub.next_cases took
  have taken := invariant_withBus kept' coherent rfl
  refine ⟨taken, fun other different => ?_, fun later reached => ?_⟩
  · exact ⟨PubSub.apart_next different took, rfl, fun _ _ _ => id⟩
  rcases answered with rfl | ⟨error, rfl, -⟩
  swap
  · exact wp_unsubscribe reached.2
  apply Contract.wp_mono _ reached.2
  · apply handles message later reached.2
    apply Following.later _ taken.1 reached.1
    obtain ⟨_, seen, shown, found, itsChannel, before, earlier, rest⟩ :=
      follows
    cases isSubscribed.symm.trans found
    refine ⟨_, seen, shown, Function.update_self .., itsChannel, before, ?_,
      rest⟩
    simp [earlier]
  · intro answer after keptAfter goesOn
    match answer with
    | .ok true => exact goesOn rfl
    | .ok false => exact wp_unsubscribe keptAfter
    | .error error => exact wp_unsubscribe keptAfter

/-- A message that a stream took is addressed to its channel. -/
theorem Following.addressed {call : StreamCall} {opened : List StreamMessage}
    {message : StreamMessage}
    (follows : Following kept early caller call opened [message] store)
    (consistent : Consistent store) : Addressed call.channel message := by
  obtain ⟨subscription, seen, shown, subscribed, itsChannel, -, taken, -⟩ :=
    follows
  apply consistent.addressed
  rw [← itsChannel, consistent.coherent.split subscribed, taken]
  simp

private theorem wp_withResult {executionId : ExecutionId} {userId : UserId}
    {userRole : UserRole} {event : SSEExecutionEventData}
    {opened : List StreamMessage}
    (its : calls caller = .execution executionId userId userRole)
    (invariant : (contract calls kept past early).invariant store)
    (follows : Following kept early caller (calls caller) opened
      [.execution event] store)
    (own : event.executionId = executionId) :
    (contract calls kept past early).wp streamBackend caller
      (withResult executionId event)
      (fun answer after => ∀ passedOn, answer = .ok passedOn →
        Following kept early caller (calls caller) opened [.execution event]
          after ∧
        Passed kept after (calls caller) (.execution event)
          (.execution passedOn) ∧
        passedOn.eventType = event.eventType) store := by
  unfold withResult
  by_cases stores : event.eventType = .event .resultStored
  · rw [if_pos stores, Contract.wp_bind]
    apply wp_read invariant (by simp)
    · intro value next effect
      cases effect
      rfl
    intro _ reply later reached answers
    cases reply with
    | error error =>
        intro passedOn answered
        cases answered
    | ok result =>
        intro passedOn answered
        cases answered
        refine ⟨follows.later invariant.1 reached.1, ?_, rfl⟩
        rw [its]
        refine ⟨own, ?_⟩
        rw [if_pos stores]
        refine ⟨result, rfl, fun keeps => ?_⟩
        have read := congrArg Prod.fst (Option.some.inj (answers result rfl))
        by_cases missing : result = none
        · exact .inl missing
        · exact .inr (reached.1.toGrows.shown keeps missing read.symm)
  · rw [if_neg stores]
    intro passedOn answered
    cases answered
    refine ⟨follows, ?_, rfl⟩
    rw [its]
    refine ⟨own, ?_⟩
    rw [if_neg stores]

theorem handles_forwardEvent {executionId : ExecutionId} {userId : UserId}
    {userRole : UserRole} {opened : List StreamMessage}
    (its : calls caller = .execution executionId userId userRole)
    (opens : Opens calls kept past caller opened) :
    Handles calls kept past early caller opened (forwardEvent executionId) := by
  intro message store invariant follows
  have addressed := follows.addressed invariant.1
  rw [its] at addressed
  obtain ⟨event, rfl, own⟩ := addressed_execution addressed
  unfold forwardEvent
  rw [Contract.wp_bind]
  apply Contract.wp_mono _ invariant
    (wp_withResult its invariant follows own)
  intro answer after kept' made
  cases answer with
  | error error =>
      intro answered
      cases answered
  | ok passedOn =>
      obtain ⟨followsAfter, passed, sameType⟩ := made passedOn rfl
      dsimp only
      rw [Contract.wp_bind]
      apply Contract.wp_mono _ kept' (wp_pass kept' opens followsAfter passed)
      intro reply later _ goesOn
      cases reply with
      | error error =>
          intro answered
          cases answered
      | ok sent =>
          intro answered
          apply goesOn
          simpa [StreamMessage.isTerminal, sameType] using answered

private theorem handles_forwardNotification {userId : UserId}
    {opened : List StreamMessage}
    (its : calls caller = .notifications userId)
    (opens : Opens calls kept past caller opened) :
    Handles calls kept past early caller opened forwardNotification := by
  intro message store invariant follows
  have addressed := follows.addressed invariant.1
  rw [its] at addressed
  obtain ⟨payload, rfl⟩ := addressed_notification addressed
  unfold forwardNotification
  rw [Contract.wp_bind]
  apply Contract.wp_mono _ invariant (wp_pass invariant opens follows _)
  · intro reply later _ goesOn
    cases reply with
    | error error =>
        intro answered
        cases answered
    | ok sent => exact fun _ => goesOn rfl
  · rw [its]
    rfl

private theorem handles_forwardStatus {sessionId : ReplaySessionId}
    {opened : List StreamMessage} (its : calls caller = .replay sessionId)
    (opens : Opens calls kept past caller opened) :
    Handles calls kept past early caller opened forwardStatus := by
  intro message store invariant follows
  have addressed := follows.addressed invariant.1
  rw [its] at addressed
  obtain ⟨payload, rfl, own⟩ := addressed_replay addressed
  unfold forwardStatus
  rw [Contract.wp_bind]
  apply Contract.wp_mono _ invariant (wp_pass invariant opens follows _)
  · intro reply later _ goesOn
    cases reply with
    | error error =>
        intro answered
        cases answered
    | ok sent =>
        intro answered
        apply goesOn
        simpa [StreamMessage.isTerminal] using answered
  · rw [its]
    exact ⟨own, rfl⟩

theorem ended_result {executions : Executions} {executionId : ExecutionId}
    {doc : ExecutionDocument} (stored : executions executionId = some doc)
    (ended : doc.status.isTerminal = true) :
    ∃ result, executions.getTerminalResult executionId = some result := by
  simp [Executions.getTerminalResult, stored, ended]

private theorem wp_executionPipeline {execution : ExecutionDocument}
    {userId : UserId} {userRole : UserRole}
    (its : calls caller = .execution execution.executionId userId userRole)
    (held : HeldExecution past execution)
    (admitted : denies execution userId userRole = false)
    (invariant : (contract calls kept past early).invariant store)
    (silent : store.sent caller = [])
    (settled : kept execution.executionId →
      execution.status.isTerminal = true → ∃ result,
        store.executions.getTerminalResult execution.executionId =
          some result) :
    (contract calls kept past early).wp streamBackend caller
      (executionPipeline execution) (fun _ _ => True) store := by
  unfold executionPipeline
  rw [Contract.wp_bind]
  apply wp_send invariant
  · rw [silent, its]
    exact .opened execution userId userRole held admitted
  intro opened reached
  have said : opened.sent caller = [opening execution] := by
    rw [reached.1.silent]
    simp [afterSend, silent, opening]
  cases ended : execution.status.isTerminal with
  | true =>
      simp only [if_true]
      rw [Contract.wp_bind]
      apply wp_read reached.2 (by simp)
      · intro value next effect
        cases effect
        rfl
      intro _ reply later after answers
      cases reply with
      | error error => trivial
      | ok result =>
          apply wp_send after.2
          · rw [after.1.silent, said, its]
            apply Told.closed execution userId userRole held admitted ended
              result
            intro keeps
            obtain ⟨value, stored⟩ := settled keeps ended
            have known := (reached.1.settled _ keeps value stored)
            have read := congrArg Prod.fst
              (Option.some.inj (answers result rfl))
            have same : result = some value := read.symm.trans known
            subst same
            exact ⟨by simp, (after.1.settled _ keeps value known).symm⟩
          · intro _ _
            trivial
  | false =>
      simp only [Bool.false_eq_true, if_false]
      have opens : Opens calls kept past caller [opening execution] := by
        intro anyStore shown follows
        rw [its] at follows ⊢
        exact .followed execution userId userRole held admitted ended shown
          follows
      have listens := wp_listening reached.2 said
        (handles_forwardEvent its opens)
      rwa [its] at listens

private theorem wp_createExecutionStream {executionId : ExecutionId}
    {userId : UserId} {userRole : UserRole}
    (its : calls caller = .execution executionId userId userRole)
    (invariant : (contract calls kept past early).invariant store)
    (silent : store.sent caller = []) :
    (contract calls kept past early).wp streamBackend caller
      (createExecutionStream executionId userId userRole)
      (fun _ _ => True) store := by
  unfold createExecutionStream
  rw [Contract.wp_bind]
  apply wp_read invariant (by simp)
  · intro value next effect
    cases effect
    rfl
  intro present reply later reached answers
  match reply with
  | .error error => trivial
  | .ok none => trivial
  | .ok (some execution) =>
      have stored : store.executions executionId = some execution := by
        have read := congrArg Prod.fst
          (Option.some.inj (answers (some execution) rfl))
        exact (Executions.getExecution_eq ..).symm.trans read
      cases invariant.1.keyed executionId execution stored
      dsimp only
      cases admitted : denies execution userId userRole with
      | true => trivial
      | false =>
          apply wp_executionPipeline its ⟨store, present, stored⟩ admitted
            reached.2
            (reached.1.silent.trans silent)
          intro keeps ended
          obtain ⟨result, known⟩ := ended_result stored ended
          exact ⟨result, reached.1.settled _ keeps result known⟩

private theorem wp_createReplayStream {sessionId : ReplaySessionId}
    (its : calls caller = .replay sessionId)
    (invariant : (contract calls kept past early).invariant store)
    (silent : store.sent caller = []) :
    (contract calls kept past early).wp streamBackend caller
      (createReplayStream sessionId) (fun _ _ => True) store := by
  unfold createReplayStream
  rw [Contract.wp_bind]
  apply wp_read invariant (by simp)
  · intro value next effect
    cases effect
    rfl
  intro present reply later reached answers
  match reply with
  | .error error => trivial
  | .ok none => trivial
  | .ok (some session) =>
      have stored : store.sessions sessionId = some session :=
        congrArg Prod.fst (Option.some.inj (answers (some session) rfl))
      cases invariant.1.filed sessionId session stored
      have held : HeldSession past session := ⟨store, present, stored⟩
      dsimp only
      unfold replayPipeline
      rw [Contract.wp_bind]
      apply wp_send reached.2
      · rw [reached.1.silent, silent, its]
        exact .session session held [] ⟨0, [], List.nil_prefix, .nil⟩
          fun _ => rfl
      intro opened after
      have said : opened.sent caller = [.replay session.ssePayload] := by
        rw [after.1.silent]
        simp [afterSend, reached.1.silent, silent]
      cases ended : session.status.isTerminal with
      | true =>
          have closes : session.ssePayload.status.isTerminal = true := ended
          simp only [closes, if_true]
          trivial
      | false =>
          have follows : session.ssePayload.status.isTerminal = false := ended
          simp only [follows, Bool.false_eq_true, if_false]
          have opens : Opens calls kept past caller
              [.replay session.ssePayload] := by
            intro anyStore shown followed
            rw [its] at followed ⊢
            apply Told.session session held shown followed
            intro closed
            rw [ended] at closed
            cases closed
          have listens := wp_listening after.2 said
            (handles_forwardStatus its opens)
          rwa [its] at listens

private theorem wp_createNotificationStream {userId : UserId}
    (its : calls caller = .notifications userId)
    (invariant : (contract calls kept past early).invariant store)
    (silent : store.sent caller = []) :
    (contract calls kept past early).wp streamBackend caller
      (createNotificationStream userId) (fun _ _ => True) store := by
  have opens : Opens calls kept past caller [] := by
    intro anyStore shown follows
    rw [its] at follows ⊢
    exact .notified userId shown follows
  have listens := wp_listening invariant silent
    (handles_forwardNotification its opens)
  rwa [its] at listens

/-- Every stream keeps the contract. -/
theorem wp_run (invariant : (contract calls kept past early).invariant store)
    (silent : store.sent caller = []) :
    (contract calls kept past early).wp streamBackend caller (calls caller).run
      (fun _ _ => True) store := by
  cases its : calls caller with
  | execution executionId userId userRole =>
      exact wp_createExecutionStream its invariant silent
  | notifications userId => exact wp_createNotificationStream its invariant silent
  | replay sessionId => exact wp_createReplayStream its invariant silent

variable (calls kept past early) in
theorem sound : (contract calls kept past early).Sound streamBackend where
  rely_refl _ store := .refl store
  rely_trans _ _ _ _ first second := first.trans second
  progress_refl _ := trivial
  interference _ other _ _ different _ _ promised := promised other different
  progresses _ _ _ _ _ := trivial
  environment _ store event next invariant permitted happened := by
    cases happened
    refine ⟨⟨invariant.1.happen event, fun caller => ?_⟩, trivial,
      fun caller _ => relies_happen _ permitted caller, fun _ => id⟩
    have relies := relies_happen store permitted caller
    rw [relies.silent]
    exact (invariant.2 caller).later relies.toGrows
  kill store caller next invariant _ killed := by
    cases killed
    exact ⟨invariant_withBus invariant
      (invariant.1.coherent.unsubscribe caller) rfl, trivial, trivial,
      fun other different =>
        ⟨PubSub.apart_unsubscribe different, rfl, fun _ _ _ => id⟩⟩
  gone _ _ _ _ _ := trivial

/-- In every run from an empty store that the contract speaks about, every
stream keeps it. -/
theorem safe_run {final : Streams}
    {moves : List (Move Caller Outcome StreamEvent)}
    (along : streamBackend.machine.Along (contract calls kept past early).guard
      (StreamCall.start {} calls) moves)
    (reached : streamBackend.machine.run (StreamCall.start {} calls) moves =
      some final) :
    (contract calls kept past early).Safe streamBackend (fun _ _ _ => True)
      final := by
  have start : (contract calls kept past early).Safe streamBackend
      (fun _ _ _ => True) (StreamCall.start {} calls) := by
    apply Contract.Safe.start (sound calls kept past early)
    · exact ⟨consistent_empty, fun caller => .nothing _⟩
    · intro caller dead
      cases dead
    · intro caller coroutine runs later reached
      cases runs
      exact wp_run reached.2 reached.1.silent
  exact (sound calls kept past early).run Contract.stable_true start along reached

end Contract

/-! ### The contents over runs -/

/-- No step of a run deletes the execution. -/
def Undeleted (moves : List (Move Caller Outcome StreamEvent))
    (executionId : ExecutionId) : Prop :=
  ∀ move ∈ moves, move ≠ .environment (.deleteExecution executionId)

/-- A run had the store at some time. -/
def During (calls : Caller → StreamCall)
    (moves : List (Move Caller Outcome StreamEvent)) (store : StreamStore) :
    Prop :=
  ∃ first state, first <+: moves ∧
    streamBackend.machine.run (StreamCall.start {} calls) first =
      some state ∧
    state.shared = store

/-- Whatever the streams of all clients, the services that write and publish,
and failures and disconnects do and in whatever order, what a stream has sent
is what it may tell.  It opens with the status of a document that was stored
during the run, and by that document the caller may see the execution.  If that was terminal, the result that is stored
follows, and nothing else.  Otherwise the messages of its own channel follow
from some point on, in order and without a gap, none after the first terminal
one, and each as it was published but for the stored result, which comes with
`result_stored`. -/
theorem stream_contents {calls : Caller → StreamCall} {final : Streams}
    {moves : List (Move Caller Outcome StreamEvent)}
    (reached : streamBackend.machine.run (StreamCall.start {} calls) moves =
      some final) (caller : Caller) :
    Told (Undeleted moves) (During calls moves) final.shared (calls caller)
      (final.shared.sent caller) := by
  have along : streamBackend.machine.Along
      (contract calls (Undeleted moves) (During calls moves)
        fun _ => True).guard (StreamCall.start {} calls) moves := by
    apply Machine.along_of_reached
    intro first move rest state parts before
    cases move with
    | caller mover choice =>
        exact fun _ _ => ⟨⟨first, state, ⟨_, parts.symm⟩, before, rfl⟩,
          fun _ _ _ => trivial⟩
    | environment event =>
        intro executionId deletes keeps
        exact keeps _ (by simp [parts]) (congrArg Move.environment deletes)
    | kill killed => trivial
  exact (safe_run along reached).invariant.2 caller

/-- A running execution of a user. -/
def runningExecution : ExecutionDocument where
  executionId := "e"
  script := "print(1)"
  lang := "python"
  langVersion := "3.12"
  userId := some "u"
  status := .running
  createdAt := 0
  updatedAt := 1

def printedOne : ExecutionResultDomain where
  executionId := "e"
  status := .completed
  exitCode := some 0
  stdout := some "1"
  stderr := some ""

def storedEvent : DomainEvent :=
  .resultStored
    { eventId := "r"
      metadata :=
        { serviceName := "result-processor"
          serviceVersion := "1.0.0"
          userId := "u" }
      executionId := "e" }

/-- The owner opens a stream. -/
def ownersStream : Caller → StreamCall :=
  fun _ => .execution "e" "u" .user

/-- The stream opens while the execution runs, and follows its end. -/
def openedInTime : List (Move Caller Outcome StreamEvent) :=
  [.environment (.createExecution runningExecution)] ++
  List.replicate 4 (.caller 0 .succeeds) ++
  [.environment (.writeExecution (.writeTerminalResult printedOne 2)),
    .environment (.forward 3 storedEvent)] ++
  List.replicate 4 (.caller 0 .succeeds)

theorem stream_contents_in_time :
    ∃ final,
      streamBackend.machine.run (StreamCall.start {} ownersStream)
        openedInTime = some final ∧
      final.shared.sent 0 =
        [.execution
            { eventType := .status
              executionId := "e"
              timestamp := some 1
              status := some .running },
          .execution
            { eventType := .event .resultStored
              executionId := "e"
              timestamp := some 3
              eventId := some "r"
              result := some printedOne }] ∧
      Told (Undeleted openedInTime) (During ownersStream openedInTime)
        final.shared (ownersStream 0) (final.shared.sent 0) := by
  have sent : (streamBackend.machine.run (StreamCall.start {} ownersStream)
      openedInTime).map (fun final => final.shared.sent 0) =
    some
      [.execution
          { eventType := .status
            executionId := "e"
            timestamp := some 1
            status := some .running },
        .execution
          { eventType := .event .resultStored
            executionId := "e"
            timestamp := some 3
            eventId := some "r"
            result := some printedOne }] := by decide +kernel
  obtain ⟨final, reached, same⟩ := Option.map_eq_some_iff.mp sent
  exact ⟨final, reached, same, stream_contents reached 0⟩

end StreamContents

end Integr8s
