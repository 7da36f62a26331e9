/-
Module: ServersManager.RollbackProtocol
Purpose: The order in which requesting and executing a rollback make their calls, as
  an automaton over phases, and that the code keeps to it.
Trusted boundary: none
Main exports:
  RollbackRequest, Phase, rollbackProtocol, enqueueRollback_follows, process_follows
-/
import ServersManager.Rollback

namespace ServersManager

open Library

/-! ### Phases -/

structure RollbackRequest where
  orgId : Nat
  serviceId : Nat
  targetSnapshotId : Nat
  triggeredByUserId : Nat
deriving Repr, DecidableEq

/-- How far a request or a job has come, with what it has read so far.  A running job
holds the event as it last saved it, the service it has loaded, and the commands it has
sent to the host. -/
inductive Phase where
  | begun (request : RollbackRequest)
  | owned (request : RollbackRequest) (service : Service)
  | targeted (request : RollbackRequest) (service : Service)
      (target : DeploymentSnapshot)
  | based (service : Service) (event : RollbackEvent)
  | inserted (event : RollbackEvent)
  | waiting
  | taken (rollbackEventId : Nat)
  | loaded (event : RollbackEvent)
  | running (event : RollbackEvent) (service : Option Service) (sent : List String)
  | closed

/-- A row that a running job may save over the one it holds: the same rollback, either
still in progress or completed. -/
structure RollbackEvent.Updates (event row : RollbackEvent) : Prop where
  id : row.id = event.id
  serviceId : row.serviceId = event.serviceId
  fromSnapshotId : row.fromSnapshotId = event.fromSnapshotId
  toSnapshotId : row.toSnapshotId = event.toSnapshotId
  status : row.status = .inProgress ∧ row.completedAt = event.completedAt ∨
    row.status.isActive = false ∧ row.completedAt.isSome

/-- The commands sent so far and the next one begin the sequence of some rollback. -/
def Sequence (sent : List String) : Prop :=
  ∃ service config imageTag, sent <+: rollbackCommands service config imageTag

def RunningAllows (event : RollbackEvent) (service : Option Service)
    (sent : List String) : Call → Prop
  | .query (.insertEvent _) | .query (.insertService _) => False
  | .query (.removeHost _) => False
  | .query (.saveEvent row) => event.Updates row
  | .query (.saveService row) => ∃ loaded ∈ service,
      row.id = loaded.id ∧ row.orgId = loaded.orgId ∧ row.hostId = loaded.hostId
  | .execCommand _ command => Sequence (sent ++ [command])
  | .addJob _ | .takeJob => False
  | _ => True

def Phase.Allows : Phase → Call → Prop
  | .begun request, .query (.findServiceForOrg orgId id) =>
      orgId = request.orgId ∧ id = request.serviceId
  | .owned request service, .query (.findSnapshotOfService serviceId id) =>
      serviceId = service.id ∧ id = request.targetSnapshotId
  | .targeted _ service _, .query (.findCurrentSnapshot serviceId) =>
      serviceId = service.id
  | .based service _, .query (.findActiveEvent serviceId) => serviceId = service.id
  | .based _ event, .query (.insertEvent row) => row = event
  | .inserted event, .addJob id => id = event.id
  | .waiting, .takeJob => True
  | .taken rollbackEventId, .query (.findEvent id) => id = rollbackEventId
  | .loaded event, .query (.saveEvent row) =>
      row = { event with status := .inProgress }
  | .running event service sent, call => RunningAllows event service sent call
  | .closed, call => call.OfAlerts
  | _, _ => False

def runningNext (event : RollbackEvent) (service : Option Service)
    (sent : List String) : (call : Call) → Except JsError call.Reply → Phase
  | .query (.findService _), .ok (some found) => .running event (some found) sent
  | .query (.saveEvent row), .ok _ =>
      if row.status.isActive then .running row service sent else .closed
  | .query (.saveEvent _), .error _ => .closed
  | .execCommand _ command, _ => .running event service (sent ++ [command])
  | _, _ => .running event service sent

/-- Where an answer leads; a request or job that an answer ends is closed. -/
def Phase.next : Phase → (call : Call) → Except JsError call.Reply → Phase
  | .begun request, .query (.findServiceForOrg _ _), .ok (some service) =>
      .owned request service
  | .owned request service, .query (.findSnapshotOfService _ _), .ok (some target) =>
      .targeted request service target
  | .targeted request service target, .query (.findCurrentSnapshot _),
      .ok (some current) =>
      .based service (requestedEvent service current.id target.id
        request.triggeredByUserId)
  | .based service event, .query (.findActiveEvent _), .ok none => .based service event
  | .based _ _, .query (.insertEvent _), .ok row => .inserted row
  | .waiting, .takeJob, .ok rollbackEventId => .taken rollbackEventId
  | .taken _, .query (.findEvent _), .ok (some event) => .loaded event
  | .loaded _, .query (.saveEvent row), .ok _ => .running row none []
  | .running event service sent, call, reply =>
      runningNext event service sent call reply
  | _, _, _ => .closed

def rollbackProtocol : Protocol Calls JsError Phase where
  Allows := Phase.Allows
  Moves phase call reply after := after = phase.next call reply

/-! ### Rules -/

section Rules

variable {α : Type} {phase : Phase} {post : Except JsError α → Phase → Prop}

/-- One call: it is allowed, and what follows each answer follows on. -/
theorem follows_request {call : Call} {rest : call.Reply → Job α} :
    ((request call).bind rest).Follows rollbackProtocol post phase ↔
      phase.Allows call ∧
        (∀ value, (rest value).Follows rollbackProtocol post
          (phase.next call (.ok value))) ∧
        ∀ error, post (.error error) (phase.next call (.error error)) := by
  change (phase.Allows call ∧ ∀ (reply : Except JsError call.Reply) after,
    after = phase.next call reply →
      ((Program.ofExcept reply).bind rest).Follows rollbackProtocol post after) ↔ _
  refine and_congr_right fun _ => ⟨fun holds => ⟨fun value => ?_, fun error => ?_⟩, ?_⟩
  · exact holds (.ok value) _ rfl
  · exact holds (.error error) _ rfl
  · rintro ⟨returns, fails⟩ (error | value) after rfl
    · exact fails error
    · exact returns value

/-- The same for a query. -/
theorem follows_query {q : Query} {rest : q.Reply → Job α} :
    ((query q).bind rest).Follows rollbackProtocol post phase ↔
      phase.Allows (.query q) ∧
        (∀ value, (rest value).Follows rollbackProtocol post
          (phase.next (.query q) (.ok value))) ∧
        ∀ error, post (.error error) (phase.next (.query q) (.error error)) :=
  follows_request

end Rules

/-- Evaluating alerts keeps a closed job closed. -/
theorem evaluateTransition_follows {post : Except JsError Unit → Phase → Prop}
    (platform : Platform) (input : EvaluateTransitionInput)
    (ends : ∀ outcome, post outcome .closed) :
    (evaluateTransition platform input).Follows rollbackProtocol post .closed := by
  refine (evaluateTransition_only platform input).follows (fun call allowed => allowed)
    (fun call reply after allowed moves => ?_) (Program.ends_of_all ends)
  rw [show after = Phase.next .closed call reply from moves]
  rfl

/-! ### Requests -/

/-- The insert and the job it adds close the request. -/
theorem insertAndEnqueue_follows (service : Service) (event : RollbackEvent) :
    (insertAndEnqueue event).Follows rollbackProtocol (fun _ phase => phase = .closed)
      (.based service event) := by
  refine follows_query.mpr ⟨rfl, fun row => ?_, fun error => rfl⟩
  exact follows_request.mpr ⟨rfl, fun _ => rfl, fun error => rfl⟩

/-- A request follows the protocol from its beginning. -/
theorem enqueueRollback_follows (request : RollbackRequest) :
    (enqueueRollback request.orgId request.serviceId request.targetSnapshotId
      request.triggeredByUserId).Follows rollbackProtocol
      (fun _ phase => phase = .closed) (.begun request) := by
  refine (Program.follows_bind _ _ _ _ _).mpr
    (follows_query.mpr ⟨⟨rfl, rfl⟩, fun found => ?_, fun error => rfl⟩)
  cases found with
  | none => rfl
  | some service =>
  refine (Program.follows_bind _ _ _ _ _).mpr
    (follows_query.mpr ⟨⟨rfl, rfl⟩, fun found => ?_, fun error => rfl⟩)
  cases found with
  | none => rfl
  | some target =>
  refine follows_query.mpr ⟨rfl, fun found => ?_, fun error => rfl⟩
  cases found with
  | none => rfl
  | some current =>
  refine follows_query.mpr ⟨rfl, fun found => ?_, fun error => rfl⟩
  cases found with
  | some active => rfl
  | none =>
      refine (Program.follows_tryCatch _ _ _ _ _).mpr
        ((insertAndEnqueue_follows service _).mono fun outcome after closed => ?_)
      cases outcome with
      | ok event => exact closed
      | error error =>
          dsimp only
          split
          · exact closed
          · exact closed

/-! ### Jobs -/

section Jobs

variable {α : Type} {post : Except JsError α → Phase → Prop} {platform : Platform}
  {event : RollbackEvent} {service : Option Service} {sent : List String}

/-- A computation may end the program wherever it is. -/
theorem follows_ofExcept_bind {β : Type} {outcome : Except JsError β}
    {rest : β → Job α} {phase : Phase}
    (returns : ∀ value, outcome = .ok value →
      (rest value).Follows rollbackProtocol post phase)
    (fails : ∀ error, post (.error error) phase) :
    ((Program.ofExcept outcome).bind rest).Follows rollbackProtocol post phase := by
  cases outcome with
  | ok value => exact returns value rfl
  | error error => exact fails error

/-- A call that a running job may always make, and that tells it nothing. -/
theorem follows_idle {call : Call} {rest : call.Reply → Job α}
    (allowed : RunningAllows event service sent call)
    (idle : ∀ reply, runningNext event service sent call reply =
      .running event service sent)
    (returns : ∀ value, (rest value).Follows rollbackProtocol post
      (.running event service sent))
    (fails : ∀ error, post (.error error) (.running event service sent)) :
    ((request call).bind rest).Follows rollbackProtocol post
      (.running event service sent) := by
  have next : ∀ reply : Except JsError call.Reply,
      (Phase.running event service sent).next call reply =
        .running event service sent := idle
  refine follows_request.mpr ⟨allowed, fun value => ?_, fun error => ?_⟩
  · rw [next]
    exact returns value
  · rw [next]
    exact fails error

theorem follows_now {rest : Date → Job α}
    (returns : ∀ date, (rest date).Follows rollbackProtocol post
      (.running event service sent))
    (fails : ∀ error, post (.error error) (.running event service sent)) :
    (now.bind rest).Follows rollbackProtocol post (.running event service sent) :=
  follows_idle trivial (fun _ => rfl) returns fails

/-- One more log entry keeps the job running with the event it has saved. -/
theorem follows_appendLog {rest : RollbackEvent → Job α} (entry : RollbackLogEntry)
    (inProgress : event.status = .inProgress)
    (returns : ∀ logged : RollbackEvent, logged.status = .inProgress →
      (rest logged).Follows rollbackProtocol post (.running logged service sent))
    (fails : ∀ error phase, post (.error error) phase) :
    ((appendLog event entry).bind rest).Follows rollbackProtocol post
      (.running event service sent) := by
  refine (Program.follows_bind _ _ _ _ _).mpr (follows_query.mpr ⟨?_, ?_, ?_⟩)
  · exact ⟨rfl, rfl, rfl, rfl, .inl ⟨inProgress, rfl⟩⟩
  · intro saved
    have next := returns { event with logOutput := event.logOutput ++ [entry] } inProgress
    simpa [Phase.next, runningNext, inProgress, RollbackEventStatus.isActive] using next
  · exact fun error => fails error _

/-- An entry of the job's own is logged within the protocol. -/
theorem follows_message {rest : RollbackEvent → Job α} (step message : String)
    (inProgress : event.status = .inProgress)
    (returns : ∀ logged : RollbackEvent, logged.status = .inProgress →
      (rest logged).Follows rollbackProtocol post (.running logged service sent))
    (fails : ∀ error phase, post (.error error) phase) :
    ((messageEntry step message).bind fun entry =>
      (appendLog event entry).bind rest).Follows rollbackProtocol post
      (.running event service sent) :=
  (Program.follows_bind _ _ _ _ _).mpr
    (follows_now (fun _ => follows_appendLog _ inProgress returns fails)
      fun error => fails error _)

/-- So is the result of a command. -/
theorem follows_result {rest : RollbackEvent → Job α} (step : String)
    (result : SshCommandResult) (inProgress : event.status = .inProgress)
    (returns : ∀ logged : RollbackEvent, logged.status = .inProgress →
      (rest logged).Follows rollbackProtocol post (.running logged service sent))
    (fails : ∀ error phase, post (.error error) phase) :
    ((toLogEntry step result).bind fun entry =>
      (appendLog event entry).bind rest).Follows rollbackProtocol post
      (.running event service sent) :=
  (Program.follows_bind _ _ _ _ _).mpr
    (follows_now (fun _ => follows_appendLog _ inProgress returns fails)
      fun error => fails error _)

/-- The last save closes the job. -/
theorem complete_follows {status : RollbackEventStatus}
    (completed : status.isActive = false) :
    (complete event status).Follows rollbackProtocol
      (fun outcome phase => outcome = .ok () → phase = .closed)
      (.running event service sent) := by
  refine follows_now (fun date => ?_) fun error absent => nomatch absent
  refine follows_query.mpr ⟨⟨rfl, rfl, rfl, rfl, .inr ⟨completed, rfl⟩⟩, ?_, ?_⟩
  · rintro saved -
    simp [Phase.next, runningNext, completed]
  · exact fun error absent => nomatch absent

end Jobs

section Processor

variable {platform : Platform} {event : RollbackEvent} {sent : List String}

/-- A failure is logged and saved within the protocol. -/
theorem fail_follows {service : Option Service} (inProgress : event.status = .inProgress)
    (reason : String) (orgId : Option Nat) :
    (fail platform event reason orgId).Follows rollbackProtocol (fun _ _ => True)
      (.running event service sent) := by
  refine follows_message _ _ inProgress (fun logged inProgress => ?_)
    fun error phase => trivial
  refine (Program.follows_bind _ _ _ _ _).mpr
    ((complete_follows rfl).mono fun outcome phase closed => ?_)
  cases outcome with
  | error error => trivial
  | ok value =>
      rw [closed rfl]
      cases orgId with
      | none => trivial
      | some orgId => exact evaluateTransition_follows _ _ fun outcome => trivial

/-- A success is saved within the protocol. -/
theorem succeed_follows (service : Service) (newContainerId : Json)
    (targetSnapshot : DeploymentSnapshot) (newStatus : ServiceStatus) :
    (succeed platform event service newContainerId targetSnapshot newStatus).Follows
      rollbackProtocol (fun _ _ => True) (.running event (some service) sent) := by
  refine follows_now (fun checkedAt => ?_) fun error => trivial
  refine follows_idle ⟨service, rfl, rfl, rfl, rfl⟩ (fun _ => rfl) (fun saved => ?_)
    fun error => trivial
  refine follows_ofExcept_bind (fun config _ => ?_) fun error => trivial
  refine follows_now (fun deployedAt => ?_) fun error => trivial
  unfold createSnapshot encrypt
  simp only [Program.bind_eq, Program.bind_assoc]
  refine follows_idle trivial (fun _ => rfl) (fun iv => ?_) fun error => trivial
  refine follows_idle trivial (fun _ => rfl) (fun snapshot => ?_) fun error => trivial
  refine follows_idle trivial (fun _ => rfl) (fun log => ?_) fun error => trivial
  exact (complete_follows rfl).mono fun outcome phase _ => trivial

/-- The check of the new container ends in either. -/
theorem checkRecreated_follows (inProgress : event.status = .inProgress)
    (service : Service) (targetSnapshot : DeploymentSnapshot) (containerName : String)
    (psResult : SshCommandResult) :
    (checkRecreated platform event service targetSnapshot containerName psResult).Follows
      rollbackProtocol (fun _ _ => True) (.running event (some service) sent) := by
  refine follows_ofExcept_bind (fun listing _ => ?_) fun error => trivial
  refine follows_ofExcept_bind (fun newStatus _ => ?_) fun error => trivial
  refine follows_message _ _ inProgress (fun logged inProgress => ?_)
    fun error phase => trivial
  split
  · exact succeed_follows _ _ _ _
  · exact fail_follows inProgress _ _

/-- So do the four results. -/
theorem settle_follows (inProgress : event.status = .inProgress) (service : Service)
    (targetSnapshot : DeploymentSnapshot) (containerName : String)
    (results : List SshCommandResult) :
    (settle platform event service targetSnapshot containerName results).Follows
      rollbackProtocol (fun _ _ => True) (.running event (some service) sent) := by
  unfold settle
  split
  · refine follows_result _ _ inProgress (fun stopped inProgress => ?_)
      fun error phase => trivial
    refine follows_result _ _ inProgress (fun removed inProgress => ?_)
      fun error phase => trivial
    refine follows_result _ _ inProgress (fun started inProgress => ?_)
      fun error phase => trivial
    refine follows_result _ _ inProgress (fun listed inProgress => ?_)
      fun error phase => trivial
    split
    · exact fail_follows inProgress _ _
    · exact checkRecreated_follows inProgress _ _ _ _
  · trivial

/-- While the session lasts, the job stays running with the event it had. -/
def InSession (event : RollbackEvent) (service : Option Service) (phase : Phase) : Prop :=
  ∃ sent, phase = .running event service sent

/-- The commands left to send complete a sequence with those already sent. -/
theorem execCommands_follows {service : Option Service} (options : SshConnectionOptions)
    {commands : List String} (sequence : Sequence (sent ++ commands)) :
    (execCommands options commands).Follows rollbackProtocol
      (fun _ => InSession event service) (.running event service sent) := by
  induction commands generalizing sent with
  | nil => exact ⟨sent, rfl⟩
  | cons command commands inductionHypothesis =>
      have next : Sequence (sent ++ [command] ++ commands) := by simpa using sequence
      obtain ⟨owner, config, imageTag, begins⟩ := next
      refine follows_request.mpr ⟨?_, fun reply => ?_, fun error => ⟨_, rfl⟩⟩
      · exact ⟨owner, config, imageTag, (List.prefix_append _ _).trans begins⟩
      · refine (Program.follows_bind _ _ _ _ _).mpr
          ((inductionHypothesis ⟨owner, config, imageTag, begins⟩).mono
            fun outcome phase inSession => ?_)
        cases outcome <;> exact inSession

/-- A session sends its commands one after another. -/
theorem session_follows (inProgress : event.status = .inProgress) (service : Service)
    (host : Host) (targetSnapshot : DeploymentSnapshot) (privateKey : String)
    (config : Json) :
    (session platform event service host targetSnapshot privateKey config).Follows
      rollbackProtocol
      (fun outcome phase => ∀ result, outcome = .ok (some result) →
        InSession event (some service) phase) (.running event (some service) []) := by
  have stays : InSession event (some service) (.running event (some service) []) :=
    ⟨[], rfl⟩
  refine (Program.follows_tryCatch _ _ _ _ _).mpr (Program.Follows.mono
    (?_ : Program.Follows rollbackProtocol _ (fun _ => InSession event (some service)) _)
    fun outcome phase inSession => ?_)
  · refine follows_ofExcept_bind (fun blob _ => ?_) fun error => stays
    refine (Program.follows_bind _ _ _ _ _).mpr ?_
    refine follows_idle trivial (fun _ => rfl) (fun connected => ?_) fun error => stays
    refine (execCommands_follows _ ⟨service, blob, targetSnapshot.imageTag,
      List.prefix_refl _⟩).mono fun outcome phase inSession => ?_
    cases outcome <;> exact inSession
  · cases outcome with
    | ok result => exact fun _ _ => inSession
    | error error =>
        obtain ⟨sent, rfl⟩ := inSession
        refine (Program.follows_bind _ _ _ _ _).mpr
          ((fail_follows inProgress _ _).mono fun outcome phase _ => ?_)
        cases outcome with
        | ok value => exact fun _ absent => nomatch absent
        | error error => exact fun _ absent => nomatch absent

/-- A session and what becomes of it. -/
theorem execute_follows (inProgress : event.status = .inProgress) (service : Service)
    (host : Host) (targetSnapshot : DeploymentSnapshot) (privateKey : String) :
    (execute platform event service host targetSnapshot privateKey).Follows
      rollbackProtocol (fun _ _ => True) (.running event (some service) []) := by
  refine follows_ofExcept_bind (fun config _ => ?_) fun error => trivial
  refine (Program.follows_bind _ _ _ _ _).mpr
    ((session_follows inProgress _ _ _ _ _).mono fun outcome phase ends => ?_)
  cases outcome with
  | error error => trivial
  | ok result =>
      cases result with
      | none => trivial
      | some result =>
          obtain ⟨sent, rfl⟩ := ends result rfl
          exact settle_follows inProgress _ _ _ _

/-- A job follows the protocol once its event is in progress. -/
theorem processEvent_follows (inProgress : event.status = .inProgress) :
    (processEvent platform event).Follows rollbackProtocol (fun _ _ => True)
      (.running event none []) := by
  refine follows_query.mpr ⟨trivial, fun found => ?_, fun error => trivial⟩
  cases found with
  | none => exact fail_follows inProgress _ _
  | some service =>
  refine follows_idle trivial (fun _ => rfl) (fun found => ?_) fun error => trivial
  cases found with
  | none => exact fail_follows inProgress _ _
  | some host =>
  refine follows_idle trivial (fun _ => rfl) (fun found => ?_) fun error => trivial
  cases found with
  | none => exact fail_follows inProgress _ _
  | some targetSnapshot =>
  dsimp only
  split
  · exact fail_follows inProgress _ _
  · exact execute_follows inProgress _ _ _ _

end Processor

/-- A delivered job makes its calls in order, whatever they are answered. -/
theorem process_follows (platform : Platform) (rollbackEventId : Nat) :
    (process platform rollbackEventId).Follows rollbackProtocol (fun _ _ => True)
      (.taken rollbackEventId) := by
  refine follows_query.mpr ⟨rfl, fun found => ?_, fun error => trivial⟩
  cases found with
  | none => trivial
  | some event =>
  exact follows_query.mpr ⟨rfl, fun saved => processEvent_follows rfl,
    fun error => trivial⟩

end ServersManager
