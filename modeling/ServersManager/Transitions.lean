/-
Module: ServersManager.Transitions
Purpose: Checks and syncs that fail at any call: every persisted change into a status
  that can be alerted on has been evaluated, unless the log write of a service fails
  right after it.
Trusted boundary: none
Main exports:
  StatusChange, StatusJob, StatusJob.noticed_attend, Persisted, persistedAnswers,
  LogFollows, StatusRuns, transitions_evaluated, failed_log_loses_transition
-/
import ServersManager.DomainCheck
import ServersManager.SyncMirror

namespace ServersManager

open Library

/-! ### Jobs that give notice of their evaluations -/

section Noticed

variable (platform : Platform)

def noticedUpsertService (host : Host) (container : DockerPsContainer)
    (checkedAt : Date) : NoticedJob EvaluateTransitionInput Unit := do
  let (image, tag) ← Program.ofExcept (splitImageAndTagValue container.image)
  let status ← Program.ofExcept (classifyContainerStatus container.status)
  let found ← (query (.findServiceByContainer host.id
    (platform.columnText container.id))).lift
  let previousStatus := (found.map Service.status).getD .unknown
  let saved ← (saveUpserted found
    (upsertRow platform host container image tag status checkedAt found)).lift
  let _ ← (writeHealthCheckLog .service saved.id status.text
    (.obj [("container_id", container.id), ("names", container.names),
      ("image", container.image), ("status", container.status),
      ("ports", container.ports)])).lift
  Program.notify
    { orgId := host.orgId
      entityType := .service
      entityId := saved.id
      previousStatus := previousStatus.text
      newStatus := saved.status.text }
  (captureSnapshotIfImageChanged platform host saved container).lift

def noticedUpsertServices (host : Host) (checkedAt : Date) :
    List DockerPsContainer → NoticedJob EvaluateTransitionInput Unit
  | [] => return ()
  | container :: containers => do
      noticedUpsertService platform host container checkedAt
      noticedUpsertServices host checkedAt containers

def noticedSync (host : Host) (dockerPsResult : SshCommandResult) :
    NoticedJob EvaluateTransitionInput Unit := do
  if isDockerMissing dockerPsResult then
    return ()
  let listing ← Program.ofExcept (parseDockerPsOutput dockerPsResult.stdout)
  let checkedAt ← now.lift
  noticedUpsertServices platform host checkedAt listing.containers
  (markMissingServicesUnknown host (listing.containers.map DockerPsContainer.id)
    checkedAt).lift

def noticedSyncResults (host : Host) (sshResults : Option (List SshCommandResult)) :
    NoticedJob EvaluateTransitionInput Unit :=
  match sshResults with
  | none => return ()
  | some (_ :: dockerPsResult :: _) => noticedSync platform host dockerPsResult
  | some _ => (syncResults platform host sshResults).lift

def noticedCheckHost (hostId : Nat) : NoticedJob EvaluateTransitionInput Unit := do
  match ← (query (.findHost hostId)).lift with
  | none => return ()
  | some host =>
      let (outcome, sshResults) ← (runCheck platform host).lift
      let _ ← (writeHealthCheckLog .host host.id outcome.status.text
        outcome.rawOutput).lift
      let checked := checkedHost host outcome.status (← now.lift)
      let _ ← (query (.saveHost checked)).lift
      Program.notify
        { orgId := checked.orgId
          entityType := .host
          entityId := checked.id
          previousStatus := host.status.text
          newStatus := checked.status.text }
      noticedSyncResults platform checked sshResults

def noticedCheckTls (domain : Domain) (resolvedIp : String) :
    NoticedJob EvaluateTransitionInput Unit := do
  let tlsResult ← (performTlsCheck platform resolvedIp domain.hostname).lift
  let _ ← (writeHealthCheckLog .sslCertificate domain.id tlsResult.status.text
    tlsResult.rawOutput).lift
  match ← (query (.findCertificate domain.id)).lift with
  | none => return ()
  | some cert =>
      let lastCheckedAt ← now.lift
      let validFrom ← Program.ofExcept (dateColumn tlsResult.validFrom)
      let validTo ← Program.ofExcept (dateColumn tlsResult.validTo)
      let _ ← (query (.saveCertificate
        { cert with
          status := tlsResult.status
          issuer := tlsResult.issuer.map platform.columnText
          validFrom := validFrom
          validTo := validTo
          lastCheckedAt := some lastCheckedAt })).lift
      Program.notify
        { orgId := domain.orgId
          entityType := .sslCertificate
          entityId := domain.id
          previousStatus := cert.status.text
          newStatus := tlsResult.status.text }

/-- With its notices attended to, it is the code's own upsert. -/
theorem noticedUpsertService_attend (host : Host) (container : DockerPsContainer)
    (checkedAt : Date) :
    (noticedUpsertService platform host container checkedAt).attend
        (evaluateTransition platform) =
      upsertService platform host container checkedAt := by
  simp only [noticedUpsertService, upsertService, Program.bind_eq, Program.attend_bind,
    Program.attend_ofExcept, Program.attend_lift, Program.attend_notify]

/-- The loop over a listing, by induction on it. -/
theorem noticedUpsertServices_attend (host : Host) (checkedAt : Date)
    (containers : List DockerPsContainer) :
    (noticedUpsertServices platform host checkedAt containers).attend
        (evaluateTransition platform) =
      upsertServices platform host checkedAt containers := by
  induction containers with
  | nil => rfl
  | cons container containers inductionHypothesis =>
      simp only [noticedUpsertServices, upsertServices, Program.bind_eq,
        Program.attend_bind, noticedUpsertService_attend, inductionHypothesis]

/-- A sync, with its evaluations as notices. -/
theorem noticedSync_attend (host : Host) (dockerPsResult : SshCommandResult) :
    (noticedSync platform host dockerPsResult).attend (evaluateTransition platform) =
      sync platform host dockerPsResult := by
  unfold noticedSync sync
  split
  · rfl
  · simp only [Program.bind_eq, Program.attend_bind, Program.attend_ofExcept,
      Program.attend_lift, noticedUpsertServices_attend]

/-- What a check hands on to the sync. -/
theorem noticedSyncResults_attend (host : Host)
    (sshResults : Option (List SshCommandResult)) :
    (noticedSyncResults platform host sshResults).attend (evaluateTransition platform) =
      syncResults platform host sshResults := by
  unfold noticedSyncResults
  split
  · rfl
  · apply noticedSync_attend
  · apply Program.attend_lift

/-- A health check, with its evaluations as notices. -/
theorem noticedCheckHost_attend (hostId : Nat) :
    (noticedCheckHost platform hostId).attend (evaluateTransition platform) =
      checkHost platform hostId := by
  simp only [noticedCheckHost, checkHost, Program.bind_eq, Program.attend_bind,
    Program.attend_lift]
  congr 1
  funext found
  cases found with
  | none => rfl
  | some host =>
      simp only [Program.attend_bind, Program.attend_lift, Program.attend_notify,
        noticedSyncResults_attend]

/-- The check of a certificate, with its evaluation as a notice. -/
theorem noticedCheckTls_attend (domain : Domain) (resolvedIp : String) :
    (noticedCheckTls platform domain resolvedIp).attend (evaluateTransition platform) =
      checkTls platform domain resolvedIp := by
  simp only [noticedCheckTls, checkTls, Program.bind_eq, Program.attend_bind,
    Program.attend_lift]
  congr 1
  funext tlsResult
  congr 1
  funext log
  congr 1
  funext found
  cases found with
  | none => rfl
  | some cert =>
      simp only [Program.attend_bind, Program.attend_ofExcept, Program.attend_lift,
        Program.attend_notify]

end Noticed

/-! ### Status changes -/

/-- A status of a host, a certificate (under its domain's id) or a service before and
after a save. -/
structure StatusChange where
  entityType : AlertEntityType
  entityId : Nat
  previousStatus : String
  newStatus : String
deriving Repr, Inhabited, DecidableEq

/-- `ALERT_CONDITIONS`. -/
def alertConditions : List String :=
  ["host_status_transitioned_to:unreachable",
    "host_status_transitioned_to:degraded",
    "ssl_status_transitioned_to:expiring_soon",
    "ssl_status_transitioned_to:expired",
    "service_status_transitioned_to:crash_loop",
    "service_status_transitioned_to:unhealthy",
    "rollback_event:failed",
    "system:idle_host_detected",
    "system:orphan_detected"]

/-- The status has changed, and to one that a rule can be about. -/
def StatusChange.alertable (change : StatusChange) : Bool :=
  change.previousStatus != change.newStatus &&
    (buildTransitionCondition change.entityType change.newStatus).any
      alertConditions.contains

/-- The change an evaluation is about. -/
def EvaluateTransitionInput.change (input : EvaluateTransitionInput) : StatusChange :=
  { entityType := input.entityType
    entityId := input.entityId
    previousStatus := input.previousStatus
    newStatus := input.newStatus }

/-- What a save that succeeds makes of a status; a row that was not there had none. -/
def statusChange (db : Database) :
    (call : Call) → Except JsError call.Reply → Option StatusChange
  | .query (.saveHost row), .ok _ =>
      some
        { entityType := .host
          entityId := row.id
          previousStatus := ((db.hosts.byId row.id).map Host.status |>.getD .unknown).text
          newStatus := row.status.text }
  | .query (.saveCertificate row), .ok _ =>
      some
        { entityType := .sslCertificate
          entityId := row.domainId
          previousStatus :=
            ((db.certificates.byId row.id).map SSLCertificate.status |>.getD .unknown).text
          newStatus := row.status.text }
  | .query (.insertService _), .ok saved =>
      some
        { entityType := .service
          entityId := saved.id
          previousStatus := ServiceStatus.unknown.text
          newStatus := saved.status.text }
  | .query (.saveService row), .ok _ =>
      some
        { entityType := .service
          entityId := row.id
          previousStatus :=
            ((db.services.byId row.id).map Service.status |>.getD .unknown).text
          newStatus := row.status.text }
  | _, _ => none

def alertableChange (db : Database) (call : Call) (reply : Except JsError call.Reply) :
    Option StatusChange :=
  (statusChange db call reply).filter StatusChange.alertable

/-- The database, every change so far into a status that can be alerted on, and the
one that the last call made. -/
structure Persisted where
  database : Database
  changed : List StatusChange
  last : Option StatusChange

/-- Any call may fail. -/
def persistedAnswers : Semantics Calls JsError Persisted :=
  fun (call : Call) before reply after =>
    Answered (fun _ => True) before.database call reply after.database ∧
      after.last = alertableChange before.database call reply ∧
      after.changed = before.changed ++ after.last.toList

/-- The log is written where a status has just been saved that can be alerted on. -/
def LogFollows (before : Persisted) :
    (call : Call) → Except JsError call.Reply → Prop
  | .query (.writeHealthCheckLog _), .error _ => before.last = none
  | _, _ => True

/-- Any call may fail but the writes of the log that `LogFollows` is about. -/
def loggedAnswers : Semantics Calls JsError Persisted :=
  fun (call : Call) before reply after =>
    persistedAnswers call before reply after ∧ LogFollows before call reply

/-! ### Sequences of jobs -/

inductive StatusJob where
  | checkHost (hostId : Nat)
  | checkTls (domain : Domain) (resolvedIp : String)
  | sync (host : Host) (dockerPsResult : SshCommandResult)

def StatusJob.job (platform : Platform) : StatusJob → Job Unit
  | .checkHost hostId => ServersManager.checkHost platform hostId
  | .checkTls domain resolvedIp => ServersManager.checkTls platform domain resolvedIp
  | .sync host dockerPsResult => ServersManager.sync platform host dockerPsResult

def StatusJob.noticed (platform : Platform) :
    StatusJob → NoticedJob EvaluateTransitionInput Unit
  | .checkHost hostId => noticedCheckHost platform hostId
  | .checkTls domain resolvedIp => noticedCheckTls platform domain resolvedIp
  | .sync host dockerPsResult => noticedSync platform host dockerPsResult

/-- Every job is its noticed form with the evaluations put in for the notices. -/
theorem StatusJob.noticed_attend (platform : Platform) (statusJob : StatusJob) :
    (statusJob.noticed platform).attend (evaluateTransition platform) =
      statusJob.job platform := by
  cases statusJob with
  | checkHost hostId => apply noticedCheckHost_attend
  | checkTls domain resolvedIp => apply noticedCheckTls_attend
  | sync host dockerPsResult => apply noticedSync_attend

/-- One job has run to its end, each of its evaluations being recorded. -/
def StatusRun (platform : Platform) (sem : Semantics Calls JsError Persisted)
    (before after : Persisted × List EvaluateTransitionInput) : Prop :=
  ∃ (statusJob : StatusJob) (outcome : Except JsError Unit),
    Program.Steps (sem.noting (evaluateTransition platform))
      (statusJob.noticed platform, before) (.ofExcept outcome, after)

/-- Any number of jobs, one after another. -/
abbrev StatusRuns (platform : Platform) (sem : Semantics Calls JsError Persisted) :
    Persisted × List EvaluateTransitionInput →
      Persisted × List EvaluateTransitionInput → Prop :=
  Relation.ReflTransGen (StatusRun platform sem)

/-- Whatever a job does is such a run. -/
theorem StatusJob.recorded {platform : Platform} {sem : Semantics Calls JsError Persisted}
    (statusJob : StatusJob) {before after : Persisted} {outcome : Except JsError Unit}
    (steps : Program.Steps sem (statusJob.job platform, before)
      (.ofExcept outcome, after)) (evaluated : List EvaluateTransitionInput) :
    ∃ evaluatedAfter,
      StatusRun platform sem (before, evaluated) (after, evaluatedAfter) := by
  rw [← statusJob.noticed_attend] at steps
  obtain ⟨evaluatedAfter, noted⟩ := Program.steps_attend _ steps evaluated
  exact ⟨evaluatedAfter, statusJob, outcome, noted⟩

/-! ### What is persisted is evaluated -/

/-- The calls that change no status. -/
def Call.Silent : Call → Prop
  | .query q =>
      q.writesHosts = false ∧ q.writesCertificates = false ∧ q.writesServices = false
  | _ => True

/-- Evaluating alerts changes no status. -/
theorem Call.OfAlerts.silent {call : Call} (ofAlerts : call.OfAlerts) : call.Silent := by
  cases call with
  | query q => cases q <;> first | exact ⟨rfl, rfl, rfl⟩ | cases ofAlerts
  | _ => trivial

/-- Taking a snapshot changes no status. -/
theorem Call.OfCapture.silent {call : Call} (ofCapture : call.OfCapture) :
    call.Silent := by
  cases call with
  | query q => cases q <;> first | exact ⟨rfl, rfl, rfl⟩ | cases ofCapture
  | _ => trivial

/-- A session with a host changes no status. -/
theorem Call.OfSession.silent {call : Call} (ofSession : call.OfSession) :
    call.Silent := by
  cases call with
  | query q => cases ofSession
  | _ => trivial

/-- A handshake changes no status. -/
theorem Call.OfHandshake.silent {call : Call} (ofHandshake : call.OfHandshake) :
    call.Silent := by
  cases call with
  | query q => cases ofHandshake
  | _ => trivial

/-- No status has changed. -/
structure Undisturbed (before after : Persisted) : Prop where
  changed : after.changed = before.changed
  hosts : after.database.hosts = before.database.hosts
  certificates : after.database.certificates = before.database.certificates
  services : after.database.services = before.database.services

theorem Undisturbed.refl (state : Persisted) : Undisturbed state state :=
  ⟨rfl, rfl, rfl, rfl⟩

/-- What two stretches of a run leave alone is left alone by both. -/
theorem Undisturbed.trans {first second third : Persisted}
    (before : Undisturbed first second) (after : Undisturbed second third) :
    Undisturbed first third :=
  ⟨after.changed.trans before.changed, after.hosts.trans before.hosts,
    after.certificates.trans before.certificates, after.services.trans before.services⟩

/-- A silent call is no change of status. -/
theorem Call.Silent.statusChange {call : Call} (silent : call.Silent) (db : Database)
    (reply : Except JsError call.Reply) :
    ServersManager.statusChange db call reply = none := by
  cases call with
  | query q =>
      cases q with
      | saveHost row => cases silent.1
      | saveCertificate row => cases silent.2.1
      | insertService row => cases silent.2.2
      | saveService row => cases silent.2.2
      | _ => rfl
  | _ => rfl

/-- A silent call leaves the statuses and the changes noted so far. -/
theorem Call.Silent.undisturbed {call : Call} (silent : call.Silent)
    {before after : Persisted} {reply : Except JsError call.Reply}
    (answered : loggedAnswers call before reply after) : Undisturbed before after := by
  obtain ⟨⟨performed, last, changed⟩, -⟩ := answered
  constructor
  · rw [changed, last, alertableChange, silent.statusChange]
    exact List.append_nil _
  · apply performed.field Database.hosts
    rintro q rfl
    exact Database.perform_hosts silent.1
  · apply performed.field Database.certificates
    rintro q rfl
    exact Database.perform_certificates silent.2.1
  · apply performed.field Database.services
    rintro q rfl
    exact Database.perform_services silent.2.2

/-- Beyond what had been persisted at first, exactly what has been evaluated has been. -/
def Balanced (base changed : List StatusChange)
    (evaluated : List EvaluateTransitionInput) : Prop :=
  changed = base ++
    (evaluated.map EvaluateTransitionInput.change).filter StatusChange.alertable

section Balance

variable {platform : Platform} {base : List StatusChange} {state : Persisted}
  {evaluated : List EvaluateTransitionInput} {α β : Type}

/-- Whatever happens, what is persisted has been evaluated in the end. -/
abbrev Balances (platform : Platform) (base : List StatusChange)
    (program : NoticedJob EvaluateTransitionInput α) (state : Persisted)
    (evaluated : List EvaluateTransitionInput) : Prop :=
  program.Ensures (loggedAnswers.noting (evaluateTransition platform))
    (fun _ after => Balanced base after.1.changed after.2) (state, evaluated)

/-- A computation that makes no call, and whatever comes after it. -/
theorem balances_ofExcept_bind {outcome : Except JsError α}
    {rest : α → NoticedJob EvaluateTransitionInput β}
    (balanced : Balanced base state.changed evaluated)
    (continues : ∀ value, Balances platform base (rest value) state evaluated) :
    Balances platform base ((Program.ofExcept outcome).bind rest) state evaluated := by
  cases outcome with
  | ok value => exact continues value
  | error error => exact balanced

/-- One program after another, where each leaves the changes evaluated. -/
theorem balances_bind {program : NoticedJob EvaluateTransitionInput α}
    {rest : α → NoticedJob EvaluateTransitionInput β}
    (balances : Balances platform base program state evaluated)
    (continues : ∀ value after evaluatedAfter, Balanced base after.changed evaluatedAfter →
      Balances platform base (rest value) after evaluatedAfter) :
    Balances platform base (program.bind rest) state evaluated := by
  apply (Program.follows_bind _ _ _ _ _).mpr
  apply Program.Follows.mono balances
  rintro outcome ⟨after, evaluatedAfter⟩ balanced
  cases outcome with
  | ok value => exact continues value after evaluatedAfter balanced
  | error error => exact balanced

/-- A part of a job that changes no status. -/
theorem lift_undisturbed {program : Job α} (only : program.Only Call.Silent)
    (state : Persisted) (evaluated : List EvaluateTransitionInput) :
    (program.lift : NoticedJob EvaluateTransitionInput α).Ensures
      (loggedAnswers.noting (evaluateTransition platform))
      (fun _ after => Undisturbed state after.1 ∧ after.2 = evaluated)
      (state, evaluated) := by
  apply Program.ensures_lift only (Undisturbed state)
  · intro before op reply after silent undisturbed answered
    exact undisturbed.trans (silent.undisturbed answered)
  · exact Undisturbed.refl state

/-- Changes that are evaluated stay evaluated while nothing is disturbed. -/
theorem Balanced.undisturbed {after : Persisted}
    (balanced : Balanced base state.changed evaluated)
    (undisturbed : Undisturbed state after) : Balanced base after.changed evaluated := by
  rw [undisturbed.changed]
  exact balanced

/-- A silent program changes nothing that would have to be evaluated. -/
theorem balances_silent {program : Job α} (only : program.Only Call.Silent)
    (balanced : Balanced base state.changed evaluated) :
    Balances platform base program.lift state evaluated := by
  apply Program.Follows.mono (lift_undisturbed only state evaluated)
  rintro outcome ⟨after, evaluatedAfter⟩ ⟨undisturbed, rfl⟩
  exact balanced.undisturbed undisturbed

/-- A silent program, and whatever comes after it. -/
theorem balances_silent_bind {program : Job α} (only : program.Only Call.Silent)
    {rest : α → NoticedJob EvaluateTransitionInput β}
    (balanced : Balanced base state.changed evaluated)
    (continues : ∀ value after, Undisturbed state after →
      Balances platform base (rest value) after evaluated) :
    Balances platform base (program.lift.bind rest) state evaluated := by
  apply (Program.follows_bind _ _ _ _ _).mpr
  apply Program.Follows.mono (lift_undisturbed only state evaluated)
  rintro outcome ⟨after, evaluatedAfter⟩ ⟨undisturbed, rfl⟩
  cases outcome with
  | ok value => exact continues value after undisturbed
  | error error => exact balanced.undisturbed undisturbed

/-- A query that writes nothing, and what it finds. -/
theorem balances_read_bind {q : Query} {found : q.Reply}
    (reads : state.database.perform q = (.ok found, state.database))
    (silent : Call.Silent (.query q))
    {rest : q.Reply → NoticedJob EvaluateTransitionInput β}
    (balanced : Balanced base state.changed evaluated)
    (continues : ∀ after, Undisturbed state after →
      Balances platform base (rest found) after evaluated) :
    Balances platform base ((query q).lift.bind rest) state evaluated := by
  apply Program.ensures_lift_bind
  · intro value after answered
    have undisturbed := silent.undisturbed answered
    obtain ⟨⟨⟨error, -, absent, -⟩ | ⟨same, -⟩, -⟩, -⟩ := answered
    · cases absent
    · rw [reads] at same
      cases same
      exact continues after undisturbed
  · intro error after answered
    exact balanced.undisturbed (silent.undisturbed answered)

/-- A save that succeeds leaves an evaluation owed, if its change can be alerted on. -/
theorem Balanced.saved {call : Call} {reply : Except JsError call.Reply}
    {after : Persisted} {input : EvaluateTransitionInput}
    (balanced : Balanced base state.changed evaluated)
    (changes : statusChange state.database call reply = some input.change)
    (answered : loggedAnswers call state reply after) :
    Balanced base after.changed (evaluated ++ [input]) ∧
      (after.last = none → Balanced base after.changed evaluated) := by
  obtain ⟨⟨-, last, changed⟩, -⟩ := answered
  rw [changed]
  constructor
  · rw [last, alertableChange, changes, balanced, Balanced, List.map_append,
      List.filter_append, List.append_assoc, Option.toList_filter]
    rfl
  · intro unowed
    rw [unowed]
    exact (List.append_nil _).trans balanced

/-- A call that fails has changed no status. -/
theorem Balanced.unsaved {call : Call} {error : JsError} {after : Persisted}
    (balanced : Balanced base state.changed evaluated)
    (answered : loggedAnswers call state (.error error) after) :
    Balanced base after.changed evaluated := by
  obtain ⟨⟨-, last, changed⟩, -⟩ := answered
  have unchanged : statusChange state.database call (.error error) = none := by
    cases call with
    | query q => cases q <;> rfl
    | _ => rfl
  have unowed : after.last = none := last.trans (congrArg (Option.filter _) unchanged)
  rw [changed, unowed]
  exact (List.append_nil _).trans balanced

/-- An evaluation that is owed is made. -/
theorem balances_notify {input : EvaluateTransitionInput}
    (owed : Balanced base state.changed (evaluated ++ [input])) :
    Balances platform base (Program.notify input) state evaluated := by
  have evaluates : (evaluateTransition platform input).Ensures loggedAnswers
      (fun outcome after => ∃ value, outcome = .ok value ∧ Undisturbed state after)
      state := by
    apply evaluateTransition_keeps platform input (Undisturbed state)
    · intro before call reply after undisturbed ofAlerts answered
      exact undisturbed.trans (ofAlerts.silent.undisturbed answered)
    · exact Undisturbed.refl state
  apply (Program.follows_perform _ _ _ _).mpr
  refine ⟨trivial, ?_⟩
  rintro reply ⟨after, evaluatedAfter⟩ ⟨steps, rfl⟩
  obtain ⟨-, -, undisturbed⟩ := evaluates.steps steps
  exact owed.undisturbed undisturbed

/-! ### The jobs -/

theorem now_silent : now.Only Call.Silent := by
  have silent : Call.Silent .now := trivial
  exact Program.only_perform silent

theorem writeHealthCheckLog_silent (entityType : HealthCheckEntityType) (entityId : Nat)
    (status : String) (rawOutput : Json) :
    (writeHealthCheckLog entityType entityId status rawOutput).Only Call.Silent :=
  Program.only_perform ⟨rfl, rfl, rfl⟩

/-- Taking a snapshot of a new image changes no status. -/
theorem captureSnapshotIfImageChanged_silent (host : Host) (service : Service)
    (container : DockerPsContainer) :
    (captureSnapshotIfImageChanged platform host service container).Only Call.Silent :=
  (captureSnapshotIfImageChanged_only _ _ _ _).mono fun _ => Call.OfCapture.silent

/-- Writing a log disturbs nothing. -/
theorem Undisturbed.logged {log : HealthCheckLog} {reply : Except JsError HealthCheckLog}
    {after : Persisted}
    (answered : loggedAnswers (Call.query (.writeHealthCheckLog log)) state reply after) :
    Undisturbed state after := by
  have silent : Call.Silent (.query (.writeHealthCheckLog log)) := ⟨rfl, rfl, rfl⟩
  exact silent.undisturbed answered

/-- What follows the save of a service: its log, and its evaluation. -/
theorem saved_balances {call : Call} {reply : Except JsError call.Reply}
    {after : Persisted} {log : HealthCheckLog} {input : EvaluateTransitionInput}
    {rest : NoticedJob EvaluateTransitionInput Unit}
    (balanced : Balanced base state.changed evaluated)
    (changes : statusChange state.database call reply = some input.change)
    (answered : loggedAnswers call state reply after)
    (continues : ∀ final evaluatedAfter, Balanced base final.changed evaluatedAfter →
      Balances platform base rest final evaluatedAfter) :
    Balances platform base
      ((query (.writeHealthCheckLog log)).lift.bind fun _ =>
        (Program.notify input).bind fun _ => rest) after evaluated := by
  obtain ⟨owed, unowed⟩ := balanced.saved changes answered
  apply Program.ensures_lift_bind
  · intro written final logged
    apply balances_bind (balances_notify (owed.undisturbed (.logged logged)))
    intro value
    exact continues
  · intro error final logged
    -- The evaluation is skipped: nothing is owed where this may happen.
    exact (unowed logged.2).undisturbed (.logged logged)

/-- A container's change of status is saved, logged and then evaluated. -/
theorem noticedUpsertService_balances (host : Host) (container : DockerPsContainer)
    (checkedAt : Date) (balanced : Balanced base state.changed evaluated) :
    Balances platform base (noticedUpsertService platform host container checkedAt) state
      evaluated := by
  apply balances_ofExcept_bind balanced
  intro split
  apply balances_ofExcept_bind balanced
  intro status
  apply balances_read_bind rfl ⟨rfl, rfl, rfl⟩ balanced
  intro after undisturbed
  have balancedAfter := balanced.undisturbed undisturbed
  have captures : ∀ saved final evaluatedAfter,
      Balanced base final.changed evaluatedAfter →
        Balances platform base
          (captureSnapshotIfImageChanged platform host saved container).lift final
          evaluatedAfter :=
    fun saved final evaluatedAfter =>
      balances_silent (captureSnapshotIfImageChanged_silent host saved container)
  cases found : state.database.services.findOne fun service =>
      service.hostId == host.id && service.containerId == platform.columnText container.id with
  | none =>
      apply Program.ensures_lift_bind
      · intro saved final answered
        exact saved_balances balancedAfter rfl answered (captures saved)
      · intro error final answered
        exact balancedAfter.unsaved answered
  | some service =>
      have member := (Table.findOne_mem found).1
      rw [← undisturbed.services] at member
      apply Program.ensures_lift_bind
      · intro saved final answered
        refine saved_balances balancedAfter ?_ answered (captures saved)
        obtain ⟨⟨⟨error, -, absent, -⟩ | ⟨saves, -⟩, -⟩, -⟩ := answered
        · cases absent
        · obtain ⟨-, rfl⟩ := Database.perform_saveService.mp saves.symm
          have stored : after.database.services.byId service.id = some service :=
            Table.byId_self member
          simp only [statusChange, upsertRow, Option.map_some, Option.getD_some, stored]
          rfl
      · intro error final answered
        exact balancedAfter.unsaved answered

/-- So is that of every listed container. -/
theorem noticedUpsertServices_balances (host : Host) (checkedAt : Date)
    (containers : List DockerPsContainer)
    (balanced : Balanced base state.changed evaluated) :
    Balances platform base (noticedUpsertServices platform host checkedAt containers) state
      evaluated := by
  induction containers generalizing state evaluated with
  | nil => exact balanced
  | cons container containers inductionHypothesis =>
      apply balances_bind (noticedUpsertService_balances host container checkedAt balanced)
      intro value after evaluatedAfter balancedAfter
      exact inductionHypothesis balancedAfter

/-! ### Services that are gone -/

/-- The calls that change no status into one that can be alerted on. -/
def Call.Unalerting : Call → Prop
  | .query (.saveService service) => service.status = .unknown
  | call => call.Silent

theorem unknown_unalertable {service : Service} (unknown : service.status = .unknown)
    (db : Database) (reply : Except JsError Service) :
    alertableChange db (.query (.saveService service)) reply = none := by
  have absent : (buildTransitionCondition .service ServiceStatus.unknown.text).any
      alertConditions.contains = false := by decide
  cases reply with
  | error error => rfl
  | ok saved =>
      rw [← unknown] at absent
      unfold alertableChange statusChange
      rw [Option.filter_eq_none_iff]
      rintro change ⟨⟩
      simp only [StatusChange.alertable, absent, Bool.and_false]
      exact Bool.false_ne_true

theorem Call.Unalerting.changed {call : Call} (unalerting : call.Unalerting)
    {before after : Persisted} {reply : Except JsError call.Reply}
    (answered : loggedAnswers call before reply after) :
    after.changed = before.changed := by
  have silently : call.Silent → after.changed = before.changed :=
    fun silent => (silent.undisturbed answered).changed
  cases call with
  | query q =>
      cases q with
      | saveService service =>
          obtain ⟨⟨-, last, changed⟩, -⟩ := answered
          rw [changed, last, unknown_unalertable unalerting]
          exact List.append_nil _
      | _ => exact silently unalerting
  | _ => exact silently unalerting

theorem markUnknown_unalerting (checkedAt : Date) (missing : List Service) :
    (markUnknown checkedAt missing).Only Call.Unalerting := by
  induction missing with
  | nil => trivial
  | cons service missing inductionHypothesis =>
      have marks : Call.Unalerting (.query (.saveService
        { service with status := .unknown, lastCheckedAt := checkedAt })) := rfl
      apply Program.Only.bind (Program.only_perform marks)
      intro saved
      apply Program.Only.bind (Program.only_perform ⟨rfl, rfl, rfl⟩)
      intro log
      exact inductionHypothesis

theorem markMissingServicesUnknown_balances (host : Host) (seenContainerIds : List Json)
    (checkedAt : Date) (balanced : Balanced base state.changed evaluated) :
    Balances platform base (markMissingServicesUnknown host seenContainerIds checkedAt).lift
      state evaluated := by
  have only : (markMissingServicesUnknown host seenContainerIds checkedAt).Only
      Call.Unalerting := by
    apply Program.Only.bind (Program.only_perform ⟨rfl, rfl, rfl⟩)
    intro existingServices
    apply markUnknown_unalerting
  apply Program.Follows.mono (Program.ensures_lift only
    (fun reached => reached.changed = state.changed)
    (fun _ _ _ _ unalerting same answered => (unalerting.changed answered).trans same)
    rfl evaluated)
  rintro outcome ⟨after, evaluatedAfter⟩ ⟨same, rfl⟩
  change Balanced base after.changed _
  rw [same]
  exact balanced

/-! ### The jobs -/

theorem noticedSync_balances (host : Host) (dockerPsResult : SshCommandResult)
    (balanced : Balanced base state.changed evaluated) :
    Balances platform base (noticedSync platform host dockerPsResult) state evaluated := by
  unfold noticedSync
  split
  · exact balanced
  apply balances_ofExcept_bind balanced
  intro listing
  apply balances_silent_bind now_silent balanced
  intro checkedAt after undisturbed
  apply balances_bind (noticedUpsertServices_balances host checkedAt listing.containers
    (balanced.undisturbed undisturbed))
  intro value final evaluatedAfter
  apply markMissingServicesUnknown_balances

theorem noticedSyncResults_balances (host : Host)
    (sshResults : Option (List SshCommandResult))
    (balanced : Balanced base state.changed evaluated) :
    Balances platform base (noticedSyncResults platform host sshResults) state
      evaluated := by
  obtain _ | _ | ⟨uptimeResult, _ | ⟨dockerPsResult, others⟩⟩ := sshResults
  · exact balanced
  · exact balanced
  · exact balanced
  · exact noticedSync_balances host dockerPsResult balanced

theorem noticedCheckHost_balances (hostId : Nat)
    (balanced : Balanced base state.changed evaluated) :
    Balances platform base (noticedCheckHost platform hostId) state evaluated := by
  apply balances_read_bind rfl ⟨rfl, rfl, rfl⟩ balanced
  intro loaded same
  cases found : state.database.hosts.byId hostId with
  | none => exact balanced.undisturbed same
  | some host =>
      obtain ⟨member, rfl⟩ := Table.byId_eq_some.mp found
      apply balances_silent_bind ((runCheck_only platform host).mono
        fun call => Call.OfSession.silent) (balanced.undisturbed same)
      rintro ⟨outcome, sshResults⟩ checked checkedSame
      replace same := same.trans checkedSame
      apply balances_silent_bind (writeHealthCheckLog_silent _ _ _ _)
        (balanced.undisturbed same)
      intro log logged loggedSame
      replace same := same.trans loggedSame
      apply balances_silent_bind now_silent (balanced.undisturbed same)
      intro time timed timedSame
      replace same := same.trans timedSame
      have stored : timed.database.hosts.byId host.id = some host := by
        rw [same.hosts]
        exact found
      apply Program.ensures_lift_bind
      · intro saved after answered
        refine balances_bind (balances_notify
          ((balanced.undisturbed same).saved ?_ answered).1) ?_
        · simp only [statusChange, checkedHost, stored, Option.map_some, Option.getD_some]
          rfl
        · intro value final evaluatedAfter
          exact noticedSyncResults_balances _ sshResults
      · intro error after answered
        exact (balanced.undisturbed same).unsaved answered

theorem noticedCheckTls_balances (domain : Domain) (resolvedIp : String)
    (balanced : Balanced base state.changed evaluated) :
    Balances platform base (noticedCheckTls platform domain resolvedIp) state
      evaluated := by
  apply balances_silent_bind ((performTlsCheck_only platform resolvedIp domain.hostname).mono
    fun call => Call.OfHandshake.silent) balanced
  intro tlsResult shaken same
  apply balances_silent_bind (writeHealthCheckLog_silent _ _ _ _) (balanced.undisturbed same)
  intro log logged loggedSame
  replace same := same.trans loggedSame
  apply balances_read_bind rfl ⟨rfl, rfl, rfl⟩ (balanced.undisturbed same)
  intro loaded loadedSame
  cases found : logged.database.certificates.findOne fun certificate =>
      certificate.domainId == domain.id with
  | none => exact balanced.undisturbed (same.trans loadedSame)
  | some cert =>
      obtain ⟨member, matched⟩ := Table.findOne_mem found
      rw [beq_iff_eq] at matched
      apply balances_silent_bind now_silent
        (balanced.undisturbed (same.trans loadedSame))
      intro lastCheckedAt timed timedSame
      have balancedTimed :=
        balanced.undisturbed ((same.trans loadedSame).trans timedSame)
      have stored : timed.database.certificates.byId cert.id = some cert := by
        rw [(loadedSame.trans timedSame).certificates]
        exact Table.byId_self member
      apply balances_ofExcept_bind balancedTimed
      intro validFrom
      apply balances_ofExcept_bind balancedTimed
      intro validTo
      apply Program.ensures_lift_bind
      · intro saved after answered
        refine balances_notify (balancedTimed.saved ?_ answered).1
        simp only [statusChange, stored, matched, Option.map_some, Option.getD_some]
        rfl
      · intro error after answered
        exact balancedTimed.unsaved answered

theorem StatusRun.balanced {before after : Persisted × List EvaluateTransitionInput}
    (statusRun : StatusRun platform loggedAnswers before after)
    (balanced : Balanced base before.1.changed before.2) :
    Balanced base after.1.changed after.2 := by
  obtain ⟨statusJob, outcome, steps⟩ := statusRun
  have balances : Balances platform base (statusJob.noticed platform) before.1 before.2 := by
    cases statusJob with
    | checkHost hostId => exact noticedCheckHost_balances hostId balanced
    | checkTls domain resolvedIp =>
        exact noticedCheckTls_balances domain resolvedIp balanced
    | sync host dockerPsResult => exact noticedSync_balances host dockerPsResult balanced
  exact balances.steps steps

end Balance

/-- Whatever fails, as long as no log is lost where `LogFollows` asks for it: what has
been persisted is what has been evaluated, change by change and in its order. -/
theorem transitions_evaluated (platform : Platform) {start finish : Persisted}
    {evaluated : List EvaluateTransitionInput}
    (runs : StatusRuns platform loggedAnswers (start, []) (finish, evaluated)) :
    finish.changed = start.changed ++
      (evaluated.map EvaluateTransitionInput.change).filter StatusChange.alertable := by
  have balanced : ∀ reached : Persisted × List EvaluateTransitionInput,
      StatusRuns platform loggedAnswers (start, []) reached →
        Balanced start.changed reached.1.changed reached.2 := by
    intro reached reaches
    induction reaches with
    | refl => exact (List.append_nil _).symm
    | tail _ statusRun inductionHypothesis => exact statusRun.balanced inductionHypothesis
  exact balanced (finish, evaluated) runs

/-! ### A service in a crash loop -/

/-- Answers from the database, with the changes of statuses kept. -/
def persisting (answer : Database → (call : Call) → Except JsError call.Reply × Database) :
    Machine Calls JsError Persisted :=
  fun (call : Call) before =>
    let reply := (answer before.database call).1
    let change := alertableChange before.database call reply
    (reply,
      { database := (answer before.database call).2
        changed := before.changed ++ change.toList
        last := change })

/-- A job on its own, where every call is answered so. -/
def statusRun (answer : Database → (call : Call) → Except JsError call.Reply × Database)
    (statusJob : StatusJob) (db : Database) : Persisted × List EvaluateTransitionInput :=
  ((statusJob.noticed .transparent).run
    ((persisting answer).noting (evaluateTransition .transparent))
    ({ database := db, changed := [], last := none }, [])).2

theorem statusRun_runs {sem : Semantics Calls JsError Persisted}
    {answer : Database → (call : Call) → Except JsError call.Reply × Database}
    (answers : ∀ (call : Call) before,
      sem call before (persisting answer call before).1 (persisting answer call before).2)
    (statusJob : StatusJob) (db : Database) :
    StatusRuns .transparent sem ({ database := db, changed := [], last := none }, [])
      (statusRun answer statusJob db) :=
  .single ⟨statusJob, _, Program.run_steps _
    (Machine.noting_answers (evaluateTransition .transparent) answers) _ _⟩

/-- A container that keeps restarting. -/
def restartingRow : PsRow :=
  { id := "4f2a"
    image := "nginx"
    names := "web"
    ports := ""
    status := "Restarting" }

def restartingListing : SshCommandResult :=
  { command := dockerPsCommand
    stdout := psOutput [restartingRow]
    stderr := ""
    exitCode := some 0 }

/-- The sync of this listing, which is parsed. -/
theorem noticedSync_restarting :
    (StatusJob.sync registeredHost restartingListing).noticed .transparent =
      now.lift.bind fun checkedAt =>
        (noticedUpsertServices .transparent registeredHost checkedAt
          [restartingRow.toContainer]).bind fun _ =>
            (markMissingServicesUnknown registeredHost [restartingRow.toContainer.id]
              checkedAt).lift := by
  have complete : ∀ row ∈ [restartingRow], row.Complete := by
    intro row member
    rw [List.mem_singleton.mp member]
    exact ⟨by decide, by decide, by decide, by decide⟩
  have parses : parseDockerPsOutput restartingListing.stdout = _ :=
    parseDockerPsOutput_psOutput complete
  change noticedSync _ _ _ = _
  unfold noticedSync
  rw [if_neg (by decide)]
  simp only [parses, Program.ofExcept_ok, Program.bind_eq, Program.pure_bind]
  rfl

def restartingChange : StatusChange :=
  { entityType := .service
    entityId := 1
    previousStatus := "running"
    newStatus := "crash_loop" }

/-- Every command succeeds silently, and nothing is written to the log. -/
def loseLog (db : Database) : (call : Call) → Except JsError call.Reply × Database
  | .query (.writeHealthCheckLog _) => (.error (.queryFailed "53100" "disk full"), db)
  | call => Surroundings.quiet.answer db call

theorem quiet_answered (db : Database) (call : Call) :
    Answered (fun _ => True) db call (Surroundings.quiet.answer db call).1
      (Surroundings.quiet.answer db call).2 :=
  Surroundings.quiet.answered (fun _ _ => trivial) db call

theorem loseLog_answers (call : Call) (before : Persisted) :
    persistedAnswers call before (persisting loseLog call before).1
      (persisting loseLog call before).2 := by
  refine ⟨?_, rfl, rfl⟩
  have quiet := quiet_answered before.database call
  cases call with
  | query q =>
      cases q with
      | writeHealthCheckLog log => exact .inl ⟨_, trivial, rfl, rfl⟩
      | _ => exact quiet
  | _ => exact quiet

theorem lost_change : (statusRun loseLog (.sync registeredHost restartingListing)
    servedDatabase).1.changed = [restartingChange] := by
  rw [statusRun, noticedSync_restarting]
  decide

theorem lost_evaluation : (statusRun loseLog (.sync registeredHost restartingListing)
    servedDatabase).2 = [] := by
  rw [statusRun, noticedSync_restarting]
  decide

/-- The service has been saved in its crash loop; its log fails, and no alert is ever
evaluated. -/
theorem failed_log_loses_transition :
    ∃ finish evaluated,
      StatusRuns .transparent persistedAnswers
        ({ database := servedDatabase, changed := [], last := none }, [])
        (finish, evaluated) ∧
      finish.changed = [restartingChange] ∧
      restartingChange.alertable = true ∧
      finish.changed ≠
        (evaluated.map EvaluateTransitionInput.change).filter StatusChange.alertable := by
  have runs := statusRun_runs loseLog_answers (.sync registeredHost restartingListing)
    servedDatabase
  have changed := lost_change
  have unevaluated := lost_evaluation
  generalize statusRun loseLog (.sync registeredHost restartingListing) servedDatabase =
    finished at runs changed unevaluated
  obtain ⟨finish, evaluated⟩ := finished
  refine ⟨finish, evaluated, runs, changed, by decide, ?_⟩
  rw [show finish.changed = [restartingChange] from changed,
    show evaluated = [] from unevaluated]
  exact List.cons_ne_nil _ _

theorem quiet_logged (call : Call) (before : Persisted) :
    loggedAnswers call before (persisting Surroundings.quiet.answer call before).1
      (persisting Surroundings.quiet.answer call before).2 := by
  have quiet := quiet_answered before.database call
  refine ⟨⟨quiet, rfl, rfl⟩, ?_⟩
  cases call with
  | query q =>
      cases q with
      | writeHealthCheckLog log =>
          obtain ⟨written, writes⟩ := before.database.perform_writeHealthCheckLog log
          change LogFollows before (.query (.writeHealthCheckLog log))
            (before.database.perform (.writeHealthCheckLog log)).1
          rw [writes]
          trivial
      | _ => trivial
  | _ => trivial

theorem kept_change : (statusRun Surroundings.quiet.answer
    (.sync registeredHost restartingListing) servedDatabase).1.changed =
      [restartingChange] := by
  rw [statusRun, noticedSync_restarting]
  decide

/-- The same sync with its log written: the one change has been evaluated. -/
theorem transitions_evaluated_restarting :
    ((statusRun Surroundings.quiet.answer (.sync registeredHost restartingListing)
        servedDatabase).2.map EvaluateTransitionInput.change).filter
      StatusChange.alertable = [restartingChange] := by
  have runs := statusRun_runs quiet_logged (.sync registeredHost restartingListing)
    servedDatabase
  have changed := kept_change
  generalize statusRun Surroundings.quiet.answer (.sync registeredHost restartingListing)
    servedDatabase = finished at runs changed ⊢
  obtain ⟨finish, evaluated⟩ := finished
  have evaluates := transitions_evaluated .transparent runs
  exact evaluates.symm.trans changed

end ServersManager
