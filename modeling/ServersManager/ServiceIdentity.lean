/-
Module: ServersManager.ServiceIdentity
Purpose: A rollback job that docker carries out, beside any number of syncs of the same
  tables, call by call: when the service keeps its row.
Trusted boundary: none
Main exports:
  ServedRollback, SharedRows, besideAnswers, Considerate, IdentityKept,
  rollback_keeps_identity, sync_takes_container
-/
import ServersManager.Library.Pool
import ServersManager.RollbackOutcome
import ServersManager.SnapshotHistory

namespace ServersManager

open Library

/-! ### A job and syncs -/

/-- A requested rollback: the rows that its job finds, and the container that docker lists
under the configured name after its `docker run`. -/
structure ServedRollback where
  database : Database
  event : RollbackEvent
  service : Service
  host : Host
  targetSnapshot : DeploymentSnapshot
  privateKey : String
  config : Json
  blob : DeploymentConfigBlob
  container : DockerPsContainer

namespace ServedRollback

/-- The id of the new container, as it is stored. -/
def containerId (platform : Platform) (rollback : ServedRollback) : String :=
  platform.columnText rollback.container.id

/-- The rows are there and can be read, the new container runs, and no other service has
it. -/
structure Prepared (platform : Platform) (rollback : ServedRollback) : Prop where
  inputs : RollbackInputs platform rollback.database rollback.event rollback.service
    rollback.host rollback.targetSnapshot rollback.privateKey
  unopposed : Unopposed rollback.database.events rollback.event
  decrypts : decryptConfig platform rollback.targetSnapshot = .ok rollback.config
  reads : readConfig rollback.config = .ok rollback.blob
  running : classifyContainerStatus rollback.container.status = .ok .running
  unclaimed : Unclaimed rollback.database.services rollback.service
    (rollback.containerId platform)

/-- `docker run` exits with 0, and `docker ps` lists the container. -/
structure Executes (rollback : ServedRollback) (command : String) (answer : ExecReply) :
    Prop where
  ran : command = buildDockerRunCommand rollback.blob rollback.targetSnapshot.imageTag →
    answer.code = some 0
  lists : command = dockerPsAllJsonCommand → ∃ listing,
    parseDockerPsOutput answer.stdout = .ok listing ∧
      findRecreated rollback.blob.containerName listing = some rollback.container

/-- Docker answers the commands of the job. -/
def Serves (rollback : ServedRollback) : (call : Call) → Except JsError call.Reply → Prop
  | .execCommand _ command, reply => ∀ answer, reply = .ok answer →
      rollback.Executes command answer
  | _, _ => True

end ServedRollback

/-- The tables, whether the job has saved its service, and the syncs that have read
services before that and none since. -/
structure SharedRows (ι : Type) where
  database : Database
  saved : Bool
  outdated : ι → Bool

/-- A service has been saved. -/
def Call.savesService : (call : Call) → Except JsError call.Reply → Bool
  | .query (.saveService _), .ok _ => true
  | _, _ => false

def Call.readsServices : Call → Bool
  | .query (.findServiceByContainer _ _) | .query (.findServicesOfHost _) => true
  | _ => false

section Interleaving

variable {ι : Type} [DecidableEq ι]

/-- After a call of the job. -/
def SharedRows.ofJob (shared : SharedRows ι) (call : Call)
    (reply : Except JsError call.Reply) (database : Database) : SharedRows ι where
  database := database
  saved := shared.saved || call.savesService reply
  outdated sync := shared.outdated sync || call.savesService reply

/-- After a call of a sync. -/
def SharedRows.ofSync (shared : SharedRows ι) (sync : ι) (call : Call)
    (database : Database) : SharedRows ι where
  database := database
  saved := shared.saved
  outdated other :=
    if other = sync ∧ call.readsServices then false else shared.outdated other

/-- The job's calls are refused where an index is violated, and served otherwise; the calls
of a sync may also fail.  Time passes between calls. -/
def besideAnswers (rollback : ServedRollback) (thread : Option ι) :
    Semantics Calls JsError (SharedRows ι) :=
  fun (call : Call) before reply after =>
    ∃ database clock,
      match thread with
      | none => Answered (fun _ => False) before.database call reply database ∧
          rollback.Serves call reply ∧
          after = before.ofJob call reply { database with clock := clock }
      | some sync => Answered (fun _ => True) before.database call reply database ∧
          after = before.ofSync sync call { database with clock := clock }

/-- A sync inserts a row for the new container only after the job has saved the service,
and saves the service after that only as it has read it after that. -/
def Considerate (platform : Platform) (rollback : ServedRollback) :
    Option ι → Call → SharedRows ι → Prop
  | some _, .query (.insertService row), before => row.hostId = rollback.service.hostId →
      row.containerId = rollback.containerId platform → before.saved = true
  | some sync, .query (.saveService row), before => row.id = rollback.service.id →
      before.outdated sync = false
  | _, _, _ => True

/-- The job, and syncs that have each been given the output of a `docker ps`. -/
def besidePool (platform : Platform) (rollback : ServedRollback)
    (syncs : ι → Host × SshCommandResult) :
    Pool Calls JsError (Option ι) Unit (SharedRows ι) where
  threads
    | none => process platform rollback.event.id
    | some thread => sync platform (syncs thread).1 (syncs thread).2
  store :=
    { database := rollback.database
      saved := false
      outdated := fun _ => false }

end Interleaving

/-- The service's row is the only one of the new container, and the event has
succeeded. -/
structure IdentityKept (platform : Platform) (rollback : ServedRollback) (db : Database) :
    Prop where
  row : ∃ service ∈ db.services, service.id = rollback.service.id ∧
    service.hostId = rollback.service.hostId ∧
    service.containerId = rollback.containerId platform ∧
    ∀ other ∈ db.services, other.hostId = rollback.service.hostId →
      other.containerId = rollback.containerId platform → other = service
  succeeded : (db.events.byId rollback.event.id).map RollbackEvent.status = some .succeeded

/-! ### The order of calls -/

/-- How far a thread is: the job with its event as it was last saved, and whether it has
saved its service; a sync with the services it holds. -/
inductive BesidePhase where
  | rolling (event : RollbackEvent) (saved : Bool)
  | syncing (held : List Service)

/-- The row has the identity and the container of one that is held. -/
def HoldsRow (held : List Service) (row : Service) : Prop :=
  ∃ copy ∈ held, row.id = copy.id ∧ row.hostId = copy.hostId ∧
    row.containerId = copy.containerId

def SyncingAllows (held : List Service) : Call → Prop
  | .query (.saveService row) => HoldsRow held row
  | call => call.OfSync

/-- What a sync holds is what it has read last. -/
def heldNext (held : List Service) : (call : Call) → Except JsError call.Reply → List Service
  | .query (.findServiceByContainer _ _), .ok found => found.toList
  | .query (.findServicesOfHost _), .ok found => found
  | .query (.findServiceByContainer _ _), .error _ => []
  | .query (.findServicesOfHost _), .error _ => []
  | _, _ => held

section Phases

variable (platform : Platform) (rollback : ServedRollback)

/-- The rows of the job are its own. -/
def RollingAllows : Call → Prop
  | .query (.findEvent id) => id = rollback.event.id
  | .query (.saveEvent row) =>
      row.id = rollback.event.id ∧ row.serviceId = rollback.event.serviceId
  | .query (.findService id) => id = rollback.service.id
  | .query (.findHost id) => id = rollback.host.id
  | .query (.findSnapshot id) => id = rollback.targetSnapshot.id
  | .query (.saveService row) => row.id = rollback.service.id ∧
      row.hostId = rollback.service.hostId ∧ row.containerId = rollback.containerId platform
  | .query (.createSnapshot _) | .query (.writeHealthCheckLog _) => True
  | .now | .randomBytes _ | .connect _ | .execCommand _ _ => True
  | _ => False

/-- What the job is answered. -/
def Expected (event : RollbackEvent) : (call : Call) → call.Reply → Prop
  | .query (.findEvent _), found => found = some event
  | .query (.findService _), found => ∃ service, found = some service ∧
      service.id = rollback.service.id ∧ service.hostId = rollback.service.hostId
  | .query (.findHost _), found => found = some rollback.host
  | .query (.findSnapshot _), found => ∃ isCurrent,
      found = some { rollback.targetSnapshot with isCurrent := isCurrent }
  | .execCommand _ command, answer => rollback.Executes command answer
  | _, _ => True

/-- The event as the job has saved it last. -/
def eventNext (event : RollbackEvent) : Call → RollbackEvent
  | .query (.saveEvent row) => row
  | _ => event

def BesidePhase.Allows : BesidePhase → Call → Prop
  | .rolling _ _, call => RollingAllows platform rollback call
  | .syncing held, call => SyncingAllows held call

def BesidePhase.Moves : BesidePhase → (call : Call) → Except JsError call.Reply →
    BesidePhase → Prop
  | .rolling event saved, call, reply, after =>
      (∃ value, reply = .ok value ∧ Expected rollback event call value) ∧
        after = .rolling (eventNext event call) (saved || call.savesService reply)
  | .syncing held, call, reply, after => after = .syncing (heldNext held call reply)

/-- The job is answered as it expects, and a sync anything. -/
def besideProtocol : Protocol Calls JsError BesidePhase where
  Allows := BesidePhase.Allows platform rollback
  Moves := BesidePhase.Moves rollback

end Phases

/-! ### The job keeps to it -/

section Rolling

variable {platform : Platform} {rollback : ServedRollback} {event : RollbackEvent}
  {saved : Bool} {α : Type} {post : Except JsError α → BesidePhase → Prop}

/-- A call of the job is answered as expected. -/
theorem follows_expected {call : Call} {rest : call.Reply → Job α}
    (allowed : RollingAllows platform rollback call)
    (returns : ∀ value, Expected rollback event call value →
      (rest value).Follows (besideProtocol platform rollback) post
        (.rolling (eventNext event call) (saved || call.savesService (.ok value)))) :
    ((request call).bind rest).Follows (besideProtocol platform rollback) post
      (.rolling event saved) := by
  apply (Program.follows_perform_bind _).mpr
  refine ⟨allowed, ?_, ?_⟩
  · rintro value after ⟨⟨answer, replied, expected⟩, rfl⟩
    cases replied
    exact returns value expected
  · rintro error after ⟨⟨answer, absurd, -⟩, -⟩
    cases absurd

/-- A call that changes nothing for the job. -/
theorem follows_unchanged {call : Call} {rest : call.Reply → Job α}
    (allowed : RollingAllows platform rollback call) (sameEvent : eventNext event call = event)
    (savesNothing : ∀ reply, call.savesService reply = false)
    (returns : ∀ value, Expected rollback event call value →
      (rest value).Follows (besideProtocol platform rollback) post (.rolling event saved)) :
    ((request call).bind rest).Follows (besideProtocol platform rollback) post
      (.rolling event saved) := by
  apply follows_expected allowed
  intro value expected
  rw [sameEvent, savesNothing, Bool.or_false]
  exact returns value expected

/-- Calls whose answers tell the job nothing about its rows. -/
def Call.Unremarked : Call → Prop
  | .query (.createSnapshot _) | .query (.writeHealthCheckLog _) => True
  | .now | .randomBytes _ | .connect _ => True
  | _ => False

theorem follows_unremarked {call : Call} {rest : call.Reply → Job α}
    (unremarked : call.Unremarked)
    (returns : ∀ value, (rest value).Follows (besideProtocol platform rollback) post
      (.rolling event saved)) :
    ((request call).bind rest).Follows (besideProtocol platform rollback) post
      (.rolling event saved) := by
  apply follows_unchanged
  · cases call with
    | query q => cases q <;> trivial
    | _ => trivial
  · cases call with
    | query q => cases q <;> first | rfl | exact unremarked.elim
    | _ => rfl
  · intro reply
    cases call with
    | query q => cases q <;> first | rfl | exact unremarked.elim
    | _ => rfl
  · intro value _
    exact returns value

/-- The entity is the rollback's. -/
structure ServedRollback.Owns (rollback : ServedRollback) (event : RollbackEvent) : Prop where
  id : event.id = rollback.event.id
  serviceId : event.serviceId = rollback.event.serviceId

/-- The event is saved under its own id. -/
theorem follows_saveEvent {row : RollbackEvent} {rest : RollbackEvent → Job α}
    (owns : rollback.Owns row)
    (returns : ∀ value, (rest value).Follows (besideProtocol platform rollback) post
      (.rolling row saved)) :
    ((query (.saveEvent row)).bind rest).Follows (besideProtocol platform rollback) post
      (.rolling event saved) := by
  apply follows_expected
  · exact ⟨owns.id, owns.serviceId⟩
  intro value _
  have unsaved : Call.savesService (.query (.saveEvent row)) (.ok value) = false := rfl
  rw [unsaved, Bool.or_false]
  exact returns value

/-- An entry is appended to the log. -/
theorem follows_logged {rest : RollbackEvent → Job α} {entry : Date → RollbackLogEntry}
    (owns : rollback.Owns event)
    (returns : ∀ logged, rollback.Owns logged →
      (rest logged).Follows (besideProtocol platform rollback) post (.rolling logged saved)) :
    ((now.bind fun date => Program.pure (entry date)).bind fun entry =>
      (appendLog event entry).bind rest).Follows (besideProtocol platform rollback) post
      (.rolling event saved) := by
  rw [Program.bind_assoc]
  apply follows_unremarked
  · trivial
  intro date
  simp only [appendLog, Program.bind_eq, Program.pure_bind, Program.bind_assoc]
  apply follows_saveEvent
  · exact ⟨owns.id, owns.serviceId⟩
  intro value
  exact returns _ ⟨owns.id, owns.serviceId⟩

/-- The job has saved its service, and its event as succeeded. -/
def Succeeds (phase : BesidePhase) : Prop :=
  ∃ event, phase = .rolling event true ∧ event.status = .succeeded

/-- The service is saved with the new container, and then the event. -/
theorem succeed_keeps (owns : rollback.Owns event) {service : Service}
    {targetSnapshot : DeploymentSnapshot} {config : Json}
    (sameId : service.id = rollback.service.id)
    (sameHost : service.hostId = rollback.service.hostId)
    (decrypts : decryptConfig platform targetSnapshot = .ok config) :
    (succeed platform event service rollback.container.id targetSnapshot .running).Follows
      (besideProtocol platform rollback) (fun _ => Succeeds) (.rolling event saved) := by
  simp only [succeed, createSnapshot, encrypt, writeHealthCheckLog, decrypts, complete,
    Program.bind_eq, Program.bind_assoc, Program.ofExcept_ok, Program.pure_bind,
    Program.pure_eq]
  apply follows_unremarked
  · trivial
  intro checkedAt
  apply follows_expected
  · exact ⟨sameId, sameHost, rfl⟩
  intro row _
  rw [show (saved || Call.savesService (.query (.saveService _)) (.ok row)) = true from
    Bool.or_true _]
  apply follows_unremarked
  · trivial
  intro deployedAt
  apply follows_unremarked
  · trivial
  intro iv
  apply follows_unremarked
  · trivial
  intro created
  apply follows_unremarked
  · trivial
  intro log
  apply follows_unremarked
  · trivial
  intro completedAt
  apply follows_saveEvent
  · exact ⟨owns.id, owns.serviceId⟩
  intro value
  exact ⟨_, rfl, rfl⟩

/-- The listing shows the container, which runs. -/
theorem checkRecreated_keeps (prepared : rollback.Prepared platform)
    (owns : rollback.Owns event) {service : Service} {targetSnapshot : DeploymentSnapshot}
    (sameId : service.id = rollback.service.id)
    (sameHost : service.hostId = rollback.service.hostId)
    (decrypts : decryptConfig platform targetSnapshot = .ok rollback.config)
    {psResult : SshCommandResult} {listing : DockerPsParseResult}
    (parses : parseDockerPsOutput psResult.stdout = .ok listing)
    (finds : findRecreated rollback.blob.containerName listing = some rollback.container) :
    (checkRecreated platform event service targetSnapshot rollback.blob.containerName
      psResult).Follows (besideProtocol platform rollback) (fun _ => Succeeds)
      (.rolling event saved) := by
  simp only [checkRecreated, parses, finds, recreatedStatus, prepared.running, messageEntry,
    Program.bind_eq, Program.ofExcept_ok, Program.pure_bind, Program.pure_eq]
  apply follows_logged owns
  intro logged ownsLogged
  exact succeed_keeps ownsLogged sameId sameHost decrypts

/-- What docker has answered goes to the log, and then the listing is looked at. -/
theorem settle_keeps (prepared : rollback.Prepared platform)
    (owns : rollback.Owns event) {service : Service} {targetSnapshot : DeploymentSnapshot}
    (sameId : service.id = rollback.service.id)
    (sameHost : service.hostId = rollback.service.hostId)
    (decrypts : decryptConfig platform targetSnapshot = .ok rollback.config)
    {stopResult rmResult runResult psResult : SshCommandResult}
    (ran : runResult.exitCode = some 0) {listing : DockerPsParseResult}
    (parses : parseDockerPsOutput psResult.stdout = .ok listing)
    (finds : findRecreated rollback.blob.containerName listing = some rollback.container) :
    (settle platform event service targetSnapshot rollback.blob.containerName
      [stopResult, rmResult, runResult, psResult]).Follows (besideProtocol platform rollback)
      (fun _ => Succeeds) (.rolling event saved) := by
  simp only [settle, toLogEntry, ran, Program.bind_eq, Program.pure_eq, ne_eq,
    not_true_eq_false, if_false]
  apply follows_logged owns
  intro stopped ownsStopped
  apply follows_logged ownsStopped
  intro removed ownsRemoved
  apply follows_logged ownsRemoved
  intro started ownsStarted
  apply follows_logged ownsStarted
  intro listed ownsListed
  exact checkRecreated_keeps prepared ownsListed sameId sameHost decrypts parses finds

/-- A command of the job is answered by docker. -/
theorem follows_command {options : SshConnectionOptions} {command : String}
    {rest : ExecReply → Job α}
    (returns : ∀ answer, rollback.Executes command answer →
      (rest answer).Follows (besideProtocol platform rollback) post (.rolling event saved)) :
    ((request (.execCommand options command)).bind rest).Follows
      (besideProtocol platform rollback) post (.rolling event saved) := by
  apply follows_unchanged
  · trivial
  · rfl
  · exact fun _ => rfl
  · exact returns

/-- The session is answered in full. -/
theorem session_keeps (prepared : rollback.Prepared platform) {service : Service} {host : Host}
    {targetSnapshot : DeploymentSnapshot} {privateKey : String}
    (sameImage : targetSnapshot.imageTag = rollback.targetSnapshot.imageTag) :
    (session platform event service host targetSnapshot privateKey rollback.config).Follows
      (besideProtocol platform rollback)
      (fun outcome phase => phase = .rolling event saved ∧
        ∃ stopResult rmResult runResult psResult : SshCommandResult,
          outcome = .ok (some (rollback.blob.containerName,
            [stopResult, rmResult, runResult, psResult])) ∧
          runResult.exitCode = some 0 ∧ ∃ listing,
            parseDockerPsOutput psResult.stdout = .ok listing ∧
              findRecreated rollback.blob.containerName listing = some rollback.container)
      (.rolling event saved) := by
  simp only [session, prepared.reads, runCommands, rollbackCommands, execCommands, sameImage,
    Program.bind_eq, Program.bind_assoc, Program.ofExcept_ok, Program.pure_bind,
    Program.pure_eq, Program.tryCatch_eq]
  apply (Program.follows_tryCatch _ _ _ _ _).mpr
  apply follows_unremarked
  · trivial
  intro connected
  apply follows_command
  intro stopAnswer _
  apply follows_command
  intro rmAnswer _
  apply follows_command
  intro runAnswer runs
  apply follows_command
  intro psAnswer lists
  obtain ⟨listing, parses, finds⟩ := lists.lists rfl
  exact ⟨rfl, _, _, _, _, rfl, runs.ran rfl, listing, parses, finds⟩

/-- The job, from its first call to its last. -/
theorem process_keeps (prepared : rollback.Prepared platform) :
    (process platform rollback.event.id).Follows (besideProtocol platform rollback)
      (fun _ => Succeeds) (.rolling rollback.event false) := by
  obtain ⟨-, onService, onHost, target, decryptsKey⟩ := prepared.inputs
  have sameService : rollback.service.id = rollback.event.serviceId :=
    (Table.byId_eq_some.mp onService).2
  have sameHost : rollback.host.id = rollback.service.hostId := (Table.byId_eq_some.mp onHost).2
  have sameTarget : rollback.targetSnapshot.id = rollback.event.toSnapshotId :=
    (Table.byId_eq_some.mp target).2
  unfold process
  apply follows_unchanged
  · rfl
  · rfl
  · exact fun _ => rfl
  rintro _ rfl
  apply follows_saveEvent
  · exact ⟨rfl, rfl⟩
  intro inProgress
  unfold processEvent
  apply follows_unchanged
  · exact sameService.symm
  · rfl
  · exact fun _ => rfl
  rintro _ ⟨service, rfl, sameId, onSameHost⟩
  apply follows_unchanged
  · exact onSameHost.trans sameHost.symm
  · rfl
  · exact fun _ => rfl
  rintro _ rfl
  apply follows_unchanged
  · exact sameTarget.symm
  · rfl
  · exact fun _ => rfl
  rintro _ ⟨isCurrent, rfl⟩
  dsimp only
  rw [decryptsKey]
  have decrypts : decryptConfig platform { rollback.targetSnapshot with isCurrent := isCurrent } =
      .ok rollback.config := prepared.decrypts
  simp only [execute, decrypts, Program.bind_eq, Program.ofExcept_ok, Program.pure_bind]
  apply (Program.follows_bind _ _ _ _ _).mpr
  apply (session_keeps prepared rfl).mono
  rintro outcome phase ⟨rfl, stopResult, rmResult, runResult, psResult, rfl, ran, listing,
    parses, finds⟩
  have owns : rollback.Owns { rollback.event with status := .inProgress } := ⟨rfl, rfl⟩
  exact settle_keeps prepared owns sameId onSameHost decrypts ran parses finds

end Rolling

/-! ### And so do syncs -/

section Syncing

variable {platform : Platform} {rollback : ServedRollback} {held : List Service} {α : Type}

/-- Calls of a sync that neither read nor write services. -/
def Call.Serviceless (call : Call) : Prop :=
  call.OfSync ∧ match call with
    | .query (.findServiceByContainer _ _) | .query (.findServicesOfHost _) => False
    | .query (.insertService _) | .query (.saveService _) => False
    | _ => True

theorem Call.OfAlerts.serviceless {call : Call} (ofAlerts : call.OfAlerts) :
    call.Serviceless := by
  refine ⟨ofAlerts.ofSync, ?_⟩
  cases call with
  | query q => cases q <;> trivial
  | _ => trivial

theorem Call.OfCapture.serviceless {call : Call} (ofCapture : call.OfCapture) :
    call.Serviceless := by
  cases call with
  | query q => cases q <;> first | exact ⟨trivial, trivial⟩ | cases ofCapture
  | _ => first | exact ⟨trivial, trivial⟩ | cases ofCapture

theorem Call.Serviceless.allowed {call : Call} (serviceless : call.Serviceless)
    (held : List Service) : SyncingAllows held call := by
  cases call with
  | query q => cases q <;> first | exact serviceless.1 | exact serviceless.2.elim
  | _ => exact serviceless.1

theorem Call.Serviceless.heldNext_eq {call : Call} (serviceless : call.Serviceless)
    (held : List Service) (reply : Except JsError call.Reply) :
    heldNext held call reply = held := by
  cases call with
  | query q => cases q <;> first | rfl | exact serviceless.2.elim
  | _ => rfl

/-- What neither reads nor writes services leaves a sync with what it holds. -/
theorem serviceless_follows {program : Job α} {post : Except JsError α → BesidePhase → Prop}
    (only : program.Only Call.Serviceless) (ends : ∀ outcome, post outcome (.syncing held)) :
    program.Follows (besideProtocol platform rollback) post (.syncing held) := by
  apply only.follows _ _ (Program.ends_of_all ends)
  · exact fun call serviceless => Call.Serviceless.allowed serviceless held
  · rintro call reply after serviceless rfl
    exact congrArg BesidePhase.syncing (Call.Serviceless.heldNext_eq serviceless held reply)

/-- A sync goes on, whatever it holds. -/
def Continuing (phase : BesidePhase) : Prop :=
  ∃ held, phase = .syncing held

/-- The row of a listed container is saved as it was read, or inserted. -/
theorem upsertService_follows (host : Host) (container : DockerPsContainer)
    (checkedAt : Date) :
    (upsertService platform host container checkedAt).Follows
      (besideProtocol platform rollback) (fun _ => Continuing) (.syncing held) := by
  apply (Program.follows_bind _ _ _ _ _).mpr
  apply serviceless_follows Program.only_ofExcept
  intro outcome
  cases outcome with
  | error error => exact ⟨held, rfl⟩
  | ok split =>
  apply (Program.follows_bind _ _ _ _ _).mpr
  apply serviceless_follows Program.only_ofExcept
  intro outcome
  cases outcome with
  | error error => exact ⟨held, rfl⟩
  | ok status =>
  apply (Program.follows_perform_bind _).mpr
  refine ⟨trivial, ?_, fun error after moves => ⟨[], moves⟩⟩
  rintro found after rfl
  have written : (saveUpserted found (upsertRow platform host container split.1 split.2 status
      checkedAt found)).Follows (besideProtocol platform rollback)
      (fun _ phase => phase = .syncing found.toList) (.syncing found.toList) := by
    cases found with
    | none =>
        apply (Program.follows_perform _ _ _ _).mpr
        exact ⟨trivial, fun reply after moves => moves⟩
    | some service =>
        apply (Program.follows_perform _ _ _ _).mpr
        exact ⟨⟨service, .head _, rfl, rfl, rfl⟩, fun reply after moves => moves⟩
  apply (Program.follows_bind _ _ _ _ _).mpr
  apply written.mono
  rintro outcome phase rfl
  cases outcome with
  | error error => exact ⟨_, rfl⟩
  | ok row =>
  apply serviceless_follows
  · apply Program.Only.bind (Program.only_perform ⟨trivial, trivial⟩)
    intro log
    apply Program.Only.bind
    · exact (evaluateTransition_only _ _).mono fun call => Call.OfAlerts.serviceless
    · intro evaluated
      exact (captureSnapshotIfImageChanged_only _ _ _ _).mono
        fun call => Call.OfCapture.serviceless
  · exact fun outcome => ⟨_, rfl⟩

/-- The loop over the listing, by induction on it. -/
theorem upsertServices_follows (host : Host) (checkedAt : Date)
    (containers : List DockerPsContainer) (held : List Service) :
    (upsertServices platform host checkedAt containers).Follows
      (besideProtocol platform rollback) (fun _ => Continuing) (.syncing held) := by
  induction containers generalizing held with
  | nil => exact ⟨held, rfl⟩
  | cons container containers inductionHypothesis =>
      apply (Program.follows_bind _ _ _ _ _).mpr
      apply (upsertService_follows host container checkedAt).mono
      rintro outcome phase ⟨heldAfter, rfl⟩
      cases outcome with
      | ok upserted => exact inductionHypothesis heldAfter
      | error error => exact ⟨heldAfter, rfl⟩

/-- The loop over the missing services, which keep their containers. -/
theorem markUnknown_follows (checkedAt : Date) {missing : List Service}
    (read : ∀ service ∈ missing, service ∈ held) :
    (markUnknown checkedAt missing).Follows (besideProtocol platform rollback)
      (fun _ => Continuing) (.syncing held) := by
  induction missing with
  | nil => exact ⟨held, rfl⟩
  | cons service missing inductionHypothesis =>
      apply (Program.follows_perform_bind _).mpr
      refine ⟨⟨service, read service (.head _), rfl, rfl, rfl⟩, ?_,
        fun error after moves => ⟨held, moves⟩⟩
      rintro saved after rfl
      apply (Program.follows_perform_bind _).mpr
      refine ⟨trivial, ?_, fun error after moves => ⟨held, moves⟩⟩
      rintro log after rfl
      exact inductionHypothesis fun other member => read other (.tail _ member)

theorem sync_follows (host : Host) (dockerPsResult : SshCommandResult) :
    (sync platform host dockerPsResult).Follows (besideProtocol platform rollback)
      (fun _ => Continuing) (.syncing held) := by
  unfold sync
  split
  · exact ⟨held, rfl⟩
  apply (Program.follows_bind _ _ _ _ _).mpr
  apply serviceless_follows Program.only_ofExcept
  intro outcome
  cases outcome with
  | error error => exact ⟨held, rfl⟩
  | ok listing =>
  apply (Program.follows_perform_bind _).mpr
  refine ⟨trivial, ?_, fun error after moves => ⟨held, moves⟩⟩
  rintro checkedAt after rfl
  apply (Program.follows_bind _ _ _ _ _).mpr
  apply (upsertServices_follows host checkedAt listing.containers held).mono
  rintro outcome phase ⟨heldAfter, rfl⟩
  cases outcome with
  | error error => exact ⟨heldAfter, rfl⟩
  | ok upserted =>
  apply (Program.follows_perform_bind _).mpr
  refine ⟨trivial, ?_, fun error after moves => ⟨[], moves⟩⟩
  rintro existingServices after rfl
  apply markUnknown_follows
  exact fun service member => (List.mem_filter.mp member).1

end Syncing

/-! ### What every call keeps -/

/-- The tables as the job relies on them: its rows are there, and no service but its own
has the new container. -/
structure Intact (platform : Platform) (rollback : ServedRollback) (event : RollbackEvent)
    (saved : Bool) (db : Database) : Prop where
  owns : rollback.Owns event
  row : db.events.byId rollback.event.id = some event
  unopposed : Unopposed db.events rollback.event
  host : db.hosts.byId rollback.host.id = some rollback.host
  target : ∃ isCurrent, db.snapshots.byId rollback.targetSnapshot.id =
    some { rollback.targetSnapshot with isCurrent := isCurrent }
  service : ∃ service ∈ db.services, service.id = rollback.service.id ∧
    service.hostId = rollback.service.hostId ∧
    (saved = true → service.containerId = rollback.containerId platform)
  unclaimed : Unclaimed db.services rollback.service (rollback.containerId platform)

/-- What is held has its rows, with the same containers; that of the rollback's service may
have another one by now where it is outdated. -/
def StillStored (rollback : ServedRollback) (db : Database) (outdated : Bool)
    (held : List Service) : Prop :=
  ∀ copy ∈ held, ∃ row ∈ db.services, row.id = copy.id ∧ row.hostId = copy.hostId ∧
    (row.containerId = copy.containerId ∨ copy.id = rollback.service.id ∧ outdated = true)

/-- What the job is answered is as it expects, the tables are as it relies on them again,
and what others hold is stored, if only outdated once the service has been saved. -/
structure RollingAnswered (platform : Platform) (rollback : ServedRollback)
    (event : RollbackEvent) (saved : Bool) (db : Database) (call : Call)
    (reply : Except JsError call.Reply) (after : Database) : Prop where
  expected : ∃ value, reply = .ok value ∧ Expected rollback event call value
  intact : Intact platform rollback (eventNext event call) (saved || call.savesService reply)
    after
  stored : ∀ outdated held, StillStored rollback db outdated held →
    StillStored rollback after (outdated || call.savesService reply) held

section Steps

variable {platform : Platform} {rollback : ServedRollback} {event : RollbackEvent}
  {saved outdated : Bool} {held : List Service} {db after : Database} {call : Call}
  {reply : Except JsError call.Reply}

theorem Intact.frame (intact : Intact platform rollback event saved db)
    (events : after.events = db.events) (hosts : after.hosts = db.hosts)
    (snapshots : after.snapshots = db.snapshots) (services : after.services = db.services) :
    Intact platform rollback event saved after := by
  constructor
  · exact intact.owns
  · rw [events]
    exact intact.row
  · rw [events]
    exact intact.unopposed
  · rw [hosts]
    exact intact.host
  · rw [snapshots]
    exact intact.target
  · rw [services]
    exact intact.service
  · rw [services]
    exact intact.unclaimed

theorem keepsRows_of_services (same : after.services = db.services) : KeepsRows db after := by
  intro service member
  refine ⟨service, ?_, rfl, rfl, rfl⟩
  rw [same]
  exact member

/-- A query that writes none of these tables. -/
theorem syncing_untouched {q : Query} {reply : Except JsError q.Reply}
    (intact : Intact platform rollback event saved db)
    (events : q.writesEvents = false) (hosts : q.writesHosts = false)
    (snapshots : q.writesSnapshots = false) (services : q.writesServices = false)
    (answered : Answered (fun _ => True) db (.query q) reply after) :
    Intact platform rollback event saved after ∧ KeepsRows db after := by
  rcases answered with ⟨error, -, -, same⟩ | ⟨-, same⟩
  · rw [same]
    exact ⟨intact, .refl db⟩
  · rw [same]
    constructor
    · exact intact.frame (Database.perform_events events) (Database.perform_hosts hosts)
        (Database.perform_snapshots snapshots) (Database.perform_services services)
    · exact keepsRows_of_services (Database.perform_services services)

/-- A new snapshot only makes the target one that is not current. -/
theorem Intact.createSnapshot (intact : Intact platform rollback event saved db)
    (snapshot : DeploymentSnapshot) :
    Intact platform rollback event saved (db.perform (.createSnapshot snapshot)).2 := by
  obtain ⟨created, snapshots, performs, -, rows⟩ := perform_createSnapshot_ok db snapshot
  obtain ⟨isCurrent, found⟩ := intact.target
  obtain ⟨member, -⟩ := Table.byId_eq_some.mp found
  have retired : ∃ stillCurrent, DeploymentSnapshot.retire snapshot.serviceId
      { rollback.targetSnapshot with isCurrent := isCurrent } =
        { rollback.targetSnapshot with isCurrent := stillCurrent } := by
    unfold DeploymentSnapshot.retire
    split
    · exact ⟨false, rfl⟩
    · exact ⟨isCurrent, rfl⟩
  obtain ⟨stillCurrent, same⟩ := retired
  rw [performs]
  refine
    { intact with
      target := ⟨stillCurrent, Table.byId_eq_some.mpr ⟨?_, rfl⟩⟩ }
  rw [Table.mem_iff, rows, ← same]
  exact List.mem_append_left _ (List.mem_map_of_mem member)

/-- Rows that stay keep what is held stored. -/
theorem StillStored.of_kept (stored : StillStored rollback db outdated held)
    (keeps : KeepsRows db after) : StillStored rollback after outdated held := by
  intro copy member
  obtain ⟨row, present, sameId, sameHost, sameContainer⟩ := stored copy member
  obtain ⟨kept, keptMember, keptId, keptHost, keptContainer⟩ := keeps row present
  refine ⟨kept, keptMember, keptId.trans sameId, keptHost.trans sameHost, ?_⟩
  exact sameContainer.imp_left keptContainer.trans

/-- What has just been read is stored. -/
theorem stored_of_read (read : ∀ copy ∈ held, copy ∈ db.services) :
    StillStored rollback db false held :=
  fun copy member => ⟨copy, read copy member, rfl, rfl, .inl rfl⟩

/-- An inserted service is another one's, or of another container. -/
theorem syncing_insert {row : Service} {reply : Except JsError Service}
    (intact : Intact platform rollback event saved db)
    (inserts : row.hostId = rollback.service.hostId →
      row.containerId = rollback.containerId platform → saved = true)
    (answered : Answered (fun _ => True) db (.query (.insertService row)) reply after) :
    Intact platform rollback event saved after ∧ KeepsRows db after := by
  rcases answered.written rfl with
    ⟨error, -, rfl⟩ | ⟨⟨service, services⟩, inserted, -, rfl⟩
  · exact ⟨intact, .refl _⟩
  have members : ∀ other, other ∈ services ↔ other = service ∨ other ∈ db.services :=
    fun other => Table.mem_insert rfl inserted
  have made : service = { row with id := db.services.nextId } :=
    (Table.insert_eq_some.mp inserted).1
  constructor
  · obtain ⟨own, member, sameId, sameHost, named⟩ := intact.service
    refine
      { intact with
        service := ⟨own, (members own).mpr (.inr member), sameId, sameHost, named⟩
        unclaimed := ?_ }
    intro other present differs onHost claims
    rcases (members other).mp present with rfl | old
    · have hasSaved : saved = true := by
        apply inserts
        · rw [made] at onHost
          exact onHost
        · rw [made] at claims
          exact claims
      have sameKey : own = other := by
        apply service_unique ((members own).mpr (.inr member)) present
        · exact sameHost.trans onHost.symm
        · exact (named hasSaved).trans claims.symm
      exact differs (by rw [← sameKey, sameId])
    · exact intact.unclaimed other old differs onHost claims
  · intro old member
    exact ⟨old, (members old).mpr (.inr member), rfl, rfl, rfl⟩

/-- A service is saved with the container that it has. -/
theorem syncing_save {row : Service} {reply : Except JsError Service}
    (intact : Intact platform rollback event saved db)
    (stored : StillStored rollback db outdated held) (holding : HoldsRow held row)
    (saves : row.id = rollback.service.id → outdated = false)
    (answered : Answered (fun _ => True) db (.query (.saveService row)) reply after) :
    Intact platform rollback event saved after ∧ KeepsRows db after := by
  rcases answered.written rfl with ⟨error, -, rfl⟩ | ⟨services, written, -, rfl⟩
  · exact ⟨intact, .refl _⟩
  obtain ⟨copy, inHeld, copyId, copyHost, copyContainer⟩ := holding
  obtain ⟨old, present, oldId, oldHost, oldContainer⟩ := stored copy inHeld
  have sameContainer : row.containerId = old.containerId := by
    rcases oldContainer with same | ⟨ofRollback, isOutdated⟩
    · exact copyContainer.trans same.symm
    · rw [saves (copyId.trans ofRollback)] at isOutdated
      cases isOutdated
  have sameId : row.id = old.id := copyId.trans oldId.symm
  have sameHost : row.hostId = old.hostId := copyHost.trans oldHost.symm
  have members : ∀ other, other ∈ services ↔
      other = row ∨ other ∈ db.services ∧ other.id ≠ row.id :=
    fun other => Table.mem_save written
  have keeps : KeepsRows db { db with services := services } := by
    intro service member
    by_cases same : service.id = row.id
    · have isOld : service = old := Table.eq_of_id member present (same.trans sameId)
      refine ⟨row, (members row).mpr (.inl rfl), same.symm, ?_, ?_⟩
      · rw [isOld, sameHost]
      · rw [isOld, sameContainer]
    · exact ⟨service, (members service).mpr (.inr ⟨member, same⟩), rfl, rfl, rfl⟩
  refine ⟨?_, keeps⟩
  obtain ⟨own, member, ownId, ownHost, named⟩ := intact.service
  obtain ⟨kept, keptMember, keptId, keptHost, keptContainer⟩ := keeps own member
  refine
    { intact with
      service := ⟨kept, keptMember, keptId.trans ownId, keptHost.trans ownHost,
        fun hasSaved => keptContainer.trans (named hasSaved)⟩
      unclaimed := ?_ }
  intro other isPresent differs onHost claims
  rcases (members other).mp isPresent with rfl | ⟨isOld, -⟩
  · apply intact.unclaimed old present
    · rw [← sameId]
      exact differs
    · rw [← sameHost]
      exact onHost
    · rw [← sameContainer]
      exact claims
  · exact intact.unclaimed other isOld differs onHost claims

/-- A call of a sync leaves all services where they are, and what it holds stored. -/
theorem syncing_step (intact : Intact platform rollback event saved db)
    (stored : StillStored rollback db outdated held) (allowed : SyncingAllows held call)
    (inserts : ∀ row, call = .query (.insertService row) →
      row.hostId = rollback.service.hostId →
        row.containerId = rollback.containerId platform → saved = true)
    (saves : ∀ row, call = .query (.saveService row) → row.id = rollback.service.id →
      outdated = false)
    (answered : Answered (fun _ => True) db call reply after) :
    Intact platform rollback event saved after ∧ KeepsRows db after ∧
      StillStored rollback after (if call.readsServices then false else outdated)
        (heldNext held call reply) := by
  have written : Intact platform rollback event saved after ∧ KeepsRows db after →
      call.readsServices = false → heldNext held call reply = held →
        Intact platform rollback event saved after ∧ KeepsRows db after ∧
          StillStored rollback after (if call.readsServices then false else outdated)
            (heldNext held call reply) := by
    rintro ⟨intactAfter, keeps⟩ readsNothing same
    rw [same, readsNothing]
    exact ⟨intactAfter, keeps, stored.of_kept keeps⟩
  cases call with
  | query q =>
      cases q with
      | insertService row =>
          exact written (syncing_insert intact (inserts row rfl) answered) rfl rfl
      | saveService row =>
          exact written (syncing_save intact stored allowed (saves row rfl) answered) rfl rfl
      | findServiceByContainer hostId containerId =>
          rcases answered with ⟨error, -, rfl, rfl⟩ | ⟨rfl, rfl⟩
          · exact ⟨intact, .refl _, stored_of_read nofun⟩
          · refine ⟨intact, .refl _, stored_of_read ?_⟩
            intro copy member
            exact (Table.findOne_mem (Option.mem_toList.mp member)).1
      | findServicesOfHost hostId =>
          rcases answered with ⟨error, -, rfl, rfl⟩ | ⟨rfl, rfl⟩
          · exact ⟨intact, .refl _, stored_of_read nofun⟩
          · refine ⟨intact, .refl _, stored_of_read ?_⟩
            intro copy member
            exact (Table.mem_find.mp member).1
      | createSnapshot snapshot =>
          apply written _ rfl rfl
          rcases answered with ⟨error, -, -, rfl⟩ | ⟨-, rfl⟩
          · exact ⟨intact, .refl _⟩
          · exact ⟨intact.createSnapshot snapshot,
              keepsRows_of_services (Database.perform_services rfl)⟩
      | _ =>
          first
          | exact allowed.elim
          | exact written (syncing_untouched intact rfl rfl rfl rfl answered) rfl rfl
  | _ =>
      obtain ⟨-, rfl⟩ := answered
      exact written ⟨intact, .refl _⟩ rfl rfl

/-- A query of the job that can be carried out is. -/
theorem Answered.unfailing {q : Query} {reply : Except JsError q.Reply} {value : q.Reply}
    {next : Database} (answered : Answered (fun _ => False) db (.query q) reply after)
    (performs : db.perform q = (.ok value, next)) : reply = .ok value ∧ after = next := by
  rcases answered with ⟨error, absurd, -⟩ | ⟨replied, same⟩
  · exact absurd.elim
  · rw [performs] at replied same
    exact ⟨replied, same⟩

/-- A call of the job that leaves the services alone. -/
theorem rolling_unsaved {value : call.Reply}
    (intact : Intact platform rollback (eventNext event call) saved after)
    (services : after.services = db.services) (savesNothing : call.savesService reply = false)
    (replied : reply = .ok value) (expected : Expected rollback event call value) :
    RollingAnswered platform rollback event saved db call reply after := by
  refine ⟨⟨value, replied, expected⟩, ?_, ?_⟩
  · rw [savesNothing, Bool.or_false]
    exact intact
  · intro outdated held stored
    rw [savesNothing, Bool.or_false]
    exact stored.of_kept (keepsRows_of_services services)

/-- The event can always be saved, since no other one of its service is active. -/
theorem rolling_saveEvent {row : RollbackEvent} {reply : Except JsError RollbackEvent}
    (intact : Intact platform rollback event saved db) (owns : rollback.Owns row)
    (answered : Answered (fun _ => False) db (.query (.saveEvent row)) reply after) :
    RollingAnswered platform rollback event saved db (.query (.saveEvent row)) reply after := by
  have clear : ¬ db.events.Clashes row := by
    rintro ⟨other, member, differs, key, ofRow, ofOther⟩
    simp only [Keyed.index, Option.mem_def, Option.ite_none_right_eq_some,
      Option.some.injEq] at ofRow ofOther
    apply intact.unopposed other member
    · intro same
      exact differs (same.trans owns.id.symm)
    · exact ofOther.2.trans (ofRow.2.symm.trans owns.serviceId)
    · exact ofOther.1
  obtain ⟨events, written⟩ := Table.exists_save clear
  have performs : db.perform (.saveEvent row) = (.ok row, { db with events := events }) := by
    simp only [Database.perform, Database.answer, written, Option.map_some]
  obtain ⟨replied, same⟩ := answered.unfailing performs
  have written : Intact platform rollback row saved after := by
    rw [same]
    refine
      { intact with
        owns := owns
        row := ?_
        unopposed := ?_ }
    · rw [Table.byId_save written]
      exact if_pos owns.id.symm
    · intro other member differs
      rcases (Table.mem_save written).mp member with rfl | ⟨old, -⟩
      · exact absurd owns.id differs
      · exact intact.unopposed other old differs
  apply rolling_unsaved written
  · rw [same]
  · rfl
  · exact replied
  · trivial

/-- The service can be saved, since no other one has the new container. -/
theorem rolling_saveService {row : Service} {reply : Except JsError Service}
    (intact : Intact platform rollback event saved db) (sameId : row.id = rollback.service.id)
    (sameHost : row.hostId = rollback.service.hostId)
    (named : row.containerId = rollback.containerId platform)
    (answered : Answered (fun _ => False) db (.query (.saveService row)) reply after) :
    RollingAnswered platform rollback event saved db (.query (.saveService row)) reply
      after := by
  have clear : ¬ db.services.Clashes row := by
    rintro ⟨other, member, differs, key, ofRow, ofOther⟩
    obtain ⟨onHost, claims⟩ := Prod.mk.inj (Option.some.inj (ofOther.trans ofRow.symm))
    apply intact.unclaimed other member
    · intro same
      exact differs (same.trans sameId.symm)
    · exact onHost.trans sameHost
    · exact claims.trans named
  obtain ⟨services, written, performs⟩ := perform_saveService_ok clear
  have members : ∀ other, other ∈ services ↔
      other = row ∨ other ∈ db.services ∧ other.id ≠ row.id :=
    fun other => Table.mem_save written
  obtain ⟨rfl, rfl⟩ := answered.unfailing performs
  refine ⟨⟨row, rfl, trivial⟩, ?_, ?_⟩
  · refine
      { intact with
        service := ⟨row, (members row).mpr (.inl rfl), sameId, sameHost, fun _ => named⟩
        unclaimed := ?_ }
    intro other member differs
    rcases (members other).mp member with rfl | ⟨old, -⟩
    · exact absurd sameId differs
    · exact intact.unclaimed other old differs
  · intro outdated held stored copy member
    obtain ⟨old, present, oldId, oldHost, oldContainer⟩ := stored copy member
    by_cases same : old.id = row.id
    · refine ⟨row, (members row).mpr (.inl rfl), same.symm.trans oldId, ?_, .inr ⟨?_, ?_⟩⟩
      · obtain ⟨own, ownMember, ownId, ownHost, -⟩ := intact.service
        have isOwn : own = old :=
          Table.eq_of_id ownMember present (ownId.trans (sameId.symm.trans same.symm))
        rw [← oldHost, ← isOwn, ownHost]
        exact sameHost
      · exact oldId.symm.trans (same.trans sameId)
      · exact Bool.or_true outdated
    · refine ⟨old, (members old).mpr (.inr ⟨present, same⟩), oldId, oldHost, ?_⟩
      exact oldContainer.imp_right fun both => ⟨both.1, by simp [both.2]⟩

/-- The job reads what it relies on. -/
theorem rolling_read {q : Query} {found : q.Reply} {reply : Except JsError q.Reply}
    (intact : Intact platform rollback event saved db)
    (reads : db.perform q = (.ok found, db)) (sameEvent : eventNext event (.query q) = event)
    (savesNothing : ∀ reply, Call.savesService (.query q) reply = false)
    (expected : Expected rollback event (.query q) found)
    (answered : Answered (fun _ => False) db (.query q) reply after) :
    RollingAnswered platform rollback event saved db (.query q) reply after := by
  obtain ⟨replied, same⟩ := answered.unfailing reads
  apply rolling_unsaved _ _ (savesNothing reply) replied expected
  · rw [sameEvent, same]
    exact intact
  · rw [same]

/-- Each call of the job is answered as it expects. -/
theorem rolling_step (intact : Intact platform rollback event saved db)
    (allowed : RollingAllows platform rollback call)
    (answered : Answered (fun _ => False) db call reply after)
    (serves : rollback.Serves call reply) :
    RollingAnswered platform rollback event saved db call reply after := by
  cases call with
  | query q =>
      cases q with
      | findEvent id =>
          obtain rfl : id = rollback.event.id := allowed
          exact rolling_read intact rfl rfl (fun _ => rfl) intact.row answered
      | saveEvent row => exact rolling_saveEvent intact ⟨allowed.1, allowed.2⟩ answered
      | findService id =>
          obtain rfl : id = rollback.service.id := allowed
          obtain ⟨own, member, sameId, sameHost, -⟩ := intact.service
          have found := Table.byId_eq_some.mpr ⟨member, sameId⟩
          exact rolling_read intact rfl rfl (fun _ => rfl) ⟨own, found, sameId, sameHost⟩
            answered
      | findHost id =>
          obtain rfl : id = rollback.host.id := allowed
          exact rolling_read intact rfl rfl (fun _ => rfl) intact.host answered
      | findSnapshot id =>
          obtain rfl : id = rollback.targetSnapshot.id := allowed
          exact rolling_read intact rfl rfl (fun _ => rfl) intact.target answered
      | saveService row =>
          exact rolling_saveService intact allowed.1 allowed.2.1 allowed.2.2 answered
      | createSnapshot snapshot =>
          obtain ⟨created, snapshots, performs, -⟩ := perform_createSnapshot_ok db snapshot
          have intactAfter := intact.createSnapshot snapshot
          obtain ⟨replied, same⟩ := answered.unfailing performs
          rw [performs] at intactAfter
          rw [← same] at intactAfter
          apply rolling_unsaved intactAfter _ _ replied trivial
          · rw [same]
          · rfl
      | writeHealthCheckLog log =>
          obtain ⟨written, logs, performs⟩ := perform_writeHealthCheckLog_ok db log
          obtain ⟨replied, same⟩ := answered.unfailing performs
          apply rolling_unsaved _ _ _ replied trivial
          · rw [same]
            exact intact.frame rfl rfl rfl rfl
          · rw [same]
          · rfl
      | _ => exact allowed.elim
  | execCommand options command =>
      obtain ⟨served, rfl⟩ := answered
      cases reply with
      | error error => exact (served error rfl).elim
      | ok answer => exact rolling_unsaved intact rfl rfl rfl (serves answer rfl)
  | _ =>
      first
      | exact allowed.elim
      | obtain ⟨served, rfl⟩ := answered
        cases reply with
        | error error => exact (served error rfl).elim
        | ok value => exact rolling_unsaved intact rfl rfl rfl trivial

end Steps

/-! ### Any interleaving -/

section Dependable

variable {ι : Type} [DecidableEq ι] {platform : Platform} {rollback : ServedRollback}

/-- The invariant: the job finds its rows, and the syncs hold rows as they are stored,
unless outdated. -/
structure Dependable (platform : Platform) (rollback : ServedRollback)
    (phases : Option ι → BesidePhase) (shared : SharedRows ι) : Prop where
  rolling : ∃ event, phases none = .rolling event shared.saved ∧
    Intact platform rollback event shared.saved shared.database
  syncing : ∀ sync, ∃ held, phases (some sync) = .syncing held ∧
    StillStored rollback shared.database (shared.outdated sync) held

theorem SharedRows.outdated_ofSync_self (shared : SharedRows ι) (sync : ι) (call : Call)
    (database : Database) : (shared.ofSync sync call database).outdated sync =
      if call.readsServices then false else shared.outdated sync := by
  simp [SharedRows.ofSync]

theorem SharedRows.outdated_ofSync_other {shared : SharedRows ι} {sync other : ι} {call : Call}
    {database : Database} (differs : other ≠ sync) :
    (shared.ofSync sync call database).outdated other = shared.outdated other :=
  if_neg fun both => differs both.1

theorem dependable_keeps :
    Pool.Keeps (fun _ : Option ι => besideProtocol platform rollback)
      (Pool.guarded (Considerate platform rollback) (besideAnswers rollback))
      (Dependable platform rollback) := by
  rintro phases shared thread (call : Call) reply after ⟨⟨event, rolling, intact⟩, syncing⟩ allowed
    ⟨considerate, database, clock, answered⟩
  cases thread with
  | none =>
      obtain ⟨answered, serves, rfl⟩ := answered
      rw [rolling] at allowed ⊢
      obtain ⟨expected, intactAfter, stored⟩ := rolling_step intact allowed answered serves
      refine ⟨_, ⟨expected, rfl⟩, ⟨_, Function.update_self _ _ _,
        intactAfter.frame rfl rfl rfl rfl⟩, ?_⟩
      intro sync
      obtain ⟨held, phase, storedBefore⟩ := syncing sync
      refine ⟨held, ?_, stored _ _ storedBefore⟩
      rw [Function.update_of_ne (Option.some_ne_none sync)]
      exact phase
  | some sync =>
      obtain ⟨answered, rfl⟩ := answered
      obtain ⟨held, phase, stored⟩ := syncing sync
      have inserts : ∀ row, call = .query (.insertService row) →
          row.hostId = rollback.service.hostId →
            row.containerId = rollback.containerId platform → shared.saved = true := by
        rintro row rfl
        exact considerate
      have saves : ∀ row, call = .query (.saveService row) →
          row.id = rollback.service.id → shared.outdated sync = false := by
        rintro row rfl
        exact considerate
      rw [phase] at allowed ⊢
      obtain ⟨intactAfter, keeps, storedAfter⟩ :=
        syncing_step intact stored allowed inserts saves answered
      refine ⟨_, rfl, ⟨event, ?_, intactAfter.frame rfl rfl rfl rfl⟩, ?_⟩
      · rw [Function.update_of_ne (Option.some_ne_none sync).symm]
        exact rolling
      intro other
      by_cases same : other = sync
      · subst same
        refine ⟨_, Function.update_self _ _ _, ?_⟩
        rw [SharedRows.outdated_ofSync_self]
        exact storedAfter
      · obtain ⟨otherHeld, otherPhase, otherStored⟩ := syncing other
        refine ⟨otherHeld, ?_, ?_⟩
        · rw [Function.update_of_ne fun eq => same (Option.some.inj eq)]
          exact otherPhase
        · rw [SharedRows.outdated_ofSync_other same]
          exact otherStored.of_kept keeps

/-- A job that docker carries out keeps its service's row beside any syncs, as long as none
of them takes the new container first or writes the service back as it was before. -/
theorem rollback_keeps_identity (platform : Platform) (rollback : ServedRollback)
    (prepared : rollback.Prepared platform) (syncs : ι → Host × SshCommandResult)
    {pool : Pool Calls JsError (Option ι) Unit (SharedRows ι)}
    (reaches : Pool.Reaches
      (Pool.guarded (Considerate platform rollback) (besideAnswers rollback))
      (besidePool platform rollback syncs) pool) {outcome : Except JsError Unit}
    (ended : pool.Ended none outcome) :
    IdentityKept platform rollback pool.store.database := by
  have starts : (besidePool platform rollback syncs).Follows
      (fun _ => besideProtocol platform rollback)
      (fun thread _ phase => thread = none → Succeeds phase)
      (fun thread => if thread = none then .rolling rollback.event false else .syncing []) := by
    intro thread
    cases thread with
    | none => exact (process_keeps prepared).mono fun outcome phase succeeds _ => succeeds
    | some thread =>
        exact (sync_follows _ _).mono fun outcome phase _ absurd => nomatch absurd
  have dependable : Dependable platform rollback
      (fun thread : Option ι =>
        if thread = none then BesidePhase.rolling rollback.event false else .syncing [])
      (besidePool platform rollback syncs).store := by
    obtain ⟨requested, onService, onHost, target, -⟩ := prepared.inputs
    obtain ⟨member, sameId⟩ := Table.byId_eq_some.mp onService
    refine ⟨⟨rollback.event, rfl, ?_⟩, fun sync => ⟨[], rfl, nofun⟩⟩
    have sameHost := (Table.byId_eq_some.mp onHost).2
    have sameTarget := (Table.byId_eq_some.mp target).2
    constructor
    · exact ⟨rfl, rfl⟩
    · exact requested
    · exact prepared.unopposed
    · exact (congrArg rollback.database.hosts.byId sameHost).trans onHost
    · refine ⟨rollback.targetSnapshot.isCurrent, ?_⟩
      exact (congrArg rollback.database.snapshots.byId sameTarget).trans target
    · exact ⟨rollback.service, member, rfl, rfl, nofun⟩
    · exact prepared.unclaimed
  obtain ⟨phases, follows, ⟨event, rolling, intact⟩, -⟩ :=
    reaches.invariant dependable_keeps starts dependable
  obtain ⟨last, phase, succeeded⟩ := follows.ended ended rfl
  obtain ⟨rfl, hasSaved⟩ := BesidePhase.rolling.inj (rolling.symm.trans phase)
  obtain ⟨own, member, sameId, sameHost, named⟩ := intact.service
  constructor
  · refine ⟨own, member, sameId, sameHost, named hasSaved, ?_⟩
    intro other present onHost claims
    exact service_unique present member (onHost.trans sameHost.symm)
      (claims.trans (named hasSaved).symm)
  · rw [intact.row]
    exact congrArg some succeeded

end Dependable

/-! ### A container that is listed before the job saves its service -/

/-- The new container. -/
def webContainer : PsRow :=
  { id := "b7e0"
    image := "nginx:1.26"
    names := "web"
    ports := ""
    status := "Up 2 seconds" }

theorem webContainer_complete : webContainer.Complete := by
  constructor <;> decide

/-- The container that the service has before. -/
def webBefore : PsRow :=
  { id := "4f2a"
    image := "nginx:1.26"
    names := "web"
    ports := ""
    status := "Up 3 days" }

def webRollback : ServedRollback where
  database := requestedDatabase webConfigBlob
  event := requestedRollback
  service := ((requestedDatabase webConfigBlob).services.byId 1).getD default
  host := ((requestedDatabase webConfigBlob).hosts.byId 2).getD default
  targetSnapshot := ((requestedDatabase webConfigBlob).snapshots.byId 4).getD default
  privateKey := "key"
  config := webConfig.toJson
  blob := webConfig
  container := webContainer.toContainer

theorem webRollback_prepared : webRollback.Prepared .transparent where
  inputs := ⟨rfl, rfl, rfl, rfl, rfl⟩
  unopposed := by
    intro other member differs
    have same : other = requestedRollback := List.mem_singleton.mp member
    exact absurd (congrArg RollbackEvent.id same) differs
  decrypts := decryptConfig_stored rfl
  reads := readConfig_toJson webConfig
  running := by decide
  unclaimed := by
    intro other member differs
    have same : other = webRollback.service := List.mem_singleton.mp member
    exact absurd (congrArg Service.id same) differs

/-- Every command succeeds, and the new container is listed. -/
def webSurroundings : Surroundings :=
  { Surroundings.quiet with
    exec := fun command =>
      { stdout := if command = dockerPsAllJsonCommand then psOutput [webContainer] else ""
        stderr := ""
        code := some 0 } }

def besideMachine (thread : Option Unit) : Machine Calls JsError (SharedRows Unit) :=
  fun (call : Call) shared =>
    let answer := webSurroundings.answer shared.database call
    (answer.1, match thread with
      | none => shared.ofJob call answer.1 answer.2
      | some sync => shared.ofSync sync call answer.2)

theorem besideMachine_answers (thread : Option Unit) (call : Call)
    (shared : SharedRows Unit) :
    besideAnswers webRollback thread call shared (besideMachine thread call shared).1
      (besideMachine thread call shared).2 := by
  refine ⟨(webSurroundings.answer shared.database call).2,
    (webSurroundings.answer shared.database call).2.clock, ?_⟩
  cases thread with
  | some sync => exact ⟨webSurroundings.answered (fun _ _ => trivial) _ call, rfl⟩
  | none =>
      refine ⟨webSurroundings.answered nofun _ call, ?_, rfl⟩
      cases call with
      | execCommand options command =>
          rintro answer ⟨⟩
          refine ⟨fun _ => rfl, ?_⟩
          rintro rfl
          refine ⟨{ containers := [webContainer.toContainer], skippedLines := 0 }, ?_, rfl⟩
          apply parseDockerPsOutput_psOutput
          intro row member
          rw [List.mem_singleton.mp member]
          exact webContainer_complete
      | _ => trivial

/-- A sync that has been given this listing. -/
def listingOf (row : PsRow) (_ : Unit) : Host × SshCommandResult :=
  (webRollback.host,
    { command := dockerPsAllJsonCommand
      stdout := psOutput [row]
      stderr := ""
      exitCode := some 0 })

/-- A sync of the listing that the job has seen runs between the last command of the job
and the save of its service, which is the job's twenty-second call. -/
def takingPool : Pool Calls JsError (Option Unit) Unit (SharedRows Unit) :=
  ((besidePool .transparent webRollback (listingOf webContainer)).advanced
    (besideMachine none) none 21).completed (some ()) (besideMachine (some ()))

def takenPool : Pool Calls JsError (Option Unit) Unit (SharedRows Unit) :=
  takingPool.completed none (besideMachine none)

/-- The sync inserts a row for the new container, on which the save of the job fails: the
event stays in progress. -/
theorem sync_takes_container :
    webRollback.Prepared .transparent ∧
      Pool.Reaches (besideAnswers webRollback)
        (besidePool .transparent webRollback (listingOf webContainer)) takenPool ∧
      (∀ thread, ∃ outcome, takenPool.Ended thread outcome) ∧
      ¬ IdentityKept .transparent webRollback takenPool.store.database := by
  refine ⟨webRollback_prepared, ?_, ?_, ?_⟩
  · apply Pool.Reaches.run _ none (besideMachine none) (besideMachine_answers none)
    apply Pool.Reaches.run _ (some ()) _ (besideMachine_answers (some ()))
    exact Pool.Reaches.advanced .refl none _ (besideMachine_answers none) 21
  · intro thread
    cases thread with
    | none => exact ⟨_, Pool.ended_completed takingPool none (besideMachine none)⟩
    | some sync =>
        have ended := Pool.ended_completed
          ((besidePool .transparent webRollback (listingOf webContainer)).advanced
            (besideMachine none) none 21) (some sync) (besideMachine (some sync))
        exact ⟨_, Pool.Ended.completed ended (Option.some_ne_none sync) (besideMachine none)⟩
  · rintro ⟨-, succeeded⟩
    have stays : (takenPool.store.database.events.byId 7).map RollbackEvent.status =
        some .inProgress := by decide +kernel
    cases stays.symm.trans succeeded

/-- Whether a sync may make a call. -/
def mayCall (call : Call) (shared : SharedRows Unit) : Bool :=
  match call with
  | .query (.insertService row) => row.containerId != "b7e0" || shared.saved
  | .query (.saveService row) => row.id != 1 || !shared.outdated ()
  | _ => true

/-- The answers of the machine in a run that meets the condition. -/
theorem considerate_answers (thread : Option Unit) (call : Call) (shared : SharedRows Unit)
    (may : thread = none ∨ mayCall call shared = true) :
    Pool.guarded (Considerate .transparent webRollback) (besideAnswers webRollback) thread call
      shared (besideMachine thread call shared).1 (besideMachine thread call shared).2 := by
  refine ⟨?_, besideMachine_answers thread call shared⟩
  cases thread with
  | none => trivial
  | some sync =>
      have allowed : mayCall call shared = true := may.resolve_left (Option.some_ne_none sync)
      cases call with
      | query q =>
          cases q with
          | insertService row =>
              intro _ claims
              have isNew : row.containerId = "b7e0" := claims
              simpa [mayCall, isNew] using allowed
          | saveService row =>
              intro same
              have isOwn : row.id = 1 := same
              simpa [mayCall, isOwn] using allowed
          | _ => trivial
      | _ => trivial

/-- A sync of the listing before reads the service, and saves it while the job is at work. -/
def overlappedPool : Pool Calls JsError (Option Unit) Unit (SharedRows Unit) :=
  (((besidePool .transparent webRollback (listingOf webBefore)).advanced
    (besideMachine (some ())) (some ()) 2).advanced (besideMachine none) none 5).advanced
      (besideMachine (some ())) (some ()) 1

/-- After the end of the job the sync marks the service as unknown, since its listing lacks
the new container. -/
def markedPool : Pool Calls JsError (Option Unit) Unit (SharedRows Unit) :=
  (overlappedPool.completed none (besideMachine none)).advanced (besideMachine (some ()))
    (some ()) 6

theorem markedPool_reached : Pool.Reaches
    (Pool.guarded (Considerate .transparent webRollback) (besideAnswers webRollback))
    (besidePool .transparent webRollback (listingOf webBefore)) markedPool := by
  have bySync := fun call shared may => considerate_answers (some ()) call shared (.inr may)
  have byJob := fun call shared => considerate_answers none call shared (.inl rfl)
  apply Pool.Reaches.advancedMeeting _ (some ()) _ mayCall bySync 6
  · decide +kernel
  apply Pool.Reaches.run _ none _ byJob
  apply Pool.Reaches.advancedMeeting _ (some ()) _ mayCall bySync 1
  · decide +kernel
  apply Pool.Reaches.advanced _ none _ byJob
  apply Pool.Reaches.advancedMeeting .refl (some ()) _ mayCall bySync 2
  decide +kernel

/-- It writes only what it has read after the job's save, so the row keeps the new
container. -/
theorem rollback_keeps_identity_marked :
    IdentityKept .transparent webRollback markedPool.store.database ∧
      (markedPool.store.database.services.byId 1).map Service.status = some .unknown := by
  constructor
  · have ended := (Pool.ended_completed overlappedPool none (besideMachine none)).advanced
      (Option.some_ne_none ()).symm (besideMachine (some ())) 6
    exact rollback_keeps_identity .transparent webRollback webRollback_prepared
      (listingOf webBefore) markedPool_reached ended
  · decide +kernel

end ServersManager
