/-
Module: ServersManager.ServicesSync
Purpose: The synchronization of service rows with a host's container listing.
Trusted boundary: none
Main exports:
  upsertService, captureSnapshotIfImageChanged, markMissingServicesUnknown, sync,
  inspectCommand, Call.OfSync, Call.OfSyncAt, Call.OfCapture, runCommands_only,
  captureSnapshotIfImageChanged_only, sync_only
-/
import ServersManager.Alerts

namespace ServersManager

open Library

/-! ### `services/services-sync.service.ts` -/

section Sync

variable (platform : Platform)

/-- The id is inserted as it was listed, whatever value that is. -/
def inspectCommand (container : DockerPsContainer) : Except JsError String :=
  (templateText platform.numberText container.id).map ("docker inspect " ++ ·)

/-- The `try` block of `captureSnapshotIfImageChanged`. -/
def captureSnapshot (host : Host) (service : Service) (container : DockerPsContainer)
    (privateKey : String) : Job Unit := do
  let command ← Program.ofExcept (inspectCommand platform container)
  let results ← runCommands (host.sshOptions privateKey) [command]
  match results with
  | [] => throw (.typeError
      "Cannot read properties of undefined (reading 'exitCode')")
  | inspectResult :: _ =>
      if inspectResult.exitCode ≠ some 0 then
        return ()
      match ← Program.ofExcept
          (parseDockerInspectOutput platform.numberText inspectResult.stdout) with
      | none => return ()
      | some config =>
          let _ ← createSnapshot platform
            { serviceId := service.id
              imageTag := platform.columnText container.image
              config := config
              deployedAt := ← now
              deployedById := none }
          return ()

def captureSnapshotIfImageChanged (host : Host) (service : Service)
    (container : DockerPsContainer) : Job Unit := do
  let currentSnapshot ← findCurrentForService service.id
  if currentSnapshot.any fun snapshot => isText snapshot.imageTag container.image then
    return ()
  match platform.decrypt host.sshKeyEncrypted with
  | .error _ => return ()
  | .ok privateKey =>
      tryCatch (captureSnapshot platform host service container privateKey)
        fun _ => return ()

/-- `container.ports ? { raw: container.ports } : null`. -/
def portMappings (ports : Json) : Option Json :=
  if truthy ports then some (.obj [("raw", ports)]) else none

/-- The row for a container: the one found for its id, or a new one. -/
def upsertRow (host : Host) (container : DockerPsContainer) (image : Json)
    (tag : Option Json) (status : ServiceStatus) (checkedAt : Date)
    (found : Option Service) : Service :=
  { id := (found.map Service.id).getD 0
    orgId := (found.map Service.orgId).getD host.orgId
    hostId := (found.map Service.hostId).getD host.id
    containerId := (found.map Service.containerId).getD
      (platform.columnText container.id)
    containerName := platform.columnText container.names
    image := platform.columnText image
    currentTag := tag.map platform.columnText
    status := status
    portMappings := portMappings container.ports
    lastCheckedAt := checkedAt }

/-- `serviceRepository.save` of an entity that was loaded or has just been created. -/
def saveUpserted (found : Option Service) (row : Service) : Job Service :=
  match found with
  | some _ => query (.saveService row)
  | none => query (.insertService row)

def upsertService (host : Host) (container : DockerPsContainer) (checkedAt : Date) :
    Job Unit := do
  let (image, tag) ← Program.ofExcept (splitImageAndTagValue container.image)
  let status ← Program.ofExcept (classifyContainerStatus container.status)
  let found ← query (.findServiceByContainer host.id
    (platform.columnText container.id))
  let previousStatus := (found.map Service.status).getD .unknown
  let saved ← saveUpserted found
    (upsertRow platform host container image tag status checkedAt found)
  let _ ← writeHealthCheckLog .service saved.id status.text
    (.obj [("container_id", container.id), ("names", container.names),
      ("image", container.image), ("status", container.status),
      ("ports", container.ports)])
  evaluateTransition platform
    { orgId := host.orgId
      entityType := .service
      entityId := saved.id
      previousStatus := previousStatus.text
      newStatus := saved.status.text }
  captureSnapshotIfImageChanged platform host saved container

/-- The loop of `sync`. -/
def upsertServices (host : Host) (checkedAt : Date) :
    List DockerPsContainer → Job Unit
  | [] => return ()
  | container :: containers => do
      upsertService platform host container checkedAt
      upsertServices host checkedAt containers

end Sync

/-- The loop of `markMissingServicesUnknown`. -/
def markUnknown (checkedAt : Date) : List Service → Job Unit
  | [] => return ()
  | service :: missing => do
      let saved ← query (.saveService
        { service with status := .unknown, lastCheckedAt := checkedAt })
      let _ ← writeHealthCheckLog .service saved.id ServiceStatus.unknown.text
        (.obj [("reason", .str "Container no longer present in docker ps -a output")])
      markUnknown checkedAt missing

def markMissingServicesUnknown (host : Host) (seenContainerIds : List Json)
    (checkedAt : Date) : Job Unit := do
  let existingServices ← query (.findServicesOfHost host.id)
  let missing := existingServices.filter fun service =>
    !seenContainerIds.any (isText service.containerId) && service.status != .unknown
  markUnknown checkedAt missing

def sync (platform : Platform) (host : Host) (dockerPsResult : SshCommandResult) :
    Job Unit := do
  if isDockerMissing dockerPsResult then
    return ()
  let listing ← Program.ofExcept (parseDockerPsOutput dockerPsResult.stdout)
  let checkedAt ← now
  upsertServices platform host checkedAt listing.containers
  markMissingServicesUnknown host (listing.containers.map DockerPsContainer.id)
    checkedAt

/-! ### What a sync touches -/

/-- The calls a sync may make. -/
def Call.OfSync : Call → Prop
  | .query (.findServiceByContainer _ _) | .query (.findServicesOfHost _) => True
  | .query (.insertService _) | .query (.saveService _) => True
  | .query (.findCurrentSnapshot _) | .query (.createSnapshot _) => True
  | .query (.writeHealthCheckLog _) => True
  | .randomBytes _ | .connect _ | .execCommand _ _ => True
  | call => call.OfAlerts

/-- What evaluating alerts calls, a sync may call. -/
theorem Call.OfAlerts.ofSync {call : Call} (ofAlerts : call.OfAlerts) : call.OfSync := by
  cases call with
  | query q => cases q <;> trivial
  | _ => trivial

/-- The same, where every service saved carries one time. -/
def Call.OfSyncAt (checkedAt : Date) : Call → Prop
  | .query (.insertService service) => service.lastCheckedAt = checkedAt
  | .query (.saveService service) => service.lastCheckedAt = checkedAt
  | call => call.OfSync

theorem Call.OfAlerts.ofSyncAt {call : Call} (ofAlerts : call.OfAlerts)
    (checkedAt : Date) : call.OfSyncAt checkedAt := by
  cases call with
  | query q => cases q <;> trivial
  | _ => trivial

theorem Call.OfSyncAt.ofSync {checkedAt : Date} {call : Call}
    (ofSyncAt : call.OfSyncAt checkedAt) : call.OfSync := by
  cases call with
  | query q => cases q <;> trivial
  | _ => exact ofSyncAt

/-- The calls of looking for a changed image. -/
def Call.OfCapture : Call → Prop
  | .query (.findCurrentSnapshot _) | .query (.createSnapshot _) => True
  | .randomBytes _ | .connect _ | .execCommand _ _ | .now => True
  | _ => False

theorem Call.OfCapture.ofSyncAt {call : Call} (ofCapture : call.OfCapture)
    (checkedAt : Date) : call.OfSyncAt checkedAt := by
  cases call with
  | query q => cases q <;> trivial
  | _ => trivial

/-- A session connects once and executes each of its commands. -/
theorem runCommands_only {allowed : Call → Prop} (options : SshConnectionOptions)
    (commands : List String) (connects : allowed (.connect options))
    (executes : ∀ command, allowed (.execCommand options command)) :
    (runCommands options commands).Only allowed := by
  apply Program.Only.bind (Program.only_perform connects)
  intro connected
  induction commands with
  | nil => trivial
  | cons command commands inductionHypothesis =>
      apply Program.Only.bind (Program.only_perform (executes command))
      intro result
      exact Program.Only.bind inductionHypothesis fun results => trivial

/-- Looking for a changed image writes nothing but a snapshot. -/
theorem captureSnapshotIfImageChanged_only (platform : Platform) (host : Host)
    (service : Service) (container : DockerPsContainer) :
    (captureSnapshotIfImageChanged platform host service container).Only
      Call.OfCapture := by
  apply Program.Only.bind (Program.only_perform trivial)
  intro currentSnapshot
  split
  · trivial
  split
  · trivial
  refine Program.Only.tryCatch ?_ fun error => trivial
  apply Program.Only.bind Program.only_ofExcept
  intro inspect
  apply Program.Only.bind (runCommands_only _ _ trivial fun command => trivial)
  intro results
  split
  · trivial
  split
  · trivial
  apply Program.Only.bind Program.only_ofExcept
  intro config
  split
  · trivial
  apply Program.Only.bind (Program.only_perform trivial)
  intro deployedAt
  apply Program.Only.bind
  · apply Program.Only.bind
    · exact Program.Only.bind (Program.only_perform trivial) fun iv => trivial
    · intro configBlob
      exact Program.only_perform trivial
  · intro created
    trivial

/-- The row of a listed container is stamped with the time of the check. -/
theorem upsertService_only (platform : Platform) (host : Host)
    (container : DockerPsContainer) (checkedAt : Date) :
    (upsertService platform host container checkedAt).Only (Call.OfSyncAt checkedAt) := by
  apply Program.Only.bind Program.only_ofExcept
  intro split
  apply Program.Only.bind Program.only_ofExcept
  intro status
  apply Program.Only.bind (Program.only_perform trivial)
  intro found
  apply Program.Only.bind
  · cases found with
    | none => exact Program.only_perform rfl
    | some service => exact Program.only_perform rfl
  intro saved
  apply Program.Only.bind (Program.only_perform trivial)
  intro log
  apply Program.Only.bind
  · exact (evaluateTransition_only _ _).mono fun call ofAlerts => ofAlerts.ofSyncAt _
  · intro evaluated
    exact (captureSnapshotIfImageChanged_only _ _ _ _).mono
      fun call ofCapture => ofCapture.ofSyncAt _

theorem upsertServices_only (platform : Platform) (host : Host) (checkedAt : Date)
    (containers : List DockerPsContainer) :
    (upsertServices platform host checkedAt containers).Only (Call.OfSyncAt checkedAt) := by
  induction containers with
  | nil => trivial
  | cons container containers inductionHypothesis =>
      exact Program.Only.bind (upsertService_only _ _ _ _) fun _ => inductionHypothesis

theorem markUnknown_only (checkedAt : Date) (missing : List Service) :
    (markUnknown checkedAt missing).Only (Call.OfSyncAt checkedAt) := by
  induction missing with
  | nil => trivial
  | cons service missing inductionHypothesis =>
      have marks : Call.OfSyncAt checkedAt (.query (.saveService
        { service with status := .unknown, lastCheckedAt := checkedAt })) := rfl
      apply Program.Only.bind (Program.only_perform marks)
      intro saved
      apply Program.Only.bind (Program.only_perform trivial)
      intro log
      exact inductionHypothesis

/-- So does the marking of what the listing lacks. -/
theorem markMissingServicesUnknown_only (host : Host) (seenContainerIds : List Json)
    (checkedAt : Date) :
    (markMissingServicesUnknown host seenContainerIds checkedAt).Only
      (Call.OfSyncAt checkedAt) := by
  apply Program.Only.bind (Program.only_perform trivial)
  intro existingServices
  apply markUnknown_only

/-- What a sync may call, whatever the host answers. -/
theorem sync_only (platform : Platform) (host : Host)
    (dockerPsResult : SshCommandResult) :
    (sync platform host dockerPsResult).Only Call.OfSync := by
  unfold sync
  split
  · trivial
  apply Program.Only.bind Program.only_ofExcept
  intro listing
  apply Program.Only.bind (Program.only_perform trivial)
  intro checkedAt
  apply Program.Only.bind
  · exact (upsertServices_only _ _ _ _).mono fun call => Call.OfSyncAt.ofSync
  · intro upserted
    exact (markMissingServicesUnknown_only _ _ _).mono fun call => Call.OfSyncAt.ofSync

end ServersManager
