/-
Module: ServersManager.Rollback
Purpose: Requesting a rollback and executing it.
Trusted boundary: none
Main exports:
  enqueueRollback, process, session, settle, succeed, fail, appendLog,
  stopCommand, rmCommand, rollbackCommands
-/
import ServersManager.Alerts

namespace ServersManager

open Library

/-! ### `rollback/rollback.service.ts` -/

def isUniqueViolation : JsError → Bool
  | .queryFailed code _ => code == uniqueViolationCode
  | _ => false

/-- The row of a requested rollback. -/
def requestedEvent (service : Service) (fromSnapshotId toSnapshotId : Nat)
    (triggeredByUserId : Nat) : RollbackEvent :=
  { id := 0
    serviceId := service.id
    fromSnapshotId := fromSnapshotId
    toSnapshotId := toSnapshotId
    triggeredById := triggeredByUserId
    status := .pending
    logOutput := []
    completedAt := none }

/-- The `try` block of `enqueueRollback`. -/
def insertAndEnqueue (event : RollbackEvent) : Job RollbackEvent := do
  let event ← query (.insertEvent event)
  let _ ← request (.addJob event.id)
  return event

def enqueueRollback (orgId serviceId targetSnapshotId triggeredByUserId : Nat) :
    Job RollbackEvent := do
  let service ← findOneForOrgOrThrow orgId serviceId
  let targetSnapshot ← findOneForServiceOrThrow service.id targetSnapshotId
  match ← findCurrentForService service.id with
  | none => throw (.badRequest ("Service " ++ toString service.id ++
      " has no deployment history yet; nothing to roll back from"))
  | some currentSnapshot =>
      match ← query (.findActiveEvent service.id) with
      | some activeRollback => throw (.conflict ("A rollback is already " ++
          activeRollback.status.text ++ " for service " ++ toString service.id))
      | none =>
          tryCatch
            (insertAndEnqueue (requestedEvent service currentSnapshot.id
              targetSnapshot.id triggeredByUserId))
            fun error =>
              if isUniqueViolation error then
                throw (.conflict ("A rollback is already in progress for service " ++
                  toString service.id))
              else throw error

/-! ### `rollback/rollback.processor.ts` -/

def dockerPsAllJsonCommand : String :=
  "docker ps -a --format '\x7b\x7bjson .\x7d\x7d'"

/-- A log entry for an executed command; its timestamp is taken when it is made. -/
def toLogEntry (step : String) (result : SshCommandResult) : Job RollbackLogEntry := do
  return { timestamp := ← now
           step := step
           command := some result.command
           exitCode := some result.exitCode
           stdout := some result.stdout
           stderr := some result.stderr
           message := none }

def messageEntry (step message : String) : Job RollbackLogEntry := do
  return { timestamp := ← now
           step := step
           command := none
           exitCode := none
           stdout := none
           stderr := none
           message := some message }

/-- The event is mutated in place; the new value is returned. -/
def appendLog (event : RollbackEvent) (entry : RollbackLogEntry) :
    Job RollbackEvent := do
  let event := { event with logOutput := event.logOutput ++ [entry] }
  let _ ← query (.saveEvent event)
  return event

/-- The last save of an event. -/
def complete (event : RollbackEvent) (status : RollbackEventStatus) : Job Unit := do
  let _ ← query (.saveEvent
    { event with status := status, completedAt := some (← now) })
  return ()

section Processor

variable (platform : Platform)

def fail (event : RollbackEvent) (reason : String) (orgId : Option Nat) :
    Job Unit := do
  let event ← appendLog event (← messageEntry "failure" reason)
  complete event .failed
  match orgId with
  | none => return ()
  | some orgId =>
      evaluateTransition platform
        { orgId := orgId
          entityType := .rollbackEvent
          entityId := event.id
          previousStatus := event.status.text
          newStatus := RollbackEventStatus.failed.text }

/-- The service row after a successful rollback. -/
def rolledBackService (service : Service) (newContainerId : Json)
    (targetSnapshot : DeploymentSnapshot) (newStatus : ServiceStatus)
    (lastCheckedAt : Date) : Service :=
  let split := splitImageAndTag targetSnapshot.imageTag
  { service with
    containerId := platform.columnText newContainerId
    image := split.image
    currentTag := split.tag
    status := newStatus
    lastCheckedAt := lastCheckedAt }

def rollbackSnapshotInput (event : RollbackEvent) (service : Service)
    (targetSnapshot : DeploymentSnapshot) (config : Json) (deployedAt : Date) :
    CreateSnapshotInput :=
  { serviceId := service.id
    imageTag := targetSnapshot.imageTag
    config := config
    deployedAt := deployedAt
    deployedById := some event.triggeredById }

def rollbackRawOutput (event : RollbackEvent) (targetSnapshot : DeploymentSnapshot) :
    Json :=
  .obj [("reason", .str "rollback"), ("rollback_event_id", .str (toString event.id)),
    ("image_tag", .str targetSnapshot.imageTag)]

def succeed (event : RollbackEvent) (service : Service) (newContainerId : Json)
    (targetSnapshot : DeploymentSnapshot) (newStatus : ServiceStatus) : Job Unit := do
  let service := rolledBackService platform service newContainerId targetSnapshot
    newStatus (← now)
  let _ ← query (.saveService service)
  let config ← Program.ofExcept (decryptConfig platform targetSnapshot)
  let _ ← createSnapshot platform
    (rollbackSnapshotInput event service targetSnapshot config (← now))
  let _ ← writeHealthCheckLog .service service.id newStatus.text
    (rollbackRawOutput event targetSnapshot)
  complete event .succeeded

def stopCommand (containerId : String) : String := "docker stop " ++ containerId

def rmCommand (containerId : String) : String := "docker rm " ++ containerId

def rollbackCommands (service : Service) (config : DeploymentConfigBlob)
    (imageTag : String) : List String :=
  [stopCommand service.containerId, rmCommand service.containerId,
    buildDockerRunCommand config imageTag, dockerPsAllJsonCommand]

@[simp] theorem rollbackCommands_length (service : Service)
    (config : DeploymentConfigBlob) (imageTag : String) :
    (rollbackCommands service config imageTag).length = 4 := rfl

/-- The inner `try`: the results of the session and the name to look for, or nothing
if the event has been failed. -/
def session (event : RollbackEvent) (service : Service) (host : Host)
    (targetSnapshot : DeploymentSnapshot) (privateKey : String) (config : Json) :
    Job (Option (String × List SshCommandResult)) :=
  tryCatch
    (do
      let config ← Program.ofExcept (readConfig config)
      let results ← runCommands (host.sshOptions privateKey)
        (rollbackCommands service config targetSnapshot.imageTag)
      return some (config.containerName, results))
    fun error => do
      fail platform event ("SSH connection to host failed: " ++ error.message)
        (some service.orgId)
      return none

/-- `runResult.stderr || runResult.stdout || 'unknown error'`. -/
def runFailure (runResult : SshCommandResult) : String :=
  if runResult.stderr ≠ "" then runResult.stderr
  else if runResult.stdout ≠ "" then runResult.stdout
  else "unknown error"

def healthCheckMessage (containerName : String) (recreated : Option DockerPsContainer)
    (newStatus : ServiceStatus) : String :=
  match recreated with
  | some _ => "Container \"" ++ containerName ++ "\" classified as " ++ newStatus.text
  | none => "Container \"" ++ containerName ++
      "\" not found in docker ps -a output after recreation"

/-- The status of the recreated container, if it is listed. -/
def recreatedStatus : Option DockerPsContainer → Except JsError ServiceStatus
  | some container => classifyContainerStatus container.status
  | none => .ok .unknown

/-- The first listed container with the configured name. -/
def findRecreated (containerName : String) (listing : DockerPsParseResult) :
    Option DockerPsContainer :=
  listing.containers.find? fun container => isText containerName container.names

/-- What follows a `docker run` that exited with 0. -/
def checkRecreated (event : RollbackEvent) (service : Service)
    (targetSnapshot : DeploymentSnapshot) (containerName : String)
    (psResult : SshCommandResult) : Job Unit := do
  let listing ← Program.ofExcept (parseDockerPsOutput psResult.stdout)
  let recreated := findRecreated containerName listing
  let newStatus ← Program.ofExcept (recreatedStatus recreated)
  let event ← appendLog event (← messageEntry "post_rollback_health_check"
    (healthCheckMessage containerName recreated newStatus))
  match newStatus, recreated with
  | .running, some container =>
      succeed platform event service container.id targetSnapshot newStatus
  | _, _ =>
      fail platform event ("Post-rollback health check failed: container status is \"" ++
        newStatus.text ++ "\"") (some service.orgId)

/-- What follows the SSH session. -/
def settle (event : RollbackEvent) (service : Service)
    (targetSnapshot : DeploymentSnapshot) (containerName : String)
    (results : List SshCommandResult) : Job Unit := do
  match results with
  | [stopResult, rmResult, runResult, psResult] =>
      let event ← appendLog event (← toLogEntry "stop_container" stopResult)
      let event ← appendLog event (← toLogEntry "remove_container" rmResult)
      let event ← appendLog event (← toLogEntry "start_container" runResult)
      let event ← appendLog event (← toLogEntry "list_containers" psResult)
      if runResult.exitCode ≠ some 0 then
        fail platform event ("docker run failed: " ++ runFailure runResult)
          (some service.orgId)
      else
        checkRecreated platform event service targetSnapshot containerName psResult
  | _ => throw (.typeError "Cannot read properties of undefined (reading 'command')")

/-- The outer `try`, once the private key is known. -/
def execute (event : RollbackEvent) (service : Service) (host : Host)
    (targetSnapshot : DeploymentSnapshot) (privateKey : String) : Job Unit := do
  let config ← Program.ofExcept (decryptConfig platform targetSnapshot)
  match ← session platform event service host targetSnapshot privateKey config with
  | none => return ()
  | some (containerName, results) =>
      settle platform event service targetSnapshot containerName results

/-- `process`, once the event has been loaded and set to `in_progress`. -/
def processEvent (event : RollbackEvent) : Job Unit := do
  match ← query (.findService event.serviceId) with
  | none => fail platform event "Service no longer exists" none
  | some service =>
      match ← query (.findHost service.hostId) with
      | none => fail platform event "Host no longer exists" (some service.orgId)
      | some host =>
          match ← query (.findSnapshot event.toSnapshotId) with
          | none =>
              fail platform event "Target snapshot no longer exists"
                (some service.orgId)
          | some targetSnapshot =>
              match platform.decrypt host.sshKeyEncrypted with
              | .error error =>
                  fail platform event ("Failed to decrypt SSH key: " ++ error.message)
                    (some service.orgId)
              | .ok privateKey =>
                  execute platform event service host targetSnapshot privateKey

def process (rollbackEventId : Nat) : Job Unit := do
  match ← query (.findEvent rollbackEventId) with
  | none => return ()
  | some event =>
      let event := { event with status := .inProgress }
      let _ ← query (.saveEvent event)
      processEvent platform event

end Processor

/-! ### A requested rollback -/

def requestedRollback : RollbackEvent :=
  { id := 7
    serviceId := 1
    fromSnapshotId := 3
    toSnapshotId := 4
    triggeredById := 5
    status := .pending
    logOutput := []
    completedAt := none }

/-- One service with one rollback requested, to a snapshot with this blob. -/
def requestedDatabase (configBlob : String) : Database :=
  { (default : Database) with
    hosts := Table.single
      { id := 2
        orgId := 6
        name := "web-1"
        ipAddress := "10.0.0.2"
        sshPort := 22
        sshUser := "deploy"
        sshKeyEncrypted := "key"
        status := .healthy
        lastCheckedAt := none
        setupVerifiedAt := some 0
        createdAt := 0 }
    services := Table.single
      { id := 1
        orgId := 6
        hostId := 2
        containerId := "4f2a"
        containerName := "web"
        image := "nginx"
        currentTag := some "1.27"
        status := .running
        portMappings := none
        lastCheckedAt := 0 }
    snapshots := Table.single
      { id := 4
        serviceId := 1
        imageTag := "nginx:1.26"
        configBlob := configBlob
        deployedAt := 0
        deployedById := none
        isCurrent := true }
    events := Table.single requestedRollback }

def webConfig : DeploymentConfigBlob :=
  { containerName := "web"
    env := []
    portBindings := []
    restartPolicy := "" }

def webConfigBlob : String := webConfig.toJson.stringify

end ServersManager
