/-
Module: ServersManager.HealthCheck
Purpose: The health check of a host, and registering and removing hosts.
Trusted boundary: none
Main exports:
  HealthCheckStatus, HealthCheckOutcome, mapSshFailureToOutcome,
  mapCommandResultsToOutcome, runCheck, checkedHost, checkHost, createHost, removeHost,
  Call.OfSession, runCheck_only, syncResults_only
-/
import ServersManager.ServicesSync

namespace ServersManager

open Library

/-! ### `health-check/health-check-status-mapper.ts` -/

inductive HealthCheckStatus where
  | healthy
  | degraded
  | unreachable
  | pendingSetup
deriving Repr, Inhabited, DecidableEq

def HealthCheckStatus.text : HealthCheckStatus → String
  | .healthy => "healthy"
  | .degraded => "degraded"
  | .unreachable => "unreachable"
  | .pendingSetup => "pending_setup"

structure HealthCheckOutcome where
  status : HealthCheckStatus
  rawOutput : Json
deriving Repr, Inhabited

def isAuthenticationFailure : JsError → Bool
  | .ssh _ level => level == "client-authentication"
  | _ => false

def sshFailureOutput (message reason : String) : Json :=
  .obj [("error", .str message), ("reason", .str reason)]

def mapSshFailureToOutcome (error : JsError) (setupVerifiedAt : Option Date) :
    HealthCheckOutcome :=
  if isAuthenticationFailure error then
    if setupVerifiedAt = none then
      { status := .pendingSetup
        rawOutput := sshFailureOutput error.message "key_not_installed" }
    else
      { status := .unreachable
        rawOutput := sshFailureOutput error.message "auth_revoked" }
  else
    { status := .unreachable
      rawOutput := sshFailureOutput error.message "network_unreachable" }

def exitCodeJson : Option Int → Json
  | some code => .num { mantissa := code, exponent := 0 }
  | none => .null

def commandOutput (result : SshCommandResult) : Json :=
  .obj [("stdout", .str result.stdout), ("stderr", .str result.stderr),
    ("exit_code", exitCodeJson result.exitCode)]

def mapCommandResultsToOutcome (results : List SshCommandResult) :
    Except JsError HealthCheckOutcome :=
  match results with
  | uptimeResult :: dockerResult :: _ =>
      let rawOutput : Json := .obj [("uptime", commandOutput uptimeResult),
        ("docker_ps", commandOutput dockerResult)]
      if uptimeResult.exitCode ≠ some 0 then
        .ok { status := .degraded, rawOutput := rawOutput }
      else if dockerResult.exitCode ≠ some 0 ∧ isDockerMissing dockerResult = false then
        .ok { status := .degraded, rawOutput := rawOutput }
      else
        .ok { status := .healthy, rawOutput := rawOutput }
  | _ => .error (.typeError "Cannot read properties of undefined (reading 'stdout')")

/-! ### `health-check/health-check.processor.ts` -/

def uptimeCommand : String := "uptime"

def dockerPsCommand : String :=
  "docker ps -a --format '\x7b\x7bjson .\x7d\x7d'"

/-- `HEALTH_CHECK_STATUS_TO_HOST_STATUS`. -/
def HealthCheckStatus.toHostStatus : HealthCheckStatus → HostStatus
  | .healthy => .healthy
  | .degraded => .degraded
  | .unreachable => .unreachable
  | .pendingSetup => .pendingSetup

/-- `SUCCESSFUL_CONNECTION_STATUSES`. -/
def HealthCheckStatus.isSuccessfulConnection : HealthCheckStatus → Bool
  | .healthy | .degraded => true
  | .unreachable | .pendingSetup => false

/-- The outcome of a session, and its results if there was one. -/
def runCheck (platform : Platform) (host : Host) :
    Job (HealthCheckOutcome × Option (List SshCommandResult)) :=
  match platform.decrypt host.sshKeyEncrypted with
  | .error error => return (mapSshFailureToOutcome error host.setupVerifiedAt, none)
  | .ok privateKey =>
      tryCatch
        (do
          let results ← runCommands (host.sshOptions privateKey)
            [uptimeCommand, dockerPsCommand]
          let outcome ← Program.ofExcept (mapCommandResultsToOutcome results)
          return (outcome, some results))
        fun error => return (mapSshFailureToOutcome error host.setupVerifiedAt, none)

/-- The entity as a check saves it: a first successful connection verifies it. -/
def checkedHost (host : Host) (status : HealthCheckStatus) (checkedAt : Date) : Host :=
  { host with
    status := status.toHostStatus
    lastCheckedAt := some checkedAt
    setupVerifiedAt :=
      if host.setupVerifiedAt = none ∧ status.isSuccessfulConnection = true then
        some checkedAt
      else host.setupVerifiedAt }

/-- The hand-off of a session's results to the service sync. -/
def syncResults (platform : Platform) (host : Host) :
    Option (List SshCommandResult) → Job Unit
  | none => return ()
  | some (_ :: dockerPsResult :: _) => sync platform host dockerPsResult
  | some _ => throw (.typeError
      "Cannot read properties of undefined (reading 'exitCode')")

def checkHost (platform : Platform) (hostId : Nat) : Job Unit := do
  match ← query (.findHost hostId) with
  | none => return ()
  | some host =>
      let (outcome, sshResults) ← runCheck platform host
      let _ ← writeHealthCheckLog .host host.id outcome.status.text outcome.rawOutput
      let checked := checkedHost host outcome.status (← now)
      let _ ← query (.saveHost checked)
      evaluateTransition platform
        { orgId := checked.orgId
          entityType := .host
          entityId := checked.id
          previousStatus := host.status.text
          newStatus := checked.status.text }
      syncResults platform checked sshResults

/-! ### `hosts/hosts.service.ts` -/

structure CreateHostDto where
  name : String
  ipAddress : String
  sshPort : Option Nat
  sshUser : String
deriving Repr, DecidableEq

def defaultSshPort : Nat := 22

/-- The entity of a registered host; the database generates its key and `createdAt`. -/
def newHost (orgId : Nat) (dto : CreateHostDto) (sshKeyEncrypted : String) : Host :=
  { id := 0
    orgId := orgId
    name := dto.name
    ipAddress := dto.ipAddress
    sshPort := dto.sshPort.getD defaultSshPort
    sshUser := dto.sshUser
    sshKeyEncrypted := sshKeyEncrypted
    status := .pendingSetup
    lastCheckedAt := none
    setupVerifiedAt := none
    createdAt := 0 }

/-- `HostsService.create`, with the private key that has been generated. -/
def createHost (platform : Platform) (orgId : Nat) (dto : CreateHostDto)
    (privateKey : String) : Job Host := do
  let sshKeyEncrypted ← encrypt platform privateKey
  query (.insertHost (newHost orgId dto sshKeyEncrypted))

/-- `HostsService.findOneForOrgOrThrow`. -/
def findHostOrThrow (orgId id : Nat) : Job Host := do
  match ← query (.findHostForOrg orgId id) with
  | some host => return host
  | none => throw (.notFound ("Host " ++ toString id ++ " not found"))

/-- `HostsService.remove`. -/
def removeHost (orgId id : Nat) : Job Unit := do
  let host ← findHostOrThrow orgId id
  query (.removeHost host)

/-- A host that has just been registered. -/
def registeredHost : Host :=
  { newHost 6
      { name := "web-1"
        ipAddress := "10.0.0.2"
        sshPort := none
        sshUser := "deploy" } "key" with
    id := 2 }

def registeredDatabase : Database :=
  { (default : Database) with
    hosts := Table.single registeredHost
    clock := 1000 }

/-! ### What a check touches besides its host -/

/-- The calls of an SSH session. -/
def Call.OfSession : Call → Prop
  | .connect _ | .execCommand _ _ => True
  | _ => False

/-- The calls of a session are among those of a sync. -/
theorem Call.OfSession.ofSync {call : Call} (ofSession : call.OfSession) :
    call.OfSync := by
  cases call <;> trivial

/-- A check of a host runs one session. -/
theorem runCheck_only (platform : Platform) (host : Host) :
    (runCheck platform host).Only Call.OfSession := by
  unfold runCheck
  split
  · trivial
  · apply Program.Only.tryCatch
    · apply Program.Only.bind (runCommands_only _ _ trivial fun command => trivial)
      intro results
      apply Program.Only.bind Program.only_ofExcept
      intro outcome
      trivial
    · intro error
      trivial

/-- What is done with its results is a sync, or nothing. -/
theorem syncResults_only (platform : Platform) (host : Host)
    (sshResults : Option (List SshCommandResult)) :
    (syncResults platform host sshResults).Only Call.OfSync := by
  unfold syncResults
  split
  · trivial
  · apply sync_only
  · trivial

end ServersManager
