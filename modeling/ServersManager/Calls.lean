/-
Module: ServersManager.Calls
Purpose: The calls the backend makes outside its own code, and the services its jobs
  share: SSH sessions, snapshots, the health-check log.
Trusted boundary: human-reviewed interfaces of foreign libraries
Main exports:
  Call, Calls, Job, Answered, Surroundings, Platform, runCommands, decryptConfig, createSnapshot,
  writeHealthCheckLog, findOneForServiceOrThrow
-/
import ServersManager.Database
import ServersManager.DockerInspect
import ServersManager.Library.JsonText
import ServersManager.Library.Notices

namespace ServersManager

open Library

/-! ### Calls -/

structure SshConnectionOptions where
  host : String
  port : Nat
  username : String
  privateKey : String
deriving Repr, Inhabited, DecidableEq

/-- What `execCommand` resolves to. -/
structure ExecReply where
  stdout : String
  stderr : String
  code : Option Int
deriving Repr, Inhabited, DecidableEq

/-- The part of an HTTP response that is looked at; the body is missing where reading
it fails. -/
structure HttpResponse where
  status : Nat
  body : Option String
deriving Repr, Inhabited, DecidableEq

/-- The fields of a peer's certificate that are looked at, those that are there. -/
structure PeerCertificate where
  issuer : Option Json
  subject : Option Json
  validFrom : Option String
  validTo : Option String
deriving Repr, Inhabited

/-- A completed TLS handshake; a peer may present no certificate. -/
structure TlsSession where
  certificate : Option PeerCertificate
  authorized : Bool
  authorizationError : Option String
deriving Repr, Inhabited

/-- A call to the database, the clock, the random source, an SSH server, an HTTP
server, a name server, a WHOIS server, a TLS server or one of the queues. -/
inductive Call where
  | query (query : Query)
  | now
  | randomBytes (size : Nat)
  | connect (options : SshConnectionOptions)
  | execCommand (options : SshConnectionOptions) (command : String)
  | fetch (url body : String)
  | resolve4 (hostname : String)
  | whois (hostname : String)
  | tlsConnect (host servername : String)
  | addJob (rollbackEventId : Nat)
  | takeJob
  | addDomainCheck (domainId : Nat)

abbrev Call.Reply : Call → Type
  | .query q => q.Reply
  | .now => Date
  | .randomBytes _ => List UInt8
  | .connect _ => Unit
  | .execCommand _ _ => ExecReply
  | .fetch _ _ => HttpResponse
  | .resolve4 _ => List String
  | .whois _ => Json
  | .tlsConnect _ _ => TlsSession
  | .addJob _ => Unit
  | .takeJob => Nat
  | .addDomainCheck _ => String

def Calls : Signature where
  Call := Call
  Reply := Call.Reply

/-- An asynchronous function of the backend. -/
abbrev Job (α : Type) := Program Calls JsError α

/-- A job that gives notices. -/
abbrev NoticedJob (N α : Type) := Program (Calls.withNotices N) JsError α

def request (call : Call) : Job call.Reply :=
  Program.perform (S := Calls) call

def query (q : Query) : Job q.Reply :=
  request (.query q)

def now : Job Date :=
  request .now

theorem run_request {σ : Type} (machine : Machine Calls JsError σ)
    (call : Call) (state : σ) :
    (request call).run machine state = machine call state :=
  Program.run_perform machine call state

/-- To run a query is to make its call. -/
theorem run_query {σ : Type} (machine : Machine Calls JsError σ)
    (q : Query) (state : σ) :
    (query q).run machine state = machine (Call.query q) state :=
  run_request machine (.query q) state

/-- Surroundings in which nothing fails but an SSH connection: what hosts, remote
commands, web servers, name servers and TLS peers reply.  The clock is the database's. -/
structure Surroundings where
  connect : Except JsError Unit
  exec : String → ExecReply
  fetch : HttpResponse
  addresses : List String
  session : TlsSession

def Surroundings.answer (surroundings : Surroundings) (db : Database) :
    (call : Call) → Except JsError call.Reply × Database
  | .query q => db.perform q
  | .now => (.ok db.clock, db)
  | .randomBytes _ => (.ok [], db)
  | .connect _ => (surroundings.connect, db)
  | .execCommand _ command => (.ok (surroundings.exec command), db)
  | .fetch _ _ => (.ok surroundings.fetch, db)
  | .resolve4 _ => (.ok surroundings.addresses, db)
  | .whois _ => (.ok (.obj []), db)
  | .tlsConnect _ _ => (.ok surroundings.session, db)
  | .addJob _ => (.ok (), db)
  | .takeJob => (.ok 0, db)
  | .addDomainCheck _ => (.ok "", db)

def Surroundings.machine (surroundings : Surroundings) : Machine Calls JsError Database :=
  fun (call : Call) db => surroundings.answer db call

/-- Every command succeeds silently. -/
def Surroundings.quiet : Surroundings where
  connect := .ok ()
  exec _ := { stdout := "", stderr := "", code := some 0 }
  fetch := { status := 200, body := none }
  addresses := []
  session := default

/-- What a call may be answered: a repository call is atomic, and one that fails has
changed nothing; whatever else is called does not touch the database. -/
def Answered (faults : JsError → Prop) (db : Database) :
    (call : Call) → Except JsError call.Reply → Database → Prop
  | .query q, reply, after =>
      (∃ error, faults error ∧ reply = .error error ∧ after = db) ∨
        reply = (db.perform q).1 ∧ after = (db.perform q).2
  | _, reply, after => (∀ error, reply = .error error → faults error) ∧ after = db

/-- The surroundings of the model answer as the code may rely on. -/
theorem Surroundings.answered {faults : JsError → Prop} (surroundings : Surroundings)
    (connects : ∀ error, surroundings.connect = .error error → faults error)
    (db : Database) (call : Call) :
    Answered faults db call (surroundings.answer db call).1
      (surroundings.answer db call).2 := by
  cases call with
  | query q => exact .inr ⟨rfl, rfl⟩
  | connect options => exact ⟨connects, rfl⟩
  | _ => exact ⟨fun _ absent => (nomatch absent), rfl⟩

section Answers

variable {faults : JsError → Prop} {db after : Database} {call : Call}
  {reply : Except JsError call.Reply}

/-- A call that is no query leaves the database alone, and so does a query that
writes nothing. -/
theorem Answered.field {α : Type} (field : Database → α)
    (answered : Answered faults db call reply after)
    (frame : ∀ q, call = .query q → field (db.perform q).2 = field db) :
    field after = field db := by
  cases call with
  | query q =>
      rcases answered with ⟨error, -, -, rfl⟩ | ⟨-, rfl⟩
      · rfl
      · exact frame q rfl
  | _ => exact congrArg field answered.2

/-- A call that writes no event leaves the events. -/
theorem Answered.events (answered : Answered faults db call reply after)
    (frame : ∀ q, call = .query q → q.writesEvents = false) :
    after.events = db.events :=
  answered.field Database.events fun q same => Database.perform_events (frame q same)

/-- A write is refused, or has been made. -/
theorem Answered.written {τ : Type} {q : Query} {reply : Except JsError q.Reply}
    {written : Option τ} {update : τ → q.Reply × Database}
    (answered : Answered faults db (.query q) reply after)
    (performs : db.perform q = db.answer (written.map update)) :
    (∃ error, reply = .error error ∧ after = db) ∨
      ∃ row, written = some row ∧ reply = .ok (update row).1 ∧
        after = (update row).2 := by
  rcases answered with ⟨error, -, replied, same⟩ | ⟨replied, performed⟩
  · exact .inl ⟨error, replied, same⟩
  · rw [performs] at replied performed
    cases written with
    | none => exact .inl ⟨uniqueViolation, replied, performed⟩
    | some row => exact .inr ⟨row, rfl, replied, performed⟩

/-- The save of an event fails, or writes just the row. -/
theorem Answered.saveEvent {row : RollbackEvent} {reply : Except JsError RollbackEvent}
    (answered : Answered faults db (.query (.saveEvent row)) reply after) :
    (∃ error, reply = .error error ∧ after = db) ∨
      reply = .ok row ∧ ∃ events, db.events.save row = some events ∧
        after = { db with events := events } := by
  rcases answered.written rfl with failed | ⟨events, saved, replied, same⟩
  · exact .inl failed
  · exact .inr ⟨replied, events, saved, same⟩

end Answers

/-- What the foreign libraries compute: the cipher, the date a text is read as (`none`
for an invalid one), the text of a number, and the text that the database driver stores
for a value in a text column, which for a string is the string. -/
structure Platform where
  encrypt : List UInt8 → String → String
  decrypt : String → Except JsError String
  parseDate : String → Option Date
  numberText : JsonNumber → String
  columnText : Json → String
  columnText_str : ∀ text, columnText (.str text) = text

/-- A platform whose cipher changes nothing, and whose dates are written as numbers. -/
def Platform.transparent : Platform where
  encrypt _ plaintext := plaintext
  decrypt ciphertext := .ok ciphertext
  parseDate text := text.toInt?
  numberText n := toString n.mantissa
  columnText
    | .str text => text
    | value => Json.stringify value
  columnText_str _ := rfl

/-- `CryptoService.encrypt`, under a fresh initialization vector. -/
def encrypt (platform : Platform) (plaintext : String) : Job String := do
  let iv ← request (.randomBytes 12)
  return platform.encrypt iv plaintext

/-! ### `ssh/ssh.service.ts` -/

/-- The loop of `runCommands`: a command that fails to run ends the session. -/
def execCommands (options : SshConnectionOptions) :
    List String → Job (List SshCommandResult)
  | [] => return []
  | command :: commands => do
      let result ← request (.execCommand options command)
      let results ← execCommands options commands
      return { command := command
               stdout := result.stdout
               stderr := result.stderr
               exitCode := result.code } :: results

def runCommands (options : SshConnectionOptions) (commands : List String) :
    Job (List SshCommandResult) := do
  let _ ← request (.connect options)
  execCommands options commands

def Host.sshOptions (host : Host) (privateKey : String) : SshConnectionOptions :=
  { host := host.ipAddress
    port := host.sshPort
    username := host.sshUser
    privateKey := privateKey }

/-! ### `deployment-snapshots/deployment-snapshots.service.ts` -/

def findCurrentForService (serviceId : Nat) : Job (Option DeploymentSnapshot) :=
  query (.findCurrentSnapshot serviceId)

def findOneForServiceOrThrow (serviceId id : Nat) : Job DeploymentSnapshot := do
  match ← query (.findSnapshotOfService serviceId id) with
  | some snapshot => return snapshot
  | none => throw (.badRequest
      ("Snapshot " ++ toString id ++ " does not belong to service " ++
        toString serviceId))

/-- The blob is parsed and cast: nothing checks the shape of what it holds. -/
def decryptConfig (platform : Platform) (snapshot : DeploymentSnapshot) :
    Except JsError Json := do
  let text ← platform.decrypt snapshot.configBlob
  match Json.parse text with
  | some config => pure config
  | none => throw (.syntaxError text)

structure CreateSnapshotInput where
  serviceId : Nat
  imageTag : String
  config : Json
  deployedAt : Date
  deployedById : Option Nat

def newSnapshot (input : CreateSnapshotInput) (configBlob : String) :
    DeploymentSnapshot :=
  { id := 0
    serviceId := input.serviceId
    imageTag := input.imageTag
    configBlob := configBlob
    deployedAt := input.deployedAt
    deployedById := input.deployedById
    isCurrent := true }

def createSnapshot (platform : Platform) (input : CreateSnapshotInput) :
    Job DeploymentSnapshot := do
  let configBlob ← encrypt platform (Json.stringify input.config)
  query (.createSnapshot (newSnapshot input configBlob))

/-! ### `health-check-log/health-check-log.service.ts` -/

def newHealthCheckLog (entityType : HealthCheckEntityType) (entityId : Nat)
    (status : String) (rawOutput : Json) : HealthCheckLog :=
  { id := 0
    entityType := entityType
    entityId := entityId
    status := status
    rawOutput := rawOutput }

def writeHealthCheckLog (entityType : HealthCheckEntityType) (entityId : Nat)
    (status : String) (rawOutput : Json) : Job HealthCheckLog :=
  query (.writeHealthCheckLog
    (newHealthCheckLog entityType entityId status rawOutput))

/-! ### `services/services.service.ts` -/

def findOneForOrgOrThrow (orgId id : Nat) : Job Service := do
  match ← query (.findServiceForOrg orgId id) with
  | some service => return service
  | none => throw (.notFound ("Service " ++ toString id ++ " not found"))

end ServersManager
