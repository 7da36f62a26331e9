/-
Module: ServersManager.Database
Purpose: The tables of the backend with their unique indexes, and the repository
  queries on them, each one atomic.
Trusted boundary: human-reviewed semantics of the database
Main exports:
  Host, Domain, SSLCertificate, Service, DeploymentSnapshot, RollbackEvent,
  HealthCheckLog, AlertRule, AlertLog, InsightState, Database, Query,
  Database.perform, Database.perform_services, Database.perform_snapshots,
  Database.perform_events
-/
import ServersManager.DockerPs
import ServersManager.Library.Table

namespace ServersManager

open Library

/-- A point in time, in milliseconds. -/
abbrev Date := Int

/-! ### Entities -/

inductive HostStatus where
  | unknown
  | healthy
  | degraded
  | unreachable
  | pendingSetup
deriving Repr, Inhabited, DecidableEq

def HostStatus.text : HostStatus → String
  | .unknown => "unknown"
  | .healthy => "healthy"
  | .degraded => "degraded"
  | .unreachable => "unreachable"
  | .pendingSetup => "pending_setup"

structure Host where
  id : Nat
  orgId : Nat
  name : String
  ipAddress : String
  sshPort : Nat
  sshUser : String
  sshKeyEncrypted : String
  status : HostStatus
  lastCheckedAt : Option Date
  setupVerifiedAt : Option Date
  createdAt : Date
deriving Repr, Inhabited, DecidableEq

inductive DomainDnsStatus where
  | unknown
  | resolving
  | notResolving
deriving Repr, Inhabited, DecidableEq

def DomainDnsStatus.text : DomainDnsStatus → String
  | .unknown => "unknown"
  | .resolving => "resolving"
  | .notResolving => "not_resolving"

structure Domain where
  id : Nat
  orgId : Nat
  hostId : Option Nat
  hostname : String
  registrar : Option String
  domainExpiresAt : Option Date
  dnsStatus : DomainDnsStatus
  resolvedIp : Option String
  lastCheckedAt : Option Date
deriving Repr, Inhabited, DecidableEq

inductive SslCertificateStatus where
  | unknown
  | valid
  | expiringSoon
  | expired
  | invalid
deriving Repr, Inhabited, DecidableEq

def SslCertificateStatus.text : SslCertificateStatus → String
  | .unknown => "unknown"
  | .valid => "valid"
  | .expiringSoon => "expiring_soon"
  | .expired => "expired"
  | .invalid => "invalid"

structure SSLCertificate where
  id : Nat
  domainId : Nat
  issuer : Option String
  validFrom : Option Date
  validTo : Option Date
  status : SslCertificateStatus
  lastCheckedAt : Option Date
deriving Repr, Inhabited, DecidableEq

structure Service where
  id : Nat
  orgId : Nat
  hostId : Nat
  containerId : String
  containerName : String
  image : String
  currentTag : Option String
  status : ServiceStatus
  portMappings : Option Json
  lastCheckedAt : Date
deriving Repr, Inhabited

structure DeploymentSnapshot where
  id : Nat
  serviceId : Nat
  imageTag : String
  configBlob : String
  deployedAt : Date
  deployedById : Option Nat
  isCurrent : Bool
deriving Repr, Inhabited, DecidableEq

inductive RollbackEventStatus where
  | pending
  | inProgress
  | succeeded
  | failed
deriving Repr, Inhabited, DecidableEq

def RollbackEventStatus.text : RollbackEventStatus → String
  | .pending => "pending"
  | .inProgress => "in_progress"
  | .succeeded => "succeeded"
  | .failed => "failed"

/-- `ACTIVE_STATUSES`, also the condition of the partial unique index. -/
def RollbackEventStatus.isActive : RollbackEventStatus → Bool
  | .pending | .inProgress => true
  | .succeeded | .failed => false

structure RollbackLogEntry where
  timestamp : Date
  step : String
  command : Option String
  exitCode : Option (Option Int)
  stdout : Option String
  stderr : Option String
  message : Option String
deriving Repr, Inhabited, DecidableEq

structure RollbackEvent where
  id : Nat
  serviceId : Nat
  fromSnapshotId : Nat
  toSnapshotId : Nat
  triggeredById : Nat
  status : RollbackEventStatus
  logOutput : List RollbackLogEntry
  completedAt : Option Date
deriving Repr, Inhabited, DecidableEq

inductive HealthCheckEntityType where
  | host
  | domain
  | sslCertificate
  | service
deriving Repr, Inhabited, DecidableEq

structure HealthCheckLog where
  id : Nat
  entityType : HealthCheckEntityType
  entityId : Nat
  status : String
  rawOutput : Json
deriving Repr, Inhabited

inductive AlertEntityType where
  | host
  | domain
  | sslCertificate
  | service
  | rollbackEvent
  | system
deriving Repr, Inhabited, DecidableEq

def AlertEntityType.text : AlertEntityType → String
  | .host => "host"
  | .domain => "domain"
  | .sslCertificate => "ssl_certificate"
  | .service => "service"
  | .rollbackEvent => "rollback_event"
  | .system => "system"

inductive AlertChannel where
  | slack
  | email
deriving Repr, Inhabited, DecidableEq

structure AlertRule where
  id : Nat
  orgId : Nat
  entityType : AlertEntityType
  condition : String
  channel : AlertChannel
  channelConfigEncrypted : String
  cooldownMinutes : Int
  enabled : Bool
deriving Repr, Inhabited, DecidableEq

inductive AlertDeliveryStatus where
  | sent
  | failed
deriving Repr, Inhabited, DecidableEq

structure AlertLog where
  id : Nat
  alertRuleId : Nat
  entityType : AlertEntityType
  entityId : Nat
  message : String
  deliveryStatus : AlertDeliveryStatus
  error : Option String
  firedAt : Date
deriving Repr, Inhabited, DecidableEq

inductive InsightFlag where
  | idleHost
  | orphanedDomain
  | orphanedHost
deriving Repr, Inhabited, DecidableEq

structure InsightState where
  id : Nat
  entityId : Nat
  flag : InsightFlag
  active : Bool
deriving Repr, Inhabited, DecidableEq

/-! ### Keys and unique indexes -/

instance : Keyed Host Empty where
  id := Host.id
  index _ := none

/-- Unique on `(org_id, hostname)`. -/
instance : Keyed Domain (Nat × String) where
  id := Domain.id
  index domain := some (domain.orgId, domain.hostname)

/-- Unique on `domain_id`. -/
instance : Keyed SSLCertificate Nat where
  id := SSLCertificate.id
  index certificate := some certificate.domainId

/-- Unique on `(host_id, container_id)`. -/
instance : Keyed Service (Nat × String) where
  id := Service.id
  index service := some (service.hostId, service.containerId)

/-- Unique on `service_id` where the snapshot is current. -/
instance : Keyed DeploymentSnapshot Nat where
  id := DeploymentSnapshot.id
  index snapshot := if snapshot.isCurrent then some snapshot.serviceId else none

/-- Unique on `service_id` where the event is active. -/
instance : Keyed RollbackEvent Nat where
  id := RollbackEvent.id
  index event := if event.status.isActive then some event.serviceId else none

instance : Keyed HealthCheckLog Empty where
  id := HealthCheckLog.id
  index _ := none

instance : Keyed AlertRule Empty where
  id := AlertRule.id
  index _ := none

instance : Keyed AlertLog Empty where
  id := AlertLog.id
  index _ := none

/-- Unique on `(entity_id, flag)`. -/
instance : Keyed InsightState (Nat × InsightFlag) where
  id := InsightState.id
  index state := some (state.entityId, state.flag)

/-- The tables, and the clock that `firedAt` and `createdAt` are read from. -/
structure Database where
  hosts : Table Host
  domains : Table Domain
  certificates : Table SSLCertificate
  services : Table Service
  snapshots : Table DeploymentSnapshot
  events : Table RollbackEvent
  healthCheckLogs : Table HealthCheckLog
  alertRules : Table AlertRule
  alertLogs : Table AlertLog
  insightStates : Table InsightState
  clock : Date
deriving Inhabited

/-! ### Queries -/

/-- One call of a repository.  An insert gets a new row with any primary key; its own
is generated.  A condition on the organization is left out where it is `none`.
`createSnapshot` is the whole transaction of that name. -/
inductive Query where
  | findHost (id : Nat)
  | findHostForOrg (orgId id : Nat)
  | findHosts (orgId : Option Nat)
  | findHealthyHosts (createdBefore : Date) (orgId : Option Nat)
  | insertHost (host : Host)
  | saveHost (host : Host)
  | removeHost (host : Host)
  | findDomain (id : Nat)
  | findDomainForOrg (orgId id : Nat)
  | findDomainByHostname (orgId : Nat) (hostname : String)
  | findDomains (orgId : Option Nat)
  | findDomainsWithHost
  | insertDomain (domain : Domain)
  | saveDomain (domain : Domain)
  | removeDomain (domain : Domain)
  | findCertificate (domainId : Nat)
  | insertCertificate (certificate : SSLCertificate)
  | saveCertificate (certificate : SSLCertificate)
  | findRunningServices (hostIds : List Nat)
  | findService (id : Nat)
  | findServiceForOrg (orgId id : Nat)
  | findServiceByContainer (hostId : Nat) (containerId : String)
  | findServicesOfHost (hostId : Nat)
  | insertService (service : Service)
  | saveService (service : Service)
  | findSnapshot (id : Nat)
  | findSnapshotOfService (serviceId id : Nat)
  | findCurrentSnapshot (serviceId : Nat)
  | createSnapshot (snapshot : DeploymentSnapshot)
  | findEvent (id : Nat)
  | findActiveEvent (serviceId : Nat)
  | insertEvent (event : RollbackEvent)
  | saveEvent (event : RollbackEvent)
  | writeHealthCheckLog (log : HealthCheckLog)
  | findAlertRules (orgId : Nat) (entityType : AlertEntityType) (condition : String)
  | findRecentSend (alertRuleId entityId : Nat) (cutoff : Date)
  | saveAlertLog (log : AlertLog)
  | findActiveInsights (flag : InsightFlag)
  | findInsight (entityId : Nat) (flag : InsightFlag)
  | insertInsight (state : InsightState)
  | saveInsight (state : InsightState)

abbrev Query.Reply : Query → Type
  | .findHost _ => Option Host
  | .findHostForOrg _ _ => Option Host
  | .findHosts _ => List Host
  | .findHealthyHosts _ _ => List Host
  | .insertHost _ => Host
  | .saveHost _ => Host
  | .removeHost _ => Unit
  | .findDomain _ => Option Domain
  | .findDomainForOrg _ _ => Option Domain
  | .findDomainByHostname _ _ => Option Domain
  | .findDomains _ => List Domain
  | .findDomainsWithHost => List Domain
  | .insertDomain _ => Domain
  | .saveDomain _ => Domain
  | .removeDomain _ => Unit
  | .findCertificate _ => Option SSLCertificate
  | .insertCertificate _ => SSLCertificate
  | .saveCertificate _ => SSLCertificate
  | .findRunningServices _ => List Service
  | .findService _ => Option Service
  | .findServiceForOrg _ _ => Option Service
  | .findServiceByContainer _ _ => Option Service
  | .findServicesOfHost _ => List Service
  | .insertService _ => Service
  | .saveService _ => Service
  | .findSnapshot _ => Option DeploymentSnapshot
  | .findSnapshotOfService _ _ => Option DeploymentSnapshot
  | .findCurrentSnapshot _ => Option DeploymentSnapshot
  | .createSnapshot _ => DeploymentSnapshot
  | .findEvent _ => Option RollbackEvent
  | .findActiveEvent _ => Option RollbackEvent
  | .insertEvent _ => RollbackEvent
  | .saveEvent _ => RollbackEvent
  | .writeHealthCheckLog _ => HealthCheckLog
  | .findAlertRules _ _ _ => List AlertRule
  | .findRecentSend _ _ _ => Option AlertLog
  | .saveAlertLog _ => AlertLog
  | .findActiveInsights _ => List InsightState
  | .findInsight _ _ => Option InsightState
  | .insertInsight _ => InsightState
  | .saveInsight _ => InsightState

def uniqueViolationCode : String := "23505"

/-- The error of a write that a unique index refuses. -/
def uniqueViolation : JsError :=
  .queryFailed uniqueViolationCode "duplicate key value violates unique constraint"

/-- The first statement of `createSnapshot`: no snapshot of the service stays
current. -/
def DeploymentSnapshot.retire (serviceId : Nat) (snapshot : DeploymentSnapshot) :
    DeploymentSnapshot :=
  if snapshot.serviceId = serviceId ∧ snapshot.isCurrent then
    { snapshot with isCurrent := false }
  else snapshot

@[simp] theorem DeploymentSnapshot.retire_id (serviceId : Nat)
    (snapshot : DeploymentSnapshot) : (snapshot.retire serviceId).id = snapshot.id := by
  unfold retire
  split <;> rfl

@[simp] theorem DeploymentSnapshot.retire_serviceId (serviceId : Nat)
    (snapshot : DeploymentSnapshot) :
    (snapshot.retire serviceId).serviceId = snapshot.serviceId := by
  unfold retire
  split <;> rfl

/-- Another service's snapshot is not retired. -/
theorem DeploymentSnapshot.retire_other {serviceId : Nat} {snapshot : DeploymentSnapshot}
    (differs : snapshot.serviceId ≠ serviceId) : snapshot.retire serviceId = snapshot :=
  if_neg fun both => differs both.1

/-- A snapshot that is still current is another service's. -/
theorem DeploymentSnapshot.retire_isCurrent {serviceId : Nat} {snapshot : DeploymentSnapshot} :
    (snapshot.retire serviceId).isCurrent = true ↔
      snapshot.serviceId ≠ serviceId ∧ snapshot.isCurrent = true := by
  unfold retire
  split
  · next retires => simp [retires.1]
  · next stays =>
    constructor
    · intro current
      exact ⟨fun same => stays ⟨same, current⟩, current⟩
    · intro both
      exact both.2

/-- A retired snapshot gives its index up, and others keep theirs. -/
theorem DeploymentSnapshot.retire_index (serviceId : Nat)
    (snapshot : DeploymentSnapshot) :
    Keyed.index (snapshot.retire serviceId) = none ∨
      Keyed.index (snapshot.retire serviceId) = Keyed.index snapshot := by
  unfold retire
  split
  · exact .inl rfl
  · exact .inr rfl

def retireSnapshots (snapshots : Table DeploymentSnapshot) (serviceId : Nat) :
    Table DeploymentSnapshot :=
  snapshots.mapRows (DeploymentSnapshot.retire serviceId)
    (DeploymentSnapshot.retire_id serviceId)
    (DeploymentSnapshot.retire_index serviceId)

/-- `ON DELETE SET NULL` of a removed host. -/
def Domain.unlink (hostId : Nat) (domain : Domain) : Domain :=
  if domain.hostId = some hostId then { domain with hostId := none } else domain

@[simp] theorem Domain.unlink_id (hostId : Nat) (domain : Domain) :
    (domain.unlink hostId).id = domain.id := by
  unfold unlink
  split <;> rfl

/-- An unlinked domain keeps its index. -/
theorem Domain.unlink_index (hostId : Nat) (domain : Domain) :
    Keyed.index (domain.unlink hostId) = Keyed.index domain := by
  unfold unlink
  split <;> rfl

/-- A service of a host, by its id. -/
def Database.onHost (db : Database) (hostId serviceId : Nat) : Bool :=
  (db.services.byId serviceId).any fun service => service.hostId == hostId

/-- Remove a host: its services go with it, and with them their snapshots and
rollbacks; its domains are unlinked. -/
def Database.removeHost (db : Database) (hostId : Nat) : Database :=
  { db with
    hosts := db.hosts.removeRows fun host => host.id == hostId
    domains := db.domains.mapRows (Domain.unlink hostId) (Domain.unlink_id hostId)
      fun domain => .inr (Domain.unlink_index hostId domain)
    services := db.services.removeRows fun service => service.hostId == hostId
    snapshots := db.snapshots.removeRows fun snapshot =>
      db.onHost hostId snapshot.serviceId
    events := db.events.removeRows fun event => db.onHost hostId event.serviceId }

/-- Remove a domain: its certificate goes with it. -/
def Database.removeDomain (db : Database) (domainId : Nat) : Database :=
  { db with
    domains := db.domains.removeRows fun domain => domain.id == domainId
    certificates := db.certificates.removeRows fun certificate =>
      certificate.domainId == domainId }

/-- Answer a write: the row it leaves behind, or the violation that refused it. -/
def Database.answer {ρ : Type} (db : Database)
    (written : Option (ρ × Database)) : Except JsError ρ × Database :=
  match written with
  | some (row, after) => (.ok row, after)
  | none => (.error uniqueViolation, db)

/-- A condition on the organization, where there is one. -/
def ofOrg (required : Option Nat) (orgId : Nat) : Bool :=
  required.all (· == orgId)

/-- The answer to a query, and the database it leaves behind.  `save` writes every
column of the row it is given.  Foreign keys refuse nothing here: a write they refuse
is one that fails. -/
def Database.perform (db : Database) : (query : Query) →
    Except JsError query.Reply × Database
  | .findHost id => (.ok (db.hosts.byId id), db)
  | .findHostForOrg orgId id =>
      (.ok (db.hosts.findOne fun host => host.id == id && host.orgId == orgId), db)
  | .findHosts orgId => (.ok (db.hosts.find fun host => ofOrg orgId host.orgId), db)
  | .findHealthyHosts createdBefore orgId =>
      (.ok (db.hosts.find fun host =>
        host.status == .healthy && decide (host.createdAt < createdBefore) &&
          ofOrg orgId host.orgId), db)
  | .insertHost host =>
      db.answer ((db.hosts.insert fun id =>
          { host with id := id, createdAt := db.clock }).map
        fun (row, hosts) => (row, { db with hosts := hosts }))
  | .saveHost host =>
      db.answer ((db.hosts.save host).map
        fun hosts => (host, { db with hosts := hosts }))
  | .removeHost host => (.ok (), db.removeHost host.id)
  | .findDomain id => (.ok (db.domains.byId id), db)
  | .findDomainForOrg orgId id =>
      (.ok (db.domains.findOne fun domain =>
        domain.id == id && domain.orgId == orgId), db)
  | .findDomainByHostname orgId hostname =>
      (.ok (db.domains.findOne fun domain =>
        domain.orgId == orgId && domain.hostname == hostname), db)
  | .findDomains orgId =>
      (.ok (db.domains.find fun domain => ofOrg orgId domain.orgId), db)
  | .findDomainsWithHost =>
      (.ok (db.domains.find fun domain => domain.hostId.isSome), db)
  | .insertDomain domain =>
      db.answer ((db.domains.insert fun id => { domain with id := id }).map
        fun (row, domains) => (row, { db with domains := domains }))
  | .saveDomain domain =>
      db.answer ((db.domains.save domain).map
        fun domains => (domain, { db with domains := domains }))
  | .removeDomain domain => (.ok (), db.removeDomain domain.id)
  | .findCertificate domainId =>
      (.ok (db.certificates.findOne fun certificate =>
        certificate.domainId == domainId), db)
  | .insertCertificate certificate =>
      db.answer ((db.certificates.insert fun id => { certificate with id := id }).map
        fun (row, certificates) => (row, { db with certificates := certificates }))
  | .saveCertificate certificate =>
      db.answer ((db.certificates.save certificate).map
        fun certificates => (certificate, { db with certificates := certificates }))
  | .findRunningServices hostIds =>
      (.ok (db.services.find fun service =>
        hostIds.contains service.hostId && service.status == .running), db)
  | .findService id => (.ok (db.services.byId id), db)
  | .findServiceForOrg orgId id =>
      (.ok (db.services.findOne fun service =>
        service.id == id && service.orgId == orgId), db)
  | .findServiceByContainer hostId containerId =>
      (.ok (db.services.findOne fun service =>
        service.hostId == hostId && service.containerId == containerId), db)
  | .findServicesOfHost hostId =>
      (.ok (db.services.find fun service => service.hostId == hostId), db)
  | .insertService service =>
      db.answer ((db.services.insert fun id => { service with id := id }).map
        fun (row, services) => (row, { db with services := services }))
  | .saveService service =>
      db.answer ((db.services.save service).map
        fun services => (service, { db with services := services }))
  | .findSnapshot id => (.ok (db.snapshots.byId id), db)
  | .findSnapshotOfService serviceId id =>
      (.ok (db.snapshots.findOne fun snapshot =>
        snapshot.id == id && snapshot.serviceId == serviceId), db)
  | .findCurrentSnapshot serviceId =>
      (.ok (db.snapshots.findOne fun snapshot =>
        snapshot.serviceId == serviceId && snapshot.isCurrent), db)
  | .createSnapshot snapshot =>
      db.answer (((retireSnapshots db.snapshots snapshot.serviceId).insert
          fun id => { snapshot with id := id, isCurrent := true }).map
        fun (row, snapshots) => (row, { db with snapshots := snapshots }))
  | .findEvent id => (.ok (db.events.byId id), db)
  | .findActiveEvent serviceId =>
      (.ok (db.events.findOne fun event =>
        event.serviceId == serviceId && event.status.isActive), db)
  | .insertEvent event =>
      db.answer ((db.events.insert fun id => { event with id := id }).map
        fun (row, events) => (row, { db with events := events }))
  | .saveEvent event =>
      db.answer ((db.events.save event).map
        fun events => (event, { db with events := events }))
  | .writeHealthCheckLog log =>
      db.answer ((db.healthCheckLogs.insert fun id => { log with id := id }).map
        fun (row, logs) => (row, { db with healthCheckLogs := logs }))
  | .findAlertRules orgId entityType condition =>
      (.ok (db.alertRules.find fun rule =>
        rule.orgId == orgId && rule.entityType == entityType &&
          rule.condition == condition && rule.enabled), db)
  | .findRecentSend alertRuleId entityId cutoff =>
      (.ok (db.alertLogs.findOne fun log =>
        log.alertRuleId == alertRuleId && log.entityId == entityId &&
          log.deliveryStatus == .sent && decide (cutoff < log.firedAt)), db)
  | .saveAlertLog log =>
      db.answer ((db.alertLogs.insert fun id =>
          { log with id := id, firedAt := db.clock }).map
        fun (row, logs) => (row, { db with alertLogs := logs }))
  | .findActiveInsights flag =>
      (.ok (db.insightStates.find fun state => state.flag == flag && state.active), db)
  | .findInsight entityId flag =>
      (.ok (db.insightStates.findOne fun state =>
        state.entityId == entityId && state.flag == flag), db)
  | .insertInsight state =>
      db.answer ((db.insightStates.insert fun id => { state with id := id }).map
        fun (row, states) => (row, { db with insightStates := states }))
  | .saveInsight state =>
      db.answer ((db.insightStates.save state).map
        fun states => (state, { db with insightStates := states }))

/-! ### Frames -/

def Query.writesHosts : Query → Bool
  | .insertHost _ | .saveHost _ | .removeHost _ => true
  | _ => false

def Query.writesDomains : Query → Bool
  | .insertDomain _ | .saveDomain _ | .removeDomain _ | .removeHost _ => true
  | _ => false

def Query.writesCertificates : Query → Bool
  | .insertCertificate _ | .saveCertificate _ | .removeDomain _ => true
  | _ => false

def Query.writesServices : Query → Bool
  | .insertService _ | .saveService _ | .removeHost _ => true
  | _ => false

def Query.writesSnapshots : Query → Bool
  | .createSnapshot _ | .removeHost _ => true
  | _ => false

def Query.writesEvents : Query → Bool
  | .insertEvent _ | .saveEvent _ | .removeHost _ => true
  | _ => false

def Query.writesInsights : Query → Bool
  | .insertInsight _ | .saveInsight _ => true
  | _ => false

/-- What no written database changes, the answer to a write does not change. -/
theorem Database.answer_frame {ρ τ α : Type} {db : Database} (field : Database → α)
    (written : Option τ) (update : τ → ρ × Database)
    (keeps : ∀ after, field (update after).2 = field db) :
    field (db.answer (written.map update)).2 = field db := by
  cases written with
  | none => rfl
  | some after => exact keeps after

/-- What holds before a write and of every written database holds of the answer. -/
theorem Database.answer_keeps {ρ τ : Type} {db : Database} (keeps : Database → Prop)
    {written : Option τ} {update : τ → ρ × Database} (before : keeps db)
    (kept : ∀ after, written = some after → keeps (update after).2) :
    keeps (db.answer (written.map update)).2 := by
  cases same : written with
  | none => exact before
  | some after => exact kept after same

section Frames

variable {db : Database} {query : Query}

/-- The frame of the hosts; the tables below have each their own. -/
theorem Database.perform_hosts (frame : query.writesHosts = false) :
    (db.perform query).2.hosts = db.hosts := by
  cases query <;>
    first
    | rfl
    | exact Database.answer_frame Database.hosts _ _ fun _ => rfl
    | cases frame

theorem Database.perform_domains (frame : query.writesDomains = false) :
    (db.perform query).2.domains = db.domains := by
  cases query <;>
    first
    | rfl
    | exact Database.answer_frame Database.domains _ _ fun _ => rfl
    | cases frame

theorem Database.perform_certificates (frame : query.writesCertificates = false) :
    (db.perform query).2.certificates = db.certificates := by
  cases query <;>
    first
    | rfl
    | exact Database.answer_frame Database.certificates _ _ fun _ => rfl
    | cases frame

theorem Database.perform_insights (frame : query.writesInsights = false) :
    (db.perform query).2.insightStates = db.insightStates := by
  cases query <;>
    first
    | rfl
    | exact Database.answer_frame Database.insightStates _ _ fun _ => rfl
    | cases frame

theorem Database.perform_services (frame : query.writesServices = false) :
    (db.perform query).2.services = db.services := by
  cases query <;>
    first
    | rfl
    | exact Database.answer_frame Database.services _ _ fun _ => rfl
    | cases frame

theorem Database.perform_snapshots (frame : query.writesSnapshots = false) :
    (db.perform query).2.snapshots = db.snapshots := by
  cases query <;>
    first
    | rfl
    | exact Database.answer_frame Database.snapshots _ _ fun _ => rfl
    | cases frame

theorem Database.perform_events (frame : query.writesEvents = false) :
    (db.perform query).2.events = db.events := by
  cases query <;>
    first
    | rfl
    | exact Database.answer_frame Database.events _ _ fun _ => rfl
    | cases frame

end Frames

/-! ### Which writes are refused -/

theorem Database.answer_eq_ok {ρ τ : Type} {db : Database} {written : Option τ}
    {update : τ → ρ × Database} {row : ρ} :
    (db.answer (written.map update)).1 = .ok row ↔
      ∃ after, written = some after ∧ (update after).1 = row := by
  cases written with
  | none => simp [Database.answer]
  | some after => simp [Database.answer]

/-- Saving a service is refused where another row has its container id. -/
theorem Database.perform_saveService {db : Database} {service saved : Service} :
    (db.perform (.saveService service)).1 = .ok saved ↔
      ¬ db.services.Clashes service ∧ service = saved := by
  refine Database.answer_eq_ok.trans ⟨?_, ?_⟩
  · rintro ⟨after, writes, same⟩
    exact ⟨Table.not_clashes_of_save writes, same⟩
  · rintro ⟨clear, same⟩
    obtain ⟨after, writes⟩ := Table.exists_save clear
    exact ⟨after, writes, same⟩

/-- Retiring leaves no snapshot of the service current. -/
theorem retireSnapshots_current {snapshots : Table DeploymentSnapshot}
    {serviceId : Nat} {snapshot : DeploymentSnapshot}
    (member : snapshot ∈ retireSnapshots snapshots serviceId) :
    ¬ (snapshot.serviceId = serviceId ∧ snapshot.isCurrent = true) := by
  obtain ⟨old, -, rfl⟩ := Table.mem_mapRows.mp member
  rintro ⟨ofService, current⟩
  rw [DeploymentSnapshot.retire_serviceId] at ofService
  exact (DeploymentSnapshot.retire_isCurrent.mp current).1 ofService

/-- The transaction of `createSnapshot` never meets the unique index. -/
theorem exists_insert_snapshot (snapshots : Table DeploymentSnapshot)
    (snapshot : DeploymentSnapshot) :
    ∃ after, (retireSnapshots snapshots snapshot.serviceId).insert
      (fun id => { snapshot with id := id, isCurrent := true }) = some after := by
  refine Option.ne_none_iff_exists'.mp fun refused => ?_
  obtain ⟨other, member, -, key, rowKey, otherKey⟩ := Table.insert_eq_none.mp refused
  refine retireSnapshots_current member ?_
  simp only [Keyed.index, if_true, Option.mem_def, Option.some.injEq] at rowKey
  simp only [Keyed.index] at otherKey
  split at otherKey
  · next current => exact ⟨(Option.some.inj otherKey).trans rowKey.symm, current⟩
  · cases otherKey

/-- A snapshot can always be created, since the current one is retired first. -/
theorem Database.perform_createSnapshot (db : Database)
    (snapshot : DeploymentSnapshot) :
    ∃ created, (db.perform (.createSnapshot snapshot)).1 = .ok created := by
  obtain ⟨after, inserts⟩ := exists_insert_snapshot db.snapshots snapshot
  exact ⟨after.1, Database.answer_eq_ok.mpr ⟨after, inserts, rfl⟩⟩

/-- No index refuses a host. -/
theorem Database.perform_saveHost (db : Database) (host : Host) :
    (db.perform (.saveHost host)).1 = .ok host := by
  obtain ⟨hosts, saved⟩ : ∃ hosts, db.hosts.save host = some hosts := by
    apply Table.exists_save
    rintro ⟨other, -, -, key, rowKey, -⟩
    cases rowKey
  exact Database.answer_eq_ok.mpr ⟨hosts, saved, rfl⟩

/-- A log can always be written. -/
theorem Database.perform_writeHealthCheckLog (db : Database) (log : HealthCheckLog) :
    ∃ written, (db.perform (.writeHealthCheckLog log)).1 = .ok written := by
  obtain ⟨after, inserts⟩ : ∃ after,
      db.healthCheckLogs.insert (fun id => { log with id := id }) = some after := by
    refine Option.ne_none_iff_exists'.mp fun refused => ?_
    obtain ⟨other, -, -, key, rowKey, -⟩ := Table.insert_eq_none.mp refused
    cases rowKey
  exact ⟨after.1, Database.answer_eq_ok.mpr ⟨after, inserts, rfl⟩⟩

end ServersManager
