/-
Module: ServersManager.Tenancy
Purpose: Which organization owns an entity, for good: what every job writes agrees with
  it, and what every job reads says it.
Trusted boundary: none
Main exports:
  OwnerRegistry, AlertedEntity, OwnerRegistry.owner, Registered, Registered.answered,
  JobProgress, WithinTenant, tenantProtocol, TenantStore, tenantAnswers, tenant_keeps, Minds
-/
import ServersManager.DomainCheck
import ServersManager.Insights
import ServersManager.Rollback
import ServersManager.Library.Pool
import ServersManager.Library.Registry

namespace ServersManager

open Library

/-! ### Owners -/

/-- What rows are given when they are inserted, and keep: a host and a domain their
organization, a service its host and organization, a rollback its service. -/
structure OwnerRegistry where
  hosts : Nat → Option Nat
  domains : Nat → Option Nat
  services : Nat → Option (Nat × Nat)
  events : Nat → Option Nat

/-- Nothing has been inserted. -/
def OwnerRegistry.empty : OwnerRegistry where
  hosts _ := none
  domains _ := none
  services _ := none
  events _ := none

/-- What an alert is about. -/
inductive AlertedEntity where
  | host (id : Nat)
  | domain (id : Nat)
  | certificate (domainId : Nat)
  | service (id : Nat)
  | rollbackEvent (id : Nat)
deriving Repr, DecidableEq

/-- An insight is about a host or a domain, depending on its flag. -/
def alertedEntity (flag : Option InsightFlag) (entityType : AlertEntityType)
    (entityId : Nat) : AlertedEntity :=
  match entityType with
  | .host => .host entityId
  | .domain => .domain entityId
  | .sslCertificate => .certificate entityId
  | .service => .service entityId
  | .rollbackEvent => .rollbackEvent entityId
  | .system =>
      match flag with
      | some .orphanedDomain => .domain entityId
      | _ => .host entityId

namespace OwnerRegistry

/-- The organization of the host on which a service has been found. -/
def serviceOwner (registry : OwnerRegistry) (serviceId : Nat) : Option Nat :=
  (registry.services serviceId).bind fun (hostId, _) => registry.hosts hostId

/-- The organization that owns an entity: a certificate is its domain's, a service its
host's, and a rollback its service's. -/
def owner (registry : OwnerRegistry) : AlertedEntity → Option Nat
  | .host id => registry.hosts id
  | .domain id => registry.domains id
  | .certificate domainId => registry.domains domainId
  | .service id => registry.serviceOwner id
  | .rollbackEvent id => (registry.events id).bind registry.serviceOwner

structure Le (known registry : OwnerRegistry) : Prop where
  hosts : Extends known.hosts registry.hosts
  domains : Extends known.domains registry.domains
  services : Extends known.services registry.services
  events : Extends known.events registry.events

theorem Le.refl (registry : OwnerRegistry) : registry.Le registry :=
  ⟨.refl _, .refl _, .refl _, .refl _⟩

theorem Le.trans {first second third : OwnerRegistry} (before : first.Le second)
    (after : second.Le third) : first.Le third :=
  ⟨before.hosts.trans after.hosts, before.domains.trans after.domains,
    before.services.trans after.services, before.events.trans after.events⟩

/-- Who is known to own a service stays its owner. -/
theorem Le.serviceOwner {known registry : OwnerRegistry} (le : known.Le registry)
    {serviceId orgId : Nat} (owned : known.serviceOwner serviceId = some orgId) :
    registry.serviceOwner serviceId = some orgId := by
  obtain ⟨⟨hostId, placedOrg⟩, placed, host⟩ := Option.bind_eq_some_iff.mp owned
  apply Option.bind_eq_some_iff.mpr
  exact ⟨(hostId, placedOrg), le.services _ _ placed, le.hosts _ _ host⟩

/-- So does who is known to own anything that alerts are about. -/
theorem Le.owner {known registry : OwnerRegistry} (le : known.Le registry)
    {entity : AlertedEntity} {orgId : Nat} (owned : known.owner entity = some orgId) :
    registry.owner entity = some orgId := by
  cases entity with
  | host id => exact le.hosts _ _ owned
  | domain id => exact le.domains _ _ owned
  | certificate domainId => exact le.domains _ _ owned
  | service id => exact le.serviceOwner owned
  | rollbackEvent id =>
      obtain ⟨serviceId, event, service⟩ := Option.bind_eq_some_iff.mp owned
      apply Option.bind_eq_some_iff.mpr
      exact ⟨serviceId, le.events _ _ event, le.serviceOwner service⟩

/-! ### What rows say -/

def HasHost (registry : OwnerRegistry) (host : Host) : Prop :=
  registry.hosts host.id = some host.orgId

/-- A domain that is linked is linked to a host of its own organization. -/
structure HasDomain (registry : OwnerRegistry) (domain : Domain) : Prop where
  own : registry.domains domain.id = some domain.orgId
  linked : ∀ hostId, domain.hostId = some hostId →
    registry.hosts hostId = some domain.orgId

/-- A service belongs to the organization of its host. -/
structure HasService (registry : OwnerRegistry) (service : Service) : Prop where
  own : registry.services service.id = some (service.hostId, service.orgId)
  placed : registry.hosts service.hostId = some service.orgId

def HasEvent (registry : OwnerRegistry) (event : RollbackEvent) : Prop :=
  registry.events event.id = some event.serviceId

/-- What may be written, given what is known of the owners. -/
def Permits (known : OwnerRegistry) : Call → Prop
  | .query (.saveHost host) => known.HasHost host
  | .query (.insertDomain domain) =>
      ∀ hostId, domain.hostId = some hostId → known.hosts hostId = some domain.orgId
  | .query (.saveDomain domain) => known.HasDomain domain
  | .query (.insertService service) =>
      known.hosts service.hostId = some service.orgId
  | .query (.saveService service) => known.HasService service
  | .query (.saveEvent event) => known.HasEvent event
  | _ => True

/-- What an answer says of the owners, and what is known of every answer. -/
def Learns (registry : OwnerRegistry) :
    (call : Call) → Except JsError call.Reply → Prop
  | .query (.findHost _), .ok (some host) => registry.HasHost host
  | .query (.findHostForOrg orgId id), .ok (some host) =>
      registry.HasHost host ∧ host.id = id ∧ host.orgId = orgId
  | .query (.findHosts _), .ok hosts => ∀ host ∈ hosts, registry.HasHost host
  | .query (.findHealthyHosts _ _), .ok hosts =>
      ∀ host ∈ hosts, registry.HasHost host
  | .query (.insertHost _), .ok host => registry.HasHost host
  | .query (.findDomain _), .ok (some domain) => registry.HasDomain domain
  | .query (.findDomains _), .ok domains =>
      ∀ domain ∈ domains, registry.HasDomain domain
  | .query (.insertDomain _), .ok domain => registry.HasDomain domain
  | .query (.findServiceByContainer hostId _), .ok (some service) =>
      registry.HasService service ∧ service.hostId = hostId
  | .query (.findServicesOfHost _), .ok services =>
      ∀ service ∈ services, registry.HasService service
  | .query (.findService id), .ok (some service) =>
      registry.HasService service ∧ service.id = id
  | .query (.insertService row), .ok service =>
      registry.HasService service ∧ service.hostId = row.hostId
  | .query (.saveService row), .ok service => service = row
  | .query (.findEvent _), .ok (some event) => registry.HasEvent event
  | .query (.findAlertRules orgId entityType _), .ok rules =>
      ∀ rule ∈ rules, rule.orgId = orgId ∧ rule.entityType = entityType
  | _, _ => True

/-- An insert that succeeds is recorded. -/
def after (registry : OwnerRegistry) :
    (call : Call) → Except JsError call.Reply → OwnerRegistry
  | .query (.insertHost _), .ok host =>
      { registry with
        hosts := Function.update registry.hosts host.id (some host.orgId) }
  | .query (.insertDomain _), .ok domain =>
      { registry with
        domains := Function.update registry.domains domain.id (some domain.orgId) }
  | .query (.insertService _), .ok service =>
      { registry with
        services := Function.update registry.services service.id
          (some (service.hostId, service.orgId)) }
  | .query (.insertEvent _), .ok event =>
      { registry with
        events := Function.update registry.events event.id (some event.serviceId) }
  | _, _ => registry

variable {known registry : OwnerRegistry}

theorem Le.hasDomain (le : known.Le registry) {domain : Domain}
    (has : known.HasDomain domain) : registry.HasDomain domain :=
  ⟨le.domains _ _ has.own,
    fun hostId link => le.hosts _ _ (has.linked hostId link)⟩

theorem Le.hasService (le : known.Le registry) {service : Service}
    (has : known.HasService service) : registry.HasService service :=
  ⟨le.services _ _ has.own, le.hosts _ _ has.placed⟩

/-- Who knows more may write no less. -/
theorem Le.permits (le : known.Le registry) {call : Call} (permits : known.Permits call) :
    registry.Permits call := by
  cases call with
  | query q =>
      cases q with
      | saveHost host => exact le.hosts _ _ permits
      | insertDomain domain =>
          intro hostId link
          exact le.hosts _ _ (permits hostId link)
      | saveDomain domain => exact le.hasDomain permits
      | insertService service => exact le.hosts _ _ permits
      | saveService service => exact le.hasService permits
      | saveEvent event => exact le.events _ _ permits
      | _ => trivial
  | _ => trivial

/-- A service belongs to the organization of its host. -/
theorem HasService.serviceOwner {service : Service} (has : registry.HasService service) :
    registry.serviceOwner service.id = some service.orgId := by
  apply Option.bind_eq_some_iff.mpr
  exact ⟨_, has.own, has.placed⟩

end OwnerRegistry

/-- The rows of the database are those that the registry knows of, with the owners they
have always had. -/
structure Registered (db : Database) (registry : OwnerRegistry) : Prop where
  hosts : Library.Records Host.orgId db.hosts registry.hosts
  domains : Library.Records Domain.orgId db.domains registry.domains
  services : Library.Records (fun service : Service => (service.hostId, service.orgId))
    db.services registry.services
  events : Library.Records RollbackEvent.serviceId db.events registry.events
  linked : ∀ domain ∈ db.domains, ∀ hostId, domain.hostId = some hostId →
    registry.hosts hostId = some domain.orgId
  placed : ∀ id hostId orgId, registry.services id = some (hostId, orgId) →
    registry.hosts hostId = some orgId

namespace Registered

variable {db after : Database} {registry : OwnerRegistry}

/-- Of no rows nothing is known. -/
theorem empty : Registered default .empty where
  hosts := .empty _
  domains := .empty _
  services := .empty _
  events := .empty _
  linked := nofun
  placed := nofun

/-- Every stored domain is known. -/
theorem hasDomain (registered : Registered db registry) {domain : Domain}
    (member : domain ∈ db.domains) : registry.HasDomain domain :=
  ⟨registered.domains.present domain member, registered.linked domain member⟩

/-- Every stored service is known, together with its host. -/
theorem hasService (registered : Registered db registry) {service : Service}
    (member : service ∈ db.services) : registry.HasService service := by
  have own := registered.services.present service member
  exact ⟨own, registered.placed _ _ _ own⟩

/-- The tables that the registry is about have not changed. -/
theorem frame (registered : Registered db registry) (hosts : after.hosts = db.hosts)
    (domains : after.domains = db.domains) (services : after.services = db.services)
    (events : after.events = db.events) : Registered after registry := by
  constructor
  · rw [hosts]
    exact registered.hosts
  · rw [domains]
    exact registered.domains
  · rw [services]
    exact registered.services
  · rw [events]
    exact registered.events
  · rw [domains]
    exact registered.linked
  · exact registered.placed

end Registered


/-! ### What an answer does to the owners -/

/-- After an answer the rows are still the registry's, which has only grown, and says of
the answer what is learned from it. -/
structure OwnersTracked (registry : OwnerRegistry) (call : Call)
    (reply : Except JsError call.Reply) (after : Database) : Prop where
  registered : Registered after (registry.after call reply)
  grows : registry.Le (registry.after call reply)
  learns : (registry.after call reply).Learns call reply

section Answers

variable {faults : JsError → Prop} {db after : Database} {registry : OwnerRegistry}

/-- A query that failed has changed nothing and says nothing. -/
theorem Registered.failed (registered : Registered db registry) (q : Query)
    (error : JsError) : OwnersTracked registry (.query q) (.error error) db := by
  have same : registry.after (.query q) (.error error) = registry := by
    cases q <;> rfl
  refine ⟨?_, ?_, ?_⟩
  · rw [same]
    exact registered
  · rw [same]
    exact .refl registry
  · cases q <;> trivial

/-- A new host is recorded as its organization's, for good. -/
theorem Registered.insertHost (registered : Registered db registry) {row : Host}
    {reply : Except JsError Host}
    (answered : Answered faults db (.query (.insertHost row)) reply after) :
    OwnersTracked registry (.query (.insertHost row)) reply after := by
  rcases answered.written rfl with
    ⟨error, rfl, rfl⟩ | ⟨⟨host, hosts⟩, inserted, rfl, rfl⟩
  · exact registered.failed _ error
  · have fresh := registered.hosts.insert_fresh rfl inserted
    have grows := extends_update fresh host.orgId
    refine ⟨?_, ⟨grows, .refl _, .refl _, .refl _⟩, Function.update_self _ _ _⟩
    exact
      { hosts := registered.hosts.insert rfl inserted
        domains := registered.domains
        services := registered.services
        events := registered.events
        linked := fun domain member hostId link =>
          grows _ _ (registered.linked domain member hostId link)
        placed := fun id hostId orgId service =>
          grows _ _ (registered.placed id hostId orgId service) }

/-- A host that is known may be saved, whether its row is still there or is made again. -/
theorem Registered.saveHost (registered : Registered db registry) {row : Host}
    (has : registry.HasHost row) {reply : Except JsError Host}
    (answered : Answered faults db (.query (.saveHost row)) reply after) :
    OwnersTracked registry (.query (.saveHost row)) reply after := by
  rcases answered.written rfl with ⟨error, rfl, rfl⟩ | ⟨hosts, saved, rfl, rfl⟩
  · exact registered.failed _ error
  · exact ⟨{ registered with hosts := registered.hosts.save has saved }, .refl _, trivial⟩

/-- Removing a host takes its rows away; whose they were is still known. -/
theorem Registered.removeHost (registered : Registered db registry) (hostId : Nat) :
    Registered (db.removeHost hostId) registry where
  hosts := registered.hosts.removeRows _
  domains := by
    apply registered.domains.mapRows (Domain.unlink_id hostId) fun domain =>
      .inr (Domain.unlink_index hostId domain)
    intro domain
    unfold Domain.unlink
    split <;> rfl
  services := registered.services.removeRows _
  events := registered.events.removeRows _
  linked := by
    intro domain member other link
    obtain ⟨old, oldMember, rfl⟩ := List.mem_map.mp member
    unfold Domain.unlink at link ⊢
    split at link
    · cases link
    · next differs =>
      rw [if_neg differs]
      exact registered.linked old oldMember other link
  placed := registered.placed

/-- A new domain is recorded as its organization's, whose host it is linked to. -/
theorem Registered.insertDomain (registered : Registered db registry) {row : Domain}
    (linked : ∀ hostId, row.hostId = some hostId →
      registry.hosts hostId = some row.orgId)
    {reply : Except JsError Domain}
    (answered : Answered faults db (.query (.insertDomain row)) reply after) :
    OwnersTracked registry (.query (.insertDomain row)) reply after := by
  rcases answered.written rfl with
    ⟨error, rfl, rfl⟩ | ⟨⟨domain, domains⟩, inserted, rfl, rfl⟩
  · exact registered.failed _ error
  · have fresh := registered.domains.insert_fresh rfl inserted
    have grows := extends_update fresh domain.orgId
    have made := (Table.insert_eq_some.mp inserted).1
    have linkedDomain : ∀ hostId, domain.hostId = some hostId →
        registry.hosts hostId = some domain.orgId := by
      rw [made]
      exact linked
    refine ⟨?_, ⟨.refl _, grows, .refl _, .refl _⟩, ?_⟩
    · refine
        { hosts := registered.hosts
          domains := registered.domains.insert rfl inserted
          services := registered.services
          events := registered.events
          linked := ?_
          placed := registered.placed }
      intro other member
      rcases (Table.mem_insert rfl inserted).mp member with rfl | old
      · exact linkedDomain
      · exact registered.linked other old
    · exact ⟨Function.update_self _ _ _, linkedDomain⟩

/-- A domain that is known may be saved. -/
theorem Registered.saveDomain (registered : Registered db registry) {row : Domain}
    (has : registry.HasDomain row) {reply : Except JsError Domain}
    (answered : Answered faults db (.query (.saveDomain row)) reply after) :
    OwnersTracked registry (.query (.saveDomain row)) reply after := by
  rcases answered.written rfl with ⟨error, rfl, rfl⟩ | ⟨domains, saved, rfl, rfl⟩
  · exact registered.failed _ error
  · refine ⟨?_, .refl _, trivial⟩
    refine
      { registered with
        domains := registered.domains.save has.own saved
        linked := ?_ }
    intro other member
    rcases (Table.mem_save saved).mp member with rfl | ⟨old, -⟩
    · exact has.linked
    · exact registered.linked other old

/-- Removing a domain takes its rows away; whose they were is still known. -/
theorem Registered.removeDomain (registered : Registered db registry) (domainId : Nat) :
    Registered (db.removeDomain domainId) registry where
  hosts := registered.hosts
  domains := registered.domains.removeRows _
  services := registered.services
  events := registered.events
  linked := fun domain member =>
    registered.linked domain (Table.mem_removeRows.mp member).1
  placed := registered.placed

/-- A new service is recorded with the host that it is on. -/
theorem Registered.insertService (registered : Registered db registry) {row : Service}
    (placed : registry.hosts row.hostId = some row.orgId) {reply : Except JsError Service}
    (answered : Answered faults db (.query (.insertService row)) reply after) :
    OwnersTracked registry (.query (.insertService row)) reply after := by
  rcases answered.written rfl with
    ⟨error, rfl, rfl⟩ | ⟨⟨service, services⟩, inserted, rfl, rfl⟩
  · exact registered.failed _ error
  · have fresh := registered.services.insert_fresh rfl inserted
    have grows := extends_update fresh (service.hostId, service.orgId)
    have made := (Table.insert_eq_some.mp inserted).1
    have placedService : registry.hosts service.hostId = some service.orgId := by
      rw [made]
      exact placed
    refine ⟨?_, ⟨.refl _, .refl _, grows, .refl _⟩, ?_⟩
    · refine
        { hosts := registered.hosts
          domains := registered.domains
          services := registered.services.insert rfl inserted
          events := registered.events
          linked := registered.linked
          placed := ?_ }
      intro id hostId orgId recorded
      change Function.update registry.services service.id _ id = _ at recorded
      rw [Function.update_apply] at recorded
      split at recorded
      · cases recorded
        exact placedService
      · exact registered.placed id hostId orgId recorded
    · refine ⟨⟨Function.update_self _ _ _, placedService⟩, ?_⟩
      rw [made]

/-- A service that is known may be saved. -/
theorem Registered.saveService (registered : Registered db registry) {row : Service}
    (has : registry.HasService row) {reply : Except JsError Service}
    (answered : Answered faults db (.query (.saveService row)) reply after) :
    OwnersTracked registry (.query (.saveService row)) reply after := by
  rcases answered.written rfl with ⟨error, rfl, rfl⟩ | ⟨services, saved, rfl, rfl⟩
  · exact registered.failed _ error
  · exact ⟨{ registered with services := registered.services.save has.own saved },
      .refl _, rfl⟩

/-- A new rollback is recorded with its service. -/
theorem Registered.insertEvent (registered : Registered db registry)
    {row : RollbackEvent} {reply : Except JsError RollbackEvent}
    (answered : Answered faults db (.query (.insertEvent row)) reply after) :
    OwnersTracked registry (.query (.insertEvent row)) reply after := by
  rcases answered.written rfl with
    ⟨error, rfl, rfl⟩ | ⟨⟨event, events⟩, inserted, rfl, rfl⟩
  · exact registered.failed _ error
  · have fresh := registered.events.insert_fresh rfl inserted
    have grows := extends_update fresh event.serviceId
    refine ⟨?_, ⟨.refl _, .refl _, .refl _, grows⟩, trivial⟩
    exact
      { hosts := registered.hosts
        domains := registered.domains
        services := registered.services
        events := registered.events.insert rfl inserted
        linked := registered.linked
        placed := registered.placed }

/-- A rollback that is known may be saved. -/
theorem Registered.saveEvent (registered : Registered db registry) {row : RollbackEvent}
    (has : registry.HasEvent row) {reply : Except JsError RollbackEvent}
    (answered : Answered faults db (.query (.saveEvent row)) reply after) :
    OwnersTracked registry (.query (.saveEvent row)) reply after := by
  rcases answered.written rfl with ⟨error, rfl, rfl⟩ | ⟨events, saved, rfl, rfl⟩
  · exact registered.failed _ error
  · exact ⟨{ registered with events := registered.events.save has saved }, .refl _,
      trivial⟩

/-- What a query that writes none of the tables is answered. -/
theorem Registered.performed (registered : Registered db registry) {q : Query}
    {reply : Except JsError q.Reply} (same : registry.after (.query q) reply = registry)
    (hosts : q.writesHosts = false) (domains : q.writesDomains = false)
    (services : q.writesServices = false) (events : q.writesEvents = false)
    (learns : registry.Learns (.query q) reply) :
    OwnersTracked registry (.query q) reply (db.perform q).2 := by
  refine ⟨?_, ?_, ?_⟩
  · rw [same]
    exact registered.frame (Database.perform_hosts hosts) (Database.perform_domains domains)
      (Database.perform_services services) (Database.perform_events events)
  · rw [same]
    exact .refl registry
  · rw [same]
    exact learns

/-- What a row that has been found says. -/
theorem Registered.learns (registered : Registered db registry) {q : Query}
    (reads : ∀ event, q ≠ .insertEvent event) (hosts : q.writesHosts = false)
    (domains : q.writesDomains = false) (services : q.writesServices = false) :
    registry.Learns (.query q) (db.perform q).1 := by
  cases q with
  | findHost id =>
      cases found : db.hosts.byId id with
      | none =>
          simp only [Database.perform, found]
          trivial
      | some host =>
          simp only [Database.perform, found]
          exact registered.hosts.present host (Table.byId_eq_some.mp found).1
  | findHostForOrg orgId id =>
      cases found : db.hosts.findOne fun host => host.id == id && host.orgId == orgId with
      | none =>
          simp only [Database.perform, found]
          trivial
      | some host =>
          simp only [Database.perform, found]
          obtain ⟨member, matched⟩ := Table.findOne_mem found
          simp only [Bool.and_eq_true, beq_iff_eq] at matched
          exact ⟨registered.hosts.present host member, matched.1, matched.2⟩
  | findHosts orgId =>
      intro host member
      exact registered.hosts.present host (Table.mem_find.mp member).1
  | findHealthyHosts createdBefore orgId =>
      intro host member
      exact registered.hosts.present host (Table.mem_find.mp member).1
  | findDomain id =>
      cases found : db.domains.byId id with
      | none =>
          simp only [Database.perform, found]
          trivial
      | some domain =>
          simp only [Database.perform, found]
          exact registered.hasDomain (Table.byId_eq_some.mp found).1
  | findDomains orgId =>
      intro domain member
      exact registered.hasDomain (Table.mem_find.mp member).1
  | findServiceByContainer hostId containerId =>
      cases found : db.services.findOne fun service =>
          service.hostId == hostId && service.containerId == containerId with
      | none =>
          simp only [Database.perform, found]
          trivial
      | some service =>
          simp only [Database.perform, found]
          obtain ⟨member, matched⟩ := Table.findOne_mem found
          simp only [Bool.and_eq_true, beq_iff_eq] at matched
          exact ⟨registered.hasService member, matched.1⟩
  | findServicesOfHost hostId =>
      intro service member
      exact registered.hasService (Table.mem_find.mp member).1
  | findService id =>
      cases found : db.services.byId id with
      | none =>
          simp only [Database.perform, found]
          trivial
      | some service =>
          simp only [Database.perform, found]
          obtain ⟨member, same⟩ := Table.byId_eq_some.mp found
          exact ⟨registered.hasService member, same⟩
  | findEvent id =>
      cases found : db.events.byId id with
      | none =>
          simp only [Database.perform, found]
          trivial
      | some event =>
          simp only [Database.perform, found]
          exact registered.events.present event (Table.byId_eq_some.mp found).1
  | findAlertRules orgId entityType condition =>
      intro rule member
      have matched := (Table.mem_find.mp member).2
      simp only [Bool.and_eq_true, beq_iff_eq] at matched
      exact matched.1.1
  | insertEvent event => exact absurd rfl (reads event)
  | _ => trivial

/-- Whatever a permitted call is answered, the rows keep their owners. -/
theorem Registered.answered (registered : Registered db registry) {call : Call}
    (permits : registry.Permits call) {reply : Except JsError call.Reply}
    (answered : Answered faults db call reply after) : OwnersTracked registry call reply after := by
  cases call with
  | query q =>
      cases q with
      | insertHost row => exact registered.insertHost answered
      | saveHost row => exact registered.saveHost permits answered
      | insertDomain row => exact registered.insertDomain permits answered
      | saveDomain row => exact registered.saveDomain permits answered
      | insertService row => exact registered.insertService permits answered
      | saveService row => exact registered.saveService permits answered
      | insertEvent row => exact registered.insertEvent answered
      | saveEvent row => exact registered.saveEvent permits answered
      | _ =>
          rcases answered with ⟨error, -, rfl, rfl⟩ | ⟨rfl, rfl⟩
          · exact registered.failed _ error
          · first
            | exact registered.performed rfl rfl rfl rfl rfl
                (registered.learns nofun rfl rfl rfl)
            | exact ⟨registered.removeHost _, .refl _, trivial⟩
            | exact ⟨registered.removeDomain _, .refl _, trivial⟩
  | _ =>
      obtain ⟨-, rfl⟩ := answered
      exact ⟨registered, .refl registry, trivial⟩

end Answers


/-! ### What is seen of a job -/

/-- What the calls of a job have shown so far: the flag it has last looked at, the rules
it has last found, and the rule and the entity for which it has last looked for a recent
send. -/
structure JobProgress where
  flag : Option InsightFlag
  rules : List AlertRule
  subject : Option (Nat × Nat)

def JobProgress.after (progress : JobProgress) :
    (call : Call) → Except JsError call.Reply → JobProgress
  | .query (.findActiveInsights flag), _ => { progress with flag := some flag }
  | .query (.findAlertRules _ _ _), .ok rules => { progress with rules := rules }
  | .query (.findRecentSend alertRuleId entityId _), _ =>
      { progress with subject := some (alertRuleId, entityId) }
  | _, _ => progress

/-- The rule is one of those found, and belongs to the organization that owns the
entity. -/
def UsesOwnRule (registry : OwnerRegistry) (progress : JobProgress) (alertRuleId : Nat)
    (entity : AlertRule → AlertedEntity) : Prop :=
  (∃ rule ∈ progress.rules, rule.id = alertRuleId) ∧
    ∀ rule ∈ progress.rules, rule.id = alertRuleId →
      registry.owner (entity rule) = some rule.orgId

/-- What is sent to a channel is about an entity of the rule's organization, and so is
every row of the alert log. -/
def WithinTenant (registry : OwnerRegistry) (progress : JobProgress) : Call → Prop
  | .fetch _ _ => ∃ alertRuleId entityId,
      progress.subject = some (alertRuleId, entityId) ∧
        UsesOwnRule registry progress alertRuleId fun rule =>
          alertedEntity progress.flag rule.entityType entityId
  | .query (.saveAlertLog log) =>
      UsesOwnRule registry progress log.alertRuleId fun _ =>
        alertedEntity progress.flag log.entityType log.entityId
  | _ => True

/-- Whose rule it is does not change when more becomes known. -/
theorem UsesOwnRule.mono {known registry : OwnerRegistry} (le : known.Le registry)
    {progress : JobProgress} {alertRuleId : Nat} {entity : AlertRule → AlertedEntity}
    (uses : UsesOwnRule known progress alertRuleId entity) :
    UsesOwnRule registry progress alertRuleId entity :=
  ⟨uses.1, fun rule member same => le.owner (uses.2 rule member same)⟩

/-- What stays within a tenant still does when more is known. -/
theorem WithinTenant.mono {known registry : OwnerRegistry} (le : known.Le registry)
    {progress : JobProgress} {call : Call} (within : WithinTenant known progress call) :
    WithinTenant registry progress call := by
  cases call with
  | query q =>
      cases q with
      | saveAlertLog log => exact UsesOwnRule.mono le within
      | _ => trivial
  | fetch url body =>
      obtain ⟨alertRuleId, entityId, subject, uses⟩ := within
      exact ⟨alertRuleId, entityId, subject, uses.mono le⟩
  | _ => trivial

/-- What a job knows of the owners, and what is seen of it. -/
structure Awareness where
  known : OwnerRegistry
  progress : JobProgress

def tenantProtocol : Protocol Calls JsError Awareness where
  Allows aware (call : Call) :=
    aware.known.Permits call ∧ WithinTenant aware.known aware.progress call
  Moves aware (call : Call) reply after :=
    aware.known.Le after.known ∧ after.known.Learns call reply ∧
      after.progress = aware.progress.after call reply

/-! ### Any interleaving -/

/-- The database, the owners of everything that has ever been inserted, and what is seen
of each job. -/
structure TenantStore (ι : Type) where
  database : Database
  registry : OwnerRegistry
  progress : ι → JobProgress

/-- Any call may fail.  Alert rules may be created, changed and removed at any time, and
time passes. -/
def tenantAnswers {ι : Type} [DecidableEq ι] (thread : ι) :
    Semantics Calls JsError (TenantStore ι) :=
  fun (call : Call) before reply after =>
    (∃ db, Answered (fun _ => True) before.database call reply db ∧
      ∃ rules clock, after.database = { db with alertRules := rules, clock := clock }) ∧
    after.registry = before.registry.after call reply ∧
    after.progress = Function.update before.progress thread
      ((before.progress thread).after call reply)

/-- Some surroundings answer every call of a job. -/
def tenantMachine {ι : Type} [DecidableEq ι] (surroundings : Surroundings) (thread : ι) :
    Machine Calls JsError (TenantStore ι) :=
  fun (call : Call) store =>
    let (reply, db) := surroundings.answer store.database call
    (reply,
      { database := db
        registry := store.registry.after call reply
        progress := Function.update store.progress thread
          ((store.progress thread).after call reply) })

theorem tenantMachine_answers {ι : Type} [DecidableEq ι] (surroundings : Surroundings)
    (thread : ι) (call : Call) (store : TenantStore ι) :
    tenantAnswers thread call store (tenantMachine surroundings thread call store).1
      (tenantMachine surroundings thread call store).2 := by
  refine ⟨⟨_, ?_, _, _, rfl⟩, rfl, rfl⟩
  exact surroundings.answered (fun _ _ => trivial) store.database call

/-- What every job knows is true, and so are the rows; no owner has changed since the
origin. -/
structure TenantsKept {ι : Type} (origin : OwnerRegistry) (aware : ι → Awareness)
    (store : TenantStore ι) : Prop where
  registered : Registered store.database store.registry
  grown : origin.Le store.registry
  known : ∀ thread, (aware thread).known.Le store.registry
  seen : ∀ thread, (aware thread).progress = store.progress thread

/-- Whatever any thread may call, the records stay those of the rows, and each thread's
knowledge stays true. -/
theorem tenant_keeps {ι : Type} [DecidableEq ι] (origin : OwnerRegistry) :
    Pool.Keeps (fun _ : ι => tenantProtocol) tenantAnswers (TenantsKept origin) := by
  rintro aware store thread call reply after kept ⟨permits, -⟩
    ⟨⟨db, answered, rules, clock, database⟩, registry, progress⟩
  have tracked := kept.registered.answered ((kept.known thread).permits permits) answered
  have grows : store.registry.Le after.registry := by
    rw [registry]
    exact tracked.grows
  refine ⟨{ known := after.registry, progress := after.progress thread }, ⟨?_, ?_, ?_⟩,
    ?_, kept.grown.trans grows, ?_, ?_⟩
  · exact (kept.known thread).trans grows
  · rw [registry]
    exact tracked.learns
  · rw [progress, Function.update_self, kept.seen]
  · rw [registry, database]
    exact tracked.registered.frame rfl rfl rfl rfl
  · intro other
    rw [Function.update_apply]
    split
    · exact .refl _
    · exact (kept.known other).trans grows
  · intro other
    rw [Function.update_apply]
    split
    · next same => rw [same]
    · next differs =>
      rw [progress, Function.update_of_ne differs]
      exact kept.seen other

/-! ### Programs that mind the owners -/

/-- What the programs of an insight rely on: the flag that they have looked at. -/
def JobProgress.At (progress : JobProgress) (flag : Option InsightFlag) : Prop :=
  ∀ held, flag = some held → progress.flag = some held

variable {α β : Type}

/-- Whoever knows this much of the owners, and has looked at this flag, may run the
program, and still does when it has ended. -/
def Minds (flag : Option InsightFlag) (known : OwnerRegistry) (program : Job α) : Prop :=
  ∀ aware : Awareness, known.Le aware.known → aware.progress.At flag →
    program.Follows tenantProtocol
      (fun _ after => known.Le after.known ∧ after.progress.At flag) aware

/-- A call that anyone may make, and that looks at no flag. -/
structure Call.Calm (call : Call) : Prop where
  permits : ∀ known : OwnerRegistry, known.Permits call
  within : ∀ registry progress, WithinTenant registry progress call
  keepsFlag : ∀ (progress : JobProgress) reply, (progress.after call reply).flag = progress.flag

/-- Calls outside the evaluations that need no knowledge of owners. -/
def Call.Plain : Call → Prop
  | .query (.saveHost _) | .query (.insertDomain _) | .query (.saveDomain _) => False
  | .query (.insertService _) | .query (.saveService _) | .query (.saveEvent _) => False
  | .query (.findAlertRules _ _ _) | .query (.saveAlertLog _) | .fetch _ _ => False
  | .query (.findActiveInsights _) => False
  | _ => True

/-- A plain call permits everyone and shows no flag. -/
theorem Call.Plain.calm {call : Call} (plain : call.Plain) : call.Calm := by
  cases call with
  | query q =>
      cases q <;> first
        | exact ⟨fun _ => trivial, fun _ _ => trivial, fun _ _ => rfl⟩
        | cases plain
  | fetch url body => cases plain
  | _ => exact ⟨fun _ => trivial, fun _ _ => trivial, fun _ _ => rfl⟩

namespace Minds

variable {flag : Option InsightFlag} {known : OwnerRegistry}

/-- To end asks for nothing. -/
theorem pure (value : α) : Minds flag known (Program.pure value) :=
  fun _ knows looks => ⟨knows, looks⟩

/-- To fail asks for nothing. -/
theorem throw (error : JsError) : Minds flag known (Program.throw error : Job α) :=
  fun _ knows looks => ⟨knows, looks⟩

/-- One program after another, where the second may rely on what the first has left. -/
theorem bind {program : Job α} {rest : α → Job β} (minds : Minds flag known program)
    (mindsRest : ∀ value, Minds flag known (rest value)) :
    Minds flag known (program.bind rest) := by
  intro aware knows looks
  apply (Program.follows_bind _ _ _ _ _).mpr
  apply (minds aware knows looks).mono
  rintro (error | value) after ⟨knowsAfter, looksAfter⟩
  · exact ⟨knowsAfter, looksAfter⟩
  · exact mindsRest value after knowsAfter looksAfter

/-- A handler begins with the same knowledge as what it is for. -/
theorem tryCatch {program : Job α} {handler : JsError → Job α}
    (minds : Minds flag known program)
    (mindsHandler : ∀ error, Minds flag known (handler error)) :
    Minds flag known (program.tryCatch handler) := by
  intro aware knows looks
  apply (Program.follows_tryCatch _ _ _ _ _).mpr
  apply (minds aware knows looks).mono
  rintro (error | value) after ⟨knowsAfter, looksAfter⟩
  · exact mindsHandler error after knowsAfter looksAfter
  · exact ⟨knowsAfter, looksAfter⟩

/-- A computation that makes no call, and whatever comes after it. -/
theorem ofExcept_bind {outcome : Except JsError α} {rest : α → Job β}
    (mindsRest : ∀ value, outcome = .ok value → Minds flag known (rest value)) :
    Minds flag known ((Program.ofExcept outcome).bind rest) := by
  cases outcome with
  | error error => exact throw error
  | ok value => exact mindsRest value rfl

/-- A program of calm calls may be run by anyone. -/
theorem calm {program : Job α} (only : program.Only Call.Calm) :
    Minds flag known program := by
  intro aware knows looks
  apply only.followsKeeping
    (fun aware => known.Le aware.known ∧ aware.progress.At flag) ?_ ?_ ?_ ⟨knows, looks⟩
  · intro aware call inv calm
    exact ⟨calm.permits _, calm.within _ _⟩
  · rintro aware call reply after ⟨knows, looks⟩ calm ⟨grows, -, progress⟩
    refine ⟨knows.trans grows, ?_⟩
    intro held same
    rw [progress]
    exact (calm.keepsFlag aware.progress reply).trans (looks held same)
  · exact Program.ends_of_all fun outcome aware inv => inv

/-- One call, what it says of the owners, and what comes after it. -/
theorem call {call : Call} {rest : call.Reply → Job β}
    (permits : known.Permits call)
    (within : ∀ registry progress, WithinTenant registry progress call)
    (keepsFlag : ∀ (progress : JobProgress) reply,
      (progress.after call reply).flag = progress.flag)
    (mindsRest : ∀ value learned, known.Le learned → learned.Learns call (.ok value) →
      Minds flag learned (rest value)) :
    Minds flag known ((request call).bind rest) := by
  intro aware knows looks
  apply (Program.follows_perform_bind _).mpr
  have looksAfter : ∀ reply (after : Awareness),
      after.progress = aware.progress.after call reply → after.progress.At flag := by
    intro reply after progress held same
    rw [progress, keepsFlag]
    exact looks held same
  refine ⟨⟨knows.permits permits, within _ _⟩, ?_, ?_⟩
  · rintro value after ⟨grows, learns, progress⟩
    have knowsAfter := knows.trans grows
    apply (mindsRest value after.known knowsAfter learns after (.refl _)
      (looksAfter _ after progress)).mono
    rintro outcome last ⟨grows, looks⟩
    exact ⟨knowsAfter.trans grows, looks⟩
  · rintro error after ⟨grows, -, progress⟩
    exact ⟨knows.trans grows, looksAfter _ after progress⟩

/-- The same for a call whose answer says nothing that is needed. -/
theorem callLast {call : Call} (permits : known.Permits call)
    (within : ∀ registry progress, WithinTenant registry progress call)
    (keepsFlag : ∀ (progress : JobProgress) reply,
      (progress.after call reply).flag = progress.flag) :
    Minds flag known (request call) := by
  intro aware knows looks
  apply (Program.follows_perform _ _ _ _).mpr
  refine ⟨⟨knows.permits permits, within _ _⟩, ?_⟩
  rintro reply after ⟨grows, -, progress⟩
  refine ⟨knows.trans grows, ?_⟩
  intro held same
  rw [progress]
  exact (keepsFlag aware.progress reply).trans (looks held same)

end Minds

end ServersManager
