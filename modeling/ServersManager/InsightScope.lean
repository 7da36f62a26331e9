/-
Module: ServersManager.InsightScope
Purpose: What one organization learns about the others from its insights: whether an
  address that one of its domains resolves to is another organization's host.
Trusted boundary: none
Main exports:
  getInsights, getInsightCounts, SameForOrg, InsightsAgree, ForeignHostsAgree, Reachable,
  insights_agree_iff
-/
import ServersManager.TenantAlerts

namespace ServersManager

open Library

/-! ### `insights/insights.controller.ts`, `overview/overview.controller.ts` -/

structure IdleHostDto where
  id : Nat
  name : String
  ipAddress : String
  lastCheckedAt : Option Date
  createdAt : Date
deriving Repr, DecidableEq

structure OrphanedDomainDto where
  id : Nat
  hostname : String
  hostId : Option Nat
  resolvedIp : Option String
deriving Repr, DecidableEq

structure OrphanedHostDto where
  id : Nat
  name : String
  ipAddress : String
deriving Repr, DecidableEq

structure InsightsResponseDto where
  idleHosts : List IdleHostDto
  orphanedDomains : List OrphanedDomainDto
  orphanedHosts : List OrphanedHostDto
deriving Repr, DecidableEq

def toIdleHostDto (host : Host) : IdleHostDto :=
  { id := host.id
    name := host.name
    ipAddress := host.ipAddress
    lastCheckedAt := host.lastCheckedAt
    createdAt := host.createdAt }

def toOrphanedDomainDto (domain : Domain) : OrphanedDomainDto :=
  { id := domain.id
    hostname := domain.hostname
    hostId := domain.hostId
    resolvedIp := domain.resolvedIp }

def toOrphanedHostDto (host : Host) : OrphanedHostDto :=
  { id := host.id
    name := host.name
    ipAddress := host.ipAddress }

/-- `GET /insights`. -/
def getInsights (orgId : Nat) : Job InsightsResponseDto := do
  let insights ← getInsightsForOrg orgId
  return { idleHosts := insights.idleHosts.map toIdleHostDto
           orphanedDomains := insights.orphanedDomains.map toOrphanedDomainDto
           orphanedHosts := insights.orphanedHosts.map toOrphanedHostDto }

/-- The fields of `GET /overview` that are about insights. -/
structure InsightCounts where
  idleHostsCount : Nat
  orphanedDomainsCount : Nat
  orphanedHostsCount : Nat
deriving Repr, DecidableEq

def getInsightCounts (orgId : Nat) : Job InsightCounts := do
  let insights ← getInsightsForOrg orgId
  return { idleHostsCount := insights.idleHosts.length
           orphanedDomainsCount := insights.orphanedDomains.length
           orphanedHostsCount := insights.orphanedHosts.length }

/-! ### Two databases -/

/-- The organization has the same rows in both, and they are read at the same time. -/
structure SameForOrg (orgId : Nat) (db other : Database) : Prop where
  hosts : ∀ host : Host, host.orgId = orgId → (host ∈ db.hosts ↔ host ∈ other.hosts)
  domains : ∀ domain : Domain, domain.orgId = orgId →
    (domain ∈ db.domains ↔ domain ∈ other.domains)
  services : ∀ service : Service, service.orgId = orgId →
    (service ∈ db.services ↔ service ∈ other.services)
  clock : db.clock = other.clock

/-- Both jobs return, and their values are related. -/
def BothReturn {α : Type} (related : α → α → Prop) (first second : Except JsError α) :
    Prop :=
  ∃ value other, first = .ok value ∧ second = .ok other ∧ related value other

/-- The same rows; the queries ask for no order. -/
structure OrgInsights.Same (insights other : OrgInsights) : Prop where
  idleHosts : insights.idleHosts.Perm other.idleHosts
  orphanedDomains : insights.orphanedDomains.Perm other.orphanedDomains
  orphanedHosts : insights.orphanedHosts.Perm other.orphanedHosts

structure InsightsResponseDto.Same (response other : InsightsResponseDto) : Prop where
  idleHosts : response.idleHosts.Perm other.idleHosts
  orphanedDomains : response.orphanedDomains.Perm other.orphanedDomains
  orphanedHosts : response.orphanedHosts.Perm other.orphanedHosts

/-- The organization sees the same in both databases. -/
structure InsightsAgree (surroundings : Surroundings) (orgId : Nat)
    (db other : Database) : Prop where
  insights : BothReturn OrgInsights.Same
    ((getInsightsForOrg orgId).run surroundings.machine db).1
    ((getInsightsForOrg orgId).run surroundings.machine other).1
  response : BothReturn InsightsResponseDto.Same
    ((getInsights orgId).run surroundings.machine db).1
    ((getInsights orgId).run surroundings.machine other).1
  counts : BothReturn Eq
    ((getInsightCounts orgId).run surroundings.machine db).1
    ((getInsightCounts orgId).run surroundings.machine other).1

/-- Another organization has a host with this address. -/
def HasForeignHost (orgId : Nat) (db : Database) (ipAddress : String) : Prop :=
  ∃ host ∈ db.hosts, host.orgId ≠ orgId ∧ host.ipAddress = ipAddress

/-- Where a linked domain resolves to an address that none of the organization's own hosts
has, the other organizations have a host with it in both databases or in neither. -/
def ForeignHostsAgree (orgId : Nat) (db other : Database) : Prop :=
  ∀ domain ∈ db.domains, domain.orgId = orgId → domain.hostId ≠ none →
    ∀ resolvedIp, domain.resolvedIp = some resolvedIp →
      (∀ host ∈ db.hosts, host.orgId = orgId → host.ipAddress ≠ resolvedIp) →
        (HasForeignHost orgId db resolvedIp ↔ HasForeignHost orgId other resolvedIp)

/-! ### What the insights of an organization are -/

variable {orgId : Nat} {db other : Database} (surroundings : Surroundings)

/-- The host has been healthy for no less than a day, and runs nothing. -/
structure Database.Idle (db : Database) (host : Host) : Prop where
  healthy : host.status = .healthy
  old : host.createdAt < db.clock - idleHostMinAgeHours * 60 * 60 * 1000
  quiet : ∀ service ∈ db.services, service.hostId = host.id → service.status ≠ .running

/-- The domain is linked to no host, or resolves to an address of no host at all. -/
def Database.OrphanedDomain (db : Database) (domain : Domain) : Prop :=
  domain.hostId = none ∨ ∃ resolvedIp, domain.resolvedIp = some resolvedIp ∧
    ∀ host ∈ db.hosts, host.ipAddress ≠ resolvedIp

def Database.OrphanedHost (db : Database) (host : Host) : Prop :=
  ∀ domain ∈ db.domains, domain.hostId ≠ some host.id

structure OrgInsights.Of (orgId : Nat) (db : Database) (insights : OrgInsights) : Prop where
  idleHosts : ∀ host, host ∈ insights.idleHosts ↔
    host ∈ db.hosts ∧ host.orgId = orgId ∧ db.Idle host
  orphanedDomains : ∀ domain, domain ∈ insights.orphanedDomains ↔
    domain ∈ db.domains ∧ domain.orgId = orgId ∧ db.OrphanedDomain domain
  orphanedHosts : ∀ host, host ∈ insights.orphanedHosts ↔
    host ∈ db.hosts ∧ host.orgId = orgId ∧ db.OrphanedHost host
  idleHostsNodup : insights.idleHosts.Nodup
  orphanedDomainsNodup : insights.orphanedDomains.Nodup
  orphanedHostsNodup : insights.orphanedHosts.Nodup

theorem ofOrg_eq_true {orgId rowOrgId : Nat} :
    ofOrg (some orgId) rowOrgId = true ↔ rowOrgId = orgId := by
  simp only [ofOrg, Option.all_some, beq_iff_eq]
  exact eq_comm

/-- The idle hosts of an organization, each found once. -/
theorem computeIdleHosts_of (orgId : Nat) (db : Database) :
    ∃ hosts, (computeIdleHosts (some orgId)).run surroundings.machine db =
        (.ok hosts, db) ∧ hosts.Nodup ∧
      ∀ host, host ∈ hosts ↔ host ∈ db.hosts ∧ host.orgId = orgId ∧ db.Idle host := by
  let cutoff := db.clock - idleHostMinAgeHours * 60 * 60 * 1000
  let candidates := db.hosts.find fun host =>
    host.status == .healthy && decide (host.createdAt < cutoff) &&
      ofOrg (some orgId) host.orgId
  let running := db.services.find fun service =>
    (candidates.map Host.id).contains service.hostId && service.status == .running
  let idle := candidates.filter fun host => !(running.map Service.hostId).contains host.id
  have computed : (computeIdleHosts (some orgId)).run surroundings.machine db =
      (.ok idle, db) := by
    change (if candidates.isEmpty then (Program.pure [] : Job (List Host)) else _).run
      surroundings.machine db = _
    split
    · next none =>
      have same : idle = [] := by
        simp only [idle, List.isEmpty_iff.mp none, List.filter_nil]
      rw [same]
      rfl
    · rfl
  have mem_candidates : ∀ host, host ∈ candidates ↔
      host ∈ db.hosts ∧ (host.status = .healthy ∧ host.createdAt < cutoff) ∧
        host.orgId = orgId := by
    intro host
    simp only [candidates, Table.mem_find, Bool.and_eq_true, beq_iff_eq,
      decide_eq_true_eq, ofOrg_eq_true]
  refine ⟨idle, computed, ?_, ?_⟩
  · apply List.Nodup.filter
    exact List.Nodup.of_map _ (Table.find_distinct _ _)
  · intro host
    have mem_idle : host ∈ idle ↔
        host ∈ candidates ∧ host.id ∉ running.map Service.hostId := by
      simp only [idle, List.mem_filter, Bool.not_eq_true', List.contains_eq_mem,
        decide_eq_false_iff_not]
    rw [mem_idle, mem_candidates]
    constructor
    · rintro ⟨⟨member, ⟨healthy, old⟩, own⟩, absent⟩
      refine ⟨member, own, healthy, old, ?_⟩
      intro service serviceMember placed isRunning
      apply absent
      apply List.mem_map.mpr
      refine ⟨service, Table.mem_find.mpr ⟨serviceMember, ?_⟩, placed⟩
      simp only [Bool.and_eq_true, List.contains_eq_mem, decide_eq_true_eq, beq_iff_eq]
      refine ⟨?_, isRunning⟩
      rw [placed]
      apply List.mem_map_of_mem
      exact (mem_candidates host).mpr ⟨member, ⟨healthy, old⟩, own⟩
    · rintro ⟨member, own, idles⟩
      refine ⟨⟨member, ⟨idles.healthy, idles.old⟩, own⟩, ?_⟩
      intro present
      obtain ⟨service, serviceMember, placed⟩ := List.mem_map.mp present
      obtain ⟨inServices, matched⟩ := Table.mem_find.mp serviceMember
      simp only [Bool.and_eq_true, beq_iff_eq] at matched
      exact idles.quiet service inServices placed matched.2

/-- Its orphaned domains. -/
theorem computeOrphanedDomains_of (orgId : Nat) (db : Database) :
    ∃ domains, (computeOrphanedDomains (some orgId)).run surroundings.machine db =
        (.ok domains, db) ∧ domains.Nodup ∧
      ∀ domain, domain ∈ domains ↔
        domain ∈ db.domains ∧ domain.orgId = orgId ∧ db.OrphanedDomain domain := by
  let domains := db.domains.find fun domain => ofOrg (some orgId) domain.orgId
  let known := (db.hosts.find fun host => ofOrg none host.orgId).map Host.ipAddress
  let orphaned := domains.filter (isOrphanedDomain known)
  have computed : (computeOrphanedDomains (some orgId)).run surroundings.machine db =
      (.ok orphaned, db) := by
    change (if domains.isEmpty then (Program.pure [] : Job (List Domain)) else _).run
      surroundings.machine db = _
    split
    · next none =>
      have same : orphaned = [] := by
        simp only [orphaned, List.isEmpty_iff.mp none, List.filter_nil]
      rw [same]
      rfl
    · rfl
  have mem_known : ∀ ipAddress, ipAddress ∈ known ↔
      ∃ host ∈ db.hosts, host.ipAddress = ipAddress := by
    intro ipAddress
    simp only [known, List.mem_map, Table.mem_find, ofOrg, Option.all_none, and_true]
  refine ⟨orphaned, computed, ?_, ?_⟩
  · apply List.Nodup.filter
    exact List.Nodup.of_map _ (Table.find_distinct _ _)
  · intro domain
    have orphans : isOrphanedDomain known domain = true ↔ db.OrphanedDomain domain := by
      simp only [isOrphanedDomain, Database.OrphanedDomain, Bool.or_eq_true, beq_iff_eq,
        Option.any_eq_true, Bool.not_eq_true', List.contains_eq_mem,
        decide_eq_false_iff_not, mem_known, not_exists, not_and, ne_eq]
    simp only [orphaned, domains, List.mem_filter, Table.mem_find, ofOrg_eq_true, orphans,
      and_assoc]

/-- Its orphaned hosts. -/
theorem computeOrphanedHosts_of (orgId : Nat) (db : Database) :
    ∃ hosts, (computeOrphanedHosts (some orgId)).run surroundings.machine db =
        (.ok hosts, db) ∧ hosts.Nodup ∧
      ∀ host, host ∈ hosts ↔
        host ∈ db.hosts ∧ host.orgId = orgId ∧ db.OrphanedHost host := by
  let hosts := db.hosts.find fun host => ofOrg (some orgId) host.orgId
  let referenced :=
    (db.domains.find fun domain => domain.hostId.isSome).map Domain.hostId
  let orphaned := hosts.filter fun host => !referenced.contains (some host.id)
  have computed : (computeOrphanedHosts (some orgId)).run surroundings.machine db =
      (.ok orphaned, db) := by
    change (if hosts.isEmpty then (Program.pure [] : Job (List Host)) else _).run
      surroundings.machine db = _
    split
    · next none =>
      have same : orphaned = [] := by
        simp only [orphaned, List.isEmpty_iff.mp none, List.filter_nil]
      rw [same]
      rfl
    · rfl
  have mem_referenced : ∀ hostId, some hostId ∈ referenced ↔
      ∃ domain ∈ db.domains, domain.hostId = some hostId := by
    intro hostId
    simp only [referenced, List.mem_map, Table.mem_find]
    constructor
    · rintro ⟨domain, ⟨member, -⟩, linked⟩
      exact ⟨domain, member, linked⟩
    · rintro ⟨domain, member, linked⟩
      exact ⟨domain, ⟨member, by rw [linked]; rfl⟩, linked⟩
  refine ⟨orphaned, computed, ?_, ?_⟩
  · apply List.Nodup.filter
    exact List.Nodup.of_map _ (Table.find_distinct _ _)
  · intro host
    simp only [orphaned, hosts, List.mem_filter, Table.mem_find, ofOrg_eq_true,
      Bool.not_eq_true', List.contains_eq_mem, decide_eq_false_iff_not, mem_referenced,
      not_exists, not_and, Database.OrphanedHost, ne_eq, and_assoc]

/-- The insights of an organization are computed without a fault. -/
theorem getInsightsForOrg_of (orgId : Nat) (db : Database) :
    ∃ insights, (getInsightsForOrg orgId).run surroundings.machine db =
      (.ok insights, db) ∧ insights.Of orgId db := by
  obtain ⟨idleHosts, idleRun, idleNodup, mem_idle⟩ :=
    computeIdleHosts_of surroundings orgId db
  obtain ⟨domains, domainsRun, domainsNodup, mem_domains⟩ :=
    computeOrphanedDomains_of surroundings orgId db
  obtain ⟨hosts, hostsRun, hostsNodup, mem_hosts⟩ :=
    computeOrphanedHosts_of surroundings orgId db
  refine ⟨{ idleHosts := idleHosts, orphanedDomains := domains, orphanedHosts := hosts },
    ?_, mem_idle, mem_domains, mem_hosts, idleNodup, domainsNodup, hostsNodup⟩
  simp only [getInsightsForOrg, Program.bind_eq, Program.run_bind, idleRun, resume,
    domainsRun, hostsRun]
  rfl

/-- The listing shows what was computed. -/
theorem getInsights_returns {insights : OrgInsights}
    (computed : (getInsightsForOrg orgId).run surroundings.machine db =
      (.ok insights, db)) :
    ((getInsights orgId).run surroundings.machine db).1 =
      .ok { idleHosts := insights.idleHosts.map toIdleHostDto
            orphanedDomains := insights.orphanedDomains.map toOrphanedDomainDto
            orphanedHosts := insights.orphanedHosts.map toOrphanedHostDto } := by
  simp only [getInsights, Program.bind_eq, Program.run_bind, computed]
  rfl

/-- The badge counts it. -/
theorem getInsightCounts_returns {insights : OrgInsights}
    (computed : (getInsightsForOrg orgId).run surroundings.machine db =
      (.ok insights, db)) :
    ((getInsightCounts orgId).run surroundings.machine db).1 =
      .ok { idleHostsCount := insights.idleHosts.length
            orphanedDomainsCount := insights.orphanedDomains.length
            orphanedHostsCount := insights.orphanedHosts.length } := by
  simp only [getInsightCounts, Program.bind_eq, Program.run_bind, computed]
  rfl

/-! ### What both databases have in common -/

theorem SameForOrg.symm (same : SameForOrg orgId db other) : SameForOrg orgId other db where
  hosts host own := (same.hosts host own).symm
  domains domain own := (same.domains domain own).symm
  services service own := (same.services service own).symm
  clock := same.clock.symm

variable {registry otherRegistry : OwnerRegistry}

/-- What runs on a host belongs to the host's organization. -/
theorem Database.Idle.transfer (same : SameForOrg orgId db other)
    (registered : Registered other registry) {host : Host} (member : host ∈ db.hosts)
    (own : host.orgId = orgId) (idle : db.Idle host) : other.Idle host := by
  refine ⟨idle.healthy, ?_, ?_⟩
  · rw [← same.clock]
    exact idle.old
  · intro service serviceMember placed
    have hostOrg := registered.hosts.present host ((same.hosts host own).mp member)
    have serviceOrg := (registered.hasService serviceMember).placed
    rw [placed] at serviceOrg
    have ofOrg : service.orgId = orgId :=
      (Option.some.inj (serviceOrg.symm.trans hostOrg)).trans own
    exact idle.quiet service ((same.services service ofOrg).mpr serviceMember) placed

/-- What is linked to a host belongs to the host's organization. -/
theorem Database.OrphanedHost.transfer (same : SameForOrg orgId db other)
    (registered : Registered other registry) {host : Host} (member : host ∈ db.hosts)
    (own : host.orgId = orgId) (orphaned : db.OrphanedHost host) :
    other.OrphanedHost host := by
  intro domain domainMember linked
  have hostOrg := registered.hosts.present host ((same.hosts host own).mp member)
  have domainOrg := registered.linked domain domainMember host.id linked
  have ofOrg : domain.orgId = orgId :=
    (Option.some.inj (domainOrg.symm.trans hostOrg)).trans own
  exact orphaned domain ((same.domains domain ofOrg).mpr domainMember) linked

/-- A linked domain is orphaned unless its address is a host's, whoever owns it. -/
theorem Database.orphanedDomain_iff {domain : Domain} (linked : domain.hostId ≠ none)
    {resolvedIp : String} (resolves : domain.resolvedIp = some resolvedIp)
    (orgId : Nat) :
    db.OrphanedDomain domain ↔
      (∀ host ∈ db.hosts, host.orgId = orgId → host.ipAddress ≠ resolvedIp) ∧
        ¬ HasForeignHost orgId db resolvedIp := by
  constructor
  · rintro (unlinked | ⟨address, same, unknown⟩)
    · exact absurd unlinked linked
    · cases resolves.symm.trans same
      refine ⟨fun host member _ => unknown host member, ?_⟩
      rintro ⟨host, member, -, matched⟩
      exact unknown host member matched
  · rintro ⟨noneOwn, noneForeign⟩
    refine .inr ⟨resolvedIp, resolves, ?_⟩
    intro host member matched
    by_cases own : host.orgId = orgId
    · exact noneOwn host member own matched
    · exact noneForeign ⟨host, member, own, matched⟩

/-- Whether a host of the organization has an address is the organization's own matter. -/
theorem noneOwn_iff (same : SameForOrg orgId db other) (resolvedIp : String) :
    (∀ host ∈ db.hosts, host.orgId = orgId → host.ipAddress ≠ resolvedIp) ↔
      ∀ host ∈ other.hosts, host.orgId = orgId → host.ipAddress ≠ resolvedIp := by
  constructor
  · intro noneOwn host member own
    exact noneOwn host ((same.hosts host own).mpr member) own
  · intro noneOwn host member own
    exact noneOwn host ((same.hosts host own).mp member) own

/-- The condition is about both databases alike. -/
theorem ForeignHostsAgree.symm (same : SameForOrg orgId db other)
    (agree : ForeignHostsAgree orgId db other) : ForeignHostsAgree orgId other db := by
  intro domain member own linked resolvedIp resolves noneOwn
  exact (agree domain ((same.domains domain own).mpr member) own linked resolvedIp resolves
    ((noneOwn_iff same resolvedIp).mpr noneOwn)).symm

/-- A domain that is orphaned stays so where the foreign hosts agree. -/
theorem Database.OrphanedDomain.transfer (same : SameForOrg orgId db other)
    (agree : ForeignHostsAgree orgId db other) {domain : Domain}
    (member : domain ∈ db.domains) (own : domain.orgId = orgId)
    (orphaned : db.OrphanedDomain domain) : other.OrphanedDomain domain := by
  by_cases unlinked : domain.hostId = none
  · exact .inl unlinked
  · obtain ⟨resolvedIp, resolves, -⟩ := orphaned.resolve_left unlinked
    obtain ⟨noneOwn, noneForeign⟩ :=
      (Database.orphanedDomain_iff unlinked resolves orgId).mp orphaned
    apply (Database.orphanedDomain_iff unlinked resolves orgId).mpr
    refine ⟨(noneOwn_iff same resolvedIp).mp noneOwn, ?_⟩
    rw [← agree domain member own unlinked resolvedIp resolves noneOwn]
    exact noneForeign

/-! ### When the insights agree -/

/-- Lists without repetitions that have the same members. -/
theorem perm_of_members {α : Type} {first second : List α} (nodup : first.Nodup)
    (otherNodup : second.Nodup) (members : ∀ row, row ∈ first ↔ row ∈ second) :
    first.Perm second :=
  (List.perm_ext_iff_of_nodup nodup otherNodup).mpr members

/-- Both lists hold the organization's rows of a kind that is the same in both
databases. -/
theorem OrgInsights.Of.same (same : SameForOrg orgId db other)
    (agree : ForeignHostsAgree orgId db other) (registered : Registered db registry)
    (otherRegistered : Registered other otherRegistry) {insights otherInsights : OrgInsights}
    (of : insights.Of orgId db) (otherOf : otherInsights.Of orgId other) :
    insights.Same otherInsights where
  idleHosts := by
    apply perm_of_members of.idleHostsNodup otherOf.idleHostsNodup
    intro host
    rw [of.idleHosts, otherOf.idleHosts]
    constructor
    · rintro ⟨member, own, idle⟩
      exact ⟨(same.hosts host own).mp member, own,
        idle.transfer same otherRegistered member own⟩
    · rintro ⟨member, own, idle⟩
      exact ⟨(same.hosts host own).mpr member, own,
        idle.transfer same.symm registered member own⟩
  orphanedDomains := by
    apply perm_of_members of.orphanedDomainsNodup otherOf.orphanedDomainsNodup
    intro domain
    rw [of.orphanedDomains, otherOf.orphanedDomains]
    constructor
    · rintro ⟨member, own, orphaned⟩
      exact ⟨(same.domains domain own).mp member, own,
        orphaned.transfer same agree member own⟩
    · rintro ⟨member, own, orphaned⟩
      exact ⟨(same.domains domain own).mpr member, own,
        orphaned.transfer same.symm (agree.symm same) member own⟩
  orphanedHosts := by
    apply perm_of_members of.orphanedHostsNodup otherOf.orphanedHostsNodup
    intro host
    rw [of.orphanedHosts, otherOf.orphanedHosts]
    constructor
    · rintro ⟨member, own, orphaned⟩
      exact ⟨(same.hosts host own).mp member, own,
        orphaned.transfer same otherRegistered member own⟩
    · rintro ⟨member, own, orphaned⟩
      exact ⟨(same.hosts host own).mpr member, own,
        orphaned.transfer same.symm registered member own⟩

/-- Whether a domain is listed tells whether its address is someone else's. -/
theorem foreignHostsAgree_of_same (same : SameForOrg orgId db other)
    {insights otherInsights : OrgInsights} (of : insights.Of orgId db)
    (otherOf : otherInsights.Of orgId other)
    (domainsSame : insights.orphanedDomains.Perm otherInsights.orphanedDomains) :
    ForeignHostsAgree orgId db other := by
  intro domain member own linked resolvedIp resolves noneOwn
  have listed : db.OrphanedDomain domain ↔ other.OrphanedDomain domain := by
    have members := domainsSame.mem_iff (a := domain)
    rw [of.orphanedDomains, otherOf.orphanedDomains] at members
    have otherMember := (same.domains domain own).mp member
    constructor
    · intro orphaned
      exact (members.mp ⟨member, own, orphaned⟩).2.2
    · intro orphaned
      exact (members.mpr ⟨otherMember, own, orphaned⟩).2.2
  rw [Database.orphanedDomain_iff linked resolves orgId,
    Database.orphanedDomain_iff linked resolves orgId] at listed
  have otherNoneOwn := (noneOwn_iff same resolvedIp).mp noneOwn
  constructor
  · intro foreign
    by_contra absent
    exact (listed.mpr ⟨otherNoneOwn, absent⟩).2 foreign
  · intro foreign
    by_contra absent
    exact (listed.mp ⟨noneOwn, absent⟩).2 foreign

/-- For two databases in which an organization has the same rows: it sees the same
insights, in the lists and in the counts, exactly if the other organizations' hosts agree on
the addresses that its linked domains resolve to and that it has no host for itself. -/
theorem insights_agree_iff (surroundings : Surroundings) (same : SameForOrg orgId db other)
    (registered : Registered db registry)
    (otherRegistered : Registered other otherRegistry) :
    InsightsAgree surroundings orgId db other ↔ ForeignHostsAgree orgId db other := by
  obtain ⟨insights, computed, of⟩ := getInsightsForOrg_of surroundings orgId db
  obtain ⟨otherInsights, otherComputed, otherOf⟩ :=
    getInsightsForOrg_of surroundings orgId other
  constructor
  · rintro ⟨⟨value, otherValue, returned, otherReturned, sameInsights⟩, -, -⟩
    rw [computed] at returned
    rw [otherComputed] at otherReturned
    cases returned
    cases otherReturned
    exact foreignHostsAgree_of_same same of otherOf sameInsights.orphanedDomains
  · intro agree
    have sameInsights := of.same same agree registered otherRegistered otherOf
    constructor
    · exact ⟨insights, otherInsights, congrArg Prod.fst computed,
        congrArg Prod.fst otherComputed, sameInsights⟩
    · refine ⟨_, _, getInsights_returns surroundings computed,
        getInsights_returns surroundings otherComputed, ?_, ?_, ?_⟩
      · exact sameInsights.idleHosts.map _
      · exact sameInsights.orphanedDomains.map _
      · exact sameInsights.orphanedHosts.map _
    · refine ⟨_, _, getInsightCounts_returns surroundings computed,
        getInsightCounts_returns surroundings otherComputed, ?_⟩
      rw [sameInsights.idleHosts.length_eq, sameInsights.orphanedDomains.length_eq,
        sameInsights.orphanedHosts.length_eq]

/-! ### Another organization's host -/

/-- What jobs leave behind that start on an empty database, in any interleaving. -/
def Reachable (platform : Platform) (db : Database) : Prop :=
  ∃ (ι : Type) (_ : DecidableEq ι) (jobs : ι → TenantJob)
    (pool : Pool Calls JsError ι Unit (TenantStore ι)),
      Pool.Reaches tenantAnswers (tenantPool platform jobs default .empty) pool ∧
        pool.store.database = db

/-- What can be reached is registered. -/
theorem Reachable.registered {platform : Platform} (reachable : Reachable platform db) :
    ∃ registry, Registered db registry := by
  obtain ⟨ι, _, jobs, pool, reaches, rfl⟩ := reachable
  obtain ⟨aware, -, kept⟩ := tenantPool_reaches platform jobs Registered.empty reaches
  exact ⟨pool.store.registry, kept.registered⟩

/-- The name of a domain resolves to a public address. -/
def resolvingSurroundings : Surroundings :=
  { Surroundings.quiet with addresses := ["203.0.113.5"] }

/-- One organization registers a host and a domain on it, which is checked; then another
registers a host that has the domain's address. -/
def probingJobs : Fin 4 → TenantJob
  | 0 => .createHost 6
      { name := "web-1"
        ipAddress := "10.0.0.2"
        sshPort := none
        sshUser := "deploy" } "key"
  | 1 => .createDomain 6
      { hostname := "example.org"
        hostId := some 0 }
  | 2 => .checkDomain 0
  | 3 => .createHost 7
      { name := "edge"
        ipAddress := "203.0.113.5"
        sshPort := none
        sshUser := "deploy" } "key"

def probingStart : Pool Calls JsError (Fin 4) Unit (TenantStore (Fin 4)) :=
  tenantPool .transparent probingJobs default .empty

/-- The first so many jobs have run, one after the other. -/
def probingPool (jobs : List (Fin 4)) : Pool Calls JsError (Fin 4) Unit (TenantStore (Fin 4)) :=
  jobs.foldl (fun pool job => pool.completed job (tenantMachine resolvingSurroundings job))
    probingStart

def unprobedDatabase : Database := (probingPool [0, 1, 2]).store.database

def probedDatabase : Database := (probingPool [0, 1, 2, 3]).store.database

theorem probingPool_reaches (jobs : List (Fin 4)) :
    Pool.Reaches tenantAnswers probingStart (probingPool jobs) := by
  have completing : ∀ (remaining : List (Fin 4)) pool,
      Pool.Reaches tenantAnswers probingStart pool →
        Pool.Reaches tenantAnswers probingStart (remaining.foldl (fun pool job =>
          pool.completed job (tenantMachine resolvingSurroundings job)) pool) := by
    intro remaining
    induction remaining with
    | nil =>
        intro pool reaches
        exact reaches
    | cons job remaining inductionHypothesis =>
        intro pool reaches
        apply inductionHypothesis
        exact reaches.run job _ (tenantMachine_answers resolvingSurroundings job)
  exact completing jobs probingStart .refl

theorem unprobedDatabase_reachable : Reachable .transparent unprobedDatabase :=
  ⟨_, _, probingJobs, _, probingPool_reaches _, rfl⟩

theorem probedDatabase_reachable : Reachable .transparent probedDatabase :=
  ⟨_, _, probingJobs, _, probingPool_reaches _, rfl⟩

/-- The two databases are the same to the organization. -/
theorem probed_same : SameForOrg 6 unprobedDatabase probedDatabase := by
  have hosts : probedDatabase.hosts.rows = unprobedDatabase.hosts.rows ++
      probedDatabase.hosts.rows.filter (fun host => host.orgId == 7) := by
    decide +kernel
  have domains : unprobedDatabase.domains.rows = probedDatabase.domains.rows := by
    decide +kernel
  have services : unprobedDatabase.services.rows.isEmpty = true ∧
      probedDatabase.services.rows.isEmpty = true := by
    decide +kernel
  constructor
  · intro host own
    rw [Table.mem_iff, Table.mem_iff, hosts, List.mem_append]
    constructor
    · exact .inl
    · rintro (member | foreign)
      · exact member
      · have other := (List.mem_filter.mp foreign).2
        rw [own] at other
        cases other
  · intro domain _
    rw [Table.mem_iff, Table.mem_iff, domains]
  · intro service _
    rw [Table.mem_iff, Table.mem_iff, List.isEmpty_iff.mp services.1,
      List.isEmpty_iff.mp services.2]
  · decide +kernel

/-- One orphaned domain is counted before the other organization's registration, and none
after it. -/
theorem probed_counts :
    ((getInsightCounts 6).run Surroundings.quiet.machine unprobedDatabase).1.toOption =
        some { idleHostsCount := 0, orphanedDomainsCount := 1, orphanedHostsCount := 0 } ∧
      ((getInsightCounts 6).run Surroundings.quiet.machine probedDatabase).1.toOption =
        some { idleHostsCount := 0, orphanedDomainsCount := 0, orphanedHostsCount := 0 } := by
  decide +kernel

/-- Its insights differ in them all the same. -/
theorem probed_disagree : ¬ InsightsAgree .quiet 6 unprobedDatabase probedDatabase := by
  intro agree
  obtain ⟨counts, otherCounts, returned, otherReturned, same⟩ := agree.counts
  obtain ⟨unprobed, probed⟩ := probed_counts
  rw [returned] at unprobed
  rw [otherReturned, ← same] at probed
  cases unprobed.symm.trans probed

/-- The registration of another organization's host changes the insights. -/
theorem insights_reveal_foreign_host : ∃ db other : Database,
    Reachable .transparent db ∧ Reachable .transparent other ∧ SameForOrg 6 db other ∧
      ¬ InsightsAgree .quiet 6 db other :=
  ⟨_, _, unprobedDatabase_reachable, probedDatabase_reachable, probed_same,
    probed_disagree⟩

theorem insights_agree_iff_probed :
    ¬ ForeignHostsAgree 6 unprobedDatabase probedDatabase := by
  obtain ⟨registry, registered⟩ := unprobedDatabase_reachable.registered
  obtain ⟨otherRegistry, otherRegistered⟩ := probedDatabase_reachable.registered
  intro agree
  exact probed_disagree
    ((insights_agree_iff .quiet probed_same registered otherRegistered).mpr agree)

end ServersManager
