/-
Module: ServersManager.SyncMirror
Purpose: A service sync mirrors the listing it is given, and a second sync with the same
  listing finds nothing to change.
Trusted boundary: none
Main exports:
  Listed, Mirrored, Refreshed, sync_mirrors
-/
import ServersManager.HealthCheck
import ServersManager.SyncLoops

namespace ServersManager

open Library

/-! ### The loop over the listed containers -/

/-- A row belongs to one of the listed containers. -/
def Service.IsListed (host : Host) (rows : List PsRow) (service : Service) : Prop :=
  service.hostId = host.id ∧ service.containerId ∈ rows.map PsRow.id

/-- What the upserts of all listed containers leave behind. -/
structure Listed (permits : (call : Call) → Except JsError call.Reply → Prop)
    (platform : Platform) (host : Host) (rows : List PsRow) (checkedAt : Date)
    (db after : Database) : Prop extends SyncFrame db after where
  listed : ∀ row ∈ rows, ∃ service fresh, service ∈ after.services ∧
    classifyContainerStatus (.str row.status) = .ok service.status ∧
    service = row.service host service.status checkedAt
      (db.serviceAt host.id row.id) fresh
  unlisted : ∀ other : Service, ¬ other.IsListed host rows →
    (other ∈ after.services ↔ other ∈ db.services)
  logs : ∃ written, after.healthCheckLogs.rows = db.healthCheckLogs.rows ++ written ∧
    List.Forall₂ (fun row log => ∃ service ∈ after.services,
      service.hostId = host.id ∧ service.containerId = row.id ∧
        HealthCheckLog.Written log (newHealthCheckLog .service service.id
          service.status.text row.rawOutput)) rows written
  foreign : ∀ serviceId, (∀ service ∈ after.services, service.IsListed host rows →
      service.id ≠ serviceId) →
    ∀ snapshot : DeploymentSnapshot, snapshot.serviceId = serviceId →
      (snapshot ∈ after.snapshots ↔ snapshot ∈ db.snapshots)
  inspecting : (∀ call reply, permits call reply → Inspecting platform call reply) →
    ∀ row ∈ rows, ∀ service ∈ after.services, service.hostId = host.id →
      service.containerId = row.id →
        NoneDue platform host after.snapshots service.id row.image
  settled : (∀ row ∈ rows, ∃ service ∈ db.services, service.hostId = host.id ∧
      service.containerId = row.id ∧
      classifyContainerStatus (.str row.status) = .ok service.status ∧
      NoneDue platform host db.snapshots service.id row.image) →
    after.snapshots = db.snapshots ∧ after.alertLogs = db.alertLogs

theorem Listed.nil (permits : (call : Call) → Except JsError call.Reply → Prop)
    (platform : Platform) (host : Host) (checkedAt : Date) (db : Database) :
    Listed permits platform host [] checkedAt db db where
  toSyncFrame := SyncFrame.refl db
  listed := by simp
  unlisted _ _ := Iff.rfl
  logs := ⟨[], by simp, .nil⟩
  foreign _ _ _ _ := Iff.rfl
  inspecting := by simp
  settled _ := ⟨rfl, rfl⟩

section Step

variable {permits : (call : Call) → Except JsError call.Reply → Prop}
  {platform : Platform} {host : Host} {row : PsRow} {rows : List PsRow}
  {checkedAt : Date} {db middle after : Database} {service : Service}

/-- One more container, which is listed once. -/
theorem Listed.cons (upserted : Upserted permits platform host row checkedAt db service
      middle)
    (listed : Listed permits platform host rows checkedAt middle after)
    (fresh : row.id ∉ rows.map PsRow.id) :
    Listed permits platform host (row :: rows) checkedAt db after := by
  have key := upserted.key
  have unlisted : ¬ service.IsListed host rows := by
    rintro ⟨-, containerListed⟩
    rw [key.2] at containerListed
    exact fresh containerListed
  have serviceMember : service ∈ after.services :=
    (listed.unlisted service unlisted).mpr ((upserted.services service).mpr (.inl rfl))
  have earlier : ∀ other ∈ rows, middle.serviceAt host.id other.id =
      db.serviceAt host.id other.id := by
    intro other member
    apply upserted.serviceAt_other
    rintro ⟨-, same⟩
    exact fresh (same ▸ List.mem_map_of_mem member)
  have differs : ∀ other ∈ after.services, other.IsListed host rows →
      other.id ≠ service.id := by
    intro other member otherListed same
    rw [Table.eq_of_id member serviceMember same] at otherListed
    exact unlisted otherListed
  constructor
  · exact upserted.toSyncFrame.trans listed.toSyncFrame
  · intro other member
    rcases List.mem_cons.mp member with rfl | later
    · exact ⟨service, _, serviceMember, upserted.status, upserted.mirrors⟩
    · obtain ⟨found, key, foundMember, status, mirrors⟩ := listed.listed other later
      rw [earlier other later] at mirrors
      exact ⟨found, key, foundMember, status, mirrors⟩
  · intro other otherUnlisted
    have notRow : ¬ (other.hostId = host.id ∧ other.containerId = row.id) := by
      rintro ⟨ofHost, ofContainer⟩
      exact otherUnlisted ⟨ofHost, by simp [ofContainer]⟩
    rw [listed.unlisted other fun inRows =>
      otherUnlisted ⟨inRows.1, List.mem_cons_of_mem _ inRows.2⟩, upserted.services]
    constructor
    · rintro (rfl | ⟨member, -⟩)
      · exact absurd key notRow
      · exact member
    · exact fun member => .inr ⟨member, notRow⟩
  · obtain ⟨log, written, appended⟩ := upserted.logs
    obtain ⟨logs, appendedLater, entries⟩ := listed.logs
    refine ⟨log :: logs, ?_, .cons ⟨service, serviceMember, key.1, key.2, written⟩ entries⟩
    rw [appendedLater, appended]
    simp
  · intro serviceId others snapshot ofService
    rw [listed.foreign serviceId (fun other member inRows =>
      others other member ⟨inRows.1, List.mem_cons_of_mem _ inRows.2⟩) snapshot ofService]
    apply upserted.foreign
    rw [ofService]
    exact (others service serviceMember ⟨key.1, by simp [key.2]⟩).symm
  · intro inspecting other member found foundMember ofHost ofContainer
    rcases List.mem_cons.mp member with rfl | later
    · have same := service_unique foundMember serviceMember (ofHost.trans key.1.symm)
        (ofContainer.trans key.2.symm)
      subst same
      apply (upserted.settles inspecting).congr
      intro snapshot ofService present
      exact (listed.foreign _ differs snapshot ofService).mpr present
    · exact listed.inspecting inspecting other later found foundMember ofHost ofContainer
  · intro steady
    obtain ⟨old, oldMember, ofHost, ofContainer, status, settled⟩ := steady row (.head _)
    have found : db.serviceAt host.id row.id = some old :=
      Database.serviceAt_eq_some.mpr ⟨oldMember, ofHost, ofContainer⟩
    have sameId : service.id = old.id := by
      rw [upserted.mirrors, found]
      rfl
    have sameStatus : old.status = service.status :=
      Except.ok.inj (status.symm.trans upserted.status)
    have keptSnapshots := upserted.settled (sameId ▸ settled)
    have keptAlerts := upserted.alertLogs (by rw [found]; exact sameStatus)
    have laterSteady := listed.settled
    rw [keptSnapshots, keptAlerts] at laterSteady
    apply laterSteady
    intro other member
    obtain ⟨row', rowMember, rowHost, rowContainer, rest⟩ := steady other (.tail _ member)
    refine ⟨row', (upserted.services row').mpr (.inr ⟨rowMember, ?_⟩), rowHost,
      rowContainer, rest⟩
    rintro ⟨-, same⟩
    exact fresh (same ▸ rowContainer ▸ List.mem_map_of_mem member)

end Step

theorem Listed.setClock {permits : (call : Call) → Except JsError call.Reply → Prop}
    {platform : Platform} {host : Host} {rows : List PsRow} {checkedAt : Date}
    {db after : Database} {before : Date}
    (listed : Listed permits platform host rows checkedAt (db.setClock before) after)
    (time : Date) :
    Listed permits platform host rows checkedAt db (after.setClock time) where
  toSyncFrame := by
    have frame := listed.toSyncFrame.setClock time
    exact ⟨frame.hosts, frame.domains, frame.certificates, frame.events,
      frame.alertRules, frame.insightStates⟩
  listed := listed.listed
  unlisted := listed.unlisted
  logs := listed.logs
  foreign := listed.foreign
  inspecting := listed.inspecting
  settled := listed.settled

/-- The loop over the listing, by induction on it. -/
theorem Upserts.listed {permits : (call : Call) → Except JsError call.Reply → Prop}
    {platform : Platform} {host : Host} {rows : List PsRow} {checkedAt : Date}
    {db after : Database} (upserts : Upserts permits platform host checkedAt rows db after)
    (distinct : (rows.map PsRow.id).Nodup) :
    Listed permits platform host rows checkedAt db after := by
  induction upserts with
  | nil db => exact Listed.nil permits platform host checkedAt db
  | cons upserted rest inductionHypothesis =>
      obtain ⟨fresh, distinctRows⟩ := List.nodup_cons.mp distinct
      exact Listed.cons upserted (inductionHypothesis distinctRows) fresh

/-- The two loops of a sync whose containers have distinct ids. -/
theorem Synced.loops {permits : (call : Call) → Except JsError call.Reply → Prop}
    {platform : Platform} {host : Host} {rows : List PsRow} {checkedAt : Date}
    {db after : Database} (synced : Synced permits platform host rows checkedAt db after)
    (distinct : (rows.map PsRow.id).Nodup) :
    ∃ middle missing, Listed permits platform host rows checkedAt db middle ∧
      Marked checkedAt missing middle after ∧ (missing.map Service.id).Nodup ∧
      ∀ service, service ∈ missing ↔
        service ∈ db.services ∧ service.NewlyMissing host rows := by
  obtain ⟨first, middle, last, missing, upserts, marked, distinctMissing, newlyMissing⟩ :=
    synced
  have listed := (upserts.listed distinct).setClock last
  refine ⟨middle.setClock last, missing, listed, marked, distinctMissing, ?_⟩
  intro service
  rw [newlyMissing]
  apply and_congr_left
  intro gone
  exact listed.unlisted service fun inRows => gone.2.1 inRows.2

/-! ### The listing is mirrored -/

/-- A service row that describes a listed container. -/
structure PsRow.Describes (row : PsRow) (host : Host) (checkedAt : Date)
    (service : Service) : Prop where
  hostId : service.hostId = host.id
  containerId : service.containerId = row.id
  containerName : service.containerName = row.names
  image : service.image = (splitImageAndTag row.image).image
  currentTag : service.currentTag = (splitImageAndTag row.image).tag
  status : classifyContainerStatus (.str row.status) = .ok service.status
  lastCheckedAt : service.lastCheckedAt = checkedAt

/-- The tables after a sync, as the listing has them. -/
structure Mirrored (host : Host) (rows : List PsRow) (checkedAt : Date)
    (before after : Database) : Prop where
  /-- A listed container has exactly one row; one that was there keeps its key. -/
  listed : ∀ row ∈ rows, ∃ service ∈ after.services, row.Describes host checkedAt service ∧
    (∀ other ∈ after.services, other.hostId = host.id → other.containerId = row.id →
      other = service) ∧
    ∀ old ∈ before.services, old.hostId = host.id → old.containerId = row.id →
      service.id = old.id
  /-- Every other row of the host is unknown: it was, or it has been marked. -/
  missing : ∀ service ∈ after.services, service.hostId = host.id →
    service.containerId ∉ rows.map PsRow.id → service.status = .unknown ∧
      ∃ old ∈ before.services,
        service = if old.status = .unknown then old else old.vanished checkedAt
  /-- None of these rows is lost. -/
  kept : ∀ old ∈ before.services, old.hostId = host.id →
    old.containerId ∉ rows.map PsRow.id →
      (if old.status = .unknown then old else old.vanished checkedAt) ∈ after.services
  /-- The rows of other hosts are untouched. -/
  others : ∀ service : Service, service.hostId ≠ host.id →
    (service ∈ after.services ↔ service ∈ before.services)
  /-- One entry is logged for each listed and for each newly missing container. -/
  logs : ∃ (newlyMissing : List Service) (listedLogs missingLogs : List HealthCheckLog),
    after.healthCheckLogs.rows =
      before.healthCheckLogs.rows ++ listedLogs ++ missingLogs ∧
    List.Forall₂ (fun row log => ∃ service ∈ after.services,
      row.Describes host checkedAt service ∧
        HealthCheckLog.Written log (newHealthCheckLog .service service.id
          service.status.text row.rawOutput)) rows listedLogs ∧
    List.Forall₂ (fun service log =>
      HealthCheckLog.Written log service.missingEntry) newlyMissing missingLogs ∧
    newlyMissing.Nodup ∧
    ∀ service, service ∈ newlyMissing ↔
      service ∈ before.services ∧ service.NewlyMissing host rows

theorem PsRow.describes_service {row : PsRow} {host : Host} {status : ServiceStatus}
    {checkedAt : Date} {found : Option Service} {fresh : Nat}
    (classified : classifyContainerStatus (.str row.status) = .ok status) :
    row.Describes host checkedAt (row.service host status checkedAt found fresh) :=
  ⟨rfl, rfl, rfl, rfl, rfl, classified, rfl⟩

section Mirror

variable {permits : (call : Call) → Except JsError call.Reply → Prop}
  {platform : Platform} {host : Host} {rows : List PsRow} {checkedAt : Date}
  {db middle after : Database} {missing : List Service}

/-- The row of a listed container, after the first loop. -/
theorem Listed.describes (listed : Listed permits platform host rows checkedAt db middle)
    {row : PsRow} (member : row ∈ rows) :
    ∃ service ∈ middle.services, row.Describes host checkedAt service ∧
      ∀ old ∈ db.services, old.hostId = host.id → old.containerId = row.id →
        service.id = old.id := by
  obtain ⟨service, fresh, present, classified, mirrors⟩ := listed.listed row member
  refine ⟨service, present, ?_, ?_⟩
  · rw [mirrors]
    exact row.describes_service classified
  · intro old oldMember ofHost ofContainer
    rw [mirrors, Database.serviceAt_eq_some.mpr ⟨oldMember, ofHost, ofContainer⟩]
    rfl

/-- The second loop leaves a row alone that is not newly missing. -/
theorem Marked.keeps (marked : Marked checkedAt missing middle after)
    (listed : Listed permits platform host rows checkedAt db middle)
    (newlyMissing : ∀ service, service ∈ missing ↔
      service ∈ db.services ∧ service.NewlyMissing host rows)
    {service : Service} (present : service ∈ middle.services)
    (stays : ¬ service.NewlyMissing host rows) : service ∈ after.services := by
  refine (marked.services service).mpr (.inl ⟨present, ?_⟩)
  intro marks
  obtain ⟨other, otherMissing, sameId⟩ := List.mem_map.mp marks
  obtain ⟨otherMember, gone⟩ := (newlyMissing other).mp otherMissing
  have otherPresent : other ∈ middle.services :=
    (listed.unlisted other fun inRows => gone.2.1 inRows.2).mpr otherMember
  rw [Table.eq_of_id otherPresent present sameId] at gone
  exact stays gone

/-- A row after both loops that is no listed container's was there before. -/
theorem Marked.origin (marked : Marked checkedAt missing middle after)
    (listed : Listed permits platform host rows checkedAt db middle)
    (newlyMissing : ∀ service, service ∈ missing ↔
      service ∈ db.services ∧ service.NewlyMissing host rows)
    {service : Service} (present : service ∈ after.services)
    (unlisted : ¬ service.IsListed host rows) :
    (service ∈ db.services ∧ ¬ service.NewlyMissing host rows) ∨
      ∃ old ∈ db.services, old.NewlyMissing host rows ∧
        service = old.vanished checkedAt := by
  rcases (marked.services service).mp present with
    ⟨inMiddle, unmarked⟩ | ⟨old, oldMissing, rfl⟩
  · have before := (listed.unlisted service unlisted).mp inMiddle
    refine .inl ⟨before, fun gone => unmarked ?_⟩
    exact List.mem_map_of_mem ((newlyMissing service).mpr ⟨before, gone⟩)
  · obtain ⟨member, gone⟩ := (newlyMissing old).mp oldMissing
    exact .inr ⟨old, member, gone, rfl⟩

/-- After a sync the rows of the host mirror the listing. -/
theorem Synced.mirrored (synced : Synced permits platform host rows checkedAt db after)
    (distinct : (rows.map PsRow.id).Nodup) :
    Mirrored host rows checkedAt db after := by
  obtain ⟨middle, missing, listed, marked, distinctMissing, newlyMissing⟩ :=
    synced.loops distinct
  have described : ∀ row ∈ rows, ∃ service ∈ after.services,
      row.Describes host checkedAt service ∧
        ∀ old ∈ db.services, old.hostId = host.id → old.containerId = row.id →
          service.id = old.id := by
    intro row member
    obtain ⟨service, present, describes, keepsId⟩ := listed.describes member
    refine ⟨service, marked.keeps listed newlyMissing present ?_, describes, keepsId⟩
    rintro ⟨-, unlisted, -⟩
    exact unlisted (describes.containerId ▸ List.mem_map_of_mem member)
  constructor
  · intro row member
    obtain ⟨service, present, describes, keepsId⟩ := described row member
    refine ⟨service, present, describes, ?_, keepsId⟩
    intro other otherPresent ofHost ofContainer
    exact service_unique otherPresent present (ofHost.trans describes.hostId.symm)
      (ofContainer.trans describes.containerId.symm)
  · intro service present ofHost unlisted
    rcases marked.origin listed newlyMissing present fun inRows => unlisted inRows.2 with
      ⟨before, stays⟩ | ⟨old, member, gone, rfl⟩
    · have unknown : service.status = .unknown := by
        by_contra known
        exact stays ⟨ofHost, unlisted, known⟩
      exact ⟨unknown, service, before, (if_pos unknown).symm⟩
    · exact ⟨rfl, old, member, (if_neg gone.2.2).symm⟩
  · intro old member ofHost unlisted
    have present : old ∈ middle.services :=
      (listed.unlisted old fun inRows => unlisted inRows.2).mpr member
    split
    · next unknown =>
      exact marked.keeps listed newlyMissing present fun gone => gone.2.2 unknown
    · next known =>
      exact (marked.services _).mpr (.inr ⟨old, (newlyMissing old).mpr
        ⟨member, ofHost, unlisted, known⟩, rfl⟩)
  · intro service foreign
    constructor
    · intro present
      rcases marked.origin listed newlyMissing present fun inRows => foreign inRows.1 with
        ⟨before, -⟩ | ⟨old, -, gone, rfl⟩
      · exact before
      · exact absurd gone.1 foreign
    · intro member
      have present := (listed.unlisted service fun inRows => foreign inRows.1).mpr member
      exact marked.keeps listed newlyMissing present fun gone => foreign gone.1
  · obtain ⟨listedLogs, appended, listedEntries⟩ := listed.logs
    obtain ⟨missingLogs, appendedLater, missingEntries⟩ := marked.logs
    refine ⟨missing, listedLogs, missingLogs, ?_, ?_, missingEntries,
      distinctMissing.of_map _, newlyMissing⟩
    · rw [appendedLater, appended]
    · have within := (List.forall₂_and_left rows listedLogs).mpr
        ⟨fun row (member : row ∈ rows) => member, listedEntries⟩
      apply within.imp
      rintro row log ⟨member, found, foundPresent, ofHost, ofContainer, written⟩
      obtain ⟨service, present, describes, -⟩ := listed.describes member
      have same := service_unique foundPresent present
        (ofHost.trans describes.hostId.symm) (ofContainer.trans describes.containerId.symm)
      rw [same] at written
      refine ⟨service, marked.keeps listed newlyMissing present ?_, describes, written⟩
      rintro ⟨-, unlisted, -⟩
      exact unlisted (describes.containerId ▸ List.mem_map_of_mem member)

/-! ### A second sync with the same listing -/

/-- A row whose time has been set, if it is listed. -/
def Service.refreshed (host : Host) (rows : List PsRow) (checkedAt : Date)
    (service : Service) : Service :=
  if service.hostId = host.id ∧ service.containerId ∈ rows.map PsRow.id then
    { service with lastCheckedAt := checkedAt }
  else service

theorem Service.refreshed_key (service : Service) (host : Host) (rows : List PsRow)
    (checkedAt : Date) :
    (service.refreshed host rows checkedAt).hostId = service.hostId ∧
      (service.refreshed host rows checkedAt).containerId = service.containerId := by
  unfold Service.refreshed
  split
  · exact ⟨rfl, rfl⟩
  · exact ⟨rfl, rfl⟩

/-- The tables of two states differ in `lastCheckedAt` of listed services and in the
health-check log alone. -/
structure Refreshed (host : Host) (rows : List PsRow) (checkedAt : Date)
    (before after : Database) : Prop extends SyncFrame before after where
  services : ∀ service, service ∈ after.services ↔
    ∃ old ∈ before.services, old.refreshed host rows checkedAt = service
  snapshots : after.snapshots = before.snapshots
  alertLogs : after.alertLogs = before.alertLogs

/-- A listed container is up to date: its row says what the listing says, and its
snapshot is settled. -/
def UpToDate (platform : Platform) (host : Host) (rows : List PsRow) (db : Database) :
    Prop :=
  ∀ row ∈ rows, ∃ service ∈ db.services, ∃ status checkedAt,
    service = row.service host status checkedAt (some service) 0 ∧
      classifyContainerStatus (.str row.status) = .ok status ∧
        NoneDue platform host db.snapshots service.id row.image

/-- After a sync whose inspections succeed, each listed container is up to date. -/
theorem Synced.upToDate (synced : Synced permits platform host rows checkedAt db after)
    (distinct : (rows.map PsRow.id).Nodup)
    (inspecting : ∀ call reply, permits call reply → Inspecting platform call reply) :
    UpToDate platform host rows after := by
  obtain ⟨middle, missing, listed, marked, -, newlyMissing⟩ := synced.loops distinct
  intro row member
  obtain ⟨service, fresh, present, classified, mirrors⟩ := listed.listed row member
  have ofHost : service.hostId = host.id := by rw [mirrors]; rfl
  have ofContainer : service.containerId = row.id := by rw [mirrors]; rfl
  have stays : ¬ service.NewlyMissing host rows := by
    rintro ⟨-, unlisted, -⟩
    exact unlisted (ofContainer ▸ List.mem_map_of_mem member)
  have settled := listed.inspecting inspecting row member service present ofHost ofContainer
  rw [← marked.snapshots] at settled
  have again := congrArg
    (fun found => row.service host service.status checkedAt (some found) 0) mirrors
  exact ⟨service, marked.keeps listed newlyMissing present stays, service.status,
    checkedAt, mirrors.trans again.symm, classified, settled⟩

/-- No row of the host is known but is not listed. -/
def NoneMissing (host : Host) (rows : List PsRow) (db : Database) : Prop :=
  ∀ service ∈ db.services, ¬ service.NewlyMissing host rows

/-- The loop over the missing services leaves none of them known. -/
theorem Synced.noneMissing (synced : Synced permits platform host rows checkedAt db after)
    (distinct : (rows.map PsRow.id).Nodup) : NoneMissing host rows after := by
  rintro service present ⟨ofHost, unlisted, known⟩
  exact known ((synced.mirrored distinct).missing service present ofHost unlisted).1

/-- An up-to-date row gets a new time and nothing else. -/
theorem Listed.refreshes (listed : Listed permits platform host rows checkedAt db middle)
    (upToDate : UpToDate platform host rows db) {old : Service} (member : old ∈ db.services)
    (oldListed : old.IsListed host rows) :
    old.refreshed host rows checkedAt ∈ middle.services := by
  obtain ⟨row, inRows, sameContainer⟩ := List.mem_map.mp oldListed.2
  obtain ⟨service, fresh, present, classified, mirrors⟩ := listed.listed row inRows
  obtain ⟨current, currentMember, status, earlier, currentMirrors, currentStatus, -⟩ :=
    upToDate row inRows
  have sameRow : current = old := by
    apply service_unique currentMember member
    · rw [currentMirrors, oldListed.1]; rfl
    · rw [currentMirrors, ← sameContainer]; rfl
  subst sameRow
  have found : db.serviceAt host.id row.id = some current :=
    Database.serviceAt_eq_some.mpr ⟨member, oldListed.1, sameContainer.symm⟩
  have sameStatus : status = service.status :=
    Except.ok.inj (currentStatus.symm.trans classified)
  have refreshed : current.refreshed host rows checkedAt =
      { current with lastCheckedAt := checkedAt } := if_pos oldListed
  have timed : ({ current with lastCheckedAt := checkedAt } : Service) =
      row.service host status checkedAt (some current) fresh := by
    conv_lhs => rw [currentMirrors]
    rfl
  rw [refreshed, timed, sameStatus, ← found, ← mirrors]
  exact present

/-- A sync that finds the tables up to date refreshes them. -/
theorem Synced.refreshed (synced : Synced permits platform host rows checkedAt db after)
    (distinct : (rows.map PsRow.id).Nodup)
    (upToDate : UpToDate platform host rows db) (noneMissing : NoneMissing host rows db) :
    Refreshed host rows checkedAt db after := by
  obtain ⟨middle, missing, listed, marked, -, newlyMissing⟩ := synced.loops distinct
  have nothing : missing = [] := by
    apply List.eq_nil_iff_forall_not_mem.mpr
    intro service inMissing
    obtain ⟨member, gone⟩ := (newlyMissing service).mp inMissing
    exact noneMissing service member gone
  subst nothing
  have same : ∀ service, service ∈ after.services ↔ service ∈ middle.services := by
    intro service
    rw [marked.services]
    simp
  obtain ⟨sameSnapshots, sameAlerts⟩ := listed.settled (by
    intro row member
    obtain ⟨service, present, status, earlier, mirrors, classified, settled⟩ :=
      upToDate row member
    refine ⟨service, present, ?_, ?_, ?_, settled⟩
    · rw [mirrors]; rfl
    · rw [mirrors]; rfl
    · rw [mirrors]; exact classified)
  constructor
  · exact listed.toSyncFrame.trans marked.toSyncFrame
  · intro service
    rw [same]
    constructor
    · intro present
      by_cases inRows : service.IsListed host rows
      · obtain ⟨row, member, sameContainer⟩ := List.mem_map.mp inRows.2
        obtain ⟨old, oldMember, status, earlier, mirrors, -⟩ := upToDate row member
        have oldHost : old.hostId = host.id := by rw [mirrors]; rfl
        have oldContainer : old.containerId = row.id := by rw [mirrors]; rfl
        have oldListed : old.IsListed host rows :=
          ⟨oldHost, oldContainer ▸ List.mem_map_of_mem member⟩
        have key := old.refreshed_key host rows checkedAt
        refine ⟨old, oldMember, service_unique
          (listed.refreshes upToDate oldMember oldListed) present ?_ ?_⟩
        · rw [key.1, oldHost, inRows.1]
        · rw [key.2, oldContainer, sameContainer]
      · exact ⟨service, (listed.unlisted service inRows).mp present, if_neg inRows⟩
    · rintro ⟨old, oldMember, rfl⟩
      by_cases oldListed : old.IsListed host rows
      · exact listed.refreshes upToDate oldMember oldListed
      · rw [show old.refreshed host rows checkedAt = old from if_neg oldListed]
        exact (listed.unlisted old oldListed).mpr oldMember
  · exact marked.snapshots.trans sameSnapshots
  · exact marked.alertLogs.trans sameAlerts

end Mirror

/-- A sync of a listing that parses mirrors it, whatever else it is answered, as long as
no repository call fails; and where every inspection of the first run succeeds, a second
sync with the same listing only refreshes the rows. -/
theorem sync_mirrors (platform : Platform) (host : Host) (result : SshCommandResult)
    (db : Database) (exits : result.exitCode = some 0)
    (textual : ∀ line ∈ nonBlankLines result.stdout, TextualLine line)
    (distinct : ∀ listing, parseDockerPsOutput result.stdout = .ok listing →
      (listing.containers.map DockerPsContainer.id).Nodup) :
    ∃ (rows : List PsRow) (skippedLines : Nat),
      parseDockerPsOutput result.stdout =
        .ok { containers := rows.map PsRow.toContainer, skippedLines := skippedLines } ∧
      (∀ outcome after,
        Program.Steps (Calm Steady) (sync platform host result, db)
            (.ofExcept outcome, after) →
          outcome = .ok () ∧ ∃ checkedAt, Mirrored host rows checkedAt db after) ∧
      ∀ outcome after,
        Program.Steps (Calm (Inspecting platform)) (sync platform host result, db)
            (.ofExcept outcome, after) →
          ∀ again afterAgain,
            Program.Steps (Calm Steady) (sync platform host result, after)
                (.ofExcept again, afterAgain) →
              again = .ok () ∧
                ∃ checkedAt, Refreshed host rows checkedAt after afterAgain := by
  obtain ⟨rows, skippedLines, parses⟩ := parseDockerPsOutput_textual textual
  have distinctRows : (rows.map PsRow.id).Nodup := by
    have ids : (rows.map PsRow.toContainer).map DockerPsContainer.id =
        (rows.map PsRow.id).map Json.str := by
      rw [List.map_map, List.map_map]
      rfl
    have parsedIds := distinct _ parses
    rw [ids] at parsedIds
    exact parsedIds.of_map _
  have runs : isDockerMissing result = false := if_pos exits
  refine ⟨rows, skippedLines, parses, ?_, ?_⟩
  · intro outcome after steps
    obtain ⟨returned, checkedAt, synced⟩ := (sync_ensures (fun _ _ holds => holds)
      platform host result rows skippedLines runs parses db).steps steps
    exact ⟨returned, checkedAt, synced.mirrored distinctRows⟩
  · intro outcome after steps again afterAgain stepsAgain
    obtain ⟨-, first, synced⟩ := (sync_ensures (fun _ _ holds => holds.steady)
      platform host result rows skippedLines runs parses db).steps steps
    obtain ⟨returned, checkedAt, syncedAgain⟩ := (sync_ensures (fun _ _ holds => holds)
      platform host result rows skippedLines runs parses after).steps stepsAgain
    exact ⟨returned, checkedAt, syncedAgain.refreshed distinctRows
      (synced.upToDate distinctRows fun _ _ holds => holds)
      (synced.noneMissing distinctRows)⟩

/-! ### A host whose only container was recreated -/

/-- A running service of the registered host. -/
def webService : Service :=
  { id := 1
    orgId := 6
    hostId := 2
    containerId := "4f2a"
    containerName := "web"
    image := "nginx"
    currentTag := some "1.26"
    status := .running
    portMappings := none
    lastCheckedAt := 0 }

def servedDatabase : Database :=
  { registeredDatabase with services := Table.single webService }

def recreatedListing : SshCommandResult :=
  { command := dockerPsCommand
    stdout := psOutput [recreatedRow]
    stderr := ""
    exitCode := some 0 }

/-- A container without environment and ports, as `docker inspect` prints it. -/
def inspectOutput : String :=
  Json.stringify (.arr [.obj [("Name", .str "/web")]])

theorem parseDockerInspectOutput_inspectOutput (numberText : JsonNumber → String) :
    ∃ config, parseDockerInspectOutput numberText inspectOutput = .ok (some config) := by
  have printable : Json.Printable (.arr [.obj [("Name", .str "/web")]]) := by
    simp [Json.Printable, Json.PrintableItems, Json.PrintableMembers]
  have unpublished : flattenPortBindings numberText (.obj []) = .ok [] := by
    simp [flattenPortBindings, entries, pure, Except.pure, bind, Except.bind]
  have absent : orElse (optionalProperty none "PortBindings") (.obj []) = .obj [] := rfl
  have config : property (.obj [("Name", .str "/web")]) "HostConfig" = .ok none := rfl
  rw [parseDockerInspectOutput, inspectOutput, Json.parse_stringify printable]
  simp only [firstElement, List.head?_cons, bind, Except.bind, Option.filter, truthy,
    if_true, config, absent, unpublished]
  exact ⟨_, rfl⟩


/-- Every command prints this container. -/
def inspectedSurroundings : Surroundings :=
  { Surroundings.quiet with
    exec := fun _ =>
      { stdout := inspectOutput
        stderr := ""
        code := some 0 } }

theorem inspectedSurroundings_calm (db : Database) (call : Call) :
    CalmAnswer (Inspecting .transparent) db call (inspectedSurroundings.answer db call).1
      (inspectedSurroundings.answer db call).2 := by
  cases call with
  | query q => exact ⟨db.clock, rfl⟩
  | now => exact ⟨⟨_, rfl⟩, db.clock, rfl⟩
  | randomBytes size => exact ⟨⟨_, rfl⟩, db.clock, rfl⟩
  | connect options => exact ⟨⟨_, rfl⟩, db.clock, rfl⟩
  | execCommand options command =>
      obtain ⟨config, parses⟩ := parseDockerInspectOutput_inspectOutput
        Platform.transparent.numberText
      exact ⟨⟨_, config, rfl, rfl, parses⟩, db.clock, rfl⟩
  | _ => exact ⟨trivial, db.clock, rfl⟩

theorem CalmAnswer.steady {platform : Platform} {db after : Database} {call : Call}
    {reply : Except JsError call.Reply}
    (calm : CalmAnswer (Inspecting platform) db call reply after) :
    CalmAnswer Steady db call reply after := by
  cases call with
  | query q => exact calm
  | _ => exact ⟨calm.1.steady, calm.2⟩

/-- The old row is marked, the new one has its snapshot, and a second sync changes
nothing. -/
theorem sync_mirrors_recreated :
    ∃ after afterAgain,
      (sync .transparent registeredHost recreatedListing).run inspectedSurroundings.machine
        servedDatabase = (.ok (), after) ∧
      (sync .transparent registeredHost recreatedListing).run inspectedSurroundings.machine
        after = (.ok (), afterAgain) ∧
      ∃ rows skippedLines checkedAt checkedAgain,
        parseDockerPsOutput recreatedListing.stdout =
          .ok { containers := rows.map PsRow.toContainer, skippedLines := skippedLines } ∧
        Mirrored registeredHost rows checkedAt servedDatabase after ∧
        Refreshed registeredHost rows checkedAgain after afterAgain := by
  have parses := parseDockerPsOutput_psOutput recreatedRow_complete
  have textual : ∀ line ∈ nonBlankLines recreatedListing.stdout, TextualLine line :=
    textualLine_psOutput [recreatedRow]
  have distinct : ∀ listing, parseDockerPsOutput recreatedListing.stdout = .ok listing →
      (listing.containers.map DockerPsContainer.id).Nodup := by
    intro listing parsed
    cases parses.symm.trans parsed
    simp
  obtain ⟨rows, skippedLines, rowsParse, mirrors, refreshes⟩ := sync_mirrors .transparent
    registeredHost recreatedListing servedDatabase rfl textual distinct
  cases first : (sync .transparent registeredHost recreatedListing).run
      inspectedSurroundings.machine servedDatabase with
  | mk outcome after =>
  cases second : (sync .transparent registeredHost recreatedListing).run
      inspectedSurroundings.machine after with
  | mk again afterAgain =>
  have steps := Program.run_steps inspectedSurroundings.machine
    (fun op state => inspectedSurroundings_calm state op)
    (sync .transparent registeredHost recreatedListing)
  have steadySteps := Program.run_steps inspectedSurroundings.machine
    (fun op state => (inspectedSurroundings_calm state op).steady)
    (sync .transparent registeredHost recreatedListing)
  have firstSteps := steps servedDatabase
  have steadyFirst := steadySteps servedDatabase
  have steadySecond := steadySteps after
  rw [first] at firstSteps steadyFirst
  rw [second] at steadySecond
  obtain ⟨rfl, checkedAt, mirrored⟩ := mirrors _ _ steadyFirst
  obtain ⟨rfl, checkedAgain, refreshed⟩ := refreshes _ _ firstSteps _ _ steadySecond
  exact ⟨after, afterAgain, rfl, second, rows, skippedLines, checkedAt, checkedAgain,
    rowsParse, mirrored, refreshed⟩

end ServersManager
