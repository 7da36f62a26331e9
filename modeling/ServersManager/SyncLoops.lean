/-
Module: ServersManager.SyncLoops
Purpose: The two loops of a service sync, over the listed and over the missing
  containers, while no repository call fails.
Trusted boundary: none
Main exports:
  Upserts, upsertServices_ensures, Marked, markUnknown_ensures, Synced, sync_ensures
-/
import ServersManager.SyncRun

namespace ServersManager

open Library

/-! ### The loop over the listed containers -/

section Step

variable {permits : (call : Call) → Except JsError call.Reply → Prop}
  {platform : Platform} {host : Host} {row : PsRow} {rows : List PsRow}
  {checkedAt : Date} {db middle after : Database} {service : Service}

theorem Upserted.key (upserted : Upserted permits platform host row checkedAt db service
    middle) : service.hostId = host.id ∧ service.containerId = row.id := by
  rw [upserted.mirrors]
  exact ⟨rfl, rfl⟩

theorem Upserted.serviceAt_self (upserted : Upserted permits platform host row checkedAt
    db service middle) : middle.serviceAt host.id row.id = some service :=
  Database.serviceAt_eq_some.mpr
    ⟨(upserted.services service).mpr (.inl rfl), upserted.key⟩

/-- The rows of other containers stay what they were. -/
theorem Upserted.serviceAt_other (upserted : Upserted permits platform host row checkedAt
    db service middle) {hostId : Nat} {containerId : String}
    (differs : ¬ (hostId = host.id ∧ containerId = row.id)) :
    middle.serviceAt hostId containerId = db.serviceAt hostId containerId := by
  apply Option.ext
  intro other
  rw [Database.serviceAt_eq_some, Database.serviceAt_eq_some, upserted.services]
  constructor
  · rintro ⟨rfl | ⟨member, -⟩, rfl, rfl⟩
    · exact absurd upserted.key differs
    · exact ⟨member, rfl, rfl⟩
  · rintro ⟨member, rfl, rfl⟩
    exact ⟨.inr ⟨member, differs⟩, rfl, rfl⟩

/-- The snapshots of other services stay what they were. -/
theorem Upserted.foreign (upserted : Upserted permits platform host row checkedAt db
    service middle) {snapshot : DeploymentSnapshot}
    (differs : snapshot.serviceId ≠ service.id) :
    snapshot ∈ middle.snapshots ↔ snapshot ∈ db.snapshots := by
  rcases upserted.snapshots with same | captured
  · rw [same]
  · exact captured.other differs

theorem Upserted.settles (upserted : Upserted permits platform host row checkedAt db
    service middle)
    (inspecting : ∀ call reply, permits call reply → Inspecting platform call reply) :
    NoneDue platform host middle.snapshots service.id row.image := by
  by_cases settled : NoneDue platform host db.snapshots service.id row.image
  · rw [upserted.settled settled]
    exact settled
  · exact .inl (upserted.inspecting inspecting settled).current

/-- Being settled depends on the service's own snapshots. -/
theorem NoneDue.congr {snapshots others : Table DeploymentSnapshot} {serviceId : Nat}
    {imageTag : String} (settled : NoneDue platform host snapshots serviceId imageTag)
    (same : ∀ snapshot : DeploymentSnapshot, snapshot.serviceId = serviceId →
      snapshot ∈ snapshots → snapshot ∈ others) :
    NoneDue platform host others serviceId imageTag := by
  rcases settled with ⟨snapshot, member, ofService, rest⟩ | undecrypted
  · exact .inl ⟨snapshot, same snapshot ofService member, ofService, rest⟩
  · exact .inr undecrypted

end Step

/-- The upserts of the listed containers, one after another. -/
inductive Upserts (permits : (call : Call) → Except JsError call.Reply → Prop)
    (platform : Platform) (host : Host) (checkedAt : Date) :
    List PsRow → Database → Database → Prop where
  | nil (db : Database) : Upserts permits platform host checkedAt [] db db
  | cons {row : PsRow} {rows : List PsRow} {db middle after : Database} {service : Service}
      (upserted : Upserted permits platform host row checkedAt db service middle)
      (rest : Upserts permits platform host checkedAt rows middle after) :
      Upserts permits platform host checkedAt (row :: rows) db after

theorem upsertServices_ensures {permits : (call : Call) → Except JsError call.Reply → Prop}
    (steady : ∀ call reply, permits call reply → Steady call reply)
    (platform : Platform) (host : Host) (checkedAt : Date) (rows : List PsRow)
    (db : Database) :
    (upsertServices platform host checkedAt (rows.map PsRow.toContainer)).Ensures
      (Calm permits)
      (fun outcome after => ∃ value, outcome = .ok value ∧
        Upserts permits platform host checkedAt rows db after)
      db := by
  induction rows generalizing db with
  | nil => exact ⟨(), rfl, .nil db⟩
  | cons row rows inductionHypothesis =>
      apply Program.Ensures.bind
        (upsertService_ensures steady platform host row checkedAt db)
      rintro done middle ⟨service, upserted⟩
      apply Program.Follows.mono (inductionHypothesis middle)
      rintro outcome after ⟨value, returned, rest⟩
      exact ⟨value, returned, .cons upserted rest⟩

/-! ### The loop over the missing containers -/

/-- A row whose container is no longer listed. -/
def Service.vanished (checkedAt : Date) (service : Service) : Service :=
  { service with status := .unknown, lastCheckedAt := checkedAt }

/-- The entry written for it. -/
def Service.missingEntry (service : Service) : HealthCheckLog :=
  newHealthCheckLog .service service.id ServiceStatus.unknown.text
    (.obj [("reason", .str "Container no longer present in docker ps -a output")])

/-- What marking the missing rows leaves behind. -/
structure Marked (checkedAt : Date) (missing : List Service) (db after : Database) :
    Prop extends SyncFrame db after where
  services : ∀ other, other ∈ after.services ↔
    (other ∈ db.services ∧ other.id ∉ missing.map Service.id) ∨
      ∃ service ∈ missing, other = service.vanished checkedAt
  logs : ∃ written, after.healthCheckLogs.rows = db.healthCheckLogs.rows ++ written ∧
    List.Forall₂ (fun service log =>
      HealthCheckLog.Written log service.missingEntry) missing written
  snapshots : after.snapshots = db.snapshots
  alertLogs : after.alertLogs = db.alertLogs

theorem markUnknown_ensures {permits : (call : Call) → Except JsError call.Reply → Prop}
    (checkedAt : Date) (missing : List Service)
    (distinct : (missing.map Service.id).Nodup) (db : Database)
    (present : ∀ service ∈ missing, service ∈ db.services) :
    (markUnknown checkedAt missing).Ensures (Calm permits)
      (fun outcome after => ∃ value, outcome = .ok value ∧
        Marked checkedAt missing db after)
      db := by
  induction missing generalizing db with
  | nil =>
      refine ⟨(), rfl, SyncFrame.refl db, ?_, ⟨[], by simp, .nil⟩, rfl, rfl⟩
      simp
  | cons service missing inductionHypothesis =>
      obtain ⟨fresh, distinctRest⟩ := List.nodup_cons.mp distinct
      have member := present service (.head _)
      have clear : ¬ db.services.Clashes (service.vanished checkedAt) :=
        Table.not_clashes_of_replaces member rfl (.inr rfl)
      obtain ⟨services, saved⟩ := Table.exists_save clear
      have members : ∀ other, other ∈ services ↔ other = service.vanished checkedAt ∨
          other ∈ db.services ∧ other.id ≠ service.id :=
        fun other => Table.mem_save saved
      apply ensures_query_bind
      · intro time row afterSave performed
        have saves : row = service.vanished checkedAt ∧
            afterSave = { db.setClock time with services := services } := by
          change (db.setClock time).perform (.saveService (service.vanished checkedAt)) =
            _ at performed
          simp only [Database.perform, Database.setClock, saved, Option.map_some,
            Database.answer] at performed
          cases performed
          exact ⟨rfl, rfl⟩
        obtain ⟨rfl, rfl⟩ := saves
        apply ensures_query_bind
        · intro logTime log afterLog performed
          obtain ⟨written, logs, rfl, appended⟩ :=
            Database.perform_writeHealthCheckLog_eq performed
          have stillPresent : ∀ other ∈ missing, other ∈ services := by
            intro other otherMember
            refine (members other).mpr (.inr ⟨present other (.tail _ otherMember), ?_⟩)
            intro same
            exact fresh (same ▸ List.mem_map_of_mem otherMember)
          apply Program.Follows.mono
            (inductionHypothesis distinctRest _ stillPresent)
          rintro outcome after ⟨value, returned, marked⟩
          refine ⟨value, returned, ?_⟩
          constructor
          · have frame := marked.toSyncFrame
            exact ⟨frame.hosts, frame.domains, frame.certificates, frame.events,
              frame.alertRules, frame.insightStates⟩
          · intro other
            rw [marked.services]
            change other ∈ services ∧ _ ∨ _ ↔ _
            rw [members]
            simp only [List.map_cons, List.mem_cons, not_or, exists_eq_or_imp]
            constructor
            · rintro (⟨rfl | ⟨old, differs⟩, outside⟩ | later)
              · exact .inr (.inl rfl)
              · exact .inl ⟨old, differs, outside⟩
              · exact .inr (.inr later)
            · rintro (⟨old, differs, outside⟩ | rfl | later)
              · exact .inl ⟨.inr ⟨old, differs⟩, outside⟩
              · exact .inl ⟨.inl rfl, fresh⟩
              · exact .inr later
          · obtain ⟨rest, appendedLater, entries⟩ := marked.logs
            have joined : logs.rows ++ rest = db.healthCheckLogs.rows ++ log :: rest := by
              rw [show logs.rows = db.healthCheckLogs.rows ++ [log] from appended,
                List.append_assoc]
              rfl
            exact ⟨log :: rest, appendedLater.trans joined, .cons written entries⟩
          · exact marked.snapshots
          · exact marked.alertLogs
        · intro logTime
          exact Database.perform_writeHealthCheckLog _ _
      · intro time
        exact ⟨_, Database.perform_saveService.mpr ⟨clear, rfl⟩⟩

/-! ### The whole sync -/

/-- A service of the host that is newly missing from the listing. -/
def Service.NewlyMissing (host : Host) (rows : List PsRow) (service : Service) : Prop :=
  service.hostId = host.id ∧ service.containerId ∉ rows.map PsRow.id ∧
    service.status ≠ .unknown

/-- What a sync leaves behind: its two loops. -/
def Synced (permits : (call : Call) → Except JsError call.Reply → Prop)
    (platform : Platform) (host : Host) (rows : List PsRow) (checkedAt : Date)
    (db after : Database) : Prop :=
  ∃ first middle last missing,
    Upserts permits platform host checkedAt rows (db.setClock first) middle ∧
    Marked checkedAt missing (middle.setClock last) after ∧
    (missing.map Service.id).Nodup ∧
    ∀ service, service ∈ missing ↔
      service ∈ middle.services ∧ service.NewlyMissing host rows

theorem sync_ensures {permits : (call : Call) → Except JsError call.Reply → Prop}
    (steady : ∀ call reply, permits call reply → Steady call reply)
    (platform : Platform) (host : Host) (result : SshCommandResult) (rows : List PsRow)
    (skippedLines : Nat) (runs : isDockerMissing result = false)
    (parses : parseDockerPsOutput result.stdout =
      .ok { containers := rows.map PsRow.toContainer, skippedLines := skippedLines })
    (db : Database) :
    (sync platform host result).Ensures (Calm permits)
      (fun outcome after => outcome = .ok () ∧
        ∃ checkedAt, Synced permits platform host rows checkedAt db after)
      db := by
  unfold sync
  rw [runs, parses]
  apply ensures_now_bind steady
  intro checkedAt time
  apply Program.Ensures.bind (upsertServices_ensures steady platform host checkedAt rows
    (db.setClock time))
  rintro upserted middle upserts
  apply ensures_query_bind
  · intro later existing after performed
    cases performed
    have member : ∀ service,
        service ∈ ((middle.setClock later).services.find fun service =>
            service.hostId == host.id).filter (fun service =>
          !(rows.map PsRow.toContainer |>.map DockerPsContainer.id).any
              (isText service.containerId) && service.status != .unknown) ↔
        service ∈ middle.services ∧ service.NewlyMissing host rows := by
      intro service
      have seen : ((rows.map PsRow.toContainer).map DockerPsContainer.id).any
          (isText service.containerId) = true ↔
            service.containerId ∈ rows.map PsRow.id := by
        simp [isText, PsRow.toContainer, List.any_eq_true]
      rw [List.mem_filter, Table.mem_find]
      simp only [Bool.and_eq_true, bne_iff_ne, beq_iff_eq, Bool.not_eq_true',
        ← Bool.not_eq_true, seen]
      exact and_assoc
    have distinctMissing : ∀ condition : Service → Bool,
        ((((middle.setClock later).services.find fun service =>
          service.hostId == host.id).filter condition).map Service.id).Nodup := by
      intro condition
      exact List.Nodup.sublist (List.filter_sublist.map _) (Table.find_distinct _ _)
    apply Program.Follows.mono (markUnknown_ensures checkedAt _ (distinctMissing _) _ ?_)
    · rintro outcome final ⟨value, returned, marked⟩
      exact ⟨returned, checkedAt, time, middle, later, _, upserts, marked,
        distinctMissing _, member⟩
    · intro service inMissing
      exact (Table.mem_find.mp (List.mem_filter.mp inMissing).1).1
  · exact fun later => ⟨_, rfl⟩

end ServersManager
