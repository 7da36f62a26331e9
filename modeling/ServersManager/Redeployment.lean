/-
Module: ServersManager.Redeployment
Purpose: A container that is deployed again and again under one name, each deployment
  followed by syncs: which of the deployed images the history of its service keeps.
Trusted boundary: none
Main exports:
  Deployment, Redeployments, HistoryKept, history_survives_iff,
  second_deployment_loses_history
-/
import ServersManager.SnapshotHistory

namespace ServersManager

open Library

/-! ### Syncs after a deployment -/

/-- Every snapshot is of a stored service. -/
def Referenced (db : Database) : Prop :=
  ∀ snapshot ∈ db.snapshots, ∃ service ∈ db.services, service.id = snapshot.serviceId

/-- A sync whose `docker ps` gives this listing, and every `docker inspect` of which
succeeds. -/
def ListingSync (platform : Platform) (host : Host) (rows : List PsRow)
    (db after : Database) : Prop :=
  ∃ result skippedLines outcome, isDockerMissing result = false ∧
    parseDockerPsOutput result.stdout =
      .ok { containers := rows.map PsRow.toContainer, skippedLines := skippedLines } ∧
    Program.Steps (Calm (Inspecting platform)) (sync platform host result, db)
      (.ofExcept outcome, after)

section Sync

variable {permits : (call : Call) → Except JsError call.Reply → Prop}
  {platform : Platform} {host : Host} {row : PsRow} {rows : List PsRow}
  {checkedAt : Date} {db middle after : Database} {service owner : Service}
  {containerId privateKey : String}

theorem ListingSync.synced (sync : ListingSync platform host rows db after) :
    ∃ checkedAt, Synced (Inspecting platform) platform host rows checkedAt db after := by
  obtain ⟨result, skippedLines, outcome, runs, parses, steps⟩ := sync
  exact ((sync_ensures (fun _ _ holds => holds.steady) platform host result rows skippedLines
    runs parses db).steps steps).2

/-- Rows that stay keep the snapshots of their services referenced. -/
theorem Referenced.of_kept (referenced : Referenced db) (keeps : KeepsRows db after)
    (added : ∀ snapshot ∈ after.snapshots,
      (∃ old ∈ db.snapshots, old.serviceId = snapshot.serviceId) ∨
        ∃ service ∈ after.services, service.id = snapshot.serviceId) :
    Referenced after := by
  intro snapshot member
  rcases added snapshot member with ⟨old, oldMember, same⟩ | present
  · obtain ⟨service, ofOld, sameService⟩ := referenced old oldMember
    obtain ⟨kept, keptMember, sameId, -⟩ := keeps service ofOld
    exact ⟨kept, keptMember, sameId.trans (sameService.trans same)⟩
  · exact present

/-- A captured snapshot is of the service that was upserted. -/
theorem Upserted.referenced (upserted : Upserted permits platform host row checkedAt db
    service middle) (referenced : Referenced db) : Referenced middle := by
  apply referenced.of_kept upserted.keepsRows
  intro snapshot member
  rcases upserted.snapshots with same | ⟨created, ofService, -, -, -, appended⟩
  · rw [same] at member
    exact .inl ⟨snapshot, member, rfl⟩
  · rw [Table.mem_iff, appended, List.mem_append, List.mem_map, List.mem_singleton] at member
    rcases member with ⟨old, oldMember, rfl⟩ | rfl
    · exact .inl ⟨old, oldMember, (DeploymentSnapshot.retire_serviceId _ _).symm⟩
    · exact .inr ⟨service, (upserted.services service).mpr (.inl rfl), ofService.symm⟩

theorem Upserts.referenced (upserts : Upserts permits platform host checkedAt rows db after)
    (referenced : Referenced db) : Referenced after := by
  induction upserts with
  | nil db => exact referenced
  | cons upserted rest inductionHypothesis =>
      exact inductionHypothesis (upserted.referenced referenced)

theorem Synced.referenced (synced : Synced permits platform host rows checkedAt db after)
    (referenced : Referenced db) : Referenced after := by
  obtain ⟨first, middle, last, missing, upserts, marked, -, newlyMissing⟩ := synced
  have upserted : Referenced middle := upserts.referenced referenced
  apply upserted.of_kept
  · exact marked.keepsRows fun service inMissing => ((newlyMissing service).mp inMissing).1
  · intro snapshot member
    rw [marked.snapshots] at member
    exact .inl ⟨snapshot, member, rfl⟩

/-- Every listed container has a row after the loop. -/
theorem Upserts.serviceAt_listed (upserts : Upserts permits platform host checkedAt rows db after)
    (listed : containerId ∈ rows.map PsRow.id) :
    ∃ owner, after.serviceAt host.id containerId = some owner := by
  induction upserts with
  | nil db => cases listed
  | @cons row rows db middle after service upserted rest inductionHypothesis =>
      rcases List.mem_cons.mp listed with rfl | later
      · obtain ⟨kept, keptMember, -, sameHost, sameContainer⟩ :=
          rest.keepsRows service ((upserted.services service).mpr (.inl rfl))
        refine ⟨kept, Database.serviceAt_eq_some.mpr ⟨keptMember, ?_, ?_⟩⟩
        · exact sameHost.trans upserted.key.1
        · exact sameContainer.trans upserted.key.2
      · exact inductionHypothesis later

/-- And after the sync. -/
theorem Synced.serviceAt_listed (synced : Synced permits platform host rows checkedAt db after)
    (listed : containerId ∈ rows.map PsRow.id) :
    ∃ owner, after.serviceAt host.id containerId = some owner := by
  obtain ⟨first, middle, last, missing, upserts, marked, -, newlyMissing⟩ := synced
  obtain ⟨owner, found⟩ := upserts.serviceAt_listed listed
  obtain ⟨member, ofHost, ofContainer⟩ := Database.serviceAt_eq_some.mp found
  have keeps := marked.keepsRows
    fun service inMissing => ((newlyMissing service).mp inMissing).1
  obtain ⟨kept, keptMember, -, sameHost, sameContainer⟩ := keeps owner member
  exact ⟨kept, Database.serviceAt_eq_some.mpr
    ⟨keptMember, sameHost.trans ofHost, sameContainer.trans ofContainer⟩⟩

/-- A container that is not listed gets no row. -/
theorem Synced.serviceAt_unlisted
    (synced : Synced permits platform host rows checkedAt db after)
    (unlisted : containerId ∉ rows.map PsRow.id)
    (fresh : db.serviceAt host.id containerId = none) :
    after.serviceAt host.id containerId = none := by
  obtain ⟨first, middle, last, missing, upserts, marked, -, newlyMissing⟩ := synced
  have absent : middle.serviceAt host.id containerId = none :=
    (upserts.serviceAt_unlisted unlisted).trans fresh
  rw [Database.serviceAt_eq_none] at absent ⊢
  intro service present
  rcases (marked.services service).mp present with ⟨member, -⟩ | ⟨old, inMissing, rfl⟩
  · exact absent service member
  · exact absent old ((newlyMissing old).mp inMissing).1

/-- The row of a container that had none is new, and so has no snapshots. -/
theorem KeepsRows.unseen (keeps : KeepsRows db after) (referenced : Referenced db)
    (fresh : db.serviceAt host.id containerId = none)
    (found : after.serviceAt host.id containerId = some owner) :
    ∀ snapshot ∈ db.snapshots, snapshot.serviceId ≠ owner.id := by
  intro snapshot member same
  obtain ⟨service, present, ofSnapshot⟩ := referenced snapshot member
  obtain ⟨ownerMember, ofHost, ofContainer⟩ := Database.serviceAt_eq_some.mp found
  have sameKey := keeps.key_of_id present ownerMember (ofSnapshot.trans same)
  exact Database.serviceAt_eq_none.mp fresh service present
    ⟨sameKey.1.trans ofHost, sameKey.2.trans ofContainer⟩

end Sync

/-! ### One name, one container after another -/

/-- A container and the image reference it was created from. -/
structure Deployment where
  containerId : String
  imageTag : String
deriving Repr, DecidableEq

/-- What docker lists after a deployment: its container, under the name and with its image,
and none that were deployed before. -/
structure Deployed (name : String) (earlier : List Deployment) (deployment : Deployment)
    (rows : List PsRow) : Prop where
  listed : deployment.containerId ∈ rows.map PsRow.id
  described : ∀ row ∈ rows, row.id = deployment.containerId →
    row.names = name ∧ row.image = deployment.imageTag
  removed : ∀ other ∈ earlier, other.containerId ∉ rows.map PsRow.id

/-- Deployments under one name, each of a container whose id is new and of another image
than the one before, and each followed by one sync or more. -/
inductive Redeployments (platform : Platform) (host : Host) (name : String) :
    List Deployment → Database → Database → Prop where
  | none (db : Database) : Redeployments platform host name [] db db
  | deploy {earlier : List Deployment} {deployment : Deployment} {rows : List PsRow}
      {db middle after : Database}
      (run : Redeployments platform host name earlier db middle)
      (fresh : middle.serviceAt host.id deployment.containerId = none)
      (changed : ∀ last ∈ earlier.getLast?, last.imageTag ≠ deployment.imageTag)
      (deployed : Deployed name earlier deployment rows)
      (sync : ListingSync platform host rows middle after) :
      Redeployments platform host name (earlier ++ [deployment]) db after
  | again {earlier : List Deployment} {deployment : Deployment} {rows : List PsRow}
      {db middle after : Database}
      (run : Redeployments platform host name (earlier ++ [deployment]) db middle)
      (deployed : Deployed name earlier deployment rows)
      (sync : ListingSync platform host rows middle after) :
      Redeployments platform host name (earlier ++ [deployment]) db after

/-- A snapshot of this image that a rollback of the service may be requested to. -/
def Database.Admits (db : Database) (serviceId : Nat) (imageTag : String) : Prop :=
  ∃ snapshot : DeploymentSnapshot, snapshot.imageTag = imageTag ∧
    (db.perform (.findSnapshotOfService serviceId snapshot.id)).1 = .ok (some snapshot)

/-- The service of the last deployment can be rolled back to the image of every one. -/
def HistoryKept (host : Host) (deployments : List Deployment) (db : Database) : Prop :=
  ∀ current ∈ deployments.getLast?, ∃ service,
    db.serviceAt host.id current.containerId = some service ∧
      ∀ deployment ∈ deployments, db.Admits service.id deployment.imageTag

section Histories

variable {platform : Platform} {host : Host} {name : String} {db middle after : Database}
  {deployment : Deployment} {earlier deployments : List Deployment} {rows : List PsRow}
  {serviceId : Nat} {imageTag privateKey : String}

/-- A service can be rolled back to the images of its history. -/
theorem admits_iff : db.Admits serviceId imageTag ↔
    imageTag ∈ (history db.snapshots serviceId).map Prod.fst := by
  have entries : imageTag ∈ (history db.snapshots serviceId).map Prod.fst ↔
      ∃ snapshot ∈ db.snapshots, snapshot.serviceId = serviceId ∧
        snapshot.imageTag = imageTag := by
    simp [history, Table.mem_iff, and_assoc]
  rw [entries]
  constructor
  · rintro ⟨snapshot, ofImage, found⟩
    obtain ⟨member, matched⟩ := Table.findOne_mem (Except.ok.inj found)
    exact ⟨snapshot, member, by simpa using (Bool.and_eq_true_iff.mp matched).2, ofImage⟩
  · rintro ⟨snapshot, member, rfl, ofImage⟩
    refine ⟨snapshot, ofImage, congrArg Except.ok (Table.findOne_of_unique member ?_ ?_)⟩
    · rw [beq_self_eq_true, beq_self_eq_true]
      rfl
    · intro other otherMember matched
      exact Table.eq_of_id otherMember member (beq_iff_eq.mp (Bool.and_eq_true_iff.mp matched).1)

/-- The service of the deployed container has one snapshot, of the deployed image. -/
structure Single (host : Host) (deployment : Deployment) (db : Database) (service : Service) :
    Prop where
  found : db.serviceAt host.id deployment.containerId = some service
  entries : history db.snapshots service.id = [(deployment.imageTag, none)]
  current : currentImage db.snapshots service.id = some deployment.imageTag

/-- A listing after a deployment reports the deployed image, and nothing else, of its
container. -/
theorem Deployed.reports (deployed : Deployed name earlier deployment rows) :
    ∃ images : List String, reportsOf deployment.containerId rows =
        (deployment.imageTag :: images).map .observed ∧
      ∀ image ∈ images, image = deployment.imageTag := by
  have all : ∀ image ∈ (rows.filter fun row => row.id == deployment.containerId).map
      PsRow.image, image = deployment.imageTag := by
    intro image member
    obtain ⟨row, ofContainer, rfl⟩ := List.mem_map.mp member
    obtain ⟨inRows, same⟩ := List.mem_filter.mp ofContainer
    exact (deployed.described row inRows (beq_iff_eq.mp same)).2
  have reported := reportsOf_ne_nil.mpr deployed.listed
  unfold reportsOf at reported ⊢
  cases images : (rows.filter fun row => row.id == deployment.containerId).map PsRow.image with
  | nil =>
      rw [images] at reported
      exact absurd rfl reported
  | cons first rest =>
      rw [images] at all
      refine ⟨rest, by rw [all first (.head _)], ?_⟩
      intro image member
      exact all image (.tail _ member)

/-- After the first sync the service of a new container has the one snapshot. -/
theorem Single.of_fresh {privateKey : String} {checkedAt : Date}
    (decrypts : platform.decrypt host.sshKeyEncrypted = .ok privateKey)
    (referenced : Referenced db)
    (synced : Synced (Inspecting platform) platform host rows checkedAt db after)
    (fresh : db.serviceAt host.id deployment.containerId = none)
    (deployed : Deployed name earlier deployment rows) :
    ∃ service, Single host deployment after service := by
  obtain ⟨service, found⟩ := synced.serviceAt_listed deployed.listed
  have unseen := synced.keepsRows.unseen referenced fresh found
  obtain ⟨records, -⟩ := synced.follows (fun _ _ holds => holds) decrypts deployed.listed found
  obtain ⟨images, reports, same⟩ := deployed.reports
  have none : currentImage db.snapshots service.id = none := by
    rw [currentImage, Option.map_eq_none_iff, Table.findOne_none]
    intro snapshot member
    simp [unseen snapshot member]
  have empty : history db.snapshots service.id = [] := by
    rw [history, List.map_eq_nil_iff, List.filter_eq_nil_iff]
    intro snapshot member
    simpa using unseen snapshot member
  have recordsHistory := records.history
  have recordsCurrent := records.current
  rw [none, reports, latest_observed_all same] at recordsCurrent
  rw [none, empty, reports, recorded_observed_all same,
    if_neg (Option.some_ne_none _).symm] at recordsHistory
  exact ⟨service, found, recordsHistory, recordsCurrent⟩

/-- Another sync adds nothing. -/
theorem Single.kept {privateKey : String} {checkedAt : Date} {service : Service}
    (decrypts : platform.decrypt host.sshKeyEncrypted = .ok privateKey)
    (single : Single host deployment db service)
    (synced : Synced (Inspecting platform) platform host rows checkedAt db after)
    (deployed : Deployed name earlier deployment rows) :
    ∃ service, Single host deployment after service := by
  obtain ⟨owner, found⟩ := synced.serviceAt_listed deployed.listed
  obtain ⟨records, -⟩ := synced.follows (fun _ _ holds => holds) decrypts deployed.listed found
  obtain ⟨images, reports, same⟩ := deployed.reports
  obtain ⟨member, ofHost, ofContainer⟩ := Database.serviceAt_eq_some.mp single.found
  have sameId : service.id = owner.id := by
    apply synced.keepsRows.id_of_serviceAt member
    rw [ofHost, ofContainer]
    exact found
  have recordsHistory := records.history
  have recordsCurrent := records.current
  rw [← sameId, single.current, reports, latest_observed_all same, sameId] at recordsCurrent
  rw [← sameId, single.current, single.entries, reports, recorded_observed_all same,
    if_pos rfl, List.append_nil, sameId] at recordsHistory
  exact ⟨owner, found, recordsHistory, recordsCurrent⟩

/-- The run lemma: after any number of deployments and syncs the service of the container
that was deployed last has one snapshot, of its image. -/
theorem Redeployments.single {privateKey : String}
    (decrypts : platform.decrypt host.sshKeyEncrypted = .ok privateKey)
    (run : Redeployments platform host name deployments db after)
    (referenced : Referenced db) :
    Referenced after ∧ ∀ current ∈ deployments.getLast?,
      ∃ service, Single host current after service := by
  induction run with
  | none db => exact ⟨referenced, nofun⟩
  | deploy run fresh changed deployed sync inductionHypothesis =>
      obtain ⟨referencedMiddle, -⟩ := inductionHypothesis referenced
      obtain ⟨checkedAt, synced⟩ := sync.synced
      refine ⟨synced.referenced referencedMiddle, ?_⟩
      intro current isLast
      rw [List.getLast?_concat] at isLast
      cases isLast
      exact Single.of_fresh decrypts referencedMiddle synced fresh deployed
  | again run deployed sync inductionHypothesis =>
      obtain ⟨referencedMiddle, single⟩ := inductionHypothesis referenced
      obtain ⟨checkedAt, synced⟩ := sync.synced
      refine ⟨synced.referenced referencedMiddle, ?_⟩
      intro current isLast
      obtain ⟨service, before⟩ := single current isLast
      rw [List.getLast?_concat] at isLast
      cases isLast
      exact before.kept decrypts synced deployed

/-- Of two deployments one after the other the images differ. -/
theorem Redeployments.changes (run : Redeployments platform host name deployments db after)
    (several : 1 < deployments.length) : ∃ current ∈ deployments.getLast?,
      ∃ other ∈ deployments, other.imageTag ≠ current.imageTag := by
  have step : ∀ {earlier : List Deployment} {deployment : Deployment},
      1 < (earlier ++ [deployment]).length →
      (∀ last ∈ earlier.getLast?, last.imageTag ≠ deployment.imageTag) →
      ∃ current ∈ (earlier ++ [deployment]).getLast?, ∃ other ∈ earlier ++ [deployment],
        other.imageTag ≠ current.imageTag := by
    intro earlier deployment several changed
    rcases List.eq_nil_or_concat earlier with rfl | ⟨front, last, rfl⟩
    · simp at several
    · refine ⟨deployment, by simp, last, by simp, changed last (by simp)⟩
  induction run with
  | none db => simp at several
  | deploy run fresh changed deployed sync _ => exact step several changed
  | again run deployed sync inductionHypothesis => exact inductionHypothesis several

/-- So the service of the last one cannot be rolled back to all of them. -/
theorem Redeployments.not_kept {privateKey : String}
    (decrypts : platform.decrypt host.sshKeyEncrypted = .ok privateKey)
    (run : Redeployments platform host name deployments db after)
    (referenced : Referenced db) (several : 1 < deployments.length) :
    ¬ HistoryKept host deployments after := by
  intro kept
  obtain ⟨current, isLast, other, member, differs⟩ := run.changes several
  obtain ⟨service, found, admits⟩ := kept current isLast
  obtain ⟨owner, foundOwner, entries, -⟩ := (run.single decrypts referenced).2 current isLast
  cases found.symm.trans foundOwner
  have admitted := admits_iff.mp (admits other member)
  rw [entries] at admitted
  exact differs (List.mem_singleton.mp admitted)

/-- However often a name is deployed anew, the history that can be rolled back to holds all
deployed images only where there was one deployment. -/
theorem history_survives_iff (platform : Platform) (host : Host) (name privateKey : String)
    (decrypts : platform.decrypt host.sshKeyEncrypted = .ok privateKey)
    (deployments : List Deployment) (db after : Database) (referenced : Referenced db)
    (run : Redeployments platform host name deployments db after) :
    HistoryKept host deployments after ↔ deployments.length ≤ 1 := by
  constructor
  · intro kept
    by_contra several
    exact run.not_kept decrypts referenced (by omega) kept
  · intro few current isLast
    obtain ⟨service, found, entries, -⟩ := (run.single decrypts referenced).2 current isLast
    refine ⟨service, found, ?_⟩
    intro deployment member
    have same : deployment = current := by
      match deployments, few with
      | [], _ => cases member
      | [only], _ =>
          cases isLast
          exact List.mem_singleton.mp member
    rw [admits_iff, entries, same]
    exact .head _

end Histories

/-! ### Two deployments -/

def deployedRow (deployment : Deployment) : PsRow :=
  { id := deployment.containerId
    image := deployment.imageTag
    names := "web"
    ports := ""
    status := "Up 2 minutes" }

/-- The sync after a deployment, on a host that runs nothing else. -/
def deployedSync (deployment : Deployment) (db : Database) : Database :=
  ((sync .transparent registeredHost
    { command := dockerPsCommand
      stdout := psOutput [deployedRow deployment]
      stderr := ""
      exitCode := some 0 }).run inspectedSurroundings.machine db).2

theorem deployedSync_lists {deployment : Deployment} (named : deployment.containerId ≠ "")
    (ofImage : deployment.imageTag ≠ "") (db : Database) :
    ListingSync .transparent registeredHost [deployedRow deployment] db
      (deployedSync deployment db) := by
  refine ⟨_, 0, _, ?_, ?_, Program.run_steps inspectedSurroundings.machine
    (fun op state => inspectedSurroundings_calm state op) _ db⟩
  · exact if_pos rfl
  · apply parseDockerPsOutput_psOutput
    intro row member
    rw [List.mem_singleton.mp member]
    exact ⟨named, ofImage, by simp [deployedRow], by simp [deployedRow]⟩

theorem deployedRow_deployed {deployment : Deployment} {earlier : List Deployment}
    (fresh : ∀ other ∈ earlier, other.containerId ≠ deployment.containerId) :
    Deployed "web" earlier deployment [deployedRow deployment] where
  listed := List.mem_singleton_self _
  described row member _ := by
    rw [List.mem_singleton.mp member]
    exact ⟨rfl, rfl⟩
  removed other member listed := fresh other member (List.mem_singleton.mp listed)

def firstDeployment : Deployment :=
  { containerId := "4f2a"
    imageTag := "nginx:1.25" }

def secondDeployment : Deployment :=
  { containerId := "9c1d"
    imageTag := "nginx:1.26" }

def firstSynced : Database := deployedSync firstDeployment registeredDatabase

theorem first_deployed : Redeployments .transparent registeredHost "web" [firstDeployment]
    registeredDatabase firstSynced :=
  .deploy (.none _) rfl nofun (deployedRow_deployed nofun)
    (deployedSync_lists (by decide) (by decide) _)

theorem second_deployed : Redeployments .transparent registeredHost "web"
    [firstDeployment, secondDeployment] registeredDatabase
    (deployedSync secondDeployment firstSynced) := by
  have lists : ListingSync .transparent registeredHost [deployedRow firstDeployment]
      registeredDatabase firstSynced := deployedSync_lists (by decide) (by decide) _
  obtain ⟨checkedAt, synced⟩ := lists.synced
  apply Redeployments.deploy first_deployed
  · exact synced.serviceAt_unlisted (by decide) rfl
  · decide
  · apply deployedRow_deployed
    decide
  · exact deployedSync_lists (by decide) (by decide) _

theorem registered_referenced : Referenced registeredDatabase := nofun

/-- After the second deployment the service of the container cannot be rolled back to the
first image. -/
theorem second_deployment_loses_history :
    Redeployments .transparent registeredHost "web" [firstDeployment, secondDeployment]
        registeredDatabase (deployedSync secondDeployment firstSynced) ∧
      ¬ HistoryKept registeredHost [firstDeployment, secondDeployment]
        (deployedSync secondDeployment firstSynced) :=
  ⟨second_deployed, second_deployed.not_kept (rfl : _ = Except.ok "key")
    registered_referenced (by decide)⟩

theorem history_survives_once :
    HistoryKept registeredHost [firstDeployment] firstSynced ∧
      ¬ HistoryKept registeredHost [firstDeployment, secondDeployment]
        (deployedSync secondDeployment firstSynced) := by
  constructor
  · exact (history_survives_iff .transparent registeredHost "web" "key" rfl _ _ _
      registered_referenced first_deployed).mpr (by decide)
  · exact fun kept => absurd ((history_survives_iff .transparent registeredHost "web" "key"
      rfl _ _ _ registered_referenced second_deployed).mp kept) (by decide)

end ServersManager
