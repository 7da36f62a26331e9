/-
Module: ServersManager.ServiceImages
Purpose: Which image the containers of a service have, for good: what syncs and rollbacks
  write agrees with it, and what they read says it.
Trusted boundary: human-reviewed rules of docker
Main exports:
  ImageRegistry, AnsweredByDocker, imageKnowledge, Imaged, imageAnswers, imaged_truthful
-/
import ServersManager.HealthCheck
import ServersManager.Rollback
import ServersManager.Library.Knowledge
import ServersManager.Library.Registry

namespace ServersManager

open Library

/-! ### Registered images -/

/-- What rows keep once they are inserted: a service the image of its containers, a
snapshot its service and image, a rollback its service and target. -/
structure ImageRegistry where
  services : Nat → Option String
  snapshots : Nat → Option (Nat × String)
  events : Nat → Option (Nat × Nat)

namespace ImageRegistry

structure Le (known registry : ImageRegistry) : Prop where
  services : Extends known.services registry.services
  snapshots : Extends known.snapshots registry.snapshots
  events : Extends known.events registry.events

instance : Preorder ImageRegistry where
  le := Le
  le_refl _ := ⟨.refl _, .refl _, .refl _⟩
  le_trans _ _ _ before after :=
    ⟨before.services.trans after.services, before.snapshots.trans after.snapshots,
      before.events.trans after.events⟩

/-- The service's container has the image of the service. -/
def KnowsService (image : String → String) (registry : ImageRegistry) (service : Service) :
    Prop :=
  registry.services service.id = some (image service.containerId)

/-- The snapshot is of the image of its service. -/
structure KnowsSnapshot (registry : ImageRegistry) (snapshot : DeploymentSnapshot) : Prop where
  own : registry.snapshots snapshot.id = some (snapshot.serviceId, snapshot.imageTag)
  ofService : registry.services snapshot.serviceId = some snapshot.imageTag

/-- The snapshot belongs to this service. -/
def Targets (registry : ImageRegistry) (serviceId snapshotId : Nat) : Prop :=
  ∃ imageTag, registry.snapshots snapshotId = some (serviceId, imageTag)

/-- The rollback is to a snapshot of its service. -/
structure KnowsEvent (registry : ImageRegistry) (event : RollbackEvent) : Prop where
  own : registry.events event.id = some (event.serviceId, event.toSnapshotId)
  targets : registry.Targets event.serviceId event.toSnapshotId

variable {image : String → String} {known registry : ImageRegistry}

/-- Knowledge of a service lasts, since the registry only grows. -/
theorem KnowsService.mono {service : Service} (knows : known.KnowsService image service)
    (le : known ≤ registry) : registry.KnowsService image service :=
  le.services _ _ knows

/-- So does knowledge of what a rollback leads to. -/
theorem Targets.mono {serviceId snapshotId : Nat} (targets : known.Targets serviceId snapshotId)
    (le : known ≤ registry) : registry.Targets serviceId snapshotId := by
  obtain ⟨imageTag, recorded⟩ := targets
  exact ⟨imageTag, le.snapshots _ _ recorded⟩

/-- And of what an event is about. -/
theorem KnowsEvent.mono {event : RollbackEvent} (knows : known.KnowsEvent event)
    (le : known ≤ registry) : registry.KnowsEvent event :=
  ⟨le.events _ _ knows.own, knows.targets.mono le⟩

end ImageRegistry

/-! ### Docker -/

/-- What docker answers a command of one job, which starts at most one container under
some name and of some image.  A container's image never changes. -/
structure AnsweredByDocker (platform : Platform) (image : String → String)
    (started : Option (String × String)) (result : SshCommandResult) : Prop where
  listed : result.command = dockerPsAllJsonCommand → ∀ listing,
    parseDockerPsOutput result.stdout = .ok listing → ∀ container ∈ listing.containers,
      platform.columnText container.image = image (platform.columnText container.id)
  /-- A `docker run` that exits with 0 has started the container of the job. -/
  ran : ∀ config imageTag, result.command = buildDockerRunCommand config imageTag →
    result.exitCode = some 0 → started = some (config.containerName, imageTag)
  /-- The container of the job is the one that is then listed under its name. -/
  recreated : ∀ containerName imageTag, started = some (containerName, imageTag) →
    result.command = dockerPsAllJsonCommand → ∀ listing container,
      parseDockerPsOutput result.stdout = .ok listing →
        findRecreated containerName listing = some container →
          platform.columnText container.image = imageTag

/-- The result of a command as `execCommands` puts it together. -/
def ExecReply.result (command : String) (reply : ExecReply) : SshCommandResult :=
  { command := command
    stdout := reply.stdout
    stderr := reply.stderr
    exitCode := reply.code }

/-- A command that is answered at all is answered by docker. -/
def DockerAnswers (platform : Platform) (image : String → String)
    (started : Option (String × String)) : (call : Call) → Except JsError call.Reply → Prop
  | .execCommand _ command, reply => ∀ answer, reply = .ok answer →
      AnsweredByDocker platform image started (ExecReply.result command answer)
  | _, _ => True

/-! ### What is known, and what may be written -/

section Knowing

variable (platform : Platform) (image : String → String) (started : Option (String × String))

/-- What may be written by those who know the image of its service. -/
def ImageRegistry.Permits (known : ImageRegistry) : Call → Prop
  | .query (.saveService service) => known.KnowsService image service
  | .query (.createSnapshot snapshot) =>
      known.services snapshot.serviceId = some snapshot.imageTag
  | .query (.insertEvent event) => known.Targets event.serviceId event.toSnapshotId
  | .query (.saveEvent event) => known.KnowsEvent event
  | _ => True

/-- What an answer says of images. -/
def ImageRegistry.Learns (registry : ImageRegistry) :
    (call : Call) → Except JsError call.Reply → Prop
  | .query (.findService id), reply => ∀ service, reply = .ok (some service) →
      registry.KnowsService image service ∧ service.id = id
  | .query (.findServiceForOrg _ id), reply => ∀ service, reply = .ok (some service) →
      registry.KnowsService image service ∧ service.id = id
  | .query (.findServiceByContainer _ containerId), reply =>
      ∀ service, reply = .ok (some service) →
        registry.KnowsService image service ∧ service.containerId = containerId
  | .query (.findServicesOfHost _), reply => ∀ services, reply = .ok services →
      ∀ service ∈ services, registry.KnowsService image service
  | .query (.insertService row), reply => ∀ service, reply = .ok service →
      registry.KnowsService image service ∧ service.containerId = row.containerId
  | .query (.saveService row), reply => ∀ service, reply = .ok service → service = row
  | .query (.findSnapshot id), reply => ∀ snapshot, reply = .ok (some snapshot) →
      registry.KnowsSnapshot snapshot ∧ snapshot.id = id
  | .query (.findSnapshotOfService serviceId id), reply =>
      ∀ snapshot, reply = .ok (some snapshot) →
        registry.KnowsSnapshot snapshot ∧ snapshot.id = id ∧ snapshot.serviceId = serviceId
  | .query (.findEvent _), reply => ∀ event, reply = .ok (some event) →
      registry.KnowsEvent event
  | .execCommand options command, reply =>
      DockerAnswers platform image started (.execCommand options command) reply
  | _, _ => True

def imageKnowledge : Knowledge Calls JsError ImageRegistry where
  Permits known (call : Call) := known.Permits image call
  Learns registry (call : Call) reply := registry.Learns platform image started call reply
  mono {known more op} le permits := by
    cases (op : Call) with
    | query q =>
        cases q with
        | saveService service => exact ImageRegistry.KnowsService.mono permits le
        | createSnapshot snapshot => exact le.services _ _ permits
        | insertEvent event => exact ImageRegistry.Targets.mono permits le
        | saveEvent event => exact ImageRegistry.KnowsEvent.mono permits le
        | _ => trivial
    | _ => trivial

end Knowing

/-! ### What is true of the rows -/

/-- The rows of the database are those that the registry knows of, and every snapshot ever
taken has been of the image of its service. -/
structure Imaged (image : String → String) (db : Database) (registry : ImageRegistry) :
    Prop where
  services : Library.Records (fun service : Service => image service.containerId) db.services
    registry.services
  snapshots : Library.Records (fun snapshot : DeploymentSnapshot =>
    (snapshot.serviceId, snapshot.imageTag)) db.snapshots registry.snapshots
  events : Library.Records (fun event : RollbackEvent =>
    (event.serviceId, event.toSnapshotId)) db.events registry.events
  taken : ∀ id serviceId imageTag, registry.snapshots id = some (serviceId, imageTag) →
    registry.services serviceId = some imageTag
  targeted : ∀ id serviceId snapshotId, registry.events id = some (serviceId, snapshotId) →
    registry.Targets serviceId snapshotId

/-- Every snapshot is of the image of its service's container, and every rollback to a
snapshot of its service. -/
structure ImagesAgree (image : String → String) (db : Database) : Prop where
  snapshots : ∀ snapshot ∈ db.snapshots, ∃ service ∈ db.services,
    service.id = snapshot.serviceId ∧ image service.containerId = snapshot.imageTag
  events : ∀ event ∈ db.events, ∃ target ∈ db.snapshots,
    target.id = event.toSnapshotId ∧ target.serviceId = event.serviceId

/-- What the rows say now. -/
def Database.images (image : String → String) (db : Database) : ImageRegistry where
  services id := (db.services.byId id).map fun service => image service.containerId
  snapshots id := (db.snapshots.byId id).map fun snapshot =>
    (snapshot.serviceId, snapshot.imageTag)
  events id := (db.events.byId id).map fun event => (event.serviceId, event.toSnapshotId)

/-- Where the rows agree, the registry of the database describes them. -/
theorem ImagesAgree.imaged {image : String → String} {db : Database}
    (agree : ImagesAgree image db) : Imaged image db (db.images image) where
  services := .ofTable _ _
  snapshots := .ofTable _ _
  events := .ofTable _ _
  taken := by
    intro id serviceId imageTag recorded
    obtain ⟨snapshot, found, same⟩ := Option.map_eq_some_iff.mp recorded
    obtain ⟨rfl, rfl⟩ := Prod.mk.inj same
    obtain ⟨service, present, ofSnapshot, sameImage⟩ :=
      agree.snapshots snapshot (Table.byId_eq_some.mp found).1
    apply Option.map_eq_some_iff.mpr
    exact ⟨service, Table.byId_eq_some.mpr ⟨present, ofSnapshot⟩, sameImage⟩
  targeted := by
    intro id serviceId snapshotId recorded
    obtain ⟨event, found, same⟩ := Option.map_eq_some_iff.mp recorded
    obtain ⟨rfl, rfl⟩ := Prod.mk.inj same
    obtain ⟨target, member, isTarget, ofService⟩ :=
      agree.events event (Table.byId_eq_some.mp found).1
    refine ⟨target.imageTag, Option.map_eq_some_iff.mpr ⟨target, ?_, ?_⟩⟩
    · exact Table.byId_eq_some.mpr ⟨member, isTarget⟩
    · rw [ofService]

/-- What is true after an answer, and what has been learned from it. -/
def LearnedBy (platform : Platform) (image : String → String)
    (started : Option (String × String)) (registry : ImageRegistry) (call : Call)
    (reply : Except JsError call.Reply) (after : Database) : Prop :=
  ∃ more, registry ≤ more ∧ Imaged image after more ∧
    more.Learns platform image started call reply

namespace Imaged

variable {image : String → String} {db after : Database} {registry : ImageRegistry}

theorem frame (imaged : Imaged image db registry) (services : after.services = db.services)
    (snapshots : after.snapshots = db.snapshots) (events : after.events = db.events) :
    Imaged image after registry := by
  constructor
  · rw [services]
    exact imaged.services
  · rw [snapshots]
    exact imaged.snapshots
  · rw [events]
    exact imaged.events
  · exact imaged.taken
  · exact imaged.targeted

/-- A row that was found is known. -/
theorem knowsService (imaged : Imaged image db registry) {service : Service}
    (member : service ∈ db.services) :
    registry.services service.id = some (image service.containerId) :=
  imaged.services.present service member

/-- So is a snapshot. -/
theorem knowsSnapshot (imaged : Imaged image db registry) {snapshot : DeploymentSnapshot}
    (member : snapshot ∈ db.snapshots) : registry.KnowsSnapshot snapshot := by
  have own := imaged.snapshots.present snapshot member
  exact ⟨own, imaged.taken _ _ _ own⟩

/-- So is an event. -/
theorem knowsEvent (imaged : Imaged image db registry) {event : RollbackEvent}
    (member : event ∈ db.events) : registry.KnowsEvent event := by
  have own := imaged.events.present event member
  exact ⟨own, imaged.targeted _ _ _ own⟩

/-- Where nothing new has been recorded, it remains to say what has been learned. -/
theorem learned {platform : Platform} {started : Option (String × String)} {call : Call}
    {reply : Except JsError call.Reply} (imaged : Imaged image after registry)
    (learns : registry.Learns platform image started call reply) :
    LearnedBy platform image started registry call reply after :=
  ⟨registry, le_refl registry, imaged, learns⟩

section Writes

variable {faults : JsError → Prop} {platform : Platform} {started : Option (String × String)}

/-- A query that failed says nothing. -/
theorem failed (imaged : Imaged image db registry) (q : Query) (error : JsError) :
    LearnedBy platform image started registry (.query q) (.error error) db := by
  apply imaged.learned
  cases q <;> first | trivial | exact fun _ absurd => nomatch absurd

/-- A new service enters the registry with the image of its container. -/
theorem insertService (imaged : Imaged image db registry) {row : Service}
    {reply : Except JsError Service}
    (answered : Answered faults db (.query (.insertService row)) reply after) :
    LearnedBy platform image started registry (.query (.insertService row)) reply after := by
  rcases answered.written rfl with
    ⟨error, rfl, rfl⟩ | ⟨⟨service, services⟩, inserted, rfl, rfl⟩
  · exact imaged.failed _ error
  · have grows := extends_update (imaged.services.insert_fresh rfl inserted)
      (image service.containerId)
    have made := (Table.insert_eq_some.mp inserted).1
    refine ⟨{ registry with
      services := Function.update registry.services service.id
        (some (image service.containerId)) }, ⟨grows, .refl _, .refl _⟩, ?_, ?_⟩
    · exact
        { services := imaged.services.insert rfl inserted
          snapshots := imaged.snapshots
          events := imaged.events
          taken := fun id serviceId imageTag recorded =>
            grows _ _ (imaged.taken id serviceId imageTag recorded)
          targeted := imaged.targeted }
    · rintro _ ⟨⟩
      refine ⟨Function.update_self _ _ _, ?_⟩
      rw [made]

/-- A service is saved with the image that it is known by. -/
theorem saveService (imaged : Imaged image db registry) {row : Service}
    (knows : registry.KnowsService image row) {reply : Except JsError Service}
    (answered : Answered faults db (.query (.saveService row)) reply after) :
    LearnedBy platform image started registry (.query (.saveService row)) reply after := by
  rcases answered.written rfl with ⟨error, rfl, rfl⟩ | ⟨services, saved, rfl, rfl⟩
  · exact imaged.failed _ error
  · refine ⟨registry, le_refl registry,
      { imaged with services := imaged.services.save knows saved }, ?_⟩
    rintro _ ⟨⟩
    rfl

/-- A snapshot is of the image of its service. -/
theorem createSnapshot (imaged : Imaged image db registry) {row : DeploymentSnapshot}
    (ofService : registry.services row.serviceId = some row.imageTag)
    {reply : Except JsError DeploymentSnapshot}
    (answered : Answered faults db (.query (.createSnapshot row)) reply after) :
    LearnedBy platform image started registry (.query (.createSnapshot row)) reply after := by
  rcases answered.written rfl with
    ⟨error, rfl, rfl⟩ | ⟨⟨snapshot, snapshots⟩, inserted, rfl, rfl⟩
  · exact imaged.failed _ error
  · have retired : Library.Records (fun snapshot : DeploymentSnapshot =>
        (snapshot.serviceId, snapshot.imageTag))
        (retireSnapshots db.snapshots row.serviceId) registry.snapshots := by
      apply imaged.snapshots.mapRows
      intro other
      unfold DeploymentSnapshot.retire
      split <;> rfl
    have grows := extends_update (retired.insert_fresh rfl inserted)
      (snapshot.serviceId, snapshot.imageTag)
    have made := (Table.insert_eq_some.mp inserted).1
    refine ⟨{ registry with
      snapshots := Function.update registry.snapshots snapshot.id
        (some (snapshot.serviceId, snapshot.imageTag)) }, ⟨.refl _, grows, .refl _⟩, ?_,
      trivial⟩
    refine
      { services := imaged.services
        snapshots := retired.insert rfl inserted
        events := imaged.events
        taken := ?_
        targeted := ?_ }
    · intro id serviceId imageTag recorded
      change Function.update registry.snapshots snapshot.id _ id = _ at recorded
      rw [Function.update_apply] at recorded
      split at recorded
      · cases recorded
        rw [made]
        exact ofService
      · exact imaged.taken id serviceId imageTag recorded
    · intro id serviceId snapshotId recorded
      obtain ⟨imageTag, target⟩ := imaged.targeted id serviceId snapshotId recorded
      exact ⟨imageTag, grows _ _ target⟩

/-- An event leads to a snapshot of its own service. -/
theorem insertEvent (imaged : Imaged image db registry) {row : RollbackEvent}
    (targets : registry.Targets row.serviceId row.toSnapshotId)
    {reply : Except JsError RollbackEvent}
    (answered : Answered faults db (.query (.insertEvent row)) reply after) :
    LearnedBy platform image started registry (.query (.insertEvent row)) reply after := by
  rcases answered.written rfl with
    ⟨error, rfl, rfl⟩ | ⟨⟨event, events⟩, inserted, rfl, rfl⟩
  · exact imaged.failed _ error
  · have grows := extends_update (imaged.events.insert_fresh rfl inserted)
      (event.serviceId, event.toSnapshotId)
    have made := (Table.insert_eq_some.mp inserted).1
    refine ⟨{ registry with
      events := Function.update registry.events event.id
        (some (event.serviceId, event.toSnapshotId)) }, ⟨.refl _, .refl _, grows⟩, ?_,
      trivial⟩
    refine
      { services := imaged.services
        snapshots := imaged.snapshots
        events := imaged.events.insert rfl inserted
        taken := imaged.taken
        targeted := ?_ }
    intro id serviceId snapshotId recorded
    change Function.update registry.events event.id _ id = _ at recorded
    rw [Function.update_apply] at recorded
    split at recorded
    · cases recorded
      rw [made]
      exact targets
    · exact imaged.targeted id serviceId snapshotId recorded

/-- Saving an event changes nothing that is known of it. -/
theorem saveEvent (imaged : Imaged image db registry) {row : RollbackEvent}
    (knows : registry.KnowsEvent row) {reply : Except JsError RollbackEvent}
    (answered : Answered faults db (.query (.saveEvent row)) reply after) :
    LearnedBy platform image started registry (.query (.saveEvent row)) reply after := by
  rcases answered.written rfl with ⟨error, rfl, rfl⟩ | ⟨events, saved, rfl, rfl⟩
  · exact imaged.failed _ error
  · exact ⟨registry, le_refl registry,
      { imaged with events := imaged.events.save knows.own saved }, trivial⟩

/-- Removing a host only takes rows away. -/
theorem removeHost (imaged : Imaged image db registry) (hostId : Nat) :
    Imaged image (db.removeHost hostId) registry where
  services := imaged.services.removeRows _
  snapshots := imaged.snapshots.removeRows _
  events := imaged.events.removeRows _
  taken := imaged.taken
  targeted := imaged.targeted

/-- What a query that only reads these tables says. -/
theorem reads (imaged : Imaged image db registry) {q : Query}
    (services : q.writesServices = false) (snapshots : q.writesSnapshots = false)
    (events : q.writesEvents = false) :
    registry.Learns platform image started (.query q) (db.perform q).1 := by
  cases q with
  | findService id =>
      intro service found
      obtain ⟨member, same⟩ := Table.byId_eq_some.mp (Except.ok.inj found)
      exact ⟨imaged.knowsService member, same⟩
  | findServiceForOrg orgId id =>
      intro service found
      obtain ⟨member, matched⟩ := Table.findOne_mem (Except.ok.inj found)
      simp only [Bool.and_eq_true, beq_iff_eq] at matched
      exact ⟨imaged.knowsService member, matched.1⟩
  | findServiceByContainer hostId containerId =>
      intro service found
      obtain ⟨member, matched⟩ := Table.findOne_mem (Except.ok.inj found)
      simp only [Bool.and_eq_true, beq_iff_eq] at matched
      exact ⟨imaged.knowsService member, matched.2⟩
  | findServicesOfHost hostId =>
      rintro _ ⟨⟩ service member
      exact imaged.knowsService (Table.mem_find.mp member).1
  | findSnapshot id =>
      intro snapshot found
      obtain ⟨member, same⟩ := Table.byId_eq_some.mp (Except.ok.inj found)
      exact ⟨imaged.knowsSnapshot member, same⟩
  | findSnapshotOfService serviceId id =>
      intro snapshot found
      obtain ⟨member, matched⟩ := Table.findOne_mem (Except.ok.inj found)
      simp only [Bool.and_eq_true, beq_iff_eq] at matched
      exact ⟨imaged.knowsSnapshot member, matched.1, matched.2⟩
  | findEvent id =>
      intro event found
      exact imaged.knowsEvent (Table.byId_eq_some.mp (Except.ok.inj found)).1
  | insertService service => cases services
  | saveService service => cases services
  | _ => trivial

/-- What writes none of these rows teaches nothing. -/
theorem performed (imaged : Imaged image db registry) {q : Query}
    (services : q.writesServices = false) (snapshots : q.writesSnapshots = false)
    (events : q.writesEvents = false) :
    LearnedBy platform image started registry (.query q) (db.perform q).1
      (db.perform q).2 := by
  apply learned
  · exact imaged.frame (Database.perform_services services)
      (Database.perform_snapshots snapshots) (Database.perform_events events)
  · exact imaged.reads services snapshots events

/-- Whatever a permitted query is answered, the rows keep their images. -/
theorem answered (imaged : Imaged image db registry) {q : Query}
    (permits : registry.Permits image (.query q)) {reply : Except JsError q.Reply}
    (answered : Answered faults db (.query q) reply after) :
    LearnedBy platform image started registry (.query q) reply after := by
  cases q with
  | insertService row => exact imaged.insertService answered
  | saveService row => exact imaged.saveService permits answered
  | createSnapshot row => exact imaged.createSnapshot permits answered
  | insertEvent row => exact imaged.insertEvent permits answered
  | saveEvent row => exact imaged.saveEvent permits answered
  | removeHost host =>
      rcases answered with ⟨error, -, rfl, rfl⟩ | ⟨rfl, rfl⟩
      · exact imaged.failed _ error
      · exact (imaged.removeHost host.id).learned trivial
  | _ =>
      rcases answered with ⟨error, -, rfl, rfl⟩ | ⟨rfl, rfl⟩
      · exact imaged.failed _ error
      · exact imaged.performed rfl rfl rfl

end Writes

end Imaged

/-! ### The surroundings -/

/-- Any call may fail and take any time, and docker answers every command as it does. -/
def imageAnswers {ι : Type} (platform : Platform) (image : String → String)
    (started : ι → Option (String × String)) (thread : ι) :
    Semantics Calls JsError Database :=
  fun (call : Call) before reply after =>
    (∃ db clock, Answered (fun _ => True) before call reply db ∧
      after = { db with clock := clock }) ∧
      DockerAnswers platform image (started thread) call reply

/-- The invariant: every answer of the store keeps the registry truthful. -/
theorem imaged_truthful {ι : Type} (platform : Platform) (image : String → String)
    (started : ι → Option (String × String)) :
    Truthful (fun thread => imageKnowledge platform image (started thread))
      (imageAnswers platform image started) (Imaged image) := by
  rintro thread call before reply after registry imaged permits
    ⟨⟨db, clock, answered, rfl⟩, docker⟩
  cases call with
  | query q =>
      obtain ⟨more, grows, imagedAfter, learns⟩ := imaged.answered permits answered
      exact ⟨more, grows, imagedAfter.frame rfl rfl rfl, learns⟩
  | execCommand options command =>
      obtain ⟨-, rfl⟩ := answered
      exact ⟨registry, le_refl registry, imaged.frame rfl rfl rfl, docker⟩
  | _ =>
      obtain ⟨-, rfl⟩ := answered
      exact ⟨registry, le_refl registry, imaged.frame rfl rfl rfl, trivial⟩

end ServersManager
