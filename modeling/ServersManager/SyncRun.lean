/-
Module: ServersManager.SyncRun
Purpose: What the steps of a service sync do to the tables while no repository call
  fails.
Trusted boundary: none
Main exports:
  Calm, Steady, Inspecting, SyncFrame, Captured, Upserted, Marked,
  evaluateTransition_ensures, upsertService_ensures, markUnknown_ensures
-/
import ServersManager.DockerListing
import ServersManager.ServicesSync

namespace ServersManager

open Library

/-! ### Surroundings in which no repository call fails -/

/-- The clock has moved. -/
def Database.setClock (db : Database) (time : Date) : Database :=
  { db with clock := time }

/-- A query is answered from the tables at some time; any other call is answered as
permitted, and leaves the tables alone. -/
def CalmAnswer (permits : (call : Call) → Except JsError call.Reply → Prop)
    (db : Database) : (call : Call) → Except JsError call.Reply → Database → Prop
  | .query q, reply, after =>
      ∃ time, ((db.setClock time).perform q) = (reply, after)
  | call, reply, after => permits call reply ∧ ∃ time, after = db.setClock time

def Calm (permits : (call : Call) → Except JsError call.Reply → Prop) :
    Semantics Calls JsError Database :=
  fun (call : Call) db reply after => CalmAnswer permits db call reply after

/-- The clock and the random source answer; nothing is said of the rest. -/
def Steady : (call : Call) → Except JsError call.Reply → Prop
  | .now, reply => ∃ time, reply = .ok time
  | .randomBytes _, reply => ∃ bytes, reply = .ok bytes
  | _, _ => True

/-- Moreover SSH sessions open, and what a command prints parses as the output of
`docker inspect`. -/
def Inspecting (platform : Platform) : (call : Call) → Except JsError call.Reply → Prop
  | .connect _, reply => ∃ connected, reply = .ok connected
  | .execCommand _ _, reply => ∃ result config, reply = .ok result ∧
      result.code = some 0 ∧
        parseDockerInspectOutput platform.numberText result.stdout = .ok (some config)
  | call, reply => Steady call reply

/-- Where inspecting succeeds nothing else fails either. -/
theorem Inspecting.steady {platform : Platform} {call : Call}
    {reply : Except JsError call.Reply} (inspecting : Inspecting platform call reply) :
    Steady call reply := by
  cases call with
  | connect options => trivial
  | execCommand options command => trivial
  | _ => exact inspecting

section Rules

variable {permits : (call : Call) → Except JsError call.Reply → Prop} {α : Type}
  {post : Except JsError α → Database → Prop} {db : Database}

/-- A query that never fails, and what comes after it. -/
theorem ensures_query_bind {q : Query} {rest : q.Reply → Job α}
    (returns : ∀ time reply after, (db.setClock time).perform q = (.ok reply, after) →
      (rest reply).Ensures (Calm permits) post after)
    (succeeds : ∀ time, ∃ reply, ((db.setClock time).perform q).1 = .ok reply) :
    ((query q).bind rest).Ensures (Calm permits) post db := by
  apply Program.ensures_perform_bind
  · rintro reply after ⟨time, performed⟩
    exact returns time reply after performed
  · rintro error after ⟨time, performed⟩
    obtain ⟨reply, replied⟩ := succeeds time
    rw [performed] at replied
    cases replied

/-- The clock is read, and nothing else has changed. -/
theorem ensures_now_bind {rest : Date → Job α}
    (steady : ∀ call reply, permits call reply → Steady call reply)
    (returns : ∀ checkedAt time, (rest checkedAt).Ensures (Calm permits) post
      (db.setClock time)) :
    (now.bind rest).Ensures (Calm permits) post db := by
  apply Program.ensures_perform_bind
  · rintro checkedAt after ⟨-, time, rfl⟩
    exact returns checkedAt time
  · rintro error after ⟨permitted, -⟩
    obtain ⟨time, replied⟩ := steady .now _ permitted
    cases replied

end Rules

/-! ### What a sync leaves alone -/

/-- The tables that no step of a sync writes. -/
structure SyncFrame (db after : Database) : Prop where
  hosts : after.hosts = db.hosts
  domains : after.domains = db.domains
  certificates : after.certificates = db.certificates
  events : after.events = db.events
  alertRules : after.alertRules = db.alertRules
  insightStates : after.insightStates = db.insightStates

theorem SyncFrame.refl (db : Database) : SyncFrame db db :=
  ⟨rfl, rfl, rfl, rfl, rfl, rfl⟩

/-- What two stretches of a sync leave alone is left alone by both. -/
theorem SyncFrame.trans {first second third : Database} (before : SyncFrame first second)
    (after : SyncFrame second third) : SyncFrame first third where
  hosts := after.hosts.trans before.hosts
  domains := after.domains.trans before.domains
  certificates := after.certificates.trans before.certificates
  events := after.events.trans before.events
  alertRules := after.alertRules.trans before.alertRules
  insightStates := after.insightStates.trans before.insightStates

theorem SyncFrame.setClock {db after : Database} (frame : SyncFrame db after)
    (time : Date) : SyncFrame db (after.setClock time) :=
  frame.trans ⟨rfl, rfl, rfl, rfl, rfl, rfl⟩

/-- Evaluating alerts writes the alert log alone. -/
structure AlertFrame (db after : Database) : Prop extends SyncFrame db after where
  services : after.services = db.services
  snapshots : after.snapshots = db.snapshots
  healthCheckLogs : after.healthCheckLogs = db.healthCheckLogs

theorem AlertFrame.refl (db : Database) : AlertFrame db db :=
  ⟨SyncFrame.refl db, rfl, rfl, rfl⟩

theorem AlertFrame.setClock {db after : Database} (frame : AlertFrame db after)
    (time : Date) : AlertFrame db (after.setClock time) :=
  ⟨frame.toSyncFrame.setClock time, frame.services, frame.snapshots,
    frame.healthCheckLogs⟩

section Alerts

variable {permits : (call : Call) → Except JsError call.Reply → Prop}

/-- An alert changes nothing but the logs of alerts. -/
theorem AlertFrame.call {db before after : Database} {call : Call}
    {reply : Except JsError call.Reply} (frame : AlertFrame db before)
    (ofAlerts : call.OfAlerts) (answered : CalmAnswer permits before call reply after) :
    AlertFrame db after := by
  cases call with
  | query q =>
      obtain ⟨time, performed⟩ := answered
      have written : after = ((before.setClock time).perform q).2 := by rw [performed]
      rw [written]
      cases q with
      | findAlertRules orgId entityType condition => exact frame.setClock time
      | findRecentSend alertRuleId entityId cutoff => exact frame.setClock time
      | saveAlertLog log =>
          apply Database.answer_keeps (AlertFrame db) (frame.setClock time)
          rintro ⟨row, logs⟩ -
          exact ⟨frame.toSyncFrame.trans ⟨rfl, rfl, rfl, rfl, rfl, rfl⟩, frame.services,
            frame.snapshots, frame.healthCheckLogs⟩
      | _ => cases ofAlerts
  | _ =>
      obtain ⟨-, time, rfl⟩ := answered
      exact frame.setClock time

/-- A transition to the status before it is none. -/
theorem evaluateTransition_same {platform : Platform} {input : EvaluateTransitionInput}
    (same : input.previousStatus = input.newStatus) :
    evaluateTransition platform input = .pure () := by
  unfold evaluateTransition
  rw [if_pos same]
  rfl

/-- An evaluation returns, changes nothing but the logs of alerts, and not even these where
the status stays. -/
theorem evaluateTransition_ensures (platform : Platform)
    (input : EvaluateTransitionInput) (db : Database) :
    (evaluateTransition platform input).Ensures (Calm permits)
      (fun outcome after => ∃ value, outcome = .ok value ∧ AlertFrame db after ∧
        (input.previousStatus = input.newStatus → after.alertLogs = db.alertLogs))
      db := by
  by_cases same : input.previousStatus = input.newStatus
  · rw [evaluateTransition_same same]
    exact ⟨(), rfl, AlertFrame.refl db, fun _ => rfl⟩
  · apply Program.Follows.mono (evaluateTransition_keeps platform input (AlertFrame db)
      (fun state call reply after frame ofAlerts answered => frame.call ofAlerts answered)
      (AlertFrame.refl db))
    rintro outcome after ⟨value, returned, frame⟩
    exact ⟨value, returned, frame, fun holds => absurd holds same⟩

end Alerts

/-! ### Capturing a snapshot -/

/-- Capturing writes the snapshots alone. -/
structure CaptureFrame (db after : Database) : Prop extends SyncFrame db after where
  services : after.services = db.services
  healthCheckLogs : after.healthCheckLogs = db.healthCheckLogs
  alertLogs : after.alertLogs = db.alertLogs

theorem CaptureFrame.clock (db : Database) (time : Date) :
    CaptureFrame db (db.setClock time) :=
  ⟨(SyncFrame.refl db).setClock time, rfl, rfl, rfl⟩

/-- The current snapshot of a service is of this image. -/
def CurrentImage (snapshots : Table DeploymentSnapshot) (serviceId : Nat)
    (imageTag : String) : Prop :=
  ∃ snapshot ∈ snapshots, snapshot.serviceId = serviceId ∧
    snapshot.isCurrent = true ∧ snapshot.imageTag = imageTag

/-- One snapshot of a service has been added, and is the current one. -/
def Captured (before after : Table DeploymentSnapshot) (serviceId : Nat)
    (imageTag : String) (deployedById : Option Nat) : Prop :=
  ∃ created : DeploymentSnapshot,
    created.serviceId = serviceId ∧ created.imageTag = imageTag ∧
      created.deployedById = deployedById ∧ created.isCurrent = true ∧
      after.rows = before.rows.map (DeploymentSnapshot.retire serviceId) ++ [created]

/-- The captured snapshot is the current one of its service. -/
theorem Captured.current {before after : Table DeploymentSnapshot} {serviceId : Nat}
    {imageTag : String} {deployedById : Option Nat}
    (captured : Captured before after serviceId imageTag deployedById) :
    CurrentImage after serviceId imageTag := by
  obtain ⟨created, ofService, ofImage, -, current, rows⟩ := captured
  refine ⟨created, ?_, ofService, current, ofImage⟩
  rw [Table.mem_iff, rows]
  exact List.mem_append_right _ (List.mem_singleton_self _)

/-- Other services keep their snapshots. -/
theorem Captured.other {before after : Table DeploymentSnapshot} {serviceId : Nat}
    {imageTag : String} {deployedById : Option Nat}
    (captured : Captured before after serviceId imageTag deployedById)
    {snapshot : DeploymentSnapshot} (differs : snapshot.serviceId ≠ serviceId) :
    snapshot ∈ after ↔ snapshot ∈ before := by
  obtain ⟨created, ofService, -, -, -, rows⟩ := captured
  rw [Table.mem_iff, rows, List.mem_append, List.mem_singleton, List.mem_map]
  constructor
  · rintro (⟨old, member, rfl⟩ | rfl)
    · rw [DeploymentSnapshot.retire_serviceId] at differs
      rw [DeploymentSnapshot.retire_other differs]
      exact member
    · exact absurd ofService differs
  · intro member
    exact .inl ⟨snapshot, member, DeploymentSnapshot.retire_other differs⟩

/-- What creating a snapshot does to the tables. -/
theorem Database.perform_createSnapshot_eq {db after : Database}
    {snapshot created : DeploymentSnapshot}
    (performed : db.perform (.createSnapshot snapshot) = (.ok created, after)) :
    Captured db.snapshots after.snapshots snapshot.serviceId snapshot.imageTag
        snapshot.deployedById ∧
      after = { db with snapshots := after.snapshots } := by
  obtain ⟨⟨row, snapshots⟩, inserts⟩ := exists_insert_snapshot db.snapshots snapshot
  simp only [Database.perform, inserts, Option.map_some, Database.answer, Prod.mk.injEq,
    Except.ok.injEq] at performed
  obtain ⟨rfl, rfl⟩ := performed
  obtain ⟨same, -⟩ := Table.insert_eq_some.mp inserts
  refine ⟨⟨row, by rw [same], by rw [same], by rw [same], by rw [same], ?_⟩, rfl⟩
  exact Table.insert_rows rfl inserts

theorem Database.succeeds_createSnapshot (db : Database) (snapshot : DeploymentSnapshot) :
    ∃ reply, (db.perform (.createSnapshot snapshot)).1 = .ok reply :=
  db.perform_createSnapshot snapshot

/-- What an inspected container leaves behind: nothing, or its snapshot; always its
snapshot where the inspection succeeds. -/
structure Inspected (permits : (call : Call) → Except JsError call.Reply → Prop)
    (platform : Platform) (service : Service) (imageTag : String) (db after : Database) :
    Prop extends CaptureFrame db after where
  snapshots : after.snapshots = db.snapshots ∨
    Captured db.snapshots after.snapshots service.id imageTag none
  inspecting : (∀ call reply, permits call reply → Inspecting platform call reply) →
    Captured db.snapshots after.snapshots service.id imageTag none

/-- The current snapshot that is found is of an image exactly if one is. -/
theorem findCurrent_isText {snapshots : Table DeploymentSnapshot} {serviceId : Nat}
    {imageTag : String} :
    ((snapshots.findOne fun snapshot =>
      snapshot.serviceId == serviceId && snapshot.isCurrent).any
        fun snapshot => isText snapshot.imageTag (.str imageTag)) = true ↔
      CurrentImage snapshots serviceId imageTag := by
  rw [Option.any_eq_true]
  constructor
  · rintro ⟨snapshot, found, same⟩
    obtain ⟨member, matched⟩ := Table.findOne_mem found
    simp only [Bool.and_eq_true, beq_iff_eq] at matched
    simp only [isText, beq_iff_eq] at same
    exact ⟨snapshot, member, matched.1, matched.2, same.symm⟩
  · rintro ⟨snapshot, member, ofService, current, ofImage⟩
    have key : Keyed.index snapshot = some serviceId := by
      simp [Keyed.index, ofService, current]
    refine ⟨snapshot, Table.findOne_of_unique member ?_ ?_, by simp [isText, ofImage]⟩
    · simp [ofService, current]
    · intro other otherMember matched
      have otherKey : Keyed.index other = some serviceId := by
        simp only [Bool.and_eq_true, beq_iff_eq] at matched
        simp [Keyed.index, matched]
      exact Table.eq_of_index otherMember member otherKey key

/-- No snapshot is taken: the current one is of this image, or the key of the host
cannot be decrypted. -/
def NoneDue (platform : Platform) (host : Host) (snapshots : Table DeploymentSnapshot)
    (serviceId : Nat) (imageTag : String) : Prop :=
  CurrentImage snapshots serviceId imageTag ∨
    ∃ error, platform.decrypt host.sshKeyEncrypted = .error error

/-- What looking for a changed image leaves behind. -/
structure Compared (permits : (call : Call) → Except JsError call.Reply → Prop)
    (platform : Platform) (host : Host) (service : Service) (imageTag : String)
    (db after : Database) : Prop extends CaptureFrame db after where
  snapshots : after.snapshots = db.snapshots ∨
    Captured db.snapshots after.snapshots service.id imageTag none
  settled : NoneDue platform host db.snapshots service.id imageTag →
    after.snapshots = db.snapshots
  inspecting : (∀ call reply, permits call reply → Inspecting platform call reply) →
    ¬ NoneDue platform host db.snapshots service.id imageTag →
      Captured db.snapshots after.snapshots service.id imageTag none

section Captures

variable {permits : (call : Call) → Except JsError call.Reply → Prop}
  (steady : ∀ call reply, permits call reply → Steady call reply)
include steady

/-- Creating a snapshot succeeds wherever calls do. -/
theorem createSnapshot_ensures (platform : Platform) (input : CreateSnapshotInput)
    (db : Database) :
    (createSnapshot platform input).Ensures (Calm permits)
      (fun outcome after => ∃ value, outcome = .ok value ∧ CaptureFrame db after ∧
        Captured db.snapshots after.snapshots input.serviceId input.imageTag
          input.deployedById)
      db := by
  have encrypts : (encrypt platform (Json.stringify input.config)).Ensures (Calm permits)
      (fun outcome after => ∃ value, outcome = .ok value ∧
        ∃ time, after = db.setClock time) db := by
    apply Program.ensures_perform_bind
    · rintro iv after ⟨-, time, rfl⟩
      exact ⟨_, rfl, time, rfl⟩
    · rintro error after ⟨permitted, -⟩
      obtain ⟨bytes, replied⟩ := steady (.randomBytes 12) _ permitted
      cases replied
  apply Program.Ensures.bind encrypts
  rintro configBlob after ⟨time, rfl⟩
  apply (Program.follows_perform _ _ _ _).mpr
  refine ⟨trivial, ?_⟩
  rintro reply after ⟨later, performed⟩
  obtain ⟨created, replied⟩ := Database.succeeds_createSnapshot
    ((db.setClock time).setClock later) (newSnapshot input configBlob)
  rw [performed] at replied
  subst replied
  obtain ⟨captured, same⟩ := Database.perform_createSnapshot_eq performed
  refine ⟨created, rfl, ?_, captured⟩
  rw [same]
  exact ⟨⟨rfl, rfl, rfl, rfl, rfl, rfl⟩, rfl, rfl, rfl⟩

omit steady in
/-- A session that fails leaves no snapshot behind. -/
theorem Inspected.nothing {platform : Platform} {service : Service} {imageTag : String}
    {call : Call} {reply : Except JsError call.Reply} (permitted : permits call reply)
    (fails : ¬ Inspecting platform call reply) (db : Database) (time : Date) :
    Inspected permits platform service imageTag db (db.setClock time) where
  toCaptureFrame := CaptureFrame.clock db time
  snapshots := .inl rfl
  inspecting inspecting := absurd (inspecting call reply permitted) fails

omit steady in
theorem inspectCommand_toContainer (platform : Platform) (row : PsRow) :
    inspectCommand platform row.toContainer = .ok ("docker inspect " ++ row.id) := by
  simp [inspectCommand, PsRow.toContainer, Except.map]

/-- The snapshot of an inspected container, or none where the inspection fails. -/
theorem captureSnapshot_ensures (platform : Platform) (host : Host) (service : Service)
    (row : PsRow) (privateKey : String) (db : Database) :
    (captureSnapshot platform host service row.toContainer privateKey).Ensures
      (Calm permits)
      (fun _ after => Inspected permits platform service row.image db after) db := by
  simp only [captureSnapshot, inspectCommand_toContainer, Program.ofExcept_ok,
    Program.bind_eq, Program.pure_bind]
  apply (Program.follows_bind _ _ _ _ _).mpr
  apply Program.ensures_perform_bind
  · rintro connected after ⟨-, time, rfl⟩
    apply Program.ensures_perform_bind
    · rintro result after ⟨permitted, later, rfl⟩
      change Program.Follows _ (ite _ _ _) _ _
      split
      · next failed =>
        apply Inspected.nothing permitted _ db later
        rintro ⟨reply, config, ⟨⟩, exits, -⟩
        exact failed exits
      · apply (Program.follows_bind _ _ _ _ _).mpr
        apply (Program.follows_ofExcept _ _ _ _).mpr
        cases parsed : parseDockerInspectOutput platform.numberText result.stdout with
        | error error =>
            apply Inspected.nothing permitted _ db later
            rintro ⟨reply, config, ⟨⟩, -, parses⟩
            cases parsed.symm.trans parses
        | ok found =>
            cases found with
            | none =>
                apply Inspected.nothing permitted _ db later
                rintro ⟨reply, config, ⟨⟩, -, parses⟩
                cases parsed.symm.trans parses
            | some config =>
                apply ensures_now_bind steady
                intro deployedAt last
                apply Program.Ensures.bind (createSnapshot_ensures steady platform _ _)
                rintro created final ⟨frame, captured⟩
                have image : platform.columnText row.toContainer.image = row.image :=
                  platform.columnText_str row.image
                rw [image] at captured
                exact ⟨⟨((SyncFrame.refl db).setClock last).trans frame.toSyncFrame,
                  frame.services, frame.healthCheckLogs, frame.alertLogs⟩,
                  .inr captured, fun _ => captured⟩
    · rintro error after ⟨permitted, later, rfl⟩
      apply Inspected.nothing permitted _ db later
      rintro ⟨reply, config, ⟨⟩, -⟩
  · rintro error after ⟨permitted, time, rfl⟩
    apply Inspected.nothing permitted _ db time
    rintro ⟨connected, ⟨⟩⟩

/-- A container of the current image is not inspected. -/
theorem captureSnapshotIfImageChanged_ensures (platform : Platform) (host : Host)
    (service : Service) (row : PsRow) (db : Database) :
    (captureSnapshotIfImageChanged platform host service row.toContainer).Ensures
      (Calm permits)
      (fun outcome after => ∃ value, outcome = .ok value ∧
        Compared permits platform host service row.image db after)
      db := by
  apply ensures_query_bind
  · intro time currentSnapshot after performed
    cases performed
    change Program.Follows _ (ite _ _ _) _ _
    split
    · next same =>
      have current := findCurrent_isText.mp same
      exact ⟨(), rfl, CaptureFrame.clock db time, .inl rfl, fun _ => rfl,
        fun _ unsettled => absurd (.inl current) unsettled⟩
    · next differs =>
      have changed : ¬ CurrentImage db.snapshots service.id row.image :=
        fun current => differs (findCurrent_isText.mpr current)
      split
      · next error failed =>
        exact ⟨(), rfl, CaptureFrame.clock db time, .inl rfl, fun _ => rfl,
          fun _ unsettled => absurd (.inr ⟨error, failed⟩) unsettled⟩
      · next privateKey decrypted =>
        have unsettled : ¬ NoneDue platform host db.snapshots service.id row.image := by
          rintro (current | ⟨error, failed⟩)
          · exact changed current
          · cases decrypted.symm.trans failed
        apply (Program.follows_tryCatch _ _ _ _ _).mpr
        apply Program.Follows.mono
          (captureSnapshot_ensures steady platform host service row privateKey _)
        intro outcome after inspected
        have compared : Compared permits platform host service row.image db after :=
          ⟨⟨(SyncFrame.refl db).setClock time |>.trans inspected.toSyncFrame,
            inspected.services, inspected.healthCheckLogs, inspected.alertLogs⟩,
            inspected.snapshots, fun settled => absurd settled unsettled,
            fun inspecting _ => inspected.inspecting inspecting⟩
        cases outcome with
        | ok value => exact ⟨(), rfl, compared⟩
        | error error => exact ⟨(), rfl, compared⟩
  · exact fun time => ⟨_, rfl⟩

end Captures

/-! ### One listed container -/

/-- The row of a container. -/
def Database.serviceAt (db : Database) (hostId : Nat) (containerId : String) :
    Option Service :=
  db.services.findOne fun service =>
    service.hostId == hostId && service.containerId == containerId

/-- Two services of one container are one row. -/
theorem service_unique {services : Table Service} {service other : Service}
    (member : service ∈ services) (otherMember : other ∈ services)
    (sameHost : service.hostId = other.hostId)
    (sameContainer : service.containerId = other.containerId) : service = other := by
  apply Table.eq_of_index member otherMember _ rfl
  simp [Keyed.index, sameHost, sameContainer]

/-- The service at a container is the one row with its host and its id. -/
theorem Database.serviceAt_eq_some {db : Database} {hostId : Nat} {containerId : String}
    {service : Service} :
    db.serviceAt hostId containerId = some service ↔
      service ∈ db.services ∧ service.hostId = hostId ∧
        service.containerId = containerId := by
  constructor
  · intro found
    obtain ⟨member, matched⟩ := Table.findOne_mem found
    simp only [Bool.and_eq_true, beq_iff_eq] at matched
    exact ⟨member, matched⟩
  · rintro ⟨member, rfl, rfl⟩
    apply Table.findOne_of_unique member
    · rw [beq_self_eq_true, beq_self_eq_true]
      rfl
    · intro other otherMember matched
      simp only [Bool.and_eq_true, beq_iff_eq] at matched
      exact service_unique otherMember member matched.1 matched.2

/-- There is none if no row has both. -/
theorem Database.serviceAt_eq_none {db : Database} {hostId : Nat} {containerId : String} :
    db.serviceAt hostId containerId = none ↔
      ∀ service ∈ db.services,
        ¬ (service.hostId = hostId ∧ service.containerId = containerId) := by
  unfold serviceAt
  rw [Table.findOne_none]
  apply forall₂_congr
  intro service member
  simp

/-- The row of a listed container: its own, or one with a fresh key. -/
def PsRow.service (row : PsRow) (host : Host) (status : ServiceStatus) (checkedAt : Date)
    (found : Option Service) (fresh : Nat) : Service :=
  { id := (found.map Service.id).getD fresh
    orgId := (found.map Service.orgId).getD host.orgId
    hostId := host.id
    containerId := row.id
    containerName := row.names
    image := (splitImageAndTag row.image).image
    currentTag := (splitImageAndTag row.image).tag
    status := status
    portMappings := portMappings (.str row.ports)
    lastCheckedAt := checkedAt }

/-- The row that is written says what the container's line says. -/
theorem upsertRow_eq {platform : Platform} {host : Host} {row : PsRow}
    {status : ServiceStatus} {checkedAt : Date} {found : Option Service}
    (matched : ∀ service, found = some service →
      service.hostId = host.id ∧ service.containerId = row.id) :
    upsertRow platform host row.toContainer (.str (splitImageAndTag row.image).image)
        ((splitImageAndTag row.image).tag.map .str) status checkedAt found =
      row.service host status checkedAt found 0 := by
  have tag : ((splitImageAndTag row.image).tag.map Json.str).map platform.columnText =
      (splitImageAndTag row.image).tag := by
    cases (splitImageAndTag row.image).tag with
    | none => rfl
    | some text => exact congrArg some (platform.columnText_str text)
  cases found with
  | none => simp [upsertRow, PsRow.service, PsRow.toContainer, tag, platform.columnText_str]
  | some service =>
      obtain ⟨ofHost, ofContainer⟩ := matched service rfl
      simp [upsertRow, PsRow.service, PsRow.toContainer, tag, platform.columnText_str,
        ofHost, ofContainer]

/-- What the health-check log records of a listed container. -/
def PsRow.rawOutput (row : PsRow) : Json :=
  .obj [("container_id", .str row.id), ("names", .str row.names),
    ("image", .str row.image), ("status", .str row.status), ("ports", .str row.ports)]

/-- A log entry as it is written, under a generated key. -/
def HealthCheckLog.Written (log entry : HealthCheckLog) : Prop :=
  log = { entry with id := log.id }

/-- A log entry is added, and nothing else changes. -/
theorem Database.perform_writeHealthCheckLog_eq {db after : Database}
    {entry log : HealthCheckLog}
    (performed : db.perform (.writeHealthCheckLog entry) = (.ok log, after)) :
    log.Written entry ∧ ∃ logs, after = { db with healthCheckLogs := logs } ∧
      logs.rows = db.healthCheckLogs.rows ++ [log] := by
  obtain ⟨⟨row, logs⟩, inserts⟩ : ∃ inserted, db.healthCheckLogs.insert
      (fun id => { entry with id := id }) = some inserted := by
    apply Option.ne_none_iff_exists'.mp
    intro refused
    obtain ⟨other, -, -, key, rowKey, -⟩ := Table.insert_eq_none.mp refused
    cases rowKey
  simp only [Database.perform, inserts, Option.map_some, Database.answer, Prod.mk.injEq,
    Except.ok.injEq] at performed
  obtain ⟨rfl, rfl⟩ := performed
  obtain ⟨same, -⟩ := Table.insert_eq_some.mp inserts
  have written : row.Written entry := by rw [same]; rfl
  exact ⟨written, logs, rfl, Table.insert_rows rfl inserts⟩

/-- Saving the row of a container over the one that was found, or a new one. -/
theorem saveUpserted_ensures {permits : (call : Call) → Except JsError call.Reply → Prop}
    {db : Database} {hostId : Nat} {containerId : String} {row : Service}
    (key : row.hostId = hostId ∧ row.containerId = containerId)
    (keepsId : ∀ old, db.serviceAt hostId containerId = some old → old.id = row.id) :
    (saveUpserted (db.serviceAt hostId containerId) row).Ensures (Calm permits)
      (fun outcome after => ∃ value, outcome = .ok value ∧
        (value = match db.serviceAt hostId containerId with
          | some _ => row
          | none => { row with id := db.services.nextId }) ∧
        ∃ time services, after = { db.setClock time with services := services } ∧
          ∀ other, other ∈ services ↔ other = value ∨ other ∈ db.services ∧
            ¬ (other.hostId = hostId ∧ other.containerId = containerId))
      db := by
  have keyed : ∀ other : Service, Keyed.index other ≠ some (hostId, containerId) ↔
      ¬ (other.hostId = hostId ∧ other.containerId = containerId) := by
    intro other
    simp [Keyed.index]
  have rowKey : ∀ id, Keyed.index { row with id := id } = some (hostId, containerId) := by
    intro id
    simp [Keyed.index, key]
  cases found : db.serviceAt hostId containerId with
  | some old =>
      obtain ⟨member, ofHost, ofContainer⟩ := Database.serviceAt_eq_some.mp found
      have oldKey : Keyed.index old = some (hostId, containerId) := by
        simp [Keyed.index, ofHost, ofContainer]
      have sameId : (Keyed.id old : Nat) = Keyed.id row := keepsId old found
      have clear : ¬ db.services.Clashes row := Table.not_clashes_of_replaces member sameId
        (.inr ((rowKey row.id).trans oldKey.symm))
      obtain ⟨services, saved⟩ := Table.exists_save clear
      apply (Program.follows_perform _ _ _ _).mpr
      refine ⟨trivial, ?_⟩
      rintro reply after ⟨time, performed⟩
      simp only [Database.perform, Database.setClock, saved, Option.map_some,
        Database.answer] at performed
      obtain ⟨rfl, rfl⟩ := performed
      refine ⟨row, rfl, rfl, time, services, rfl, ?_⟩
      intro other
      rw [Table.mem_save_indexed member sameId oldKey saved]
      exact or_congr_right (and_congr_right fun _ => keyed other)
  | none =>
      have absent : ∀ old ∈ db.services, Keyed.index old ≠ some (hostId, containerId) :=
        fun old member => (keyed old).mpr (Database.serviceAt_eq_none.mp found old member)
      have clear : ¬ db.services.Clashes { row with id := db.services.nextId } := by
        rintro ⟨other, member, -, otherKey, ofRow, ofOther⟩
        rw [rowKey] at ofRow
        exact absent other member (ofOther.trans ofRow.symm)
      obtain ⟨services, saved⟩ := Table.exists_save clear
      have inserted : db.services.insert (fun id => { row with id := id }) =
          some ({ row with id := db.services.nextId }, services) :=
        Table.insert_eq_some.mpr ⟨rfl, saved⟩
      apply (Program.follows_perform _ _ _ _).mpr
      refine ⟨trivial, ?_⟩
      rintro reply after ⟨time, performed⟩
      simp only [Database.perform, Database.setClock, inserted, Option.map_some,
        Database.answer] at performed
      obtain ⟨rfl, rfl⟩ := performed
      refine ⟨_, rfl, rfl, time, services, rfl, ?_⟩
      intro other
      rw [Table.mem_insert_indexed rfl absent inserted]
      exact or_congr_right (and_congr_right fun _ => keyed other)

/-- `classifyContainerStatus` of a text never throws. -/
theorem classifyContainerStatus_str (text : String) :
    ∃ status, classifyContainerStatus (.str text) = .ok status := by
  simp only [classifyContainerStatus, orElse, includesText, bind, Except.bind, pure,
    Except.pure]
  split
  · exact ⟨_, rfl⟩
  split
  · split
    · exact ⟨_, rfl⟩
    · exact ⟨_, rfl⟩
  split
  · exact ⟨_, rfl⟩
  · exact ⟨_, rfl⟩

/-- What the upsert of a listed container leaves behind, `service` being its row. -/
structure Upserted (permits : (call : Call) → Except JsError call.Reply → Prop)
    (platform : Platform) (host : Host) (row : PsRow) (checkedAt : Date) (db : Database)
    (service : Service) (after : Database) : Prop extends SyncFrame db after where
  status : classifyContainerStatus (.str row.status) = .ok service.status
  mirrors : service = row.service host service.status checkedAt
    (db.serviceAt host.id row.id) db.services.nextId
  services : ∀ other, other ∈ after.services ↔ other = service ∨
    other ∈ db.services ∧ ¬ (other.hostId = host.id ∧ other.containerId = row.id)
  logs : ∃ log : HealthCheckLog,
    log.Written (newHealthCheckLog .service service.id service.status.text
      row.rawOutput) ∧
      after.healthCheckLogs.rows = db.healthCheckLogs.rows ++ [log]
  alertLogs : ((db.serviceAt host.id row.id).map Service.status).getD .unknown =
    service.status → after.alertLogs = db.alertLogs
  snapshots : after.snapshots = db.snapshots ∨
    Captured db.snapshots after.snapshots service.id row.image none
  settled : NoneDue platform host db.snapshots service.id row.image →
    after.snapshots = db.snapshots
  inspecting : (∀ call reply, permits call reply → Inspecting platform call reply) →
    ¬ NoneDue platform host db.snapshots service.id row.image →
      Captured db.snapshots after.snapshots service.id row.image none

/-- The step lemma of a sync: what a listed container leaves in the tables. -/
theorem upsertService_ensures {permits : (call : Call) → Except JsError call.Reply → Prop}
    (steady : ∀ call reply, permits call reply → Steady call reply)
    (platform : Platform) (host : Host) (row : PsRow) (checkedAt : Date)
    (db : Database) :
    (upsertService platform host row.toContainer checkedAt).Ensures (Calm permits)
      (fun outcome after => ∃ value, outcome = .ok value ∧
        ∃ service, Upserted permits platform host row checkedAt db service after)
      db := by
  obtain ⟨status, classified⟩ := classifyContainerStatus_str row.status
  have classifies : classifyContainerStatus row.toContainer.status = .ok status := classified
  apply (Program.follows_bind _ _ _ _ _).mpr
  change Program.Follows _ (Program.bind _ _) _ _
  apply (Program.follows_bind _ _ _ _ _).mpr
  apply (Program.follows_ofExcept _ _ _ _).mpr
  rw [classifies]
  apply ensures_query_bind
  · intro time found after performed
    have listed : platform.columnText row.toContainer.id = row.id :=
      platform.columnText_str row.id
    have read : found = (db.setClock time).serviceAt host.id row.id ∧
        after = db.setClock time := by
      rw [listed] at performed
      cases performed
      exact ⟨rfl, rfl⟩
    obtain ⟨rfl, rfl⟩ := read
    have matched : ∀ service, (db.setClock time).serviceAt host.id row.id = some service →
        service.hostId = host.id ∧ service.containerId = row.id :=
      fun service found => (Database.serviceAt_eq_some.mp found).2
    change Program.Follows _ (Program.bind (saveUpserted _ (upsertRow platform host
      row.toContainer (.str (splitImageAndTag row.image).image)
        ((splitImageAndTag row.image).tag.map .str) status checkedAt _)) _) _ _
    rw [upsertRow_eq matched]
    have key : ∀ found, (row.service host status checkedAt found 0).hostId = host.id ∧
        (row.service host status checkedAt found 0).containerId = row.id :=
      fun found => ⟨rfl, rfl⟩
    apply Program.Ensures.bind (saveUpserted_ensures (key _) fun old found => by
      rw [found]
      rfl)
    rintro service saved ⟨value, later, services, rfl, members⟩
    have mirrors : service = row.service host status checkedAt
        ((db.setClock time).serviceAt host.id row.id) db.services.nextId := by
      rw [value]
      cases (db.setClock time).serviceAt host.id row.id with
      | none => rfl
      | some old => rfl
    apply ensures_query_bind
    · intro logTime log logged performed
      obtain ⟨written, logs, rfl, appended⟩ :=
        Database.perform_writeHealthCheckLog_eq performed
      apply Program.Ensures.bind (evaluateTransition_ensures platform _ _)
      rintro evaluated evaluatedDb ⟨alerts, unfired⟩
      apply Program.Follows.mono
        (captureSnapshotIfImageChanged_ensures steady platform host service row _)
      rintro outcome after ⟨value, rfl, compared⟩
      have sameStatus : service.status = status := by rw [mirrors]; rfl
      refine ⟨value, rfl, service, ?_⟩
      constructor
      · have frame := alerts.toSyncFrame.trans compared.toSyncFrame
        exact ⟨frame.hosts, frame.domains, frame.certificates, frame.events,
          frame.alertRules, frame.insightStates⟩
      · rw [sameStatus]; exact classified
      · rw [sameStatus]; exact mirrors
      · intro other
        rw [compared.services, alerts.services]
        exact members other
      · refine ⟨log, ?_, ?_⟩
        · rw [sameStatus]; exact written
        · rw [compared.healthCheckLogs, alerts.healthCheckLogs]
          exact appended
      · intro unchanged
        rw [compared.alertLogs]
        apply unfired
        exact congrArg ServiceStatus.text unchanged
      · have captured := compared.snapshots
        rw [alerts.snapshots] at captured
        exact captured
      · intro settled
        have kept := compared.settled
        rw [alerts.snapshots] at kept
        exact kept settled
      · intro inspecting unsettled
        have captured := compared.inspecting inspecting
        rw [alerts.snapshots] at captured
        exact captured unsettled
    · intro logTime
      exact Database.perform_writeHealthCheckLog _ _
  · exact fun time => ⟨_, rfl⟩

end ServersManager
