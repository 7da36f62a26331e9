/-
Module: ServersManager.RollbackRun
Purpose: One rollback job run to its end while any of its calls may fail: when the
  event is settled, and when it stays active for good.
Trusted boundary: none
Main exports:
  World, Environment, Environment.answer, Settled, NoUnhandledFailure,
  process_settles_iff
-/
import ServersManager.DockerListing
import ServersManager.Rollback

namespace ServersManager

open Library

/-! ### Failing surroundings -/

/-- The database, the number of calls a run has made, and how many of them were
attempts that may fail. -/
structure World where
  database : Database
  calls : Nat
  attempts : Nat

def World.start (database : Database) : World :=
  { database := database
    calls := 0
    attempts := 0 }

/-- The world after the event table has been written. -/
def World.withEvents (world : World) (events : Table RollbackEvent) : World :=
  { world with
    database := { world.database with events := events }
    calls := world.calls + 1 }

/-- The world after an attempt. -/
def World.attempted (world : World) (database : Database) : World :=
  { database := database
    calls := world.calls + 1
    attempts := world.attempts + 1 }

/-- The world after some attempts that left the database alone. -/
def World.skipped (world : World) (attempts : Nat) : World :=
  { world with
    calls := world.calls + attempts
    attempts := world.attempts + attempts }

/-- How the surroundings behave during one run: which attempts fail, and what the
others are answered with. -/
structure Environment where
  fault : Nat → Option JsError
  exec : Nat → ExecReply
  random : Nat → Nat → UInt8
  fetch : Nat → HttpResponse
  clock : Nat → Date

/-- Loading and saving the event row, and the clock, do not fail. -/
def Call.isAttempt : Call → Bool
  | .query (.findEvent _) | .query (.saveEvent _) | .now => false
  | _ => true

/-- The bytes that are drawn by an attempt. -/
def Environment.bytes (environment : Environment) (attempt size : Nat) : List UInt8 :=
  (List.range size).map (environment.random attempt)

@[simp] theorem Environment.length_bytes (environment : Environment) (attempt size : Nat) :
    (environment.bytes attempt size).length = size := by
  simp [Environment.bytes]

/-- The answer to a call that does not fail.  Nothing is queued or looked up on the
network during a run. -/
def Environment.reply (environment : Environment) (world : World) :
    (call : Call) → Except JsError call.Reply × Database
  | .query q => world.database.perform q
  | .now => (.ok (environment.clock world.calls), world.database)
  | .randomBytes size => (.ok (environment.bytes world.attempts size), world.database)
  | .connect _ => (.ok (), world.database)
  | .execCommand _ _ => (.ok (environment.exec world.attempts), world.database)
  | .fetch _ _ => (.ok (environment.fetch world.attempts), world.database)
  | .resolve4 _ => (.ok [], world.database)
  | .whois _ => (.ok .null, world.database)
  | .tlsConnect _ _ => (.ok default, world.database)
  | .addJob _ => (.ok (), world.database)
  | .takeJob => (.ok 0, world.database)
  | .addDomainCheck _ => (.ok "", world.database)

def Environment.answer (environment : Environment) :
    Machine Calls JsError World :=
  fun (call : Call) world =>
    if call.isAttempt then
      match environment.fault world.attempts with
      | some error => (.error error, world.attempted world.database)
      | none =>
          ((environment.reply world call).1,
            world.attempted (environment.reply world call).2)
    else
      ((environment.reply world call).1,
        { world with
          database := (environment.reply world call).2
          calls := world.calls + 1 })

/-! ### Active and settled events -/

/-- The persisted row is the entity in memory, and still in progress. -/
structure Current (world : World) (event : RollbackEvent) : Prop where
  row : world.database.events.byId event.id = some event
  inProgress : event.status = .inProgress

/-- The event is completed, and a new rollback of the service is not rejected as
already active. -/
def Settled (database : Database) (event : RollbackEvent) : Prop :=
  (∃ row, database.events.byId event.id = some row ∧
    (row.status = .succeeded ∨ row.status = .failed) ∧ row.completedAt.isSome) ∧
  (database.perform (.findActiveEvent event.serviceId)).1 = .ok none

/-- A later point of a run at which the event is still current. -/
structure Continues (world after : World) (event eventAfter : RollbackEvent) :
    Prop where
  current : Current after eventAfter
  id : eventAfter.id = event.id
  serviceId : eventAfter.serviceId = event.serviceId
  toSnapshotId : eventAfter.toSnapshotId = event.toSnapshotId
  hosts : after.database.hosts = world.database.hosts
  services : after.database.services = world.database.services
  snapshots : after.database.snapshots = world.database.snapshots
  attempts : after.attempts = world.attempts

/-- Two stretches of a run, one after the other. -/
theorem Continues.trans {world middle after : World}
    {event eventMiddle eventAfter : RollbackEvent}
    (first : Continues world middle event eventMiddle)
    (second : Continues middle after eventMiddle eventAfter) :
    Continues world after event eventAfter where
  current := second.current
  id := second.id.trans first.id
  serviceId := second.serviceId.trans first.serviceId
  toSnapshotId := second.toSnapshotId.trans first.toSnapshotId
  hosts := second.hosts.trans first.hosts
  services := second.services.trans first.services
  snapshots := second.snapshots.trans first.snapshots
  attempts := second.attempts.trans first.attempts

/-- An event that is in progress is not settled. -/
theorem Current.not_settled {world : World} {event : RollbackEvent}
    (current : Current world event) : ¬ Settled world.database event := by
  rintro ⟨⟨row, found, completed, -⟩, -⟩
  rw [current.row] at found
  cases found
  rcases completed with done | done <;> simp [current.inProgress] at done

/-- The entity in memory may have moved on; it still names the same event. -/
theorem settled_congr {database : Database} {event other : RollbackEvent}
    (sameId : other.id = event.id) (sameService : other.serviceId = event.serviceId) :
    Settled database other ↔ Settled database event := by
  rw [Settled, Settled, sameId, sameService]

/-- An active row may be written over with any status. -/
theorem exists_save_event {events : Table RollbackEvent} {row event : RollbackEvent}
    (found : events.byId event.id = some row) (active : row.status.isActive)
    (sameService : event.serviceId = row.serviceId) :
    ∃ after, events.save event = some after := by
  obtain ⟨member, sameId⟩ := Table.byId_eq_some.mp found
  refine Table.exists_save (Table.not_clashes_of_replaces member sameId ?_)
  simp only [Keyed.index, active, sameService, if_true]
  split
  · exact .inr rfl
  · exact .inl rfl

/-- The last save of an active event settles it. -/
theorem settled_of_save {database : Database} {events : Table RollbackEvent}
    {row event : RollbackEvent} (saved : database.events.save event = some events)
    (found : database.events.byId event.id = some row) (active : row.status.isActive)
    (sameService : event.serviceId = row.serviceId)
    (completed : event.status = .succeeded ∨ event.status = .failed)
    (dated : event.completedAt.isSome) :
    Settled { database with events := events } event := by
  have inactive : event.status.isActive = false := by
    rcases completed with done | done <;> rw [done] <;> rfl
  obtain ⟨member, sameId⟩ := Table.byId_eq_some.mp found
  refine ⟨⟨event, by simp [Table.byId_save saved, Keyed.id], completed, dated⟩, ?_⟩
  refine congrArg Except.ok (Table.findOne_none.mpr fun other otherMember => ?_)
  rcases (Table.mem_save saved).mp otherMember with rfl | ⟨old, differs⟩
  · simp [inactive]
  · -- another active event of the service would share the index key of the row
    by_contra clash
    simp only [Bool.not_eq_false, Bool.and_eq_true, beq_iff_eq] at clash
    refine differs (.trans ?_ sameId)
    rw [Table.eq_of_index old member
      (show Keyed.index other = some row.serviceId by
        simp [Keyed.index, clash.2, clash.1, sameService])
      (by simp [Keyed.index, active])]

/-- Whether an event is settled is a matter of the event rows. -/
theorem settled_of_events {database other : Database} {event : RollbackEvent}
    (same : other.events = database.events) (settled : Settled database event) :
    Settled other event := by
  unfold Settled Database.perform at settled ⊢
  rwa [same]

/-! ### Runs of the parts of a job -/

section Runs

variable {platform : Platform} {environment : Environment} {world : World}
  {event : RollbackEvent}

theorem now_run : now.run environment.answer world =
    (.ok (environment.clock world.calls),
      { world with calls := world.calls + 1 }) := rfl

/-- Whether it is current, too. -/
theorem Current.of_events {after : World} (current : Current world event)
    (same : after.database.events = world.database.events) : Current after event :=
  ⟨same ▸ current.row, current.inProgress⟩

theorem Current.skipped (current : Current world event) (made : Nat) :
    Current (world.skipped made) event :=
  current.of_events rfl

theorem Current.ticked (current : Current world event) :
    Continues world { world with calls := world.calls + 1 } event event where
  current := current.of_events rfl
  id := rfl
  serviceId := rfl
  toSnapshotId := rfl
  hosts := rfl
  services := rfl
  snapshots := rfl
  attempts := rfl

variable (environment) (event) in
/-- A save that succeeds answers with the row. -/
theorem saveEvent_saves {events : Table RollbackEvent}
    (saved : world.database.events.save event = some events) :
    (query (.saveEvent event)).run environment.answer world =
      (.ok event, world.withEvents events) := by
  refine (run_query _ _ _).trans ?_
  simp only [Environment.answer, Call.isAttempt, Environment.reply, Database.perform,
    Database.answer, saved, Option.map_some]
  rfl

variable (environment) (event) in
/-- The save of an active event meets no other active one of its service. -/
theorem saveEvent_run {row : RollbackEvent}
    (found : world.database.events.byId event.id = some row)
    (active : row.status.isActive) (sameService : event.serviceId = row.serviceId) :
    ∃ events, world.database.events.save event = some events ∧
      (query (.saveEvent event)).run environment.answer world =
        (.ok event, world.withEvents events) := by
  obtain ⟨events, saved⟩ := exists_save_event found active sameService
  exact ⟨events, saved, saveEvent_saves environment event saved⟩

theorem Current.active (current : Current world event) : event.status.isActive := by
  rw [current.inProgress]
  rfl

variable (environment) in
/-- An entry can always be appended to the event in progress. -/
theorem appendLog_run (current : Current world event) (entry : RollbackLogEntry) :
    ∃ eventAfter after,
      (appendLog event entry).run environment.answer world = (.ok eventAfter, after) ∧
        Continues world after event eventAfter := by
  obtain ⟨events, saved, runs⟩ := saveEvent_run environment
    { event with logOutput := event.logOutput ++ [entry] } current.row current.active rfl
  refine ⟨{ event with logOutput := event.logOutput ++ [entry] },
    world.withEvents events, ?_, ?_⟩
  · simp only [appendLog, Program.bind_eq, Program.run_bind, runs, resume_ok,
      Program.pure_eq, Program.run_pure]
  · exact
      { current := ⟨by simp [World.withEvents, Table.byId_save saved, Keyed.id],
          current.inProgress⟩
        id := rfl
        serviceId := rfl
        toSnapshotId := rfl
        hosts := rfl
        services := rfl
        snapshots := rfl
        attempts := rfl }

variable (environment) in
/-- The event in progress can always be completed, and is settled then. -/
theorem complete_run (current : Current world event) {status : RollbackEventStatus}
    (completed : status = .succeeded ∨ status = .failed) :
    ∃ after, (complete event status).run environment.answer world = (.ok (), after) ∧
      Settled after.database event := by
  obtain ⟨events, saved, runs⟩ := saveEvent_run environment
    { event with
      status := status
      completedAt := some (environment.clock world.calls) }
    current.ticked.current.row current.active rfl
  refine ⟨World.withEvents { world with calls := world.calls + 1 } events, ?_, ?_⟩
  · simp only [complete, Program.bind_eq, Program.run_bind, now_run, resume_ok, runs,
      Program.pure_eq, Program.run_pure]
  · have settled := settled_of_save saved current.row current.active rfl completed rfl
    exact (settled_congr rfl rfl).mp settled

/-- A call that may fail, and does. -/
theorem answer_fault {call : Call} {error : JsError} (attempt : call.isAttempt)
    (fault : environment.fault world.attempts = some error) :
    environment.answer call world =
      (.error error, world.attempted world.database) := by
  simp only [Environment.answer, attempt, fault, if_true]

/-- A call that may fail, and does not. -/
theorem answer_attempt {call : Call} (attempt : call.isAttempt)
    (fault : environment.fault world.attempts = none) :
    environment.answer call world =
      ((environment.reply world call).1,
        world.attempted (environment.reply world call).2) := by
  simp only [Environment.answer, attempt, fault, if_true]
  rfl

variable (environment) in
/-- A call that leaves a table alone leaves it alone, failing or not. -/
theorem answer_field {τ : Type} {call : Call} (field : Database → τ)
    (frame : ∀ q, call = .query q → field (world.database.perform q).2 =
      field world.database) :
    field (environment.answer call world).2.database = field world.database := by
  have kept : field (environment.reply world call).2 = field world.database := by
    cases call with
    | query q => exact frame q rfl
    | _ => rfl
  simp only [Environment.answer]
  split
  · split
    · rfl
    · exact kept
  · exact kept

variable (environment) in
/-- A call that writes no event leaves the event rows as they are. -/
theorem answer_events {call : Call}
    (frame : ∀ q, call = .query q → q.writesEvents = false) :
    (environment.answer call world).2.database.events = world.database.events :=
  answer_field environment Database.events fun q same =>
    Database.perform_events (frame q same)

/-- A failed job has settled its event, whatever evaluating the alert meets. -/
theorem fail_settles (current : Current world event) (reason : String)
    (orgId : Option Nat) :
    Settled ((fail platform event reason orgId).run environment.answer world).2.database
      event := by
  obtain ⟨logged, afterLog, logs, continues⟩ := appendLog_run environment
    current.ticked.current
    { timestamp := environment.clock world.calls
      step := "failure"
      command := none
      exitCode := none
      stdout := none
      stderr := none
      message := some reason }
  obtain ⟨afterSave, completes, settled⟩ := complete_run environment
    continues.current (.inr rfl)
  rw [settled_congr continues.id continues.serviceId] at settled
  simp only [fail, messageEntry, Program.bind_eq, Program.run_bind, now_run, resume_ok,
    Program.pure_eq, Program.run_pure, logs, completes]
  cases orgId with
  | none => exact settled
  | some orgId =>
      exact (evaluateTransition_only platform _).run
        (fun state : World => Settled state.database event)
        (fun call state ofAlerts settled =>
          settled_of_events (answer_events environment ofAlerts.writesEvents) settled)
        settled

end Runs

/-! ### Rules for settling -/

/-- The run of a program leaves the event settled, whether it returns or throws. -/
def Settles {α : Type} (environment : Environment) (program : Job α) (world : World)
    (event : RollbackEvent) : Prop :=
  Settled (program.run environment.answer world).2.database event

section Rules

variable {α β : Type} {environment : Environment} {world : World}
  {event : RollbackEvent}

theorem settles_now {rest : Date → Job β} :
    Settles environment (now.bind rest) world event ↔
      Settles environment (rest (environment.clock world.calls))
        { world with calls := world.calls + 1 } event := Iff.rfl

/-- A computation outside any handler has to succeed. -/
theorem settles_ofExcept {outcome : Except JsError α} {rest : α → Job β}
    (current : Current world event) :
    Settles environment ((Program.ofExcept outcome).bind rest) world event ↔
      ∃ value, outcome = .ok value ∧
        Settles environment (rest value) world event := by
  cases outcome with
  | ok value => simp [Settles]
  | error error => simp [Settles, current.not_settled]

/-- So has an attempt. -/
theorem settles_attempt {call : Call} {rest : call.Reply → Job β}
    (current : Current world event) (attempt : call.isAttempt)
    (frame : ∀ q, call = .query q → q.writesEvents = false) :
    Settles environment ((request call).bind rest) world event ↔
      environment.fault world.attempts = none ∧
        ∃ value, (environment.reply world call).1 = .ok value ∧
          Settles environment (rest value)
            (world.attempted (environment.reply world call).2) event := by
  have unsettled := (current.of_events (answer_events environment frame)).not_settled
  unfold Settles
  rw [Program.run_bind, run_request]
  cases fault : environment.fault world.attempts with
  | some error =>
      rw [answer_fault attempt fault] at unsettled ⊢
      exact iff_of_false unsettled (by simp)
  | none =>
      rw [answer_attempt attempt fault] at unsettled ⊢
      cases replied : (environment.reply world call).1 with
      | ok value => simp
      | error error => exact iff_of_false unsettled (by simp)

/-- A query settles where it does not fail and what follows settles. -/
theorem settles_query {q : Query} {rest : q.Reply → Job β}
    (current : Current world event) (attempt : (Call.query q).isAttempt)
    (frame : q.writesEvents = false) :
    Settles environment ((query q).bind rest) world event ↔
      environment.fault world.attempts = none ∧
        ∃ value, (world.database.perform q).1 = .ok value ∧
          Settles environment (rest value)
            (world.attempted (world.database.perform q).2) event :=
  settles_attempt current attempt fun _ same => Call.query.inj same ▸ frame

/-- A lookup after some attempts that left the database alone. -/
theorem settles_lookup {q : Query} {value : q.Reply} {rest : q.Reply → Job β}
    (made : Nat) (current : Current world event) (attempt : (Call.query q).isAttempt)
    (frame : q.writesEvents = false)
    (reads : world.database.perform q = (.ok value, world.database)) :
    Settles environment ((query q).bind rest) (world.skipped made) event ↔
      environment.fault (world.attempts + made) = none ∧
        Settles environment (rest value) (world.skipped (made + 1)) event := by
  refine Iff.trans (settles_query (current.of_events rfl) attempt frame) ?_
  simp [reads, World.attempted, World.skipped, Nat.add_assoc]

variable (environment) in
/-- A query that only its attempt can fail. -/
theorem settles_served {q : Query}
    (current : Current world event) (attempt : (Call.query q).isAttempt)
    (frame : q.writesEvents = false)
    (serves : ∃ value, (world.database.perform q).1 = .ok value) :
    ∃ value after, Current after event ∧ after.attempts = world.attempts + 1 ∧
      ∀ rest : q.Reply → Job β,
        Settles environment ((query q).bind rest) world event ↔
          environment.fault world.attempts = none ∧
            Settles environment (rest value) after event := by
  obtain ⟨value, replied⟩ := serves
  refine ⟨value, world.attempted (world.database.perform q).2,
    current.of_events (Database.perform_events frame), rfl, fun rest => ?_⟩
  refine (settles_query current attempt frame).trans ?_
  simp [replied]

variable (environment) in
/-- An appended entry changes nothing about whether the job settles. -/
theorem settles_appendLog (current : Current world event) (entry : RollbackLogEntry) :
    ∃ eventAfter after, Continues world after event eventAfter ∧
      ∀ rest : RollbackEvent → Job β,
        Settles environment ((appendLog event entry).bind rest) world event ↔
          Settles environment (rest eventAfter) after event := by
  obtain ⟨eventAfter, after, logs, continues⟩ :=
    appendLog_run environment current entry
  refine ⟨eventAfter, after, continues, fun rest => ?_⟩
  unfold Settles
  rw [Program.run_bind, logs, resume_ok]

variable (environment) in
/-- Nor does a message of the job's own. -/
theorem settles_message (current : Current world event)
    (step message : String) :
    ∃ eventAfter after, Continues world after event eventAfter ∧
      ∀ rest : RollbackEvent → Job β,
        Settles environment ((messageEntry step message).bind fun entry =>
            (appendLog event entry).bind rest) world event ↔
          Settles environment (rest eventAfter) after event := by
  obtain ⟨eventAfter, after, continues, settles⟩ :=
    settles_appendLog (β := β) environment current.ticked.current _
  exact ⟨eventAfter, after, current.ticked.trans continues, settles⟩

variable (environment) in
/-- Nor does the result of a command. -/
theorem settles_result (current : Current world event)
    (step : String) (result : SshCommandResult) :
    ∃ eventAfter after, Continues world after event eventAfter ∧
      ∀ rest : RollbackEvent → Job β,
        Settles environment ((toLogEntry step result).bind fun entry =>
            (appendLog event entry).bind rest) world event ↔
          Settles environment (rest eventAfter) after event := by
  obtain ⟨eventAfter, after, continues, settles⟩ :=
    settles_appendLog (β := β) environment current.ticked.current _
  exact ⟨eventAfter, after, current.ticked.trans continues, settles⟩

end Rules

/-! ### Stored configurations -/

theorem printableItems_texts (texts : List String) :
    Json.PrintableItems (texts.map .str) := by
  induction texts with
  | nil => trivial
  | cons text texts inductionHypothesis => exact ⟨trivial, inductionHypothesis⟩

theorem DeploymentConfigBlob.printable (config : DeploymentConfigBlob) :
    Json.Printable config.toJson := by
  refine ⟨⟨trivial, ?_, ?_, trivial, trivial⟩, by simp⟩
  · exact printableItems_texts config.env
  · exact printableItems_texts config.portBindings

/-- A blob that holds the text of a configuration holds the configuration. -/
theorem decryptConfig_stored {platform : Platform} {snapshot : DeploymentSnapshot}
    {config : DeploymentConfigBlob}
    (stored : platform.decrypt snapshot.configBlob = .ok (Json.stringify config.toJson)) :
    decryptConfig platform snapshot = .ok config.toJson := by
  unfold decryptConfig
  rw [stored]
  simp only [bind, Except.bind, Json.parse_stringify config.printable]
  rfl

/-! ### When a job settles its event -/

/-- What `succeed` has to get through: the eighth to the eleventh attempt, and a
container id that no other row of the host has. -/
structure SuccessHandled (platform : Platform) (environment : Environment)
    (services : Table Service) (service : Service) (newContainerId : Json) :
    Prop where
  saveService : environment.fault 8 = none
  unclaimed : ∀ other ∈ services, other.id ≠ service.id →
    other.hostId = service.hostId →
    other.containerId ≠ platform.columnText newContainerId
  randomBytes : environment.fault 9 = none
  createSnapshot : environment.fault 10 = none
  writeHealthCheckLog : environment.fault 11 = none

/-- What follows a `docker run` that exited with 0 has to get through: the listing
can be parsed, the status of the container it names can be classified, and where it is
running, so can the rest. -/
def RecreationHandled (platform : Platform) (environment : Environment)
    (services : Table Service) (service : Service) (containerName stdout : String) :
    Prop :=
  ∃ listing, parseDockerPsOutput stdout = .ok listing ∧
    ∃ newStatus, recreatedStatus (findRecreated containerName listing) = .ok newStatus ∧
      ∀ container, findRecreated containerName listing = some container →
        newStatus = .running →
          SuccessHandled platform environment services service container.id

/-- The part of a job outside the handlers goes through: the three rows can be looked
up, and where they exist and the key can be decrypted, so can the snapshot's blob;
and what follows a session in which the container was started goes through. -/
def NoUnhandledFailure (platform : Platform) (environment : Environment)
    (database : Database) (event : RollbackEvent) : Prop :=
  environment.fault 0 = none ∧
  ∀ service, database.services.byId event.serviceId = some service →
    environment.fault 1 = none ∧
    ∀ host, database.hosts.byId service.hostId = some host →
      environment.fault 2 = none ∧
      ∀ targetSnapshot, database.snapshots.byId event.toSnapshotId =
          some targetSnapshot →
        ∀ privateKey, platform.decrypt host.sshKeyEncrypted = .ok privateKey →
          ∃ config, decryptConfig platform targetSnapshot = .ok config ∧
            ∀ blob, readConfig config = .ok blob →
              (∀ n, 3 ≤ n → n < 8 → environment.fault n = none) →
              (environment.exec 6).code = some 0 →
                RecreationHandled platform environment database.services service
                  blob.containerName (environment.exec 7).stdout

section Jobs

variable {platform : Platform} {environment : Environment} {world : World}
  {event : RollbackEvent}

/-- The service can be saved unless another of its host has the new container. -/
theorem clashes_rolledBackService {services : Table Service} {service : Service}
    {newContainerId : Json} {targetSnapshot : DeploymentSnapshot}
    {newStatus : ServiceStatus} {lastCheckedAt : Date} :
    ¬ services.Clashes (rolledBackService platform service newContainerId
        targetSnapshot newStatus lastCheckedAt) ↔
      ∀ other ∈ services, other.id ≠ service.id → other.hostId = service.hostId →
        other.containerId ≠ platform.columnText newContainerId := by
  simp [Table.Clashes, Table.mem_iff, Keyed.id, Keyed.index, rolledBackService]

theorem settles_complete (current : Current world event) {status : RollbackEventStatus}
    (completed : status = .succeeded ∨ status = .failed) :
    Settles environment (complete event status) world event := by
  obtain ⟨after, completes, settled⟩ :=
    complete_run environment current completed
  unfold Settles
  rwa [completes]

variable (platform) (environment) in
theorem settles_createSnapshot (current : Current world event)
    (input : CreateSnapshotInput) :
    ∃ snapshot after, Current after event ∧ after.attempts = world.attempts + 2 ∧
      ∀ rest : DeploymentSnapshot → Job Unit,
        Settles environment ((createSnapshot platform input).bind rest) world event ↔
          environment.fault world.attempts = none ∧
            environment.fault (world.attempts + 1) = none ∧
            Settles environment (rest snapshot) after event := by
  have later : Current (world.attempted world.database) event := current.of_events rfl
  obtain ⟨snapshot, after, currentAfter, attempts, creates⟩ :=
    settles_served (β := Unit) environment later rfl rfl
      (Database.perform_createSnapshot _ (newSnapshot input
        (platform.encrypt (environment.bytes world.attempts 12)
          (Json.stringify input.config))))
  refine ⟨snapshot, after, currentAfter, attempts, fun rest => ?_⟩
  simp only [createSnapshot, encrypt, Program.bind_eq, Program.bind_assoc]
  refine (settles_attempt current rfl fun q same => by cases same).trans ?_
  refine and_congr_right fun _ => Iff.trans ?_ (creates rest)
  exact ⟨fun ⟨_, same, settles⟩ => Except.ok.inj same ▸ settles,
    fun settles => ⟨_, rfl, settles⟩⟩

variable (platform) (environment) in
/-- What is left once the service row has been saved. -/
private theorem settles_recorded (current : Current world event)
    (attempts : world.attempts = 9) (input : Date → CreateSnapshotInput)
    (serviceId : Nat) (status : String) (rawOutput : Json) :
    Settles environment
        (now.bind fun deployedAt => (createSnapshot platform (input deployedAt)).bind
          fun _ => (writeHealthCheckLog .service serviceId status rawOutput).bind
          fun _ => complete event .succeeded) world event ↔
      environment.fault 9 = none ∧ environment.fault 10 = none ∧
        environment.fault 11 = none := by
  obtain ⟨snapshot, created, currentCreated, createdAttempts, creates⟩ :=
    settles_createSnapshot platform environment current.ticked.current
      (input (environment.clock world.calls))
  obtain ⟨log, logged, currentLogged, -, logs⟩ :=
    settles_served (β := Unit) environment currentCreated rfl rfl
      (Database.perform_writeHealthCheckLog _
        (newHealthCheckLog .service serviceId status rawOutput))
  rw [settles_now, creates, attempts]
  refine and_congr_right fun _ => and_congr_right fun _ => (logs _).trans ?_
  rw [createdAttempts, attempts]
  exact and_iff_left (settles_complete currentLogged (.inl rfl))

theorem succeed_settles_iff (current : Current world event)
    (attempts : world.attempts = 8) {service : Service} {newContainerId : Json}
    {targetSnapshot : DeploymentSnapshot} {config : Json}
    (decrypts : decryptConfig platform targetSnapshot = .ok config)
    (newStatus : ServiceStatus) :
    Settles environment
        (succeed platform event service newContainerId targetSnapshot newStatus)
        world event ↔
      SuccessHandled platform environment world.database.services service
        newContainerId := by
  have recorded : ∀ saved : World, Current saved event → saved.attempts = 9 → _ :=
    fun saved currentSaved nine =>
      settles_recorded platform environment currentSaved nine
        (rollbackSnapshotInput event service targetSnapshot config) service.id
        newStatus.text (rollbackRawOutput event targetSnapshot)
  unfold succeed
  simp only [Program.bind_eq, decrypts, Program.ofExcept_ok]
  rw [settles_now]
  refine Iff.trans (settles_query (current.of_events rfl) rfl rfl) ?_
  constructor
  · rintro ⟨saves, saved, replied, settles⟩
    have unclaimed := (Database.perform_saveService.mp replied).1
    obtain ⟨nine, ten, eleven⟩ := (recorded _
      (current.of_events (Database.perform_events rfl))
      (by simp [World.attempted, attempts])).mp settles
    exact ⟨attempts ▸ saves, clashes_rolledBackService.mp unclaimed, nine, ten, eleven⟩
  · rintro ⟨saves, unclaimed, nine, ten, eleven⟩
    refine ⟨attempts ▸ saves, _, Database.perform_saveService.mpr
      ⟨clashes_rolledBackService.mpr unclaimed, rfl⟩, ?_⟩
    exact (recorded _ (current.of_events (Database.perform_events rfl))
      (by simp [World.attempted, attempts])).mpr ⟨nine, ten, eleven⟩

variable (platform) (environment) in
theorem settles_fail (current : Current world event) (reason : String)
    (orgId : Option Nat) :
    Settles environment (fail platform event reason orgId) world event :=
  fail_settles current reason orgId

theorem settles_event {α : Type} {program : Job α} {world : World}
    {event other : RollbackEvent} (sameId : other.id = event.id)
    (sameService : other.serviceId = event.serviceId) :
    Settles environment program world other ↔
      Settles environment program world event :=
  settled_congr sameId sameService

theorem checkRecreated_settles_iff (current : Current world event)
    (attempts : world.attempts = 8) {service : Service}
    {targetSnapshot : DeploymentSnapshot} {config : Json}
    (decrypts : decryptConfig platform targetSnapshot = .ok config)
    (containerName : String) (psResult : SshCommandResult) :
    Settles environment
        (checkRecreated platform event service targetSnapshot containerName psResult)
        world event ↔
      RecreationHandled platform environment world.database.services service
        containerName psResult.stdout := by
  unfold checkRecreated
  refine Iff.trans (settles_ofExcept current) (exists_congr fun listing =>
    and_congr_right fun _ => ?_)
  refine Iff.trans (settles_ofExcept current) (exists_congr fun newStatus =>
    and_congr_right fun classified => ?_)
  obtain ⟨logged, after, continues, settles⟩ := settles_message (β := Unit)
    environment current "post_rollback_health_check"
    (healthCheckMessage containerName (findRecreated containerName listing) newStatus)
  refine Iff.trans (settles _) ?_
  rw [← settles_event continues.id continues.serviceId]
  have failed : ∀ reason, Settles environment
      (fail platform logged reason (some service.orgId)) after logged :=
    fun reason => settles_fail platform environment continues.current reason _
  cases found : findRecreated containerName listing with
  | none =>
      refine iff_of_true ?_ (fun container absent => nomatch absent)
      cases newStatus <;> exact failed _
  | some container =>
      by_cases running : newStatus = .running
      · subst running
        refine Iff.trans (succeed_settles_iff continues.current
          (continues.attempts.trans attempts) decrypts .running) ?_
        rw [continues.services]
        exact ⟨fun handled _ same _ => Option.some.inj same ▸ handled,
          fun handled => handled container rfl rfl⟩
      · refine iff_of_true ?_ (fun _ _ runs => absurd runs running)
        cases newStatus with
        | running => exact absurd rfl running
        | _ => exact failed _

variable (platform) (environment) in
/-- What follows a session in which all four commands were answered. -/
theorem settle_settles_iff (current : Current world event)
    (attempts : world.attempts = 8) (service : Service)
    {targetSnapshot : DeploymentSnapshot} {config : Json}
    (decrypts : decryptConfig platform targetSnapshot = .ok config)
    (containerName : String) (stopResult rmResult runResult psResult : SshCommandResult) :
    Settles environment
        (settle platform event service targetSnapshot containerName
          [stopResult, rmResult, runResult, psResult]) world event ↔
      (runResult.exitCode = some 0 →
        RecreationHandled platform environment world.database.services service
          containerName psResult.stdout) := by
  obtain ⟨stopped, afterStop, toStop, stops⟩ := settles_result (β := Unit)
    environment current "stop_container" stopResult
  obtain ⟨removed, afterRemove, toRemove, removes⟩ := settles_result (β := Unit)
    environment toStop.current "remove_container" rmResult
  obtain ⟨started, afterStart, toStart, starts⟩ := settles_result (β := Unit)
    environment toRemove.current "start_container" runResult
  obtain ⟨listed, afterList, toList, lists⟩ := settles_result (β := Unit)
    environment toStart.current "list_containers" psResult
  have continues := ((toStop.trans toRemove).trans toStart).trans toList
  unfold settle
  refine Iff.trans (stops _) ?_
  rw [← settles_event toStop.id toStop.serviceId]
  refine Iff.trans (removes _) ?_
  rw [← settles_event toRemove.id toRemove.serviceId]
  refine Iff.trans (starts _) ?_
  rw [← settles_event toStart.id toStart.serviceId]
  refine Iff.trans (lists _) ?_
  rw [← settles_event toList.id toList.serviceId]
  by_cases exited : runResult.exitCode = some 0
  · rw [if_neg (not_not_intro exited), checkRecreated_settles_iff toList.current
      (continues.attempts.trans attempts) decrypts, continues.services]
    exact ⟨fun handled _ => handled, fun handled => handled exited⟩
  · rw [if_pos exited]
    exact iff_of_true (settles_fail platform environment toList.current _ _)
      (fun exits => absurd exits exited)

/-- The results of a session whose commands were all answered. -/
def Environment.results (environment : Environment) :
    Nat → List String → List SshCommandResult
  | _, [] => []
  | attempt, command :: commands =>
      { command := command
        stdout := (environment.exec attempt).stdout
        stderr := (environment.exec attempt).stderr
        exitCode := (environment.exec attempt).code } ::
      environment.results (attempt + 1) commands

theorem results_rollbackCommands (environment : Environment) (service : Service)
    (config : DeploymentConfigBlob) (imageTag : String) :
    ∃ stopResult rmResult runResult psResult,
      environment.results 4 (rollbackCommands service config imageTag) =
        [stopResult, rmResult, runResult, psResult] ∧
      runResult.exitCode = (environment.exec 6).code ∧
      psResult.stdout = (environment.exec 7).stdout :=
  ⟨_, _, _, _, rfl, rfl, rfl⟩

theorem execCommand_fault {options : SshConnectionOptions} {command : String}
    {error : JsError} (fault : environment.fault world.attempts = some error) :
    (request (.execCommand options command)).run environment.answer world =
      (.error error, world.skipped 1) :=
  (run_request _ _ _).trans (answer_fault rfl fault)

theorem execCommand_run {options : SshConnectionOptions} {command : String}
    (fault : environment.fault world.attempts = none) :
    (request (.execCommand options command)).run environment.answer world =
      (.ok (environment.exec world.attempts), world.skipped 1) :=
  (run_request _ _ _).trans (answer_attempt rfl fault)

variable (environment) in
/-- The first command that is not answered ends the session. -/
theorem execCommands_run (options : SshConnectionOptions) (commands : List String)
    (world : World) :
    (∃ error made,
      (execCommands options commands).run environment.answer world =
        (.error error, world.skipped made) ∧
      ∃ n < commands.length, environment.fault (world.attempts + n) ≠ none) ∨
    (execCommands options commands).run environment.answer world =
      (.ok (environment.results world.attempts commands),
        world.skipped commands.length) ∧
      ∀ n < commands.length, environment.fault (world.attempts + n) = none := by
  induction commands generalizing world with
  | nil => exact .inr ⟨rfl, fun n absurdly => absurd absurdly (Nat.not_lt_zero n)⟩
  | cons command commands inductionHypothesis =>
      cases fault : environment.fault world.attempts with
      | some error =>
          refine .inl ⟨error, 1, ?_, 0, Nat.succ_pos _, by simp [fault]⟩
          rw [execCommands, Program.bind_eq, Program.run_bind, execCommand_fault fault]
          rfl
      | none =>
          rw [execCommands, Program.bind_eq, Program.run_bind, execCommand_run fault]
          simp only [resume_ok, Program.bind_eq, Program.run_bind]
          rcases inductionHypothesis (world.skipped 1) with
            ⟨error, made, runs, n, bound, broken⟩ | ⟨runs, served⟩
          · refine .inl ⟨error, 1 + made, ?_, n + 1, by simpa using bound, ?_⟩
            · rw [runs]
              simp [World.skipped, Nat.add_assoc]
            · rwa [Nat.add_comm n, ← Nat.add_assoc]
          · refine .inr ⟨?_, ?_⟩
            · rw [runs]
              simp [World.skipped, Environment.results, Nat.add_comm, Nat.add_left_comm]
            · rintro (_ | n) bound
              · exact fault
              · rw [Nat.add_comm n, ← Nat.add_assoc]
                exact served n (by simpa using bound)

variable (environment) in
theorem runCommands_run (options : SshConnectionOptions) (commands : List String)
    (world : World) :
    (∃ error made,
      (runCommands options commands).run environment.answer world =
        (.error error, world.skipped made) ∧
      ∃ n ≤ commands.length, environment.fault (world.attempts + n) ≠ none) ∨
    (runCommands options commands).run environment.answer world =
      (.ok (environment.results (world.attempts + 1) commands),
        world.skipped (1 + commands.length)) ∧
      ∀ n ≤ commands.length, environment.fault (world.attempts + n) = none := by
  cases fault : environment.fault world.attempts with
  | some error =>
      refine .inl ⟨error, 1, ?_, 0, Nat.zero_le _, by simp [fault]⟩
      rw [runCommands, Program.bind_eq, Program.run_bind, run_request,
        answer_fault rfl fault]
      rfl
  | none =>
      rw [runCommands, Program.bind_eq, Program.run_bind, run_request,
        answer_attempt rfl fault]
      rcases execCommands_run environment options commands
          (world.skipped 1) with ⟨error, made, runs, n, bound, broken⟩ | ⟨runs, served⟩
      · refine .inl ⟨error, 1 + made, ?_, n + 1, bound, ?_⟩
        · refine Eq.trans runs ?_
          simp [World.skipped, Nat.add_assoc]
        · rwa [Nat.add_comm n, ← Nat.add_assoc]
      · refine .inr ⟨?_, ?_⟩
        · refine Eq.trans runs ?_
          simp [World.skipped, Nat.add_assoc]
        · rintro (_ | n) bound
          · exact fault
          · rw [Nat.add_comm n, ← Nat.add_assoc]
            exact served n bound

variable (platform) (environment) in
/-- A failed session settles the event before the job goes on with nothing. -/
private theorem settles_abandoned (current : Current world event) (reason : String)
    (orgId : Option Nat)
    {rest : Option (String × List SshCommandResult) → Job Unit}
    (stops : rest none = .pure ()) :
    Settles environment (((fail platform event reason orgId).bind fun _ =>
      Program.pure none).bind rest) world event := by
  have failed := settles_fail platform environment current reason orgId
  unfold Settles at failed ⊢
  rw [Program.run_bind, Program.run_bind]
  generalize Program.run environment.answer (fail platform event reason orgId) world =
    attempt at failed
  obtain ⟨outcome, after⟩ := attempt
  cases outcome with
  | ok value => simpa [stops] using failed
  | error error => exact failed

/-- The job goes on where the blob can be read and every command of the session is
answered; otherwise the event is settled at once. -/
theorem settles_session (current : Current world event)
    (attempts : world.attempts = 3) (service : Service) (host : Host)
    (targetSnapshot : DeploymentSnapshot) (privateKey : String) (config : Json)
    {rest : Option (String × List SshCommandResult) → Job Unit}
    (stops : rest none = .pure ()) :
    Settles environment ((session platform event service host targetSnapshot privateKey
        config).bind rest) world event ↔
      ∀ blob, readConfig config = .ok blob →
        (∀ n, 3 ≤ n → n < 8 → environment.fault n = none) →
          Settles environment
            (rest (some (blob.containerName, environment.results 4
              (rollbackCommands service blob targetSnapshot.imageTag))))
            (world.skipped 5) event := by
  cases read : readConfig config with
  | error error =>
      refine iff_of_true ?_ (fun blob reads => by cases reads)
      simp only [session, read, Program.ofExcept_error, Program.bind_eq,
        Program.tryCatch_eq, Program.throw_bind, Program.throw_tryCatch,
        Program.pure_eq]
      exact settles_abandoned platform environment current _ _ stops
  | ok blob =>
      simp only [session, read, Program.ofExcept_ok, Program.bind_eq,
        Program.tryCatch_eq, Program.pure_bind, Program.pure_eq]
      rcases runCommands_run environment (host.sshOptions privateKey)
          (rollbackCommands service blob targetSnapshot.imageTag) world with
        ⟨error, made, runs, n, bound, broken⟩ | ⟨runs, served⟩
      · refine iff_of_true ?_ fun other reads unbroken => ?_
        · have abandoned := settles_abandoned platform environment
            (current.skipped made) ("SSH connection to host failed: " ++ error.message)
            (some service.orgId) stops
          unfold Settles at abandoned ⊢
          rw [Program.run_bind] at abandoned
          rwa [Program.run_bind, Program.run_tryCatch, Program.run_bind, runs,
            resume_error, recover_error]
        · rw [rollbackCommands_length] at bound
          exact absurd (unbroken (world.attempts + n) (by omega) (by omega)) broken
      · have unbroken : ∀ n, 3 ≤ n → n < 8 → environment.fault n = none := by
          intro n low high
          obtain ⟨extra, rfl⟩ := Nat.exists_eq_add_of_le low
          exact attempts ▸ served extra (by rw [rollbackCommands_length]; omega)
        unfold Settles
        rw [Program.run_bind, Program.run_tryCatch, Program.run_bind, runs, attempts]
        constructor
        · rintro settled other reads -
          cases reads
          exact settled
        · exact fun settled => settled blob rfl unbroken

theorem execute_settles_iff (current : Current world event)
    (attempts : world.attempts = 3) (service : Service) (host : Host)
    (targetSnapshot : DeploymentSnapshot) (privateKey : String) :
    Settles environment
        (execute platform event service host targetSnapshot privateKey) world event ↔
      ∃ config, decryptConfig platform targetSnapshot = .ok config ∧
        ∀ blob, readConfig config = .ok blob →
          (∀ n, 3 ≤ n → n < 8 → environment.fault n = none) →
          (environment.exec 6).code = some 0 →
            RecreationHandled platform environment world.database.services service
              blob.containerName (environment.exec 7).stdout := by
  unfold execute
  refine Iff.trans (settles_ofExcept current) (exists_congr fun config =>
    and_congr_right fun decrypts => ?_)
  refine Iff.trans (settles_session current attempts service host targetSnapshot
    privateKey config rfl) ?_
  refine forall_congr' fun blob => forall_congr' fun _ => forall_congr' fun _ => ?_
  obtain ⟨stopResult, rmResult, runResult, psResult, results, exits, lists⟩ :=
    results_rollbackCommands environment service blob targetSnapshot.imageTag
  simp only [results]
  have settles := settle_settles_iff platform environment (current.skipped 5)
    (by simp [World.skipped, attempts]) service decrypts blob.containerName stopResult
    rmResult runResult psResult
  rwa [exits, lists] at settles

theorem processEvent_settles_iff (current : Current world event)
    (attempts : world.attempts = 0) :
    Settles environment (processEvent platform event) world event ↔
      NoUnhandledFailure platform environment world.database event := by
  have failed : ∀ made reason orgId,
      Settles environment (fail platform event reason orgId) (world.skipped made) event :=
    fun made => settles_fail platform environment (current.skipped made)
  unfold processEvent NoUnhandledFailure
  refine Iff.trans (settles_lookup 0 current rfl rfl rfl) ?_
  refine and_congr (by rw [attempts]) ?_
  cases world.database.services.byId event.serviceId with
  | none => exact iff_of_true (failed 1 _ _) (fun _ absent => nomatch absent)
  | some service =>
      simp only [Option.some.injEq, forall_eq']
      refine Iff.trans (settles_lookup 1 current rfl rfl rfl) ?_
      refine and_congr (by rw [attempts]) ?_
      cases found : world.database.hosts.byId service.hostId with
      | none => exact iff_of_true (failed 2 _ _) (fun _ absent => nomatch absent)
      | some host =>
          simp only [Option.some.injEq, forall_eq']
          refine Iff.trans (settles_lookup 2 current rfl rfl rfl) ?_
          refine and_congr (by rw [attempts]) ?_
          cases world.database.snapshots.byId event.toSnapshotId with
          | none => exact iff_of_true (failed 3 _ _) (fun _ absent => nomatch absent)
          | some targetSnapshot =>
              simp only [Option.some.injEq, forall_eq']
              cases platform.decrypt host.sshKeyEncrypted with
              | error error =>
                  exact iff_of_true (failed 3 _ _) (fun _ absent => nomatch absent)
              | ok privateKey =>
                  simp only [Except.ok.injEq, forall_eq']
                  exact execute_settles_iff (current.skipped 3)
                    (by simp [World.skipped, attempts]) service host targetSnapshot
                    privateKey

end Jobs

/-- A job that finds its event pending leaves it settled exactly where every step
outside the handlers goes through. -/
theorem process_settles_iff (platform : Platform) (environment : Environment)
    (database : Database) (event : RollbackEvent)
    (found : database.events.byId event.id = some event)
    (pending : event.status = .pending) :
    Settled ((process platform event.id).run environment.answer
        (World.start database)).2.database event ↔
      NoUnhandledFailure platform environment database event := by
  have loads : (query (.findEvent event.id)).run environment.answer
      (World.start database) =
      (.ok (some event), { World.start database with calls := 1 }) :=
    congrArg (fun row => (Except.ok row, { World.start database with calls := 1 })) found
  have loaded : { World.start database with calls := 1 }.database.events.byId event.id =
      some event := found
  obtain ⟨events, saved, runs⟩ := saveEvent_run environment
    { event with status := .inProgress } loaded (by rw [pending]; rfl) rfl
  have current : Current (World.withEvents { World.start database with calls := 1 } events)
      { event with status := .inProgress } :=
    ⟨by simp [World.withEvents, Table.byId_save saved, Keyed.id], rfl⟩
  rw [process, Program.bind_eq, Program.run_bind, loads, resume_ok]
  dsimp only
  rw [Program.bind_eq, Program.run_bind, runs, resume_ok]
  refine Iff.trans (settles_event rfl rfl).symm ?_
  exact processEvent_settles_iff current rfl

/-- Nothing fails, and every command exits with 0. -/
def Environment.faultless : Environment where
  fault _ := none
  exec _ := { stdout := "", stderr := "", code := some 0 }
  random _ _ := 0
  fetch _ := { status := 200, body := none }
  clock _ := 0

/-- Every call is answered, and `docker ps` lists one container. -/
def Environment.listing (row : PsRow) : Environment :=
  { Environment.faultless with
    exec := fun attempt =>
      { stdout := if attempt = 7 then psOutput [row] else ""
        stderr := ""
        code := some 0 } }

/-- A container that comes up: the job goes through to its end. -/
theorem process_settles_recreated :
    Settled ((process Platform.transparent requestedRollback.id).run
      (Environment.listing recreatedRow).answer
      (World.start (requestedDatabase webConfigBlob))).2.database requestedRollback := by
  apply (process_settles_iff Platform.transparent (Environment.listing recreatedRow)
    (requestedDatabase webConfigBlob) requestedRollback rfl rfl).mpr
  refine ⟨rfl, ?_⟩
  rintro service ⟨⟩
  refine ⟨rfl, ?_⟩
  rintro host ⟨⟩
  refine ⟨rfl, ?_⟩
  rintro targetSnapshot ⟨⟩ privateKey -
  refine ⟨webConfig.toJson, decryptConfig_stored rfl, ?_⟩
  rintro blob read - -
  obtain rfl := Except.ok.inj ((readConfig_toJson webConfig).symm.trans read)
  refine ⟨_, parseDockerPsOutput_psOutput recreatedRow_complete, .running,
    by decide +kernel, ?_⟩
  rintro container found -
  have alone : ∀ other ∈ (requestedDatabase webConfigBlob).services, other.id = 1 := by
    intro other member
    rw [List.mem_singleton.mp member]
  exact
    { saveService := rfl
      unclaimed := fun other member differs => absurd (alone other member) differs
      randomBytes := rfl
      createSnapshot := rfl
      writeHealthCheckLog := rfl }

/-- The error of the blob escapes, and the event stays in progress. -/
theorem unreadable_blob_stays_active :
    ¬ Settled ((process Platform.transparent requestedRollback.id).run
      Environment.faultless.answer (World.start (requestedDatabase "not JSON"))).2.database
      requestedRollback := by
  rintro ⟨-, free⟩
  have active : (((process Platform.transparent requestedRollback.id).run
      Environment.faultless.answer (World.start (requestedDatabase "not JSON"))).2.database.perform
      (.findActiveEvent requestedRollback.serviceId)).1.toOption.map Option.isSome =
        some true := by decide +kernel
  rw [free] at active
  cases active

end ServersManager
