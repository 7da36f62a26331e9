/-
Module: ServersManager.RollbackOutcome
Purpose: How a rollback job ends when nothing but the host decides: the condition of
  success, and what success and failure leave behind.
Trusted boundary: none
Main exports:
  Recreated, Recaptured, RollbackSucceeded, succeed_outcome, rollback_outcome
-/
import ServersManager.CryptoService
import ServersManager.RollbackAudit
import ServersManager.SyncMirror

namespace ServersManager

open Library

/-! ### The condition of success -/

/-- `docker run` exited with 0, and the first listed container of the configured name
is this one and runs. -/
def Recreated (containerName : String) (runReply psReply : ExecReply) (row : PsRow) : Prop :=
  runReply.code = some 0 ∧
    ∃ listing, parseDockerPsOutput psReply.stdout = .ok listing ∧
      findRecreated containerName listing = some row.toContainer ∧
      classifyContainerStatus (.str row.status) = .ok .running

theorem Recreated.eq {containerName : String} {runReply psReply : ExecReply}
    {row other : PsRow} (recreated : Recreated containerName runReply psReply row)
    (recreatedOther : Recreated containerName runReply psReply other) : row = other := by
  obtain ⟨-, listing, parses, finds, -⟩ := recreated
  obtain ⟨-, listingOther, parsesOther, findsOther, -⟩ := recreatedOther
  rw [parses] at parsesOther
  cases parsesOther
  have same : row.toContainer = other.toContainer :=
    Option.some.inj (finds.symm.trans findsOther)
  cases row
  cases other
  simp only [PsRow.toContainer, DockerPsContainer.mk.injEq, Json.str.injEq] at same
  simp only [PsRow.mk.injEq]
  exact ⟨same.1, same.2.2.1, same.2.1, same.2.2.2.2, same.2.2.2.1⟩

/-- No other row of the host has this container id. -/
def Unclaimed (services : Table Service) (service : Service) (containerId : String) : Prop :=
  ∀ other ∈ services, other.id ≠ service.id → other.hostId = service.hostId →
    other.containerId ≠ containerId

/-! ### What success leaves behind -/

/-- One snapshot has been added: it is the current one, of this image, holds the
configuration and is attributed to the user; no other has changed but in being
current. -/
def Recaptured (platform : Platform) (before after : Table DeploymentSnapshot)
    (serviceId : Nat) (imageTag : String) (config : DeploymentConfigBlob)
    (triggeredById : Nat) : Prop :=
  ∃ created : DeploymentSnapshot,
    created.serviceId = serviceId ∧ created.imageTag = imageTag ∧
      created.deployedById = some triggeredById ∧ created.isCurrent = true ∧
      decryptConfig platform created = .ok config.toJson ∧
      after.rows = before.rows.map (DeploymentSnapshot.retire serviceId) ++ [created]

/-- The tables after a rollback that succeeded. -/
structure RollbackSucceeded (platform : Platform) (db after : Database)
    (event : RollbackEvent) (service : Service) (targetSnapshot : DeploymentSnapshot)
    (config : DeploymentConfigBlob) (recreated : PsRow) : Prop where
  row : ∃ lastCheckedAt, after.services.byId service.id = some
    { service with
      containerId := recreated.id
      image := (splitImageAndTag targetSnapshot.imageTag).image
      currentTag := (splitImageAndTag targetSnapshot.imageTag).tag
      status := .running
      lastCheckedAt := lastCheckedAt }
  others : ∀ id ≠ service.id, after.services.byId id = db.services.byId id
  snapshots : Recaptured platform db.snapshots after.snapshots service.id
    targetSnapshot.imageTag config event.triggeredById

section Outcome

variable {α : Type} {platform : Platform} {environment : Environment} {world : World}
  {event : RollbackEvent}

/-- A call that does not fail, and what comes after it. -/
theorem attempt_run {call : Call} {value : call.Reply} {after : Database}
    {rest : call.Reply → Job α} (attempt : call.isAttempt)
    (served : environment.fault world.attempts = none)
    (replies : environment.reply world call = (.ok value, after)) :
    ((request call).bind rest).run environment.answer world =
      (rest value).run environment.answer (world.attempted after) := by
  rw [Program.run_bind, run_request, answer_attempt attempt served, replies]
  rfl

theorem now_bind_run {rest : Date → Job α} :
    (now.bind rest).run environment.answer world =
      (rest (environment.clock world.calls)).run environment.answer
        { world with calls := world.calls + 1 } := rfl

theorem perform_saveService_ok {db : Database} {service : Service}
    (clear : ¬ db.services.Clashes service) :
    ∃ services, db.services.save service = some services ∧
      db.perform (.saveService service) = (.ok service, { db with services := services }) := by
  obtain ⟨services, saved⟩ := Table.exists_save clear
  refine ⟨services, saved, ?_⟩
  simp only [Database.perform, Database.answer, saved, Option.map_some]

/-- A new snapshot takes the place of the current one. -/
theorem perform_createSnapshot_ok (db : Database) (snapshot : DeploymentSnapshot) :
    ∃ created snapshots,
      db.perform (.createSnapshot snapshot) =
        (.ok created, { db with snapshots := snapshots }) ∧
      (∃ id, created = { snapshot with id := id, isCurrent := true }) ∧
      snapshots.rows =
        db.snapshots.rows.map (DeploymentSnapshot.retire snapshot.serviceId) ++ [created] := by
  obtain ⟨⟨created, snapshots⟩, inserts⟩ := exists_insert_snapshot db.snapshots snapshot
  refine ⟨created, snapshots, ?_, ?_, Table.insert_rows rfl inserts⟩
  · simp only [Database.perform, Database.answer, inserts, Option.map_some]
  · exact ⟨_, (Table.insert_eq_some.mp inserts).1⟩

theorem perform_writeHealthCheckLog_ok (db : Database) (log : HealthCheckLog) :
    ∃ written logs, db.perform (.writeHealthCheckLog log) =
      (.ok written, { db with healthCheckLogs := logs }) := by
  obtain ⟨written, writes⟩ := db.perform_writeHealthCheckLog log
  obtain ⟨⟨row, logs⟩, inserted, rfl⟩ := Database.answer_eq_ok.mp writes
  refine ⟨row, logs, ?_⟩
  simp only [Database.perform, Database.answer, inserted, Option.map_some]

/-- The new snapshot and the log of a rollback. -/
theorem record_outcome (current : Current world event) (attempts : world.attempts = 9)
    (recorded : ∀ n, 8 ≤ n → n < 12 → environment.fault n = none)
    (roundTrip : ∀ iv text, iv.length = 12 →
      platform.decrypt (platform.encrypt iv text) = .ok text)
    {serviceId triggeredById : Nat} {imageTag : String} {config : DeploymentConfigBlob}
    (input : CreateSnapshotInput)
    (describes : input =
      { serviceId := serviceId
        imageTag := imageTag
        config := config.toJson
        deployedAt := input.deployedAt
        deployedById := some triggeredById })
    (entityId : Nat) (status : String) (rawOutput : Json) :
    ∃ after, Current after event ∧ after.database.services = world.database.services ∧
      Recaptured platform world.database.snapshots after.database.snapshots serviceId
        imageTag config triggeredById ∧
      ∀ rest : Job Unit,
        ((createSnapshot platform input).bind fun _ =>
          (writeHealthCheckLog .service entityId status rawOutput).bind fun _ =>
            rest).run environment.answer world = rest.run environment.answer after := by
  obtain ⟨created, snapshots, creates, ⟨id, rfl⟩, rows⟩ := perform_createSnapshot_ok
    world.database (newSnapshot input (platform.encrypt (environment.bytes world.attempts 12)
      (Json.stringify input.config)))
  obtain ⟨written, logs, writes⟩ := perform_writeHealthCheckLog_ok
    { world.database with snapshots := snapshots }
    (newHealthCheckLog .service entityId status rawOutput)
  have nine : environment.fault world.attempts = none := by
    rw [attempts]
    exact recorded 9 (by decide) (by decide)
  have ten : environment.fault (world.attempts + 1) = none := by
    rw [attempts]
    exact recorded 10 (by decide) (by decide)
  have eleven : environment.fault (world.attempts + 1 + 1) = none := by
    rw [attempts]
    exact recorded 11 (by decide) (by decide)
  refine ⟨((world.attempted world.database).attempted
    { world.database with snapshots := snapshots }).attempted
      { world.database with snapshots := snapshots, healthCheckLogs := logs },
    current.of_events rfl, rfl, ?_, ?_⟩
  · rw [describes] at rows
    refine ⟨_, ?_, ?_, ?_, rfl, ?_, rows⟩
    · rw [describes]
      rfl
    · rw [describes]
      rfl
    · rw [describes]
      rfl
    · apply decryptConfig_stored
      rw [describes]
      exact roundTrip _ _ (environment.length_bytes _ _)
  · intro rest
    simp only [createSnapshot, encrypt, Program.bind_eq, Program.bind_assoc]
    refine Eq.trans (attempt_run rfl nine rfl) ?_
    refine Eq.trans (attempt_run rfl ten creates) ?_
    exact attempt_run rfl eleven writes

/-- The end of a rollback whose container runs. -/
theorem succeed_outcome (platform : Platform) (environment : Environment)
    (current : Current world event) (attempts : world.attempts = 8)
    (recorded : ∀ n, 8 ≤ n → n < 12 → environment.fault n = none)
    (roundTrip : ∀ iv text, iv.length = 12 →
      platform.decrypt (platform.encrypt iv text) = .ok text)
    {service : Service} {targetSnapshot : DeploymentSnapshot}
    {config : DeploymentConfigBlob}
    (decrypts : decryptConfig platform targetSnapshot = .ok config.toJson)
    {recreated : PsRow}
    (unclaimed : Unclaimed world.database.services service recreated.id) :
    RollbackSucceeded platform world.database
        ((succeed platform event service (.str recreated.id) targetSnapshot .running).run
          environment.answer world).2.database event service targetSnapshot config
        recreated ∧
      Completed
        ((succeed platform event service (.str recreated.id) targetSnapshot .running).run
          environment.answer world).2.database event .succeeded [] := by
  have clear : ¬ world.database.services.Clashes
      (rolledBackService platform service (.str recreated.id) targetSnapshot .running
        (environment.clock world.calls)) := by
    apply clashes_rolledBackService.mpr
    rw [platform.columnText_str]
    exact unclaimed
  obtain ⟨services, saved, saves⟩ := perform_saveService_ok clear
  have eight : environment.fault world.attempts = none := by
    rw [attempts]
    exact recorded 8 (by decide) (by decide)
  let stored : World :=
    World.attempted { world with calls := world.calls + 1 }
      { world.database with services := services }
  have currentStored : Current { stored with calls := stored.calls + 1 } event :=
    current.of_events rfl
  obtain ⟨written, currentRecorded, sameServices, recaptured, records⟩ :=
    record_outcome currentStored (congrArg (· + 1) attempts) recorded roundTrip
      (rollbackSnapshotInput event service targetSnapshot config.toJson
        (environment.clock stored.calls)) rfl service.id ServiceStatus.running.text
      (rollbackRawOutput event targetSnapshot)
  obtain ⟨after, completes, same, completed⟩ := complete_completes environment
    currentRecorded .succeeded
  have ran : (succeed platform event service (.str recreated.id) targetSnapshot .running).run
      environment.answer world = (.ok (), after) := by
    unfold succeed
    simp only [Program.bind_eq, decrypts, Program.ofExcept_ok, Program.pure_bind]
    refine Eq.trans now_bind_run ?_
    refine Eq.trans (attempt_run rfl eight saves) ?_
    refine Eq.trans now_bind_run ?_
    exact (records _).trans completes
  rw [ran]
  have services' : after.database.services = services := same.services.trans sameServices
  refine ⟨⟨⟨environment.clock world.calls, ?_⟩, ?_, ?_⟩, completed⟩
  · rw [services', Table.byId_save saved]
    refine (if_pos rfl).trans ?_
    rw [rolledBackService, platform.columnText_str]
  · intro id differs
    rw [services', Table.byId_save saved]
    exact if_neg differs
  · rw [same.snapshots]
    exact recaptured

/-- How a rollback ends, as far as the host decides it. -/
structure RollbackOutcome (platform : Platform) (db after : Database) (event : RollbackEvent)
    (service : Service) (targetSnapshot : DeploymentSnapshot) (config : DeploymentConfigBlob)
    (entries : List RollbackLogEntry) (runReply psReply : ExecReply) : Prop where
  succeeded : ∀ row, Recreated config.containerName runReply psReply row →
    RollbackSucceeded platform db after event service targetSnapshot config row ∧
      ∃ more, Completed after event .succeeded (entries ++ more)
  failed : (¬ ∃ row, Recreated config.containerName runReply psReply row) →
    SameHistory db after ∧ ∃ more, Completed after event .failed (entries ++ more)

theorem RollbackOutcome.of_failed {db after : Database} {service : Service}
    {targetSnapshot : DeploymentSnapshot} {config : DeploymentConfigBlob}
    {entries more : List RollbackLogEntry} {runReply psReply : ExecReply}
    (impossible : ∀ row, ¬ Recreated config.containerName runReply psReply row)
    (same : SameHistory db after)
    (completed : Completed after event .failed (entries ++ more)) :
    RollbackOutcome platform db after event service targetSnapshot config entries runReply
      psReply where
  succeeded row recreated := absurd recreated (impossible row)
  failed _ := ⟨same, more, completed⟩

theorem RollbackSucceeded.of_history {db middle after : Database} {eventBefore : RollbackEvent}
    {service : Service} {targetSnapshot : DeploymentSnapshot} {config : DeploymentConfigBlob}
    {row : PsRow}
    (succeeded : RollbackSucceeded platform middle after event service targetSnapshot config
      row) (same : SameHistory db middle)
    (user : event.triggeredById = eventBefore.triggeredById) :
    RollbackSucceeded platform db after eventBefore service targetSnapshot config row where
  row := succeeded.row
  others id differs := by
    rw [succeeded.others id differs, same.services]
  snapshots := by
    rw [← same.snapshots, ← user]
    exact succeeded.snapshots

/-- What follows the first entries. -/
theorem RollbackOutcome.prepend {db middle after : Database} {first : RollbackEvent}
    {service : Service} {targetSnapshot : DeploymentSnapshot} {config : DeploymentConfigBlob}
    {entries more : List RollbackLogEntry} {runReply psReply : ExecReply}
    (outcome : RollbackOutcome platform middle after event service targetSnapshot config more
      runReply psReply) (same : SameHistory db middle)
    (appended : first.Appended event entries) :
    RollbackOutcome platform db after first service targetSnapshot config (entries ++ more)
      runReply psReply := by
  have user : event.triggeredById = first.triggeredById := by
    obtain ⟨logged, eq, -⟩ := appended
    rw [eq]
  constructor
  · intro row recreated
    obtain ⟨succeeded, last, completed⟩ := outcome.succeeded row recreated
    refine ⟨succeeded.of_history same user, last, ?_⟩
    rw [List.append_assoc]
    exact completed.prepend appended
  · intro impossible
    obtain ⟨unchanged, last, completed⟩ := outcome.failed impossible
    refine ⟨same.trans unchanged, last, ?_⟩
    rw [List.append_assoc]
    exact completed.prepend appended

/-- Of what is logged, only the beginning. -/
theorem RollbackOutcome.shorten {db after : Database} {service : Service}
    {targetSnapshot : DeploymentSnapshot} {config : DeploymentConfigBlob}
    (entries : List RollbackLogEntry) {later : List RollbackLogEntry}
    {runReply psReply : ExecReply}
    (outcome : RollbackOutcome platform db after event service targetSnapshot config
      (entries ++ later) runReply psReply) :
    RollbackOutcome platform db after event service targetSnapshot config entries runReply
      psReply := by
  constructor
  · intro row recreated
    obtain ⟨succeeded, more, completed⟩ := outcome.succeeded row recreated
    rw [List.append_assoc] at completed
    exact ⟨succeeded, _, completed⟩
  · intro impossible
    obtain ⟨same, more, completed⟩ := outcome.failed impossible
    rw [List.append_assoc] at completed
    exact ⟨same, _, completed⟩

/-- The four results are appended one after another. -/
theorem settle_appends (platform : Platform) (environment : Environment)
    (current : Current world event)
    (service : Service) (targetSnapshot : DeploymentSnapshot) (containerName : String)
    (stopResult rmResult runResult psResult : SshCommandResult) :
    ∃ listed after,
      Appends world after event listed
          (auditEntries [stopResult, rmResult, runResult, psResult]) ∧
        (settle platform event service targetSnapshot containerName
          [stopResult, rmResult, runResult, psResult]).run environment.answer world =
          (if runResult.exitCode ≠ some 0 then
            fail platform listed ("docker run failed: " ++ runFailure runResult)
              (some service.orgId)
          else
            checkRecreated platform listed service targetSnapshot containerName
              psResult).run environment.answer after := by
  obtain ⟨stopped, afterStop, toStop, stops⟩ := result_appends (α := Unit)
    environment current "stop_container" stopResult
  obtain ⟨removed, afterRemove, toRemove, removes⟩ := result_appends (α := Unit)
    environment toStop.continues.current "remove_container" rmResult
  obtain ⟨started, afterStart, toStart, starts⟩ := result_appends (α := Unit)
    environment toRemove.continues.current "start_container" runResult
  obtain ⟨listed, afterList, toList, lists⟩ := result_appends (α := Unit)
    environment toStart.continues.current "list_containers" psResult
  refine ⟨listed, afterList, ((toStop.trans toRemove).trans toStart).trans toList, ?_⟩
  unfold settle
  refine Eq.trans (stops _) ?_
  refine Eq.trans (removes _) ?_
  refine Eq.trans (starts _) ?_
  exact lists _

/-- The classification is appended too. -/
theorem checkRecreated_appends (platform : Platform) (environment : Environment)
    (current : Current world event) (service : Service)
    (targetSnapshot : DeploymentSnapshot) {containerName : String}
    {psResult : SshCommandResult} {listing : DockerPsParseResult}
    {found : Option DockerPsContainer} {newStatus : ServiceStatus}
    (parses : parseDockerPsOutput psResult.stdout = .ok listing)
    (finds : findRecreated containerName listing = found)
    (ofStatus : recreatedStatus found = .ok newStatus) :
    ∃ noted after,
      Appends world after event noted [noteEntry "post_rollback_health_check"
        (healthCheckMessage containerName found newStatus)] ∧
        (checkRecreated platform event service targetSnapshot containerName psResult).run
          environment.answer world =
          (match newStatus, found with
          | .running, some container =>
              succeed platform noted service container.id targetSnapshot newStatus
          | _, _ =>
              fail platform noted
                ("Post-rollback health check failed: container status is \"" ++
                  newStatus.text ++ "\"") (some service.orgId)).run
            environment.answer after := by
  obtain ⟨noted, after, appends, notes⟩ := message_appends (α := Unit) environment current
    "post_rollback_health_check" (healthCheckMessage containerName found newStatus)
  refine ⟨noted, after, appends, ?_⟩
  unfold checkRecreated
  simp only [parses, finds, Program.bind_eq, Program.ofExcept_ok, Program.pure_bind, ofStatus]
  exact notes _

/-- What follows a `docker run` that exited with 0. -/
theorem checkRecreated_outcome (current : Current world event) (attempts : world.attempts = 8)
    (roundTrip : ∀ iv text, iv.length = 12 →
      platform.decrypt (platform.encrypt iv text) = .ok text)
    {service : Service} {targetSnapshot : DeploymentSnapshot}
    {config : DeploymentConfigBlob}
    (decrypts : decryptConfig platform targetSnapshot = .ok config.toJson)
    {runReply psReply : ExecReply} (exits : runReply.code = some 0)
    (recorded : (∃ row, Recreated config.containerName runReply psReply row) →
      ∀ n, 8 ≤ n → n < 12 → environment.fault n = none)
    (textual : ∀ line ∈ nonBlankLines psReply.stdout, TextualLine line)
    (unclaimed : ∀ row, Recreated config.containerName runReply psReply row →
      Unclaimed world.database.services service row.id)
    (psResult : SshCommandResult) (lists : psResult.stdout = psReply.stdout) :
    RollbackOutcome platform world.database
      ((checkRecreated platform event service targetSnapshot config.containerName
        psResult).run environment.answer world).2.database event service targetSnapshot
      config [] runReply psReply := by
  obtain ⟨rows, skippedLines, parses⟩ := parseDockerPsOutput_textual textual
  have status : ∃ status, recreatedStatus (findRecreated config.containerName
      { containers := rows.map PsRow.toContainer, skippedLines := skippedLines }) =
        .ok status := by
    cases finds : findRecreated config.containerName
        { containers := rows.map PsRow.toContainer, skippedLines := skippedLines } with
    | none => exact ⟨.unknown, rfl⟩
    | some container =>
        obtain ⟨row, -, rfl⟩ := List.mem_map.mp (List.mem_of_find?_eq_some finds)
        exact classifyContainerStatus_str row.status
  obtain ⟨newStatus, ofStatus⟩ := status
  obtain ⟨noted, after, appends, runs⟩ := checkRecreated_appends platform
    environment current service targetSnapshot (lists ▸ parses) rfl ofStatus
  have same : SameHistory world.database after.database := .of_continues appends.continues
  have eight : after.attempts = 8 := appends.continues.attempts.trans attempts
  suffices outcome : RollbackOutcome platform after.database _ noted service targetSnapshot
      config [] runReply psReply from
    (outcome.prepend same appends.appended).shorten []
  rw [runs]
  have failing : ∀ reason,
      (∀ row, ¬ Recreated config.containerName runReply psReply row) →
      RollbackOutcome platform after.database
        ((fail platform noted reason (some service.orgId)).run environment.answer
          after).2.database noted service targetSnapshot config [] runReply psReply := by
    intro reason impossible
    obtain ⟨unchanged, completed⟩ := fail_completes platform environment
      appends.continues.current reason (some service.orgId)
    exact .of_failed impossible unchanged completed
  cases finds : findRecreated config.containerName
      { containers := rows.map PsRow.toContainer, skippedLines := skippedLines } with
  | none =>
      have impossible : ∀ row, ¬ Recreated config.containerName runReply psReply row := by
        rintro row ⟨-, listing, parsesTo, findsRow, -⟩
        cases parses.symm.trans parsesTo
        cases finds.symm.trans findsRow
      cases newStatus <;> exact failing _ impossible
  | some container =>
      obtain ⟨row, -, rfl⟩ := List.mem_map.mp (List.mem_of_find?_eq_some finds)
      rw [finds] at ofStatus
      have impossible : newStatus ≠ .running →
          ∀ row, ¬ Recreated config.containerName runReply psReply row := by
        rintro stopped other ⟨-, listing, parsesTo, findsOther, runsOther⟩
        cases parses.symm.trans parsesTo
        have sameRow : row.toContainer = other.toContainer :=
          Option.some.inj (finds.symm.trans findsOther)
        have sameStatus : Json.str row.status = .str other.status :=
          congrArg DockerPsContainer.status sameRow
        rw [← sameStatus] at runsOther
        exact stopped (Except.ok.inj (ofStatus.symm.trans runsOther))
      cases newStatus with
      | running =>
          have recreated : Recreated config.containerName runReply psReply row :=
            ⟨exits, _, parses, finds, ofStatus⟩
          have free : Unclaimed after.database.services service row.id := by
            rw [same.services]
            exact unclaimed row recreated
          obtain ⟨succeeded, completed⟩ := succeed_outcome platform environment
            appends.continues.current eight (recorded ⟨row, recreated⟩) roundTrip decrypts free
          constructor
          · intro other recreatedOther
            rw [recreatedOther.eq recreated]
            exact ⟨succeeded, [], completed⟩
          · intro absent
            exact absurd ⟨row, recreated⟩ absent
      | stopped => exact failing _ (impossible nofun)
      | unhealthy => exact failing _ (impossible nofun)
      | unknown => exact failing _ (impossible nofun)
      | crashLoop => exact failing _ (impossible nofun)

/-- A job that has come to its session. -/
theorem execute_outcome (current : Current world event) (attempts : world.attempts = 3)
    (served : ∀ n < 8, environment.fault n = none)
    (roundTrip : ∀ iv text, iv.length = 12 →
      platform.decrypt (platform.encrypt iv text) = .ok text)
    {service : Service} (host : Host) {targetSnapshot : DeploymentSnapshot}
    (privateKey : String) {config : DeploymentConfigBlob}
    (decrypts : decryptConfig platform targetSnapshot = .ok config.toJson)
    (recorded :
      (∃ row, Recreated config.containerName (environment.exec 6) (environment.exec 7) row) →
        ∀ n, 8 ≤ n → n < 12 → environment.fault n = none)
    (textual : ∀ line ∈ nonBlankLines (environment.exec 7).stdout, TextualLine line)
    (unclaimed : ∀ row,
      Recreated config.containerName (environment.exec 6) (environment.exec 7) row →
        Unclaimed world.database.services service row.id) :
    RollbackOutcome platform world.database
      ((execute platform event service host targetSnapshot privateKey).run
        environment.answer world).2.database event service targetSnapshot config
      (auditEntries
        (environment.results 4 (rollbackCommands service config targetSnapshot.imageTag)))
      (environment.exec 6) (environment.exec 7) := by
  rcases runCommands_run environment (host.sshOptions privateKey)
      (rollbackCommands service config targetSnapshot.imageTag) world with
    ⟨-, -, -, n, bound, broken⟩ | ⟨runs, -⟩
  · rw [attempts] at broken
    rw [rollbackCommands_length] at bound
    exact absurd (served (3 + n) (by omega)) broken
  rw [attempts] at runs
  obtain ⟨stopResult, rmResult, runResult, psResult, results, exits, lists⟩ :=
    results_rollbackCommands environment service config targetSnapshot.imageTag
  have opens : (execute platform event service host targetSnapshot privateKey).run
      environment.answer world =
      (settle platform event service targetSnapshot config.containerName
        (environment.results 4 (rollbackCommands service config
          targetSnapshot.imageTag))).run environment.answer (world.skipped 5) := by
    simp only [execute, decrypts, session, readConfig_toJson, Program.ofExcept_ok,
      Program.bind_eq, Program.tryCatch_eq, Program.pure_bind, Program.pure_eq,
      Program.run_bind, Program.run_tryCatch, runs, resume_ok, recover_ok, Program.run_pure]
    rfl
  rw [opens, results]
  obtain ⟨listed, after, appends, settles⟩ := settle_appends platform
    environment (current.skipped 5) service targetSnapshot config.containerName stopResult
    rmResult runResult psResult
  have same : SameHistory world.database after.database :=
    ⟨appends.continues.services, appends.continues.snapshots⟩
  rw [settles]
  by_cases exited : runResult.exitCode ≠ some 0
  · rw [if_pos exited]
    obtain ⟨unchanged, completed⟩ := fail_completes platform environment
      appends.continues.current ("docker run failed: " ++ runFailure runResult)
      (some service.orgId)
    apply RollbackOutcome.of_failed _ (same.trans unchanged)
      (completed.prepend appends.appended)
    rintro row ⟨exitsOk, -⟩
    rw [exits] at exited
    exact exited exitsOk
  · rw [if_neg exited]
    rw [not_not, exits] at exited
    have free : ∀ row,
        Recreated config.containerName (environment.exec 6) (environment.exec 7) row →
          Unclaimed after.database.services service row.id := by
      rw [same.services]
      exact unclaimed
    have checked := checkRecreated_outcome appends.continues.current
      (appends.continues.attempts.trans (congrArg (· + 5) attempts)) roundTrip decrypts
      exited recorded textual free psResult lists
    have outcome := checked.prepend same appends.appended
    rwa [List.append_nil] at outcome

/-- A rollback succeeds exactly when the container has been recreated and runs; success
leaves its row, one new snapshot and the log, failure the log alone. -/
theorem rollback_outcome (platform : Platform) (environment : Environment) (db : Database)
    (event : RollbackEvent) (service : Service) (host : Host)
    (targetSnapshot : DeploymentSnapshot) (privateKey : String)
    (config : DeploymentConfigBlob)
    (rows : RollbackInputs platform db event service host targetSnapshot privateKey)
    (unopposed : Unopposed db.events event)
    (decrypts : decryptConfig platform targetSnapshot = .ok config.toJson)
    (roundTrip : ∀ iv text, iv.length = 12 →
      platform.decrypt (platform.encrypt iv text) = .ok text)
    (served : ∀ n < 8, environment.fault n = none)
    (recorded :
      (∃ row, Recreated config.containerName (environment.exec 6) (environment.exec 7) row) →
        ∀ n, 8 ≤ n → n < 12 → environment.fault n = none)
    (textual : ∀ line ∈ nonBlankLines (environment.exec 7).stdout, TextualLine line)
    (unclaimed : ∀ row,
      Recreated config.containerName (environment.exec 6) (environment.exec 7) row →
        Unclaimed db.services service row.id) :
    let after := ((process platform event.id).run environment.answer
      (World.start db)).2.database
    ((after.events.byId event.id).map RollbackEvent.status = some .succeeded ↔
      ∃ row, Recreated config.containerName (environment.exec 6) (environment.exec 7) row) ∧
      (∀ row, Recreated config.containerName (environment.exec 6) (environment.exec 7) row →
        RollbackSucceeded platform db after event service targetSnapshot config row) ∧
      ((¬ ∃ row, Recreated config.containerName (environment.exec 6) (environment.exec 7)
          row) →
        (after.events.byId event.id).map RollbackEvent.status = some .failed ∧
          SameHistory db after) ∧
      ∃ status more, Completed after event status
        (auditEntries (environment.results 4
          (rollbackCommands service config targetSnapshot.imageTag)) ++ more) := by
  obtain ⟨world, attempts, current, same, runs⟩ := process_executes rows unopposed
    fun n small => served n (by omega)
  have free : ∀ row,
      Recreated config.containerName (environment.exec 6) (environment.exec 7) row →
        Unclaimed world.database.services service row.id := by
    rw [same.services]
    exact unclaimed
  have executed := execute_outcome current attempts served roundTrip host privateKey decrypts
    recorded textual free
  rw [← runs] at executed
  by_cases exists_row : ∃ row,
      Recreated config.containerName (environment.exec 6) (environment.exec 7) row
  · obtain ⟨row, recreated⟩ := exists_row
    obtain ⟨-, more, ⟨last, found, status, rest⟩⟩ := executed.succeeded row recreated
    refine ⟨iff_of_true ?_ ⟨row, recreated⟩, ?_, absurd ⟨row, recreated⟩, .succeeded, more,
      ⟨last, found, status, rest⟩⟩
    · rw [found, Option.map_some, status]
    · intro other recreatedOther
      exact (executed.succeeded other recreatedOther).1.of_history same rfl
  · obtain ⟨unchanged, more, ⟨last, found, status, rest⟩⟩ := executed.failed exists_row
    have ends : (((process platform event.id).run environment.answer
        (World.start db)).2.database.events.byId event.id).map RollbackEvent.status =
        some .failed := by
      rw [found, Option.map_some, status]
    refine ⟨iff_of_false ?_ exists_row, ?_, fun _ => ⟨ends, same.trans unchanged⟩, .failed,
      more, ⟨last, found, status, rest⟩⟩
    · rw [ends]
      exact nofun
    · intro row recreated
      exact absurd ⟨row, recreated⟩ exists_row

end Outcome

/-! ### A container that comes up -/

theorem listing_recreated :
    Recreated webConfig.containerName ((Environment.listing recreatedRow).exec 6)
      ((Environment.listing recreatedRow).exec 7) recreatedRow :=
  ⟨rfl, _, parseDockerPsOutput_psOutput recreatedRow_complete, rfl, by decide +kernel⟩

/-- A text encrypted under the key of zeros. -/
def sealedText (text : String) : String :=
  zeroKeyService.frame (List.replicate 12 0) text

/-- The host's private key and the snapshot's configuration are encrypted. -/
def sealedDatabase : Database :=
  { requestedDatabase (sealedText webConfigBlob) with
    hosts := Table.single { registeredHost with sshKeyEncrypted := sealedText "key" } }

theorem sealed_rows : ∃ service host targetSnapshot,
    RollbackRows (zeroKeyService.platform .transparent) sealedDatabase requestedRollback
      service host targetSnapshot "key" ∧
    targetSnapshot.configBlob = sealedText webConfigBlob :=
  ⟨_, _, _, ⟨⟨rfl, rfl, rfl, rfl, zeroKeyService.decrypt_frame rfl "key"⟩, rfl⟩, rfl⟩

theorem rollback_outcome_succeeded : ∃ service targetSnapshot,
    RollbackSucceeded (zeroKeyService.platform .transparent) sealedDatabase
      ((process (zeroKeyService.platform .transparent) requestedRollback.id).run
        (Environment.listing recreatedRow).answer (World.start sealedDatabase)).2.database
      requestedRollback service targetSnapshot webConfig recreatedRow := by
  obtain ⟨service, host, targetSnapshot, rows, stored⟩ := sealed_rows
  have alone : Unclaimed sealedDatabase.services service recreatedRow.id := by
    intro other member differs
    obtain ⟨found, -⟩ := Table.byId_eq_some.mp rows.onService
    have same : other = service :=
      (List.mem_singleton.mp member).trans (List.mem_singleton.mp found).symm
    exact absurd (congrArg Service.id same) differs
  have decrypts : decryptConfig (zeroKeyService.platform .transparent) targetSnapshot =
      .ok webConfig.toJson := by
    apply decryptConfig_stored
    rw [stored]
    exact zeroKeyService.decrypt_frame rfl webConfigBlob
  have outcome := rollback_outcome (zeroKeyService.platform .transparent)
    (Environment.listing recreatedRow) sealedDatabase requestedRollback service host
    targetSnapshot "key" webConfig rows.toRollbackInputs rows.unopposed decrypts
    (fun iv text length => zeroKeyService.decrypt_frame length text) (fun _ _ => rfl)
    (fun _ _ _ _ => rfl) (textualLine_psOutput [recreatedRow])
    (fun row recreated => by
      rw [recreated.eq listing_recreated]
      exact alone)
  exact ⟨service, targetSnapshot, outcome.2.1 recreatedRow listing_recreated⟩

end ServersManager
