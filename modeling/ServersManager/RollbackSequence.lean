/-
Module: ServersManager.RollbackSequence
Purpose: The rollbacks of one service one after another, on a Docker host that remembers
  what the ones before have left behind.
Trusted boundary: assumed laws of the Docker host
Main exports:
  DockerHost, DockerHost.Lawful, RollbackJob, RollbackJob.LeavesBehind, Identified,
  RollbackJobs, rollbacks_identified
-/
import ServersManager.RollbackOutcome

namespace ServersManager

open Library

/-! ### A Docker host -/

/-- A host that commands are executed on: its replies, the container that has a name, and
the ids it has given to containers so far. -/
structure DockerHost (σ : Type) where
  exec : σ → String → ExecReply × σ
  holder : σ → String → Option String
  Issued : σ → String → Prop

section Host

variable {σ : Type}

/-- The state after some commands. -/
def DockerHost.after (machine : DockerHost σ) (state : σ) (commands : List String) : σ :=
  commands.foldl (fun state command => (machine.exec state command).2) state

/-- No container keeps another from having its name but the one of this id, which may be
gone. -/
def DockerHost.Spares (machine : DockerHost σ) (name containerId : String)
    (before after : σ) : Prop :=
  machine.holder after name = machine.holder before name ∨
    machine.holder before name = some containerId ∧ machine.holder after name = none

/-- What Docker documents of the four commands of a rollback, as to one name: a container
is stopped and removed by its id, a name is given once, ids are never given again, and
every container is listed. -/
structure DockerHost.Lawful (machine : DockerHost σ) (name : String) : Prop where
  issued : ∀ state command id, machine.Issued state id →
    machine.Issued (machine.exec state command).2 id
  known : ∀ state id, machine.holder state name = some id → machine.Issued state id
  stops : ∀ state id, machine.Issued state id →
    machine.Spares name id state (machine.exec state (stopCommand id)).2
  removes : ∀ state id, machine.Issued state id →
    machine.Spares name id state (machine.exec state (rmCommand id)).2
  refuses : ∀ state config imageTag id, config.containerName = name →
    (∀ text ∈ splicedTexts config imageTag, '\x00' ∉ text.toList) →
    machine.holder state name = some id →
    (machine.exec state (buildDockerRunCommand config imageTag)).1.code ≠ some 0 ∧
      machine.holder (machine.exec state (buildDockerRunCommand config imageTag)).2 name =
        some id
  creates : ∀ state config imageTag, config.containerName = name →
    (∀ text ∈ splicedTexts config imageTag, '\x00' ∉ text.toList) →
    machine.holder state name = none →
    machine.holder (machine.exec state (buildDockerRunCommand config imageTag)).2 name =
        none ∨
      ∃ id, ¬ machine.Issued state id ∧
        machine.holder (machine.exec state (buildDockerRunCommand config imageTag)).2 name =
          some id
  lists : ∀ state,
    machine.holder (machine.exec state dockerPsAllJsonCommand).2 name =
        machine.holder state name ∧
      ∃ rows, (machine.exec state dockerPsAllJsonCommand).1.stdout = psOutput rows ∧
        (∀ row ∈ rows, row.Complete) ∧
        ∀ row ∈ rows, row.names = name → machine.holder state name = some row.id

variable {machine : DockerHost σ} {name : String}

/-- Docker forgets no id that it has given, whatever commands it is sent. -/
theorem DockerHost.after_issued (lawful : machine.Lawful name) {id : String} :
    ∀ (commands : List String) (state : σ), machine.Issued state id →
      machine.Issued (machine.after state commands) id := by
  intro commands
  induction commands with
  | nil =>
      intro state issued
      exact issued
  | cons command commands inductionHypothesis =>
      intro state issued
      exact inductionHypothesis _ (lawful.issued state command id issued)

/-- What spares the name twice spares it. -/
theorem DockerHost.Spares.trans {containerId : String} {first second third : σ}
    (before : machine.Spares name containerId first second)
    (after : machine.Spares name containerId second third) :
    machine.Spares name containerId first third := by
  rcases before with same | ⟨held, free⟩
  · rcases after with sameAfter | ⟨held, free⟩
    · exact .inl (sameAfter.trans same)
    · exact .inr ⟨same.symm.trans held, free⟩
  · rcases after with sameAfter | ⟨heldAfter, -⟩
    · exact .inr ⟨held, sameAfter.trans free⟩
    · rw [free] at heldAfter
      cases heldAfter

/-- Nothing but the container of this id has gone, and nothing but a new one has come in
its place. -/
def DockerHost.Moves (machine : DockerHost σ) (name containerId : String)
    (before after : σ) : Prop :=
  machine.Spares name containerId before after ∨
    (machine.holder before name = none ∨
      machine.holder before name = some containerId) ∧
    ∃ id, ¬ machine.Issued before id ∧ machine.holder after name = some id

end Host

/-! ### One job after another -/

/-- A job, the rows it finds, and the host as it finds it.  Of its commands the host has
executed some; a session that breaks off may have come to any of them. -/
structure RollbackJob (σ : Type) where
  environment : Environment
  database : Database
  state : σ
  executed : Nat
  event : RollbackEvent
  service : Service
  host : Host
  targetSnapshot : DeploymentSnapshot
  privateKey : String
  config : DeploymentConfigBlob

/-- The services, and the host. -/
structure Site (σ : Type) where
  services : Table Service
  state : σ

section Jobs

variable {σ : Type}

def RollbackJob.commands (job : RollbackJob σ) : List String :=
  rollbackCommands job.service job.config job.targetSnapshot.imageTag

/-- The database after the job. -/
def RollbackJob.after (platform : Platform) (job : RollbackJob σ) : Database :=
  ((process platform job.event.id).run job.environment.answer
    (World.start job.database)).2.database

def RollbackJob.start (job : RollbackJob σ) : Site σ :=
  { services := job.database.services
    state := job.state }

def RollbackJob.finish (platform : Platform) (machine : DockerHost σ)
    (job : RollbackJob σ) : Site σ :=
  { services := (job.after platform).services
    state := machine.after job.state (job.commands.take job.executed) }

def RollbackJob.Succeeded (platform : Platform) (job : RollbackJob σ) : Prop :=
  ((job.after platform).events.byId job.event.id).map RollbackEvent.status =
    some .succeeded

/-- The session does not break off. -/
def RollbackJob.Completes (job : RollbackJob σ) : Prop :=
  ∀ n < 8, job.environment.fault n = none

/-- What the host has replied to `docker run` and `docker ps` shows this container. -/
def RollbackJob.Recreates (job : RollbackJob σ) (row : PsRow) : Prop :=
  Recreated job.config.containerName (job.environment.exec 6) (job.environment.exec 7) row

/-- The job has its rows, the database answers where it is asked for them and where a
success is recorded, and the host replies to the commands. -/
structure RollbackJob.Runs (platform : Platform) (machine : DockerHost σ)
    (serviceId : Nat) (name : String) (job : RollbackJob σ) : Prop where
  inputs : RollbackInputs platform job.database job.event job.service job.host
    job.targetSnapshot job.privateKey
  unopposed : Unopposed job.database.events job.event
  ofService : job.event.serviceId = serviceId
  decrypts : decryptConfig platform job.targetSnapshot = .ok job.config.toJson
  named : job.config.containerName = name
  textual : ∀ text ∈ splicedTexts job.config job.targetSnapshot.imageTag,
    '\x00' ∉ text.toList
  served : ∀ n < 3, job.environment.fault n = none
  recorded : job.Completes → (∃ row, job.Recreates row) →
    ∀ n, 8 ≤ n → n < 12 → job.environment.fault n = none
  executed : job.Completes → job.executed = 4
  replies : ∀ n command, job.commands[n]? = some command →
    job.environment.exec (4 + n) =
      (machine.exec (machine.after job.state (job.commands.take n)) command).1

/-- The host's state before `docker run`. -/
def RollbackJob.freed (machine : DockerHost σ) (job : RollbackJob σ) : σ :=
  machine.after job.state (job.commands.take 2)

/-- The host's state after `docker run`. -/
def RollbackJob.started (machine : DockerHost σ) (job : RollbackJob σ) : σ :=
  machine.after job.state (job.commands.take 3)

/-- The service is on the host, and the ids of the host's rows are ids of containers. -/
structure Hosted (machine : DockerHost σ) (serviceId hostId : Nat) (site : Site σ) :
    Prop where
  row : ∃ service, site.services.byId serviceId = some service ∧ service.hostId = hostId
  issued : ∀ service ∈ site.services, service.hostId = hostId →
    machine.Issued site.state service.containerId

/-- What else may happen between two jobs: other rows and containers come and go, but the
service keeps its container and the name its holder. -/
structure Drifts (machine : DockerHost σ) (serviceId hostId : Nat) (name : String)
    (before after : Site σ) : Prop where
  container : (after.services.byId serviceId).map Service.containerId =
    (before.services.byId serviceId).map Service.containerId
  holder : machine.holder after.state name = machine.holder before.state name
  hosted : Hosted machine serviceId hostId after

variable {platform : Platform} {machine : DockerHost σ} {serviceId hostId : Nat}
  {name : String} {job : RollbackJob σ}

/-- Stopping and removing a container frees its name at most, and no other container's. -/
theorem RollbackJob.freed_spares (lawful : machine.Lawful name) (job : RollbackJob σ)
    (issued : machine.Issued job.state job.service.containerId) :
    machine.Spares name job.service.containerId job.state (job.freed machine) := by
  apply DockerHost.Spares.trans
  · exact lawful.stops job.state job.service.containerId issued
  · exact lawful.removes _ job.service.containerId (lawful.issued _ _ _ issued)

/-- The third command is answered where the first two have left the host. -/
theorem RollbackJob.Runs.exec_run (runs : job.Runs platform machine serviceId name) :
    job.environment.exec 6 = (machine.exec (job.freed machine)
      (buildDockerRunCommand job.config job.targetSnapshot.imageTag)).1 :=
  runs.replies 2 _ rfl

/-- The fourth command is answered where the third has left it. -/
theorem RollbackJob.Runs.exec_ps (runs : job.Runs platform machine serviceId name) :
    job.environment.exec 7 =
      (machine.exec (job.started machine) dockerPsAllJsonCommand).1 :=
  runs.replies 3 _ rfl

/-- A name that is taken after `docker rm` is still taken after `docker run`. -/
theorem RollbackJob.Runs.refused (lawful : machine.Lawful name)
    (runs : job.Runs platform machine serviceId name) {id : String}
    (held : machine.holder (job.freed machine) name = some id) :
    (job.environment.exec 6).code ≠ some 0 ∧
      machine.holder (job.started machine) name = some id := by
  rw [runs.exec_run]
  exact lawful.refuses _ _ _ id runs.named runs.textual held

/-- Where the name is free, docker run gives it to a container that is new, or to none. -/
theorem RollbackJob.Runs.created (lawful : machine.Lawful name)
    (runs : job.Runs platform machine serviceId name)
    (free : machine.holder (job.freed machine) name = none) :
    machine.holder (job.started machine) name = none ∨
      ∃ id, ¬ machine.Issued job.state id ∧
        machine.holder (job.started machine) name = some id := by
  rcases lawful.creates _ _ _ runs.named runs.textual free with none | ⟨id, fresh, held⟩
  · exact .inl none
  · refine .inr ⟨id, ?_, held⟩
    intro issued
    exact fresh (machine.after_issued lawful _ job.state issued)

/-- Whatever part of the commands has been executed. -/
theorem RollbackJob.Runs.moves (lawful : machine.Lawful name)
    (runs : job.Runs platform machine serviceId name)
    (issued : machine.Issued job.state job.service.containerId) :
    machine.Moves name job.service.containerId job.state
      (job.finish platform machine).state := by
  have freed := job.freed_spares lawful issued
  have started : machine.Moves name job.service.containerId job.state
      (job.started machine) := by
    cases held : machine.holder (job.freed machine) name with
    | some id =>
        have kept := (runs.refused lawful held).2
        apply Or.inl
        apply freed.trans
        exact .inl (kept.trans held.symm)
    | none =>
        have unheld : machine.holder job.state name = none ∨
            machine.holder job.state name = some job.service.containerId := by
          rcases freed with same | ⟨own, -⟩
          · exact .inl (same.symm.trans held)
          · exact .inr own
        rcases runs.created lawful held with none | new
        · exact .inl (freed.trans (.inl (none.trans held.symm)))
        · exact .inr ⟨unheld, new⟩
  have listed : machine.Moves name job.service.containerId job.state
      (machine.exec (job.started machine) dockerPsAllJsonCommand).2 := by
    have same := (lawful.lists (job.started machine)).1
    rcases started with spares | ⟨unheld, id, fresh, held⟩
    · exact .inl (spares.trans (.inl same))
    · exact .inr ⟨unheld, id, fresh, same.trans held⟩
  show machine.Moves name _ job.state
    (machine.after job.state (job.commands.take job.executed))
  generalize job.executed = executed
  rcases executed with none | one | two | three | all
  · exact .inl (.inl rfl)
  · exact .inl (lawful.stops job.state _ issued)
  · exact .inl freed
  · exact started
  · rw [List.take_of_length_le (Nat.le_add_left 4 all)]
    exact listed

/-- The container that is listed is a new one, and has the name now. -/
theorem RollbackJob.Runs.recreated (lawful : machine.Lawful name)
    (runs : job.Runs platform machine serviceId name) (completes : job.Completes)
    {row : PsRow} (recreates : job.Recreates row) :
    machine.holder (job.freed machine) name = none ∧ ¬ machine.Issued job.state row.id ∧
      machine.holder (job.finish platform machine).state name = some row.id := by
  obtain ⟨exited, listing, parses, finds, -⟩ := recreates
  have free : machine.holder (job.freed machine) name = none := by
    cases held : machine.holder (job.freed machine) name with
    | none => rfl
    | some id => exact absurd exited (runs.refused lawful held).1
  obtain ⟨same, rows, prints, complete, holds⟩ := lawful.lists (job.started machine)
  have held : machine.holder (job.started machine) name = some row.id := by
    rw [runs.exec_ps, prints, parseDockerPsOutput_psOutput complete] at parses
    cases parses
    obtain ⟨listed, member, eq⟩ := List.mem_map.mp (List.mem_of_find?_eq_some finds)
    have named : listed.names = name := by
      have matched := List.find?_some finds
      rw [← eq] at matched
      rw [← runs.named]
      simpa [isText, PsRow.toContainer] using matched
    have sameId : listed.id = row.id := Json.str.inj (congrArg DockerPsContainer.id eq)
    rw [← sameId]
    exact holds listed member named
  have fresh : ¬ machine.Issued job.state row.id := by
    rcases runs.created lawful free with none | ⟨id, fresh, heldId⟩
    · rw [none] at held
      cases held
    · rw [heldId] at held
      cases held
      exact fresh
  refine ⟨free, fresh, ?_⟩
  show machine.holder (machine.after job.state (job.commands.take job.executed)) name = _
  rw [runs.executed completes]
  exact same.trans held

/-! ### What one job does to the service -/

/-- How a job ends: success names the container that is listed, and any other end leaves
the services alone. -/
structure RollbackJob.Ends (platform : Platform) (job : RollbackJob σ) : Prop where
  succeeded_iff : job.Succeeded platform ↔ job.Completes ∧ ∃ row, job.Recreates row
  kept : ¬ job.Succeeded platform →
    (job.after platform).services = job.database.services
  recaptured : job.Succeeded platform → ∀ row, job.Recreates row →
    RollbackSucceeded platform job.database (job.after platform) job.event job.service
      job.targetSnapshot job.config row

theorem RollbackJob.succeeded_of_completed {status : RollbackEventStatus}
    {entries : List RollbackLogEntry} (completed : Completed (job.after platform)
      { job.event with status := .inProgress } status entries) :
    job.Succeeded platform ↔ status = .succeeded := by
  obtain ⟨last, found, ends, -⟩ := completed
  unfold RollbackJob.Succeeded
  rw [found, Option.map_some, ends, Option.some.injEq]

theorem RollbackJob.Ends.of_failed {entries : List RollbackLogEntry}
    (completed : Completed (job.after platform) { job.event with status := .inProgress }
      .failed entries)
    (same : SameHistory job.database (job.after platform))
    (impossible : ¬ (job.Completes ∧ ∃ row, job.Recreates row)) : job.Ends platform := by
  have failed : ¬ job.Succeeded platform := by
    rw [RollbackJob.succeeded_of_completed completed]
    decide
  constructor
  · exact iff_of_false failed impossible
  · intro _
    exact same.services
  · intro succeeded
    exact absurd succeeded failed

/-- A job reaches its session with the event in progress. -/
theorem RollbackJob.Runs.executes (runs : job.Runs platform machine serviceId name) :
    ∃ world, world.attempts = 3 ∧ Current world { job.event with status := .inProgress } ∧
      SameHistory job.database world.database ∧
      job.after platform = ((execute platform { job.event with status := .inProgress }
        job.service job.host job.targetSnapshot job.privateKey).run job.environment.answer
          world).2.database := by
  obtain ⟨world, attempts, current, same, executes⟩ := process_executes runs.inputs
    runs.unopposed runs.served
  refine ⟨world, attempts, current, same, ?_⟩
  rw [← executes]
  rfl

/-- A session that breaks off fails the event, and leaves the rows alone. -/
theorem RollbackJob.Runs.ends_broken (runs : job.Runs platform machine serviceId name)
    (broken : ¬ job.Completes) : job.Ends platform := by
  obtain ⟨world, attempts, current, same, executes⟩ := runs.executes
  obtain ⟨n, small, fault⟩ : ∃ n, n ≤ 4 ∧
      job.environment.fault (world.attempts + n) ≠ none := by
    simp only [RollbackJob.Completes, not_forall] at broken
    obtain ⟨n, small, fault⟩ := broken
    have above : 3 ≤ n := by
      by_contra early
      exact fault (runs.served n (by omega))
    refine ⟨n - 3, by omega, ?_⟩
    rw [attempts, Nat.add_sub_cancel' above]
    exact fault
  have breaks := @execute_breaks platform
  obtain ⟨reason, unchanged, completed⟩ := breaks current runs.decrypts
    (readConfig_toJson job.config) small fault
  rw [← executes] at unchanged completed
  apply RollbackJob.Ends.of_failed completed (same.trans unchanged)
  intro ⟨completes, _⟩
  exact broken completes

/-- A session that is answered in full ends by what the listing says. -/
theorem RollbackJob.Runs.ends_complete (lawful : machine.Lawful name)
    (roundTrip : ∀ iv text, iv.length = 12 →
      platform.decrypt (platform.encrypt iv text) = .ok text)
    (runs : job.Runs platform machine serviceId name)
    (hosted : Hosted machine serviceId job.service.hostId job.start)
    (completes : job.Completes) : job.Ends platform := by
  obtain ⟨world, attempts, current, same, executes⟩ := runs.executes
  have unclaimed : ∀ row, job.Recreates row →
      Unclaimed world.database.services job.service row.id := by
    intro row recreates other member differs onHost taken
    rw [same.services] at member
    apply (runs.recreated lawful completes recreates).2.1
    rw [← taken]
    exact hosted.issued other member onHost
  have textual : ∀ line ∈ nonBlankLines (job.environment.exec 7).stdout,
      TextualLine line := by
    obtain ⟨-, rows, prints, -⟩ := lawful.lists (job.started machine)
    rw [runs.exec_ps, prints]
    exact textualLine_psOutput rows
  have outcome := execute_outcome current attempts completes roundTrip job.host
    job.privateKey runs.decrypts (runs.recorded completes) textual unclaimed
  rw [← executes] at outcome
  by_cases recreated : ∃ row, job.Recreates row
  · obtain ⟨row, recreates⟩ := recreated
    obtain ⟨-, more, completed⟩ := outcome.succeeded row recreates
    have succeeded : job.Succeeded platform :=
      (RollbackJob.succeeded_of_completed completed).mpr rfl
    constructor
    · exact iff_of_true succeeded ⟨completes, row, recreates⟩
    · intro failed
      exact absurd succeeded failed
    · intro _ other recreatesOther
      exact (outcome.succeeded other recreatesOther).1.of_history same rfl
  · obtain ⟨unchanged, more, completed⟩ := outcome.failed recreated
    apply RollbackJob.Ends.of_failed completed (same.trans unchanged)
    intro ⟨_, recreates⟩
    exact recreated recreates

/-- Either way the job ends with the event completed. -/
theorem RollbackJob.Runs.ends (lawful : machine.Lawful name)
    (roundTrip : ∀ iv text, iv.length = 12 →
      platform.decrypt (platform.encrypt iv text) = .ok text)
    (runs : job.Runs platform machine serviceId name)
    (hosted : Hosted machine serviceId job.service.hostId job.start) :
    job.Ends platform := by
  by_cases completes : job.Completes
  · exact runs.ends_complete lawful roundTrip hosted completes
  · exact runs.ends_broken completes

/-! ### What one job does to both -/

section Step

variable (lawful : machine.Lawful name)
  (roundTrip : ∀ iv text, iv.length = 12 →
      platform.decrypt (platform.encrypt iv text) = .ok text)
  (runs : job.Runs platform machine serviceId name)
  (hosted : Hosted machine serviceId hostId job.start)

include runs in
theorem RollbackJob.Runs.found :
    job.database.services.byId serviceId = some job.service := by
  rw [← runs.ofService]
  exact runs.inputs.onService

include runs hosted in
theorem RollbackJob.Runs.hostId_eq : job.service.hostId = hostId := by
  obtain ⟨service, found, onHost⟩ := hosted.row
  cases found.symm.trans runs.found
  exact onHost

include runs hosted in
theorem RollbackJob.Runs.issued : machine.Issued job.state job.service.containerId :=
  hosted.issued job.service (Table.byId_eq_some.mp runs.found).1 (runs.hostId_eq hosted)

include lawful roundTrip runs hosted in
theorem RollbackJob.Runs.ends_hosted : job.Ends platform := by
  apply runs.ends lawful roundTrip
  rw [runs.hostId_eq hosted]
  exact hosted

include lawful roundTrip runs hosted in
/-- A job that succeeds has started its container. -/
theorem RollbackJob.Runs.exits (succeeded : job.Succeeded platform) :
    (machine.exec (job.freed machine)
      (buildDockerRunCommand job.config job.targetSnapshot.imageTag)).1.code = some 0 := by
  obtain ⟨-, row, exited, -⟩ :=
    (runs.ends_hosted lawful roundTrip hosted).succeeded_iff.mp succeeded
  rw [← runs.exec_run]
  exact exited

end Step

/-! ### Any number of jobs -/

end Jobs

/-! ### A sync in between -/

/-- The container that is named `web`, and a bound on the lengths of all ids so far. -/
structure Rig where
  holder : Option String
  next : Nat
  bounded : ∀ id ∈ holder, id ≠ "" ∧ id.length ≤ next

def Rig.create (rig : Rig) : Rig :=
  match rig.holder with
  | some _ => rig
  | none =>
      { holder := some (String.ofList (List.replicate (rig.next + 1) 'a'))
        next := rig.next + 1
        bounded := by
          intro id isNew
          cases isNew
          rw [String.length_ofList, List.length_replicate]
          refine ⟨?_, Nat.le_refl _⟩
          simp [List.replicate_succ, -String.ofList_cons] }

def Rig.remove (rig : Rig) (id : String) : Rig :=
  if rig.holder = some id then
    { holder := none
      next := rig.next
      bounded := by simp }
  else rig

def Rig.rows (rig : Rig) : List PsRow :=
  rig.holder.toList.map fun id =>
    { id := id
      image := "nginx:1.27"
      names := "web"
      ports := ""
      status := "Created" }

/-- Containers are created, but never start. -/
def Rig.exec (rig : Rig) (command : String) : ExecReply × Rig :=
  let done : ExecReply := { stdout := "", stderr := "", code := some 0 }
  match (command.toList.drop 7).take 2 with
  | ['r', 'm'] => (done, rig.remove (String.ofList (command.toList.drop 10)))
  | ['r', 'u'] =>
      ({ stdout := "", stderr := "port is already allocated", code := some 125 },
        rig.create)
  | ['p', 's'] => ({ done with stdout := psOutput rig.rows }, rig)
  | _ => (done, rig)

theorem Rig.exec_run (rig : Rig) (config : DeploymentConfigBlob) (imageTag : String) :
    (rig.exec (buildDockerRunCommand config imageTag)).1.code = some 125 ∧
      (rig.exec (buildDockerRunCommand config imageTag)).2 = rig.create := by
  obtain ⟨rest, text⟩ := toList_buildDockerRunCommand config imageTag
  have verb : ((buildDockerRunCommand config imageTag).toList.drop 7).take 2 =
      ['r', 'u'] := by
    simp [text]
  unfold exec
  rw [verb]
  exact ⟨rfl, rfl⟩

theorem Rig.exec_ps (rig : Rig) : rig.exec dockerPsAllJsonCommand =
    ({ stdout := psOutput rig.rows, stderr := "", code := some 0 }, rig) := rfl

end ServersManager
