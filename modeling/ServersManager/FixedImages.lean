/-
Module: ServersManager.FixedImages
Purpose: Health checks with their syncs, requests for rollbacks and their jobs in any
  interleaving: all snapshots that are ever taken of a service are of one image.
Trusted boundary: none
Main exports:
  ImageJob, ImageJob.upholds, OneImage, images_fixed
-/
import ServersManager.DockerListing
import ServersManager.Removal
import ServersManager.ServiceImages

namespace ServersManager

open Library

/-! ### Syncs -/

section Jobs

variable {platform : Platform} {image : String → String} {started : Option (String × String)}
  {known : ImageRegistry}

/-- Calls that need no knowledge of images. -/
def Call.Imageless : Call → Prop
  | .query (.saveService _) | .query (.createSnapshot _) => False
  | .query (.insertEvent _) | .query (.saveEvent _) => False
  | _ => True

/-- A call that writes no image is permitted. -/
theorem Call.Imageless.permits {call : Call} (imageless : call.Imageless)
    (known : ImageRegistry) : known.Permits image call := by
  cases call with
  | query q => cases q <;> trivial
  | _ => trivial

theorem Call.OfAlerts.imageless {call : Call} (ofAlerts : call.OfAlerts) :
    call.Imageless := by
  cases call with
  | query q => cases q <;> trivial
  | _ => trivial

/-- A job whose outcome says nothing. -/
abbrev Upholds (platform : Platform) (image : String → String)
    (started : Option (String × String)) {α : Type} (known : ImageRegistry)
    (program : Job α) : Prop :=
  Tells (imageKnowledge platform image started) known program fun _ _ => True

/-- So is a program of such calls. -/
theorem upholds_imageless {α : Type} {program : Job α}
    (only : program.Only Call.Imageless) : Upholds platform image started known program :=
  Tells.only only fun known _ imageless => Call.Imageless.permits imageless known

/-- Evaluating alerts writes no image. -/
theorem upholds_evaluateTransition (input : EvaluateTransitionInput) :
    Upholds platform image started known (evaluateTransition platform input) :=
  upholds_imageless ((evaluateTransition_only _ _).mono fun _ => Call.OfAlerts.imageless)

/-- Every command of a session is answered by docker, in order. -/
theorem runCommands_tells (options : SshConnectionOptions) (commands : List String) :
    Tells (imageKnowledge platform image started) known (runCommands options commands)
      fun results _ => results.map SshCommandResult.command = commands ∧
        ∀ result ∈ results, AnsweredByDocker platform image started result := by
  have executes : ∀ (commands : List String) (known : ImageRegistry),
      Tells (imageKnowledge platform image started) known (execCommands options commands)
        fun results _ => results.map SshCommandResult.command = commands ∧
          ∀ result ∈ results, AnsweredByDocker platform image started result := by
    intro commands
    induction commands with
    | nil =>
        intro known
        apply Tells.pure
        intro aware knows
        exact ⟨rfl, nofun⟩
    | cons command commands inductionHypothesis =>
        intro known
        apply Tells.bind (Tells.ask trivial)
        intro answer learned grows docker
        apply Tells.bind (inductionHypothesis learned)
        rintro results later more ⟨sameCommands, answered⟩
        apply Tells.pure
        intro aware knows
        refine ⟨congrArg (List.cons command) sameCommands, ?_⟩
        intro result member
        rcases List.mem_cons.mp member with rfl | rest
        · exact docker answer rfl
        · exact answered result rest
  apply Tells.bind (Tells.ask trivial)
  intro connected learned grows _
  exact executes commands learned

/-- One call that anyone may make, and what follows it. -/
theorem upholds_call {α : Type} {call : Call} {rest : call.Reply → Job α}
    (imageless : call.Imageless)
    (upholdsRest : ∀ value learned, known ≤ learned →
      learned.Learns platform image started call (.ok value) →
        Upholds platform image started learned (rest value)) :
    Upholds platform image started known ((request call).bind rest) :=
  Tells.bind (Tells.ask (imageless.permits known)) upholdsRest

/-- A snapshot is taken of the image that its service is known by. -/
theorem createSnapshot_upholds {input : CreateSnapshotInput}
    (ofService : known.services input.serviceId = some input.imageTag) :
    Upholds platform image started known (createSnapshot platform input) := by
  apply Tells.bind
  · apply upholds_call
    · trivial
    intro iv learned grows _
    exact Tells.pure fun _ _ => trivial
  · intro configBlob learned grows _
    have permitted : learned.services input.serviceId = some input.imageTag :=
      grows.services _ _ ofService
    exact (Tells.ask permitted).mono fun _ _ _ _ => trivial

/-- A snapshot is taken of the image that the container is listed with. -/
theorem captureSnapshotIfImageChanged_upholds (host : Host) {service : Service}
    {container : DockerPsContainer}
    (ofService : known.services service.id = some (platform.columnText container.image)) :
    Upholds platform image started known
      (captureSnapshotIfImageChanged platform host service container) := by
  apply upholds_call
  · trivial
  intro currentSnapshot learned grows _
  split
  · exact Tells.pure fun _ _ => trivial
  split
  · exact Tells.pure fun _ _ => trivial
  apply Tells.tryCatch
  · apply Tells.ofExcept_bind
    intro command built
    apply Tells.bind (runCommands_tells _ _)
    intro results answered more _
    split
    · exact Tells.throw _
    split
    · exact Tells.pure fun _ _ => trivial
    apply Tells.ofExcept_bind
    intro config parsed
    split
    · exact Tells.pure fun _ _ => trivial
    apply upholds_call
    · trivial
    intro deployedAt timed later _
    apply Tells.bind
    · apply createSnapshot_upholds
      exact later.services _ _ (more.services _ _ (grows.services _ _ ofService))
    · intro created last _ _
      exact Tells.pure fun _ _ => trivial
  · intro error
    exact Tells.pure fun _ _ => trivial

/-- A container of an agreeing listing keeps the image of its service. -/
theorem upsertService_upholds (host : Host) {container : DockerPsContainer}
    (listed : platform.columnText container.image =
      image (platform.columnText container.id)) (checkedAt : Date) :
    Upholds platform image started known
      (upsertService platform host container checkedAt) := by
  apply Tells.ofExcept_bind
  rintro ⟨imageText, tag⟩ -
  apply Tells.ofExcept_bind
  intro status _
  apply upholds_call
  · trivial
  intro found learned grows learns
  -- The row is saved for this container, whether it is old or new.
  have saves : Tells (imageKnowledge platform image started) learned
      (saveUpserted found
        (upsertRow platform host container imageText tag status checkedAt found))
      fun saved aware => aware.services saved.id =
        some (platform.columnText container.image) := by
    rw [listed]
    cases found with
    | none =>
        apply (Tells.ask trivial).mono
        rintro saved aware knows told
        obtain ⟨knowsSaved, sameContainer⟩ := told saved rfl
        exact knowsSaved.trans (congrArg (fun id => some (image id)) sameContainer)
    | some service =>
        obtain ⟨knowsService, sameContainer⟩ := learns service rfl
        have permitted : learned.KnowsService image
            (upsertRow platform host container imageText tag status checkedAt
              (some service)) := knowsService
        apply (Tells.ask permitted).mono
        rintro saved aware knows told
        rw [told saved rfl, ← sameContainer]
        exact knowsService.mono knows
  apply Tells.bind saves
  intro saved known ofContainer ofService
  apply upholds_call
  · trivial
  intro log aware logged _
  apply Tells.bind (upholds_evaluateTransition _)
  intro evaluated last more _
  apply captureSnapshotIfImageChanged_upholds
  exact more.services _ _ (logged.services _ _ ofService)

/-- The loop over the listing, by induction on it. -/
theorem upsertServices_upholds (host : Host) (checkedAt : Date)
    {containers : List DockerPsContainer}
    (listed : ∀ container ∈ containers, platform.columnText container.image =
      image (platform.columnText container.id)) :
    Upholds platform image started known
      (upsertServices platform host checkedAt containers) := by
  induction containers generalizing known with
  | nil => exact Tells.pure fun _ _ => trivial
  | cons container containers inductionHypothesis =>
      apply Tells.bind (upsertService_upholds host (listed container (.head _)) checkedAt)
      intro upserted learned grows _
      exact inductionHypothesis fun other member => listed other (.tail _ member)

/-- A service that the listing lacks keeps its image. -/
theorem markUnknown_upholds (checkedAt : Date) {missing : List Service}
    (knows : ∀ service ∈ missing, known.KnowsService image service) :
    Upholds platform image started known (markUnknown checkedAt missing) := by
  induction missing generalizing known with
  | nil => exact Tells.pure fun _ _ => trivial
  | cons service missing inductionHypothesis =>
      have permitted : known.KnowsService image
          { service with status := .unknown, lastCheckedAt := checkedAt } :=
        knows service (.head _)
      apply Tells.bind (Tells.ask permitted)
      intro saved learned grows _
      apply upholds_call
      · trivial
      intro log logged more _
      apply inductionHypothesis
      intro other member
      exact (knows other (.tail _ member)).mono (grows.trans more)

/-- A sync of what docker listed. -/
theorem sync_upholds (host : Host) {dockerPsResult : SshCommandResult}
    (answered : AnsweredByDocker platform image started dockerPsResult)
    (lists : dockerPsResult.command = dockerPsAllJsonCommand) :
    Upholds platform image started known (sync platform host dockerPsResult) := by
  unfold sync
  split
  · exact Tells.pure fun _ _ => trivial
  apply Tells.ofExcept_bind
  intro listing parsed
  apply upholds_call
  · trivial
  intro checkedAt learned grows _
  apply Tells.bind (upsertServices_upholds host checkedAt (answered.listed lists listing parsed))
  intro upserted later more _
  apply upholds_call
  · trivial
  intro existingServices aware read told
  apply markUnknown_upholds
  intro service member
  exact told existingServices rfl service (List.mem_filter.mp member).1

/-! ### Health checks -/

/-- The results of a check's session, of which the second is the listing. -/
def ChecksListed (platform : Platform) (image : String → String)
    (started : Option (String × String)) (results : List SshCommandResult) : Prop :=
  results.map SshCommandResult.command = [uptimeCommand, dockerPsCommand] ∧
    ∀ result ∈ results, AnsweredByDocker platform image started result

/-- The listing that a session hands on is one that docker gave. -/
theorem runCheck_tells (host : Host) :
    Tells (imageKnowledge platform image started) known (runCheck platform host)
      fun checked _ => ∀ results, checked.2 = some results →
        ChecksListed platform image started results := by
  unfold runCheck
  split
  · exact Tells.pure fun _ _ => nofun
  · apply Tells.tryCatch
    · apply Tells.bind (runCommands_tells _ _)
      intro results learned grows answered
      apply Tells.ofExcept_bind
      intro outcome mapped
      apply Tells.pure
      rintro aware knows _ ⟨⟩
      exact answered
    · intro error
      exact Tells.pure fun _ _ => nofun

/-- What a check makes of its session. -/
theorem syncResults_upholds (host : Host) {sshResults : Option (List SshCommandResult)}
    (checks : ∀ results, sshResults = some results →
      ChecksListed platform image started results) :
    Upholds platform image started known (syncResults platform host sshResults) := by
  unfold syncResults
  split
  · exact Tells.pure fun _ _ => trivial
  · next uptimeResult dockerPsResult rest =>
    obtain ⟨commands, answered⟩ := checks _ rfl
    have lists : dockerPsResult.command = dockerPsAllJsonCommand :=
      (List.cons.inj (List.cons.inj commands).2).1
    exact sync_upholds host (answered dockerPsResult (by simp)) lists
  · exact Tells.throw _

/-- A whole health check. -/
theorem checkHost_upholds (hostId : Nat) :
    Upholds platform image started known (checkHost platform hostId) := by
  apply upholds_call
  · trivial
  intro found learned grows _
  cases found with
  | none => exact Tells.pure fun _ _ => trivial
  | some host =>
      apply Tells.bind (runCheck_tells host)
      rintro ⟨outcome, sshResults⟩ checked more checks
      apply upholds_call
      · trivial
      intro log logged afterLog _
      apply upholds_call
      · trivial
      intro checkedAt timed afterTime _
      apply upholds_call
      · trivial
      intro saved written afterSave _
      apply Tells.bind (upholds_evaluateTransition _)
      intro evaluated last afterEvaluation _
      exact syncResults_upholds _ checks

/-! ### Rollbacks -/

/-- The service a request finds has the id it asked for. -/
theorem findOneForOrgOrThrow_tells (orgId id : Nat) :
    Tells (imageKnowledge platform image started) known (findOneForOrgOrThrow orgId id)
      fun service _ => service.id = id := by
  apply Tells.bind (Tells.ask trivial)
  intro found learned grows told
  cases found with
  | none => exact Tells.throw _
  | some service => exact Tells.pure fun _ _ => (told service rfl).2

/-- The snapshot it finds is one of this service. -/
theorem findOneForServiceOrThrow_tells (serviceId id : Nat) :
    Tells (imageKnowledge platform image started) known (findOneForServiceOrThrow serviceId id)
      fun snapshot learned => learned.Targets serviceId snapshot.id := by
  apply Tells.bind (Tells.ask trivial)
  intro found learned grows told
  cases found with
  | none => exact Tells.throw _
  | some snapshot =>
      obtain ⟨knows, -, ofService⟩ := told snapshot rfl
      apply Tells.pure
      intro aware more
      rw [← ofService]
      exact ⟨snapshot.imageTag, more.snapshots _ _ knows.own⟩

/-- A rollback is requested to a snapshot of its service. -/
theorem enqueueRollback_upholds (orgId serviceId targetSnapshotId triggeredByUserId : Nat) :
    Upholds platform image started known
      (enqueueRollback orgId serviceId targetSnapshotId triggeredByUserId) := by
  apply Tells.bind (findOneForOrgOrThrow_tells orgId serviceId)
  intro service learned _ _
  apply Tells.bind (findOneForServiceOrThrow_tells service.id targetSnapshotId)
  intro targetSnapshot found _ targets
  apply upholds_call
  · trivial
  intro current read grows _
  split
  · exact Tells.throw _
  next currentSnapshot =>
  apply upholds_call
  · trivial
  intro active looked more _
  split
  · exact Tells.throw _
  apply Tells.tryCatch
  · have permitted : looked.Targets service.id targetSnapshot.id :=
      targets.mono (grows.trans more)
    apply Tells.bind (Tells.ask permitted)
    intro event inserted _ _
    apply upholds_call
    · trivial
    intro job added _ _
    exact Tells.pure fun _ _ => trivial
  · intro error
    split
    · exact Tells.throw _
    · exact Tells.throw _

/-- An event that is known may be saved. -/
theorem saveEvent_upholds {event : RollbackEvent} (knows : known.KnowsEvent event) :
    Upholds platform image started known (query (.saveEvent event)) :=
  (Tells.ask knows).mono fun _ _ _ _ => trivial

/-- A copy of a known event, as far as it is registered. -/
theorem knowsEvent_copy {event other : RollbackEvent} (knows : known.KnowsEvent event)
    (id : other.id = event.id) (serviceId : other.serviceId = event.serviceId)
    (toSnapshotId : other.toSnapshotId = event.toSnapshotId) : known.KnowsEvent other := by
  constructor
  · rw [id, serviceId, toSnapshotId]
    exact knows.own
  · rw [serviceId, toSnapshotId]
    exact knows.targets

/-- The entry is made and appended, and what follows goes on with the event. -/
theorem logged_upholds {α : Type} {event : RollbackEvent} {entry : Job RollbackLogEntry}
    {rest : RollbackEvent → Job α} (knows : known.KnowsEvent event)
    (makes : Upholds platform image started known entry)
    (upholdsRest : ∀ logOutput learned, known ≤ learned →
      learned.KnowsEvent { event with logOutput := logOutput } →
        Upholds platform image started learned (rest { event with logOutput := logOutput })) :
    Upholds platform image started known
      (entry.bind fun made => (appendLog event made).bind rest) := by
  apply Tells.bind makes
  intro made learned grows _
  unfold appendLog
  rw [Program.bind_eq, Program.bind_assoc]
  have knowsLogged : learned.KnowsEvent
      { event with logOutput := event.logOutput ++ [made] } :=
    knowsEvent_copy (knows.mono grows) rfl rfl rfl
  apply Tells.bind (saveEvent_upholds knowsLogged)
  intro saved later more _
  exact upholdsRest _ later (grows.trans more) (knowsLogged.mono more)

theorem messageEntry_upholds (step message : String) :
    Upholds platform image started known (messageEntry step message) := by
  apply upholds_call
  · trivial
  intro timestamp learned _ _
  exact Tells.pure fun _ _ => trivial

theorem toLogEntry_upholds (step : String) (result : SshCommandResult) :
    Upholds platform image started known (toLogEntry step result) := by
  apply upholds_call
  · trivial
  intro timestamp learned _ _
  exact Tells.pure fun _ _ => trivial

/-- Completing an event writes no image. -/
theorem complete_upholds {event : RollbackEvent} (knows : known.KnowsEvent event)
    (status : RollbackEventStatus) :
    Upholds platform image started known (complete event status) := by
  apply upholds_call
  · trivial
  intro completedAt learned grows _
  apply Tells.bind
  · apply saveEvent_upholds
    exact knowsEvent_copy (knows.mono grows) rfl rfl rfl
  · intro saved later _ _
    exact Tells.pure fun _ _ => trivial

/-- Nor does failing it. -/
theorem fail_upholds {event : RollbackEvent} (knows : known.KnowsEvent event)
    (reason : String) (orgId : Option Nat) :
    Upholds platform image started known (fail platform event reason orgId) := by
  apply logged_upholds knows (messageEntry_upholds _ _)
  intro logOutput learned grows knowsLogged
  apply Tells.bind (complete_upholds knowsLogged _)
  intro completed later _ _
  cases orgId with
  | none => exact Tells.pure fun _ _ => trivial
  | some orgId => exact upholds_evaluateTransition _

/-- A rollback of a service to a snapshot of its image. -/
structure KnowsRollback (known : ImageRegistry) (event : RollbackEvent) (service : Service)
    (target : DeploymentSnapshot) : Prop where
  event : known.KnowsEvent event
  ofService : known.services service.id = some target.imageTag

/-- What a job knows of its rows lasts. -/
theorem KnowsRollback.mono {more : ImageRegistry} {event : RollbackEvent} {service : Service}
    {target : DeploymentSnapshot} (knows : KnowsRollback known event service target)
    (grows : known ≤ more) : KnowsRollback more event service target :=
  ⟨knows.event.mono grows, grows.services _ _ knows.ofService⟩

variable {event : RollbackEvent} {service : Service} {target : DeploymentSnapshot}

/-- The row goes on with a container of the same image. -/
theorem succeed_upholds (knows : KnowsRollback known event service target)
    {newContainerId : Json}
    (recreated : image (platform.columnText newContainerId) = target.imageTag)
    (newStatus : ServiceStatus) :
    Upholds platform image started known
      (succeed platform event service newContainerId target newStatus) := by
  apply upholds_call
  · trivial
  intro lastCheckedAt learned grows _
  have permitted : learned.KnowsService image
      (rolledBackService platform service newContainerId target newStatus lastCheckedAt) := by
    change learned.services service.id = some (image (platform.columnText newContainerId))
    rw [recreated]
    exact (knows.mono grows).ofService
  apply Tells.bind (Tells.ask permitted)
  intro saved written afterSave _
  apply Tells.ofExcept_bind
  intro config decrypted
  apply upholds_call
  · trivial
  intro deployedAt timed afterTime _
  have later := knows.mono (grows.trans (afterSave.trans afterTime))
  apply Tells.bind (createSnapshot_upholds later.ofService)
  intro snapshot created afterSnapshot _
  apply upholds_call
  · trivial
  intro log logged afterLog _
  exact complete_upholds (later.mono (afterSnapshot.trans afterLog)).event _

/-- The recreated container runs the image of the target snapshot. -/
theorem checkRecreated_upholds (knows : KnowsRollback known event service target)
    {containerName : String} {psResult : SshCommandResult}
    (answered : AnsweredByDocker platform image started psResult)
    (lists : psResult.command = dockerPsAllJsonCommand)
    (runs : started = some (containerName, target.imageTag)) :
    Upholds platform image started known
      (checkRecreated platform event service target containerName psResult) := by
  apply Tells.ofExcept_bind
  intro listing parsed
  apply Tells.ofExcept_bind
  intro newStatus classified
  apply logged_upholds knows.event (messageEntry_upholds _ _)
  intro logOutput learned grows knowsLogged
  split
  · next container found =>
    have member := List.mem_of_find?_eq_some found
    have ofContainer := answered.listed lists listing parsed container member
    have sameImage := answered.recreated _ _ runs lists listing container parsed found
    exact succeed_upholds ⟨knowsLogged, (knows.mono grows).ofService⟩
      (ofContainer.symm.trans sameImage) _
  · exact fail_upholds knowsLogged _ _

/-- The session of a rollback: its commands, each answered by docker. -/
def SessionAnswered (platform : Platform) (image : String → String)
    (started : Option (String × String)) (service : Service) (target : DeploymentSnapshot)
    (containerName : String) (results : List SshCommandResult) : Prop :=
  ∃ config : DeploymentConfigBlob, config.containerName = containerName ∧
    results.map SshCommandResult.command =
      rollbackCommands service config target.imageTag ∧
    ∀ result ∈ results, AnsweredByDocker platform image started result

/-- The four results of a session that docker answered. -/
theorem settle_upholds (knows : KnowsRollback known event service target)
    {containerName : String} {results : List SshCommandResult}
    (answered : SessionAnswered platform image started service target containerName results) :
    Upholds platform image started known
      (settle platform event service target containerName results) := by
  obtain ⟨config, named, commands, docker⟩ := answered
  unfold settle
  split
  · next stopResult rmResult runResult psResult =>
    obtain ⟨-, -, runs, lists, -⟩ : stopResult.command = _ ∧ rmResult.command = _ ∧
        runResult.command = buildDockerRunCommand config target.imageTag ∧
        psResult.command = dockerPsAllJsonCommand ∧ True := by
      simpa [rollbackCommands] using commands
    apply logged_upholds knows.event (toLogEntry_upholds _ _)
    intro stopLog stopped afterStop knowsStopped
    apply logged_upholds knowsStopped (toLogEntry_upholds _ _)
    intro rmLog removed afterRm knowsRemoved
    apply logged_upholds knowsRemoved (toLogEntry_upholds _ _)
    intro runLog ran afterRun knowsRan
    apply logged_upholds knowsRan (toLogEntry_upholds _ _)
    intro psLog listed afterPs knowsListed
    split
    · exact fail_upholds knowsListed _ _
    · next exited =>
      have grows := afterStop.trans (afterRm.trans (afterRun.trans afterPs))
      have startedHere := (docker runResult (by simp)).ran config target.imageTag runs
        (not_not.mp exited)
      rw [named] at startedHere
      exact checkRecreated_upholds ⟨knowsListed, (knows.mono grows).ofService⟩
        (docker psResult (by simp)) lists startedHere
  · exact Tells.throw _

/-- A session hands on what docker answered to its commands. -/
theorem session_tells (knows : known.KnowsEvent event) (service : Service) (host : Host)
    (target : DeploymentSnapshot) (privateKey : String) (config : Json) :
    Tells (imageKnowledge platform image started) known
      (session platform event service host target privateKey config)
      fun handed _ => ∀ containerName results, handed = some (containerName, results) →
        SessionAnswered platform image started service target containerName results := by
  apply Tells.tryCatch
  · apply Tells.ofExcept_bind
    intro config read
    apply Tells.bind (runCommands_tells _ _)
    rintro results learned _ ⟨commands, answered⟩
    apply Tells.pure
    rintro aware _ _ _ ⟨⟩
    exact ⟨config, rfl, commands, answered⟩
  · intro error
    apply Tells.bind (fail_upholds knows _ _)
    intro failed learned _ _
    exact Tells.pure fun _ _ _ _ absurd => nomatch absurd

/-- The session and what becomes of it. -/
theorem execute_upholds (knows : KnowsRollback known event service target) (host : Host)
    (privateKey : String) :
    Upholds platform image started known
      (execute platform event service host target privateKey) := by
  apply Tells.ofExcept_bind
  intro config decrypted
  apply Tells.bind (session_tells knows.event service host target privateKey config)
  intro handed learned grows answered
  cases handed with
  | none => exact Tells.pure fun _ _ => trivial
  | some handed => exact settle_upholds (knows.mono grows) (answered _ _ rfl)

/-- The snapshot that an event is to, and its service, have the same image. -/
theorem knowsRollback_of_found (ofEvent : known.KnowsEvent event)
    (sameService : service.id = event.serviceId) (ofTarget : known.KnowsSnapshot target)
    (sameTarget : target.id = event.toSnapshotId) :
    KnowsRollback known event service target := by
  refine ⟨ofEvent, ?_⟩
  obtain ⟨imageTag, recorded⟩ := ofEvent.targets
  have own := ofTarget.own
  rw [sameTarget, recorded] at own
  have ofService : event.serviceId = target.serviceId :=
    congrArg Prod.fst (Option.some.inj own)
  rw [sameService, ofService]
  exact ofTarget.ofService

/-- A job whose event is loaded. -/
theorem processEvent_upholds (knows : known.KnowsEvent event) :
    Upholds platform image started known (processEvent platform event) := by
  apply upholds_call
  · trivial
  intro found learned grows told
  have knowsFound := knows.mono grows
  cases found with
  | none => exact fail_upholds knowsFound _ _
  | some service =>
  have sameService := (told service rfl).2
  apply upholds_call
  · trivial
  intro host read afterHost _
  have knowsRead := knowsFound.mono afterHost
  cases host with
  | none => exact fail_upholds knowsRead _ _
  | some host =>
  apply upholds_call
  · trivial
  intro snapshot looked afterTarget toldTarget
  have knowsLooked := knowsRead.mono afterTarget
  cases snapshot with
  | none => exact fail_upholds knowsLooked _ _
  | some target =>
  obtain ⟨ofTarget, sameTarget⟩ := toldTarget target rfl
  cases platform.decrypt host.sshKeyEncrypted with
  | error error => exact fail_upholds knowsLooked _ _
  | ok privateKey =>
      exact execute_upholds
        (knowsRollback_of_found knowsLooked sameService ofTarget sameTarget) host privateKey

/-- A whole rollback job. -/
theorem process_upholds (rollbackEventId : Nat) :
    Upholds platform image started known (process platform rollbackEventId) := by
  apply upholds_call
  · trivial
  intro found learned grows told
  cases found with
  | none => exact Tells.pure fun _ _ => trivial
  | some event =>
      have knows : learned.KnowsEvent { event with status := .inProgress } :=
        knowsEvent_copy (told event rfl) rfl rfl rfl
      apply Tells.bind (saveEvent_upholds knows)
      intro saved later more _
      exact processEvent_upholds (knows.mono more)

end Jobs

/-! ### Any interleaving -/

/-- What writes or removes services, snapshots and rollbacks. -/
inductive ImageJob where
  | checkHost (hostId : Nat)
  | enqueueRollback (orgId serviceId targetSnapshotId triggeredByUserId : Nat)
  | process (rollbackEventId : Nat)
  | removeHost (orgId id : Nat)

def ImageJob.program (platform : Platform) : ImageJob → Job Unit
  | .checkHost hostId => ServersManager.checkHost platform hostId
  | .enqueueRollback orgId serviceId targetSnapshotId triggeredByUserId => do
      let _ ← ServersManager.enqueueRollback orgId serviceId targetSnapshotId
        triggeredByUserId
      return ()
  | .process rollbackEventId => ServersManager.process platform rollbackEventId
  | .removeHost orgId id => ServersManager.removeHost orgId id

/-- Every job of the pool upholds the images. -/
theorem ImageJob.upholds {platform : Platform} {image : String → String}
    {started : Option (String × String)} {known : ImageRegistry} (job : ImageJob) :
    Upholds platform image started known (job.program platform) := by
  cases job with
  | checkHost hostId => exact checkHost_upholds hostId
  | enqueueRollback orgId serviceId targetSnapshotId triggeredByUserId =>
      apply Tells.bind (enqueueRollback_upholds orgId serviceId targetSnapshotId
        triggeredByUserId)
      intro event learned _ _
      exact Tells.pure fun _ _ => trivial
  | process rollbackEventId => exact process_upholds rollbackEventId
  | removeHost orgId id =>
      apply upholds_imageless
      apply Program.Only.bind
      · apply Program.Only.bind (Program.only_perform trivial)
        intro found
        split <;> trivial
      · intro host
        exact Program.only_perform trivial

/-- The snapshots of a service are all of the image that its container runs.  A rollback
has such a target, and a request for any other target is refused. -/
structure OneImage (image : String → String) (db : Database) : Prop where
  own : ∀ service ∈ db.services, ∀ snapshot ∈ db.snapshots,
    snapshot.serviceId = service.id → snapshot.imageTag = image service.containerId
  alike : ∀ first ∈ db.snapshots, ∀ second ∈ db.snapshots,
    first.serviceId = second.serviceId → first.imageTag = second.imageTag
  targets : ∀ event ∈ db.events, ∀ service ∈ db.services, service.id = event.serviceId →
    ∀ target ∈ db.snapshots, target.id = event.toSnapshotId →
      target.imageTag = image service.containerId
  refused : ∀ service ∈ db.services, ∀ snapshot ∈ db.snapshots,
    snapshot.imageTag ≠ image service.containerId →
      ∀ orgId userId outcome after, Program.Steps databaseAnswers
        (enqueueRollback orgId service.id snapshot.id userId, db)
        (.ofExcept outcome, after) → (∃ error, outcome = .error error) ∧ after = db

section Images

variable {image : String → String} {db : Database}

/-- A query that reads answers what there is, or fails. -/
theorem ensures_read {α : Type} {q : Query} {rest : q.Reply → Job α}
    {post : Except JsError α → Database → Prop} {value : q.Reply}
    (reads : db.perform q = (.ok value, db))
    (returns : (rest value).Ensures databaseAnswers post db)
    (fails : ∀ error, post (.error error) db) :
    ((query q).bind rest).Ensures databaseAnswers post db := by
  apply Program.ensures_perform_bind
  · rintro found after (⟨error, -, absurd, -⟩ | ⟨found, rfl⟩)
    · cases absurd
    · rw [reads] at found ⊢
      cases found
      exact returns
  · rintro error after (⟨error, -, -, rfl⟩ | ⟨failed, -⟩)
    · exact fails _
    · rw [reads] at failed
      cases failed

/-- A request for the snapshot of another service is refused. -/
theorem enqueueRollback_foreign {snapshot : DeploymentSnapshot} {serviceId : Nat}
    (member : snapshot ∈ db.snapshots) (foreign : snapshot.serviceId ≠ serviceId)
    (orgId userId : Nat) :
    (enqueueRollback orgId serviceId snapshot.id userId).Ensures databaseAnswers
      (fun outcome after => (∃ error, outcome = .error error) ∧ after = db) db := by
  unfold enqueueRollback findOneForOrgOrThrow findOneForServiceOrThrow
  simp only [Program.bind_eq, Program.bind_assoc]
  apply ensures_read rfl
  · cases found : db.services.findOne fun service =>
        service.id == serviceId && service.orgId == orgId with
    | none => exact ⟨⟨_, rfl⟩, rfl⟩
    | some service =>
        have sameService : service.id = serviceId := by
          have matched := (Table.findOne_mem found).2
          simp only [Bool.and_eq_true, beq_iff_eq] at matched
          exact matched.1
        apply ensures_read rfl
        · have missing : db.snapshots.findOne (fun other =>
              other.id == snapshot.id && other.serviceId == service.id) = none := by
            apply Table.findOne_none.mpr
            intro other present
            rw [Bool.and_eq_false_iff]
            by_cases same : other.id = snapshot.id
            · have isSnapshot : other = snapshot := Table.eq_of_id present member same
              exact .inr (by simpa [isSnapshot, sameService] using foreign)
            · exact .inl (by simpa using same)
          rw [missing]
          exact ⟨⟨_, rfl⟩, rfl⟩
        · exact fun error => ⟨⟨error, rfl⟩, rfl⟩
  · exact fun error => ⟨⟨error, rfl⟩, rfl⟩

/-- The invariant says that a service and its snapshots have one image. -/
theorem Imaged.oneImage {registry : ImageRegistry} (imaged : Imaged image db registry) :
    OneImage image db := by
  have own : ∀ service ∈ db.services, ∀ snapshot ∈ db.snapshots,
      snapshot.serviceId = service.id → snapshot.imageTag = image service.containerId := by
    intro service present snapshot member ofService
    have taken := (imaged.knowsSnapshot member).ofService
    rw [ofService, imaged.knowsService present] at taken
    exact (Option.some.inj taken).symm
  constructor
  · exact own
  · intro first firstMember second secondMember same
    have taken := (imaged.knowsSnapshot firstMember).ofService
    rw [same, (imaged.knowsSnapshot secondMember).ofService] at taken
    exact (Option.some.inj taken).symm
  · intro event requested service present ofEvent target member sameTarget
    have knows := knowsRollback_of_found (imaged.knowsEvent requested) ofEvent
      (imaged.knowsSnapshot member) sameTarget
    have ofService := knows.ofService
    rw [imaged.knowsService present] at ofService
    exact (Option.some.inj ofService).symm
  · intro service present snapshot member differs orgId userId outcome after steps
    have foreign : snapshot.serviceId ≠ service.id := fun same =>
      differs (own service present snapshot member same)
    exact (enqueueRollback_foreign member foreign orgId userId).steps steps

end Images

/-- However health checks, requests for rollbacks, their jobs and removals of hosts
interleave, and whatever of them fails: if the image of a container never changes, then a
service never gets snapshots of two images, and no rollback changes the image that a
service runs. -/
theorem images_fixed {ι : Type} [DecidableEq ι] (platform : Platform)
    (image : String → String) (started : ι → Option (String × String))
    (jobs : ι → ImageJob) (start : Database) (agree : ImagesAgree image start)
    {pool : Pool Calls JsError ι Unit Database}
    (reaches : Pool.Reaches (imageAnswers platform image started)
      { threads := fun thread => (jobs thread).program platform, store := start } pool) :
    OneImage image pool.store := by
  obtain ⟨registry, -, imaged⟩ := (imaged_truthful platform image started).reaches
    (fun thread => (jobs thread).upholds) agree.imaged reaches
  exact imaged.oneImage

/-! ### A container that is deployed again with a newer image -/

/-- The image of the container that was deployed first, and of the one after it. -/
def deployedImage (containerId : String) : String :=
  if containerId = "4f2a" then "nginx:1.26" else "nginx:1.27"

def deployedService (id : Nat) (containerId : String) (status : ServiceStatus) : Service :=
  { id := id
    orgId := 6
    hostId := registeredHost.id
    containerId := containerId
    containerName := "web"
    image := "nginx"
    currentTag := (splitImageAndTag (deployedImage containerId)).tag
    status := status
    portMappings := none
    lastCheckedAt := 0 }

def deployedSnapshot (id serviceId : Nat) (containerId : String) : DeploymentSnapshot :=
  { id := id
    serviceId := serviceId
    imageTag := deployedImage containerId
    configBlob := webConfigBlob
    deployedAt := 0
    deployedById := none
    isCurrent := true }

/-- The first container is gone, and the second one has a row and a snapshot of its own. -/
def redeployedDatabase : Database :=
  { registeredDatabase with
    services :=
      { rows := [deployedService 1 "4f2a" .unknown, deployedService 2 "9c1d" .running]
        nextId := 3
        below := by decide
        distinct := by decide
        indexed := by decide }
    snapshots :=
      { rows := [deployedSnapshot 4 1 "4f2a", deployedSnapshot 5 2 "9c1d"]
        nextId := 6
        below := by decide
        distinct := by decide
        indexed := by decide } }

theorem redeployedDatabase_agrees : ImagesAgree deployedImage redeployedDatabase := by
  constructor
  · intro snapshot member
    rcases List.mem_pair.mp member with rfl | rfl
    · exact ⟨_, List.mem_cons_self, rfl, rfl⟩
    · exact ⟨_, List.mem_cons_of_mem _ List.mem_cons_self, rfl, rfl⟩
  · intro event absurd
    cases absurd

/-- The container that a rollback to the second image starts. -/
def rolledRow : PsRow :=
  { id := "b7e0"
    image := "nginx:1.27"
    names := "web"
    ports := ""
    status := "Up 2 seconds" }

theorem rolledRow_complete : rolledRow.Complete := by
  constructor <;> decide

/-- The session of a rollback of the second container. -/
def rolledCommands : List String :=
  rollbackCommands (deployedService 2 "9c1d" .running) webConfig "nginx:1.27"

/-- Docker runs the commands of that session and no others. -/
def rolledReply (command : String) : ExecReply :=
  { stdout := if command = dockerPsAllJsonCommand then psOutput [rolledRow] else ""
    stderr := ""
    code := if command ∈ rolledCommands then some 0 else some 127 }

theorem rolledCommands_arguments : rolledCommands.map Shell.simpleCommand =
    [some ["docker", "stop", "9c1d"], some ["docker", "rm", "9c1d"],
      some ["docker", "run", "-d", "--name", "web", "nginx:1.27"],
      some ["docker", "ps", "-a", "--format", "\x7b\x7bjson .\x7d\x7d"]] := by
  decide

/-- One `docker run` is among the commands. -/
theorem rolledCommands_run {config : DeploymentConfigBlob} {imageTag : String}
    (member : buildDockerRunCommand config imageTag ∈ rolledCommands) :
    config.containerName = "web" ∧ imageTag = "nginx:1.27" := by
  have nul : ∀ command ∈ rolledCommands, '\x00' ∉ command.toList := by decide
  have arguments := List.mem_map_of_mem (f := Shell.simpleCommand) member
  rw [rolledCommands_arguments, simpleCommand_of_built (nul _ member) rfl] at arguments
  have last : (dockerRunArguments config imageTag).getLast? = some imageTag :=
    List.getLast?_concat
  simp only [List.mem_cons, List.not_mem_nil, or_false, Option.some.injEq] at arguments
  rcases arguments with stop | rm | run | ps
  · simp [dockerRunArguments] at stop
  · simp [dockerRunArguments] at rm
  · rw [run] at last
    simp only [dockerRunArguments, List.cons_append, List.nil_append, List.cons.injEq] at run
    exact ⟨run.2.2.2.2.1, (Option.some.inj last).symm⟩
  · simp [dockerRunArguments] at ps

/-- Docker answers the commands of the job with the new container. -/
theorem rolledReply_answered (command : String) :
    AnsweredByDocker .transparent deployedImage (some ("web", "nginx:1.27"))
      ((rolledReply command).result command) := by
  have listing : ∀ listing,
      command = dockerPsAllJsonCommand →
        parseDockerPsOutput ((rolledReply command).result command).stdout = .ok listing →
          listing.containers = [rolledRow.toContainer] := by
    rintro listing rfl parsed
    have complete : ∀ row ∈ [rolledRow], row.Complete := by
      intro row member
      rw [List.mem_singleton.mp member]
      exact rolledRow_complete
    cases (parseDockerPsOutput_psOutput complete).symm.trans parsed
    rfl
  constructor
  · intro lists answer parsed container member
    rw [listing answer lists parsed] at member
    cases List.mem_singleton.mp member
    decide
  · intro config imageTag runs succeeded
    subst runs
    have member : buildDockerRunCommand config imageTag ∈ rolledCommands := by
      by_contra absent
      simp [rolledReply, ExecReply.result, absent] at succeeded
    obtain ⟨named, ofImage⟩ := rolledCommands_run member
    rw [named, ofImage]
  · rintro containerName imageTag ⟨⟩ lists answer container parsed found
    have member := List.mem_of_find?_eq_some found
    rw [listing answer lists parsed] at member
    cases List.mem_singleton.mp member
    rfl

/-- Every call is answered. -/
def rolledMachine : Machine Calls JsError Database :=
  fun (call : Call) db =>
    match call with
    | .execCommand _ command => (.ok (rolledReply command), db)
    | call => Surroundings.quiet.answer db call

/-- The machine of the run answers as the store does. -/
theorem rolledMachine_answers (thread : Nat) (call : Call) (db : Database) :
    imageAnswers .transparent deployedImage (fun _ => some ("web", "nginx:1.27")) thread call
      db (rolledMachine call db).1 (rolledMachine call db).2 := by
  cases call with
  | execCommand options command =>
      refine ⟨⟨db, db.clock, ⟨fun _ _ => trivial, rfl⟩, rfl⟩, ?_⟩
      rintro answer ⟨⟩
      exact rolledReply_answered command
  | query q => exact ⟨⟨_, _, .inr ⟨rfl, rfl⟩, rfl⟩, trivial⟩
  | _ => exact ⟨⟨db, db.clock, ⟨fun _ _ => trivial, rfl⟩, rfl⟩, trivial⟩

/-- A request to roll the second container back to its own image, and its job. -/
def rollingJobs (thread : Nat) : ImageJob :=
  if thread = 0 then .enqueueRollback 6 2 5 3 else .process 0

def rollingPool : Pool Calls JsError Nat Unit Database where
  threads thread := (rollingJobs thread).program .transparent
  store := redeployedDatabase

/-- The request is accepted and executed. -/
def rolledPool : Pool Calls JsError Nat Unit Database :=
  (rollingPool.completed 0 rolledMachine).completed 1 rolledMachine

theorem rolledPool_events :
    rolledPool.store.events.rows.map RollbackEvent.status = [.succeeded] := by
  decide +kernel

/-- A rollback to the image that runs already succeeds; one to the image before is
refused. -/
theorem images_fixed_redeployed :
    rolledPool.store.events.rows.map RollbackEvent.status = [.succeeded] ∧
      OneImage deployedImage rolledPool.store ∧
      ∀ orgId userId outcome after, Program.Steps databaseAnswers
        (enqueueRollback orgId 2 4 userId, redeployedDatabase) (.ofExcept outcome, after) →
          ∃ error, outcome = .error error := by
  have reaches : Pool.Reaches
      (imageAnswers .transparent deployedImage fun _ => some ("web", "nginx:1.27"))
      rollingPool rolledPool :=
    Pool.Reaches.run (Pool.Reaches.run .refl 0 rolledMachine fun call db =>
      rolledMachine_answers 0 call db) 1 rolledMachine fun call db =>
        rolledMachine_answers 1 call db
  have rolled := images_fixed .transparent deployedImage
    (fun _ => some ("web", "nginx:1.27")) rollingJobs redeployedDatabase
    redeployedDatabase_agrees reaches
  have first := images_fixed .transparent deployedImage
    (fun _ => some ("web", "nginx:1.27")) rollingJobs redeployedDatabase
    redeployedDatabase_agrees .refl
  refine ⟨rolledPool_events, rolled, ?_⟩
  intro orgId userId outcome after steps
  exact (first.refused (deployedService 2 "9c1d" .running)
    (List.mem_cons_of_mem _ List.mem_cons_self) (deployedSnapshot 4 1 "4f2a")
    List.mem_cons_self (by decide) orgId userId outcome after steps).1

end ServersManager
