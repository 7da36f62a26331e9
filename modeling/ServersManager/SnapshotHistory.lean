/-
Module: ServersManager.SnapshotHistory
Purpose: The history of a service's snapshots follows the images that docker reports,
  over syncs and successful rollbacks.
Trusted boundary: none
Main exports:
  Report, recorded, history, RolledBack, process_returns, Tracked, history_tracks
-/
import ServersManager.Library.History
import ServersManager.SyncMirror
import ServersManager.Rollback

namespace ServersManager

open Library

/-! ### A successful rollback -/

/-- The event row has this status. -/
def EventIs (db : Database) (id : Nat) (status : RollbackEventStatus) : Prop :=
  ∃ event, db.events.byId id = some event ∧ event.status = status

/-- Services and snapshots are as they were. -/
structure EventFrame (db after : Database) : Prop where
  services : after.services = db.services
  snapshots : after.snapshots = db.snapshots

/-- Two stretches that leave the other events alone. -/
theorem EventFrame.trans {first second third : Database} (before : EventFrame first second)
    (after : EventFrame second third) : EventFrame first third :=
  ⟨after.services.trans before.services, after.snapshots.trans before.snapshots⟩

section Rollback

variable {permits : (call : Call) → Except JsError call.Reply → Prop}

/-- A query, and what follows it, of a run that returns. -/
theorem returning_query_bind {α : Type} {q : Query} {rest : q.Reply → Job α}
    {post : α → Database → Prop} {db : Database}
    (returns : ∀ time reply after, (db.setClock time).perform q = (.ok reply, after) →
      (rest reply).Returning (Calm permits) post after) :
    ((query q).bind rest).Returning (Calm permits) post db := by
  apply Program.returning_perform_bind
  rintro reply after ⟨time, performed⟩
  exact returns time reply after performed

/-- The clock, and what follows it. -/
theorem returning_now_bind {α : Type} {rest : Date → Job α} {post : α → Database → Prop}
    {db : Database}
    (returns : ∀ date time, (rest date).Returning (Calm permits) post (db.setClock time)) :
    (now.bind rest).Returning (Calm permits) post db := by
  apply Program.returning_perform_bind
  rintro date after ⟨-, time, rfl⟩
  exact returns date time

/-- A saved event is found again, and nothing else has changed. -/
theorem saved_event {db after : Database} {event saved : RollbackEvent}
    (performed : db.perform (.saveEvent event) = (.ok saved, after)) :
    saved = event ∧ EventFrame db after ∧ after.events.byId event.id = some event := by
  cases writes : db.events.save event with
  | none =>
      simp only [Database.perform, writes, Option.map_none, Database.answer] at performed
      cases performed
  | some events =>
      simp only [Database.perform, writes, Option.map_some, Database.answer] at performed
      cases performed
      refine ⟨rfl, ⟨rfl, rfl⟩, ?_⟩
      rw [show (_ : Database).events.byId event.id = _ from Table.byId_save writes]
      exact if_pos rfl

/-- An appended entry changes the event row alone. -/
theorem appendLog_returns (event : RollbackEvent) (entry : RollbackLogEntry)
    (db : Database) :
    (appendLog event entry).Returning (Calm permits)
      (fun appended after => appended = { event with logOutput := event.logOutput ++ [entry] } ∧
        EventFrame db after)
      db := by
  apply returning_query_bind
  intro time saved after performed
  obtain ⟨rfl, frame, -⟩ := saved_event performed
  exact Program.returning_pure ⟨rfl, frame.services, frame.snapshots⟩

/-- After its last save an event has the status it is completed with. -/
theorem complete_returns (event : RollbackEvent) (status : RollbackEventStatus)
    (db : Database) :
    (complete event status).Returning (Calm permits)
      (fun _ after => EventFrame db after ∧ EventIs after event.id status) db := by
  apply returning_now_bind
  intro completedAt time
  apply returning_query_bind
  intro later saved after performed
  obtain ⟨rfl, frame, found⟩ := saved_event performed
  exact Program.returning_pure ⟨⟨frame.services, frame.snapshots⟩, _, found, rfl⟩

/-- Making an entry touches no row. -/
theorem messageEntry_returns (step message : String) (db : Database) :
    (messageEntry step message).Returning (Calm permits)
      (fun _ after => EventFrame db after) db := by
  apply returning_now_bind
  intro timestamp time
  exact Program.returning_pure ⟨rfl, rfl⟩

/-- Neither does making one of a result. -/
theorem toLogEntry_returns (step : String) (result : SshCommandResult) (db : Database) :
    (toLogEntry step result).Returning (Calm permits)
      (fun _ after => EventFrame db after) db := by
  apply returning_now_bind
  intro timestamp time
  exact Program.returning_pure ⟨rfl, rfl⟩

/-- An entry is made and appended. -/
theorem logged_returns {α : Type} {entry : Job RollbackLogEntry} {event : RollbackEvent}
    {rest : RollbackEvent → Job α} {post : α → Database → Prop} {db : Database}
    (makes : entry.Returning (Calm permits) (fun _ after => EventFrame db after) db)
    (returnsRest : ∀ logOutput after, EventFrame db after →
      (rest { event with logOutput := logOutput }).Returning (Calm permits) post after) :
    (entry.bind fun made => (appendLog event made).bind rest).Returning (Calm permits)
      post db := by
  apply Program.Returning.bind makes
  intro made after frame
  apply Program.Returning.bind (appendLog_returns event made after)
  rintro appended last ⟨rfl, appendedFrame⟩
  exact returnsRest _ last (frame.trans appendedFrame)

/-- The calls of the alerts leave the event as it is. -/
theorem EventIs.alert {db after : Database} {id : Nat} {status : RollbackEventStatus}
    {call : Call} {reply : Except JsError call.Reply} (known : EventIs db id status)
    (ofAlerts : call.OfAlerts) (answered : CalmAnswer permits db call reply after) :
    EventIs after id status := by
  unfold EventIs
  rw [((AlertFrame.refl db).call ofAlerts answered).events]
  exact known

/-- A failed job that returns leaves its event failed. -/
theorem fail_returns (platform : Platform) (event : RollbackEvent) (reason : String)
    (orgId : Option Nat) (db : Database) :
    (fail platform event reason orgId).Returning (Calm permits)
      (fun _ after => EventIs after event.id .failed) db := by
  apply logged_returns (messageEntry_returns _ _ db)
  intro logOutput logged frame
  apply Program.Returning.bind (complete_returns _ _ logged)
  rintro done completed ⟨-, failed⟩
  cases orgId with
  | none => exact Program.returning_pure failed
  | some orgId =>
      apply Program.Follows.mono (evaluateTransition_keeps platform _
        (fun state => EventIs state event.id .failed)
        (fun _ _ _ _ known ofAlerts answered => known.alert ofAlerts answered) failed)
      rintro outcome after ⟨value, rfl, known⟩ other -
      exact known

/-- What a rollback leaves behind, once its container runs: the row of the service is
the new container's, the target is the current snapshot again, and its image is what
`docker run` was given. -/
structure RolledBack (permits : (call : Call) → Except JsError call.Reply → Prop)
    (platform : Platform) (event : RollbackEvent) (service : Service)
    (target : DeploymentSnapshot) (db after : Database) : Prop where
  services : ∃ newContainerId lastCheckedAt, ∀ other, other ∈ after.services ↔
    other = rolledBackService platform service newContainerId target .running
        lastCheckedAt ∨
      other ∈ db.services ∧ other.id ≠ service.id
  snapshots : Captured db.snapshots after.snapshots service.id target.imageTag
    (some event.triggeredById)
  started : ∃ options config result,
    permits (.execCommand options (buildDockerRunCommand config target.imageTag))
      (.ok result)

/-- `docker run` has been given this image. -/
def Started (permits : (call : Call) → Except JsError call.Reply → Prop)
    (imageTag : String) : Prop :=
  ∃ options config result,
    permits (.execCommand options (buildDockerRunCommand config imageTag)) (.ok result)

/-- How a job that returns has ended. -/
def Concluded (permits : (call : Call) → Except JsError call.Reply → Prop)
    (platform : Platform) (event : RollbackEvent) (service : Service)
    (target : DeploymentSnapshot) (db after : Database) : Prop :=
  EventIs after event.id .failed ∨
    RolledBack permits platform event service target db after

/-- What a rollback that succeeded has written. -/
theorem succeed_returns (steady : ∀ call reply, permits call reply → Steady call reply)
    (platform : Platform) (event : RollbackEvent) (service : Service)
    (newContainerId : Json) (target : DeploymentSnapshot) (db : Database)
    (started : Started permits target.imageTag) :
    (succeed platform event service newContainerId target .running).Returning
      (Calm permits)
      (fun _ after => RolledBack permits platform event service target db after) db := by
  apply returning_now_bind
  intro lastCheckedAt time
  apply returning_query_bind
  intro saveTime saved afterSave performed
  cases saves : db.services.save
      (rolledBackService platform service newContainerId target .running lastCheckedAt) with
  | none =>
      simp only [Database.perform, Database.setClock, saves, Option.map_none,
        Database.answer] at performed
      cases performed
  | some services =>
      simp only [Database.perform, Database.setClock, saves, Option.map_some,
        Database.answer] at performed
      cases performed
      apply Program.returning_ofExcept_bind
      intro config decrypted
      apply returning_now_bind
      intro deployedAt snapshotTime
      apply Program.Returning.bind
      · apply Program.Follows.mono (createSnapshot_ensures steady platform
          (rollbackSnapshotInput event _ target config deployedAt) _)
        rintro outcome captured ⟨value, rfl, holds⟩ _ -
        exact holds
      · rintro created captured ⟨frame, snapshots⟩
        apply returning_query_bind
        intro logTime log logged performed
        obtain ⟨-, logs, rfl, -⟩ := Database.perform_writeHealthCheckLog_eq performed
        apply Program.Returning.mono (complete_returns event .succeeded _)
        rintro done after ⟨completed, -⟩
        refine ⟨⟨newContainerId, lastCheckedAt, ?_⟩, ?_, started⟩
        · intro other
          rw [completed.services]
          change other ∈ captured.services ↔ _
          rw [frame.services]
          exact Table.mem_save saves
        · rw [completed.snapshots]
          exact snapshots

/-- A session that returns has had every command executed. -/
theorem runCommands_returns (options : SshConnectionOptions) (commands : List String)
    (db : Database) :
    (runCommands options commands).Returning (Calm permits)
      (fun _ after => EventFrame db after ∧ ∀ command ∈ commands,
        ∃ result, permits (.execCommand options command) (.ok result))
      db := by
  have executes : ∀ (commands : List String) (state : Database), EventFrame db state →
      (execCommands options commands).Returning (Calm permits)
        (fun _ after => EventFrame db after ∧ ∀ command ∈ commands,
          ∃ result, permits (.execCommand options command) (.ok result)) state := by
    intro commands
    induction commands with
    | nil => exact fun state frame => Program.returning_pure ⟨frame, nofun⟩
    | cons command commands inductionHypothesis =>
        intro state frame
        apply Program.returning_perform_bind
        rintro result after ⟨permitted, time, rfl⟩
        apply Program.Returning.bind
          (inductionHypothesis (state.setClock time) ⟨frame.services, frame.snapshots⟩)
        rintro results last ⟨lastFrame, executed⟩
        apply Program.returning_pure
        refine ⟨lastFrame, ?_⟩
        intro other member
        rcases List.mem_cons.mp member with rfl | later
        · exact ⟨result, permitted⟩
        · exact executed other later
  apply Program.returning_perform_bind
  rintro connected after ⟨-, time, rfl⟩
  exact executes commands _ ⟨rfl, rfl⟩

/-- The third of a session's four commands starts the container. -/
theorem session_returns (platform : Platform) (event : RollbackEvent) (service : Service)
    (host : Host) (target : DeploymentSnapshot) (privateKey : String) (config : Json)
    (db : Database) :
    (session platform event service host target privateKey config).Returning (Calm permits)
      (fun handed after => handed = none ∧ EventIs after event.id .failed ∨
        handed ≠ none ∧ EventFrame db after ∧ Started permits target.imageTag)
      db := by
  apply Program.Returning.tryCatch
  · apply Program.returning_ofExcept_bind
    intro config read
    apply Program.Returning.bind (runCommands_returns _ _ db)
    rintro results after ⟨frame, executed⟩
    apply Program.returning_pure
    obtain ⟨result, permitted⟩ := executed
      (buildDockerRunCommand config target.imageTag) (by simp [rollbackCommands])
    exact .inr ⟨nofun, frame, _, config, result, permitted⟩
  · intro error state
    apply Program.Returning.bind (fail_returns platform event _ _ state)
    intro done after known
    exact Program.returning_pure (.inl ⟨rfl, known⟩)

/-- What the check of the new container concludes. -/
theorem checkRecreated_returns
    (steady : ∀ call reply, permits call reply → Steady call reply)
    (platform : Platform) (event : RollbackEvent) (service : Service)
    (target : DeploymentSnapshot) (containerName : String) (psResult : SshCommandResult)
    (db : Database) (started : Started permits target.imageTag) :
    (checkRecreated platform event service target containerName psResult).Returning
      (Calm permits) (fun _ after => Concluded permits platform event service target db after)
      db := by
  apply Program.returning_ofExcept_bind
  intro listing parsed
  apply Program.returning_ofExcept_bind
  intro newStatus classified
  apply logged_returns (messageEntry_returns _ _ db)
  intro logOutput logged frame
  split
  · next container found =>
    apply Program.Returning.mono
      (succeed_returns steady platform _ service container.id target logged started)
    rintro done after ⟨services, snapshots, ran⟩
    rw [frame.services] at services
    rw [frame.snapshots] at snapshots
    exact .inr ⟨services, snapshots, ran⟩
  · apply Program.Returning.mono (fail_returns platform _ _ _ logged)
    intro done after known
    exact .inl known

/-- A conclusion does not depend on what was logged before. -/
theorem Concluded.of_frame {platform : Platform} {event : RollbackEvent}
    {service : Service} {target : DeploymentSnapshot} {db middle after : Database}
    (frame : EventFrame db middle)
    (concluded : Concluded permits platform event service target middle after) :
    Concluded permits platform event service target db after := by
  rcases concluded with failed | ⟨services, snapshots, started⟩
  · exact .inl failed
  · rw [frame.services] at services
    rw [frame.snapshots] at snapshots
    exact .inr ⟨services, snapshots, started⟩

/-- What the four results conclude. -/
theorem settle_returns (steady : ∀ call reply, permits call reply → Steady call reply)
    (platform : Platform) (event : RollbackEvent) (service : Service)
    (target : DeploymentSnapshot) (containerName : String)
    (results : List SshCommandResult) (db : Database)
    (started : Started permits target.imageTag) :
    (settle platform event service target containerName results).Returning (Calm permits)
      (fun _ after => Concluded permits platform event service target db after) db := by
  unfold settle
  split
  · next stopResult rmResult runResult psResult =>
    apply logged_returns (toLogEntry_returns _ _ db)
    intro stopped first firstFrame
    apply logged_returns (toLogEntry_returns _ _ first)
    intro removed second secondFrame
    apply logged_returns (toLogEntry_returns _ _ second)
    intro ran third thirdFrame
    apply logged_returns (toLogEntry_returns _ _ third)
    intro listed last lastFrame
    split
    · apply Program.Returning.mono (fail_returns platform _ _ _ last)
      intro done after known
      exact .inl known
    · apply Program.Returning.mono (checkRecreated_returns steady platform _ service target
        containerName psResult last started)
      intro done after concluded
      have frame := firstFrame.trans (secondFrame.trans (thirdFrame.trans lastFrame))
      rcases Concluded.of_frame frame concluded with failed | ⟨services, snapshots, ran⟩
      · exact .inl failed
      · exact .inr ⟨services, snapshots, ran⟩
  · exact Program.returning_throw

/-- What a session concludes. -/
theorem execute_returns (steady : ∀ call reply, permits call reply → Steady call reply)
    (platform : Platform) (event : RollbackEvent) (service : Service) (host : Host)
    (target : DeploymentSnapshot) (privateKey : String) (db : Database) :
    (execute platform event service host target privateKey).Returning (Calm permits)
      (fun _ after => Concluded permits platform event service target db after) db := by
  apply Program.returning_ofExcept_bind
  intro config decrypted
  apply Program.Returning.bind (session_returns platform event service host target
    privateKey config db)
  rintro handed after (⟨rfl, failed⟩ | ⟨answered, frame, started⟩)
  · exact Program.returning_pure (.inl failed)
  · obtain ⟨⟨containerName, results⟩, rfl⟩ := Option.ne_none_iff_exists'.mp answered
    apply Program.Returning.mono (settle_returns steady platform event service target
      containerName results after started)
    intro done last concluded
    exact concluded.of_frame frame

/-- How the processing of an event that is there ends. -/
def Processed (permits : (call : Call) → Except JsError call.Reply → Prop)
    (platform : Platform) (event : RollbackEvent) (db after : Database) : Prop :=
  EventIs after event.id .failed ∨
    ∃ service target, db.services.byId event.serviceId = some service ∧
      RolledBack permits platform event service target db after

/-- What a job whose event is loaded concludes. -/
theorem processEvent_returns
    (steady : ∀ call reply, permits call reply → Steady call reply)
    (platform : Platform) (event : RollbackEvent) (db : Database) :
    (processEvent platform event).Returning (Calm permits)
      (fun _ after => Processed permits platform event db after) db := by
  have fails : ∀ reason orgId state,
      (fail platform event reason orgId).Returning (Calm permits)
        (fun _ after => Processed permits platform event db after) state := by
    intro reason orgId state
    apply Program.Returning.mono (fail_returns platform event reason orgId state)
    exact fun done after failed => .inl failed
  apply returning_query_bind
  intro first found afterFirst performed
  obtain ⟨read, rfl⟩ : db.services.byId event.serviceId = found ∧
      afterFirst = db.setClock first := by
    cases performed
    exact ⟨rfl, rfl⟩
  cases found with
  | none => exact fails _ _ _
  | some service =>
      apply returning_query_bind
      intro second host afterSecond performed
      cases host with
      | none => exact fails _ _ _
      | some host =>
          obtain rfl : (db.setClock first).setClock second = afterSecond :=
            congrArg Prod.snd performed
          apply returning_query_bind
          intro third target afterThird performed
          cases target with
          | none => exact fails _ _ _
          | some target =>
              obtain rfl : ((db.setClock first).setClock second).setClock third =
                  afterThird := congrArg Prod.snd performed
              cases platform.decrypt host.sshKeyEncrypted with
              | error error => exact fails _ _ _
              | ok privateKey =>
                  apply Program.Returning.mono (execute_returns steady platform event
                    service host target privateKey _)
                  intro done after concluded
                  have frame : EventFrame db
                      (((db.setClock first).setClock second).setClock third) := ⟨rfl, rfl⟩
                  rcases concluded.of_frame frame with failed | rolledBack
                  · exact .inl failed
                  · exact .inr ⟨service, target, read, rolledBack⟩

/-- A job that returns has found no event, has failed it, or has rolled its service
back. -/
theorem process_returns (steady : ∀ call reply, permits call reply → Steady call reply)
    (platform : Platform) (rollbackEventId : Nat) (db : Database) :
    (process platform rollbackEventId).Returning (Calm permits)
      (fun _ after => ∀ event, db.events.byId rollbackEventId = some event →
        Processed permits platform { event with status := .inProgress } db after)
      db := by
  apply returning_query_bind
  intro first found afterFirst performed
  obtain ⟨read, rfl⟩ : db.events.byId rollbackEventId = found ∧
      afterFirst = db.setClock first := by
    cases performed
    exact ⟨rfl, rfl⟩
  rw [read]
  cases found with
  | none => exact Program.returning_pure nofun
  | some event =>
      apply returning_query_bind
      intro second saved afterSave performed
      obtain ⟨-, frame, -⟩ := saved_event performed
      apply Program.Returning.mono (processEvent_returns steady platform _ afterSave)
      rintro done after processed other ⟨⟩
      rcases processed with failed | ⟨service, target, ofEvent, rolledBack⟩
      · exact .inl failed
      · rw [frame.services] at ofEvent
        have concluded : Concluded permits platform _ service target db after :=
          Concluded.of_frame ⟨frame.services, frame.snapshots⟩ (.inr rolledBack)
        rcases concluded with failed | rolledBack
        · exact .inl failed
        · exact .inr ⟨service, target, ofEvent, rolledBack⟩

end Rollback

/-! ### The history of a service -/

section History

variable {before middle after : Table DeploymentSnapshot} {serviceId : Nat}

/-- The image of the current snapshot. -/
def currentImage (snapshots : Table DeploymentSnapshot) (serviceId : Nat) :
    Option String :=
  (snapshots.findOne fun snapshot =>
    snapshot.serviceId == serviceId && snapshot.isCurrent).map DeploymentSnapshot.imageTag

/-- The current image is the one of the current snapshot. -/
theorem currentImage_eq_some {imageTag : String} :
    currentImage before serviceId = some imageTag ↔
      CurrentImage before serviceId imageTag := by
  rw [← findCurrent_isText, currentImage, Option.map_eq_some_iff, Option.any_eq_true]
  apply exists_congr
  intro snapshot
  simp only [isText, beq_iff_eq]
  exact and_congr_right fun _ => eq_comm

/-- The images of a service's snapshots in the order in which they were taken, each with
the user who deployed it. -/
def history (snapshots : Table DeploymentSnapshot) (serviceId : Nat) :
    List (String × Option Nat) :=
  (snapshots.rows.filter fun snapshot => snapshot.serviceId == serviceId).map
    fun snapshot => (snapshot.imageTag, snapshot.deployedById)

/-- Retiring the snapshots of any service is not seen in a history. -/
theorem history_retire (rows : List DeploymentSnapshot) (retired : Nat) :
    ((rows.map (DeploymentSnapshot.retire retired)).filter fun snapshot =>
        snapshot.serviceId == serviceId).map
        (fun snapshot => (snapshot.imageTag, snapshot.deployedById)) =
      (rows.filter fun snapshot => snapshot.serviceId == serviceId).map
        fun snapshot => (snapshot.imageTag, snapshot.deployedById) := by
  have entry : ∀ snapshot : DeploymentSnapshot,
      ((snapshot.retire retired).imageTag, (snapshot.retire retired).deployedById) =
        (snapshot.imageTag, snapshot.deployedById) := by
    intro snapshot
    unfold DeploymentSnapshot.retire
    split <;> rfl
  rw [List.filter_map, List.map_map]
  have filtered : ((fun snapshot : DeploymentSnapshot => snapshot.serviceId == serviceId) ∘
      DeploymentSnapshot.retire retired) = fun snapshot =>
        snapshot.serviceId == serviceId := by
    funext snapshot
    simp
  rw [filtered]
  exact List.map_congr_left fun snapshot _ => entry snapshot

/-- A capture adds one entry to the history of its service, and none elsewhere. -/
theorem Captured.history {capturedId : Nat} {imageTag : String} {deployedById : Option Nat}
    (captured : Captured before after capturedId imageTag deployedById) :
    history after serviceId = history before serviceId ++
      if capturedId = serviceId then [(imageTag, deployedById)] else [] := by
  obtain ⟨created, rfl, rfl, rfl, -, rows⟩ := captured
  unfold ServersManager.history
  rw [rows, List.filter_append, List.map_append, history_retire]
  congr 1
  by_cases same : created.serviceId = serviceId
  · simp [same]
  · simp [same]

/-- The captured image is the current one from then on. -/
theorem Captured.currentImage_self {imageTag : String} {deployedById : Option Nat}
    (captured : Captured before after serviceId imageTag deployedById) :
    currentImage after serviceId = some imageTag :=
  currentImage_eq_some.mpr captured.current

/-- The current image of another service stays. -/
theorem Captured.currentImage_other {capturedId : Nat} {imageTag : String}
    {deployedById : Option Nat}
    (captured : Captured before after capturedId imageTag deployedById)
    (differs : capturedId ≠ serviceId) :
    currentImage after serviceId = currentImage before serviceId := by
  apply Option.ext
  intro image
  rw [currentImage_eq_some, currentImage_eq_some]
  apply exists_congr
  intro snapshot
  constructor
  · rintro ⟨member, ofService, rest⟩
    exact ⟨(captured.other fun same => differs (same ▸ ofService)).mp member, ofService,
      rest⟩
  · rintro ⟨member, ofService, rest⟩
    exact ⟨(captured.other fun same => differs (same ▸ ofService)).mpr member, ofService,
      rest⟩

/-- The snapshots of a service have followed these reports. -/
structure Records (serviceId : Nat) (reports : List (Report String Nat))
    (before after : Table DeploymentSnapshot) : Prop where
  history : history after serviceId =
    history before serviceId ++ recorded (currentImage before serviceId) reports
  current : currentImage after serviceId = latest (currentImage before serviceId) reports

/-- Nothing is recorded of no report. -/
theorem Records.refl (snapshots : Table DeploymentSnapshot) :
    Records serviceId [] snapshots snapshots :=
  ⟨(List.append_nil _).symm, rfl⟩

/-- Reports that are recorded one stretch after another. -/
theorem Records.trans {reports more : List (Report String Nat)}
    (first : Records serviceId reports before middle)
    (second : Records serviceId more middle after) :
    Records serviceId (reports ++ more) before after where
  history := by
    rw [second.history, first.history, first.current, List.append_assoc,
      ← recorded_append]
  current := by rw [second.current, first.current, ← latest_append]

/-- What is captured for one service records nothing for another. -/
theorem Captured.records_other {capturedId : Nat} {imageTag : String}
    {deployedById : Option Nat}
    (captured : Captured before after capturedId imageTag deployedById)
    (differs : capturedId ≠ serviceId) : Records serviceId [] before after where
  history := by
    rw [captured.history, if_neg differs]
    rfl
  current := captured.currentImage_other differs

/-- A sync that captures has observed a new image. -/
theorem Captured.records_observed {imageTag : String}
    (captured : Captured before after serviceId imageTag none)
    (changed : currentImage before serviceId ≠ some imageTag) :
    Records serviceId [.observed imageTag] before after where
  history := by
    rw [captured.history, if_pos rfl, recorded_observed_new changed]
    rfl
  current := captured.currentImage_self

/-- A rollback records the image it has deployed, whatever came before. -/
theorem Captured.records_written {imageTag : String} {deployedBy : Nat}
    (captured : Captured before after serviceId imageTag (some deployedBy)) :
    Records serviceId [.written imageTag deployedBy] before after where
  history := by
    rw [captured.history, if_pos rfl]
    rfl
  current := captured.currentImage_self

/-- An image that is observed again records nothing. -/
theorem Records.unchanged {imageTag : String}
    (same : currentImage before serviceId = some imageTag) :
    Records serviceId [.observed imageTag] before before where
  history := by
    rw [same, recorded_observed_same]
    exact (List.append_nil _).symm
  current := same

end History

/-! ### A sync that lists the container -/

/-- Every row keeps its key and its container. -/
def KeepsRows (db after : Database) : Prop :=
  ∀ service ∈ db.services, ∃ kept ∈ after.services,
    kept.id = service.id ∧ kept.hostId = service.hostId ∧
      kept.containerId = service.containerId

theorem KeepsRows.refl (db : Database) : KeepsRows db db :=
  fun service member => ⟨service, member, rfl, rfl, rfl⟩

/-- Services that stay, stay. -/
theorem KeepsRows.trans {first second third : Database} (before : KeepsRows first second)
    (after : KeepsRows second third) : KeepsRows first third := by
  intro service member
  obtain ⟨kept, keptMember, sameId, sameHost, sameContainer⟩ := before service member
  obtain ⟨last, lastMember, lastId, lastHost, lastContainer⟩ := after kept keptMember
  exact ⟨last, lastMember, lastId.trans sameId, lastHost.trans sameHost,
    lastContainer.trans sameContainer⟩

/-- A kept row is the one that is found for its container. -/
theorem KeepsRows.id_of_serviceAt {db after : Database} (keeps : KeepsRows db after)
    {service owner : Service} (member : service ∈ db.services)
    (found : after.serviceAt service.hostId service.containerId = some owner) :
    service.id = owner.id := by
  obtain ⟨kept, keptMember, sameId, sameHost, sameContainer⟩ := keeps service member
  obtain ⟨ownerMember, ofHost, ofContainer⟩ := Database.serviceAt_eq_some.mp found
  rw [← sameId, service_unique keptMember ownerMember (sameHost.trans ofHost.symm)
    (sameContainer.trans ofContainer.symm)]

/-- A row has one container. -/
theorem KeepsRows.key_of_id {db after : Database} (keeps : KeepsRows db after)
    {service owner : Service} (member : service ∈ db.services)
    (present : owner ∈ after.services) (same : service.id = owner.id) :
    service.hostId = owner.hostId ∧ service.containerId = owner.containerId := by
  obtain ⟨kept, keptMember, sameId, sameHost, sameContainer⟩ := keeps service member
  have sameRow : kept = owner := Table.eq_of_id keptMember present (sameId.trans same)
  rw [← sameHost, ← sameContainer, sameRow]
  exact ⟨rfl, rfl⟩

/-- What a listing reports of a container. -/
def reportsOf (containerId : String) (rows : List PsRow) : List (Report String Nat) :=
  ((rows.filter fun row => row.id == containerId).map PsRow.image).map .observed

theorem reportsOf_cons_self {containerId : String} {row : PsRow}
    (same : row.id = containerId) (rows : List PsRow) :
    reportsOf containerId (row :: rows) =
      .observed row.image :: reportsOf containerId rows := by
  simp [reportsOf, same]

theorem reportsOf_cons_other {containerId : String} {row : PsRow}
    (differs : row.id ≠ containerId) (rows : List PsRow) :
    reportsOf containerId (row :: rows) = reportsOf containerId rows := by
  simp [reportsOf, differs]

/-- A container is reported on where the listing shows it. -/
theorem reportsOf_ne_nil {containerId : String} {rows : List PsRow} :
    reportsOf containerId rows ≠ [] ↔ containerId ∈ rows.map PsRow.id := by
  simp [reportsOf, List.filter_eq_nil_iff]

/-- The row of a service says what this image reference splits into. -/
def Service.Shows (service : Service) (imageTag : String) : Prop :=
  service.image = (splitImageAndTag imageTag).image ∧
    service.currentTag = (splitImageAndTag imageTag).tag

section Sync

variable {permits : (call : Call) → Except JsError call.Reply → Prop}
  {platform : Platform} {host : Host} {row : PsRow} {rows : List PsRow}
  {checkedAt : Date} {db middle after : Database} {service owner : Service}
  {containerId privateKey : String}

/-- An upsert removes no service. -/
theorem Upserted.keepsRows (upserted : Upserted permits platform host row checkedAt db
    service middle) : KeepsRows db middle := by
  intro old member
  by_cases same : old.hostId = host.id ∧ old.containerId = row.id
  · have found : db.serviceAt host.id row.id = some old :=
      Database.serviceAt_eq_some.mpr ⟨member, same⟩
    refine ⟨service, (upserted.services service).mpr (.inl rfl), ?_⟩
    rw [upserted.mirrors, found, same.1, same.2]
    exact ⟨rfl, rfl, rfl⟩
  · exact ⟨old, (upserted.services old).mpr (.inr ⟨member, same⟩), rfl, rfl, rfl⟩

/-- Nor does the loop over a listing. -/
theorem Upserts.keepsRows (upserts : Upserts permits platform host checkedAt rows db
    after) : KeepsRows db after := by
  induction upserts with
  | nil db => exact KeepsRows.refl db
  | cons upserted rest inductionHypothesis =>
      exact upserted.keepsRows.trans inductionHypothesis

/-- Upserting another container leaves the row of this one alone. -/
theorem Upserts.serviceAt_unlisted (upserts : Upserts permits platform host checkedAt rows
    db after) (unlisted : containerId ∉ rows.map PsRow.id) :
    after.serviceAt host.id containerId = db.serviceAt host.id containerId := by
  induction upserts with
  | nil db => rfl
  | @cons row rows db middle after service upserted rest inductionHypothesis =>
      rw [List.map_cons, List.mem_cons, not_or] at unlisted
      rw [inductionHypothesis unlisted.2]
      exact upserted.serviceAt_other fun both => unlisted.1 both.2

/-- The row of a listed container shows its image. -/
theorem Upserted.shows (upserted : Upserted permits platform host row checkedAt db
    service middle) : service.Shows row.image := by
  rw [upserted.mirrors]
  exact ⟨rfl, rfl⟩

/-- The row of a listed container shows the image that was reported last. -/
theorem Upserts.shows (upserts : Upserts permits platform host checkedAt rows db after)
    {imageTag : String}
    (reported : latest none (reportsOf containerId rows) = some imageTag)
    (found : after.serviceAt host.id containerId = some owner) : owner.Shows imageTag := by
  induction upserts with
  | nil db => cases reported
  | @cons row rows db middle after service upserted rest inductionHypothesis =>
      by_cases later : containerId ∈ rows.map PsRow.id
      · apply inductionHypothesis _ found
        have more := reportsOf_ne_nil.mpr later
        by_cases same : row.id = containerId
        · rw [reportsOf_cons_self same, latest_cons] at reported
          rw [latest_eq_of_ne_nil none _ more]
          exact reported
        · rw [reportsOf_cons_other same] at reported
          exact reported
      · have done : reportsOf containerId rows = [] :=
          not_not.mp fun more => later (reportsOf_ne_nil.mp more)
        by_cases same : row.id = containerId
        · rw [reportsOf_cons_self same, done] at reported
          cases reported
          rw [rest.serviceAt_unlisted later, ← same, upserted.serviceAt_self] at found
          cases found
          exact upserted.shows
        · rw [reportsOf_cons_other same, done] at reported
          cases reported

/-- Where the key can be decrypted, no capture is due just for the current image. -/
theorem noneDue_iff (decrypts : platform.decrypt host.sshKeyEncrypted = .ok privateKey)
    {snapshots : Table DeploymentSnapshot} {serviceId : Nat} {imageTag : String} :
    NoneDue platform host snapshots serviceId imageTag ↔
      currentImage snapshots serviceId = some imageTag := by
  rw [currentImage_eq_some]
  constructor
  · rintro (current | ⟨error, failed⟩)
    · exact current
    · cases decrypts.symm.trans failed
  · exact .inl

/-- An upsert records the image it observed. -/
theorem Upserted.records (inspecting : ∀ call reply, permits call reply →
      Inspecting platform call reply)
    (decrypts : platform.decrypt host.sshKeyEncrypted = .ok privateKey)
    (upserted : Upserted permits platform host row checkedAt db service middle) :
    Records service.id [.observed row.image] db.snapshots middle.snapshots := by
  by_cases same : currentImage db.snapshots service.id = some row.image
  · rw [upserted.settled ((noneDue_iff decrypts).mpr same)]
    exact Records.unchanged same
  · have captured := upserted.inspecting inspecting fun none =>
      same ((noneDue_iff decrypts).mp none)
    exact captured.records_observed same

/-- It records nothing for other services. -/
theorem Upserted.records_other {serviceId : Nat} (differs : service.id ≠ serviceId)
    (upserted : Upserted permits platform host row checkedAt db service middle) :
    Records serviceId [] db.snapshots middle.snapshots := by
  rcases upserted.snapshots with same | captured
  · rw [same]
    exact Records.refl _
  · exact captured.records_other differs

/-- The snapshots of the service that has the container in the end follow what the
listing reports. -/
theorem Upserts.records (inspecting : ∀ call reply, permits call reply →
      Inspecting platform call reply)
    (decrypts : platform.decrypt host.sshKeyEncrypted = .ok privateKey)
    (upserts : Upserts permits platform host checkedAt rows db after)
    (found : after.serviceAt host.id containerId = some owner) :
    Records owner.id (reportsOf containerId rows) db.snapshots after.snapshots := by
  induction upserts with
  | nil db => exact Records.refl _
  | @cons row rows db middle after service upserted rest inductionHypothesis =>
      have present := (upserted.services service).mpr (.inl rfl)
      have later := inductionHypothesis found
      by_cases same : row.id = containerId
      · rw [← same, ← upserted.key.1, ← upserted.key.2] at found
        have owned := rest.keepsRows.id_of_serviceAt present found
        rw [reportsOf_cons_self same]
        exact (owned ▸ upserted.records inspecting decrypts).trans later
      · rw [reportsOf_cons_other same]
        obtain ⟨ownerPresent, -, ofContainer⟩ := Database.serviceAt_eq_some.mp found
        have foreign : service.id ≠ owner.id := by
          intro sameId
          have sameKey := rest.keepsRows.key_of_id present ownerPresent sameId
          exact same (upserted.key.2.symm.trans (sameKey.2.trans ofContainer))
        exact (upserted.records_other foreign).trans later

/-- A listed container's row is not marked. -/
theorem Marked.keepsListed {missing : List Service}
    (marked : Marked checkedAt missing middle after)
    (gone : ∀ service ∈ missing, service.containerId ∉ rows.map PsRow.id)
    (listed : containerId ∈ rows.map PsRow.id)
    (found : after.serviceAt host.id containerId = some owner) :
    middle.serviceAt host.id containerId = some owner := by
  obtain ⟨present, ofHost, rfl⟩ := Database.serviceAt_eq_some.mp found
  rcases (marked.services owner).mp present with ⟨member, -⟩ | ⟨service, inMissing, rfl⟩
  · exact Database.serviceAt_eq_some.mpr ⟨member, ofHost, rfl⟩
  · exact absurd listed (gone service inMissing)

/-- Marking what is missing removes no service. -/
theorem Marked.keepsRows {missing : List Service}
    (marked : Marked checkedAt missing middle after)
    (present : ∀ service ∈ missing, service ∈ middle.services) :
    KeepsRows middle after := by
  intro old member
  by_cases inMissing : old.id ∈ missing.map Service.id
  · obtain ⟨service, serviceMissing, sameId⟩ := List.mem_map.mp inMissing
    have sameRow : service = old :=
      Table.eq_of_id (present service serviceMissing) member sameId
    subst sameRow
    exact ⟨service.vanished checkedAt,
      (marked.services _).mpr (.inr ⟨service, serviceMissing, rfl⟩), rfl, rfl, rfl⟩
  · exact ⟨old, (marked.services old).mpr (.inl ⟨member, inMissing⟩), rfl, rfl, rfl⟩

/-- Nor does a whole sync. -/
theorem Synced.keepsRows
    (synced : Synced permits platform host rows checkedAt db after) :
    KeepsRows db after := by
  obtain ⟨first, middle, last, missing, upserts, marked, -, newlyMissing⟩ := synced
  have upserted : KeepsRows db middle := upserts.keepsRows
  apply upserted.trans
  have present : ∀ service ∈ missing, service ∈ middle.services :=
    fun service inMissing => ((newlyMissing service).mp inMissing).1
  exact marked.keepsRows present

/-- After a sync the service of a listed container follows what was reported of it. -/
theorem Synced.follows (inspecting : ∀ call reply, permits call reply →
      Inspecting platform call reply)
    (decrypts : platform.decrypt host.sshKeyEncrypted = .ok privateKey)
    (synced : Synced permits platform host rows checkedAt db after)
    (listed : containerId ∈ rows.map PsRow.id)
    (found : after.serviceAt host.id containerId = some owner) :
    Records owner.id (reportsOf containerId rows) db.snapshots after.snapshots ∧
      ∀ imageTag, latest none (reportsOf containerId rows) = some imageTag →
        owner.Shows imageTag := by
  obtain ⟨first, middle, last, missing, upserts, marked, -, newlyMissing⟩ := synced
  have owned : middle.serviceAt host.id containerId = some owner :=
    marked.keepsListed
      (fun service inMissing => ((newlyMissing service).mp inMissing).2.2.1) listed found
  constructor
  · rw [marked.snapshots]
    have records := upserts.records inspecting decrypts owned
    exact records
  · exact fun imageTag reported => upserts.shows reported owned

end Sync

/-! ### Runs of syncs and rollbacks -/

/-- A session is answered by a docker that runs this image under this name, and that
lists the container with the image reference it was given. -/
def Recreating (containerName imageTag : String) :
    (call : Call) → Except JsError call.Reply → Prop
  | .execCommand _ command, reply => ∀ result, reply = .ok result →
      (∀ config ran, command = buildDockerRunCommand config ran →
        config.containerName = containerName ∧ ran = imageTag) ∧
      (command = dockerPsAllJsonCommand → ∀ listing container,
        parseDockerPsOutput result.stdout = .ok listing →
          findRecreated containerName listing = some container →
            container.image = .str imageTag)
  | call, reply => Steady call reply

/-- A host that recreates the container answers steadily. -/
theorem Recreating.steady {containerName imageTag : String} {call : Call}
    {reply : Except JsError call.Reply}
    (recreating : Recreating containerName imageTag call reply) : Steady call reply := by
  cases call with
  | execCommand options command => trivial
  | _ => exact recreating

/-- One step of the history of a service, and what docker reports in it. -/
inductive HistoryStep (platform : Platform) (serviceId : Nat) :
    List (Report String Nat) → Database → Database → Prop where
  /-- A sync that lists the container of the service, and every `docker inspect` of which
  succeeds. -/
  | listing {host : Host} {privateKey : String} {result : SshCommandResult}
      {rows : List PsRow} {skippedLines : Nat} {containerId : String} {owner : Service}
      {outcome : Except JsError Unit} {db after : Database}
      (decrypts : platform.decrypt host.sshKeyEncrypted = .ok privateKey)
      (runs : isDockerMissing result = false)
      (parses : parseDockerPsOutput result.stdout =
        .ok { containers := rows.map PsRow.toContainer, skippedLines := skippedLines })
      (steps : Program.Steps (Calm (Inspecting platform)) (sync platform host result, db)
        (.ofExcept outcome, after))
      (listed : containerId ∈ rows.map PsRow.id)
      (found : after.serviceAt host.id containerId = some owner)
      (owned : owner.id = serviceId) :
      HistoryStep platform serviceId (reportsOf containerId rows) db after
  /-- A rollback of the service that succeeds. -/
  | rollback {event : RollbackEvent} {rollbackEventId : Nat}
      {containerName imageTag : String} {db after : Database}
      (requested : db.events.byId rollbackEventId = some event)
      (ofService : event.serviceId = serviceId)
      (steps : Program.Steps (Calm (Recreating containerName imageTag))
        (process platform rollbackEventId, db) (.ofExcept (.ok ()), after))
      (succeeded : EventIs after rollbackEventId .succeeded) :
      HistoryStep platform serviceId [.written imageTag event.triggeredById] db after

/-- Steps one after another, and all that docker reports in them. -/
inductive HistoryRun (platform : Platform) (serviceId : Nat) :
    List (Report String Nat) → Database → Database → Prop where
  | nil (db : Database) : HistoryRun platform serviceId [] db db
  | snoc {reports more : List (Report String Nat)} {db middle after : Database}
      (run : HistoryRun platform serviceId reports db middle)
      (step : HistoryStep platform serviceId more middle after) :
      HistoryRun platform serviceId (reports ++ more) db after

/-- The current snapshot of a service is of this image, and its row says what the
reference splits into. -/
structure Tracked (serviceId : Nat) (imageTag : String) (db : Database) : Prop where
  current : currentImage db.snapshots serviceId = some imageTag
  shown : ∃ service, db.services.byId serviceId = some service ∧ service.Shows imageTag

section Runs

variable {platform : Platform} {serviceId : Nat} {reports more : List (Report String Nat)}
  {db middle after : Database}

/-- A successful rollback writes its target into the history. -/
theorem RolledBack.follows {permits : (call : Call) → Except JsError call.Reply → Prop}
    {event : RollbackEvent} {service : Service} {target : DeploymentSnapshot}
    (rolledBack : RolledBack permits platform event service target db after) :
    Records service.id [.written target.imageTag event.triggeredById] db.snapshots
        after.snapshots ∧
      ∃ row, after.services.byId service.id = some row ∧ row.Shows target.imageTag := by
  refine ⟨rolledBack.snapshots.records_written, ?_⟩
  obtain ⟨newContainerId, lastCheckedAt, services⟩ := rolledBack.services
  have present := (services (rolledBackService platform service newContainerId target
    .running lastCheckedAt)).mpr (.inl rfl)
  have found := Table.byId_self present
  exact ⟨_, found, rfl, rfl⟩

/-- The step lemma: each step records its reports, and the row shows the latest. -/
theorem HistoryStep.follows (step : HistoryStep platform serviceId more db after) :
    Records serviceId more db.snapshots after.snapshots ∧
      ∃ imageTag, latest none more = some imageTag ∧
        ∃ service, after.services.byId serviceId = some service ∧
          service.Shows imageTag := by
  cases step with
  | @listing host privateKey result rows skippedLines containerId owner outcome db after
      decrypts runs parses steps listed found owned =>
      obtain ⟨-, checkedAt, synced⟩ := (sync_ensures (fun _ _ holds => holds.steady)
        platform host result rows skippedLines runs parses db).steps steps
      obtain ⟨records, shows⟩ := synced.follows (fun _ _ holds => holds) decrypts listed
        found
      subst owned
      refine ⟨records, ?_⟩
      have present := (Database.serviceAt_eq_some.mp found).1
      obtain ⟨imageTag, reported⟩ := exists_latest none (reportsOf_ne_nil.mpr listed)
      exact ⟨imageTag, reported, owner, Table.byId_self present, shows imageTag reported⟩
  | @rollback event rollbackEventId containerName imageTag db after requested ofService
      steps succeeded =>
      have processed := (process_returns (fun _ _ holds => holds.steady) platform
        rollbackEventId db).steps steps () rfl event requested
      have sameId : event.id = rollbackEventId := (Table.byId_eq_some.mp requested).2
      rcases processed with failed | ⟨service, target, ofEvent, rolledBack⟩
      · obtain ⟨last, found, isFailed⟩ := failed
        obtain ⟨other, otherFound, isSucceeded⟩ := succeeded
        rw [← sameId] at otherFound
        cases found.symm.trans otherFound
        rw [isFailed] at isSucceeded
        cases isSucceeded
      · obtain ⟨options, config, result, permitted⟩ := rolledBack.started
        have ran : target.imageTag = imageTag := ((permitted result rfl).1 config _ rfl).2
        have ofRow : service.id = serviceId :=
          ((Table.byId_eq_some.mp ofEvent).2).trans ofService
        obtain ⟨records, shown⟩ := rolledBack.follows
        rw [ran, ofRow] at records shown
        exact ⟨records, imageTag, rfl, shown⟩

/-- A sync that lists the container of a service that is there already. -/
theorem HistoryStep.of_known {host : Host} {privateKey : String}
    {result : SshCommandResult} {rows : List PsRow} {skippedLines : Nat}
    {containerId : String} {old : Service} {outcome : Except JsError Unit}
    (decrypts : platform.decrypt host.sshKeyEncrypted = .ok privateKey)
    (runs : isDockerMissing result = false)
    (parses : parseDockerPsOutput result.stdout =
      .ok { containers := rows.map PsRow.toContainer, skippedLines := skippedLines })
    (steps : Program.Steps (Calm (Inspecting platform)) (sync platform host result, db)
      (.ofExcept outcome, after))
    (listed : containerId ∈ rows.map PsRow.id)
    (known : db.serviceAt host.id containerId = some old) :
    HistoryStep platform old.id (reportsOf containerId rows) db after := by
  obtain ⟨-, checkedAt, synced⟩ := (sync_ensures (fun _ _ holds => holds.steady)
    platform host result rows skippedLines runs parses db).steps steps
  obtain ⟨member, ofHost, ofContainer⟩ := Database.serviceAt_eq_some.mp known
  obtain ⟨kept, keptMember, sameId, sameHost, sameContainer⟩ := synced.keepsRows old member
  have found := Database.serviceAt_eq_some.mpr
    ⟨keptMember, sameHost.trans ofHost, sameContainer.trans ofContainer⟩
  exact .listing decrypts runs parses steps listed found sameId

/-- The run lemma, by induction on the run. -/
theorem HistoryRun.records (run : HistoryRun platform serviceId reports db after) :
    Records serviceId reports db.snapshots after.snapshots := by
  induction run with
  | nil db => exact Records.refl _
  | snoc run step inductionHypothesis => exact inductionHypothesis.trans step.follows.1

end Runs

/-- After every step of every run the current snapshot and the row of the service are of
the image that docker reported last.  A sync adds snapshots exactly if it reports an image
that is not current; the history is the one before the run, extended by the changes that
were reported, and no automatic snapshot in it repeats its predecessor's image. -/
theorem history_tracks (platform : Platform) (serviceId : Nat)
    {reports more : List (Report String Nat)} {db middle after : Database}
    (run : HistoryRun platform serviceId reports db middle)
    (step : HistoryStep platform serviceId more middle after) :
    (∃ imageTag, latest none more = some imageTag ∧ Tracked serviceId imageTag after) ∧
    (∀ images : List String, more = images.map .observed →
      (history after.snapshots serviceId = history middle.snapshots serviceId ↔
        ∀ imageTag ∈ images, currentImage middle.snapshots serviceId = some imageTag)) ∧
    history after.snapshots serviceId = history db.snapshots serviceId ++
      recorded (currentImage db.snapshots serviceId) (reports ++ more) ∧
    (Varied (history db.snapshots serviceId) →
      EndsIn (history db.snapshots serviceId) (currentImage db.snapshots serviceId) →
        Varied (history after.snapshots serviceId)) := by
  obtain ⟨stepRecords, imageTag, reported, shown⟩ := step.follows
  have records := run.records.trans stepRecords
  refine ⟨⟨imageTag, reported, ?_, shown⟩, ?_, records.history, ?_⟩
  · have reportsMore : more ≠ [] := by
      rintro rfl
      cases reported
    rw [stepRecords.current, latest_eq_of_ne_nil _ none reportsMore]
    exact reported
  · rintro images rfl
    rw [stepRecords.history, List.append_right_eq_self, recorded_observed_eq_nil]
  · intro varied endsIn
    rw [records.history]
    exact varied.append_recorded endsIn _

/-! ### A container that is recreated from its own image -/

def webRow (containerId : String) : PsRow :=
  { id := containerId
    image := "nginx:1.26"
    names := "web"
    ports := ""
    status := "Up 2 minutes" }

def webListing (containerId : String) : SshCommandResult :=
  { command := dockerPsCommand
    stdout := psOutput [webRow containerId]
    stderr := ""
    exitCode := some 0 }

def webRunCommand : String := "docker run -d --name 'web' 'nginx:1.26'"

/-- What the commands of the rollback print; no other command is executed. -/
def recreatingOutput (command : String) : Option String :=
  if command ∈ [stopCommand "4f2a", rmCommand "4f2a", webRunCommand] then some ""
  else if command = dockerPsAllJsonCommand then some (psOutput [webRow "9c1d"])
  else none

def recreatingReply (command : String) : Except JsError ExecReply :=
  match recreatingOutput command with
  | some stdout => .ok { stdout := stdout, stderr := "", code := some 0 }
  | none => .error (.error "refused")

def recreatingMachine : Machine Calls JsError Database :=
  fun (call : Call) db =>
    match call with
    | .execCommand _ command => (recreatingReply command, db)
    | call => Surroundings.quiet.answer db call

/-- The run command of the example is built from one configuration only. -/
theorem webRunCommand_built {config : DeploymentConfigBlob} {ran : String}
    (built : webRunCommand = buildDockerRunCommand config ran) :
    config.containerName = "web" ∧ ran = "nginx:1.26" := by
  have arguments := simpleCommand_of_built (by decide) built
  have read : Library.Shell.simpleCommand webRunCommand =
      some ["docker", "run", "-d", "--name", "web", "nginx:1.26"] := by decide +kernel
  have same := Option.some.inj (read.symm.trans arguments)
  have name : some "web" = some config.containerName :=
    congrArg (fun arguments => arguments[4]?) same
  have last := congrArg List.getLast? same
  rw [dockerRunArguments, List.getLast?_concat] at last
  exact ⟨(Option.some.inj name).symm, (Option.some.inj last).symm⟩

/-- Every other command is not a `docker run`. -/
theorem otherCommand_built {command : String}
    (member : command ∈ [stopCommand "4f2a", rmCommand "4f2a", dockerPsAllJsonCommand])
    (config : DeploymentConfigBlob) (ran : String) :
    command ≠ buildDockerRunCommand config ran := by
  intro built
  have second : ∀ other ∈ [stopCommand "4f2a", rmCommand "4f2a", dockerPsAllJsonCommand],
      '\x00' ∉ other.toList ∧
        ∀ arguments, Library.Shell.simpleCommand other = some arguments →
          arguments[1]? ≠ some "run" := by
    decide +kernel
  obtain ⟨nul, notRun⟩ := second command member
  exact notRun _ (simpleCommand_of_built nul built) rfl

theorem recreatingOutput_other {command stdout : String}
    (printed : recreatingOutput command = some stdout) (notRun : command ≠ webRunCommand) :
    command ∈ [stopCommand "4f2a", rmCommand "4f2a", dockerPsAllJsonCommand] := by
  unfold recreatingOutput at printed
  split at printed
  · next member =>
    simp only [List.mem_cons, List.not_mem_nil, or_false] at member ⊢
    rcases member with stop | rm | run
    · exact .inl stop
    · exact .inr (.inl rm)
    · exact absurd run notRun
  · split at printed
    · next lists => simp [lists]
    · cases printed

theorem webRow_complete (containerId : String) (present : containerId ≠ "") :
    ∀ row ∈ [webRow containerId], row.Complete := by
  intro row member
  rw [List.mem_singleton.mp member]
  exact ⟨present, by simp [webRow], by simp [webRow], by simp [webRow]⟩

theorem recreatingReply_permitted (options : SshConnectionOptions) (command : String) :
    Recreating "web" "nginx:1.26" (.execCommand options command)
      (recreatingReply command) := by
  intro result replied
  unfold recreatingReply at replied
  split at replied
  · next stdout printed =>
    cases replied
    constructor
    · intro config ran built
      by_cases run : command = webRunCommand
      · exact webRunCommand_built (run.symm.trans built)
      · exact absurd built (otherCommand_built (recreatingOutput_other printed run)
          config ran)
    · rintro rfl listing container parsed found
      have listed : recreatingOutput dockerPsAllJsonCommand =
          some (psOutput [webRow "9c1d"]) := rfl
      obtain rfl : psOutput [webRow "9c1d"] = stdout :=
        Option.some.inj (listed.symm.trans printed)
      have parses := parseDockerPsOutput_psOutput (webRow_complete "9c1d" (by simp))
      obtain rfl : _ = listing := Except.ok.inj (parses.symm.trans parsed)
      obtain rfl := List.mem_singleton.mp (List.mem_of_find?_eq_some found)
      rfl
  · cases replied

/-- The machine of the example answers without a fault. -/
theorem recreatingMachine_calm (db : Database) (call : Call) :
    CalmAnswer (Recreating "web" "nginx:1.26") db call (recreatingMachine call db).1
      (recreatingMachine call db).2 := by
  cases call with
  | query q => exact ⟨db.clock, rfl⟩
  | now => exact ⟨⟨_, rfl⟩, db.clock, rfl⟩
  | randomBytes size => exact ⟨⟨_, rfl⟩, db.clock, rfl⟩
  | execCommand options command =>
      exact ⟨recreatingReply_permitted options command, db.clock, rfl⟩
  | _ => exact ⟨trivial, db.clock, rfl⟩

/-- A sync that lists the container of the service. -/
theorem webSynced_step {containerId : String} (present : containerId ≠ "") {db : Database}
    {old : Service} (known : db.serviceAt 2 containerId = some old) :
    ∃ after, HistoryStep .transparent old.id [.observed "nginx:1.26"] db after := by
  have decrypts : Platform.transparent.decrypt registeredHost.sshKeyEncrypted =
      .ok registeredHost.sshKeyEncrypted := rfl
  have runs : isDockerMissing (webListing containerId) = false := if_pos rfl
  have parses : parseDockerPsOutput (webListing containerId).stdout =
      .ok { containers := [webRow containerId].map PsRow.toContainer, skippedLines := 0 } := by
    change parseDockerPsOutput (psOutput [webRow containerId]) = _
    exact parseDockerPsOutput_psOutput (webRow_complete containerId present)
  have listed : containerId ∈ [webRow containerId].map PsRow.id :=
    List.mem_singleton_self containerId
  have steps := Program.run_steps inspectedSurroundings.machine
    (fun op state => inspectedSurroundings_calm state op)
    (sync .transparent registeredHost (webListing containerId)) db
  have reports : reportsOf containerId [webRow containerId] = [.observed "nginx:1.26"] :=
    reportsOf_cons_self rfl []
  have step := HistoryStep.of_known decrypts runs parses steps listed known
  rw [reports] at step
  exact ⟨_, step⟩

/-- The rollback that recreates it. -/
def webRolledBack : Except JsError Unit × Database :=
  (process .transparent requestedRollback.id).run recreatingMachine
    (requestedDatabase webConfigBlob)

theorem webRolledBack_succeeds : webRolledBack.1 = .ok () ∧
    (webRolledBack.2.events.byId requestedRollback.id).map RollbackEvent.status =
      some .succeeded ∧
    (webRolledBack.2.serviceAt 2 "9c1d").map Service.id = some 1 := by
  decide +kernel

/-- The rollback of the example is a step of the history. -/
theorem webRolledBack_step :
    HistoryStep .transparent 1 [.written "nginx:1.26" 5] (requestedDatabase webConfigBlob)
      webRolledBack.2 := by
  obtain ⟨returned, ended, -⟩ := webRolledBack_succeeds
  have ran := Program.run_steps recreatingMachine
    (fun op state => recreatingMachine_calm state op)
    (process .transparent requestedRollback.id) (requestedDatabase webConfigBlob)
  change Program.Steps _ _ (.ofExcept webRolledBack.1, webRolledBack.2) at ran
  rw [returned] at ran
  obtain ⟨event, found, status⟩ := Option.map_eq_some_iff.mp ended
  have requested : (requestedDatabase webConfigBlob).events.byId requestedRollback.id =
      some requestedRollback := rfl
  exact HistoryStep.rollback requested rfl ran ⟨event, found, status⟩

/-- The rollback takes a second snapshot under the name of its user, and the sync after it
takes none. -/
theorem history_tracks_recreated :
    ∃ after,
      HistoryStep .transparent 1 [.written "nginx:1.26" 5]
        (requestedDatabase webConfigBlob) webRolledBack.2 ∧
      HistoryStep .transparent 1 [.observed "nginx:1.26"] webRolledBack.2 after ∧
      history after.snapshots 1 = [("nginx:1.26", none), ("nginx:1.26", some 5)] ∧
      Tracked 1 "nginx:1.26" after := by
  obtain ⟨old, found, sameId⟩ := Option.map_eq_some_iff.mp webRolledBack_succeeds.2.2
  obtain ⟨after, step⟩ := webSynced_step (by decide) found
  rw [sameId] at step
  obtain ⟨⟨imageTag, reported, tracked⟩, -, extended, -⟩ := history_tracks .transparent 1
    ((HistoryRun.nil _).snoc webRolledBack_step) step
  cases reported
  exact ⟨after, webRolledBack_step, step, extended, tracked⟩

end ServersManager
