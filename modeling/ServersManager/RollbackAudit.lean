/-
Module: ServersManager.RollbackAudit
Purpose: The log that a rollback job keeps in its event: it only grows, and what of a
  session that breaks off is in it.
Trusted boundary: none
Main exports:
  logProtocol, process_logs, LogGrows, RollbackLogEntry.content, auditEntries,
  AuditKept, audit_kept_iff
-/
import ServersManager.RollbackRun
import ServersManager.ServicesSync

namespace ServersManager

open Library

/-! ### The log only grows -/

/-- The calls that neither load nor write an event. -/
def Call.SparesEvents : Call → Prop
  | .query (.findEvent _) => False
  | .query q => q.writesEvents = false
  | _ => True

/-- Evaluating alerts spares the events. -/
theorem Call.OfAlerts.sparesEvents {call : Call} (ofAlerts : call.OfAlerts) :
    call.SparesEvents := by
  cases call with
  | query q => cases q <;> first | rfl | cases ofAlerts
  | _ => trivial

/-- A job that holds an event saves it with nothing missing from its log. -/
def LogAllows (held : Option RollbackEvent) : Call → Prop
  | .query (.saveEvent row) =>
      ∃ event ∈ held, row.id = event.id ∧ event.logOutput <+: row.logOutput
  | .query (.findEvent _) => True
  | call => call.SparesEvents

/-- The event that a job holds is the one it has loaded or saved last. -/
def logNext (held : Option RollbackEvent) :
    (call : Call) → Except JsError call.Reply → Option RollbackEvent
  | .query (.findEvent _), .ok found => found
  | .query (.saveEvent row), .ok _ => some row
  | _, _ => held

def logProtocol : Protocol Calls JsError (Option RollbackEvent) where
  Allows := LogAllows
  Moves held call reply after := after = logNext held call reply

/-- What spares the events may be called whatever event is held. -/
theorem Call.SparesEvents.allowed {call : Call} (spares : call.SparesEvents)
    (held : Option RollbackEvent) : LogAllows held call := by
  cases call with
  | query q =>
      cases q with
      | saveEvent row => cases spares
      | findEvent id => trivial
      | _ => exact spares
  | _ => trivial

/-- It leaves the held event as it is. -/
theorem Call.SparesEvents.next {call : Call} (spares : call.SparesEvents)
    (held : Option RollbackEvent) (reply : Except JsError call.Reply) :
    logNext held call reply = held := by
  cases call with
  | query q =>
      cases q with
      | saveEvent row => cases spares
      | findEvent id => cases spares
      | _ => rfl
  | _ => rfl

section Logs

variable {α β : Type} {platform : Platform} {event : RollbackEvent}

/-- The rest of a job that holds an event. -/
abbrev Logs (program : Job α) (event : RollbackEvent) : Prop :=
  program.Follows logProtocol (fun _ _ => True) (some event)

theorem logs_spares {program : Job α} (only : program.Only Call.SparesEvents) :
    program.Follows logProtocol (fun _ held => held = some event) (some event) := by
  apply only.follows
  · intro call spares
    exact spares.allowed _
  · rintro call reply after spares rfl
    exact spares.next _ _
  · exact Program.ends_of_all fun _ => rfl

/-- A program that spares the events, and whatever comes after it. -/
theorem logs_spares_bind {program : Job α} {rest : α → Job β}
    (only : program.Only Call.SparesEvents) (logs : ∀ value, Logs (rest value) event) :
    Logs (program.bind rest) event := by
  apply (Program.follows_bind _ _ _ _ _).mpr
  apply (logs_spares only).mono
  rintro (error | value) held rfl
  · trivial
  · exact logs value

/-- A query that spares the events, and whatever comes after it. -/
theorem logs_query_bind {q : Query} {rest : q.Reply → Job β}
    (spares : Call.SparesEvents (.query q)) (logs : ∀ reply, Logs (rest reply) event) :
    Logs ((query q).bind rest) event :=
  logs_spares_bind (Program.only_perform spares) logs

/-- A save that only adds to the log of the held event. -/
theorem logs_save_bind {row : RollbackEvent} {rest : RollbackEvent → Job β}
    (same : row.id = event.id) (grows : event.logOutput <+: row.logOutput)
    (logs : ∀ saved, Logs (rest saved) row) :
    Logs ((query (.saveEvent row)).bind rest) event := by
  refine ⟨⟨event, rfl, same, grows⟩, ?_⟩
  rintro (error | saved) held rfl
  · trivial
  · exact logs saved

/-- What is appended to the log is held from then on. -/
theorem logs_appendLog_bind {entry : RollbackLogEntry} {rest : RollbackEvent → Job β}
    (logs : ∀ logged, Logs (rest logged) logged) :
    Logs ((appendLog event entry).bind rest) event := by
  rw [appendLog, Program.bind_eq, Program.bind_assoc]
  refine logs_save_bind ?_ ?_ ?_
  · rfl
  · exact List.prefix_append _ _
  · intro saved
    exact logs _

theorem now_spares : now.Only Call.SparesEvents := by
  have spares : Call.SparesEvents .now := trivial
  exact Program.only_perform spares

theorem messageEntry_spares (step message : String) :
    (messageEntry step message).Only Call.SparesEvents :=
  Program.Only.bind now_spares fun _ => trivial

theorem toLogEntry_spares (step : String) (result : SshCommandResult) :
    (toLogEntry step result).Only Call.SparesEvents :=
  Program.Only.bind now_spares fun _ => trivial

/-- The last save leaves the log as it is. -/
theorem complete_logs (status : RollbackEventStatus) : Logs (complete event status) event := by
  apply logs_spares_bind now_spares
  intro completedAt
  refine logs_save_bind ?_ ?_ ?_
  · rfl
  · exact List.prefix_refl _
  · intro saved
    trivial

/-- A computation that makes no call, and whatever comes after it. -/
theorem logs_ofExcept_bind {outcome : Except JsError α} {rest : α → Job β}
    (logs : ∀ value, Logs (rest value) event) :
    Logs ((Program.ofExcept outcome).bind rest) event := by
  cases outcome with
  | ok value => exact logs value
  | error error => trivial

/-- A failure adds an entry and completes the event. -/
theorem fail_logs (reason : String) (orgId : Option Nat) :
    Logs (fail platform event reason orgId) event := by
  apply logs_spares_bind (messageEntry_spares _ _)
  intro entry
  apply logs_appendLog_bind
  intro logged
  apply (Program.follows_bind _ _ _ _ _).mpr
  have evaluates : ∀ input held, (evaluateTransition platform input).Follows logProtocol
      (fun _ _ => True) held := by
    intro input held
    apply (evaluateTransition_only platform _).follows
    · intro call ofAlerts
      exact ofAlerts.sparesEvents.allowed _
    · rintro call reply after ofAlerts rfl
      exact ofAlerts.sparesEvents.next _ _
    · exact Program.ends_of_all fun _ => trivial
  apply (complete_logs .failed).mono
  rintro (error | value) held -
  · trivial
  · cases orgId with
    | none => trivial
    | some orgId => exact evaluates _ held

/-- A success completes the event, and writes no other entry. -/
theorem succeed_logs (service : Service) (newContainerId : Json)
    (targetSnapshot : DeploymentSnapshot) (newStatus : ServiceStatus) :
    Logs (succeed platform event service newContainerId targetSnapshot newStatus)
      event := by
  apply logs_spares_bind now_spares
  intro checkedAt
  refine logs_query_bind rfl ?_
  intro saved
  apply logs_ofExcept_bind
  intro config
  apply logs_spares_bind now_spares
  intro deployedAt
  apply logs_spares_bind
  · apply Program.Only.bind
    · exact Program.Only.bind (Program.only_perform trivial) fun iv => trivial
    · exact fun configBlob => Program.only_perform rfl
  intro created
  refine logs_query_bind rfl ?_
  intro log
  exact complete_logs .succeeded

theorem logs_message_bind {step message : String} {rest : RollbackEvent → Job β}
    (logs : ∀ logged, Logs (rest logged) logged) :
    Logs ((messageEntry step message).bind fun entry => (appendLog event entry).bind rest)
      event :=
  logs_spares_bind (messageEntry_spares step message) fun _ => logs_appendLog_bind logs

theorem logs_result_bind {step : String} {result : SshCommandResult}
    {rest : RollbackEvent → Job β} (logs : ∀ logged, Logs (rest logged) logged) :
    Logs ((toLogEntry step result).bind fun entry => (appendLog event entry).bind rest)
      event :=
  logs_spares_bind (toLogEntry_spares step result) fun _ => logs_appendLog_bind logs

/-- The check of the recreated container is logged before the event is completed. -/
theorem checkRecreated_logs (service : Service) (targetSnapshot : DeploymentSnapshot)
    (containerName : String) (psResult : SshCommandResult) :
    Logs (checkRecreated platform event service targetSnapshot containerName psResult)
      event := by
  apply logs_ofExcept_bind
  intro listing
  apply logs_ofExcept_bind
  intro newStatus
  apply logs_message_bind
  intro logged
  split
  · exact succeed_logs _ _ _ _
  · exact fail_logs _ _

/-- The four results are logged in turn, each with a save of its own. -/
theorem settle_logs (service : Service) (targetSnapshot : DeploymentSnapshot)
    (containerName : String) (results : List SshCommandResult) :
    Logs (settle platform event service targetSnapshot containerName results) event := by
  unfold settle
  split
  · apply logs_result_bind
    intro stopped
    apply logs_result_bind
    intro removed
    apply logs_result_bind
    intro started
    apply logs_result_bind
    intro listed
    split
    · exact fail_logs _ _
    · exact checkRecreated_logs _ _ _ _
  · trivial

/-- A session leaves the event alone, or fails it for good. -/
theorem session_logs (service : Service) (host : Host)
    (targetSnapshot : DeploymentSnapshot) (privateKey : String) (config : Json) :
    (session platform event service host targetSnapshot privateKey config).Follows
      logProtocol
      (fun outcome held => ∀ results, outcome = .ok (some results) → held = some event)
      (some event) := by
  apply (Program.follows_tryCatch _ _ _ _ _).mpr
  have talks : (Program.ofExcept (readConfig config) >>= fun config =>
      runCommands (host.sshOptions privateKey)
        (rollbackCommands service config targetSnapshot.imageTag) >>= fun results =>
          (pure (some (config.containerName, results)) :
            Job (Option (String × List SshCommandResult)))).Only Call.SparesEvents := by
    apply Program.Only.bind Program.only_ofExcept
    intro config
    apply Program.Only.bind
    · exact runCommands_only _ _ trivial fun command => trivial
    · intro results
      trivial
  apply (logs_spares talks).mono
  rintro (error | results) held rfl
  · apply (Program.follows_bind _ _ _ _ _).mpr
    apply (fail_logs _ _).mono
    rintro (error | value) held -
    · nofun
    · nofun
  · exact fun _ _ => rfl

/-- Nothing is logged while the commands are under way. -/
theorem execute_logs (service : Service) (host : Host)
    (targetSnapshot : DeploymentSnapshot) (privateKey : String) :
    Logs (execute platform event service host targetSnapshot privateKey) event := by
  apply logs_ofExcept_bind
  intro config
  apply (Program.follows_bind _ _ _ _ _).mpr
  apply (session_logs _ _ _ _ _).mono
  rintro (error | _ | results) held holds
  · trivial
  · trivial
  · rw [holds results rfl]
    exact settle_logs _ _ _ _

/-- A row that is missing is logged as the reason of the failure. -/
theorem processEvent_logs : Logs (processEvent platform event) event := by
  refine logs_query_bind rfl ?_
  intro found
  split
  · exact fail_logs _ _
  refine logs_query_bind rfl ?_
  intro found
  split
  · exact fail_logs _ _
  refine logs_query_bind rfl ?_
  intro found
  split
  · exact fail_logs _ _
  split
  · exact fail_logs _ _
  · exact execute_logs _ _ _ _

end Logs

/-- The event is held once it has been loaded. -/
theorem process_logs (platform : Platform) (rollbackEventId : Nat) :
    (process platform rollbackEventId).Follows logProtocol (fun _ _ => True) none := by
  refine ⟨trivial, ?_⟩
  rintro (error | found) held moves
  · trivial
  rw [show held = found from moves]
  cases found with
  | none => trivial
  | some event =>
      refine logs_save_bind ?_ ?_ ?_
      · rfl
      · exact List.prefix_refl _
      · intro saved
        exact processEvent_logs

/-- No event is lost, and no log loses or changes an entry. -/
def LogsExtend (before after : Database) : Prop :=
  ∀ id row, before.events.byId id = some row →
    ∃ rowAfter, after.events.byId id = some rowAfter ∧
      row.logOutput <+: rowAfter.logOutput

theorem LogsExtend.refl (db : Database) : LogsExtend db db :=
  fun _ row found => ⟨row, found, List.prefix_refl _⟩

/-- Logs that have grown grow on. -/
theorem LogsExtend.trans {first second third : Database} (before : LogsExtend first second)
    (after : LogsExtend second third) : LogsExtend first third := by
  intro id row found
  obtain ⟨middle, foundMiddle, grows⟩ := before id row found
  obtain ⟨last, foundLast, growsOn⟩ := after id middle foundMiddle
  exact ⟨last, foundLast, grows.trans growsOn⟩

/-- What does not write events leaves all logs as they are. -/
theorem LogsExtend.of_events {before after : Database}
    (same : after.events = before.events) : LogsExtend before after := by
  intro id row found
  exact ⟨row, by rw [same]; exact found, List.prefix_refl _⟩

/-- The event that a job holds has the log of its row. -/
def HoldsLog (db : Database) (held : Option RollbackEvent) : Prop :=
  ∀ event ∈ held, ∃ row, db.events.byId event.id = some row ∧
    row.logOutput = event.logOutput

/-- One call: the log of the held event may grow, and no other changes. -/
theorem HoldsLog.call {db after : Database} {held : Option RollbackEvent} {call : Call}
    {reply : Except JsError call.Reply} (holds : HoldsLog db held)
    (allowed : LogAllows held call) (answered : Answered (fun _ => True) db call reply after) :
    LogsExtend db after ∧ HoldsLog after (logNext held call reply) := by
  have spared : call.SparesEvents →
      LogsExtend db after ∧ HoldsLog after (logNext held call reply) := by
    intro spares
    have same : after.events = db.events := by
      apply answered.events
      rintro q rfl
      cases q <;> first | exact spares | rfl
    rw [spares.next]
    refine ⟨.of_events same, ?_⟩
    unfold HoldsLog
    rw [same]
    exact holds
  cases call with
  | query q =>
      cases q with
      | findEvent id =>
          rcases answered with ⟨error, -, rfl, rfl⟩ | ⟨rfl, rfl⟩
          · exact ⟨.refl after, holds⟩
          · refine ⟨.refl after, ?_⟩
            intro event found
            have stored : after.events.byId id = some event := found
            obtain ⟨-, rfl⟩ := Table.byId_eq_some.mp stored
            exact ⟨event, stored, rfl⟩
      | saveEvent row =>
          obtain ⟨event, member, same, grows⟩ := allowed
          rcases answered.saveEvent with ⟨error, rfl, rfl⟩ | ⟨rfl, events, saved, rfl⟩
          · exact ⟨.refl after, holds⟩
          · obtain ⟨old, found, sameLog⟩ := holds event member
            constructor
            · intro id before foundBefore
              by_cases hit : id = row.id
              · rw [hit, same] at foundBefore
                cases found.symm.trans foundBefore
                refine ⟨row, ?_, by rw [sameLog]; exact grows⟩
                exact (Table.byId_save saved).trans (if_pos hit)
              · refine ⟨before, ?_, List.prefix_refl _⟩
                exact ((Table.byId_save saved).trans (if_neg hit)).trans foundBefore
            · rintro event ⟨⟩
              exact ⟨row, (Table.byId_save saved).trans (if_pos rfl), rfl⟩
      | insertEvent row => exact spared allowed
      | _ => exact spared allowed
  | _ => exact spared trivial

/-- Any call may fail. -/
def anyAnswer : Semantics Calls JsError Database :=
  fun (call : Call) db reply after => Answered (fun _ => True) db call reply after

/-- A job that holds an event with the log of its row, and goes on to hold one. -/
def LogKept (reached : Job Unit × Database) : Prop :=
  ∃ held, reached.1.Follows logProtocol (fun _ _ => True) held ∧ HoldsLog reached.2 held

/-- The step lemma: whatever a step of the job does, the logs have grown or stayed. -/
theorem LogKept.step {before after : Job Unit × Database} (kept : LogKept before)
    (step : Program.Step anyAnswer before after) :
    LogsExtend before.2 after.2 ∧ LogKept after := by
  obtain ⟨held, follows, holds⟩ := kept
  cases step with
  | call answered =>
      obtain ⟨grows, holdsAfter⟩ := holds.call follows.1 answered
      exact ⟨grows, _, follows.2 _ _ rfl, holdsAfter⟩

/-- The run lemma, by induction on the steps. -/
theorem LogKept.steps {before after : Job Unit × Database} (kept : LogKept before)
    (steps : Program.Steps anyAnswer before after) :
    LogsExtend before.2 after.2 ∧ LogKept after := by
  induction steps with
  | refl => exact ⟨.refl _, kept⟩
  | tail _ step inductionHypothesis =>
      obtain ⟨grows, keptMiddle⟩ := inductionHypothesis
      obtain ⟨growsOn, keptAfter⟩ := keptMiddle.step step
      exact ⟨grows.trans growsOn, keptAfter⟩

/-- Wherever a job of this event is and whatever it was answered, the logs only grow from
there on. -/
def LogGrows (platform : Platform) (rollbackEventId : Nat) (db : Database) : Prop :=
  ∀ middle after,
    Program.Steps anyAnswer (process platform rollbackEventId, db) middle →
      Program.Steps anyAnswer middle after → LogsExtend middle.2 after.2

/-- So of every run of a job, wherever it is cut. -/
theorem logGrows (platform : Platform) (rollbackEventId : Nat) (db : Database) :
    LogGrows platform rollbackEventId db := by
  intro middle after steps more
  have starts : LogKept (process platform rollbackEventId, db) :=
    ⟨none, process_logs platform rollbackEventId, nofun⟩
  exact ((starts.steps steps).2.steps more).1

/-! ### What a job appends -/

/-- An entry but for its time. -/
def RollbackLogEntry.content (entry : RollbackLogEntry) : RollbackLogEntry :=
  { entry with timestamp := 0 }

def commandEntry (step : String) (result : SshCommandResult) : RollbackLogEntry :=
  { timestamp := 0
    step := step
    command := some result.command
    exitCode := some result.exitCode
    stdout := some result.stdout
    stderr := some result.stderr
    message := none }

def noteEntry (step message : String) : RollbackLogEntry :=
  { timestamp := 0
    step := step
    command := none
    exitCode := none
    stdout := none
    stderr := none
    message := some message }

/-- The entries of the commands that have been executed, in order. -/
def auditEntries (results : List SshCommandResult) : List RollbackLogEntry :=
  List.zipWith commandEntry
    ["stop_container", "remove_container", "start_container", "list_containers"] results

/-- The event is the same but for what has been appended to its log. -/
def RollbackEvent.Appended (event after : RollbackEvent) (entries : List RollbackLogEntry) :
    Prop :=
  ∃ logged, after = { event with logOutput := event.logOutput ++ logged } ∧
    logged.map RollbackLogEntry.content = entries

/-- Entries that are appended one after another. -/
theorem RollbackEvent.Appended.trans {first second third : RollbackEvent}
    {entries more : List RollbackLogEntry} (before : first.Appended second entries)
    (after : second.Appended third more) : first.Appended third (entries ++ more) := by
  obtain ⟨logged, rfl, rfl⟩ := before
  obtain ⟨loggedOn, rfl, rfl⟩ := after
  exact ⟨logged ++ loggedOn, by simp, List.map_append⟩

/-- A later point of a run, and what has been appended until then. -/
structure Appends (world after : World) (event eventAfter : RollbackEvent)
    (entries : List RollbackLogEntry) : Prop where
  continues : Continues world after event eventAfter
  appended : event.Appended eventAfter entries

/-- Two stretches of a run whose entries are appended one after another. -/
theorem Appends.trans {world middle after : World}
    {event eventMiddle eventAfter : RollbackEvent} {entries more : List RollbackLogEntry}
    (first : Appends world middle event eventMiddle entries)
    (second : Appends middle after eventMiddle eventAfter more) :
    Appends world after event eventAfter (entries ++ more) where
  continues := first.continues.trans second.continues
  appended := first.appended.trans second.appended

section Appending

variable {α : Type} {platform : Platform} {environment : Environment} {world : World}
  {event : RollbackEvent}

variable (environment) in
/-- One entry is appended and saved. -/
theorem appendLog_appends (current : Current world event) (entry : RollbackLogEntry) :
    ∃ eventAfter after,
      (appendLog event entry).run environment.answer world = (.ok eventAfter, after) ∧
        Appends world after event eventAfter [entry.content] := by
  obtain ⟨eventAfter, after, runs, continues⟩ := appendLog_run environment current entry
  refine ⟨eventAfter, after, runs, continues, [entry], ?_, rfl⟩
  rw [appendLog, Program.bind_eq, Program.run_bind] at runs
  obtain ⟨saved, middle, -, returns⟩ := resume_eq_ok.mp runs
  exact (Except.ok.inj (congrArg Prod.fst returns)).symm

variable (environment) in
/-- A message is appended, and the rest of the job goes on. -/
theorem message_appends (current : Current world event) (step message : String) :
    ∃ eventAfter after,
      Appends world after event eventAfter [noteEntry step message] ∧
        ∀ rest : RollbackEvent → Job α,
          ((messageEntry step message).bind fun entry =>
            (appendLog event entry).bind rest).run environment.answer world =
            (rest eventAfter).run environment.answer after := by
  obtain ⟨eventAfter, after, runs, appends⟩ := appendLog_appends environment
    current.ticked.current { noteEntry step message with
      timestamp := environment.clock world.calls }
  refine ⟨eventAfter, after, ⟨current.ticked.trans appends.continues, appends.appended⟩, ?_⟩
  intro rest
  rw [Program.run_bind, messageEntry, Program.bind_eq, Program.run_bind, now_run, resume_ok,
    Program.pure_eq, Program.run_pure, resume_ok, Program.run_bind]
  exact congrArg (resume · _) runs

variable (environment) in
/-- So is the result of a command. -/
theorem result_appends (current : Current world event) (step : String)
    (result : SshCommandResult) :
    ∃ eventAfter after,
      Appends world after event eventAfter [commandEntry step result] ∧
        ∀ rest : RollbackEvent → Job α,
          ((toLogEntry step result).bind fun entry =>
            (appendLog event entry).bind rest).run environment.answer world =
            (rest eventAfter).run environment.answer after := by
  obtain ⟨eventAfter, after, runs, appends⟩ := appendLog_appends environment
    current.ticked.current { commandEntry step result with
      timestamp := environment.clock world.calls }
  refine ⟨eventAfter, after, ⟨current.ticked.trans appends.continues, appends.appended⟩, ?_⟩
  intro rest
  rw [Program.run_bind, toLogEntry, Program.bind_eq, Program.run_bind, now_run, resume_ok,
    Program.pure_eq, Program.run_pure, resume_ok, Program.run_bind]
  exact congrArg (resume · _) runs

/-- A row as the last save of an event leaves it. -/
structure Completed (db : Database) (event : RollbackEvent) (status : RollbackEventStatus)
    (entries : List RollbackLogEntry) : Prop where
  row : ∃ row, db.events.byId event.id = some row ∧ row.status = status ∧
    row.completedAt.isSome ∧ ∃ logged, row.logOutput = event.logOutput ++ logged ∧
      logged.map RollbackLogEntry.content = entries

/-- The services and the snapshots of one database are another's. -/
structure SameHistory (db after : Database) : Prop where
  services : after.services = db.services
  snapshots : after.snapshots = db.snapshots

variable (environment) in
/-- The last save, after which the event is completed with this status. -/
theorem complete_completes (current : Current world event) (status : RollbackEventStatus) :
    ∃ after, (complete event status).run environment.answer world = (.ok (), after) ∧
      SameHistory world.database after.database ∧ Completed after.database event status [] := by
  obtain ⟨events, saved, runs⟩ := saveEvent_run environment
    { event with
      status := status
      completedAt := some (environment.clock world.calls) }
    current.ticked.current.row current.active rfl
  refine ⟨World.withEvents { world with calls := world.calls + 1 } events, ?_,
    ⟨rfl, rfl⟩, ⟨{ event with
      status := status
      completedAt := some (environment.clock world.calls) }, ?_, rfl, rfl, [],
      (List.append_nil _).symm, rfl⟩⟩
  rotate_left
  · exact Table.byId_self ((Table.mem_save saved).mpr (.inl rfl))
  simp only [complete, Program.bind_eq, Program.run_bind, now_run, resume_ok, runs,
    Program.pure_eq, Program.run_pure]

/-- Entries that were appended earlier count as well. -/
theorem Completed.prepend {db : Database} {first event : RollbackEvent}
    {status : RollbackEventStatus} {entries more : List RollbackLogEntry}
    (completed : Completed db event status more) (appended : first.Appended event entries) :
    Completed db first status (entries ++ more) := by
  obtain ⟨logged, rfl, rfl⟩ := appended
  obtain ⟨row, found, ends, dated, loggedOn, log, rfl⟩ := completed
  refine ⟨row, found, ends, dated, logged ++ loggedOn, ?_, List.map_append⟩
  rw [log, List.append_assoc]

theorem SameHistory.of_continues {after : World} {eventAfter : RollbackEvent}
    (continues : Continues world after event eventAfter) :
    SameHistory world.database after.database :=
  ⟨continues.services, continues.snapshots⟩

theorem SameHistory.trans {first second third : Database} (before : SameHistory first second)
    (after : SameHistory second third) : SameHistory first third :=
  ⟨after.services.trans before.services, after.snapshots.trans before.snapshots⟩

variable (platform) (environment) in
/-- A job that fails appends the reason, whatever evaluating the alert meets. -/
theorem fail_completes (current : Current world event) (reason : String)
    (orgId : Option Nat) :
    SameHistory world.database
        ((fail platform event reason orgId).run environment.answer world).2.database ∧
      Completed
        ((fail platform event reason orgId).run environment.answer world).2.database event
        .failed [noteEntry "failure" reason] := by
  obtain ⟨logged, afterLog, appends, logs⟩ := message_appends (α := Unit) environment
    current "failure" reason
  obtain ⟨after, completes, same, completed⟩ := complete_completes environment
    appends.continues.current .failed
  have kept : SameHistory world.database after.database ∧
      Completed after.database event .failed [noteEntry "failure" reason] :=
    ⟨.trans (.of_continues appends.continues) same, completed.prepend appends.appended⟩
  unfold fail
  simp only [Program.bind_eq]
  rw [logs, Program.run_bind, completes, resume_ok]
  cases orgId with
  | none => exact kept
  | some orgId =>
      apply (evaluateTransition_only platform _).run
        (fun state : World => SameHistory world.database state.database ∧
          Completed state.database event .failed [noteEntry "failure" reason])
      · rintro call state ofAlerts ⟨same, completed⟩
        have events : (environment.answer call state).2.database.events =
            state.database.events := answer_events environment ofAlerts.writesEvents
        have spared : SameHistory state.database
            (environment.answer call state).2.database := by
          constructor
          · apply answer_field environment Database.services
            rintro q rfl
            apply Database.perform_services
            cases q <;> first | rfl | cases ofAlerts
          · apply answer_field environment Database.snapshots
            rintro q rfl
            apply Database.perform_snapshots
            cases q <;> first | rfl | cases ofAlerts
        refine ⟨same.trans spared, ?_⟩
        obtain ⟨row, found, rest⟩ := completed
        exact ⟨row, by rw [events]; exact found, rest⟩
      · exact kept

/-! ### Up to the session -/

/-- A lookup that does not fail, and what comes after it. -/
theorem lookup_run {q : Query} {found : q.Reply} {rest : q.Reply → Job α}
    (attempt : (Call.query q).isAttempt) (served : environment.fault world.attempts = none)
    (reads : world.database.perform q = (.ok found, world.database)) :
    ((query q).bind rest).run environment.answer world =
      (rest found).run environment.answer (world.skipped 1) := by
  rw [Program.run_bind, run_query, answer_attempt attempt served]
  simp only [Environment.reply, reads]
  rfl

/-- What a job finds in the tables: the rows that its event names, and a key that can
be decrypted. -/
structure RollbackInputs (platform : Platform) (db : Database) (event : RollbackEvent)
    (service : Service) (host : Host) (targetSnapshot : DeploymentSnapshot)
    (privateKey : String) : Prop where
  requested : db.events.byId event.id = some event
  onService : db.services.byId event.serviceId = some service
  onHost : db.hosts.byId service.hostId = some host
  target : db.snapshots.byId event.toSnapshotId = some targetSnapshot
  decrypts : platform.decrypt host.sshKeyEncrypted = .ok privateKey

/-- The rows of a job that has not run yet. -/
structure RollbackRows (platform : Platform) (db : Database) (event : RollbackEvent)
    (service : Service) (host : Host) (targetSnapshot : DeploymentSnapshot)
    (privateKey : String) : Prop extends
    RollbackInputs platform db event service host targetSnapshot privateKey where
  pending : event.status = .pending

/-- No other rollback of the service is active. -/
def Unopposed (events : Table RollbackEvent) (event : RollbackEvent) : Prop :=
  ∀ other ∈ events, other.id ≠ event.id → other.serviceId = event.serviceId →
    ¬ other.status.isActive

/-- An event with no other active one of its service can be saved in any status. -/
theorem Unopposed.exists_save {events : Table RollbackEvent} {event : RollbackEvent}
    (unopposed : Unopposed events event) (status : RollbackEventStatus) :
    ∃ after, events.save { event with status := status } = some after := by
  apply Table.exists_save
  rintro ⟨other, member, differs, key, ofEvent, ofOther⟩
  simp only [Keyed.index, Option.mem_def, Option.ite_none_right_eq_some,
    Option.some.injEq] at ofEvent ofOther
  exact unopposed other member differs (ofOther.2.trans ofEvent.2.symm) ofOther.1

theorem RollbackRows.unopposed {db : Database} {service : Service} {host : Host}
    {targetSnapshot : DeploymentSnapshot} {privateKey : String}
    (rows : RollbackRows platform db event service host targetSnapshot privateKey) :
    Unopposed db.events event := by
  intro other member differs sameService active
  obtain ⟨found, -⟩ := Table.byId_eq_some.mp rows.requested
  have otherKey : Keyed.index other = some event.serviceId := by
    rw [← sameService]
    exact if_pos active
  have eventKey : Keyed.index event = some event.serviceId := by
    apply if_pos
    rw [rows.pending]
    rfl
  exact differs (congrArg RollbackEvent.id (Table.eq_of_index member found otherKey eventKey))

/-- Where its rows are found, a job begins its session after three lookups. -/
theorem processEvent_executes {service : Service} {host : Host}
    {targetSnapshot : DeploymentSnapshot} {privateKey : String}
    (onService : world.database.services.byId event.serviceId = some service)
    (onHost : world.database.hosts.byId service.hostId = some host)
    (target : world.database.snapshots.byId event.toSnapshotId = some targetSnapshot)
    (decrypts : platform.decrypt host.sshKeyEncrypted = .ok privateKey)
    (served : ∀ n < 3, environment.fault (world.attempts + n) = none) :
    (processEvent platform event).run environment.answer world =
      (execute platform event service host targetSnapshot privateKey).run
        environment.answer (world.skipped 3) := by
  have findsService : world.database.perform (.findService event.serviceId) =
      (.ok (some service), world.database) :=
    congrArg (fun row => (Except.ok row, world.database)) onService
  have findsHost : world.database.perform (.findHost service.hostId) =
      (.ok (some host), world.database) :=
    congrArg (fun row => (Except.ok row, world.database)) onHost
  have findsTarget : world.database.perform (.findSnapshot event.toSnapshotId) =
      (.ok (some targetSnapshot), world.database) :=
    congrArg (fun row => (Except.ok row, world.database)) target
  unfold processEvent
  refine Eq.trans (lookup_run rfl (served 0 (by decide)) findsService) ?_
  refine Eq.trans (lookup_run rfl (served 1 (by decide)) findsHost) ?_
  refine Eq.trans (lookup_run rfl (served 2 (by decide)) findsTarget) ?_
  dsimp only
  rw [decrypts]
  rfl

/-- A job that finds its rows comes to its session. -/
theorem process_executes {db : Database} {service : Service} {host : Host}
    {targetSnapshot : DeploymentSnapshot} {privateKey : String}
    (rows : RollbackInputs platform db event service host targetSnapshot privateKey)
    (unopposed : Unopposed db.events event) (served : ∀ n < 3, environment.fault n = none) :
    ∃ world, world.attempts = 3 ∧ Current world { event with status := .inProgress } ∧
      SameHistory db world.database ∧
      (process platform event.id).run environment.answer (World.start db) =
        (execute platform { event with status := .inProgress } service host targetSnapshot
          privateKey).run environment.answer world := by
  have loads : (query (.findEvent event.id)).run environment.answer (World.start db) =
      (.ok (some event), { World.start db with calls := 1 }) :=
    congrArg (fun row => (Except.ok row, { World.start db with calls := 1 }))
      rows.requested
  obtain ⟨events, saved⟩ := unopposed.exists_save .inProgress
  have runs := saveEvent_saves environment { event with status := .inProgress }
    (show { World.start db with calls := 1 }.database.events.save _ = some events from saved)
  have current : Current (World.withEvents { World.start db with calls := 1 } events)
      { event with status := .inProgress } :=
    ⟨by simp [World.withEvents, Table.byId_save saved, Keyed.id], rfl⟩
  refine ⟨(World.withEvents { World.start db with calls := 1 } events).skipped 3, rfl,
    current.skipped 3, ⟨rfl, rfl⟩, ?_⟩
  rw [process, Program.bind_eq, Program.run_bind, loads, resume_ok]
  dsimp only
  rw [Program.bind_eq, Program.run_bind, runs, resume_ok]
  apply processEvent_executes
  · exact rows.onService
  · exact rows.onHost
  · exact rows.target
  · exact rows.decrypts
  · intro n bound
    exact (congrArg environment.fault (Nat.zero_add n)).trans (served n bound)

/-! ### A session that breaks off -/

/-- The results of a session that breaks off are lost. -/
theorem execute_breaks (current : Current world event) {service : Service} {host : Host}
    {targetSnapshot : DeploymentSnapshot} {privateKey : String} {config : Json}
    {blob : DeploymentConfigBlob} (decrypts : decryptConfig platform targetSnapshot =
      .ok config) (reads : readConfig config = .ok blob)
    {n : Nat} (bound : n ≤ 4) (broken : environment.fault (world.attempts + n) ≠ none) :
    ∃ reason,
      SameHistory world.database
          ((execute platform event service host targetSnapshot privateKey).run
            environment.answer world).2.database ∧
        Completed
          ((execute platform event service host targetSnapshot privateKey).run
            environment.answer world).2.database event .failed
          [noteEntry "failure" reason] := by
  rcases runCommands_run environment (host.sshOptions privateKey)
      (rollbackCommands service blob targetSnapshot.imageTag) world with
    ⟨error, made, runs, -⟩ | ⟨-, served⟩
  · have fails := fail_completes platform environment (current.skipped made)
      ("SSH connection to host failed: " ++ error.message) (some service.orgId)
    refine ⟨"SSH connection to host failed: " ++ error.message, ?_⟩
    simp only [execute, decrypts, session, reads, Program.ofExcept_ok, Program.bind_eq,
      Program.tryCatch_eq, Program.pure_bind, Program.pure_eq, Program.run_bind,
      Program.run_tryCatch, runs, resume_error, recover_error]
    generalize Program.run environment.answer (fail platform event _ _) _ = ended at fails ⊢
    obtain ⟨outcome, after⟩ := ended
    cases outcome with
    | ok value => exact fails
    | error error => exact fails
  · exact absurd (served n bound) broken

end Appending

/-! ### The audit -/

/-- Every command has a result. -/
theorem results_length (environment : Environment) (attempt : Nat) (commands : List String) :
    (environment.results attempt commands).length = commands.length := by
  induction commands generalizing attempt with
  | nil => rfl
  | cons command commands inductionHypothesis =>
      exact congrArg Nat.succ (inductionHypothesis (attempt + 1))

theorem auditEntries_length (results : List SshCommandResult) (k : Nat) :
    (auditEntries (results.take k)).length = min 4 (min k results.length) := by
  rw [auditEntries, List.length_zipWith, List.length_take]
  rfl

/-- The event has failed, and its log holds the first `k` results before the failure. -/
def AuditKept (db : Database) (event : RollbackEvent) (results : List SshCommandResult)
    (k : Nat) : Prop :=
  ∃ row, db.events.byId event.id = some row ∧ row.status = .failed ∧
    ∃ logged failure, row.logOutput = event.logOutput ++ logged ++ [failure] ∧
      failure.step = "failure" ∧
      logged.map RollbackLogEntry.content = auditEntries (results.take k)

/-- A session that breaks off after `k` commands leaves their results in the log exactly
where there are none; the log only grows. -/
theorem audit_kept_iff (platform : Platform) (environment : Environment) (db : Database)
    (event : RollbackEvent) (service : Service) (host : Host)
    (targetSnapshot : DeploymentSnapshot) (privateKey : String) (config : Json)
    (blob : DeploymentConfigBlob)
    (inputs : RollbackInputs platform db event service host targetSnapshot privateKey)
    (unopposed : Unopposed db.events event)
    (decrypts : decryptConfig platform targetSnapshot = .ok config)
    (reads : readConfig config = .ok blob) (k : Nat) (bound : k < 4)
    (served : ∀ n < 4 + k, environment.fault n = none)
    (dropped : environment.fault (4 + k) ≠ none) :
    LogGrows platform event.id db ∧
        AuditKept ((process platform event.id).run environment.answer
          (World.start db)).2.database event
          (environment.results 4
            (rollbackCommands service blob targetSnapshot.imageTag)) k ↔
      k = 0 := by
  obtain ⟨world, attempts, current, -, runs⟩ :=
    process_executes inputs unopposed fun n small => served n (by omega)
  have broken : environment.fault (world.attempts + (1 + k)) ≠ none := by
    rw [attempts, ← Nat.add_assoc]
    exact dropped
  obtain ⟨reason, -, row, found, failed, -, logged, log, content⟩ :=
    execute_breaks current decrypts reads (by omega) broken
  rw [← runs] at found
  have single : logged.length = 1 := by
    simpa using congrArg List.length content
  constructor
  · rintro ⟨-, other, foundOther, -, kept, failure, logOther, -, entries⟩
    cases found.symm.trans foundOther
    have same : logged = kept ++ [failure] := by
      rw [log, List.append_assoc] at logOther
      exact List.append_cancel_left logOther
    rw [same, List.length_append] at single
    have none : kept.length = 0 := by simpa using single
    have made := congrArg List.length entries
    rw [List.length_map, none, auditEntries_length, results_length,
      rollbackCommands_length] at made
    omega
  · rintro rfl
    obtain ⟨failure, rfl⟩ := List.length_eq_one_iff.mp single
    refine ⟨logGrows platform event.id db, row, found, failed, [], failure, ?_, ?_, rfl⟩
    · rw [List.append_nil]
      exact log
    · have same : failure.content = noteEntry "failure" reason := by
        simpa using content
      exact congrArg RollbackLogEntry.step same

/-! ### A session that breaks off after `docker stop` -/

/-- Every command succeeds until the connection is lost. -/
def Environment.droppingAt (attempt : Nat) : Environment :=
  { Environment.faultless with
    fault := fun n =>
      if n = attempt then some (.ssh "Not connected to server" "client-socket") else none }

def droppedDatabase (attempt : Nat) : Database :=
  ((process .transparent requestedRollback.id).run (Environment.droppingAt attempt).answer
    (World.start (requestedDatabase webConfigBlob))).2.database

theorem dropped_log :
    ((droppedDatabase 5).events.byId requestedRollback.id).map
      (fun row => (row.status, row.logOutput.map RollbackLogEntry.step)) =
        some (.failed, ["failure"]) := by
  decide +kernel

/-- The container has been stopped, and the log says nothing of it. -/
theorem dropped_session_loses_result :
    ((droppedDatabase 5).events.byId requestedRollback.id).map
        (fun row => (row.status, row.logOutput.map RollbackLogEntry.step)) =
          some (.failed, ["failure"]) ∧
      ∀ service blob, ¬ AuditKept (droppedDatabase 5) requestedRollback
        ((Environment.droppingAt 5).results 4
          (rollbackCommands service blob "nginx:1.26")) 1 := by
  refine ⟨dropped_log, ?_⟩
  rintro service blob ⟨row, found, -, logged, failure, log, -, entries⟩
  have steps := dropped_log
  rw [found] at steps
  have single : row.logOutput.length = 1 := by
    simpa using congrArg (List.length ∘ Prod.snd) (Option.some.inj steps)
  have made := congrArg List.length entries
  rw [List.length_map, auditEntries_length, results_length, rollbackCommands_length] at made
  rw [log] at single
  simp at single
  omega

theorem requested_rows : ∃ service host targetSnapshot,
    RollbackRows .transparent (requestedDatabase webConfigBlob) requestedRollback service
      host targetSnapshot "key" ∧
    targetSnapshot.configBlob = Json.stringify webConfig.toJson :=
  ⟨_, _, _, ⟨⟨rfl, rfl, rfl, rfl, rfl⟩, rfl⟩, rfl⟩

/-- The first command is not answered: there is nothing to lose. -/
theorem audit_kept_at_once :
    ∃ service imageTag, AuditKept (droppedDatabase 4) requestedRollback
      ((Environment.droppingAt 4).results 4
        (rollbackCommands service webConfig imageTag)) 0 := by
  obtain ⟨service, host, targetSnapshot, rows, stored⟩ := requested_rows
  have served : ∀ n < 4, (Environment.droppingAt 4).fault n = none := by
    intro n bound
    exact if_neg (Nat.ne_of_lt bound)
  have decrypts : decryptConfig .transparent targetSnapshot = .ok webConfig.toJson :=
    decryptConfig_stored (congrArg Except.ok stored)
  have kept := audit_kept_iff .transparent (Environment.droppingAt 4)
    (requestedDatabase webConfigBlob) requestedRollback service host targetSnapshot "key"
    webConfig.toJson webConfig rows.toRollbackInputs rows.unopposed decrypts
    (readConfig_toJson webConfig) 0 (by decide) served nofun
  exact ⟨service, targetSnapshot.imageTag, (kept.mpr rfl).2⟩

end ServersManager
