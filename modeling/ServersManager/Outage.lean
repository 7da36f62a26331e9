/-
Module: ServersManager.Outage
Purpose: Host checks while the docker daemon of the host does not answer.
Trusted boundary: none
Main exports:
  Outage, OutageRun, Harmless, Inert, checkHost_inert, outage_harmless_iff
-/
import ServersManager.SyncMirror

namespace ServersManager

open Library

/-! ### A failed listing -/

/-- What `docker ps` replied, as the service sync is given it. -/
def ExecReply.listing (reply : ExecReply) : SshCommandResult :=
  { command := dockerPsCommand
    stdout := reply.stdout
    stderr := reply.stderr
    exitCode := reply.code }

/-- Any call may fail, and other commands reply anything; `docker ps` replies this. -/
def OutageAnswer (faults : JsError → Prop) (reply : ExecReply) (db : Database) :
    (call : Call) → Except JsError call.Reply → Database → Prop
  | .execCommand options command, replied, after =>
      Answered faults db (.execCommand options command) replied after ∧
        (command = dockerPsCommand → ∀ result, replied = .ok result → result = reply)
  | call, replied, after => Answered faults db call replied after

def Outage (faults : JsError → Prop) (reply : ExecReply) :
    Semantics Calls JsError Database :=
  fun (call : Call) db replied after => OutageAnswer faults reply db call replied after

/-- Any number of checks of a host, one after another. -/
abbrev OutageRun (platform : Platform) (hostId : Nat) (faults : JsError → Prop)
    (reply : ExecReply) : Database → Database → Prop :=
  Relation.ReflTransGen fun before after =>
    ∃ outcome, Program.Steps (Outage faults reply) (checkHost platform hostId, before)
      (.ofExcept outcome, after)

/-- The log entry says that a container is no longer there. -/
def HealthCheckLog.StatesMissing (log : HealthCheckLog) : Prop :=
  log.rawOutput =
    .obj [("reason", .str "Container no longer present in docker ps -a output")]

/-- No service has changed, none is logged to be missing, and a container that is then
listed with the status its service had fires no alert for a transition. -/
structure Harmless (db after : Database) : Prop where
  services : after.services = db.services
  unlogged : ∀ log ∈ after.healthCheckLogs, log.StatesMissing →
    log ∈ db.healthCheckLogs
  silent : ∀ (platform : Platform) (host : Host) (row : PsRow) (checkedAt : Date),
    ∀ service ∈ db.services, service.hostId = host.id → service.containerId = row.id →
      classifyContainerStatus (.str row.status) = .ok service.status →
        ∀ outcome final, Program.Steps (Calm Steady)
            (upsertService platform host row.toContainer checkedAt, after)
            (.ofExcept outcome, final) →
          final.alertLogs = after.alertLogs

/-- A listing from which the sync takes nothing: docker is missing, the output or the
first container cannot be read, or nothing is listed and no service of the host is
known. -/
def Inert (services : Table Service) (hostId : Nat) (reply : ExecReply) : Prop :=
  isDockerMissing reply.listing = true ∨
    (∃ error, parseDockerPsOutput reply.stdout = .error error) ∨
    ∃ listing, parseDockerPsOutput reply.stdout = .ok listing ∧
      match listing.containers with
      | [] => ∀ service ∈ services, service.hostId = hostId → service.status = .unknown
      | container :: _ =>
          (∃ error, splitImageAndTagValue container.image = .error error) ∨
            ∃ error, classifyContainerStatus container.status = .error error

/-! ### An inert listing changes nothing -/

theorem Harmless.of_services {db after : Database} (services : after.services = db.services)
    (unlogged : ∀ log ∈ after.healthCheckLogs, log.StatesMissing →
      log ∈ db.healthCheckLogs) : Harmless db after where
  services := services
  unlogged := unlogged
  silent := by
    intro platform host row checkedAt service member ofHost ofContainer classified outcome
      final steps
    obtain ⟨-, -, saved, upserted⟩ := (upsertService_ensures (fun _ _ holds => holds)
      platform host row checkedAt after).steps steps
    apply upserted.alertLogs
    rw [← services] at member
    rw [Database.serviceAt_eq_some.mpr ⟨member, ofHost, ofContainer⟩]
    exact Except.ok.inj (classified.symm.trans upserted.status)

theorem Harmless.refl (db : Database) : Harmless db db :=
  Harmless.of_services rfl fun _ member _ => member

theorem Harmless.trans {first second third : Database} (before : Harmless first second)
    (after : Harmless second third) : Harmless first third :=
  Harmless.of_services (after.services.trans before.services) fun log member states =>
    before.unlogged log (after.unlogged log member states) states

section Inert

variable {faults : JsError → Prop} {reply : ExecReply}

theorem sync_inert (platform : Platform) (host : Host) {db : Database}
    (inert : Inert db.services host.id reply) :
    (sync platform host reply.listing).Ensures (Outage faults reply)
      (fun _ after => after = db) db := by
  unfold sync
  split
  · rfl
  next runs =>
  rcases inert with missing | ⟨error, failed⟩ | ⟨listing, parses, nothing⟩
  · exact absurd missing runs
  · rw [show parseDockerPsOutput reply.listing.stdout = .error error from failed]
    exact rfl
  · rw [show parseDockerPsOutput reply.listing.stdout = .ok listing from parses]
    apply Program.ensures_perform_bind
    · rintro checkedAt after ⟨-, rfl⟩
      cases listed : listing.containers with
      | nil =>
          rw [listed] at nothing
          apply Program.ensures_perform_bind
          · rintro existing final (⟨error, -, replied, -⟩ | ⟨replied, rfl⟩)
            · cases replied
            · cases replied
              have none : ((final.services.find fun service =>
                  service.hostId == host.id).filter fun service =>
                !([] : List Json).any (isText service.containerId) &&
                  service.status != .unknown) = [] := by
                apply List.filter_eq_nil_iff.mpr
                intro service found
                obtain ⟨member, ofHost⟩ := Table.mem_find.mp found
                simp [nothing service member (by simpa using ofHost)]
              change Program.Follows _ (markUnknown checkedAt _) _ _
              rw [List.map_nil, none]
              exact rfl
          · rintro error final (⟨failed, -, -, rfl⟩ | ⟨replied, rfl⟩)
            · rfl
            · rfl
      | cons container containers =>
          rw [listed] at nothing
          rcases nothing with ⟨error, unreadable⟩ | ⟨error, unclassified⟩
          · change Program.Follows _ (Program.bind (Program.bind (Program.bind
              (.ofExcept (splitImageAndTagValue container.image)) _) _) _) _ _
            rw [unreadable]
            exact rfl
          · change Program.Follows _ (Program.bind (Program.bind (Program.bind
              (.ofExcept (splitImageAndTagValue container.image)) _) _) _) _ _
            cases splitImageAndTagValue container.image with
            | error error => exact rfl
            | ok split =>
                change Program.Follows _ (Program.bind (Program.bind (Program.bind
                  (.ofExcept (classifyContainerStatus container.status)) _) _) _) _ _
                rw [unclassified]
                exact rfl
    · rintro error after ⟨-, rfl⟩
      rfl

/-- The health check's own entry never says that a container is gone. -/
def HealthCheckOutcome.SaysMissing (outcome : HealthCheckOutcome) : Prop :=
  (newHealthCheckLog .host 0 outcome.status.text outcome.rawOutput).StatesMissing

theorem mapSshFailureToOutcome_present (error : JsError) (setupVerifiedAt : Option Date) :
    ¬ (mapSshFailureToOutcome error setupVerifiedAt).SaysMissing := by
  unfold mapSshFailureToOutcome HealthCheckOutcome.SaysMissing HealthCheckLog.StatesMissing
  split
  · split
    · simp [newHealthCheckLog, sshFailureOutput]
    · simp [newHealthCheckLog, sshFailureOutput]
  · simp [newHealthCheckLog, sshFailureOutput]

theorem mapCommandResultsToOutcome_present (uptimeResult dockerResult : SshCommandResult) :
    ∃ outcome, mapCommandResultsToOutcome [uptimeResult, dockerResult] = .ok outcome ∧
      ¬ outcome.SaysMissing := by
  unfold HealthCheckOutcome.SaysMissing HealthCheckLog.StatesMissing
  simp only [mapCommandResultsToOutcome]
  split
  · exact ⟨_, rfl, by simp [newHealthCheckLog]⟩
  · split
    · exact ⟨_, rfl, by simp [newHealthCheckLog]⟩
    · exact ⟨_, rfl, by simp [newHealthCheckLog]⟩

/-- What a session hands on: nothing, or the listing; the listing where neither the
key nor a call of the session fails. -/
theorem runCheck_hands (reply : ExecReply) {sem : Semantics Calls JsError Database}
    (platform : Platform) (host : Host) (Inv : Database → Prop)
    (connects : ∀ db options replied after, Inv db →
      sem (Call.connect options) db replied after → Inv after)
    (executes : ∀ db options command replied after, Inv db →
      sem (Call.execCommand options command) db replied after →
        Inv after ∧ (command = dockerPsCommand → ∀ result, replied = .ok result →
          result = reply))
    {db : Database} (inv : Inv db) :
    (runCheck platform host).Ensures sem
      (fun outcome after => ∃ checked, outcome = .ok checked ∧ Inv after ∧
        ¬ checked.1.SaysMissing ∧
        (checked.2 = none ∨ ∃ uptime, checked.2 = some [uptime, reply.listing]) ∧
        ((∃ privateKey, platform.decrypt host.sshKeyEncrypted = .ok privateKey) →
          (∀ db options replied after, sem (Call.connect options) db replied after →
            ∃ connected, replied = .ok connected) →
          (∀ db options command replied after,
            sem (Call.execCommand options command) db replied after →
              ∃ result, replied = .ok result) →
          checked.2 ≠ none))
      db := by
  unfold runCheck
  split
  · next error failed =>
    refine ⟨_, rfl, inv, mapSshFailureToOutcome_present _ _, .inl rfl, ?_⟩
    rintro ⟨privateKey, decrypted⟩
    cases failed.symm.trans decrypted
  · apply (Program.follows_tryCatch _ _ _ _ _).mpr
    apply (Program.follows_bind _ _ _ _ _).mpr
    apply (Program.follows_bind _ _ _ _ _).mpr
    apply (Program.follows_perform _ _ _ _).mpr
    refine ⟨trivial, ?_⟩
    intro connected first answered
    have invFirst := connects _ _ _ _ inv answered
    cases connected with
    | error error =>
        refine ⟨_, rfl, invFirst, mapSshFailureToOutcome_present _ _, .inl rfl, ?_⟩
        intro decrypts connecting
        obtain ⟨_, ⟨⟩⟩ := connecting _ _ _ _ answered
    | ok connected =>
        apply (Program.follows_bind _ _ _ _ _).mpr
        apply (Program.follows_perform _ _ _ _).mpr
        refine ⟨trivial, ?_⟩
        intro uptime second answered
        have invSecond := (executes _ _ _ _ _ invFirst answered).1
        cases uptime with
        | error error =>
            refine ⟨_, rfl, invSecond, mapSshFailureToOutcome_present _ _, .inl rfl, ?_⟩
            intro decrypts connecting executing
            obtain ⟨_, ⟨⟩⟩ := executing _ _ _ _ _ answered
        | ok uptime =>
            apply (Program.follows_bind _ _ _ _ _).mpr
            apply (Program.follows_bind _ _ _ _ _).mpr
            apply (Program.follows_perform _ _ _ _).mpr
            refine ⟨trivial, ?_⟩
            intro listed third answered
            obtain ⟨invThird, replies⟩ := executes _ _ _ _ _ invSecond answered
            cases listed with
            | error error =>
                refine ⟨_, rfl, invThird, mapSshFailureToOutcome_present _ _, .inl rfl, ?_⟩
                intro decrypts connecting executing
                obtain ⟨_, ⟨⟩⟩ := executing _ _ _ _ _ answered
            | ok listed =>
                have same := replies rfl listed rfl
                subst same
                obtain ⟨outcome, mapped, present⟩ := mapCommandResultsToOutcome_present
                  { command := uptimeCommand
                    stdout := uptime.stdout
                    stderr := uptime.stderr
                    exitCode := uptime.code }
                  listed.listing
                change Program.Follows _ (Program.bind
                  (.ofExcept (mapCommandResultsToOutcome [_, listed.listing])) _) _ _
                rw [mapped]
                exact ⟨_, rfl, invThird, present, .inr ⟨_, rfl⟩, fun _ _ _ => nofun⟩

/-- A call that writes neither services nor the log does no harm. -/
theorem Harmless.answered {db after : Database} {call : Call}
    {replied : Except JsError call.Reply} (answered : Answered faults db call replied after)
    (services : ∀ q, call = .query q → q.writesServices = false)
    (logs : ∀ q, call = .query q → (db.perform q).2.healthCheckLogs = db.healthCheckLogs) :
    Harmless db after := by
  apply Harmless.of_services
  · exact answered.field Database.services fun q same =>
      Database.perform_services (services q same)
  · intro log member states
    rw [← answered.field Database.healthCheckLogs logs]
    exact member

theorem Harmless.alert {db before after : Database} {call : Call}
    {replied : Except JsError call.Reply} (harmless : Harmless db before)
    (ofAlerts : call.OfAlerts)
    (answered : OutageAnswer faults reply before call replied after) :
    Harmless db after := by
  have plain : Answered faults before call replied after := by
    cases call with
    | execCommand options command => cases ofAlerts
    | _ => exact answered
  apply harmless.trans
  apply Harmless.answered plain
  · rintro q rfl
    cases q <;> first | rfl | cases ofAlerts
  · rintro q rfl
    cases q <;>
      first
      | rfl
      | exact Database.answer_frame Database.healthCheckLogs _ _ fun _ => rfl
      | cases ofAlerts

/-- Writing an entry that says nothing of a missing container does no harm. -/
theorem Harmless.logged {db after : Database} {entry : HealthCheckLog}
    {replied : Except JsError HealthCheckLog}
    (answered : Answered faults db (.query (.writeHealthCheckLog entry)) replied after)
    (present : ¬ entry.StatesMissing) : Harmless db after := by
  rcases answered.written rfl with ⟨error, -, rfl⟩ | ⟨⟨row, logs⟩, inserted, -, rfl⟩
  · exact Harmless.refl _
  · apply Harmless.of_services
    · rfl
    intro log member states
    rcases (Table.mem_insert rfl inserted).mp member with rfl | old
    · obtain ⟨same, -⟩ := Table.insert_eq_some.mp inserted
      rw [same] at states
      exact absurd states present
    · exact old

theorem Harmless.hostSaved {db after : Database} {host : Host}
    {replied : Except JsError Host}
    (answered : Answered faults db (.query (.saveHost host)) replied after) :
    Harmless db after := by
  apply Harmless.answered answered
  · rintro q ⟨⟩
    rfl
  · rintro q ⟨⟩
    exact Database.answer_frame Database.healthCheckLogs _ _ fun _ => rfl

/-- A check whose listing is inert does no harm, whatever fails. -/
theorem checkHost_inert (platform : Platform) (hostId : Nat) {db : Database}
    (inert : Inert db.services hostId reply) :
    (checkHost platform hostId).Ensures (Outage faults reply)
      (fun _ after => Harmless db after) db := by
  apply Program.ensures_perform_bind
  · rintro found after (⟨error, -, ⟨⟩, -⟩ | ⟨replied, rfl⟩)
    cases found with
    | none => exact Harmless.refl _
    | some host =>
        have sameId : host.id = hostId :=
          (Table.byId_eq_some.mp (Except.ok.inj replied).symm).2
        rw [← sameId] at inert
        apply Program.Ensures.bind (runCheck_hands reply platform host (after = ·)
          (fun _ _ _ _ same answered => same.trans answered.2.symm)
          (fun _ _ _ _ _ same answered => ⟨same.trans answered.1.2.symm, answered.2⟩) rfl)
        rintro ⟨outcome, sshResults⟩ checked ⟨same, present, results, -⟩
        subst same
        apply Program.ensures_perform_bind
        · intro log logged wrote
          have first := Harmless.logged wrote present
          apply Program.ensures_perform_bind
          · rintro checkedAt timed ⟨-, rfl⟩
            apply Program.ensures_perform_bind
            · intro saved hosted saves
              have second := first.trans (Harmless.hostSaved saves)
              apply Program.Ensures.bind (evaluateTransition_keeps platform _
                (Harmless after) (fun state call replied next harmless ofAlerts answered =>
                  harmless.alert ofAlerts answered) second)
              intro evaluated last third
              rcases results with rfl | ⟨uptime, rfl⟩
              · exact third
              · rw [← third.services] at inert
                have inertHost : Inert last.services
                    (checkedHost host outcome.status checkedAt).id reply := inert
                apply Program.Follows.mono (sync_inert platform _ inertHost)
                rintro ended final rfl
                exact third
            · intro error failed saves
              exact first.trans (Harmless.hostSaved saves)
          · rintro error timed ⟨-, rfl⟩
            exact first
        · intro error failed wrote
          exact Harmless.logged wrote present
  · rintro error after (⟨_, -, -, rfl⟩ | ⟨replied, rfl⟩)
    · exact Harmless.refl _
    · exact Harmless.refl _

end Inert

/-! ### Any other listing touches a service -/

/-- The clock says one time, sessions open, and `docker ps` replies this. -/
def Permitted (checkedAt : Date) (reply : ExecReply) :
    (call : Call) → Except JsError call.Reply → Prop
  | .now, replied => replied = .ok checkedAt
  | .connect _, replied => ∃ connected, replied = .ok connected
  | .execCommand _ command, replied =>
      ∃ result, replied = .ok result ∧ (command = dockerPsCommand → result = reply)
  | call, replied => Steady call replied

/-- A service was checked at this time. -/
def Touched (checkedAt : Date) (db : Database) : Prop :=
  ∃ service ∈ db.services, service.lastCheckedAt = checkedAt

section Touched

variable {checkedAt : Date} {reply : ExecReply}

theorem Permitted.steady {call : Call} {replied : Except JsError call.Reply}
    (permitted : Permitted checkedAt reply call replied) : Steady call replied := by
  cases call with
  | now => exact ⟨checkedAt, permitted⟩
  | connect options => trivial
  | execCommand options command => trivial
  | _ => exact permitted

/-- A sync that saves all services at this time leaves one. -/
theorem Touched.call {permits : (call : Call) → Except JsError call.Reply → Prop}
    {db after : Database} {call : Call} {replied : Except JsError call.Reply}
    (touched : Touched checkedAt db) (ofSyncAt : call.OfSyncAt checkedAt)
    (answered : CalmAnswer permits db call replied after) : Touched checkedAt after := by
  cases call with
  | query q =>
      obtain ⟨time, performed⟩ := answered
      have same : after = ((db.setClock time).perform q).2 := by rw [performed]
      rw [same]
      have clocked : Touched checkedAt (db.setClock time) := touched
      by_cases writes : q.writesServices = false
      · unfold Touched
        rw [Database.perform_services writes]
        exact clocked
      · cases q with
        | saveService service =>
            apply Database.answer_keeps (Touched checkedAt) clocked
            intro services saved
            exact ⟨service, (Table.mem_save saved).mpr (.inl rfl), ofSyncAt⟩
        | insertService service =>
            apply Database.answer_keeps (Touched checkedAt) clocked
            rintro ⟨row, services⟩ inserted
            obtain ⟨sameRow, -⟩ := Table.insert_eq_some.mp inserted
            refine ⟨row, (Table.mem_insert rfl inserted).mpr (.inl rfl), ?_⟩
            rw [sameRow]
            exact ofSyncAt
        | removeHost host => cases ofSyncAt
        | _ => exact absurd rfl writes
  | _ =>
      obtain ⟨-, time, rfl⟩ := answered
      exact touched

theorem Touched.rest {permits : (call : Call) → Except JsError call.Reply → Prop}
    {α : Type} {program : Job α} {db : Database} (touched : Touched checkedAt db)
    (only : program.Only (Call.OfSyncAt checkedAt)) :
    program.Ensures (Calm permits) (fun _ after => Touched checkedAt after) db :=
  only.followsKeeping (Touched checkedAt) (fun _ _ _ _ => trivial)
    (fun _ _ _ _ held ofSyncAt answered => held.call ofSyncAt answered)
    (Program.ends_of_all fun _ _ held => held) touched

/-- The upsert of a container that can be read touches its service. -/
theorem upsertService_touches {permits : (call : Call) → Except JsError call.Reply → Prop}
    (platform : Platform) (host : Host) (container : DockerPsContainer)
    {image : Json} {tag : Option Json} {status : ServiceStatus}
    (readable : splitImageAndTagValue container.image = .ok (image, tag))
    (classified : classifyContainerStatus container.status = .ok status)
    (db : Database) :
    (upsertService platform host container checkedAt).Ensures (Calm permits)
      (fun _ after => Touched checkedAt after) db := by
  have only := upsertService_only platform host container checkedAt
  unfold upsertService at only ⊢
  rw [readable] at only ⊢
  rw [classified] at only ⊢
  apply ensures_query_bind
  · intro time found after performed
    have read : found = (db.setClock time).serviceAt host.id
        (platform.columnText container.id) ∧ after = db.setClock time := by
      cases performed
      exact ⟨rfl, rfl⟩
    obtain ⟨same, rfl⟩ := read
    have onlyRest := only.2 (.ok found)
    have key : (upsertRow platform host container image tag status checkedAt
          found).hostId = host.id ∧
        (upsertRow platform host container image tag status checkedAt
          found).containerId = platform.columnText container.id := by
      cases found with
      | none => exact ⟨rfl, rfl⟩
      | some old => exact (Database.serviceAt_eq_some.mp same.symm).2
    subst same
    apply Program.Ensures.bind (saveUpserted_ensures key fun old found => by
      rw [found]
      rfl)
    rintro saved middle ⟨value, later, services, rfl, members⟩
    have touched : saved.lastCheckedAt = checkedAt := by
      rw [value]
      split <;> rfl
    apply Touched.rest ⟨saved, (members saved).mpr (.inl rfl), touched⟩
    cases found : (db.setClock time).serviceAt host.id
        (platform.columnText container.id) with
    | none =>
        rw [found] at onlyRest
        exact onlyRest.2 (.ok saved)
    | some old =>
        rw [found] at onlyRest
        exact onlyRest.2 (.ok saved)
  · exact fun time => ⟨_, rfl⟩

/-- Marking a missing row touches it. -/
theorem markUnknown_touches {permits : (call : Call) → Except JsError call.Reply → Prop}
    {service : Service} {missing : List Service} {db : Database}
    (member : service ∈ db.services) :
    (markUnknown checkedAt (service :: missing)).Ensures (Calm permits)
      (fun _ after => Touched checkedAt after) db := by
  have only := markUnknown_only checkedAt (service :: missing)
  have clear : ¬ db.services.Clashes (service.vanished checkedAt) :=
    Table.not_clashes_of_replaces member rfl (.inr rfl)
  apply ensures_query_bind
  · intro time saved after performed
    obtain ⟨services, saves⟩ := Table.exists_save clear
    have same : after = { db.setClock time with services := services } := by
      change (db.setClock time).perform (.saveService (service.vanished checkedAt)) =
        _ at performed
      simp only [Database.perform, Database.setClock, saves, Option.map_some,
        Database.answer] at performed
      cases performed
      rfl
    have touched : Touched checkedAt after := by
      rw [same]
      exact ⟨_, (Table.mem_save saves).mpr (.inl rfl), rfl⟩
    exact touched.rest (only.2 (.ok saved))
  · exact fun time => ⟨_, Database.perform_saveService.mpr ⟨clear, rfl⟩⟩

/-- A sync that is given a listing that is not inert touches a service. -/
theorem sync_touches (platform : Platform) (host : Host) {db : Database}
    (live : ¬ Inert db.services host.id reply) :
    (sync platform host reply.listing).Ensures (Calm (Permitted checkedAt reply))
      (fun _ after => Touched checkedAt after) db := by
  unfold Inert at live
  push Not at live
  obtain ⟨runs, reads, listed⟩ := live
  unfold sync
  rw [if_neg runs]
  cases parses : parseDockerPsOutput reply.stdout with
  | error error => exact absurd parses (reads error)
  | ok listing =>
      have found := listed listing parses
      rw [show parseDockerPsOutput reply.listing.stdout = .ok listing from parses]
      apply Program.ensures_perform_bind
      · rintro now after ⟨⟨⟩, time, rfl⟩
        cases containers : listing.containers with
        | nil =>
            rw [containers] at found
            dsimp only at found
            push Not at found
            obtain ⟨service, member, ofHost, known⟩ := found
            apply ensures_query_bind
            · intro later existing after performed
              cases performed
              change Program.Follows _ (markUnknown checkedAt _) _ _
              generalize same : List.filter _ (((db.setClock time).setClock
                later).services.find _) = missing
              cases missing with
              | nil =>
                  have absent := List.filter_eq_nil_iff.mp same service
                    (Table.mem_find.mpr ⟨member, by simpa using ofHost⟩)
                  simp [known] at absent
              | cons first rest =>
                  have firstMember : first ∈ ((db.setClock time).setClock later).services := by
                    have inMissing : first ∈ first :: rest := .head _
                    rw [← same] at inMissing
                    exact (Table.mem_find.mp (List.mem_filter.mp inMissing).1).1
                  exact markUnknown_touches firstMember
            · exact fun later => ⟨_, rfl⟩
        | cons container rest =>
            rw [containers] at found
            dsimp only at found
            push Not at found
            obtain ⟨readable, classified⟩ := found
            cases split : splitImageAndTagValue container.image with
            | error error => exact absurd split (readable error)
            | ok split =>
            cases status : classifyContainerStatus container.status with
            | error error => exact absurd status (classified error)
            | ok status =>
            apply (Program.follows_bind _ _ _ _ _).mpr
            apply (Program.follows_bind _ _ _ _ _).mpr
            apply Program.Follows.mono
              (upsertService_touches platform host container split status _)
            intro outcome middle touched
            cases outcome with
            | error error => exact touched
            | ok done =>
            apply Program.Follows.mono (touched.rest (upsertServices_only _ _ _ _))
            intro outcome last touchedLast
            cases outcome with
            | error error => exact touchedLast
            | ok done => exact touchedLast.rest (markMissingServicesUnknown_only _ _ _)
      · rintro error after ⟨⟨⟩, -⟩

/-- A check whose listing is not inert touches a service, though nothing fails. -/
theorem checkHost_touches (platform : Platform) {hostId : Nat} {db : Database} {host : Host}
    {privateKey : String} (found : db.hosts.byId hostId = some host)
    (decrypts : platform.decrypt host.sshKeyEncrypted = .ok privateKey)
    (live : ¬ Inert db.services hostId reply) :
    (checkHost platform hostId).Ensures (Calm (Permitted checkedAt reply))
      (fun _ after => Touched checkedAt after) db := by
  have sameId : host.id = hostId := (Table.byId_eq_some.mp found).2
  rw [← sameId] at live
  apply ensures_query_bind
  · intro time reply' after performed
    have read : reply' = some host ∧ after = db.setClock time := by
      cases performed
      exact ⟨found, rfl⟩
    obtain ⟨rfl, rfl⟩ := read
    have connects : ∀ (before : Database) (options : SshConnectionOptions) replied after,
        Calm (Permitted checkedAt reply) (Call.connect options) before replied after →
          after.services = before.services ∧ ∃ connected, replied = .ok connected := by
      rintro before options replied after ⟨connected, later, rfl⟩
      exact ⟨rfl, connected⟩
    have executes : ∀ (before : Database) (options : SshConnectionOptions) command replied
        after, Calm (Permitted checkedAt reply) (Call.execCommand options command) before
            replied after →
          after.services = before.services ∧ ∃ result, replied = .ok result ∧
            (command = dockerPsCommand → result = reply) := by
      rintro before options command replied after ⟨⟨result, replied, replies⟩, later, rfl⟩
      exact ⟨rfl, result, replied, replies⟩
    have unchanged : (db.setClock time).services = db.services := rfl
    have session := runCheck_hands reply platform host
      (fun state => state.services = db.services)
      (fun _ _ _ _ same answered => (connects _ _ _ _ answered).1.trans same)
      (fun _ _ _ _ _ same answered => by
        obtain ⟨kept, result, replied, replies⟩ := executes _ _ _ _ _ answered
        refine ⟨kept.trans same, fun listed other answered => ?_⟩
        cases replied.symm.trans answered
        exact replies listed) unchanged
    change Program.Ensures _ (Program.bind (runCheck platform host) _) _ _
    apply Program.Ensures.bind session
    rintro ⟨outcome, sshResults⟩ checked ⟨same, -, handed, opened⟩
    have results : ∃ uptime, sshResults = some [uptime, reply.listing] := by
      rcases handed with none | some
      · exact absurd none (opened ⟨privateKey, decrypts⟩
          (fun _ _ _ _ answered => (connects _ _ _ _ answered).2)
          (fun _ _ _ _ _ answered => by
            obtain ⟨-, result, replied, -⟩ := executes _ _ _ _ _ answered
            exact ⟨result, replied⟩))
      · exact some
    obtain ⟨uptime, rfl⟩ := results
    apply ensures_query_bind
    · intro logTime log logged performed
      obtain ⟨-, logs, rfl, -⟩ := Database.perform_writeHealthCheckLog_eq performed
      apply ensures_now_bind (fun _ _ permitted => permitted.steady)
      intro lastCheckedAt later
      apply ensures_query_bind
      · intro saveTime saved hosted performed
        have written := (congrArg Prod.snd performed).symm
        have kept : hosted.services = db.services := by
          rw [show hosted = _ from written, Database.perform_services rfl]
          exact same
        have quiet : ∀ (state : Database) (call : Call) replied after,
            state.services = db.services → call.OfAlerts →
              Calm (Permitted checkedAt reply) call state replied after →
                after.services = db.services := by
          intro state call replied after unchanged ofAlerts answered
          exact ((AlertFrame.refl state).call ofAlerts answered).services.trans unchanged
        apply Program.Ensures.bind (evaluateTransition_keeps platform _
          (fun state => state.services = db.services) quiet kept)
        intro evaluated last unchanged
        rw [← unchanged] at live
        exact sync_touches platform (checkedHost host outcome.status lastCheckedAt) live
      · exact fun saveTime => ⟨_, Database.perform_saveHost _ _⟩
    · exact fun logTime => Database.perform_writeHealthCheckLog _ _
  · exact fun time => ⟨_, rfl⟩

end Touched

/-! ### Exactly the inert listings are harmless -/

/-- Nothing fails, the clock says one time, and `docker ps` replies this. -/
def listingAnswer (checkedAt : Date) (reply : ExecReply) (db : Database) :
    (call : Call) → Except JsError call.Reply × Database
  | .now => (.ok checkedAt, db)
  | .execCommand _ command =>
      (.ok (if command = dockerPsCommand then reply else default), db)
  | call => Surroundings.quiet.answer db call

def listingMachine (checkedAt : Date) (reply : ExecReply) :
    Machine Calls JsError Database :=
  fun (call : Call) db => listingAnswer checkedAt reply db call

theorem listingMachine_permitted (checkedAt : Date) (reply : ExecReply) (call : Call)
    (db : Database) :
    CalmAnswer (Permitted checkedAt reply) db call (listingAnswer checkedAt reply db call).1
      (listingAnswer checkedAt reply db call).2 := by
  cases call with
  | query q => exact ⟨db.clock, rfl⟩
  | now => exact ⟨rfl, db.clock, rfl⟩
  | randomBytes size => exact ⟨⟨_, rfl⟩, db.clock, rfl⟩
  | connect options => exact ⟨⟨_, rfl⟩, db.clock, rfl⟩
  | execCommand options command =>
      exact ⟨⟨_, rfl, fun listed => if_pos listed⟩, db.clock, rfl⟩
  | _ => exact ⟨trivial, db.clock, rfl⟩

theorem listingMachine_outage (faults : JsError → Prop) (checkedAt : Date)
    (reply : ExecReply) (call : Call) (db : Database) :
    OutageAnswer faults reply db call (listingAnswer checkedAt reply db call).1
      (listingAnswer checkedAt reply db call).2 := by
  cases call with
  | query q => exact .inr ⟨rfl, rfl⟩
  | execCommand options command =>
      refine ⟨⟨fun _ absent => (nomatch absent), rfl⟩, ?_⟩
      rintro listed result ⟨⟩
      exact if_pos listed
  | _ => exact ⟨fun _ absent => (nomatch absent), rfl⟩

/-- Some time is not that of any row. -/
theorem exists_fresh_time (services : Table Service) :
    ∃ checkedAt : Date, ∀ service ∈ services, service.lastCheckedAt ≠ checkedAt := by
  have bounded : ∀ rows : List Service, ∃ bound : Date, ∀ service ∈ rows,
      service.lastCheckedAt < bound := by
    intro rows
    induction rows with
    | nil => exact ⟨0, nofun⟩
    | cons first rows inductionHypothesis =>
        obtain ⟨bound, below⟩ := inductionHypothesis
        refine ⟨max bound (first.lastCheckedAt + 1), ?_⟩
        intro service member
        rcases List.mem_cons.mp member with rfl | later
        · exact Int.lt_of_lt_of_le (Int.lt_succ _) (Int.le_max_right _ _)
        · exact Int.lt_of_lt_of_le (below service later) (Int.le_max_left _ _)
  obtain ⟨bound, below⟩ := bounded services.rows
  exact ⟨bound, fun service member => Int.ne_of_lt (below service member)⟩

/-- In every run of checks of a host whose `docker ps` keeps replying this, no service
changes, none is logged to be missing and no transition fires because of it, if and only
if the listing is inert. -/
theorem outage_harmless_iff (platform : Platform) (faults : JsError → Prop) (hostId : Nat)
    (host : Host) (privateKey : String) (reply : ExecReply) (db : Database)
    (found : db.hosts.byId hostId = some host)
    (decrypts : platform.decrypt host.sshKeyEncrypted = .ok privateKey) :
    (∀ after, OutageRun platform hostId faults reply db after → Harmless db after) ↔
      Inert db.services hostId reply := by
  constructor
  · intro harmless
    by_contra live
    obtain ⟨checkedAt, fresh⟩ := exists_fresh_time db.services
    have steps := Program.run_steps (listingMachine checkedAt reply)
      (fun call state => listingMachine_outage faults checkedAt reply call state)
      (checkHost platform hostId) db
    have touched := Program.Ensures.run (listingMachine checkedAt reply) id
      (fun call state => listingMachine_permitted checkedAt reply call state)
      (checkHost_touches platform found decrypts live)
    obtain ⟨service, member, sameTime⟩ := touched
    have kept := (harmless _ (.single ⟨_, steps⟩)).services
    rw [show (id _ : Database).services = db.services from kept] at member
    exact fresh service member sameTime
  · intro inert after run
    induction run with
    | refl => exact Harmless.refl db
    | tail _ check inductionHypothesis =>
        obtain ⟨outcome, steps⟩ := check
        rw [← inductionHypothesis.services] at inert
        exact inductionHypothesis.trans
          ((checkHost_inert platform hostId inert).steps steps)

/-- A host without docker. -/
def notInstalled : ExecReply :=
  { stdout := ""
    stderr := "bash: docker: command not found"
    code := some 127 }

theorem outage_harmless_not_installed :
    notInstalled.code ≠ some 0 ∧
      ∀ after, OutageRun .transparent 2 (fun _ => True) notInstalled servedDatabase after →
        Harmless servedDatabase after :=
  ⟨by decide,
    (outage_harmless_iff .transparent (fun _ => True) 2 registeredHost "key" notInstalled
      servedDatabase rfl rfl).mpr (.inl (by decide +kernel))⟩

/-- A daemon that is down. -/
def daemonDown : ExecReply :=
  { stdout := ""
    stderr := "Cannot connect to the Docker daemon at unix:///var/run/docker.sock."
    code := some 1 }

/-- A service that keeps restarting. -/
def crashingDatabase : Database :=
  { registeredDatabase with
    services := Table.single { webService with status := .crashLoop } }

/-- Although `docker ps` failed and nothing else did, the service is taken to be gone. -/
theorem daemon_down_marks_unknown :
    daemonDown.code ≠ some 0 ∧
      ∃ after, OutageRun .transparent 2 (fun _ => False) daemonDown crashingDatabase after ∧
        (after.services.byId 1).map Service.status = some .unknown ∧
        ¬ Harmless crashingDatabase after := by
  have steps := Program.run_steps (listingMachine 1000 daemonDown)
    (fun call state => listingMachine_outage (fun _ => False) 1000 daemonDown call state)
    (checkHost .transparent 2) crashingDatabase
  have marked : (((checkHost .transparent 2).run (listingMachine 1000 daemonDown)
      crashingDatabase).2.services.byId 1).map Service.status = some .unknown := by
    decide +kernel
  refine ⟨by decide, _, .single ⟨_, steps⟩, marked, ?_⟩
  intro harmless
  rw [harmless.services] at marked
  exact absurd marked (by decide)

end ServersManager
