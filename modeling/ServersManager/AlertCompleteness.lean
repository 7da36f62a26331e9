/-
Module: ServersManager.AlertCompleteness
Purpose: Runs in which no query fails: as long as every request leaves a rule whose
  condition and entity type are a pair, each event serves every enabled rule about it.
Trusted boundary: none
Main exports:
  process_squares, runDailyCheck_squares, AlertingJob, AlertingStep, AlertingRuns, Ready,
  rules_served, mispaired_rule_unserved
-/
import ServersManager.AlertedChecks

namespace ServersManager

open Library

variable {hosts after : Table Host} {domains : Table Domain}
  {early late pairs : List (Nat × Nat)} {state next : Serving} {α β : Type}

section Jobs

variable (platform : Platform)

/-! ### Rollbacks -/

/-- A rollback that is in progress, as it is stored, and the organization of its service,
if there is one. -/
structure Holding (hosts : Table Host) (domains : Table Domain) (event : RollbackEvent)
    (orgId : Option Nat) (state : Serving) : Prop where
  account : Account hosts domains [] [] state
  stored : state.database.events.byId event.id = some event
  active : event.status = .inProgress
  owner : state.database.orgOf (.service event.serviceId) = orgId

variable {event : RollbackEvent} {orgId : Option Nat}

/-- A step that serves nobody keeps the event held. -/
theorem Holding.idle (holding : Holding hosts domains event orgId state)
    (serves : Serves [] state next) : Holding hosts domains event orgId next := by
  refine ⟨holding.account.idle serves, ?_, holding.active, ?_⟩
  · rw [serves.rows.events]
    exact holding.stored
  · rw [serves.rows.orgOf]
    exact holding.owner

/-- What the save of an event leaves as it was, and what it leaves behind. -/
theorem saveEvent_written {row saved : RollbackEvent}
    (answered : servingAnswers (.query (.saveEvent row)) state (.ok saved) next) :
    next.database.hosts = state.database.hosts ∧
      next.database.domains = state.database.domains ∧
      next.database.services = state.database.services ∧
      next.database.events.byId row.id = some row := by
  obtain ⟨events, saves, replied, clock, same⟩ := answered.written rfl
  rw [same]
  exact ⟨rfl, rfl, rfl, (Table.byId_save saves).trans (if_pos rfl)⟩

/-- The save of an event owes what the rules of its organization ask for. -/
theorem saveEvent_owes {row saved : RollbackEvent}
    (account : Account hosts domains [] [] state)
    (answered : servingAnswers (.query (.saveEvent row)) state (.ok saved) next) :
    Account hosts domains []
      ((happening state.database (.query (.saveEvent row)) (.ok saved)).toList.flatMap
        (due next.database)) next := by
  obtain ⟨sameHosts, sameDomains, sameServices, -⟩ := saveEvent_written answered
  apply account.owes answered rfl (sameHosts.trans account.sameHosts)
    (sameDomains.trans account.sameDomains)
  rw [sameServices]
  exact account.placed

/-- Nothing is due for a rollback that has not failed. -/
theorem saveEvent_squares {row saved : RollbackEvent}
    (account : Account hosts domains [] [] state) (unfailed : row.status ≠ .failed)
    (answered : servingAnswers (.query (.saveEvent row)) state (.ok saved) next) :
    Account hosts domains [] [] next := by
  have owes := saveEvent_owes account answered
  have nothing : happening state.database (.query (.saveEvent row)) (.ok saved) = none := by
    change StatusChange.event _ = none
    unfold StatusChange.event
    split
    · rfl
    · change Option.map _ (if row.status.text = "failed" then _ else none) = none
      rw [if_neg]
      · rfl
      · cases status : row.status with
        | failed => exact absurd status unfailed
        | _ => decide
  rw [nothing] at owes
  exact owes

/-- A job that saved its event holds it. -/
theorem Holding.saveEvent {row saved : RollbackEvent}
    (account : Account hosts domains [] [] state)
    (owner : state.database.orgOf (.service row.serviceId) = orgId)
    (active : row.status = .inProgress)
    (answered : servingAnswers (.query (.saveEvent row)) state (.ok saved) next) :
    Holding hosts domains row orgId next := by
  obtain ⟨sameHosts, -, sameServices, stored⟩ := saveEvent_written answered
  refine ⟨saveEvent_squares account (by rw [active]; decide) answered, stored, active, ?_⟩
  rw [← owner]
  simp only [Database.orgOf, sameHosts, sameServices]

/-- An entry is appended, and the event is held with it. -/
theorem appendLog_bind {entry : RollbackLogEntry} {rest : RollbackEvent → Job β}
    {post : Except JsError β → Serving → Prop}
    (holding : Holding hosts domains event orgId state)
    (continues : ∀ logged after, Holding hosts domains logged orgId after →
      (rest logged).Ensures servingAnswers post after) :
    ((appendLog event entry).bind rest).Ensures servingAnswers post state := by
  unfold appendLog
  rw [Program.bind_eq, Program.bind_assoc]
  apply write_bind
  intro saved after answered
  exact continues _ after
    (Holding.saveEvent holding.account holding.owner holding.active answered)

theorem messageEntry_idle (step message : String) :
    (messageEntry step message).Only Call.Idle := by
  apply Program.Only.bind (Program.only_perform now_idle)
  intro timestamp
  trivial

theorem toLogEntry_idle (step : String) (result : SshCommandResult) :
    (toLogEntry step result).Only Call.Idle := by
  apply Program.Only.bind (Program.only_perform now_idle)
  intro timestamp
  trivial

/-- Nor does an event that does not fail. -/
theorem complete_squares (event : RollbackEvent) {status : RollbackEventStatus}
    (unfailed : status ≠ .failed) : Squares hosts domains (complete event status) := by
  apply Squares.bind (.idle (Program.only_perform now_idle))
  intro completedAt state account
  apply write_bind
  intro saved after answered
  exact saveEvent_squares account unfailed answered

/-- The evaluation of a rollback that has failed. -/
def failureInput (event : RollbackEvent) (orgId : Nat) : EvaluateTransitionInput :=
  { orgId := orgId
    entityType := .rollbackEvent
    entityId := event.id
    previousStatus := event.status.text
    newStatus := RollbackEventStatus.failed.text }

/-- A failed rollback owes its alert. -/
theorem failEvent_owes {saved : RollbackEvent} {completedAt : Option Date}
    (holding : Holding hosts domains event orgId state)
    (answered : servingAnswers (.query (.saveEvent
      { event with status := .failed, completedAt := completedAt })) state (.ok saved) next) :
    Account hosts domains []
      (orgId.elim [] fun orgId => (failureInput event orgId).pairs next.database) next := by
  have owes := saveEvent_owes holding.account answered
  obtain ⟨sameHosts, -, sameServices, stored⟩ := saveEvent_written answered
  have owner : next.database.orgOf (.rollbackEvent event.id) = orgId := by
    rw [← holding.owner]
    change (next.database.events.byId event.id).bind _ = _
    rw [stored]
    simp only [Database.orgOf, sameHosts, sameServices, Option.bind_some]
  have changed : happening state.database (.query (.saveEvent
      { event with status := .failed, completedAt := completedAt })) (.ok saved) =
        (failureInput event 0).change.event := by
    change StatusChange.event _ = _
    rw [holding.stored]
    rfl
  rw [changed] at owes
  have due_eq : (failureInput event 0).change.event.toList.flatMap (due next.database) =
      orgId.elim [] fun orgId => (failureInput event orgId).pairs next.database := by
    cases orgId with
    | none =>
        apply List.flatMap_eq_nil_iff.mpr
        intro happened member
        apply due_unowned
        rw [StatusChange.event_entity (Option.mem_toList.mp member)]
        exact owner
    | some orgId =>
        have found : (failureInput event orgId).change.event.toList.flatMap
            (due next.database) = (failureInput event orgId).pairs next.database := by
          apply change_due owes.paired
          · exact owner
          · rintro condition ⟨⟩
            exact produces_rollbackEvent
        exact found
  rw [due_eq] at owes
  exact owes

/-- A rollback that fails is evaluated, unless nobody owns it. -/
theorem fail_squares (holding : Holding hosts domains event orgId state) (reason : String) :
    (fail platform event reason orgId).Ensures servingAnswers
      (fun _ after => Account hosts domains [] [] after) state := by
  apply idle_bind (messageEntry_idle _ _)
  · intro error after serves
    exact (holding.idle serves).account
  intro entry timed serves
  apply appendLog_bind (holding.idle serves)
  intro logged after holdingLogged
  unfold complete
  rw [Program.bind_eq, Program.bind_eq, Program.bind_assoc]
  apply idle_bind (Program.only_perform now_idle)
  · intro error after unchanged
    exact (holdingLogged.idle unchanged).account
  intro completedAt completed unchanged
  rw [Program.bind_eq, Program.bind_assoc]
  apply write_bind
  intro saved written answered
  have owes := failEvent_owes (holdingLogged.idle unchanged) answered
  cases orgId with
  | none => exact owes
  | some orgId =>
      apply Program.Follows.mono (evaluateTransition_serves platform _ written)
      rintro _ evaluated ⟨-, served⟩
      exact owes.settled served

variable {service : Service}

theorem createSnapshot_idle (input : CreateSnapshotInput) :
    (createSnapshot platform input).Only Call.Idle := by
  apply Program.Only.bind
  · apply Program.Only.bind (Program.only_perform ⟨trivial, fun _ => rfl⟩)
    intro iv
    trivial
  · intro configBlob
    exact Program.only_perform (idle_query ⟨rfl, rfl, rfl, rfl, rfl, rfl⟩ fun _ => rfl)

/-- A rollback that succeeded owes nothing. -/
theorem succeed_squares (owned : HostOf hosts service.hostId service.orgId)
    (newContainerId : Json) (targetSnapshot : DeploymentSnapshot) :
    Squares hosts domains
      (succeed platform event service newContainerId targetSnapshot .running) := by
  apply Squares.bind (.idle (Program.only_perform now_idle))
  intro lastCheckedAt
  apply saveUnalerted_bind
  · exact owned
  · exact .inl rfl
  apply Squares.ofExcept_bind
  intro config _
  apply Squares.bind (.idle (Program.only_perform now_idle))
  intro deployedAt
  apply Squares.bind (.idle (createSnapshot_idle platform _))
  intro snapshot
  apply Squares.bind (.idle (writeHealthCheckLog_idle _ _ _ _))
  intro log
  exact complete_squares event (by decide)

/-- Whatever the new container does, the account is squared. -/
theorem checkRecreated_squares (owned : HostOf hosts service.hostId service.orgId)
    (holding : Holding hosts domains event (some service.orgId) state)
    (targetSnapshot : DeploymentSnapshot) (containerName : String)
    (psResult : SshCommandResult) :
    (checkRecreated platform event service targetSnapshot containerName psResult).Ensures
      servingAnswers (fun _ after => Account hosts domains [] [] after) state := by
  unfold checkRecreated
  cases parseDockerPsOutput psResult.stdout with
  | error error => exact holding.account
  | ok listing =>
      change Program.Ensures _ ((Program.ofExcept (recreatedStatus (findRecreated containerName
        listing))).bind _) _ _
      cases recreatedStatus (findRecreated containerName listing) with
      | error error => exact holding.account
      | ok newStatus =>
          apply idle_bind (messageEntry_idle _ _)
          · intro error after serves
            exact (holding.idle serves).account
          intro entry timed serves
          apply appendLog_bind (holding.idle serves)
          intro logged after holdingLogged
          split
          · exact succeed_squares platform owned _ targetSnapshot after holdingLogged.account
          · exact fail_squares platform holdingLogged _

/-- Whatever the four commands answered. -/
theorem settle_squares (owned : HostOf hosts service.hostId service.orgId)
    (holding : Holding hosts domains event (some service.orgId) state)
    (targetSnapshot : DeploymentSnapshot) (containerName : String)
    (results : List SshCommandResult) :
    (settle platform event service targetSnapshot containerName results).Ensures
      servingAnswers (fun _ after => Account hosts domains [] [] after) state := by
  -- The results are logged one by one, whatever comes after them.
  have logs : ∀ {event : RollbackEvent} {state : Serving} (step : String)
      (result : SshCommandResult) (rest : RollbackEvent → Job Unit),
      Holding hosts domains event (some service.orgId) state →
      (∀ logged after, Holding hosts domains logged (some service.orgId) after →
        (rest logged).Ensures servingAnswers
          (fun _ after => Account hosts domains [] [] after) after) →
      ((toLogEntry step result).bind fun entry => (appendLog event entry).bind rest).Ensures
        servingAnswers (fun _ after => Account hosts domains [] [] after) state := by
    intro event state step result rest holding continues
    apply idle_bind (toLogEntry_idle step result)
    · intro error after serves
      exact (holding.idle serves).account
    intro entry timed serves
    exact appendLog_bind (holding.idle serves) continues
  unfold settle
  split
  · next stopResult rmResult runResult psResult =>
    apply logs _ _ _ holding
    intro stopped afterStop holdingStopped
    apply logs _ _ _ holdingStopped
    intro removed afterRm holdingRemoved
    apply logs _ _ _ holdingRemoved
    intro started afterRun holdingStarted
    apply logs _ _ _ holdingStarted
    intro listed afterPs holdingListed
    split
    · exact fail_squares platform holdingListed _
    · exact checkRecreated_squares platform owned holdingListed _ _ _
  · exact holding.account

/-- A session gives results, or its rollback has been failed. -/
theorem session_squares (holding : Holding hosts domains event (some service.orgId) state)
    (host : Host) (targetSnapshot : DeploymentSnapshot) (privateKey : String)
    (config : Json) :
    (session platform event service host targetSnapshot privateKey config).Ensures
      servingAnswers (fun outcome after =>
        match outcome with
        | .ok (some _) => Holding hosts domains event (some service.orgId) after
        | _ => Account hosts domains [] [] after) state := by
  have handles : ∀ (error : JsError) after,
      Holding hosts domains event (some service.orgId) after →
        (do
          fail platform event ("SSH connection to host failed: " ++ error.message)
            (some service.orgId)
          return none : Job (Option (String × List SshCommandResult))).Ensures servingAnswers
            (fun outcome after =>
              match outcome with
              | .ok (some _) => Holding hosts domains event (some service.orgId) after
              | _ => Account hosts domains [] [] after) after := by
    intro error after holdingAfter
    apply (Program.follows_bind _ _ _ _ _).mpr
    apply Program.Follows.mono (fail_squares platform holdingAfter _)
    rintro (error | value) last account
    · exact account
    · exact account
  apply (Program.follows_tryCatch _ _ _ _ _).mpr
  apply (Program.follows_bind _ _ _ _ _).mpr
  cases readConfig config with
  | error error => exact handles error state holding
  | ok config =>
      have runs : (runCommands (host.sshOptions privateKey)
          (rollbackCommands service config targetSnapshot.imageTag)).Only Call.Idle := by
        apply runCommands_only
        · exact ⟨trivial, fun _ => rfl⟩
        · exact fun command => ⟨trivial, fun _ => rfl⟩
      apply idle_bind runs
      · intro error after serves
        exact handles error after (holding.idle serves)
      · intro results after serves
        exact holding.idle serves

/-- Wherever the session ends. -/
theorem execute_squares (owned : HostOf hosts service.hostId service.orgId)
    (holding : Holding hosts domains event (some service.orgId) state) (host : Host)
    (targetSnapshot : DeploymentSnapshot) (privateKey : String) :
    (execute platform event service host targetSnapshot privateKey).Ensures servingAnswers
      (fun _ after => Account hosts domains [] [] after) state := by
  unfold execute
  cases decryptConfig platform targetSnapshot with
  | error error => exact holding.account
  | ok config =>
      change Program.Ensures _ ((session platform event service host targetSnapshot privateKey
        config).bind _) _ _
      apply (Program.follows_bind _ _ _ _ _).mpr
      apply Program.Follows.mono
        (session_squares platform holding host targetSnapshot privateKey config)
      rintro (error | _ | results) after ended
      · exact ended
      · exact ended
      · exact settle_squares platform owned ended targetSnapshot _ _

/-- A job whose event is in progress pays what it owes. -/
theorem processEvent_squares (account : Account hosts domains [] [] state)
    (stored : state.database.events.byId event.id = some event)
    (active : event.status = .inProgress) :
    (processEvent platform event).Ensures servingAnswers
      (fun _ after => Account hosts domains [] [] after) state := by
  apply read_bind (idle_query ⟨rfl, rfl, rfl, rfl, rfl, rfl⟩ fun _ => rfl)
  intro found loaded replied serves
  replace replied : state.database.services.byId event.serviceId = found :=
    Except.ok.inj replied
  cases found with
  | none =>
      have owner : state.database.orgOf (.service event.serviceId) = none := by
        change (state.database.services.byId event.serviceId).bind _ = none
        rw [replied]
        rfl
      have holding : Holding hosts domains event none state :=
        ⟨account, stored, active, owner⟩
      exact fail_squares platform (holding.idle serves) _
  | some service =>
      obtain ⟨member, -⟩ := Table.byId_eq_some.mp replied
      have owned : HostOf hosts service.hostId service.orgId := account.placed service member
      have owner : state.database.orgOf (.service event.serviceId) = some service.orgId := by
        change (state.database.services.byId event.serviceId).bind _ = _
        rw [replied, account.sameHosts]
        exact owned
      have holding : Holding hosts domains event (some service.orgId) state :=
        ⟨account, stored, active, owner⟩
      have holdingLoaded := holding.idle serves
      apply read_bind (idle_query ⟨rfl, rfl, rfl, rfl, rfl, rfl⟩ fun _ => rfl)
      intro foundHost loadedHost _ servesHost
      have holdingHost := holdingLoaded.idle servesHost
      cases foundHost with
      | none => exact fail_squares platform holdingHost _
      | some host =>
          apply read_bind (idle_query ⟨rfl, rfl, rfl, rfl, rfl, rfl⟩ fun _ => rfl)
          intro foundSnapshot loadedSnapshot _ servesSnapshot
          have holdingSnapshot := holdingHost.idle servesSnapshot
          cases foundSnapshot with
          | none => exact fail_squares platform holdingSnapshot _
          | some targetSnapshot =>
              cases platform.decrypt host.sshKeyEncrypted with
              | error error => exact fail_squares platform holdingSnapshot _
              | ok privateKey =>
                  exact execute_squares platform owned holdingSnapshot host targetSnapshot _

/-- A whole rollback job. -/
theorem process_squares (rollbackEventId : Nat) (settled : Squared state) :
    (process platform rollbackEventId).Ensures servingAnswers (fun _ after => Squared after)
      state := by
  apply read_bind (idle_query ⟨rfl, rfl, rfl, rfl, rfl, rfl⟩ fun _ => rfl)
  intro found loaded _ serves
  have account := Account.idle settled serves
  cases found with
  | none => exact account.forget
  | some event =>
      apply write_bind
      intro saved written answered
      obtain ⟨-, -, -, stored⟩ := saveEvent_written answered
      have accountSaved := saveEvent_squares account (by nofun) answered
      apply Program.Follows.mono (processEvent_squares platform accountSaved stored rfl)
      intro outcome after accountAfter
      exact accountAfter.forget

/-! ### Insights -/

/-- What a flag is about belongs to the organization. -/
def InsightOf (hosts : Table Host) (domains : Table Domain) (flag : InsightFlag)
    (entityId orgId : Nat) : Prop :=
  match flag with
  | .orphanedDomain => DomainOf domains entityId orgId
  | _ => HostOf hosts entityId orgId

/-- An insight is about an entity of the organization that is alerted. -/
theorem InsightOf.orgOf {flag : InsightFlag} {entityId ownerId : Nat}
    (owned : InsightOf hosts domains flag entityId ownerId)
    (account : Account hosts domains early late state) :
    state.database.orgOf (alertedEntity (some flag) .system entityId) = some ownerId := by
  cases flag with
  | orphanedDomain =>
      change (state.database.domains.byId entityId).map Domain.orgId = _
      rw [account.sameDomains]
      exact owned
  | idleHost =>
      change (state.database.hosts.byId entityId).map Host.orgId = _
      rw [account.sameHosts]
      exact owned
  | orphanedHost =>
      change (state.database.hosts.byId entityId).map Host.orgId = _
      rw [account.sameHosts]
      exact owned

/-- What is due when a flag is written, if that sets it. -/
def flagPairs (db : Database) (flag : InsightFlag) (entityId : Nat) (active : Bool) :
    List (Nat × Nat) :=
  if active ∧ entityId ∉ activeIds db.insightStates flag then
    due db
      { entity := alertedEntity (some flag) .system entityId
        condition := conditionForFlag flag }
  else []

/-- A flag that is raised owes what the rules ask for. -/
theorem flagPairs_detection (db : Database) (row : InsightState) :
    (detection db row).toList.flatMap (due db) =
      flagPairs db row.flag row.entityId row.active := by
  unfold detection flagPairs
  split
  · exact List.append_nil _
  · rfl

/-- What an evaluation of a newly detected insight finds. -/
theorem flagPairs_found {flag : InsightFlag} {entityId ownerId : Nat}
    (account : Account hosts domains early late state)
    (owned : InsightOf hosts domains flag entityId ownerId)
    (fresh : entityId ∉ activeIds state.database.insightStates flag) :
    flagPairs state.database flag entityId true =
      rulePairs state.database ownerId .system (conditionForFlag flag) entityId := by
  unfold flagPairs
  rw [if_pos ⟨rfl, fresh⟩, due_eq_rulePairs account.paired (produces_system flag)
    (owned.orgOf account)]
  cases flag <;> rfl

/-- A flag row has been written, and nothing else. -/
theorem Account.flagWritten {call : Call} {reply : Except JsError call.Reply}
    {row : InsightState} {states : Table InsightState} {clock : Date}
    (account : Account hosts domains (flagPairs state.database row.flag row.entityId row.active)
      [] state)
    (answered : servingAnswers call state reply next) (serves : servedBy call reply = [])
    (writes : happening state.database call reply = detection state.database row)
    (same : next.database = { state.database with insightStates := states, clock := clock }) :
    Account hosts domains [] [] next := by
  apply account.repays answered serves
  · rw [writes, ← flagPairs_detection, same]
    rfl
  · rw [same]
    exact account.sameHosts
  · rw [same]
    exact account.sameDomains
  · rw [same]

/-- The write of a flag makes due what has been served for it. -/
theorem upsertFlag_squares {entityId : Nat} {flag : InsightFlag} {active : Bool}
    (account : Account hosts domains (flagPairs state.database flag entityId active) []
      state) :
    (upsertFlag entityId flag active).Ensures servingAnswers
      (fun outcome after => outcome = .ok () ∧ Account hosts domains [] [] after ∧
        FlagSet state.database.insightStates after.database.insightStates entityId flag
          active) state := by
  apply read_bind (idle_query ⟨rfl, rfl, rfl, rfl, rfl, rfl⟩ fun _ => rfl)
  intro found loaded replied serves
  replace replied : state.database.insightStates.findOne (fun state =>
      state.entityId == entityId && state.flag == flag) = found := Except.ok.inj replied
  have accountLoaded := account.idle serves
  have samePairs : flagPairs state.database flag entityId active =
      flagPairs loaded.database flag entityId active := by
    unfold flagPairs
    rw [serves.rows.due, serves.rows.insightStates]
  rw [samePairs] at accountLoaded
  rw [← serves.rows.insightStates] at replied ⊢
  cases found with
  | none =>
      apply write_bind
      intro saved written answered
      obtain ⟨⟨row, states⟩, inserted, -, clock, same⟩ := answered.written rfl
      have sets : FlagSet loaded.database.insightStates states entityId flag active := by
        apply flagSet_of_insert _ inserted
        intro other member sameIndex
        have differs := Table.findOne_none.mp replied other member
        obtain ⟨sameId, sameFlag⟩ := Prod.ext_iff.mp (Option.some.inj sameIndex)
        change other.entityId = entityId at sameId
        change other.flag = flag at sameFlag
        rw [sameId, sameFlag, beq_self_eq_true, beq_self_eq_true] at differs
        cases differs
      have writes : happening loaded.database
          (.query (.insertInsight (newInsight entityId flag active))) (.ok saved) =
            detection loaded.database (newInsight entityId flag active) := rfl
      refine ⟨rfl, accountLoaded.flagWritten answered rfl writes same, ?_⟩
      rw [same]
      exact sets
  | some old =>
      obtain ⟨member, matched⟩ := Table.findOne_mem replied
      simp only [Bool.and_eq_true, beq_iff_eq] at matched
      obtain ⟨rfl, rfl⟩ := matched
      apply write_bind
      intro saved written answered
      obtain ⟨states, saves, -, clock, same⟩ := answered.written rfl
      have writes : happening loaded.database
          (.query (.saveInsight { old with active := active })) (.ok saved) =
            detection loaded.database { old with active := active } := rfl
      refine ⟨rfl, accountLoaded.flagWritten answered rfl writes same, ?_⟩
      rw [same]
      exact flagSet_of_save member saves

/-- The loop over what matches now. -/
theorem activateFlags_squares (flag : InsightFlag) (previouslyActiveIds : List Nat)
    (entities : List InsightMatch) (distinct : (entities.map InsightMatch.id).Nodup)
    (owned : ∀ entity ∈ entities, InsightOf hosts domains flag entity.id entity.orgId)
    (previously : ∀ entity ∈ entities, entity.id ∈ previouslyActiveIds ↔
      entity.id ∈ activeIds state.database.insightStates flag)
    (account : Account hosts domains [] [] state) :
    (activateFlags platform flag previouslyActiveIds entities).Ensures servingAnswers
      (fun _ after => Account hosts domains [] [] after) state := by
  induction entities generalizing state with
  | nil => exact account
  | cons entity entities inductionHypothesis =>
      obtain ⟨absent, distinctRest⟩ := List.nodup_cons.mp distinct
      have ownedHere := owned entity List.mem_cons_self
      have here := previously entity List.mem_cons_self
      -- Whatever has been served early, the write of the flag makes it due.
      have sets : ∀ middle, SameRows state.database middle.database →
          Account hosts domains (flagPairs middle.database flag entity.id true) [] middle →
            (do
              upsertFlag entity.id flag true
              activateFlags platform flag previouslyActiveIds entities : Job Unit).Ensures
                servingAnswers (fun _ after => Account hosts domains [] [] after) middle := by
        intro middle rows accountMiddle
        apply (Program.follows_bind _ _ _ _ _).mpr
        apply Program.Follows.mono (upsertFlag_squares accountMiddle)
        rintro outcome after ⟨rfl, settled, flagSet⟩
        apply inductionHypothesis distinctRest
          (fun other member => owned other (List.mem_cons_of_mem entity member)) ?_ settled
        intro other member
        rw [previously other (List.mem_cons_of_mem entity member), flagSet, if_neg,
          rows.insightStates]
        rintro ⟨same, -⟩
        exact absent (same ▸ List.mem_map_of_mem member)
      unfold activateFlags
      by_cases active : entity.id ∈ activeIds state.database.insightStates flag
      · rw [if_neg (by
          simp only [Bool.not_eq_true', List.contains_eq_mem, decide_eq_false_iff_not,
            not_not]
          exact here.mpr active)]
        apply sets state (.refl _)
        rw [flagPairs, if_neg (fun newly => newly.2 active)]
        exact account
      · rw [if_pos (by
          simp only [Bool.not_eq_true', List.contains_eq_mem, decide_eq_false_iff_not]
          exact fun member => active (here.mp member))]
        apply (Program.follows_bind _ _ _ _ _).mpr
        apply Program.Follows.mono (evaluateDirectCondition_serves platform
          (directCondition flag entity) state)
        rintro outcome middle ⟨rfl, served⟩
        apply sets middle served.rows
        have ahead := account.ahead served
        rw [flagPairs_found ahead ownedHere (by rw [served.rows.insightStates]; exact active),
          served.rows.rulePairs]
        exact ahead

/-- A flag that is lowered owes nothing. -/
theorem deactivateFlags_squares (flag : InsightFlag) (states : List InsightState) :
    Squares hosts domains (deactivateFlags flag states) := by
  induction states with
  | nil => exact .pure ()
  | cons insight states inductionHypothesis =>
      intro state account
      apply (Program.follows_bind _ _ _ _ _).mpr
      have nothing : flagPairs state.database flag insight.entityId false = [] :=
        if_neg nofun
      apply Program.Follows.mono (upsertFlag_squares (by rw [nothing]; exact account))
      rintro outcome after ⟨rfl, settled, -⟩
      exact inductionHypothesis after settled

/-- What the transitions of a flag dispatch is what its writes owe. -/
theorem evaluateFlagTransitions_squares {flag : InsightFlag} {entities : List InsightMatch}
    (distinct : (entities.map InsightMatch.id).Nodup)
    (owned : ∀ entity ∈ entities, InsightOf hosts domains flag entity.id entity.orgId) :
    Squares hosts domains (evaluateFlagTransitions platform flag entities) := by
  intro state account
  apply read_bind (idle_query ⟨rfl, rfl, rfl, rfl, rfl, rfl⟩ fun _ => rfl)
  intro previousStates loaded replied serves
  cases replied
  apply (Program.follows_bind _ _ _ _ _).mpr
  have active : ∀ entity ∈ entities,
      entity.id ∈ activeIds state.database.insightStates flag ↔
        entity.id ∈ activeIds loaded.database.insightStates flag := by
    intro entity _
    rw [serves.rows.insightStates]
  apply Program.Follows.mono (activateFlags_squares platform flag _ entities distinct owned
    active (account.idle serves))
  rintro (error | value) after settled
  · exact settled
  · exact deactivateFlags_squares flag _ after settled

theorem hostOf_mem {host : Host} (member : host ∈ hosts) : HostOf hosts host.id host.orgId :=
  congrArg (Option.map Host.orgId) (Table.byId_self member)

theorem domainOf_mem {domain : Domain} (member : domain ∈ domains) :
    DomainOf domains domain.id domain.orgId :=
  congrArg (Option.map Domain.orgId) (Table.byId_self member)

/-- The hosts that are idle are stored, and each is found once. -/
theorem computeIdleHosts_bind {rest : List Host → Job β}
    (squaresRest : ∀ found, (∀ host ∈ found, host ∈ hosts) →
      (found.map Host.id).Nodup → Squares hosts domains (rest found)) :
    Squares hosts domains ((computeIdleHosts none).bind rest) := by
  unfold computeIdleHosts
  rw [Program.bind_eq, Program.bind_assoc]
  apply Squares.bind (.idle (Program.only_perform now_idle))
  intro time state account
  rw [Program.bind_eq, Program.bind_assoc]
  apply read_bind (idle_query ⟨rfl, rfl, rfl, rfl, rfl, rfl⟩ fun _ => rfl)
  intro candidates loaded replied serves
  replace replied : state.database.hosts.find _ = candidates := Except.ok.inj replied
  have members : ∀ host ∈ candidates, host ∈ hosts := by
    rw [← replied, ← account.sameHosts]
    intro host member
    exact (Table.mem_find.mp member).1
  have distinct : (candidates.map Host.id).Nodup := by
    rw [← replied]
    exact Table.find_distinct _ _
  split
  · exact squaresRest [] nofun List.nodup_nil loaded (account.idle serves)
  · rw [Program.bind_eq, Program.bind_assoc]
    apply read_bind (idle_query ⟨rfl, rfl, rfl, rfl, rfl, rfl⟩ fun _ => rfl)
    intro runningServices after _ servesAfter
    apply squaresRest _ _ _ after ((account.idle serves).idle servesAfter)
    · intro host member
      exact members host (List.mem_filter.mp member).1
    · exact distinct.sublist (List.filter_sublist.map _)

/-- So are the orphaned domains. -/
theorem computeOrphanedDomains_bind {rest : List Domain → Job β}
    (squaresRest : ∀ found, (∀ domain ∈ found, domain ∈ domains) →
      (found.map Domain.id).Nodup → Squares hosts domains (rest found)) :
    Squares hosts domains ((computeOrphanedDomains none).bind rest) := by
  intro state account
  unfold computeOrphanedDomains
  rw [Program.bind_eq, Program.bind_assoc]
  apply read_bind (idle_query ⟨rfl, rfl, rfl, rfl, rfl, rfl⟩ fun _ => rfl)
  intro candidates loaded replied serves
  replace replied : state.database.domains.find _ = candidates := Except.ok.inj replied
  have members : ∀ domain ∈ candidates, domain ∈ domains := by
    rw [← replied, ← account.sameDomains]
    intro domain member
    exact (Table.mem_find.mp member).1
  have distinct : (candidates.map Domain.id).Nodup := by
    rw [← replied]
    exact Table.find_distinct _ _
  split
  · exact squaresRest [] nofun List.nodup_nil loaded (account.idle serves)
  · rw [Program.bind_eq, Program.bind_assoc]
    apply read_bind (idle_query ⟨rfl, rfl, rfl, rfl, rfl, rfl⟩ fun _ => rfl)
    intro known after _ servesAfter
    apply squaresRest _ _ _ after ((account.idle serves).idle servesAfter)
    · intro domain member
      exact members domain (List.mem_filter.mp member).1
    · exact distinct.sublist (List.filter_sublist.map _)

/-- And the orphaned hosts. -/
theorem computeOrphanedHosts_bind {rest : List Host → Job β}
    (squaresRest : ∀ found, (∀ host ∈ found, host ∈ hosts) →
      (found.map Host.id).Nodup → Squares hosts domains (rest found)) :
    Squares hosts domains ((computeOrphanedHosts none).bind rest) := by
  intro state account
  unfold computeOrphanedHosts
  rw [Program.bind_eq, Program.bind_assoc]
  apply read_bind (idle_query ⟨rfl, rfl, rfl, rfl, rfl, rfl⟩ fun _ => rfl)
  intro candidates loaded replied serves
  replace replied : state.database.hosts.find _ = candidates := Except.ok.inj replied
  have members : ∀ host ∈ candidates, host ∈ hosts := by
    rw [← replied, ← account.sameHosts]
    intro host member
    exact (Table.mem_find.mp member).1
  have distinct : (candidates.map Host.id).Nodup := by
    rw [← replied]
    exact Table.find_distinct _ _
  split
  · exact squaresRest [] nofun List.nodup_nil loaded (account.idle serves)
  · rw [Program.bind_eq, Program.bind_assoc]
    apply read_bind (idle_query ⟨rfl, rfl, rfl, rfl, rfl, rfl⟩ fun _ => rfl)
    intro domainsWithHost after _ servesAfter
    apply squaresRest _ _ _ after ((account.idle serves).idle servesAfter)
    · intro host member
      exact members host (List.mem_filter.mp member).1
    · exact distinct.sublist (List.filter_sublist.map _)

/-- One flag of the daily check. -/
theorem evaluateFlag_squares (flag : InsightFlag) :
    Squares hosts domains (evaluateFlag platform flag) := by
  cases flag with
  | idleHost =>
      change Squares hosts domains (((computeIdleHosts none).bind fun found =>
        .pure (found.map idleHostMatch)).bind _)
      rw [Program.bind_assoc]
      apply computeIdleHosts_bind
      intro found members distinct
      apply evaluateFlagTransitions_squares
      · rw [List.map_map]
        exact distinct
      · intro entity member
        obtain ⟨host, hostMember, rfl⟩ := List.mem_map.mp member
        exact hostOf_mem (members host hostMember)
  | orphanedDomain =>
      change Squares hosts domains (((computeOrphanedDomains none).bind fun found =>
        .pure (found.map orphanedDomainMatch)).bind _)
      rw [Program.bind_assoc]
      apply computeOrphanedDomains_bind
      intro found members distinct
      apply evaluateFlagTransitions_squares
      · rw [List.map_map]
        exact distinct
      · intro entity member
        obtain ⟨domain, domainMember, rfl⟩ := List.mem_map.mp member
        exact domainOf_mem (members domain domainMember)
  | orphanedHost =>
      change Squares hosts domains (((computeOrphanedHosts none).bind fun found =>
        .pure (found.map orphanedHostMatch)).bind _)
      rw [Program.bind_assoc]
      apply computeOrphanedHosts_bind
      intro found members distinct
      apply evaluateFlagTransitions_squares
      · rw [List.map_map]
        exact distinct
      · intro entity member
        obtain ⟨host, hostMember, rfl⟩ := List.mem_map.mp member
        exact hostOf_mem (members host hostMember)

/-- A whole daily check. -/
theorem runDailyCheck_squares : Squares hosts domains (runDailyCheck platform) := by
  apply Squares.bind (evaluateFlag_squares platform _)
  intro idleHosts
  apply Squares.bind (evaluateFlag_squares platform _)
  intro orphanedDomains
  exact evaluateFlag_squares platform _

end Jobs

/-! ### Runs -/

inductive AlertingJob where
  | checkHost (hostId : Nat)
  | checkDomain (domainId : Nat)
  | process (rollbackEventId : Nat)
  | runDailyCheck

def AlertingJob.code (platform : Platform) : AlertingJob → Job Unit
  | .checkHost hostId => ServersManager.checkHost platform hostId
  | .checkDomain domainId => ServersManager.checkDomain platform domainId
  | .process rollbackEventId => ServersManager.process platform rollbackEventId
  | .runDailyCheck => ServersManager.runDailyCheck platform

/-- The step lemma: every job pays what it owes before it ends. -/
theorem AlertingJob.squares (platform : Platform) (job : AlertingJob)
    (settled : Squared state) :
    (job.code platform).Ensures servingAnswers (fun _ after => Squared after) state := by
  cases job with
  | checkHost hostId => exact checkHost_squares platform hostId settled
  | checkDomain domainId => exact checkDomain_squares platform domainId settled
  | process rollbackEventId => exact process_squares platform rollbackEventId settled
  | runDailyCheck => exact (runDailyCheck_squares platform).forget settled

/-- A request that satisfies a condition is performed, or a job runs to its end. -/
inductive AlertingStep (platform : Platform) (condition : Database → RuleRequest → Prop) :
    Serving → Serving → Prop where
  | request {state : Serving} (request : RuleRequest) (iv : List UInt8)
      (accepted : request.Accepted) (meets : condition state.database request) :
      AlertingStep platform condition state
        { state with database := request.perform platform iv state.database }
  | job {state after : Serving} (job : AlertingJob) {outcome : Except JsError Unit}
      (steps : Program.Steps servingAnswers (job.code platform, state)
        (.ofExcept outcome, after)) :
      AlertingStep platform condition state after

/-- Any number of accepted requests and of jobs, one after another. -/
abbrev AlertingRuns (platform : Platform) (condition : Database → RuleRequest → Prop) :
    Serving → Serving → Prop :=
  Relation.ReflTransGen (AlertingStep platform condition)

/-- So does every step of a run, a new rule or an update included. -/
theorem AlertingStep.squared {platform : Platform} (step : AlertingStep platform
    (fun db request => request.Pairs db) state next) (settled : Squared state) :
    Squared next := by
  cases step with
  | request request iv accepted pairs =>
      have paired : RulesPaired (request.perform platform iv state.database) :=
        request.paired settled.paired pairs
      obtain ⟨rules, same⟩ : ∃ rules, request.perform platform iv state.database =
        { state.database with alertRules := rules } := request.perform_rules
      rw [same] at paired ⊢
      exact ⟨rfl, rfl, paired, settled.placed, settled.balance⟩
  | job job steps => exact (job.squares platform settled).steps steps

/-- The rules are paired, and every service belongs to the organization of its host. -/
structure Ready (db : Database) : Prop where
  paired : RulesPaired db
  placed : Placed db.hosts db.services

/-- As long as every request leaves a rule whose condition and entity type are a pair:
whenever the event of a condition has happened to an entity, every enabled rule of the
entity's organization with that condition has been served for it. -/
theorem rules_served (platform : Platform) {db : Database} (ready : Ready db)
    {finish : Serving}
    (runs : AlertingRuns platform (fun db request => request.Pairs db)
      { database := db, owed := [], served := [] } finish) :
    finish.served = finish.owed := by
  have settled : Squared finish := by
    induction runs with
    | refl => exact ⟨rfl, rfl, ready.paired, ready.placed, rfl⟩
    | tail _ step inductionHypothesis => exact step.squared inductionHypothesis
  have balance := settled.balance
  rw [List.append_nil, List.append_nil] at balance
  exact balance

/-! ### A rule that is never found -/

/-- Some surroundings answer every call. -/
def servingMachine (surroundings : Surroundings) : Machine Calls JsError Serving :=
  fun (call : Call) before =>
    let (reply, db) := surroundings.answer before.database call
    (reply,
      { database := db
        owed := before.owed ++
          (happening before.database call reply).toList.flatMap (due db)
        served := before.served ++ servedBy call reply })

/-- The query does not fail. -/
def answersQuery (surroundings : Surroundings) (call : Call) (before : Serving) : Bool :=
  match call with
  | .query q => (surroundings.answer before.database (.query q)).1.isOk
  | _ => true

theorem servingMachine_answers (surroundings : Surroundings) (call : Call)
    (before : Serving) (checked : answersQuery surroundings call before = true) :
    servingAnswers call before (servingMachine surroundings call before).1
      (servingMachine surroundings call before).2 := by
  have answered : Answered (fun _ => True) before.database call
      (surroundings.answer before.database call).1
      (surroundings.answer before.database call).2 :=
    surroundings.answered (fun _ _ => trivial) before.database call
  refine ⟨?_, ⟨_, answered, _, rfl⟩, rfl, rfl⟩
  cases call with
  | query q =>
      change Answers (.query q) (before.database.perform q).1
      change ((before.database.perform q).1).isOk = true at checked
      cases same : (before.database.perform q).1 with
      | error error =>
          rw [same] at checked
          cases checked
      | ok value => trivial
  | _ => trivial

/-- Nobody answers on the host's address. -/
def unreachableSurroundings : Surroundings :=
  { Surroundings.quiet with
    connect := .error (.queryFailed "ECONNREFUSED" "connect ECONNREFUSED") }

/-- A rule about hosts that become unreachable, for some type of entities. -/
def unreachableDto (entityType : AlertEntityType) : CreateAlertRuleDto :=
  { name := "Notify on host unreachable"
    entityType := entityType
    condition := "host_status_transitioned_to:unreachable"
    channel := .slack
    channelConfig := .obj [("webhook_url", .str "https://hook")]
    cooldownMinutes := none
    enabled := none }

theorem unreachableDto_accepted (entityType : AlertEntityType) :
    (RuleRequest.create 6 (unreachableDto entityType)).Accepted := by
  constructor
  · change "Notify on host unreachable" ≠ ""
    decide
  · change "host_status_transitioned_to:unreachable" ∈ alertConditions
    decide
  · exact ⟨_, rfl⟩
  · nofun

/-- The rule has been created. -/
def createdServing (entityType : AlertEntityType) : Serving :=
  { database := (RuleRequest.create 6 (unreachableDto entityType)).perform .transparent []
      registeredDatabase
    owed := []
    served := [] }

/-- And then the host has been checked. -/
def unreachableServing (entityType : AlertEntityType) : Serving :=
  (((AlertingJob.checkHost 2).code .transparent).run
    (servingMachine unreachableSurroundings) (createdServing entityType)).2

theorem unreachableServing_checks (entityType : AlertEntityType) :
    ((AlertingJob.checkHost 2).code .transparent).checks
      (servingMachine unreachableSurroundings) (answersQuery unreachableSurroundings)
      (createdServing entityType) = true := by
  cases entityType <;> decide +kernel

theorem unreachableServing_runs (entityType : AlertEntityType)
    {condition : Database → RuleRequest → Prop}
    (meets : condition registeredDatabase (.create 6 (unreachableDto entityType))) :
    AlertingRuns .transparent condition
      { database := registeredDatabase, owed := [], served := [] }
      (unreachableServing entityType) := by
  have created : AlertingStep .transparent condition
      { database := registeredDatabase, owed := [], served := [] }
      (createdServing entityType) :=
    .request _ [] (unreachableDto_accepted entityType) meets
  have checked : AlertingStep .transparent condition (createdServing entityType)
      (unreachableServing entityType) :=
    .job (.checkHost 2) (Program.run_steps_checked
      (servingMachine unreachableSurroundings) (answersQuery unreachableSurroundings)
      (servingMachine_answers _) _ (unreachableServing_checks entityType))
  exact (Relation.ReflTransGen.single created).tail checked

/-- The rule is accepted for services; the host becomes unreachable, and the rule is not
looked at. -/
theorem mispaired_rule_unserved : ∃ finish,
    AlertingRuns .transparent (fun _ _ => True)
      { database := registeredDatabase, owed := [], served := [] } finish ∧
    finish.owed = [(0, 2)] ∧ finish.served = [] :=
  ⟨_, unreachableServing_runs .service trivial, by decide +kernel, by decide +kernel⟩

theorem registeredDatabase_ready : Ready registeredDatabase :=
  ⟨nofun, nofun⟩

/-- The same rule for hosts is served. -/
theorem rules_served_unreachable : (unreachableServing .host).served = [(0, 2)] := by
  have pairs : (RuleRequest.create 6 (unreachableDto .host)).Pairs registeredDatabase :=
    .head _
  have serves := rules_served .transparent registeredDatabase_ready
    (unreachableServing_runs .host pairs)
  rw [serves]
  decide +kernel

end ServersManager
