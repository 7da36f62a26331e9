/-
Module: ServersManager.AlertServing
Purpose: What a rule is owed when an entity undergoes the event of its condition, how an
  evaluation serves it, and the account of both.
Trusted boundary: none
Main exports:
  Database.orgOf, happening, due, Serving, servingAnswers, SameRows, Serves,
  evaluateTransition_serves, evaluateDirectCondition_serves, due_eq_rulePairs, Account,
  Squares, change_due
-/
import ServersManager.AlertRules
import ServersManager.Rollback
import ServersManager.TenantAlerts

namespace ServersManager

open Library

/-! ### Events -/

/-- The organization that owns an entity, as the rows say. -/
def Database.orgOf (db : Database) : AlertedEntity → Option Nat
  | .host id => (db.hosts.byId id).map Host.orgId
  | .domain id | .certificate id => (db.domains.byId id).map Domain.orgId
  | .service id => (db.services.byId id).bind fun service =>
      (db.hosts.byId service.hostId).map Host.orgId
  | .rollbackEvent id => (db.events.byId id).bind fun event =>
      (db.services.byId event.serviceId).bind fun service =>
        (db.hosts.byId service.hostId).map Host.orgId

def AlertedEntity.entityId : AlertedEntity → Nat
  | .host id | .domain id | .certificate id | .service id | .rollbackEvent id => id

/-- What has happened to an entity, as the condition of a rule would say it. -/
structure AlertEvent where
  entity : AlertedEntity
  condition : String
deriving Repr, DecidableEq

/-- A status has changed, and there are conditions about such a status. -/
def StatusChange.event (change : StatusChange) : Option AlertEvent :=
  if change.previousStatus = change.newStatus then none
  else (buildTransitionCondition change.entityType change.newStatus).map fun condition =>
    { entity := alertedEntity none change.entityType change.entityId
      condition := condition }

/-- An insight is detected where its flag was not set. -/
def detection (db : Database) (state : InsightState) : Option AlertEvent :=
  if state.active ∧ state.entityId ∉ activeIds db.insightStates state.flag then
    some
      { entity := alertedEntity (some state.flag) .system state.entityId
        condition := conditionForFlag state.flag }
  else none

/-- What a write that succeeds makes happen. -/
def happening (db : Database) :
    (call : Call) → Except JsError call.Reply → Option AlertEvent
  | .query (.saveEvent row), .ok _ =>
      StatusChange.event
        { entityType := .rollbackEvent
          entityId := row.id
          previousStatus :=
            ((db.events.byId row.id).map RollbackEvent.status |>.getD .pending).text
          newStatus := row.status.text }
  | .query (.insertInsight state), .ok _ | .query (.saveInsight state), .ok _ =>
      detection db state
  | call, reply => (statusChange db call reply).bind StatusChange.event

/-- The enabled rules of the entity's organization with the condition, whatever entity
type they are stored with. -/
def due (db : Database) (event : AlertEvent) : List (Nat × Nat) :=
  (db.alertRules.find fun rule => db.orgOf event.entity == some rule.orgId &&
    rule.condition == event.condition && rule.enabled).map fun rule =>
      (rule.id, event.entity.entityId)

/-- A rule is served for an entity by a recent send, or by an attempt to deliver, of which
there is a log. -/
def servedBy : (call : Call) → Except JsError call.Reply → List (Nat × Nat)
  | .query (.findRecentSend alertRuleId entityId _), .ok (some _) =>
      [(alertRuleId, entityId)]
  | .query (.saveAlertLog log), .ok _ => [(log.alertRuleId, log.entityId)]
  | _, _ => []

/-- The database, and the rules and entities of which an evaluation has become due and
has been made. -/
structure Serving where
  database : Database
  owed : List (Nat × Nat)
  served : List (Nat × Nat)

/-- Queries do not fail.  Hosts, name servers, TLS peers and webhooks may. -/
def Answers : (call : Call) → Except JsError call.Reply → Prop
  | .query _, .error _ => False
  | _, _ => True

def servingAnswers : Semantics Calls JsError Serving :=
  fun (call : Call) before reply after =>
    Answers call reply ∧
    (∃ db, Answered (fun _ => True) before.database call reply db ∧
      ∃ clock, after.database = { db with clock := clock }) ∧
    after.owed = before.owed ++
      ((happening before.database call reply).toList.flatMap (due after.database)) ∧
    after.served = before.served ++ servedBy call reply

/-! ### What leaves the rows alone -/

/-- The rows that events and rules are about are the same. -/
structure SameRows (db after : Database) : Prop where
  hosts : after.hosts = db.hosts
  domains : after.domains = db.domains
  certificates : after.certificates = db.certificates
  services : after.services = db.services
  events : after.events = db.events
  insightStates : after.insightStates = db.insightStates
  alertRules : after.alertRules = db.alertRules

theorem SameRows.refl (db : Database) : SameRows db db :=
  ⟨rfl, rfl, rfl, rfl, rfl, rfl, rfl⟩

theorem SameRows.trans {first second third : Database} (before : SameRows first second)
    (after : SameRows second third) : SameRows first third :=
  ⟨after.hosts.trans before.hosts, after.domains.trans before.domains,
    after.certificates.trans before.certificates, after.services.trans before.services,
    after.events.trans before.events, after.insightStates.trans before.insightStates,
    after.alertRules.trans before.alertRules⟩

theorem SameRows.orgOf {db after : Database} (same : SameRows db after)
    (entity : AlertedEntity) : after.orgOf entity = db.orgOf entity := by
  cases entity <;> simp only [Database.orgOf, same.hosts, same.domains, same.services,
    same.events]

theorem SameRows.due {db after : Database} (same : SameRows db after)
    (event : AlertEvent) : due after event = ServersManager.due db event := by
  simp only [ServersManager.due, same.orgOf, same.alertRules]

/-- Nothing but these pairs has been served, and nothing has happened. -/
structure Serves (pairs : List (Nat × Nat)) (before after : Serving) : Prop where
  rows : SameRows before.database after.database
  owed : after.owed = before.owed
  served : after.served = before.served ++ pairs

theorem Serves.refl (state : Serving) : Serves [] state state :=
  ⟨.refl _, rfl, (List.append_nil _).symm⟩

theorem Serves.trans {pairs others : List (Nat × Nat)} {first second third : Serving}
    (before : Serves pairs first second) (after : Serves others second third) :
    Serves (pairs ++ others) first third := by
  refine ⟨before.rows.trans after.rows, after.owed.trans before.owed, ?_⟩
  rw [after.served, before.served, List.append_assoc]

/-- The calls that write none of these rows. -/
def Call.Bystander : Call → Prop
  | .query q =>
      q.writesHosts = false ∧ q.writesDomains = false ∧ q.writesCertificates = false ∧
        q.writesServices = false ∧ q.writesEvents = false ∧ q.writesInsights = false
  | _ => True

section Answers

variable {call : Call} {before after : Serving} {reply : Except JsError call.Reply}

theorem Call.Bystander.happening {call : Call} (bystander : call.Bystander)
    (db : Database) (reply : Except JsError call.Reply) :
    happening db call reply = none := by
  cases call with
  | query q =>
      obtain ⟨hosts, -, certificates, services, events, insights⟩ := bystander
      cases q with
      | saveHost row => cases hosts
      | saveCertificate row => cases certificates
      | insertService row => cases services
      | saveService row => cases services
      | saveEvent row => cases events
      | insertInsight row => cases insights
      | saveInsight row => cases insights
      | _ => rfl
  | _ => rfl

/-- No query writes a rule. -/
theorem Database.perform_alertRules {db : Database} {query : Query} :
    (db.perform query).2.alertRules = db.alertRules := by
  cases query <;>
    first
      | rfl
      | exact Database.answer_frame Database.alertRules _ _ fun _ => rfl

theorem Call.Bystander.serves (bystander : call.Bystander)
    (answered : servingAnswers call before reply after) :
    Serves (servedBy call reply) before after := by
  obtain ⟨-, ⟨db, performed, clock, same⟩, owed, served⟩ := answered
  refine ⟨?_, ?_, served⟩
  · rw [same]
    constructor
    · apply performed.field Database.hosts
      rintro q rfl
      exact Database.perform_hosts bystander.1
    · apply performed.field Database.domains
      rintro q rfl
      exact Database.perform_domains bystander.2.1
    · apply performed.field Database.certificates
      rintro q rfl
      exact Database.perform_certificates bystander.2.2.1
    · apply performed.field Database.services
      rintro q rfl
      exact Database.perform_services bystander.2.2.2.1
    · apply performed.field Database.events
      rintro q rfl
      exact Database.perform_events bystander.2.2.2.2.1
    · apply performed.field Database.insightStates
      rintro q rfl
      exact Database.perform_insights bystander.2.2.2.2.2
    · apply performed.field Database.alertRules
      rintro q rfl
      exact Database.perform_alertRules
  · rw [owed, bystander.happening]
    exact List.append_nil _

/-- The calls that serve no rule either. -/
structure Call.Idle (call : Call) : Prop where
  bystander : call.Bystander
  serves : ∀ reply, servedBy call reply = []

theorem Call.Idle.keeps (idle : call.Idle)
    (answered : servingAnswers call before reply after) : Serves [] before after := by
  have serves := idle.bystander.serves answered
  rwa [idle.serves] at serves

end Answers

/-- A part of a job in which nothing happens. -/
theorem idle_serves {α : Type} {program : Job α} (only : program.Only Call.Idle)
    (state : Serving) :
    program.Ensures servingAnswers (fun _ after => Serves [] state after) state := by
  apply only.followsKeeping (Serves [] state) (fun _ _ _ _ => trivial) ?_ ?_ (.refl state)
  · intro reached call reply after serves idle answered
    exact serves.trans (idle.keeps answered)
  · exact Program.ends_of_all fun outcome after serves => serves

/-! ### Evaluations -/

/-- The rules that an evaluation of a condition finds, for the entity it is about. -/
def rulePairs (db : Database) (orgId : Nat) (entityType : AlertEntityType)
    (condition : String) (entityId : Nat) : List (Nat × Nat) :=
  (db.alertRules.find fun rule =>
    rule.orgId == orgId && rule.entityType == entityType && rule.condition == condition &&
      rule.enabled).map fun rule => (rule.id, entityId)

theorem SameRows.rulePairs {db after : Database} (same : SameRows db after) (orgId : Nat)
    (entityType : AlertEntityType) (condition : String) (entityId : Nat) :
    rulePairs after orgId entityType condition entityId =
      ServersManager.rulePairs db orgId entityType condition entityId := by
  unfold ServersManager.rulePairs
  rw [same.alertRules]

section Evaluations

variable (platform : Platform) (rule : AlertRule) (entityId : Nat) (message : String)

/-- The log of an attempt serves the rule. -/
theorem writeLog_serves (success : Bool) (error : Option String) (state : Serving) :
    (writeLog rule entityId message success error).Ensures servingAnswers
      (fun outcome after => outcome = .ok () ∧ Serves [(rule.id, entityId)] state after)
      state := by
  apply (Program.follows_tryCatch _ _ _ _ _).mpr
  apply Program.ensures_perform_bind
  · intro log after answered
    refine ⟨rfl, ?_⟩
    have bystander : Call.Bystander (.query (.saveAlertLog
        { id := 0
          alertRuleId := rule.id
          entityType := rule.entityType
          entityId := entityId
          message := message
          deliveryStatus := if success then .sent else .failed
          error := error
          firedAt := 0 })) := ⟨rfl, rfl, rfl, rfl, rfl, rfl⟩
    exact bystander.serves answered
  · intro error after answered
    exact answered.1.elim

/-- A recent send serves the rule, and then only the rule is skipped. -/
theorem isWithinCooldown_serves (state : Serving) :
    (isWithinCooldown rule entityId).Ensures servingAnswers
      (fun outcome after =>
        (outcome = .ok true ∧ Serves [(rule.id, entityId)] state after) ∨
          outcome ≠ .ok true ∧ Serves [] state after) state := by
  have asks : Call.Bystander .now := trivial
  apply Program.ensures_perform_bind
  · intro time timed answered
    have read : Serves [] state timed := asks.serves answered
    apply Program.ensures_perform_bind
    · intro recentSend after found
      have looks : ∀ cutoff,
          Call.Bystander (.query (.findRecentSend rule.id entityId cutoff)) :=
        fun _ => ⟨rfl, rfl, rfl, rfl, rfl, rfl⟩
      have serves := read.trans ((looks _).serves found)
      cases recentSend with
      | none => exact .inr ⟨nofun, serves⟩
      | some log => exact .inl ⟨rfl, serves⟩
    · intro error after found
      exact found.1.elim
  · intro error after answered
    exact .inr ⟨nofun, asks.serves answered⟩

/-- Whatever becomes of a delivery, it serves no rule by itself. -/
theorem sendAlert_idle (channel : AlertChannel) (config : Json) :
    (sendAlert channel message config).Only Call.Idle := by
  apply (sendAlert_posts channel message config).mono
  rintro _ ⟨url, body, rfl⟩
  exact ⟨trivial, fun _ => rfl⟩

theorem evaluateRule_serves (state : Serving) :
    (evaluateRule platform rule entityId message).Ensures servingAnswers
      (fun outcome after => outcome = .ok () ∧ Serves [(rule.id, entityId)] state after)
      state := by
  -- An attempt that comes to its log, from wherever nothing has been served yet.
  have logs : ∀ success error middle, Serves [] state middle →
      (writeLog rule entityId message success error).Ensures servingAnswers
        (fun outcome after => outcome = .ok () ∧
          Serves [(rule.id, entityId)] state after) middle := by
    intro success error middle unserved
    apply Program.Follows.mono (writeLog_serves rule entityId message success error middle)
    rintro outcome after ⟨rfl, served⟩
    exact ⟨rfl, unserved.trans served⟩
  apply (Program.follows_tryCatch _ _ _ _ _).mpr
  apply (Program.follows_bind _ _ _ _ _).mpr
  apply Program.Follows.mono (isWithinCooldown_serves rule entityId state)
  rintro outcome after (⟨rfl, served⟩ | ⟨notCooling, unserved⟩)
  · exact ⟨rfl, served⟩
  · rcases outcome with error | _ | _
    · exact logs false _ after unserved
    · apply (Program.follows_bind _ _ _ _ _).mpr
      apply (Program.follows_ofExcept _ _ _ _).mpr
      cases parseChannelConfig platform rule with
      | error error => exact logs false _ after unserved
      | ok channelConfig =>
          apply (Program.follows_bind _ _ _ _ _).mpr
          apply Program.Follows.mono
            (idle_serves (sendAlert_idle message rule.channel channelConfig) after)
          rintro (error | result) sent unservedSent
          · exact logs false _ sent (unserved.trans unservedSent)
          · apply Program.Follows.mono
              (logs result.success result.error sent (unserved.trans unservedSent))
            rintro outcome last ⟨rfl, served⟩
            exact ⟨rfl, served⟩
    · exact absurd rfl notCooling

theorem evaluateRules_serves (rules : List AlertRule) (state : Serving) :
    (evaluateRules platform entityId message rules).Ensures servingAnswers
      (fun outcome after => outcome = .ok () ∧
        Serves (rules.map fun rule => (rule.id, entityId)) state after) state := by
  induction rules generalizing state with
  | nil => exact ⟨rfl, .refl state⟩
  | cons rule rules inductionHypothesis =>
      apply (Program.follows_bind _ _ _ _ _).mpr
      apply Program.Follows.mono (evaluateRule_serves platform rule entityId message state)
      rintro outcome middle ⟨rfl, served⟩
      apply Program.Follows.mono (inductionHypothesis middle)
      rintro outcome after ⟨rfl, servedRest⟩
      exact ⟨rfl, served.trans servedRest⟩

/-- All the rules that are found are served. -/
theorem dispatch_serves (orgId : Nat) (entityType : AlertEntityType) (condition : String)
    (state : Serving) :
    (dispatch platform orgId entityType entityId condition message).Ensures servingAnswers
      (fun outcome after => outcome = .ok () ∧
        Serves (rulePairs state.database orgId entityType condition entityId) state after)
      state := by
  have looks : Call.Bystander (.query (.findAlertRules orgId entityType condition)) :=
    ⟨rfl, rfl, rfl, rfl, rfl, rfl⟩
  apply Program.ensures_perform_bind
  · intro rules found answered
    have read : Serves [] state found := looks.serves answered
    obtain ⟨-, ⟨db, ⟨error, -, absent, -⟩ | ⟨replied, -⟩, -⟩, -⟩ := answered
    · cases absent
    · cases replied
      apply Program.Follows.mono (evaluateRules_serves platform entityId message _ found)
      rintro outcome after ⟨rfl, served⟩
      exact ⟨rfl, read.trans served⟩
  · intro error after answered
    exact answered.1.elim

/-- What evaluating a transition finds: nothing where there is none. -/
def EvaluateTransitionInput.pairs (input : EvaluateTransitionInput) (db : Database) :
    List (Nat × Nat) :=
  if input.previousStatus = input.newStatus then []
  else match buildTransitionCondition input.entityType input.newStatus with
    | none => []
    | some condition =>
        ServersManager.rulePairs db input.orgId input.entityType condition input.entityId

theorem SameRows.inputPairs {db after : Database} (same : SameRows db after)
    (input : EvaluateTransitionInput) : input.pairs after = input.pairs db := by
  unfold EvaluateTransitionInput.pairs
  simp only [same.rulePairs]

theorem evaluateTransition_serves (input : EvaluateTransitionInput) (state : Serving) :
    (evaluateTransition platform input).Ensures servingAnswers
      (fun outcome after => outcome = .ok () ∧ Serves (input.pairs state.database) state after)
      state := by
  apply (Program.follows_tryCatch _ _ _ _ _).mpr
  unfold EvaluateTransitionInput.pairs
  split
  · exact ⟨rfl, .refl state⟩
  · cases built : buildTransitionCondition input.entityType input.newStatus with
    | none => exact ⟨rfl, .refl state⟩
    | some condition =>
        apply Program.Follows.mono (dispatch_serves platform input.entityId _ input.orgId
          input.entityType condition state)
        rintro outcome after ⟨rfl, served⟩
        exact ⟨rfl, served⟩

theorem evaluateDirectCondition_serves (input : EvaluateDirectConditionInput)
    (state : Serving) :
    (evaluateDirectCondition platform input).Ensures servingAnswers
      (fun outcome after => outcome = .ok () ∧
        Serves (rulePairs state.database input.orgId input.entityType input.condition
          input.entityId) state after) state := by
  apply (Program.follows_tryCatch _ _ _ _ _).mpr
  apply Program.Follows.mono (dispatch_serves platform input.entityId input.message
    input.orgId input.entityType input.condition state)
  rintro outcome after ⟨rfl, served⟩
  exact ⟨rfl, served⟩

end Evaluations

/-! ### What is due is what is found -/

/-- Among paired rules, those of the entity's organization are found by whoever evaluates
their condition for the type of entity that it is about. -/
theorem due_eq_rulePairs {db : Database} (paired : RulesPaired db) {event : AlertEvent}
    {orgId : Nat} {entityType : AlertEntityType}
    (produces : Produces entityType event.condition)
    (owned : db.orgOf event.entity = some orgId) :
    due db event = rulePairs db orgId entityType event.condition event.entity.entityId := by
  have same : db.alertRules.find (fun rule => db.orgOf event.entity == some rule.orgId &&
      rule.condition == event.condition && rule.enabled) =
        db.alertRules.find fun rule => rule.orgId == orgId &&
          rule.entityType == entityType && rule.condition == event.condition &&
            rule.enabled := by
    apply List.filter_congr
    intro rule member
    have typed := produces _ (paired rule member)
    rw [owned, Bool.eq_iff_iff]
    simp only [Bool.and_eq_true, beq_iff_eq, Option.some.injEq]
    constructor
    · rintro ⟨⟨rfl, matched⟩, enabled⟩
      exact ⟨⟨⟨rfl, typed matched⟩, matched⟩, enabled⟩
    · rintro ⟨⟨⟨rfl, -⟩, matched⟩, enabled⟩
      exact ⟨⟨rfl, matched⟩, enabled⟩
  unfold due rulePairs
  rw [same]

/-- Nothing is found for a condition that no rule can have. -/
theorem rulePairs_eq_nil {db : Database} (paired : RulesPaired db) {condition : String}
    (unknown : ∀ option ∈ alertConditionOptions, option.1 ≠ condition) (orgId : Nat)
    (entityType : AlertEntityType) (entityId : Nat) :
    rulePairs db orgId entityType condition entityId = [] := by
  apply List.map_eq_nil_iff.mpr
  apply List.filter_eq_nil_iff.mpr
  intro rule member matched
  simp only [Bool.and_eq_true, beq_iff_eq] at matched
  exact unknown _ (paired rule member) matched.1.2

/-- Nothing is due for an entity that nobody owns. -/
theorem due_unowned {db : Database} {event : AlertEvent}
    (unowned : db.orgOf event.entity = none) : due db event = [] := by
  apply List.map_eq_nil_iff.mpr
  apply List.filter_eq_nil_iff.mpr
  intro rule member matched
  simp only [Bool.and_eq_true, beq_iff_eq] at matched
  rw [unowned] at matched
  cases matched.1.1

/-! ### Accounts -/

/-- A service belongs to the organization of its host. -/
def Placed (hosts : Table Host) (services : Table Service) : Prop :=
  ∀ service ∈ services, (hosts.byId service.hostId).map Host.orgId = some service.orgId

/-- The hosts and the domains are these, the rules are paired, and what has been served is
what has been owed, up to what is served early and what is late. -/
structure Account (hosts : Table Host) (domains : Table Domain)
    (early late : List (Nat × Nat)) (state : Serving) : Prop where
  sameHosts : state.database.hosts = hosts
  sameDomains : state.database.domains = domains
  paired : RulesPaired state.database
  placed : Placed hosts state.database.services
  balance : state.served ++ late = state.owed ++ early

variable {hosts after : Table Host} {domains : Table Domain}
  {early late pairs : List (Nat × Nat)} {state next : Serving} {α β : Type}

theorem RulesPaired.same {db after : Database} (paired : RulesPaired db)
    (same : after.alertRules = db.alertRules) : RulesPaired after := by
  unfold RulesPaired
  rw [same]
  exact paired

/-- What stands in an account is kept where nothing happens. -/
theorem Account.rows (account : Account hosts domains early late state)
    (serves : Serves pairs state next) :
    next.database.hosts = hosts ∧ next.database.domains = domains ∧
      RulesPaired next.database ∧ Placed hosts next.database.services := by
  refine ⟨serves.rows.hosts.trans account.sameHosts,
    serves.rows.domains.trans account.sameDomains,
    account.paired.same serves.rows.alertRules, ?_⟩
  rw [serves.rows.services]
  exact account.placed

theorem Account.idle (account : Account hosts domains early late state)
    (serves : Serves [] state next) : Account hosts domains early late next := by
  obtain ⟨sameHosts, sameDomains, paired, placed⟩ := account.rows serves
  refine ⟨sameHosts, sameDomains, paired, placed, ?_⟩
  rw [serves.served, serves.owed, List.append_nil]
  exact account.balance

/-- What is late is served. -/
theorem Account.settled (account : Account hosts domains [] late state)
    (serves : Serves late state next) : Account hosts domains [] [] next := by
  obtain ⟨sameHosts, sameDomains, paired, placed⟩ := account.rows serves
  refine ⟨sameHosts, sameDomains, paired, placed, ?_⟩
  rw [serves.served, serves.owed, List.append_nil]
  exact account.balance

/-- What is not yet due is served. -/
theorem Account.ahead (account : Account hosts domains [] [] state)
    (serves : Serves early state next) : Account hosts domains early [] next := by
  obtain ⟨sameHosts, sameDomains, paired, placed⟩ := account.rows serves
  refine ⟨sameHosts, sameDomains, paired, placed, ?_⟩
  have balance := account.balance
  rw [List.append_nil, List.append_nil] at balance
  rw [serves.served, serves.owed, List.append_nil, balance]

section Writes

variable {call : Call} {reply : Except JsError call.Reply}

theorem servingAnswers.alertRules (answered : servingAnswers call state reply next) :
    next.database.alertRules = state.database.alertRules := by
  obtain ⟨-, ⟨db, performed, clock, same⟩, -⟩ := answered
  rw [same]
  apply performed.field Database.alertRules
  rintro q rfl
  exact Database.perform_alertRules

/-- A write makes evaluations due. -/
theorem Account.owes (account : Account hosts domains [] [] state)
    (answered : servingAnswers call state reply next) (serves : servedBy call reply = [])
    (sameHosts : next.database.hosts = after)
    {domainsAfter : Table Domain} (sameDomains : next.database.domains = domainsAfter)
    (placed : Placed after next.database.services) :
    Account after domainsAfter []
      ((happening state.database call reply).toList.flatMap (due next.database)) next := by
  refine ⟨sameHosts, sameDomains, account.paired.same answered.alertRules, placed, ?_⟩
  obtain ⟨-, -, owed, served⟩ := answered
  have balance := account.balance
  rw [List.append_nil, List.append_nil] at balance
  rw [served, serves, owed, List.append_nil, List.append_nil, balance]

/-- A write makes due what has been served already. -/
theorem Account.repays (account : Account hosts domains early [] state)
    (answered : servingAnswers call state reply next) (serves : servedBy call reply = [])
    (expected :
      (happening state.database call reply).toList.flatMap (due next.database) = early)
    (sameHosts : next.database.hosts = hosts) (sameDomains : next.database.domains = domains)
    (sameServices : next.database.services = state.database.services) :
    Account hosts domains [] [] next := by
  refine ⟨sameHosts, sameDomains, account.paired.same answered.alertRules, ?_, ?_⟩
  · rw [sameServices]
    exact account.placed
  obtain ⟨-, -, owed, served⟩ := answered
  have balance := account.balance
  rw [List.append_nil] at balance
  rw [served, serves, owed, expected, List.append_nil, List.append_nil, List.append_nil,
    balance]

end Writes

/-! ### Programs -/

/-- Wherever nothing is early or late, nothing is when the program has ended. -/
def Squares (hosts : Table Host) (domains : Table Domain) (program : Job α) : Prop :=
  ∀ state, Account hosts domains [] [] state →
    program.Ensures servingAnswers (fun _ after => Account hosts domains [] [] after) state

namespace Squares

theorem pure (value : α) : Squares hosts domains (Program.pure value) :=
  fun _ account => account

theorem throw (error : JsError) : Squares hosts domains (Program.throw error : Job α) :=
  fun _ account => account

theorem ofExcept_bind {outcome : Except JsError α} {rest : α → Job β}
    (squaresRest : ∀ value, outcome = .ok value → Squares hosts domains (rest value)) :
    Squares hosts domains ((Program.ofExcept outcome).bind rest) := by
  cases outcome with
  | error error => exact throw error
  | ok value => exact squaresRest value rfl

theorem bind {program : Job α} {rest : α → Job β}
    (squares : Squares hosts domains program)
    (squaresRest : ∀ value, Squares hosts domains (rest value)) :
    Squares hosts domains (program.bind rest) := by
  intro state account
  apply (Program.follows_bind _ _ _ _ _).mpr
  apply Program.Follows.mono (squares state account)
  rintro (error | value) after accountAfter
  · exact accountAfter
  · exact squaresRest value after accountAfter

theorem idle {program : Job α} (only : program.Only Call.Idle) :
    Squares hosts domains program := by
  intro state account
  apply Program.Follows.mono (idle_serves only state)
  intro outcome after serves
  exact account.idle serves

end Squares

/-- A part of a job in which nothing happens, and what comes after it. -/
theorem idle_bind {program : Job α} {rest : α → Job β}
    {post : Except JsError β → Serving → Prop} (only : program.Only Call.Idle)
    (fails : ∀ error after, Serves [] state after → post (.error error) after)
    (continues : ∀ value after, Serves [] state after →
      (rest value).Ensures servingAnswers post after) :
    (program.bind rest).Ensures servingAnswers post state := by
  apply (Program.follows_bind _ _ _ _ _).mpr
  apply Program.Follows.mono (idle_serves only state)
  rintro (error | value) after serves
  · exact fails error after serves
  · exact continues value after serves

/-- A query that writes none of the rows, and what it finds. -/
theorem read_bind {q : Query} {rest : q.Reply → Job β}
    {post : Except JsError β → Serving → Prop} (idle : Call.Idle (.query q))
    (continues : ∀ value after, (state.database.perform q).1 = .ok value →
      Serves [] state after → (rest value).Ensures servingAnswers post after) :
    ((query q).bind rest).Ensures servingAnswers post state := by
  apply Program.ensures_perform_bind
  · intro value after answered
    have serves := idle.keeps answered
    obtain ⟨-, ⟨db, ⟨error, -, absent, -⟩ | ⟨replied, -⟩, -⟩, -⟩ := answered
    · cases absent
    · exact continues value after replied.symm serves
  · intro error after answered
    exact answered.1.elim

/-- A write, which succeeds, and what comes after it. -/
theorem write_bind {q : Query} {rest : q.Reply → Job β}
    {post : Except JsError β → Serving → Prop}
    (continues : ∀ value after, servingAnswers (.query q) state (.ok value) after →
      (rest value).Ensures servingAnswers post after) :
    ((query q).bind rest).Ensures servingAnswers post state := by
  apply Program.ensures_perform_bind
  · exact continues
  · intro error after answered
    exact answered.1.elim

/-- What a write that succeeds has made of the database. -/
theorem servingAnswers.written {q : Query} {value : q.Reply} {τ : Type} {written : Option τ}
    {update : τ → q.Reply × Database}
    (answered : servingAnswers (.query q) state (.ok value) next)
    (performs : state.database.perform q = state.database.answer (written.map update)) :
    ∃ row, written = some row ∧ value = (update row).1 ∧
      ∃ clock, next.database = { (update row).2 with clock := clock } := by
  obtain ⟨-, ⟨db, performed, clock, same⟩, -⟩ := answered
  rcases performed.written performs with ⟨error, absent, -⟩ | ⟨row, exists_, replied, rfl⟩
  · cases absent
  · exact ⟨row, exists_, Except.ok.inj replied, clock, same⟩

theorem idle_query {q : Query}
    (bystander : Call.Bystander (.query q)) (serves : ∀ reply, servedBy (.query q) reply = []) :
    Call.Idle (.query q) :=
  ⟨bystander, serves⟩

theorem now_idle : Call.Idle .now := ⟨trivial, fun _ => rfl⟩

theorem writeHealthCheckLog_idle (entityType : HealthCheckEntityType) (entityId : Nat)
    (status : String) (rawOutput : Json) :
    (writeHealthCheckLog entityType entityId status rawOutput).Only Call.Idle := by
  apply Program.only_perform
  exact idle_query ⟨rfl, rfl, rfl, rfl, rfl, rfl⟩ fun _ => rfl

/-! ### Changes of a status -/

theorem StatusChange.event_entity {change : StatusChange} {event : AlertEvent}
    (happened : change.event = some event) :
    event.entity = alertedEntity none change.entityType change.entityId := by
  unfold StatusChange.event at happened
  split at happened
  · cases happened
  · obtain ⟨condition, -, rfl⟩ := Option.map_eq_some_iff.mp happened
    rfl

/-- What a change makes due is what its evaluation finds. -/
theorem change_due {db : Database} (paired : RulesPaired db)
    {input : EvaluateTransitionInput}
    (owned : db.orgOf (alertedEntity none input.entityType input.entityId) =
      some input.orgId)
    (produces : ∀ condition,
      buildTransitionCondition input.entityType input.newStatus = some condition →
        Produces input.entityType condition) :
    input.change.event.toList.flatMap (due db) = input.pairs db := by
  unfold StatusChange.event EvaluateTransitionInput.pairs
  change List.flatMap (due db)
    (Option.toList (if input.previousStatus = input.newStatus then none else
      (buildTransitionCondition input.entityType input.newStatus).map fun condition =>
        { entity := alertedEntity none input.entityType input.entityId
          condition := condition })) = _
  split
  · rfl
  · cases built : buildTransitionCondition input.entityType input.newStatus with
    | none => rfl
    | some condition =>
        change (due db _ ++ []) = _
        rw [List.append_nil, due_eq_rulePairs paired (produces condition built) owned]
        cases input.entityType <;> rfl

end ServersManager
