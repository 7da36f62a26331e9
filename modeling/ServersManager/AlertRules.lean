/-
Module: ServersManager.AlertRules
Purpose: The rules that are accepted, and those among them whose entity type is the one
  under which their condition is evaluated.
Trusted boundary: none
Main exports:
  CreateAlertRuleDto, UpdateAlertRuleDto, createAlertRule, updateAlertRule,
  removeAlertRule, alertConditionOptions, RulesPaired, Produces, RuleRequest,
  RuleRequest.paired
-/
import ServersManager.InsightEdges
import ServersManager.Transitions

namespace ServersManager

open Library

/-! ### `alerts/dto` -/

/-- A field of a request's body that may be absent (`none`) or `null` (`some none`). -/
abbrev Field (α : Type) := Option (Option α)

structure CreateAlertRuleDto where
  name : String
  entityType : AlertEntityType
  condition : String
  channel : AlertChannel
  channelConfig : Json
  cooldownMinutes : Field Int
  enabled : Field Bool

structure UpdateAlertRuleDto where
  name : Field String
  entityType : Field AlertEntityType
  condition : Field String
  channel : Field AlertChannel
  channelConfig : Field Json
  cooldownMinutes : Field Int
  enabled : Field Bool

/-- `@IsOptional()`: a field that is absent or `null` is not validated. -/
def Field.Optional {α : Type} (field : Field α) (valid : α → Prop) : Prop :=
  ∀ value, field = some (some value) → valid value

/-- `@IsObject()`. -/
def IsObject (value : Json) : Prop :=
  ∃ members, value = .obj members

structure CreateAlertRuleDto.Accepted (dto : CreateAlertRuleDto) : Prop where
  name : dto.name ≠ ""
  condition : dto.condition ∈ alertConditions
  channelConfig : IsObject dto.channelConfig
  cooldownMinutes : dto.cooldownMinutes.Optional (1 ≤ ·)

/-- `PartialType` makes every field optional. -/
structure UpdateAlertRuleDto.Accepted (dto : UpdateAlertRuleDto) : Prop where
  name : dto.name.Optional (· ≠ "")
  condition : dto.condition.Optional (· ∈ alertConditions)
  channelConfig : dto.channelConfig.Optional IsObject
  cooldownMinutes : dto.cooldownMinutes.Optional (1 ≤ ·)

/-! ### `alerts/alerts.service.ts` -/

def defaultCooldownMinutes : Int := 30

/-- The value of a column that was `held` before: nothing is written to it where the
field is absent, and `null` is refused. -/
def Field.column {α : Type} (field : Field α) (held : α) : Option α :=
  field.getD (some held)

/-- The number fits into an `int` column. -/
def fitsInteger (value : Int) : Bool :=
  -2147483648 ≤ value ∧ value ≤ 2147483647

/-- Why a row is refused: a number out of range is noticed before a missing value. -/
def refusedColumns (cooldownMinutes : Option Int) : JsError :=
  if cooldownMinutes.all fitsInteger then
    .queryFailed "23502" "null value in column violates not-null constraint"
  else
    .queryFailed "22003" "value is out of range for type integer"

section Service

variable (platform : Platform) (iv : List UInt8)

/-- The configuration is encrypted under a fresh initialization vector. -/
def encryptConfig (config : Json) : String :=
  platform.encrypt iv (Json.stringify config)

/-- `AlertsService.create`.  The name of a rule is read by nobody here. -/
def createAlertRule (orgId : Nat) (dto : CreateAlertRuleDto) (db : Database) :
    Except JsError AlertRule × Database :=
  match (dto.cooldownMinutes.column defaultCooldownMinutes).filter fitsInteger,
    dto.enabled.column true with
  | some cooldownMinutes, some enabled =>
      db.answer ((db.alertRules.insert fun id =>
          { id := id
            orgId := orgId
            entityType := dto.entityType
            condition := dto.condition
            channel := dto.channel
            channelConfigEncrypted := encryptConfig platform iv dto.channelConfig
            cooldownMinutes := cooldownMinutes
            enabled := enabled }).map
        fun (row, rules) => (row, { db with alertRules := rules }))
  | _, _ =>
      (.error (refusedColumns (dto.cooldownMinutes.column defaultCooldownMinutes)), db)

/-- `AlertsService.findOneForOrgOrThrow`. -/
def findAlertRuleOrThrow (orgId id : Nat) (db : Database) : Except JsError AlertRule :=
  match db.alertRules.findOne fun rule => rule.id == id && rule.orgId == orgId with
  | some rule => .ok rule
  | none => .error (.notFound ("Alert rule " ++ toString id ++ " not found"))

/-- The row that an update saves; `none` where a column refuses its value.  A `null`
configuration is encrypted like any other. -/
def updatedRule (dto : UpdateAlertRuleDto) (rule : AlertRule) : Option AlertRule := do
  let _ ← dto.name.column ""
  let entityType ← dto.entityType.column rule.entityType
  let condition ← dto.condition.column rule.condition
  let channel ← dto.channel.column rule.channel
  let cooldownMinutes ←
    (dto.cooldownMinutes.column rule.cooldownMinutes).filter fitsInteger
  let enabled ← dto.enabled.column rule.enabled
  return { rule with
    entityType := entityType
    condition := condition
    channel := channel
    channelConfigEncrypted :=
      match dto.channelConfig with
      | none => rule.channelConfigEncrypted
      | some config => encryptConfig platform iv (config.getD .null)
    cooldownMinutes := cooldownMinutes
    enabled := enabled }

/-- `AlertsService.update`. -/
def updateAlertRule (orgId id : Nat) (dto : UpdateAlertRuleDto) (db : Database) :
    Except JsError AlertRule × Database :=
  match findAlertRuleOrThrow orgId id db with
  | .error error => (.error error, db)
  | .ok rule =>
      match updatedRule platform iv dto rule with
      | none =>
          (.error (refusedColumns (dto.cooldownMinutes.column rule.cooldownMinutes)), db)
      | some row =>
          db.answer ((db.alertRules.save row).map
            fun rules => (row, { db with alertRules := rules }))

end Service

/-- `AlertsService.remove`. -/
def removeAlertRule (orgId id : Nat) (db : Database) : Except JsError Unit × Database :=
  match findAlertRuleOrThrow orgId id db with
  | .error error => (.error error, db)
  | .ok rule => (.ok (),
      { db with alertRules := db.alertRules.removeRows fun other => other.id == rule.id })

/-! ### Conditions and their entity types -/

/-- `ALERT_CONDITION_OPTIONS` of the frontend. -/
def alertConditionOptions : List (String × AlertEntityType) :=
  [("host_status_transitioned_to:unreachable", .host),
    ("host_status_transitioned_to:degraded", .host),
    ("ssl_status_transitioned_to:expiring_soon", .sslCertificate),
    ("ssl_status_transitioned_to:expired", .sslCertificate),
    ("service_status_transitioned_to:crash_loop", .service),
    ("service_status_transitioned_to:unhealthy", .service),
    ("rollback_event:failed", .rollbackEvent),
    ("system:idle_host_detected", .system),
    ("system:orphan_detected", .system)]

/-- The options of the frontend mirror the conditions of the backend. -/
theorem alertConditionOptions_conditions :
    alertConditionOptions.map Prod.fst = alertConditions := rfl

def AlertRule.Paired (rule : AlertRule) : Prop :=
  (rule.condition, rule.entityType) ∈ alertConditionOptions

def RulesPaired (db : Database) : Prop :=
  ∀ rule ∈ db.alertRules, rule.Paired

/-- Whoever evaluates a condition for this type of entity finds every rule about it that
is paired. -/
def Produces (entityType : AlertEntityType) (condition : String) : Prop :=
  ∀ option ∈ alertConditionOptions, option.1 = condition → option.2 = entityType

/-- The transitions of a host are produced for hosts. -/
theorem produces_host (status : HostStatus) :
    Produces .host ("host_status_transitioned_to:" ++ status.text) := by
  unfold Produces
  cases status <;> decide

/-- Those of a certificate for certificates. -/
theorem produces_sslCertificate (status : SslCertificateStatus) :
    Produces .sslCertificate ("ssl_status_transitioned_to:" ++ status.text) := by
  unfold Produces
  cases status <;> decide

/-- Those of a service for services. -/
theorem produces_service (status : ServiceStatus) :
    Produces .service ("service_status_transitioned_to:" ++ status.text) := by
  unfold Produces
  cases status <;> decide

/-- A rollback produces its failure. -/
theorem produces_rollbackEvent : Produces .rollbackEvent "rollback_event:failed" := by
  unfold Produces
  decide

/-- Every flag of the insights is produced for the system. -/
theorem produces_system (flag : InsightFlag) : Produces .system (conditionForFlag flag) := by
  unfold Produces
  cases flag <;> decide

/-! ### Requests -/

inductive RuleRequest where
  | create (orgId : Nat) (dto : CreateAlertRuleDto)
  | update (orgId id : Nat) (dto : UpdateAlertRuleDto)
  | remove (orgId id : Nat)

/-- The request has passed the validation of its body. -/
def RuleRequest.Accepted : RuleRequest → Prop
  | .create _ dto => dto.Accepted
  | .update _ _ dto => dto.Accepted
  | .remove _ _ => True

/-- What the request makes of the database. -/
def RuleRequest.perform (platform : Platform) (iv : List UInt8) (db : Database) :
    RuleRequest → Database
  | .create orgId dto => (createAlertRule platform iv orgId dto db).2
  | .update orgId id dto => (updateAlertRule platform iv orgId id dto db).2
  | .remove orgId id => (removeAlertRule orgId id db).2

/-- The condition and the entity type that the request leaves a rule with are a pair:
both given, or one given and one kept. -/
def RuleRequest.Pairs (db : Database) : RuleRequest → Prop
  | .create _ dto => (dto.condition, dto.entityType) ∈ alertConditionOptions
  | .update orgId id dto => ∀ rule, findAlertRuleOrThrow orgId id db = .ok rule →
      ∀ condition entityType, dto.condition.column rule.condition = some condition →
        dto.entityType.column rule.entityType = some entityType →
          (condition, entityType) ∈ alertConditionOptions
  | .remove _ _ => True

variable {platform : Platform} {iv : List UInt8} {db : Database}

/-- An updated rule is paired where its new columns are. -/
theorem updatedRule_paired {dto : UpdateAlertRuleDto} {rule row : AlertRule}
    (updated : updatedRule platform iv dto rule = some row)
    (pairs : ∀ condition entityType, dto.condition.column rule.condition = some condition →
      dto.entityType.column rule.entityType = some entityType →
        (condition, entityType) ∈ alertConditionOptions) : row.Paired := by
  simp only [updatedRule, Option.bind_eq_bind, Option.bind_eq_some_iff, Option.pure_def,
    Option.some.injEq] at updated
  obtain ⟨name, -, entityType, typed, condition, conditioned, channel, -, cooldownMinutes,
    -, enabled, -, rfl⟩ := updated
  exact pairs condition entityType conditioned typed

/-- An update that pairs keeps the rules paired. -/
theorem updateAlertRule_paired {orgId id : Nat} {dto : UpdateAlertRuleDto}
    (paired : RulesPaired db) (pairs : (RuleRequest.update orgId id dto).Pairs db) :
    RulesPaired (updateAlertRule platform iv orgId id dto db).2 := by
  unfold updateAlertRule
  split
  · exact paired
  · next rule found =>
    split
    · exact paired
    · next row updated =>
      apply Database.answer_keeps RulesPaired paired
      intro rules saved other member
      rcases (Table.mem_save saved).mp member with rfl | ⟨member, -⟩
      · exact updatedRule_paired updated (pairs rule found)
      · exact paired other member

/-- So does a rule that is created. -/
theorem createAlertRule_paired {orgId : Nat} {dto : CreateAlertRuleDto}
    (paired : RulesPaired db) (pairs : (RuleRequest.create orgId dto).Pairs db) :
    RulesPaired (createAlertRule platform iv orgId dto db).2 := by
  unfold createAlertRule
  split
  · apply Database.answer_keeps RulesPaired paired
    rintro ⟨row, rules⟩ inserted other member
    rcases (Table.mem_insert rfl inserted).mp member with rfl | member
    · rw [(Table.insert_eq_some.mp inserted).1]
      exact pairs
    · exact paired other member
  · exact paired

/-- Rules stay paired as long as every request leaves a pair. -/
theorem RuleRequest.paired (request : RuleRequest) (paired : RulesPaired db)
    (pairs : request.Pairs db) : RulesPaired (request.perform platform iv db) := by
  cases request with
  | create orgId dto => exact createAlertRule_paired paired pairs
  | update orgId id dto => exact updateAlertRule_paired paired pairs
  | remove orgId id =>
      change RulesPaired (removeAlertRule orgId id db).2
      unfold removeAlertRule
      split
      · exact paired
      · intro other member
        exact paired other (Table.mem_removeRows.mp member).1

/-- Requests are about the rules only. -/
theorem RuleRequest.perform_rules (request : RuleRequest) :
    ∃ rules, request.perform platform iv db = { db with alertRules := rules } := by
  have answers : ∀ {τ : Type} (written : Option τ) (update : τ → AlertRule × Database),
      (∀ value, ∃ rules, (update value).2 = { db with alertRules := rules }) →
        ∃ rules, (db.answer (written.map update)).2 = { db with alertRules := rules } := by
    intro τ written update updates
    exact Database.answer_keeps (fun after => ∃ rules, after = { db with alertRules := rules })
      ⟨db.alertRules, rfl⟩ fun value _ => updates value
  cases request with
  | create orgId dto =>
      change ∃ rules, (createAlertRule platform iv orgId dto db).2 = _
      unfold createAlertRule
      split
      · exact answers _ _ fun value => ⟨_, rfl⟩
      · exact ⟨db.alertRules, rfl⟩
  | update orgId id dto =>
      change ∃ rules, (updateAlertRule platform iv orgId id dto db).2 = _
      unfold updateAlertRule
      split
      · exact ⟨db.alertRules, rfl⟩
      · split
        · exact ⟨db.alertRules, rfl⟩
        · exact answers _ _ fun value => ⟨_, rfl⟩
  | remove orgId id =>
      change ∃ rules, (removeAlertRule orgId id db).2 = _
      unfold removeAlertRule
      split
      · exact ⟨db.alertRules, rfl⟩
      · exact ⟨_, rfl⟩

end ServersManager
