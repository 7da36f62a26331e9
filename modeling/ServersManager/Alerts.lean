/-
Module: ServersManager.Alerts
Purpose: Evaluation and delivery of alerts.
Trusted boundary: none
Main exports:
  buildTransitionCondition, buildAlertMessage, sendSlack, sendEmail, evaluateRule,
  dispatch, evaluateTransition, evaluateDirectCondition, Call.OfAlerts,
  evaluateTransition_only, evaluateDirectCondition_only, evaluateTransition_keeps
-/
import ServersManager.Calls

namespace ServersManager

open Library

/-! ### `alerts/alert-condition-builder.ts`, `alerts/alert-message.builder.ts` -/

def buildTransitionCondition (entityType : AlertEntityType) (newStatus : String) :
    Option String :=
  match entityType with
  | .host => some ("host_status_transitioned_to:" ++ newStatus)
  | .sslCertificate => some ("ssl_status_transitioned_to:" ++ newStatus)
  | .service => some ("service_status_transitioned_to:" ++ newStatus)
  | .rollbackEvent => if newStatus = "failed" then some "rollback_event:failed" else none
  | .domain | .system => none

/-- The message of a transition: both statuses are present. -/
def buildAlertMessage (entityType : AlertEntityType) (entityId : Nat)
    (condition previousStatus newStatus : String) : String :=
  "[" ++ entityType.text ++ "] " ++ condition ++ " (entity " ++ toString entityId ++
    "): " ++ previousStatus ++ " -> " ++ newStatus

/-! ### `alerts/channels` -/

structure ChannelSendResult where
  success : Bool
  error : Option String
deriving Repr, Inhabited, DecidableEq

def slackWebhookTimeoutMs : Nat := 8000

def errorBodyPreviewLength : Nat := 500

def describeFetchError : JsError → String
  | .withCause text cause => text ++ ": " ++ cause
  | error => error.message

/-- The text of a failed delivery: the abort signal is the timeout's. -/
def describeDeliveryError : JsError → String
  | .abort _ => "Slack webhook POST timed out after " ++
      toString slackWebhookTimeoutMs ++ "ms"
  | error => describeFetchError error

/-- One `POST` to the webhook. -/
def postMessage (webhookUrl message : String) : Job ChannelSendResult := do
  let response ← request (.fetch webhookUrl
    (Json.stringify (.obj [("text", .str message)])))
  if 200 ≤ response.status ∧ response.status < 300 then
    return { success := true, error := none }
  let body := response.body.getD ""
  return { success := false
           error := some ("Slack webhook returned " ++ toString response.status ++
            ": " ++ String.ofList (sliceUnits errorBodyPreviewLength body.toList)) }

def missingWebhookUrl : ChannelSendResult :=
  { success := false
    error := some "Slack channel config is missing \"webhook_url\"" }

def sendSlack (message : String) (config : Json) : Job ChannelSendResult := do
  match ← Program.ofExcept (property config "webhook_url") with
  | some (.str webhookUrl) =>
      if trim webhookUrl = "" then return missingWebhookUrl
      tryCatch (postMessage webhookUrl message) fun error =>
        return { success := false, error := some (describeDeliveryError error) }
  | _ => return missingWebhookUrl

def sendEmail (_message : String) (_config : Json) : Job ChannelSendResult :=
  return { success := false
           error := some
            "Email channel not yet configured (no SMTP infrastructure in this phase)" }

/-- `getAdapter(channel).send`. -/
def sendAlert (channel : AlertChannel) : String → Json → Job ChannelSendResult :=
  match channel with
  | .slack => sendSlack
  | .email => sendEmail

/-! ### `alerts/alert-evaluation.service.ts` -/

structure EvaluateTransitionInput where
  orgId : Nat
  entityType : AlertEntityType
  entityId : Nat
  previousStatus : String
  newStatus : String
deriving Repr, Inhabited, DecidableEq

structure EvaluateDirectConditionInput where
  orgId : Nat
  entityType : AlertEntityType
  entityId : Nat
  condition : String
  message : String
deriving Repr, Inhabited, DecidableEq

def isWithinCooldown (rule : AlertRule) (entityId : Nat) : Job Bool := do
  let cutoff := (← now) - rule.cooldownMinutes * 60000
  let recentSend ← query (.findRecentSend rule.id entityId cutoff)
  return recentSend.isSome

def writeLog (rule : AlertRule) (entityId : Nat) (message : String) (success : Bool)
    (error : Option String) : Job Unit :=
  tryCatch
    (do
      let _ ← query (.saveAlertLog
        { id := 0
          alertRuleId := rule.id
          entityType := rule.entityType
          entityId := entityId
          message := message
          deliveryStatus := if success then .sent else .failed
          error := error
          firedAt := 0 })
      return ())
    fun _ => return ()

def parseChannelConfig (platform : Platform) (rule : AlertRule) :
    Except JsError Json := do
  let text ← platform.decrypt rule.channelConfigEncrypted
  match Json.parse text with
  | some config => pure config
  | none => throw (.syntaxError text)

def evaluateRule (platform : Platform) (rule : AlertRule) (entityId : Nat)
    (message : String) : Job Unit :=
  tryCatch
    (do
      if ← isWithinCooldown rule entityId then
        return ()
      let channelConfig ← Program.ofExcept (parseChannelConfig platform rule)
      let result ← sendAlert rule.channel message channelConfig
      writeLog rule entityId message result.success result.error)
    fun error => writeLog rule entityId message false (some error.message)

/-- The loop of `dispatch`. -/
def evaluateRules (platform : Platform) (entityId : Nat) (message : String) :
    List AlertRule → Job Unit
  | [] => return ()
  | rule :: rules => do
      evaluateRule platform rule entityId message
      evaluateRules platform entityId message rules

def dispatch (platform : Platform) (orgId : Nat) (entityType : AlertEntityType)
    (entityId : Nat) (condition message : String) : Job Unit := do
  let rules ← query (.findAlertRules orgId entityType condition)
  evaluateRules platform entityId message rules

def evaluateTransition (platform : Platform) (input : EvaluateTransitionInput) :
    Job Unit :=
  tryCatch
    (do
      if input.previousStatus = input.newStatus then
        return ()
      match buildTransitionCondition input.entityType input.newStatus with
      | none => return ()
      | some condition =>
          let message := buildAlertMessage input.entityType input.entityId condition
            input.previousStatus input.newStatus
          dispatch platform input.orgId input.entityType input.entityId condition
            message)
    fun _ => return ()

def evaluateDirectCondition (platform : Platform)
    (input : EvaluateDirectConditionInput) : Job Unit :=
  tryCatch
    (dispatch platform input.orgId input.entityType input.entityId input.condition
      input.message)
    fun _ => return ()

/-! ### What evaluating alerts touches -/

/-- The calls that evaluating a transition may make. -/
def Call.OfAlerts : Call → Prop
  | .query (.findAlertRules _ _ _) => True
  | .query (.findRecentSend _ _ _) => True
  | .query (.saveAlertLog _) => True
  | .now => True
  | .fetch _ _ => True
  | _ => False

/-- No call of an evaluation writes a rollback event. -/
theorem Call.OfAlerts.writesEvents {call : Call} (ofAlerts : call.OfAlerts)
    (q : Query) (same : call = .query q) : q.writesEvents = false := by
  subst same
  cases q <;> first | rfl | cases ofAlerts

/-- The channels are reached by one HTTP call, or by none. -/
theorem sendAlert_only (channel : AlertChannel) (message : String) (config : Json) :
    (sendAlert channel message config).Only Call.OfAlerts := by
  cases channel with
  | email => trivial
  | slack =>
      refine Program.Only.bind Program.only_ofExcept fun webhookUrl => ?_
      split
      · split
        · trivial
        · refine Program.Only.tryCatch ?_ fun error => trivial
          refine Program.Only.bind (Program.only_perform trivial) fun response => ?_
          split <;> trivial
      · trivial

/-- A log writes a row of its own table. -/
theorem writeLog_only (rule : AlertRule) (entityId : Nat) (message : String)
    (success : Bool) (error : Option String) :
    (writeLog rule entityId message success error).Only Call.OfAlerts :=
  Program.Only.tryCatch
    (Program.Only.bind (Program.only_perform trivial) fun _ => trivial)
    fun _ => trivial

/-- Evaluating a rule asks for its cooldown, sends at most one message and writes at most
one log. -/
theorem evaluateRule_only (platform : Platform) (rule : AlertRule) (entityId : Nat)
    (message : String) :
    (evaluateRule platform rule entityId message).Only Call.OfAlerts := by
  refine Program.Only.tryCatch ?_ fun error => writeLog_only _ _ _ _ _
  refine Program.Only.bind ?_ fun cooling => ?_
  · exact Program.Only.bind (Program.only_perform trivial) fun time =>
      Program.Only.bind (Program.only_perform trivial) fun _ => trivial
  · split
    · trivial
    · exact Program.Only.bind Program.only_ofExcept fun config =>
        Program.Only.bind (sendAlert_only _ _ _) fun result => writeLog_only _ _ _ _ _

/-- The rules are evaluated one after another. -/
theorem evaluateRules_only (platform : Platform) (entityId : Nat) (message : String)
    (rules : List AlertRule) :
    (evaluateRules platform entityId message rules).Only Call.OfAlerts := by
  induction rules with
  | nil => trivial
  | cons rule rules inductionHypothesis =>
      exact Program.Only.bind (evaluateRule_only _ _ _ _) fun _ => inductionHypothesis

/-- What is dispatched goes to the rules of one organization. -/
theorem dispatch_only (platform : Platform) (orgId : Nat) (entityType : AlertEntityType)
    (entityId : Nat) (condition message : String) :
    (dispatch platform orgId entityType entityId condition message).Only
      Call.OfAlerts := by
  apply Program.Only.bind (Program.only_perform trivial)
  intro rules
  apply evaluateRules_only

/-- Conditions that hold by themselves make the calls of a dispatch. -/
theorem evaluateDirectCondition_only (platform : Platform)
    (input : EvaluateDirectConditionInput) :
    (evaluateDirectCondition platform input).Only Call.OfAlerts := by
  apply Program.Only.tryCatch
  · apply dispatch_only
  · intro error
    trivial

/-- Changes of status make them too, or no call at all. -/
theorem evaluateTransition_only (platform : Platform)
    (input : EvaluateTransitionInput) :
    (evaluateTransition platform input).Only Call.OfAlerts := by
  refine Program.Only.tryCatch ?_ fun error => trivial
  split
  · trivial
  · split
    · trivial
    · apply dispatch_only

/-- What no call of an evaluation changes, it leaves behind as it was, and returns. -/
theorem evaluateTransition_keeps {σ : Type} {sem : Semantics Calls JsError σ}
    (platform : Platform) (input : EvaluateTransitionInput) (Inv : σ → Prop)
    (keeps : ∀ state (call : Call) reply after, Inv state → call.OfAlerts →
      sem call state reply after → Inv after)
    {state : σ} (inv : Inv state) :
    (evaluateTransition platform input).Ensures sem
      (fun outcome after => ∃ value, outcome = .ok value ∧ Inv after) state := by
  apply (evaluateTransition_only platform input).followsKeeping Inv
  · intro ghost op holds ofAlerts
    trivial
  · intro ghost op reply after holds ofAlerts moves
    exact keeps ghost op reply after holds ofAlerts moves
  · unfold evaluateTransition
    rw [Program.tryCatch_eq, Program.ends_tryCatch]
    apply Program.ends_of_all
    intro outcome
    cases outcome with
    | ok value => exact fun ghost holds => ⟨value, rfl, holds⟩
    | error error => exact fun ghost holds => ⟨(), rfl, holds⟩
  · exact inv

end ServersManager
