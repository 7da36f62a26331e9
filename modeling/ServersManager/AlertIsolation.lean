/-
Module: ServersManager.AlertIsolation
Purpose: The alert evaluation service over collaborators that may fail in any way, and
  that each matching rule is processed on its own.
Trusted boundary: none
Main exports:
  AlertEvaluationService.evaluateTransition, AlertEvaluationService.evaluateDirectCondition,
  AlertEvaluationService.Processed, AlertEvaluationService.evaluation_isolated,
  AlertEvaluationService.evaluateTransition_interpreted
-/
import ServersManager.Alerts
import ServersManager.Library.Conversation

namespace ServersManager

open Library

namespace AlertEvaluationService

/-! ### Collaborators -/

/-- What the service asks of the rule and the log repository, the clock, the crypto
service and the channel adapters. -/
inductive Collaboration where
  | find (orgId : Nat) (entityType : AlertEntityType) (condition : String)
  | now
  | findRecentSend (alertRuleId entityId : Nat) (cutoff : Date)
  | decrypt (ciphertext : String)
  | send (channel : AlertChannel) (message : String) (config : Json)
  | save (log : AlertLog)

abbrev Collaboration.Reply : Collaboration → Type
  | .find _ _ _ => List AlertRule
  | .now => Date
  | .findRecentSend _ _ _ => Option AlertLog
  | .decrypt _ => String
  | .send _ _ _ => ChannelSendResult
  | .save _ => AlertLog

def Collaborators : Signature where
  Call := Collaboration
  Reply := Collaboration.Reply

/-- A method of the service. -/
abbrev Method (α : Type) := Program Collaborators JsError α

def ask (call : Collaboration) : Method call.Reply :=
  Program.perform (S := Collaborators) call

/-! ### `alerts/alert-evaluation.service.ts` -/

def isWithinCooldown (rule : AlertRule) (entityId : Nat) : Method Bool := do
  let cutoff := (← ask .now) - rule.cooldownMinutes * 60000
  let recentSend ← ask (.findRecentSend rule.id entityId cutoff)
  return recentSend.isSome

/-- The log entry of an attempt. -/
def attemptLog (rule : AlertRule) (entityId : Nat) (message : String) (success : Bool)
    (error : Option String) : AlertLog :=
  { id := 0
    alertRuleId := rule.id
    entityType := rule.entityType
    entityId := entityId
    message := message
    deliveryStatus := if success then .sent else .failed
    error := error
    firedAt := 0 }

def writeLog (rule : AlertRule) (entityId : Nat) (message : String) (success : Bool)
    (error : Option String) : Method Unit :=
  tryCatch
    (do
      let _ ← ask (.save (attemptLog rule entityId message success error))
      return ())
    fun _ => return ()

def parseJson (text : String) : Except JsError Json :=
  match Json.parse text with
  | some value => .ok value
  | none => .error (.syntaxError text)

def evaluateRule (rule : AlertRule) (entityId : Nat) (message : String) : Method Unit :=
  tryCatch
    (do
      if ← isWithinCooldown rule entityId then
        return ()
      let text ← ask (.decrypt rule.channelConfigEncrypted)
      let channelConfig ← Program.ofExcept (parseJson text)
      let result ← ask (.send rule.channel message channelConfig)
      writeLog rule entityId message result.success result.error)
    fun error => writeLog rule entityId message false (some error.message)

/-- The loop of `dispatch`. -/
def evaluateRules (entityId : Nat) (message : String) : List AlertRule → Method Unit
  | [] => return ()
  | rule :: rules => do
      evaluateRule rule entityId message
      evaluateRules entityId message rules

def dispatch (orgId : Nat) (entityType : AlertEntityType) (entityId : Nat)
    (condition message : String) : Method Unit := do
  let rules ← ask (.find orgId entityType condition)
  evaluateRules entityId message rules

def evaluateTransition (input : EvaluateTransitionInput) : Method Unit :=
  tryCatch
    (do
      if input.previousStatus = input.newStatus then
        return ()
      match buildTransitionCondition input.entityType input.newStatus with
      | none => return ()
      | some condition =>
          let message := buildAlertMessage input.entityType input.entityId condition
            input.previousStatus input.newStatus
          dispatch input.orgId input.entityType input.entityId condition message)
    fun _ => return ()

def evaluateDirectCondition (input : EvaluateDirectConditionInput) : Method Unit :=
  tryCatch
    (dispatch input.orgId input.entityType input.entityId input.condition input.message)
    fun _ => return ()

/-! ### The service among the backend's calls -/

section Backend

variable (platform : Platform)

/-- The collaborators of the running backend. -/
def carryOut : (call : Collaboration) → Job call.Reply
  | .find orgId entityType condition => query (.findAlertRules orgId entityType condition)
  | .now => ServersManager.now
  | .findRecentSend alertRuleId entityId cutoff =>
      query (.findRecentSend alertRuleId entityId cutoff)
  | .decrypt ciphertext => Program.ofExcept (platform.decrypt ciphertext)
  | .send channel message config => sendAlert channel message config
  | .save log => query (.saveAlertLog log)

/-- The same, as the signature has it. -/
def collaborators : (op : Collaborators.Call) → Program Calls JsError (Collaborators.Reply op) :=
  carryOut platform

theorem interpret_ask (call : Collaboration) :
    (ask call).interpret (collaborators platform) = carryOut platform call :=
  Program.interpret_perform (collaborators platform) call

/-- The look at the log, with the repository filled in. -/
theorem isWithinCooldown_interpreted (rule : AlertRule) (entityId : Nat) :
    (isWithinCooldown rule entityId).interpret (collaborators platform) =
      ServersManager.isWithinCooldown rule entityId := by
  have asksTime := interpret_ask platform .now
  have asksLog := fun cutoff =>
    interpret_ask platform (.findRecentSend rule.id entityId cutoff)
  simp only [isWithinCooldown, Program.bind_eq, Program.interpret_bind, asksTime, asksLog]
  rfl

/-- The entry in the log. -/
theorem writeLog_interpreted (rule : AlertRule) (entityId : Nat) (message : String)
    (success : Bool) (error : Option String) :
    (writeLog rule entityId message success error).interpret (collaborators platform) =
      ServersManager.writeLog rule entityId message success error := by
  have saves := fun log => interpret_ask platform (.save log)
  simp only [writeLog, Program.tryCatch_eq, Program.bind_eq, Program.interpret_tryCatch,
    Program.interpret_bind, saves]
  rfl

/-- A configuration is decrypted and then parsed. -/
theorem ofExcept_parseChannelConfig (rule : AlertRule) :
    (Program.ofExcept (parseChannelConfig platform rule) : Job Json) =
      (Program.ofExcept (platform.decrypt rule.channelConfigEncrypted)).bind fun text =>
        Program.ofExcept (parseJson text) := by
  unfold parseChannelConfig
  cases platform.decrypt rule.channelConfigEncrypted with
  | error error => rfl
  | ok text =>
      simp only [parseJson, bind, Except.bind, Program.ofExcept_ok, Program.bind]
      cases Json.parse text <;> rfl

/-- One rule, with its collaborators filled in. -/
theorem evaluateRule_interpreted (rule : AlertRule) (entityId : Nat) (message : String) :
    (evaluateRule rule entityId message).interpret (collaborators platform) =
      ServersManager.evaluateRule platform rule entityId message := by
  have decrypts := interpret_ask platform (.decrypt rule.channelConfigEncrypted)
  have sends := fun config => interpret_ask platform (.send rule.channel message config)
  have goesOn : ∀ cooling : Bool,
      ((if cooling then return ()
        else do
          let text ← ask (.decrypt rule.channelConfigEncrypted)
          let channelConfig ← Program.ofExcept (parseJson text)
          let result ← ask (.send rule.channel message channelConfig)
          writeLog rule entityId message result.success result.error :
            Method Unit).interpret (collaborators platform)) =
        (if cooling then return ()
        else do
          let channelConfig ← Program.ofExcept (parseChannelConfig platform rule)
          let result ← sendAlert rule.channel message channelConfig
          ServersManager.writeLog rule entityId message result.success result.error :
            Job Unit) := by
    intro cooling
    cases cooling with
    | true => rfl
    | false =>
        simp only [Bool.false_eq_true, if_false, Program.bind_eq, Program.interpret_bind,
          Program.interpret_ofExcept, decrypts, sends, writeLog_interpreted,
          ofExcept_parseChannelConfig, Program.bind_assoc]
        rfl
  simp only [evaluateRule, Program.tryCatch_eq, Program.bind_eq, Program.interpret_tryCatch,
    Program.interpret_bind, isWithinCooldown_interpreted, writeLog_interpreted]
  simp only [Program.bind_eq] at goesOn
  simp only [goesOn]
  rfl

/-- The loop over the rules, by induction on them. -/
theorem evaluateRules_interpreted (entityId : Nat) (message : String)
    (rules : List AlertRule) :
    (evaluateRules entityId message rules).interpret (collaborators platform) =
      ServersManager.evaluateRules platform entityId message rules := by
  induction rules with
  | nil => rfl
  | cons rule rules inductionHypothesis =>
      simp only [evaluateRules, Program.bind_eq, Program.interpret_bind,
        evaluateRule_interpreted, inductionHypothesis]
      rfl

/-- The rules that are dispatched to. -/
theorem dispatch_interpreted (orgId : Nat) (entityType : AlertEntityType) (entityId : Nat)
    (condition message : String) :
    (dispatch orgId entityType entityId condition message).interpret
        (collaborators platform) =
      ServersManager.dispatch platform orgId entityType entityId condition message := by
  have finds := interpret_ask platform (.find orgId entityType condition)
  simp only [dispatch, Program.bind_eq, Program.interpret_bind, finds,
    evaluateRules_interpreted]
  rfl

/-- Among the backend's calls the service is the evaluation of transitions that the
checks use. -/
theorem evaluateTransition_interpreted (input : EvaluateTransitionInput) :
    (evaluateTransition input).interpret (collaborators platform) =
      ServersManager.evaluateTransition platform input := by
  unfold evaluateTransition ServersManager.evaluateTransition
  rw [Program.tryCatch_eq, Program.interpret_tryCatch]
  split
  · rfl
  · cases buildTransitionCondition input.entityType input.newStatus with
    | none => rfl
    | some condition =>
        dsimp only
        rw [dispatch_interpreted]
        rfl

theorem evaluateDirectCondition_interpreted (input : EvaluateDirectConditionInput) :
    (evaluateDirectCondition input).interpret (collaborators platform) =
      ServersManager.evaluateDirectCondition platform input := by
  unfold evaluateDirectCondition
  rw [Program.tryCatch_eq, Program.interpret_tryCatch, dispatch_interpreted]
  rfl

end Backend

/-! ### What becomes of one rule -/

/-- What was said to the collaborators. -/
abbrev Conversation := List (Exchange Collaborators JsError)

def Collaboration.isSend : Collaboration → Bool
  | .send _ _ _ => true
  | _ => false

def Collaboration.saved? : Collaboration → Option AlertLog
  | .save log => some log
  | _ => none

/-- How many messages were given to an adapter. -/
def sends (trace : Conversation) : Nat :=
  trace.countP fun exchange => Collaboration.isSend exchange.1

/-- The log entries whose write was attempted. -/
def saves (trace : Conversation) : List AlertLog :=
  trace.filterMap fun exchange => Collaboration.saved? exchange.1

def Collaboration.succeeded : (call : Collaboration) → Except JsError call.Reply → Bool
  | .send _ _ _, .ok result => result.success
  | _, _ => false

def Collaboration.foundRecent : (call : Collaboration) → Except JsError call.Reply → Bool
  | .findRecentSend _ _ _, .ok recentSend => recentSend.isSome
  | _, _ => false

/-- An adapter returned success. -/
def delivered (trace : Conversation) : Bool :=
  trace.any fun exchange => Collaboration.succeeded exchange.1 exchange.2

/-- The cooldown query came back with a recent send. -/
def foundInCooldown (trace : Conversation) : Bool :=
  trace.any fun exchange => Collaboration.foundRecent exchange.1 exchange.2

section Rule

variable (rule : AlertRule) (entityId : Nat) (message : String)

/-- A rule is sent at most once and logged once, as sent exactly if it was delivered; one
found in cooldown is neither. -/
structure Processed (trace : Conversation) : Prop where
  sendsAtMostOnce : sends trace ≤ 1
  cooling : foundInCooldown trace = true → sends trace = 0 ∧ saves trace = []
  logged : foundInCooldown trace = false → ∃ log, saves trace = [log] ∧
    log.alertRuleId = rule.id ∧ log.entityId = entityId ∧
    (log.deliveryStatus = .sent ↔ delivered trace = true) ∧
    (log.deliveryStatus = .failed ↔ delivered trace = false)

/-- The block that `evaluateRule` tries. -/
private def tryBlock : Method Unit :=
  (ask .now).bind fun time =>
    (ask (.findRecentSend rule.id entityId (time - rule.cooldownMinutes * 60000))).bind
      fun recentSend =>
        if recentSend.isSome then .pure ()
        else
          (ask (.decrypt rule.channelConfigEncrypted)).bind fun text =>
            (Program.ofExcept (parseJson text)).bind fun channelConfig =>
              (ask (.send rule.channel message channelConfig)).bind fun result =>
                writeLog rule entityId message result.success result.error

/-- The source's `try` and `catch`, apart. -/
private theorem evaluateRule_eq :
    evaluateRule rule entityId message =
      (tryBlock rule entityId message).tryCatch fun error =>
        writeLog rule entityId message false (some error.message) := by
  simp only [evaluateRule, isWithinCooldown, Program.tryCatch_eq, Program.bind_eq,
    Program.bind_assoc]
  rfl

end Rule

variable {rule : AlertRule} {entityId : Nat} {message : String} {trace : Conversation}

/-- Whatever becomes of the write, it is attempted once and its failure is swallowed. -/
theorem converses_writeLog {success : Bool} {error : Option String}
    {outcome : Except JsError Unit} :
    (writeLog rule entityId message success error).Converses trace outcome ↔
      outcome = .ok () ∧ ∃ reply, trace =
        [⟨Collaboration.save (attemptLog rule entityId message success error), reply⟩] := by
  constructor
  · rintro ⟨reply, rest, rfl, ends⟩
    cases reply with
    | ok saved =>
        obtain ⟨rfl, rfl⟩ := ends
        exact ⟨rfl, _, rfl⟩
    | error failure =>
        obtain ⟨rfl, rfl⟩ := ends
        exact ⟨rfl, _, rfl⟩
  · rintro ⟨rfl, reply, rfl⟩
    refine ⟨reply, [], rfl, ?_⟩
    cases reply with
    | ok saved => exact ⟨rfl, rfl⟩
    | error failure => exact ⟨rfl, rfl⟩

/-- The log entry after an attempt tells whether it succeeded. -/
private theorem processed_logged {before : Conversation} {success : Bool}
    {error : Option String} {reply : Except JsError AlertLog} (once : sends before ≤ 1)
    (unsaved : saves before = []) (notCooling : foundInCooldown before = false)
    (told : delivered before = success) :
    Processed rule entityId (before ++
      [⟨Collaboration.save (attemptLog rule entityId message success error), reply⟩]) := by
  have sendsSame : sends (before ++
      [⟨Collaboration.save (attemptLog rule entityId message success error), reply⟩]) =
        sends before := by
    rw [sends, List.countP_append]
    rfl
  have savesOne : saves (before ++
      [⟨Collaboration.save (attemptLog rule entityId message success error), reply⟩]) =
        [attemptLog rule entityId message success error] := by
    rw [saves, List.filterMap_append]
    exact congrArg (· ++ _) unsaved
  have coolingSame : foundInCooldown (before ++
      [⟨Collaboration.save (attemptLog rule entityId message success error), reply⟩]) =
        false := by
    rw [foundInCooldown, List.any_append]
    exact congrArg (· || _) notCooling
  have deliveredSame : delivered (before ++
      [⟨Collaboration.save (attemptLog rule entityId message success error), reply⟩]) =
        success := by
    rw [delivered, List.any_append]
    exact (congrArg (· || false) told).trans (Bool.or_false _)
  constructor
  · rw [sendsSame]
    exact once
  · intro cooling
    rw [coolingSame] at cooling
    cases cooling
  · intro _
    refine ⟨_, savesOne, rfl, rfl, ?_, ?_⟩
    · rw [deliveredSame]
      cases success <;> simp [attemptLog]
    · rw [deliveredSame]
      cases success <;> simp [attemptLog]

/-- The tried block either processes the rule or throws before anything is logged. -/
private theorem converses_tryBlock {outcome : Except JsError Unit}
    (converses : (tryBlock rule entityId message).Converses trace outcome) :
    outcome = .ok () ∧ Processed rule entityId trace ∨
      ∃ error, outcome = .error error ∧ sends trace ≤ 1 ∧ saves trace = [] ∧
        foundInCooldown trace = false ∧ delivered trace = false := by
  rcases Program.converses_perform_bind.mp converses with
    ⟨time, _, rfl, withTime⟩ | ⟨error, rfl, rfl⟩
  case inr =>
    exact .inr ⟨error, rfl, Nat.zero_le _, rfl, rfl, rfl⟩
  rcases Program.converses_perform_bind.mp withTime with
    ⟨recentSend, _, rfl, withQuery⟩ | ⟨error, rfl, rfl⟩
  case inr =>
    exact .inr ⟨error, rfl, Nat.zero_le _, rfl, rfl, rfl⟩
  cases recentSend with
  | some recent =>
      obtain ⟨rfl, rfl⟩ := withQuery
      refine .inl ⟨rfl, Nat.zero_le _, fun _ => ⟨rfl, rfl⟩, ?_⟩
      intro notCooling
      cases notCooling
  | none =>
      rcases Program.converses_perform_bind.mp withQuery with
        ⟨text, _, rfl, withText⟩ | ⟨error, rfl, rfl⟩
      case inr =>
        exact .inr ⟨error, rfl, Nat.zero_le _, rfl, rfl, rfl⟩
      cases parsed : parseJson text with
      | error error =>
          rw [parsed] at withText
          obtain ⟨rfl, rfl⟩ := withText
          exact .inr ⟨error, rfl, Nat.zero_le _, rfl, rfl, rfl⟩
      | ok channelConfig =>
          rw [parsed] at withText
          rcases Program.converses_perform_bind.mp withText with
            ⟨result, _, rfl, withResult⟩ | ⟨error, rfl, rfl⟩
          case inr =>
            exact .inr ⟨error, rfl, Nat.le_refl _, rfl, rfl, rfl⟩
          obtain ⟨rfl, reply, rfl⟩ := converses_writeLog.mp withResult
          left
          refine ⟨rfl, ?_⟩
          exact @processed_logged rule entityId message
            [⟨Collaboration.now, .ok time⟩, ⟨Collaboration.findRecentSend _ _ _, .ok none⟩,
              ⟨Collaboration.decrypt _, .ok text⟩, ⟨Collaboration.send _ _ _, .ok result⟩]
            result.success _ reply (Nat.le_refl 1) rfl rfl (Bool.or_false _)

/-- However its collaborators fail, a rule is processed, and nothing is thrown. -/
theorem converses_evaluateRule {outcome : Except JsError Unit}
    (converses : (evaluateRule rule entityId message).Converses trace outcome) :
    outcome = .ok () ∧ Processed rule entityId trace := by
  rw [evaluateRule_eq] at converses
  rcases Program.converses_tryCatch.mp converses with
    ⟨_, rfl, tried⟩ | ⟨error, front, back, rfl, threw, handled⟩
  · rcases converses_tryBlock tried with ⟨-, processed⟩ | ⟨error, absurd, -⟩
    · exact ⟨rfl, processed⟩
    · cases absurd
  · rcases converses_tryBlock threw with ⟨absurd, -⟩ | ⟨_, ⟨⟩, once, unsaved, notCooling, told⟩
    · cases absurd
    · obtain ⟨rfl, reply, rfl⟩ := converses_writeLog.mp handled
      exact ⟨rfl, processed_logged once unsaved notCooling told⟩

/-! ### Every rule on its own -/

/-- The conversation about some rules is made of one about each, in order, as it may be
had about that rule alone. -/
def OneAfterAnother (rules : List AlertRule) (entityId : Nat) (message : String)
    (trace : Conversation) : Prop :=
  ∃ segments, trace = segments.flatten ∧
    List.Forall₂ (fun rule segment =>
      (evaluateRule rule entityId message).Converses segment (.ok ())) rules segments

/-- The conversations of many rules are those of each, one after another. -/
theorem converses_evaluateRules {rules : List AlertRule} {outcome : Except JsError Unit} :
    (evaluateRules entityId message rules).Converses trace outcome ↔
      outcome = .ok () ∧ OneAfterAnother rules entityId message trace := by
  induction rules generalizing trace with
  | nil =>
      constructor
      · rintro ⟨rfl, rfl⟩
        exact ⟨rfl, [], rfl, .nil⟩
      · rintro ⟨rfl, _, rfl, ⟨⟩⟩
        exact ⟨rfl, rfl⟩
  | cons rule rules inductionHypothesis =>
      constructor
      · intro converses
        rcases Program.converses_bind.mp converses with
          ⟨_, front, back, rfl, first, others⟩ | ⟨error, rfl, threw⟩
        · obtain ⟨rfl, segments, rfl, each⟩ := inductionHypothesis.mp others
          exact ⟨rfl, front :: segments, rfl, .cons first each⟩
        · cases (converses_evaluateRule threw).1
      · rintro ⟨rfl, _, rfl, _ | ⟨first, each⟩⟩
        exact Program.converses_bind.mpr (.inl ⟨(), _, _, rfl, first,
          inductionHypothesis.mpr ⟨rfl, _, rfl, each⟩⟩)

/-- What is said when matching rules are looked up: the lookup fails and that is all, or
each of the rules found is processed. -/
def Dispatched (orgId : Nat) (entityType : AlertEntityType) (condition : String)
    (entityId : Nat) (message : String) (trace : Conversation) : Prop :=
  (∃ error, trace = [⟨Collaboration.find orgId entityType condition, .error error⟩]) ∨
    ∃ rules others,
      trace = ⟨Collaboration.find orgId entityType condition, .ok rules⟩ :: others ∧
        OneAfterAnother rules entityId message others

/-- The conversations of a dispatch, the failing ones included. -/
theorem converses_dispatch {orgId : Nat} {entityType : AlertEntityType} {condition : String}
    {outcome : Except JsError Unit} :
    ((dispatch orgId entityType entityId condition message).tryCatch fun _ =>
        .pure ()).Converses trace outcome ↔
      outcome = .ok () ∧ Dispatched orgId entityType condition entityId message trace := by
  constructor
  · intro converses
    rcases Program.converses_tryCatch.mp converses with
      ⟨_, rfl, dispatches⟩ | ⟨error, front, back, rfl, threw, handled⟩
    · rcases Program.converses_perform_bind.mp dispatches with
        ⟨rules, others, rfl, evaluates⟩ | ⟨_, -, absurd⟩
      · exact ⟨rfl, .inr ⟨rules, others, rfl, (converses_evaluateRules.mp evaluates).2⟩⟩
      · cases absurd
    · obtain ⟨rfl, rfl⟩ := handled
      rcases Program.converses_perform_bind.mp threw with
        ⟨rules, others, rfl, evaluates⟩ | ⟨_, rfl, -⟩
      · cases (converses_evaluateRules.mp evaluates).1
      · exact ⟨rfl, .inl ⟨_, rfl⟩⟩
  · rintro ⟨rfl, ⟨error, rfl⟩ | ⟨rules, others, rfl, each⟩⟩
    · apply Program.converses_tryCatch.mpr
      exact .inr ⟨error, _, [], (List.append_nil _).symm,
        Program.converses_perform_bind.mpr (.inr ⟨error, rfl, rfl⟩), rfl, rfl⟩
    · apply Program.converses_tryCatch.mpr
      exact .inl ⟨(), rfl, Program.converses_perform_bind.mpr
        (.inl ⟨rules, others, rfl, converses_evaluateRules.mpr ⟨rfl, each⟩⟩)⟩

/-- What is said when a transition is evaluated: nothing, unless the status changed and the
entity's transitions have conditions. -/
def TransitionDispatched (input : EvaluateTransitionInput) (trace : Conversation) : Prop :=
  if input.previousStatus = input.newStatus then trace = []
  else
    match buildTransitionCondition input.entityType input.newStatus with
    | none => trace = []
    | some condition =>
        Dispatched input.orgId input.entityType condition input.entityId
          (buildAlertMessage input.entityType input.entityId condition
            input.previousStatus input.newStatus) trace

/-- The conversations of a transition. -/
theorem converses_evaluateTransition {input : EvaluateTransitionInput}
    {outcome : Except JsError Unit} :
    (evaluateTransition input).Converses trace outcome ↔
      outcome = .ok () ∧ TransitionDispatched input trace := by
  unfold evaluateTransition TransitionDispatched
  split
  · exact and_comm
  · cases buildTransitionCondition input.entityType input.newStatus with
    | none => exact and_comm
    | some condition => exact converses_dispatch

/-- Whatever the collaborators do, evaluating never rejects; every matching rule has a
conversation of its own, which does not depend on the others'; and each of these sends at
most once and logs once. -/
theorem evaluation_isolated :
    (∀ input trace outcome, (evaluateTransition input).Converses trace outcome ↔
      outcome = .ok () ∧ TransitionDispatched input trace) ∧
    (∀ input trace outcome, (evaluateDirectCondition input).Converses trace outcome ↔
      outcome = .ok () ∧ Dispatched input.orgId input.entityType input.condition
        input.entityId input.message trace) ∧
    ∀ rule entityId message trace outcome,
      (evaluateRule rule entityId message).Converses trace outcome →
        outcome = .ok () ∧ Processed rule entityId trace := by
  refine ⟨?_, ?_, ?_⟩
  · intro input trace outcome
    exact converses_evaluateTransition
  · intro input trace outcome
    exact converses_dispatch
  · intro rule entityId message trace outcome
    exact converses_evaluateRule

/-- A run of the backend's evaluation on any machine is such a conversation with the
collaborators, so it returns. -/
theorem evaluateTransition_returns (platform : Platform) {σ : Type}
    (machine : Machine Calls JsError σ) (input : EvaluateTransitionInput) (state : σ) :
    ∃ trace after,
      (ServersManager.evaluateTransition platform input).run machine state = (.ok (), after) ∧
        TransitionDispatched input trace := by
  rw [← evaluateTransition_interpreted, Program.run_interpret]
  have spoken := Program.converses_record
    (Program.carryingOut (collaborators platform) machine) (evaluateTransition input) state
  obtain ⟨returned, dispatched⟩ := converses_evaluateTransition.mp spoken
  exact ⟨_, _, Prod.ext returned rfl, dispatched⟩

end AlertEvaluationService

end ServersManager
