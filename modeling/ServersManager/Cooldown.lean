/-
Module: ServersManager.Cooldown
Purpose: Deliveries of concurrent alert evaluations: they keep to the cooldown of their
  rule as long as no evaluation asks for recent sends while another one is sending.
Trusted boundary: none
Main exports:
  EvaluationPhase, Evaluation, Dispatching, cooldownAnswers, SendsAlone, Cooling,
  cooldown_respected, overlap_sends_twice
-/
import ServersManager.Alerts
import ServersManager.Library.Pool

namespace ServersManager

open Library

/-! ### What one evaluation does -/

/-- Where an evaluation stands with the rule at hand: it has read the time, or no recent
send has been found, and perhaps it has sent by then. -/
inductive EvaluationPhase where
  | idle
  | timed (time : Date)
  | cleared (alertRuleId entityId : Nat) (delivered : Bool)

/-- The window of a rule, in milliseconds. -/
def AlertRule.cooldown (rule : AlertRule) : Int := rule.cooldownMinutes * 60000

/-- The responses that the adapter reports as a success. -/
def HttpResponse.accepted (response : HttpResponse) : Bool :=
  decide (200 ≤ response.status ∧ response.status < 300)

def EvaluationPhase.Allows (rules : Table AlertRule) : EvaluationPhase → Call → Prop
  | .idle, .query (.findAlertRules _ _ _) => True
  | .idle, .now => True
  | .idle, .query (.saveAlertLog log) => log.deliveryStatus = .failed
  | .timed time, .query (.findRecentSend alertRuleId _ cutoff) =>
      ∃ rule ∈ rules, rule.id = alertRuleId ∧ cutoff = time - rule.cooldown
  | .cleared _ _ false, .fetch _ _ => True
  | .cleared alertRuleId entityId delivered, .query (.saveAlertLog log) =>
      log.alertRuleId = alertRuleId ∧ log.entityId = entityId ∧
        (log.deliveryStatus = .sent ↔ delivered = true)
  | _, _ => False

def EvaluationPhase.next : EvaluationPhase → (call : Call) → Except JsError call.Reply →
    EvaluationPhase
  | .idle, .now, .ok time => .timed time
  | .timed _, .query (.findRecentSend alertRuleId entityId _), .ok none =>
      .cleared alertRuleId entityId false
  | .cleared alertRuleId entityId _, .fetch _ _, .ok response =>
      .cleared alertRuleId entityId response.accepted
  | .cleared alertRuleId entityId _, .fetch _ _, .error _ =>
      .cleared alertRuleId entityId false
  | _, _, _ => .idle

/-- Rules that are found are in the table. -/
def FindsRules (rules : Table AlertRule) : (call : Call) → Except JsError call.Reply → Prop
  | .query (.findAlertRules _ _ _), .ok found => ∀ rule ∈ found, rule ∈ rules
  | _, _ => True

def evaluationProtocol (rules : Table AlertRule) :
    Protocol Calls JsError EvaluationPhase where
  Allows := EvaluationPhase.Allows rules
  Moves phase call reply after := after = phase.next call reply ∧ FindsRules rules call reply

section Evaluation

variable {rules : Table AlertRule} {alertRuleId entityId : Nat}

/-- An adapter that reports a success has sent; one that throws has not. -/
theorem sendAlert_follows (channel : AlertChannel) (message : String) (config : Json) :
    (sendAlert channel message config).Follows (evaluationProtocol rules)
      (fun outcome phase => ∃ delivered, phase = .cleared alertRuleId entityId delivered ∧
        match outcome with
        | .ok result => result.success = delivered
        | .error _ => delivered = false)
      (.cleared alertRuleId entityId false) := by
  cases channel with
  | email => exact ⟨false, rfl, rfl⟩
  | slack =>
      apply (Program.follows_bind _ _ _ _ _).mpr
      apply (Program.follows_ofExcept _ _ _ _).mpr
      split
      · split
        · next webhookUrl _ =>
          change Program.Follows _ (ite _ _ _) _ _
          split
          · exact ⟨false, rfl, rfl⟩
          · apply (Program.follows_tryCatch _ _ _ _ _).mpr
            apply (Program.follows_perform_bind _).mpr
            refine ⟨trivial, ?_, ?_⟩
            · rintro response after ⟨rfl, -⟩
              change Program.Follows _ (ite _ _ _) _ _
              split
              · next accepts =>
                have accepted : response.accepted = true := decide_eq_true accepts
                exact ⟨true, congrArg _ accepted, rfl⟩
              · next rejects =>
                have rejected : response.accepted = false := decide_eq_false rejects
                exact ⟨false, congrArg _ rejected, rfl⟩
            · rintro error after ⟨rfl, -⟩
              exact ⟨false, rfl, rfl⟩
        · exact ⟨false, rfl, rfl⟩
      · exact ⟨false, rfl, rfl⟩

/-- The log entry of an attempt that has been cleared ends it. -/
theorem writeLog_follows (rule : AlertRule) (entityId : Nat) (message : String)
    (success : Bool) (error : Option String) {phase : EvaluationPhase}
    (attempted : phase = .cleared rule.id entityId success ∨
      phase = .idle ∧ success = false) :
    (writeLog rule entityId message success error).Follows (evaluationProtocol rules)
      (fun outcome after => outcome = .ok () ∧ after = .idle) phase := by
  apply (Program.follows_tryCatch _ _ _ _ _).mpr
  apply (Program.follows_perform_bind _).mpr
  rcases attempted with rfl | ⟨rfl, rfl⟩
  · have status : (if success then AlertDeliveryStatus.sent else .failed) = .sent ↔
        success = true := by
      cases success <;> simp
    cases success with
    | true =>
        refine ⟨⟨rfl, rfl, status⟩, ?_, ?_⟩
        · rintro log after ⟨rfl, -⟩
          exact ⟨rfl, rfl⟩
        · rintro error after ⟨rfl, -⟩
          exact ⟨rfl, rfl⟩
    | false =>
        refine ⟨⟨rfl, rfl, status⟩, ?_, ?_⟩
        · rintro log after ⟨rfl, -⟩
          exact ⟨rfl, rfl⟩
        · rintro error after ⟨rfl, -⟩
          exact ⟨rfl, rfl⟩
  · refine ⟨rfl, ?_, ?_⟩
    · rintro log after ⟨rfl, -⟩
      exact ⟨rfl, rfl⟩
    · rintro error after ⟨rfl, -⟩
      exact ⟨rfl, rfl⟩

/-- The cooldown query is made with the window of its rule. -/
theorem isWithinCooldown_follows {rule : AlertRule} (member : rule ∈ rules)
    (entityId : Nat) :
    (isWithinCooldown rule entityId).Follows (evaluationProtocol rules)
      (fun outcome after =>
        match outcome with
        | .ok false => after = .cleared rule.id entityId false
        | _ => after = .idle)
      .idle := by
  apply (Program.follows_perform_bind _).mpr
  refine ⟨trivial, ?_, ?_⟩
  · rintro time after ⟨rfl, -⟩
    apply (Program.follows_perform_bind _).mpr
    refine ⟨⟨rule, member, rfl, rfl⟩, ?_, ?_⟩
    · rintro (none | log) after ⟨rfl, -⟩
      · rfl
      · rfl
    · rintro error after ⟨rfl, -⟩
      rfl
  · rintro error after ⟨rfl, -⟩
    rfl

theorem evaluateRule_follows (platform : Platform) {rule : AlertRule}
    (member : rule ∈ rules) (entityId : Nat) (message : String) :
    (evaluateRule platform rule entityId message).Follows (evaluationProtocol rules)
      (fun outcome after => outcome = .ok () ∧ after = .idle) .idle := by
  have handled : ∀ (error : JsError) phase,
      phase = .cleared rule.id entityId false ∨ phase = .idle →
      (writeLog rule entityId message false (some error.message)).Follows
        (evaluationProtocol rules)
        (fun outcome after => outcome = .ok () ∧ after = .idle) phase := by
    intro error phase reached
    apply writeLog_follows
    exact reached.imp id fun idle => ⟨idle, rfl⟩
  apply (Program.follows_tryCatch _ _ _ _ _).mpr
  apply (Program.follows_bind _ _ _ _ _).mpr
  apply Program.Follows.mono (isWithinCooldown_follows member entityId)
  intro outcome phase asked
  cases outcome with
  | error error => exact handled error phase (.inr asked)
  | ok cooling =>
      cases cooling with
      | true => exact ⟨rfl, asked⟩
      | false =>
          obtain rfl : phase = .cleared rule.id entityId false := asked
          apply (Program.follows_bind _ _ _ _ _).mpr
          apply (Program.follows_ofExcept _ _ _ _).mpr
          cases parseChannelConfig platform rule with
          | error error => exact handled error _ (.inl rfl)
          | ok channelConfig =>
              apply (Program.follows_bind _ _ _ _ _).mpr
              apply Program.Follows.mono (sendAlert_follows rule.channel message channelConfig)
              rintro sent after ⟨delivered, rfl, reported⟩
              cases sent with
              | error error =>
                  subst reported
                  exact handled error _ (.inl rfl)
              | ok result =>
                  apply Program.Follows.mono (writeLog_follows rule entityId message
                    result.success result.error (.inl (by rw [reported])))
                  rintro outcome last ⟨rfl, rfl⟩
                  exact ⟨rfl, rfl⟩

theorem evaluateRules_follows (platform : Platform) (entityId : Nat) (message : String)
    (found : List AlertRule) (known : ∀ rule ∈ found, rule ∈ rules) :
    (evaluateRules platform entityId message found).Follows (evaluationProtocol rules)
      (fun outcome after => outcome = .ok () ∧ after = .idle) .idle := by
  induction found with
  | nil => exact ⟨rfl, rfl⟩
  | cons rule found inductionHypothesis =>
      apply (Program.follows_bind _ _ _ _ _).mpr
      apply Program.Follows.mono
        (evaluateRule_follows platform (known rule (.head _)) entityId message)
      rintro outcome after ⟨rfl, rfl⟩
      exact inductionHypothesis fun other member => known other (.tail _ member)

theorem dispatch_follows (platform : Platform) (orgId : Nat) (entityType : AlertEntityType)
    (entityId : Nat) (condition message : String) :
    (dispatch platform orgId entityType entityId condition message).Follows
      (evaluationProtocol rules) (fun _ after => after = .idle) .idle := by
  apply (Program.follows_perform_bind _).mpr
  refine ⟨trivial, ?_, ?_⟩
  · rintro found after ⟨rfl, known⟩
    apply Program.Follows.mono (evaluateRules_follows platform entityId message found known)
    exact fun outcome after ended => ended.2
  · rintro error after ⟨rfl, -⟩
    rfl

end Evaluation

/-- A call of one of the two public methods. -/
inductive Evaluation where
  | transition (input : EvaluateTransitionInput)
  | direct (input : EvaluateDirectConditionInput)

def Evaluation.job (platform : Platform) : Evaluation → Job Unit
  | .transition input => evaluateTransition platform input
  | .direct input => evaluateDirectCondition platform input

theorem Evaluation.follows {rules : Table AlertRule} (platform : Platform)
    (evaluation : Evaluation) :
    (evaluation.job platform).Follows (evaluationProtocol rules)
      (fun _ after => after = .idle) .idle := by
  cases evaluation with
  | transition input =>
      apply (Program.follows_tryCatch _ _ _ _ _).mpr
      change Program.Follows _ (ite _ _ _) _ _
      split
      · rfl
      · split
        · rfl
        · apply Program.Follows.mono (dispatch_follows platform _ _ _ _ _)
          intro outcome after idle
          cases outcome <;> exact idle
  | direct input =>
      apply (Program.follows_tryCatch _ _ _ _ _).mpr
      apply Program.Follows.mono (dispatch_follows platform _ _ _ _ _)
      intro outcome after idle
      cases outcome <;> exact idle

/-! ### Overlapping evaluations -/

/-- A delivery that the adapter reported as a success: the rule and the entity that its
evaluation was sending for, and the time at which it was answered. -/
structure Delivery where
  pair : Option (Nat × Nat)
  time : Date
deriving DecidableEq

/-- The database, and what is seen of each evaluation: the time that it has read, and the
rule and entity that it is sending for, from the reply that found no recent send until it
has written its log entry. -/
structure Dispatching (ι : Type) where
  database : Database
  read : ι → Date
  sending : ι → Option (Nat × Nat)
  deliveries : List Delivery

section Answers

variable {ι : Type} [DecidableEq ι]

/-- What is noted of an answered call. -/
def Dispatching.noted (store : Dispatching ι) (thread : ι) (db : Database) :
    (call : Call) → Except JsError call.Reply → Dispatching ι
  | .now, .ok time =>
      { store with
        database := db
        read := Function.update store.read thread time }
  | .query (.findRecentSend alertRuleId entityId _), .ok none =>
      { store with
        database := db
        sending := Function.update store.sending thread (some (alertRuleId, entityId)) }
  | .query (.saveAlertLog _), _ =>
      { store with
        database := db
        sending := Function.update store.sending thread none }
  | .fetch _ _, .ok response =>
      { store with
        database := db
        deliveries := store.deliveries ++
          if response.accepted then
            [{ pair := store.sending thread, time := db.clock }]
          else [] }
  | _, _ => { store with database := db }

/-- Time passes, and other jobs write whatever they like, but neither rules nor the alert
log. -/
structure Passes (db later : Database) : Prop where
  alertRules : later.alertRules = db.alertRules
  alertLogs : later.alertLogs = db.alertLogs
  clock : db.clock ≤ later.clock

/-- Any other query than the write of a log entry may fail. -/
def DispatchAnswer (db : Database) :
    (call : Call) → Except JsError call.Reply → Database → Prop
  | .query (.saveAlertLog log), reply, after =>
      ∃ later, Passes db later ∧ later.perform (.saveAlertLog log) = (reply, after)
  | .query q, reply, after =>
      ∃ later, Passes db later ∧
        ((∃ error, reply = .error error ∧ after = later) ∨ later.perform q = (reply, after))
  | .now, reply, after => Passes db after ∧ reply = .ok after.clock
  | _, _, after => Passes db after

def dispatchAnswers (thread : ι) : Semantics Calls JsError (Dispatching ι) :=
  fun (call : Call) store reply after =>
    DispatchAnswer store.database call reply after.database ∧
      after = store.noted thread after.database call reply

/-- No other evaluation is sending for the rule and the entity while an evaluation asks
for their recent sends. -/
def SendsAlone (thread : ι) (call : Call) (store : Dispatching ι) : Prop :=
  match call with
  | .query (.findRecentSend alertRuleId entityId _) =>
      ∀ other, other ≠ thread → store.sending other ≠ some (alertRuleId, entityId)
  | _ => True

end Answers

/-- The rule and entity of a phase. -/
def EvaluationPhase.pair : EvaluationPhase → Option (Nat × Nat)
  | .cleared alertRuleId entityId _ => some (alertRuleId, entityId)
  | _ => none

/-- A sent entry of a rule and an entity. -/
def AlertLog.Sent (log : AlertLog) (alertRuleId entityId : Nat) : Prop :=
  log.alertRuleId = alertRuleId ∧ log.entityId = entityId ∧ log.deliveryStatus = .sent

/-- Two deliveries of a rule and an entity are at least the rule's cooldown apart. -/
def Delivery.Apart (rules : Table AlertRule) (earlier later : Delivery) : Prop :=
  ∀ rule ∈ rules, ∀ entityId, earlier.pair = some (rule.id, entityId) →
    later.pair = some (rule.id, entityId) → earlier.time + rule.cooldown ≤ later.time

section Invariant

variable {ι : Type} [DecidableEq ι]

/-- What holds between the phases of the evaluations and the store: at most one of them
is sending for a rule and an entity, every delivery has been logged or is about to be, and
whoever is sending has waited for all earlier deliveries. -/
structure Cooling (rules : Table AlertRule) (phases : ι → EvaluationPhase)
    (store : Dispatching ι) : Prop where
  alertRules : store.database.alertRules = rules
  timed : ∀ thread time, phases thread = .timed time →
    store.read thread = time ∧ time ≤ store.database.clock
  sending : ∀ thread, store.sending thread = (phases thread).pair
  alone : ∀ thread other alertRuleId entityId delivered otherDelivered,
    phases thread = .cleared alertRuleId entityId delivered →
      phases other = .cleared alertRuleId entityId otherDelivered → thread = other
  past : ∀ delivery ∈ store.deliveries, delivery.time ≤ store.database.clock
  known : ∀ delivery ∈ store.deliveries, ∃ rule ∈ rules, ∃ entityId,
    delivery.pair = some (rule.id, entityId)
  logged : ∀ delivery ∈ store.deliveries, ∀ alertRuleId entityId,
    delivery.pair = some (alertRuleId, entityId) →
      (∃ log ∈ store.database.alertLogs, log.Sent alertRuleId entityId ∧
        delivery.time ≤ log.firedAt) ∨
      ∃ thread, phases thread = .cleared alertRuleId entityId true
  waited : ∀ thread alertRuleId entityId,
    phases thread = .cleared alertRuleId entityId false →
      (∃ rule ∈ rules, rule.id = alertRuleId) ∧
      ∀ delivery ∈ store.deliveries, delivery.pair = some (alertRuleId, entityId) →
        ∀ rule ∈ rules, rule.id = alertRuleId →
          delivery.time + rule.cooldown ≤ store.database.clock
  apart : store.deliveries.Pairwise (Delivery.Apart rules)

theorem Database.perform_saveAlertLog_eq {db after : Database} {log : AlertLog}
    {reply : Except JsError AlertLog}
    (performed : db.perform (.saveAlertLog log) = (reply, after)) :
    ∃ row logs, reply = .ok row ∧ after = { db with alertLogs := logs } ∧
      row = { log with id := row.id, firedAt := db.clock } ∧
        logs.rows = db.alertLogs.rows ++ [row] := by
  obtain ⟨⟨row, logs⟩, inserts⟩ : ∃ inserted, db.alertLogs.insert
      (fun id => { log with id := id, firedAt := db.clock }) = some inserted := by
    apply Option.ne_none_iff_exists'.mp
    intro refused
    obtain ⟨other, -, -, key, rowKey, -⟩ := Table.insert_eq_none.mp refused
    cases rowKey
  simp only [Database.perform, inserts, Option.map_some, Database.answer, Prod.mk.injEq]
    at performed
  obtain ⟨rfl, rfl⟩ := performed
  obtain ⟨same, -⟩ := Table.insert_eq_some.mp inserts
  refine ⟨row, logs, rfl, rfl, ?_, Table.insert_rows rfl inserts⟩
  rw [same]

section Events

variable {rules : Table AlertRule} {phases : ι → EvaluationPhase} {store : Dispatching ι}
  {thread : ι} {alertRuleId entityId : Nat}

omit [DecidableEq ι] in
/-- Time passes and entries are added. -/
theorem Cooling.later (cooling : Cooling rules phases store) {later : Database}
    (alertRules : later.alertRules = store.database.alertRules)
    (alertLogs : ∀ log ∈ store.database.alertLogs, log ∈ later.alertLogs)
    (clock : store.database.clock ≤ later.clock) :
    Cooling rules phases { store with database := later } where
  alertRules := alertRules.trans cooling.alertRules
  timed other time phase :=
    ⟨(cooling.timed other time phase).1, (cooling.timed other time phase).2.trans clock⟩
  sending := cooling.sending
  alone := cooling.alone
  past delivery member := (cooling.past delivery member).trans clock
  known := cooling.known
  logged delivery member alertRuleId entityId pair := by
    rcases cooling.logged delivery member alertRuleId entityId pair with
      ⟨log, inLogs, sent⟩ | sending
    · exact .inl ⟨log, alertLogs log inLogs, sent⟩
    · exact .inr sending
  waited other alertRuleId entityId phase := by
    obtain ⟨known, waited⟩ := cooling.waited other alertRuleId entityId phase
    exact ⟨known, fun delivery member pair rule inRules same =>
      (waited delivery member pair rule inRules same).trans clock⟩
  apart := cooling.apart

omit [DecidableEq ι] in
theorem Cooling.pair (cooling : Cooling rules phases store) {delivered : Bool}
    (phase : phases thread = .cleared alertRuleId entityId delivered) :
    store.sending thread = some (alertRuleId, entityId) := by
  rw [cooling.sending thread, phase]
  rfl

/-- Whoever sends after the phase of a thread has changed is another thread. -/
theorem cleared_of_update {phase : EvaluationPhase} (unsent : phase.pair = none)
    {other : ι} {delivered : Bool}
    (sends : Function.update phases thread phase other =
      .cleared alertRuleId entityId delivered) :
    other ≠ thread ∧ phases other = .cleared alertRuleId entityId delivered := by
  by_cases same : other = thread
  · rw [same, Function.update_self] at sends
    rw [sends] at unsent
    cases unsent
  · rw [Function.update_of_ne same] at sends
    exact ⟨same, sends⟩

/-- An evaluation is not sending any more, having logged what it delivered. -/
theorem Cooling.leaves (cooling : Cooling rules phases store) {phase : EvaluationPhase}
    (unsent : phase.pair = none) {time : Date}
    (timed : ∀ read, phase = .timed read → time = read ∧ read ≤ store.database.clock)
    (accounted : ∀ alertRuleId entityId,
      phases thread = .cleared alertRuleId entityId true →
        ∀ delivery ∈ store.deliveries, delivery.pair = some (alertRuleId, entityId) →
          ∃ log ∈ store.database.alertLogs, log.Sent alertRuleId entityId ∧
            delivery.time ≤ log.firedAt) :
    Cooling rules (Function.update phases thread phase)
      { store with
        read := Function.update store.read thread time
        sending := Function.update store.sending thread none } where
  alertRules := cooling.alertRules
  timed other read isTimed := by
    change Function.update store.read thread time other = read ∧ _
    by_cases same : other = thread
    · rw [same, Function.update_self] at isTimed ⊢
      exact timed read isTimed
    · rw [Function.update_of_ne same] at isTimed ⊢
      exact cooling.timed other read isTimed
  sending other := by
    change Function.update store.sending thread none other = _
    by_cases same : other = thread
    · rw [same, Function.update_self, Function.update_self, unsent]
    · rw [Function.update_of_ne same, Function.update_of_ne same]
      exact cooling.sending other
  alone first second alertRuleId entityId delivered otherDelivered sends otherSends :=
    cooling.alone first second alertRuleId entityId delivered otherDelivered
      (cleared_of_update unsent sends).2 (cleared_of_update unsent otherSends).2
  past := cooling.past
  known := cooling.known
  logged delivery member alertRuleId entityId pair := by
    rcases cooling.logged delivery member alertRuleId entityId pair with
      inLogs | ⟨other, sends⟩
    · exact .inl inLogs
    · by_cases same : other = thread
      · rw [same] at sends
        exact .inl (accounted alertRuleId entityId sends delivery member pair)
      · exact .inr ⟨other, by rw [Function.update_of_ne same, sends]⟩
  waited other alertRuleId entityId sends :=
    cooling.waited other alertRuleId entityId (cleared_of_update unsent sends).2
  apart := cooling.apart

/-- An evaluation finds no recent send, while no other one is sending. -/
theorem Cooling.clears (cooling : Cooling rules phases store) {time : Date}
    (timed : phases thread = .timed time) {rule : AlertRule} (member : rule ∈ rules)
    (alone : ∀ other, other ≠ thread → store.sending other ≠ some (rule.id, entityId))
    (none : ∀ log ∈ store.database.alertLogs, log.Sent rule.id entityId →
      log.firedAt ≤ time - rule.cooldown) :
    Cooling rules (Function.update phases thread (.cleared rule.id entityId false))
      { store with
        sending := Function.update store.sending thread (some (rule.id, entityId)) } where
  alertRules := cooling.alertRules
  timed other read isTimed := by
    by_cases same : other = thread
    · rw [same, Function.update_self] at isTimed
      cases isTimed
    · rw [Function.update_of_ne same] at isTimed
      exact cooling.timed other read isTimed
  sending other := by
    change Function.update store.sending thread _ other = _
    by_cases same : other = thread
    · rw [same, Function.update_self, Function.update_self]
      rfl
    · rw [Function.update_of_ne same, Function.update_of_ne same]
      exact cooling.sending other
  alone := by
    have others : ∀ other delivered alertRuleId entity,
        Function.update phases thread (.cleared rule.id entityId false) other =
            .cleared alertRuleId entity delivered →
          other = thread ∧ alertRuleId = rule.id ∧ entity = entityId ∨
            phases other = .cleared alertRuleId entity delivered ∧
              (alertRuleId = rule.id → entity ≠ entityId) := by
      intro other delivered alertRuleId entity sends
      by_cases same : other = thread
      · rw [same, Function.update_self] at sends
        cases sends
        exact .inl ⟨same, rfl, rfl⟩
      · rw [Function.update_of_ne same] at sends
        refine .inr ⟨sends, ?_⟩
        rintro rfl rfl
        exact alone other same (cooling.pair sends)
    intro first second alertRuleId entity delivered otherDelivered sends otherSends
    rcases others _ _ _ _ sends with ⟨rfl, rfl, rfl⟩ | ⟨before, foreign⟩
    · rcases others _ _ _ _ otherSends with ⟨rfl, -, -⟩ | ⟨-, foreign⟩
      · rfl
      · exact absurd rfl (foreign rfl)
    · rcases others _ _ _ _ otherSends with ⟨-, ofRule, ofEntity⟩ | ⟨otherBefore, -⟩
      · exact absurd ofEntity (foreign ofRule)
      · exact cooling.alone _ _ _ _ _ _ before otherBefore
  past := cooling.past
  known := cooling.known
  logged delivery inDeliveries alertRuleId entity pair := by
    rcases cooling.logged delivery inDeliveries alertRuleId entity pair with
      inLogs | ⟨other, sends⟩
    · exact .inl inLogs
    · have differs : other ≠ thread := by
        rintro rfl
        rw [timed] at sends
        cases sends
      exact .inr ⟨other, by rw [Function.update_of_ne differs, sends]⟩
  waited other alertRuleId entity sends := by
    by_cases same : other = thread
    · rw [same, Function.update_self] at sends
      cases sends
      refine ⟨⟨rule, member, rfl⟩, ?_⟩
      intro delivery inDeliveries pair otherRule otherMember sameRule
      have sameRow : otherRule = rule := Table.eq_of_id otherMember member sameRule
      subst sameRow
      have read := (cooling.timed thread time timed).2
      rcases cooling.logged delivery inDeliveries _ _ pair with
        ⟨log, inLogs, sent, logged⟩ | ⟨other, sends⟩
      · have old := logged.trans (none log inLogs sent)
        exact (Int.add_le_of_le_sub_right old).trans read
      · have differs : other ≠ thread := by
          rintro rfl
          rw [timed] at sends
          cases sends
        exact absurd (cooling.pair sends) (alone other differs)
    · rw [Function.update_of_ne same] at sends
      exact cooling.waited other alertRuleId entity sends
  apart := cooling.apart

/-- An evaluation that is sending delivers. -/
theorem Cooling.delivers (cooling : Cooling rules phases store)
    (sends : phases thread = .cleared alertRuleId entityId false) :
    Cooling rules
      (Function.update phases thread (.cleared alertRuleId entityId true))
      { store with
        deliveries := store.deliveries ++
          [{ pair := some (alertRuleId, entityId), time := store.database.clock }] } where
  alertRules := cooling.alertRules
  timed other read isTimed := by
    by_cases same : other = thread
    · rw [same, Function.update_self] at isTimed
      cases isTimed
    · rw [Function.update_of_ne same] at isTimed
      exact cooling.timed other read isTimed
  sending other := by
    change store.sending other = _
    by_cases same : other = thread
    · rw [same, Function.update_self]
      exact cooling.pair sends
    · rw [Function.update_of_ne same]
      exact cooling.sending other
  alone := by
    have before : ∀ other ruleId entity delivered,
        Function.update phases thread (.cleared alertRuleId entityId true) other =
          .cleared ruleId entity delivered →
        ∃ earlier, phases other = .cleared ruleId entity earlier := by
      intro other ruleId entity delivered phase
      by_cases same : other = thread
      · rw [same, Function.update_self] at phase
        cases phase
        exact ⟨false, same ▸ sends⟩
      · rw [Function.update_of_ne same] at phase
        exact ⟨delivered, phase⟩
    intro first second ruleId entity delivered otherDelivered phase otherPhase
    obtain ⟨earlier, firstSends⟩ := before _ _ _ _ phase
    obtain ⟨otherEarlier, secondSends⟩ := before _ _ _ _ otherPhase
    exact cooling.alone _ _ _ _ _ _ firstSends secondSends
  past delivery member := by
    rcases List.mem_append.mp member with old | new
    · exact cooling.past delivery old
    · rw [List.mem_singleton.mp new]
  known delivery member := by
    rcases List.mem_append.mp member with old | new
    · exact cooling.known delivery old
    · obtain ⟨⟨rule, inRules, ofRule⟩, -⟩ := cooling.waited thread _ _ sends
      rw [List.mem_singleton.mp new]
      exact ⟨rule, inRules, entityId, by rw [ofRule]⟩
  logged delivery member ruleId entity pair := by
    rcases List.mem_append.mp member with old | new
    · rcases cooling.logged delivery old ruleId entity pair with inLogs | ⟨other, delivered⟩
      · exact .inl inLogs
      · have differs : other ≠ thread := by
          rintro rfl
          rw [sends] at delivered
          cases delivered
        exact .inr ⟨other, by rw [Function.update_of_ne differs, delivered]⟩
    · rw [List.mem_singleton.mp new] at pair
      cases pair
      exact .inr ⟨thread, Function.update_self _ _ _⟩
  waited other ruleId entity phase := by
    by_cases same : other = thread
    · rw [same, Function.update_self] at phase
      cases phase
    · rw [Function.update_of_ne same] at phase
      obtain ⟨known, waited⟩ := cooling.waited other ruleId entity phase
      refine ⟨known, ?_⟩
      intro delivery member pair
      rcases List.mem_append.mp member with old | new
      · exact waited delivery old pair
      · rw [List.mem_singleton.mp new] at pair
        cases pair
        exact absurd (cooling.alone _ _ _ _ _ _ phase sends) same
  apart := by
    refine List.pairwise_append.mpr ⟨cooling.apart, List.pairwise_singleton _ _, ?_⟩
    intro earlier old later new rule inRules entity pair laterPair
    rw [List.mem_singleton.mp new] at laterPair ⊢
    cases laterPair
    exact (cooling.waited thread _ _ sends).2 earlier old pair rule inRules rfl

/-- An evaluation that is not sending reads the time, or is done with its rule. -/
theorem Cooling.rests (cooling : Cooling rules phases store) {phase : EvaluationPhase}
    (resting : (phases thread).pair = none) (unsent : phase.pair = none) {time : Date}
    (timed : ∀ read, phase = .timed read → time = read ∧ read ≤ store.database.clock) :
    Cooling rules (Function.update phases thread phase)
      { store with read := Function.update store.read thread time } := by
  have left := cooling.leaves unsent timed (by
    intro alertRuleId entityId sends
    rw [sends] at resting
    cases resting)
  have silent : Function.update store.sending thread none = store.sending := by
    rw [← resting, ← cooling.sending thread, Function.update_eq_self]
  rw [silent] at left
  exact left

theorem Cooling.idles (cooling : Cooling rules phases store)
    (resting : (phases thread).pair = none) :
    Cooling rules (Function.update phases thread .idle) store := by
  have rested : Cooling rules (Function.update phases thread .idle)
      { store with read := Function.update store.read thread (store.read thread) } :=
    cooling.rests resting rfl nofun
  rw [Function.update_eq_self] at rested
  exact rested

omit [DecidableEq ι] in
theorem Cooling.passes (cooling : Cooling rules phases store) {later : Database}
    (passes : Passes store.database later) :
    Cooling rules phases { store with database := later } := by
  refine cooling.later passes.alertRules ?_ passes.clock
  intro log member
  rw [passes.alertLogs]
  exact member

/-- The rules are found, or the query fails. -/
theorem Cooling.finds (cooling : Cooling rules phases store) {after : Dispatching ι}
    {orgId : Nat} {entityType : AlertEntityType} {condition : String}
    {reply : Except JsError (List AlertRule)} (idle : phases thread = .idle)
    (answered : dispatchAnswers thread
      (Call.query (.findAlertRules orgId entityType condition)) store reply after) :
    Cooling rules (Function.update phases thread .idle) after ∧
      ∀ found, reply = .ok found → ∀ rule ∈ found, rule ∈ rules := by
  obtain ⟨⟨later, passes, replied⟩, noted⟩ := answered
  have same : after.database = later := by
    rcases replied with ⟨error, -, same⟩ | performed
    · exact same
    · exact (congrArg Prod.snd performed).symm
  constructor
  · rw [noted, same]
    exact (cooling.passes passes).idles (by rw [idle]; rfl)
  · rintro found rfl rule member
    rcases replied with ⟨error, absent, -⟩ | performed
    · cases absent
    · have rows : later.alertRules.find _ = found :=
        Except.ok.inj (congrArg Prod.fst performed)
      rw [← rows] at member
      rw [← cooling.alertRules, ← passes.alertRules]
      exact (Table.mem_find.mp member).1

/-- A cooldown query is answered. -/
theorem Cooling.asks (cooling : Cooling rules phases store) {after : Dispatching ι}
    {cutoff : Date} {reply : Except JsError (Option AlertLog)} {time : Date}
    (timed : phases thread = .timed time) {rule : AlertRule} (member : rule ∈ rules)
    (ofRule : rule.id = alertRuleId) (window : cutoff = time - rule.cooldown)
    (alone : SendsAlone thread (.query (.findRecentSend alertRuleId entityId cutoff)) store)
    (answered : dispatchAnswers thread
      (Call.query (.findRecentSend alertRuleId entityId cutoff)) store reply after) :
    Cooling rules (Function.update phases thread ((EvaluationPhase.timed time).next
      (.query (.findRecentSend alertRuleId entityId cutoff)) reply)) after := by
  obtain ⟨⟨later, passes, replied⟩, noted⟩ := answered
  have same : after.database = later := by
    rcases replied with ⟨error, -, same⟩ | performed
    · exact same
    · exact (congrArg Prod.snd performed).symm
  have passed := cooling.passes passes
  have resting : (phases thread).pair = none := by rw [timed]; rfl
  rw [noted, same]
  cases reply with
  | error error => exact passed.idles resting
  | ok found =>
      cases found with
      | some log => exact passed.idles resting
      | none =>
          subst ofRule
          refine passed.clears timed member alone ?_
          intro log inLogs sent
          rcases replied with ⟨error, absent, -⟩ | performed
          · cases absent
          · have absent : later.alertLogs.findOne _ = none :=
              Except.ok.inj (congrArg Prod.fst performed)
            have unmatched := Table.findOne_none.mp absent log inLogs
            obtain ⟨sameRule, sameEntity, status⟩ := sent
            rw [window] at unmatched
            simpa [sameRule, sameEntity, status] using unmatched

/-- A log entry is written, and its evaluation is done with the rule. -/
theorem Cooling.saves (cooling : Cooling rules phases store) {after : Dispatching ι}
    {log : AlertLog} {reply : Except JsError AlertLog}
    (sent : ∀ alertRuleId entityId, phases thread = .cleared alertRuleId entityId true →
      log.Sent alertRuleId entityId)
    (answered : dispatchAnswers thread (Call.query (.saveAlertLog log)) store reply after) :
    Cooling rules (Function.update phases thread .idle) after := by
  obtain ⟨⟨later, passes, performed⟩, noted⟩ := answered
  have passed := cooling.passes passes
  obtain ⟨row, logs, -, saved, written, rows⟩ := Database.perform_saveAlertLog_eq performed
  have grows : ∀ other ∈ later.alertLogs, other ∈ logs := by
    intro other member
    rw [Table.mem_iff, rows]
    exact List.mem_append_left _ member
  have added : Cooling rules phases
      { store with database := { later with alertLogs := logs } } := by
    refine passed.later rfl grows (le_refl _)
  have left : Cooling rules (Function.update phases thread .idle)
      { store with
        database := { later with alertLogs := logs }
        read := Function.update store.read thread (store.read thread)
        sending := Function.update store.sending thread none } := by
    refine added.leaves rfl nofun ?_
    intro ruleId entity sends delivery member pair
    refine ⟨row, ?_, ?_, ?_⟩
    · rw [Table.mem_iff, rows]
      exact List.mem_append_right _ (List.mem_singleton_self row)
    · rw [written]
      exact sent ruleId entity sends
    · rw [written]
      exact passed.past delivery member
  rw [Function.update_eq_self] at left
  rw [noted, saved]
  cases reply <;> exact left

/-- A message is posted. -/
theorem Cooling.posts (cooling : Cooling rules phases store) {after : Dispatching ι}
    {url body : String} {reply : Except JsError HttpResponse}
    (sends : phases thread = .cleared alertRuleId entityId false)
    (answered : dispatchAnswers thread (Call.fetch url body) store reply after) :
    Cooling rules (Function.update phases thread
      ((EvaluationPhase.cleared alertRuleId entityId false).next (.fetch url body) reply))
      after := by
  obtain ⟨passes, noted⟩ := answered
  have passed := cooling.passes passes
  rw [noted]
  cases reply with
  | error error =>
      change Cooling rules (Function.update phases thread
        (.cleared alertRuleId entityId false)) _
      rw [← sends, Function.update_eq_self]
      exact passed
  | ok response =>
      change Cooling rules (Function.update phases thread
        (.cleared alertRuleId entityId response.accepted)) _
      cases accepted : response.accepted with
      | true =>
          have delivered := passed.delivers sends
          rw [← cooling.pair sends] at delivered
          simpa only [Dispatching.noted, accepted, if_true] using delivered
      | false =>
          rw [← sends, Function.update_eq_self]
          simpa [Dispatching.noted, accepted] using passed

/-- Every call that an evaluation may make keeps the invariant. -/
theorem Cooling.next (cooling : Cooling rules phases store) {after : Dispatching ι}
    {call : Call} {reply : Except JsError call.Reply}
    (allowed : (phases thread).Allows rules call) (alone : SendsAlone thread call store)
    (answered : dispatchAnswers thread call store reply after) :
    Cooling rules (Function.update phases thread ((phases thread).next call reply)) after ∧
      FindsRules rules call reply := by
  cases phase : phases thread with
  | idle =>
      rw [phase] at allowed
      cases call with
      | now =>
          obtain ⟨⟨passes, rfl⟩, noted⟩ := answered
          refine ⟨?_, trivial⟩
          rw [noted]
          exact (cooling.passes passes).rests (by rw [phase]; rfl) rfl fun read same =>
            ⟨EvaluationPhase.timed.inj same, le_of_eq (EvaluationPhase.timed.inj same).symm⟩
      | query q =>
          cases q with
          | findAlertRules orgId entityType condition =>
              obtain ⟨idle, found⟩ := cooling.finds phase answered
              refine ⟨idle, ?_⟩
              cases reply with
              | error error => trivial
              | ok rows => exact found rows rfl
          | saveAlertLog log =>
              refine ⟨cooling.saves ?_ answered, trivial⟩
              intro ruleId entity sends
              cases phase.symm.trans sends
          | _ => cases allowed
      | _ => cases allowed
  | timed time =>
      rw [phase] at allowed
      cases call with
      | query q =>
          cases q with
          | findRecentSend ruleId entityId cutoff =>
              obtain ⟨rule, member, ofRule, window⟩ := allowed
              exact ⟨cooling.asks phase member ofRule window alone answered, trivial⟩
          | _ => cases allowed
      | _ => cases allowed
  | cleared ruleId entity delivered =>
      rw [phase] at allowed
      cases call with
      | fetch url body =>
          cases delivered with
          | true => cases allowed
          | false => exact ⟨cooling.posts phase answered, trivial⟩
      | query q =>
          cases q with
          | saveAlertLog log =>
              have logged : log.alertRuleId = ruleId ∧ log.entityId = entity ∧
                  (log.deliveryStatus = .sent ↔ delivered = true) := by
                cases delivered <;> exact allowed
              refine ⟨cooling.saves ?_ answered, trivial⟩
              intro otherId otherEntity sends
              cases phase.symm.trans sends
              exact ⟨logged.1, logged.2.1, logged.2.2.mpr rfl⟩
          | _ => cases delivered <;> cases allowed
      | _ => cases delivered <;> cases allowed

end Events

/-- A sent entry within the window that ends at a time. -/
def AlertLog.Within (log : AlertLog) (rule : AlertRule) (entityId : Nat) (time : Date) :
    Prop :=
  log.Sent rule.id entityId ∧ time - rule.cooldown < log.firedAt

end Invariant

/-! ### Two transitions of one host -/

/-- Every call is answered at this time or later, and every message is delivered. -/
def deliveringMachine (time : Date) (thread : Bool) :
    Machine Calls JsError (Dispatching Bool) :=
  fun (call : Call) store =>
    let db := { store.database with clock := max store.database.clock time }
    ((Surroundings.quiet.answer db call).1,
      store.noted thread (Surroundings.quiet.answer db call).2 call
        (Surroundings.quiet.answer db call).1)

/-- Nobody else is sending. -/
def OthersRest (thread : Bool) (store : Dispatching Bool) : Prop :=
  ∀ other, other ≠ thread → store.sending other = none

theorem OthersRest.noted {thread : Bool} {store : Dispatching Bool}
    (rest : OthersRest thread store) (db : Database) (call : Call)
    (reply : Except JsError call.Reply) :
    OthersRest thread (store.noted thread db call reply) := by
  intro other differs
  unfold Dispatching.noted
  split
  · exact rest other differs
  · exact (Function.update_of_ne differs _ _).trans (rest other differs)
  · exact (Function.update_of_ne differs _ _).trans (rest other differs)
  · exact rest other differs
  · exact rest other differs

theorem OthersRest.alone {thread : Bool} {store : Dispatching Bool}
    (rest : OthersRest thread store) (call : Call) : SendsAlone thread call store := by
  unfold SendsAlone
  split
  · intro other differs
    rw [rest other differs]
    nofun
  · trivial

/-- An evaluation has run to its end while nobody else was sending. -/
def afterEvaluation (pool : Pool Calls JsError Bool Unit (Dispatching Bool)) (time : Date)
    (thread : Bool) : Pool Calls JsError Bool Unit (Dispatching Bool) where
  threads := Function.update pool.threads thread
    (.ofExcept ((pool.threads thread).run (deliveringMachine time thread) pool.store).1)
  store := ((pool.threads thread).run (deliveringMachine time thread) pool.store).2

end ServersManager
