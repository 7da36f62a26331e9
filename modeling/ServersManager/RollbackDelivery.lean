/-
Module: ServersManager.RollbackDelivery
Purpose: Any number of deliveries of the job of one rollback event, each cut short
  anywhere: what the event's row goes through, and what is sent to the host.
Trusted boundary: human-reviewed semantics of the queue
Main exports:
  Delivered, DeliveryStep, Deliveries, Unstarted, Advances, deliveries_run_once
-/
import ServersManager.RollbackProtocol

namespace ServersManager

open Library

/-! ### Deliveries -/

/-- The database, and the commands sent to the host for the event so far. -/
structure Delivered where
  database : Database
  sent : List String

def Call.commands : Call → List String
  | .execCommand _ command => [command]
  | _ => []

/-- Any call may fail; a command may have been executed all the same. -/
def Delivered.answers : Semantics Calls JsError Delivered :=
  fun (call : Call) state reply after =>
    Answered (fun _ => True) state.database call reply after.database ∧
      after.sent = state.sent ++ call.commands

section Deliveries

variable (platform : Platform) (rollbackEventId : Nat) (admits : Delivered → Prop)

/-- The delivery that is under way makes a call; or it stops, wherever it is, and the
job is delivered again; or others change what they please except for the row of the
event. -/
inductive DeliveryStep : Job Unit × Delivered → Job Unit × Delivered → Prop where
  | call {before after : Job Unit × Delivered}
      (step : Program.Step Delivered.answers before after) : DeliveryStep before after
  | deliver (program : Job Unit) {state : Delivered} (admitted : admits state) :
      DeliveryStep (program, state) (process platform rollbackEventId, state)
  | elsewhere (program : Job Unit) {state : Delivered} (database : Database)
      (same : database.events.byId rollbackEventId =
        state.database.events.byId rollbackEventId) :
      DeliveryStep (program, state) (program, { state with database := database })

abbrev Deliveries : Job Unit × Delivered → Job Unit × Delivered → Prop :=
  Relation.ReflTransGen (DeliveryStep platform rollbackEventId admits)

end Deliveries

/-! ### What a row may go through -/

/-- One move of the persisted status, or none. -/
def RollbackEventStatus.MovesTo : RollbackEventStatus → RollbackEventStatus → Prop
  | .pending, .inProgress | .inProgress, .succeeded | .inProgress, .failed => True
  | before, after => after = before

/-- A completed row is not changed in any field, and the status of any other moves by
at most one step. -/
def Advances (rollbackEventId : Nat) (before after : Database) : Prop :=
  ∀ row, before.events.byId rollbackEventId = some row →
    ∃ rowAfter, after.events.byId rollbackEventId = some rowAfter ∧
      row.status.MovesTo rowAfter.status ∧ (row.completedAt.isSome → rowAfter = row)

/-- No command has been sent yet for the event, and it has not been completed. -/
def Unstarted (rollbackEventId : Nat) (state : Delivered) : Prop :=
  ∀ row, state.database.events.byId rollbackEventId = some row →
    row.status = .pending ∨ row.status = .inProgress ∧ state.sent = []

/-! ### The invariant -/

/-- What holds of the row and of the commands whatever the delivery is doing. -/
structure Healthy (rollbackEventId : Nat) (state : Delivered) : Prop where
  sequence : Sequence state.sent
  row : ∃ row, state.database.events.byId rollbackEventId = some row ∧
    (row.status.isActive → row.completedAt = none) ∧
    (row.status = .pending → state.sent = [])

/-- What the phase of the delivery says of the store. -/
def Phase.Fits (rollbackEventId : Nat) (state : Delivered) : Phase → Prop
  | .taken id => id = rollbackEventId ∧ Unstarted rollbackEventId state
  | .loaded event => event.id = rollbackEventId ∧
      state.database.events.byId rollbackEventId = some event ∧
      Unstarted rollbackEventId state
  | .running event _ sent => event.id = rollbackEventId ∧
      state.database.events.byId rollbackEventId = some event ∧
      event.status = .inProgress ∧ state.sent = sent
  | .closed => True
  | _ => False

theorem RollbackEventStatus.movesTo_self (status : RollbackEventStatus) :
    status.MovesTo status := by
  cases status <;> rfl

/-- A row that is unchanged advances. -/
theorem advances_of_row {rollbackEventId : Nat} {before after : Database}
    (same : after.events.byId rollbackEventId = before.events.byId rollbackEventId) :
    Advances rollbackEventId before after :=
  fun row found => ⟨row, same.trans found, row.status.movesTo_self, fun _ => rfl⟩

/-- What neither writes the row nor sends a command keeps a delivery healthy. -/
theorem Healthy.of_row {rollbackEventId : Nat} {state after : Delivered}
    (healthy : Healthy rollbackEventId state) (sent : after.sent = state.sent)
    (same : after.database.events.byId rollbackEventId =
      state.database.events.byId rollbackEventId) : Healthy rollbackEventId after where
  sequence := sent ▸ healthy.sequence
  row := by
    rw [same, sent]
    exact healthy.row

/-- It keeps what the phase says of the row as well. -/
theorem Phase.Fits.of_row {rollbackEventId : Nat} {state after : Delivered}
    {phase : Phase} (fits : phase.Fits rollbackEventId state)
    (sent : after.sent = state.sent)
    (same : after.database.events.byId rollbackEventId =
      state.database.events.byId rollbackEventId) :
    phase.Fits rollbackEventId after := by
  unfold Phase.Fits Unstarted at fits ⊢
  rwa [same, sent]

/-- An event that is not completed has no completion time. -/
theorem Healthy.unset {rollbackEventId : Nat} {state : Delivered} {row : RollbackEvent}
    (healthy : Healthy rollbackEventId state)
    (found : state.database.events.byId rollbackEventId = some row)
    (active : row.status.isActive) : row.completedAt = none := by
  obtain ⟨other, foundOther, unset, -⟩ := healthy.row
  rw [found] at foundOther
  cases foundOther
  exact unset active

theorem movesTo_of_completed {status : RollbackEventStatus}
    (completed : status.isActive = false) :
    RollbackEventStatus.inProgress.MovesTo status := by
  cases status with
  | pending => cases completed
  | inProgress => cases completed
  | succeeded => trivial
  | failed => trivial

/-! ### One call -/

section Call

variable {rollbackEventId : Nat} {state after : Delivered}

/-- What one call of a delivery keeps and what it may do to the row. -/
structure Carried (rollbackEventId : Nat) (state after : Delivered) (phase : Phase) :
    Prop where
  healthy : Healthy rollbackEventId after
  fits : phase.Fits rollbackEventId after
  advances : Advances rollbackEventId state.database after.database

/-- A call that neither writes an event nor sends a command. -/
theorem carried_of_row (healthy : Healthy rollbackEventId state) {phase : Phase}
    (sent : after.sent = state.sent)
    (same : after.database.events.byId rollbackEventId =
      state.database.events.byId rollbackEventId)
    (fits : phase.Fits rollbackEventId after) :
    Carried rollbackEventId state after phase where
  healthy := healthy.of_row sent same
  fits := fits
  advances := advances_of_row same

/-- A saved row is found under its id. -/
theorem byId_saveEvent {db : Database} {events : Table RollbackEvent}
    {row : RollbackEvent} (saved : db.events.save row = some events) :
    events.byId row.id = some row :=
  Table.byId_self ((Table.mem_save saved).mpr (.inl rfl))

/-- A save over an active row that holds the entity of the delivery. -/
theorem carried_save {event row : RollbackEvent} {events : Table RollbackEvent}
    {phase : Phase} (saved : state.database.events.save row = some events)
    (same : after.database = { state.database with events := events })
    (healthy : Healthy rollbackEventId state)
    (found : state.database.events.byId rollbackEventId = some event)
    (sameId : row.id = rollbackEventId) (active : event.status.isActive)
    (sent : after.sent = state.sent) (moves : event.status.MovesTo row.status)
    (unset : row.status.isActive → row.completedAt = none)
    (started : row.status ≠ .pending) (fits : phase.Fits rollbackEventId after) :
    Carried rollbackEventId state after phase := by
  have written : after.database.events.byId rollbackEventId = some row := by
    rw [same, ← sameId]
    exact byId_saveEvent saved
  obtain ⟨old, foundOld, open_, -⟩ := healthy.row
  rw [found] at foundOld
  cases foundOld
  exact
    { healthy :=
        { sequence := sent ▸ healthy.sequence
          row := ⟨row, written, unset, fun pending => absurd pending started⟩ }
      fits := fits
      advances := fun before foundBefore => by
        rw [found] at foundBefore
        cases foundBefore
        exact ⟨row, written, moves, fun completed => by simp [open_ active] at completed⟩ }

/-- The first save marks the event as in progress. -/
theorem carried_loaded {event : RollbackEvent} {reply : Except JsError RollbackEvent}
    (healthy : Healthy rollbackEventId state)
    (fits : (Phase.loaded event).Fits rollbackEventId state)
    (answered : Delivered.answers
      (Call.query (.saveEvent { event with status := .inProgress })) state reply after) :
    Carried rollbackEventId state after ((Phase.loaded event).next
      (.query (.saveEvent { event with status := .inProgress })) reply) := by
  obtain ⟨sameId, found, unstarted⟩ := fits
  obtain ⟨database, commands⟩ := answered
  have sent : after.sent = state.sent := by simpa [Call.commands] using commands
  obtain ⟨old, foundOld, unset, fresh⟩ := healthy.row
  rw [found] at foundOld
  cases foundOld
  have active : event.status.isActive ∧ state.sent = [] ∧
      event.status.MovesTo .inProgress := by
    rcases unstarted event found with pending | ⟨inProgress, unsent⟩
    · rw [pending]
      exact ⟨rfl, fresh pending, trivial⟩
    · rw [inProgress]
      exact ⟨rfl, unsent, rfl⟩
  rcases database.saveEvent with ⟨error, rfl, same⟩ | ⟨rfl, events, saved, same⟩
  · exact carried_of_row healthy sent (by rw [same]) trivial
  · refine carried_save saved same healthy found sameId active.1 sent active.2.2
      (fun _ => unset active.1) (by simp) ⟨sameId, ?_, rfl, sent.trans active.2.1⟩
    rw [same, ← sameId]
    exact byId_saveEvent saved

/-- While the commands are under way the event is logged, then completed. -/
theorem carried_running {event : RollbackEvent} {service : Option Service}
    {sent : List String} {call : Call} {reply : Except JsError call.Reply}
    (healthy : Healthy rollbackEventId state)
    (fits : (Phase.running event service sent).Fits rollbackEventId state)
    (allowed : RunningAllows event service sent call)
    (answered : Delivered.answers call state reply after) :
    Carried rollbackEventId state after
      ((Phase.running event service sent).next call reply) := by
  obtain ⟨sameId, found, inProgress, sentSame⟩ := fits
  obtain ⟨database, commands⟩ := answered
  have active : event.status.isActive := by rw [inProgress]; rfl
  -- a call that leaves the row alone and sends nothing leaves the phase as it is
  have idle : ∀ loaded : Option Service, call.commands = [] →
      (∀ q, call = .query q → q.writesEvents = false) →
      Carried rollbackEventId state after (.running event loaded sent) := by
    intro loaded silent frame
    have unsent : after.sent = state.sent := by simpa [silent] using commands
    have row := congrArg (Table.byId · rollbackEventId) (database.events frame)
    exact carried_of_row healthy unsent row
      ⟨sameId, row.trans found, inProgress, unsent.trans sentSame⟩
  cases call with
  | query q =>
      have frame : q.writesEvents = false →
          ∀ other, Call.query q = .query other → other.writesEvents = false :=
        fun silent other same => Call.query.inj same ▸ silent
      cases q with
      | insertEvent row => cases allowed
      | removeHost host => cases allowed
      | saveEvent row =>
          have unsent : after.sent = state.sent := by simpa [Call.commands] using commands
          have sameRow : row.id = rollbackEventId := allowed.id.trans sameId
          rcases database.saveEvent with ⟨error, rfl, same⟩ | ⟨rfl, events, saved, same⟩
          · exact carried_of_row healthy unsent (by rw [same]) trivial
          · change Carried rollbackEventId state after
              (if row.status.isActive then .running row service sent else .closed)
            rcases allowed.status with ⟨still, sameDate⟩ | ⟨done, dated⟩
            · rw [if_pos (by rw [still]; rfl)]
              have written : after.database.events.byId rollbackEventId = some row := by
                rw [same, ← sameRow]
                exact byId_saveEvent saved
              exact carried_save saved same healthy found sameRow active unsent
                (by rw [inProgress, still]; rfl)
                (fun _ => sameDate.trans (healthy.unset found active))
                (by rw [still]; simp) ⟨sameRow, written, still, unsent.trans sentSame⟩
            · rw [if_neg (by rw [done]; simp)]
              exact carried_save saved same healthy found sameRow active unsent
                (by rw [inProgress]; exact movesTo_of_completed done)
                (fun stillActive => by rw [done] at stillActive; cases stillActive)
                (fun pending => by rw [pending] at done; cases done) trivial
      | findService id =>
          cases reply with
          | error error => exact idle service rfl (frame rfl)
          | ok row =>
              cases row with
              | none => exact idle service rfl (frame rfl)
              | some row => exact idle (some row) rfl (frame rfl)
      | _ => exact idle service rfl (frame rfl)
  | execCommand options command =>
      have row := (congrArg (Table.byId · rollbackEventId)
        (database.events fun q absent => by cases absent)).trans found
      have sentAfter : after.sent = sent ++ [command] := sentSame ▸ commands
      exact
        { healthy :=
            { sequence := sentAfter ▸ allowed
              row := ⟨event, row, fun _ => healthy.unset found active, fun pending => by
                rw [inProgress] at pending
                cases pending⟩ }
          fits := ⟨sameId, row, inProgress, sentAfter⟩
          advances := advances_of_row (row.trans found.symm) }
  | _ => exact idle service rfl fun q absent => by cases absent

/-- A delivery that has closed its event only evaluates alerts. -/
theorem carried_closed {call : Call} {reply : Except JsError call.Reply}
    (healthy : Healthy rollbackEventId state) (ofAlerts : Call.OfAlerts call)
    (answered : Delivered.answers call state reply after) :
    Carried rollbackEventId state after .closed := by
  have silent : call.commands = [] := by
    cases call <;> first | rfl | cases ofAlerts
  have unsent : after.sent = state.sent := by simpa [silent] using answered.2
  exact carried_of_row healthy unsent (congrArg (Table.byId · rollbackEventId)
    (answered.1.events (Call.OfAlerts.writesEvents ofAlerts))) trivial

/-- One call of a delivery, by the phase it is in. -/
theorem carried_call {phase : Phase} {call : Call} {reply : Except JsError call.Reply}
    (healthy : Healthy rollbackEventId state) (fits : phase.Fits rollbackEventId state)
    (allowed : phase.Allows call) (answered : Delivered.answers call state reply after) :
    Carried rollbackEventId state after (phase.next call reply) := by
  cases phase with
  | taken id =>
      cases call with
      | query q =>
          cases q with
          | findEvent other =>
              obtain ⟨rfl, unstarted⟩ := fits
              cases (show other = id from allowed)
              obtain ⟨database, commands⟩ := answered
              have unsent : after.sent = state.sent := by
                simpa [Call.commands] using commands
              rcases database with ⟨error, -, rfl, same⟩ | ⟨replied, same⟩
              · exact carried_of_row healthy unsent (by rw [same]) trivial
              · have row : after.database.events.byId id = state.database.events.byId id := by
                  rw [same]
                  rfl
                refine carried_of_row healthy unsent row ?_
                rw [show reply = .ok (state.database.events.byId id) from replied]
                cases found : state.database.events.byId id with
                | none => trivial
                | some event =>
                    have fresh : Unstarted id after := by
                      unfold Unstarted
                      rw [row, unsent]
                      exact unstarted
                    exact ⟨(Table.byId_eq_some.mp found).2, row.trans found, fresh⟩
          | _ => cases allowed
      | _ => cases allowed
  | loaded event =>
      cases call with
      | query q =>
          cases q with
          | saveEvent row =>
              cases (show row = _ from allowed)
              exact carried_loaded healthy fits answered
          | _ => cases allowed
      | _ => cases allowed
  | running event service sent => exact carried_running healthy fits allowed answered
  | closed => exact carried_closed healthy allowed answered
  | _ => cases fits

end Call

/-! ### Runs -/

section Runs

variable {platform : Platform} {rollbackEventId : Nat}

/-- The delivery under way is in a phase that the store agrees with. -/
structure Sound (rollbackEventId : Nat) (delivery : Job Unit × Delivered) : Prop where
  healthy : Healthy rollbackEventId delivery.2
  follows : ∃ phase : Phase, phase.Fits rollbackEventId delivery.2 ∧
    delivery.1.Follows rollbackProtocol (fun _ _ => True) phase

/-- The step lemma, for a step of a delivery and for the next delivery. -/
theorem Sound.step {before after : Job Unit × Delivered}
    (sound : Sound rollbackEventId before)
    (step : DeliveryStep platform rollbackEventId (Unstarted rollbackEventId) before
      after) :
    Sound rollbackEventId after ∧
      Advances rollbackEventId before.2.database after.2.database := by
  obtain ⟨healthy, phase, fits, follows⟩ := sound
  cases step with
  | call step =>
      cases step with
      | call answered =>
          have carried := carried_call healthy fits follows.1 answered
          exact ⟨⟨carried.healthy, _, carried.fits, follows.2 _ _ rfl⟩, carried.advances⟩
  | deliver program admitted =>
      refine ⟨⟨healthy, .taken rollbackEventId, ⟨rfl, admitted⟩,
        process_follows platform rollbackEventId⟩, advances_of_row rfl⟩
  | elsewhere program database same =>
      exact ⟨⟨healthy.of_row rfl same, phase, fits.of_row rfl same, follows⟩,
        advances_of_row same⟩

/-- The run lemma, by induction on the deliveries. -/
theorem Sound.run {before after : Job Unit × Delivered}
    (sound : Sound rollbackEventId before)
    (run : Deliveries platform rollbackEventId (Unstarted rollbackEventId) before after) :
    Sound rollbackEventId after := by
  induction run with
  | refl => exact sound
  | tail _ step inductionHypothesis => exact (inductionHypothesis.step step).1

/-- A completed row outlives every later delivery. -/
theorem Sound.completed {before after : Job Unit × Delivered} {row : RollbackEvent}
    (sound : Sound rollbackEventId before)
    (found : before.2.database.events.byId rollbackEventId = some row)
    (completed : row.completedAt.isSome)
    (run : Deliveries platform rollbackEventId (Unstarted rollbackEventId) before after) :
    after.2.database.events.byId rollbackEventId = some row := by
  induction run with
  | refl => exact found
  | tail run step inductionHypothesis =>
      obtain ⟨rowAfter, foundAfter, -, unchanged⟩ :=
        ((sound.run run).step step).2 row inductionHypothesis
      rw [foundAfter, unchanged completed]

end Runs

/-- In every run in which each delivery finds the event uncompleted and nothing sent
for it yet, the commands of one rollback are sent at most once and in order, the status
moves forward one step at a time, and a completed row stays as it is. -/
theorem deliveries_run_once (platform : Platform) (event : RollbackEvent)
    (start : Delivered) (found : start.database.events.byId event.id = some event)
    (unset : event.completedAt = none) (unsent : start.sent = [])
    {delivery : Job Unit × Delivered}
    (run : Deliveries platform event.id (Unstarted event.id) (.pure (), start) delivery) :
    Sequence delivery.2.sent ∧
    (∀ next, DeliveryStep platform event.id (Unstarted event.id) delivery next →
      Advances event.id delivery.2.database next.2.database) ∧
    ∀ row, delivery.2.database.events.byId event.id = some row →
      row.completedAt.isSome → ∀ later,
        Deliveries platform event.id (Unstarted event.id) delivery later →
          later.2.database.events.byId event.id = some row := by
  have healthy : Healthy event.id start :=
    { sequence := unsent ▸ ⟨default, default, "", List.nil_prefix⟩
      row := ⟨event, found, fun _ => unset, fun _ => unsent⟩ }
  have started : Sound event.id ((.pure (), start) : Job Unit × Delivered) :=
    ⟨healthy, .closed, trivial, trivial⟩
  have sound := started.run run
  exact ⟨sound.healthy.sequence, fun next step => (sound.step step).2,
    fun row foundRow completed later continued =>
      sound.completed foundRow completed continued⟩

/-- Every query is performed, and no command succeeds. -/
def Delivered.reply (state : Delivered) :
    (call : Call) → Except JsError call.Reply × Delivered
  | .query q => ((state.database.perform q).1,
      { state with database := (state.database.perform q).2 })
  | .now => (.ok 0, state)
  | .randomBytes _ => (.ok [], state)
  | .connect _ => (.ok (), state)
  | .execCommand _ command => (.ok { stdout := "", stderr := "", code := some 1 },
      { state with sent := state.sent ++ [command] })
  | .fetch _ _ => (.ok { status := 200, body := none }, state)
  | .resolve4 _ => (.ok [], state)
  | .whois _ => (.ok .null, state)
  | .tlsConnect _ _ => (.ok default, state)
  | .addJob _ => (.ok (), state)
  | .takeJob => (.ok 0, state)
  | .addDomainCheck _ => (.ok "", state)

def Delivered.failing : Machine Calls JsError Delivered :=
  fun (call : Call) state => state.reply call

theorem Delivered.failing_answers (call : Call) (state : Delivered) :
    Delivered.answers call state (state.reply call).1 (state.reply call).2 := by
  cases call with
  | query q => exact ⟨.inr ⟨rfl, rfl⟩, (List.append_nil _).symm⟩
  | execCommand options command => exact ⟨⟨fun _ _ => trivial, rfl⟩, rfl⟩
  | _ => exact ⟨⟨fun _ _ => trivial, rfl⟩, (List.append_nil _).symm⟩

/-- Where a delivery that is not cut short ends. -/
def wholeDelivery (platform : Platform) (rollbackEventId : Nat) (state : Delivered) :
    Job Unit × Delivered :=
  (.ofExcept ((process platform rollbackEventId).run Delivered.failing state).1,
    ((process platform rollbackEventId).run Delivered.failing state).2)

/-- A delivery that runs to its end. -/
theorem deliveries_whole {platform : Platform} {rollbackEventId : Nat}
    {admits : Delivered → Prop} (delivery : Job Unit × Delivered)
    (admitted : admits delivery.2) :
    Deliveries platform rollbackEventId admits delivery
      (wholeDelivery platform rollbackEventId delivery.2) := by
  obtain ⟨program, state⟩ := delivery
  have steps := Program.run_steps Delivered.failing Delivered.failing_answers
    (process platform rollbackEventId) state
  exact .head (.deliver program admitted)
    (Relation.ReflTransGen.mono (fun _ _ => .call) _ _ steps)

def requestedDelivery : Delivered :=
  { database := requestedDatabase webConfigBlob
    sent := [] }

/-- A delivery after its next call. -/
def nextCall : Job Unit × Delivered → Job Unit × Delivered
  | (.call op rest, state) => (rest (state.reply op).1, (state.reply op).2)
  | finished => finished

/-- A delivery that makes its next call. -/
theorem deliveries_nextCall {platform : Platform} {rollbackEventId : Nat}
    {admits : Delivered → Prop} (delivery : Job Unit × Delivered) :
    Deliveries platform rollbackEventId admits delivery (nextCall delivery) := by
  obtain ⟨program, state⟩ := delivery
  cases program with
  | call op rest => exact .single (.call (.call (Delivered.failing_answers op state)))
  | pure value => exact .refl
  | throw error => exact .refl

def loadedDelivery : Job Unit × Delivered :=
  nextCall (process Platform.transparent requestedRollback.id, requestedDelivery)

/-- The first delivery stops once it has set the event in progress. -/
def brokenDelivery : Job Unit × Delivered :=
  nextCall loadedDelivery

theorem unstarted_requestedDelivery :
    Unstarted requestedRollback.id requestedDelivery := by
  intro row found
  cases (show some requestedRollback = some row from found)
  exact .inl rfl

theorem brokenDelivery_row : brokenDelivery.2.database.events.byId requestedRollback.id =
    some { requestedRollback with status := .inProgress } := by
  decide

theorem brokenDelivery_sent : brokenDelivery.2.sent = [] := by
  decide

/-- A delivery that broke off before any command leaves the event unstarted. -/
theorem unstarted_brokenDelivery : Unstarted requestedRollback.id brokenDelivery.2 := by
  intro row found
  cases brokenDelivery_row.symm.trans found
  exact .inr ⟨rfl, brokenDelivery_sent⟩

/-- The delivery that breaks off after it marked the event. -/
theorem deliveries_broken : Deliveries Platform.transparent requestedRollback.id
    (Unstarted requestedRollback.id) (.pure (), requestedDelivery) brokenDelivery := by
  refine .head (.deliver _ unstarted_requestedDelivery) ?_
  refine .trans (deliveries_nextCall _) ?_
  exact deliveries_nextCall loadedDelivery

/-- The second delivery finds the event in progress, and sends the commands. -/
theorem second_delivery_runs_once :
    (brokenDelivery.2.database.events.byId requestedRollback.id).map RollbackEvent.status =
        some .inProgress ∧
      Sequence (wholeDelivery Platform.transparent requestedRollback.id
        brokenDelivery.2).2.sent := by
  refine ⟨congrArg (Option.map RollbackEvent.status) brokenDelivery_row, ?_⟩
  exact (deliveries_run_once Platform.transparent requestedRollback requestedDelivery rfl rfl
    rfl (deliveries_broken.trans
      (deliveries_whole brokenDelivery unstarted_brokenDelivery))).1

/-- A job whose `docker run` fails and that is delivered twice stops, removes and runs
twice, and rewrites the row it had completed. -/
theorem redelivery_repeats_commands :
    ∃ first second,
      Deliveries Platform.transparent requestedRollback.id (fun _ => True)
        (.pure (), requestedDelivery) first ∧
      Deliveries Platform.transparent requestedRollback.id (fun _ => True) first second ∧
      (first.2.database.events.byId requestedRollback.id).map
        (fun row => (row.status, row.completedAt, row.logOutput.length)) =
        some (.failed, some 0, 5) ∧
      (second.2.database.events.byId requestedRollback.id).map
        (fun row => (row.status, row.completedAt, row.logOutput.length)) =
        some (.failed, some 0, 10) ∧
      first.2.sent.length = 4 ∧ second.2.sent = first.2.sent ++ first.2.sent := by
  refine ⟨_, _, deliveries_whole (.pure (), requestedDelivery) trivial,
    deliveries_whole _ trivial, ?_⟩
  decide +kernel

end ServersManager
