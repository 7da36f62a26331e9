/-
Module: ServersManager.RollbackRequest
Purpose: One request for a rollback while any of its calls may fail: when a failed
  request has left no active rollback behind.
Trusted boundary: none
Main exports:
  Requesting, failingAt, Requestable, RequestAtomic, enqueueRollback_atomic_iff
-/
import ServersManager.RollbackProtocol

namespace ServersManager

open Library

/-! ### Failing surroundings -/

/-- The database, the jobs in the queue, and how many calls have been made. -/
structure Requesting where
  database : Database
  jobs : List Nat
  calls : Nat

def Requesting.start (database : Database) (jobs : List Nat) : Requesting :=
  { database := database
    jobs := jobs
    calls := 0 }

/-- The state after a call that has changed nothing. -/
def Requesting.ticked (state : Requesting) : Requesting :=
  { state with calls := state.calls + 1 }

@[simp] theorem Requesting.start_database (database : Database) (jobs : List Nat) :
    (start database jobs).database = database := rfl

@[simp] theorem Requesting.ticked_database (state : Requesting) :
    state.ticked.database = state.database := rfl

/-- The answer to a call that does not fail. -/
def Requesting.reply (state : Requesting) :
    (call : Call) → Except JsError call.Reply × Requesting
  | .query q =>
      ((state.database.perform q).1,
        { state.ticked with database := (state.database.perform q).2 })
  | .addJob id => (.ok (), { state.ticked with jobs := state.jobs ++ [id] })
  | call => ((Surroundings.quiet.answer state.database call).1, state.ticked)

/-- The `n`-th call fails where `fault n` says so, and has then changed nothing. -/
def failingAt (fault : Nat → Option JsError) : Machine Calls JsError Requesting :=
  fun (call : Call) state =>
    match fault state.calls with
    | some error => (.error error, state.ticked)
    | none => state.reply call

/-! ### What a request promises -/

/-- The rollbacks that are pending or in progress. -/
def activeEvents (db : Database) : List RollbackEvent :=
  db.events.find fun event => event.status.isActive

/-- A request that throws leaves the active rollbacks as they were; one that returns an
event has put its job into the queue. -/
structure RequestAtomic (before after : Requesting)
    (outcome : Except JsError RollbackEvent) : Prop where
  thrown : ∀ error, outcome = .error error →
    activeEvents after.database = activeEvents before.database
  returned : ∀ event, outcome = .ok event → after.jobs = before.jobs ++ [event.id]

/-- The request passes every check: the service is the organization's, the snapshot is
the service's, there is a current snapshot, and no rollback is active. -/
def Requestable (db : Database) (request : RollbackRequest) : Prop :=
  ∃ service,
    (db.services.findOne fun service =>
      service.id == request.serviceId && service.orgId == request.orgId) =
        some service ∧
    (db.snapshots.findOne fun snapshot =>
      snapshot.id == request.targetSnapshotId &&
        snapshot.serviceId == service.id).isSome ∧
    (db.snapshots.findOne fun snapshot =>
      snapshot.serviceId == service.id && snapshot.isCurrent).isSome ∧
    (db.events.findOne fun event =>
      event.serviceId == service.id && event.status.isActive) = none

theorem requestAtomic_of_refused {before after : Requesting}
    {outcome : Except JsError RollbackEvent} {error : JsError}
    (refused : outcome = .error error)
    (same : after.database.events = before.database.events) :
    RequestAtomic before after outcome where
  thrown _ _ := by rw [activeEvents, activeEvents, same]
  returned event absent := by
    rw [refused] at absent
    cases absent

section Runs

variable {fault : Nat → Option JsError} {state : Requesting} {request : RollbackRequest}

theorem failingAt_fault {error : JsError} (call : Call)
    (fails : fault state.calls = some error) :
    failingAt fault call state = (.error error, state.ticked) := by
  unfold failingAt
  rw [fails]

theorem failingAt_served (call : Call) (served : fault state.calls = none) :
    failingAt fault call state = state.reply call := by
  unfold failingAt
  rw [served]

/-- No index refuses the event of a service without an active rollback. -/
theorem exists_insert_event {events : Table RollbackEvent} {event : RollbackEvent}
    (free : (events.findOne fun other =>
      other.serviceId == event.serviceId && other.status.isActive) = none) :
    ∃ after, events.insert (fun id => { event with id := id }) = some after := by
  refine Option.ne_none_iff_exists'.mp fun refused => ?_
  obtain ⟨other, member, -, key, rowKey, otherKey⟩ := Table.insert_eq_none.mp refused
  have inactive := Table.findOne_none.mp free other member
  simp only [Keyed.index, Option.mem_def] at rowKey otherKey
  split at rowKey
  · split at otherKey
    · next active =>
      have same := (Option.some.inj otherKey).trans (Option.some.inj rowKey).symm
      simp [same, active] at inactive
    · cases otherKey
  · cases rowKey

theorem run_query_fault {α : Type} {q : Query} {rest : q.Reply → Job α} {error : JsError}
    (fails : fault state.calls = some error) :
    ((query q).bind rest).run (failingAt fault) state = (.error error, state.ticked) := by
  rw [Program.run_bind, run_query, failingAt_fault _ fails]
  rfl

theorem activeEvents_insert {before after : Database} {row : RollbackEvent}
    (inserted : after.events.rows = before.events.rows ++ [row])
    (pending : row.status = .pending) :
    activeEvents after = activeEvents before ++ [row] := by
  unfold activeEvents Table.find
  rw [inserted, List.filter_append, List.filter_cons_of_pos (by rw [pending]; rfl),
    List.filter_nil]

/-- The `try` block: what has been inserted stays, whatever becomes of the job. -/
theorem insertAndEnqueue_atomic_iff {event : RollbackEvent}
    {handler : JsError → Job RollbackEvent} (rethrows : ∀ error, ∃ thrown,
      handler error = .throw thrown)
    (pending : event.status = .pending)
    (free : (state.database.events.findOne fun other =>
      other.serviceId == event.serviceId && other.status.isActive) = none)
    {before : Requesting} (events : state.database.events = before.database.events)
    (jobs : state.jobs = before.jobs) :
    RequestAtomic before
        (((insertAndEnqueue event).tryCatch handler).run (failingAt fault) state).2
        (((insertAndEnqueue event).tryCatch handler).run (failingAt fault) state).1 ↔
      (fault state.calls = none → fault (state.calls + 1) = none) := by
  obtain ⟨⟨row, after⟩, inserts⟩ := exists_insert_event free
  have written := Table.insert_rows rfl inserts
  have status : row.status = .pending := by
    rw [(Table.insert_eq_some.mp inserts).1]
    exact pending
  let inserted : Requesting :=
    { state.ticked with database := { state.database with events := after } }
  rw [Program.run_tryCatch]
  cases first : fault state.calls with
  | some error =>
      obtain ⟨thrown, rethrown⟩ := rethrows error
      have ends : (insertAndEnqueue event).run (failingAt fault) state =
          (.error error, state.ticked) := run_query_fault first
      rw [ends, recover_error, rethrown]
      exact iff_of_true (requestAtomic_of_refused rfl events) fun absent => by cases absent
  | none =>
      have inserting : (insertAndEnqueue event).run (failingAt fault) state =
          ((request (.addJob row.id)).bind fun _ => .pure row).run (failingAt fault)
            inserted := by
        rw [insertAndEnqueue, Program.bind_eq, Program.run_bind, run_query,
          failingAt_served _ first]
        simp only [Requesting.reply, Database.perform, Database.answer, inserts,
          Option.map_some]
        rfl
      have added : activeEvents inserted.database = activeEvents before.database ++ [row] := by
        rw [activeEvents_insert written status, activeEvents, activeEvents, events]
      rw [inserting, Program.run_bind, run_request]
      cases second : fault (state.calls + 1) with
      | some error =>
          obtain ⟨thrown, rethrown⟩ := rethrows error
          have fails : failingAt fault (Call.addJob row.id) inserted =
              (.error error, inserted.ticked) := failingAt_fault _ second
          rw [fails]
          change RequestAtomic before ((handler error).run (failingAt fault) inserted.ticked).2
            ((handler error).run (failingAt fault) inserted.ticked).1 ↔ _
          rw [rethrown]
          apply iff_of_false
          · intro atomic
            have same := added.symm.trans (atomic.thrown thrown rfl)
            simp at same
          · intro served
            cases served rfl
      | none =>
          have queues : failingAt fault (Call.addJob row.id) inserted =
              inserted.reply (.addJob row.id) := failingAt_served _ second
          rw [queues]
          apply iff_of_true
          · constructor
            · intro thrown absent
              cases absent
            · rintro returned ⟨⟩
              exact congrArg (· ++ [row.id]) jobs
          · exact fun _ => rfl

/-- The rest of a request, from a state in which nothing has been written. -/
def Promises (fault : Nat → Option JsError) (before : Requesting)
    (program : Job RollbackEvent) (state : Requesting) : Prop :=
  RequestAtomic before (program.run (failingAt fault) state).2
    (program.run (failingAt fault) state).1

/-- A lookup ends the request where it fails. -/
theorem promises_read {q : Query} {found : q.Reply} {rest : q.Reply → Job RollbackEvent}
    {before : Requesting} (events : state.database.events = before.database.events)
    (reads : state.database.perform q = (.ok found, state.database)) :
    Promises fault before ((query q).bind rest) state ↔
      (fault state.calls = none → Promises fault before (rest found) state.ticked) := by
  unfold Promises
  cases first : fault state.calls with
  | some error =>
      rw [run_query_fault first]
      exact iff_of_true (requestAtomic_of_refused rfl events) nofun
  | none =>
      rw [Program.run_bind, run_query, failingAt_served _ first]
      simp only [Requesting.reply, reads, resume_ok, forall_const]
      rfl

theorem promises_throw {before : Requesting} {error : JsError}
    (events : state.database.events = before.database.events) :
    Promises fault before (.throw error) state :=
  requestAtomic_of_refused rfl events

end Runs

/-! ### When a request keeps its promise -/

/-- The checks of a request one after another, and how far each of them lets it go. -/
theorem requestable_iff {db : Database} {request : RollbackRequest} {first second third
    fourth rest : Prop} :
    (Requestable db request → first ∧ second ∧ third ∧ fourth → rest) ↔
      (first → ∀ service, (db.services.findOne fun service =>
          service.id == request.serviceId && service.orgId == request.orgId) =
            some service →
        second → ∀ target, (db.snapshots.findOne fun snapshot =>
            snapshot.id == request.targetSnapshotId &&
              snapshot.serviceId == service.id) = some target →
          third → ∀ current, (db.snapshots.findOne fun snapshot =>
              snapshot.serviceId == service.id && snapshot.isCurrent) = some current →
            fourth → (db.events.findOne fun event =>
                event.serviceId == service.id && event.status.isActive) = none → rest) := by
  constructor
  · intro holds one service owned two target belongs three current stands four free
    exact holds ⟨service, owned, Option.isSome_iff_exists.mpr ⟨target, belongs⟩,
      Option.isSome_iff_exists.mpr ⟨current, stands⟩, free⟩ ⟨one, two, three, four⟩
  · rintro holds ⟨service, owned, belongs, stands, free⟩ ⟨one, two, three, four⟩
    obtain ⟨target, belongs⟩ := Option.isSome_iff_exists.mp belongs
    obtain ⟨current, stands⟩ := Option.isSome_iff_exists.mp stands
    exact holds one service owned two target belongs three current stands four free

/-- A request that throws has left no active rollback behind, and one that returns has
queued its job, unless every check passes, the event is inserted, and then the queue
refuses the job. -/
theorem enqueueRollback_atomic_iff (fault : Nat → Option JsError)
    (request : RollbackRequest) (db : Database) (jobs : List Nat) :
    let ended := (enqueueRollback request.orgId request.serviceId
      request.targetSnapshotId request.triggeredByUserId).run (failingAt fault)
        (.start db jobs)
    RequestAtomic (.start db jobs) ended.2 ended.1 ↔
      (Requestable db request → (∀ n < 5, fault n = none) → fault 5 = none) := by
  have calls : (∀ n < 5, fault n = none) ↔
      (fault 0 = none ∧ fault 1 = none ∧ fault 2 = none ∧ fault 3 = none) ∧
        fault 4 = none := by
    constructor
    · intro served
      exact ⟨⟨served 0 (by decide), served 1 (by decide), served 2 (by decide),
        served 3 (by decide)⟩, served 4 (by decide)⟩
    · rintro ⟨⟨zero, one, two, three⟩, four⟩ n bound
      interval_cases n <;> assumption
  rw [calls]
  have stages : (Requestable db request →
      fault 0 = none ∧ fault 1 = none ∧ fault 2 = none ∧ fault 3 = none →
        (fault 4 = none → fault 5 = none)) ↔ _ := requestable_iff
  simp only [and_imp] at stages ⊢
  rw [stages]
  change Promises fault (.start db jobs) _ _ ↔ _
  unfold enqueueRollback findOneForOrgOrThrow findOneForServiceOrThrow
    findCurrentForService
  simp only [Program.bind_eq, Program.bind_assoc]
  refine Iff.trans (promises_read rfl rfl) (imp_congr_right fun _ => ?_)
  simp only [Requesting.start_database]
  cases db.services.findOne fun service =>
      service.id == request.serviceId && service.orgId == request.orgId with
  | none => exact iff_of_true (promises_throw rfl) nofun
  | some service =>
  simp only [Option.some.injEq, forall_eq', Program.pure_eq, Program.pure_bind]
  refine Iff.trans (promises_read rfl rfl) (imp_congr_right fun _ => ?_)
  simp only [Requesting.start_database, Requesting.ticked_database]
  cases db.snapshots.findOne fun snapshot =>
      snapshot.id == request.targetSnapshotId && snapshot.serviceId == service.id with
  | none => exact iff_of_true (promises_throw rfl) nofun
  | some target =>
  simp only [Option.some.injEq, forall_eq', Program.pure_bind]
  refine Iff.trans (promises_read rfl rfl) (imp_congr_right fun _ => ?_)
  simp only [Requesting.start_database, Requesting.ticked_database]
  cases db.snapshots.findOne fun snapshot =>
      snapshot.serviceId == service.id && snapshot.isCurrent with
  | none => exact iff_of_true (promises_throw rfl) nofun
  | some current =>
  simp only [Option.some.injEq, forall_eq']
  refine Iff.trans (promises_read rfl rfl) (imp_congr_right fun _ => ?_)
  simp only [Requesting.start_database, Requesting.ticked_database]
  cases free : db.events.findOne fun event =>
      event.serviceId == service.id && event.status.isActive with
  | some active => exact iff_of_true (promises_throw rfl) nofun
  | none =>
  simp only [forall_const]
  refine insertAndEnqueue_atomic_iff ?_ rfl free rfl rfl
  intro error
  split
  · exact ⟨_, rfl⟩
  · exact ⟨_, rfl⟩

/-! ### A queue that is down -/

/-- One service with its current snapshot, and no rollback. -/
def unrolledDatabase : Database :=
  { requestedDatabase webConfigBlob with events := default }

def queueDown (call : Nat) : Option JsError :=
  if call = 5 then some (.queryFailed "ECONNREFUSED" "connect ECONNREFUSED") else none

/-- The request throws, but its event is pending for good: no job will ever run it, and
every later request for the service is refused. -/
theorem refused_job_stays_active :
    let ended := (enqueueRollback 6 1 4 5).run (failingAt queueDown)
      (.start unrolledDatabase [])
    ended.1.toOption = none ∧
      (activeEvents unrolledDatabase).length = 0 ∧
      (activeEvents ended.2.database).map RollbackEvent.status = [.pending] ∧
      ended.2.jobs = [] ∧
      ¬ RequestAtomic (.start unrolledDatabase []) ended.2 ended.1 := by
  intro ended
  have thrown : ended.1.toOption = none := by decide
  have idle : (activeEvents unrolledDatabase).length = 0 := by decide
  have active : (activeEvents ended.2.database).map RollbackEvent.status = [.pending] := by
    decide
  refine ⟨thrown, idle, active, by decide, ?_⟩
  intro atomic
  cases outcome : ended.1 with
  | ok event =>
      rw [outcome] at thrown
      cases thrown
  | error error =>
      have same := congrArg List.length (atomic.thrown error outcome)
      have one := congrArg List.length active
      rw [List.length_map] at one
      exact absurd (one.symm.trans (same.trans idle)) (by decide)

end ServersManager
