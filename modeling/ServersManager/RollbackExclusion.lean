/-
Module: ServersManager.RollbackExclusion
Purpose: In every interleaving of requests for rollbacks and of their jobs, each service has
  one active rollback, of the requesting organization, and the commands of one at a time
  are sent to the host.
Trusted boundary: none
Main exports:
  TakesTurns, Refused, Exclusive, rollbacks_exclusive
-/
import ServersManager.RollbackQueue

namespace ServersManager

open Library

/-! ### Any interleaving -/

section Interleaving

variable {ι : Type} [DecidableEq ι]

/-- The phases of a request, which takes no job. -/
def Phase.OfRequest : Phase → Prop
  | .begun _ | .owned _ _ | .targeted _ _ _ | .based _ _ | .inserted _ | .closed => True
  | _ => False

theorem Phase.OfRequest.next {phase : Phase} (ofRequest : phase.OfRequest) (call : Call)
    (reply : Except JsError call.Reply) : (phase.next call reply).OfRequest := by
  unfold Phase.next
  split <;> trivial

/-- Requests keep to the phases of a request. -/
structure Exclusion (participants : ι → Participant) (phases : ι → Phase)
    (store : RollbackStore ι) : Prop where
  orderly : Orderly participants phases store
  requests : ∀ thread request, participants thread = .caller request →
    (phases thread).OfRequest

/-- Each call of a request or of a job keeps the exclusion. -/
theorem exclusion_keeps (participants : ι → Participant) :
    Pool.Keeps (fun _ => rollbackProtocol) rollbackAnswers (Exclusion participants) := by
  intro phases store thread call reply after exclusion allowed answered
  refine ⟨_, rfl, exclusion.orderly.step allowed answered, ?_⟩
  intro other request isCaller
  by_cases same : other = thread
  · subst other
    rw [Function.update_self]
    exact (exclusion.requests thread request isCaller).next call reply
  · rw [Function.update_of_ne same]
    exact exclusion.requests other request isCaller

omit [DecidableEq ι] in
/-- It holds as long as no one has made a call. -/
theorem exclusion_start (participants : ι → Participant) (database : Database)
    (empty : ∀ event, event ∉ database.events) :
    Exclusion participants (fun thread => (participants thread).phase)
      (.start database) := by
  constructor
  · constructor
    · intro thread
      cases participants thread with
      | caller request =>
          refine ⟨rfl, ?_⟩
          intro id inserted
          cases inserted
      | worker =>
          intro id taken
          cases taken
    · apply Custody.start
      intro thread
      rw [Function.comp_apply]
      cases participants thread <;> rfl
    · intro thread first second taken
      cases taken
    · intro thread commanded
      cases commanded
    · exact .nil
    · intro event member
      exact (empty event member).elim
  · intro thread request isCaller
    rw [isCaller]
    trivial

/-- In every pool that is reached, each thread is in a phase that it can rely on. -/
theorem exclusion_of_reaches (platform : Platform) (participants : ι → Participant)
    (start : Database) (empty : ∀ event, event ∉ start.events)
    {pool : Pool Calls JsError ι (Option RollbackEvent) (RollbackStore ι)}
    (reaches : Pool.Reaches rollbackAnswers (rollbackPool platform participants start) pool) :
    ∃ phases, pool.Follows (fun _ => rollbackProtocol) (fun _ _ _ => True) phases ∧
      Exclusion participants phases pool.store := by
  apply reaches.invariant (exclusion_keeps participants)
  · intro thread
    exact (participants thread).program_follows platform
  · exact exclusion_start participants start empty

end Interleaving

/-! ### Requests that lose -/

/-- What follows where a request asks for an active rollback of the service, or inserts
its own. -/
def RejectsActive (call : Call)
    (next : Except JsError call.Reply → Job (Option RollbackEvent)) : Prop :=
  match call, next with
  | .query (.findActiveEvent _), next =>
      (∀ active, ∃ message, next (.ok (some active)) = .throw (.conflict message)) ∧
        ∀ error, next (.error error) = .throw error
  | .query (.insertEvent _), next =>
      (∃ message, next (.error uniqueViolation) = .throw (.conflict message)) ∧
        ∀ error, ∃ thrown, next (.error error) = .throw thrown
  | _, _ => True

theorem throughout_query {q : Query} {rest : q.Reply → Job (Option RollbackEvent)}
    (rejects : RejectsActive (.query q) fun reply => (Program.ofExcept reply).bind rest)
    (returns : ∀ value, (rest value).Throughout RejectsActive) :
    ((query q).bind rest).Throughout RejectsActive := by
  refine ⟨rejects, ?_⟩
  intro reply
  cases reply with
  | ok value => exact returns value
  | error error => trivial

/-- Either branch of the handler throws. -/
theorem throughout_recovered {condition : Prop} [Decidable condition]
    {first second : JsError} (rest : RollbackEvent → Job (Option RollbackEvent)) :
    Program.Throughout RejectsActive (Program.bind
      (if condition then throw first else throw second : Job RollbackEvent) rest) := by
  split
  · trivial
  · trivial

/-- A request rejects wherever it meets an active rollback, before and at its insert. -/
theorem enqueueRollback_rejects (platform : Platform) (request : RollbackRequest) :
    ((Participant.caller request).program platform).Throughout RejectsActive := by
  unfold Participant.program enqueueRollback findOneForOrgOrThrow findOneForServiceOrThrow
    findCurrentForService
  simp only [Program.bind_eq, Program.bind_assoc]
  apply throughout_query
  · trivial
  intro found
  cases found with
  | none => trivial
  | some service =>
  apply throughout_query
  · trivial
  intro found
  cases found with
  | none => trivial
  | some target =>
  apply throughout_query
  · trivial
  intro found
  cases found with
  | none => trivial
  | some current =>
  dsimp only
  rw [Program.bind_assoc]
  apply throughout_query
  · constructor
    · intro active
      exact ⟨_, rfl⟩
    · intro error
      rfl
  intro found
  cases found with
  | some active => trivial
  | none =>
  apply And.intro
  · constructor
    · exact ⟨_, rfl⟩
    · intro error
      change ∃ thrown, Program.bind (if isUniqueViolation error = true then _ else _) _ =
        Program.throw thrown
      split
      · exact ⟨_, rfl⟩
      · exact ⟨_, rfl⟩
  · intro reply
    cases reply with
    | error error =>
        exact throughout_recovered _
    | ok row =>
        apply And.intro
        · trivial
        · intro added
          cases added with
          | ok value => trivial
          | error error =>
              exact throughout_recovered _

/-! ### All requests and jobs -/

section Exclusive

variable {ι : Type} [DecidableEq ι]

/-- The thread's next call is a command to its host. -/
def AtCommand (pool : Pool Calls JsError ι (Option RollbackEvent) (RollbackStore ι))
    (thread : ι) : Prop :=
  ∃ options command next, pool.threads thread = .call (Call.execCommand options command) next

/-- The commands of two threads do not overlap: none are at commands together, and the one
that was first has sent its last before the other one sends any. -/
structure TakesTurns
    (pool : Pool Calls JsError ι (Option RollbackEvent) (RollbackStore ι))
    (first second : ι) : Prop where
  together : ¬ (AtCommand pool first ∧ AtCommand pool second)
  finished : [first, second].Sublist pool.store.history.commands → ¬ AtCommand pool first
  apart : ¬ [first, second, first].Sublist pool.store.history.commands

/-- A query by which a request learns of an active rollback. -/
def Query.MeetsActive : Query → Prop
  | .findActiveEvent _ | .insertEvent _ => True
  | _ => False

/-- The request ends with an error and without a row; the error is a conflict unless the
query failed. -/
structure Refused (thread : ι) (before after : RollbackStore ι) (q : Query)
    (reply : Except JsError q.Reply) (rest : Job (Option RollbackEvent)) : Prop where
  throws : ∃ error, rest = .throw error ∧
    (reply = (before.database.perform q).1 → ∃ message, error = .conflict message)
  events : after.database.events = before.database.events
  rowless : ∀ id, (thread, id) ∉ after.history.inserts

structure Exclusive (participants : ι → Participant)
    (pool : Pool Calls JsError ι (Option RollbackEvent) (RollbackStore ι)) : Prop where
  active : ∀ first ∈ pool.store.database.events, ∀ second ∈ pool.store.database.events,
    first.status.isActive = true → second.status.isActive = true →
    first.serviceId = second.serviceId → first = second
  inserted : ∀ event ∈ pool.store.database.events, InsertedBy participants pool.store event
  turns : ∀ first second, first ≠ second → SameService pool.store first second →
    TakesTurns pool first second
  losers : ∀ thread request, participants thread = .caller request →
    ∀ (q : Query) next reply after, pool.threads thread = .call (Call.query q) next →
    q.MeetsActive → rollbackAnswers thread (Call.query q) pool.store reply after →
    (∃ active ∈ pool.store.database.events, active.serviceId = request.serviceId ∧
      active.status.isActive = true) →
    Refused thread pool.store after q reply (next reply)

variable {participants : ι → Participant} {phases : ι → Phase}
  {pool : Pool Calls JsError ι (Option RollbackEvent) (RollbackStore ι)}

omit [DecidableEq ι] in
/-- A thread that is at a command is running. -/
theorem AtCommand.running {thread : ι} (atCommand : AtCommand pool thread)
    (follows : pool.Follows (fun _ => rollbackProtocol) (fun _ _ _ => True) phases) :
    ∃ event service sent, phases thread = .running event service sent := by
  obtain ⟨options, command, next, current⟩ := atCommand
  have here := follows thread
  rw [current] at here
  have allowed : (phases thread).Allows (.execCommand options command) := here.1
  cases phase : phases thread with
  | running event service sent => exact ⟨event, service, sent, rfl⟩
  | _ =>
      rw [phase] at allowed
      exact allowed.elim

omit [DecidableEq ι] in
/-- Of two jobs of one service, the later one starts its commands when the earlier one is
done. -/
theorem Orderly.takesTurns (orderly : Orderly participants phases pool.store)
    (follows : pool.Follows (fun _ => rollbackProtocol) (fun _ _ _ => True) phases)
    {first second : ι} (differs : first ≠ second)
    (same : SameService pool.store first second) : TakesTurns pool first second := by
  constructor
  · rintro ⟨firstAt, secondAt⟩
    obtain ⟨event, service, sent, firstRuns⟩ := firstAt.running follows
    obtain ⟨other, otherService, otherSent, secondRuns⟩ := secondAt.running follows
    exact differs (orderly.alone secondRuns firstRuns same)
  · intro both firstAt
    obtain ⟨event, service, sent, firstRuns⟩ := firstAt.running follows
    have done := orderly.turns.past first second differs same both
    rw [firstRuns] at done
    cases done
  · exact orderly.turns.apart first second differs same

/-- The index refuses a second active rollback of a service. -/
theorem insertEvent_refused {db : Database} {active row : RollbackEvent}
    (member : active ∈ db.events) (sameService : active.serviceId = row.serviceId)
    (isActive : active.status.isActive = true) (rowActive : row.status.isActive = true) :
    db.perform (.insertEvent row) = (.error uniqueViolation, db) := by
  have clashes : db.events.Clashes { row with id := db.events.nextId } := by
    refine ⟨active, member, ?_, row.serviceId, ?_, ?_⟩
    · exact Nat.ne_of_lt (db.events.below active member)
    · simp [Keyed.index, rowActive]
    · simp [Keyed.index, isActive, sameService]
  have refused : db.events.insert (fun id => { row with id := id }) = none :=
    Table.insert_eq_none.mpr clashes
  unfold Database.perform
  dsimp only
  rw [refused]
  rfl

omit [DecidableEq ι] in
/-- What the database answers to a query that meets an active rollback. -/
theorem Orderly.meets (orderly : Orderly participants phases pool.store) {thread : ι}
    {service : Service} {event : RollbackEvent}
    (current : phases thread = .based service event) {q : Query}
    (meets : q.MeetsActive) (allowed : (phases thread).Allows (.query q))
    {active : RollbackEvent} (member : active ∈ pool.store.database.events)
    (sameService : active.serviceId = service.id)
    (isActive : active.status.isActive = true)
    {next : Except JsError q.Reply → Job (Option RollbackEvent)}
    (rejects : RejectsActive (.query q) next) {reply : Except JsError q.Reply}
    {after : RollbackStore ι}
    (answered : rollbackAnswers thread (Call.query q) pool.store reply after) :
    Refused thread pool.store after q reply (next reply) := by
  have stands := orderly.stands thread
  rw [current] at stands allowed
  obtain ⟨request, ⟨-, rowless⟩, ofService, pending, -⟩ := stands
  cases q with
  | findActiveEvent serviceId =>
      obtain rfl : serviceId = service.id := allowed
      obtain ⟨rfl, found⟩ := rollbackAnswers_lookup rfl rfl answered
      refine ⟨?_, rfl, rowless⟩
      cases reply with
      | error error =>
          refine ⟨error, rejects.2 error, ?_⟩
          intro absurd
          cases absurd
      | ok value =>
          have isFound := found value rfl
          cases value with
          | none =>
              have none_active := Table.findOne_none.mp isFound.symm active member
              simp [sameService, isActive] at none_active
          | some other =>
              obtain ⟨message, throws⟩ := rejects.1 other
              exact ⟨_, throws, fun _ => ⟨message, rfl⟩⟩
  | insertEvent row =>
      obtain rfl : row = event := allowed
      obtain ⟨database, -, sameHistory⟩ := answered
      have performs : pool.store.database.perform (.insertEvent row) =
          (.error uniqueViolation, pool.store.database) := by
        apply insertEvent_refused member (sameService.trans ofService) isActive
        rw [pending]
        rfl
      have failed : ∃ error, reply = .error error ∧ after.database = pool.store.database := by
        rcases database with ⟨error, -, replied, same⟩ | ⟨replied, same⟩
        · exact ⟨error, replied, same⟩
        · rw [performs] at replied same
          exact ⟨uniqueViolation, replied, same⟩
      obtain ⟨error, rfl, same⟩ := failed
      have history : after.history = pool.store.history := sameHistory
      constructor
      · obtain ⟨thrown, throws⟩ := rejects.2 error
        refine ⟨thrown, throws, ?_⟩
        intro isViolation
        rw [performs] at isViolation
        cases isViolation
        obtain ⟨message, conflicts⟩ := rejects.1
        rw [conflicts] at throws
        cases throws
        exact ⟨message, rfl⟩
      · rw [same]
      · rw [history]
        exact rowless
  | _ => exact meets.elim

/-- Any number of requests and of jobs, each delivered once, in any order, with any call
failing. -/
theorem rollbacks_exclusive (platform : Platform) (participants : ι → Participant)
    (start : Database) (empty : ∀ event, event ∉ start.events)
    (reaches : Pool.Reaches rollbackAnswers (rollbackPool platform participants start) pool) :
    Exclusive participants pool := by
  obtain ⟨phases, follows, exclusion⟩ :=
    exclusion_of_reaches platform participants start empty reaches
  constructor
  · intro first firstMember second secondMember firstActive secondActive same
    have firstKey : Keyed.index first = some first.serviceId := if_pos firstActive
    have secondKey : Keyed.index second = some first.serviceId := by
      rw [same]
      exact if_pos secondActive
    exact Table.eq_of_index firstMember secondMember firstKey secondKey
  · exact exclusion.orderly.accounted
  · intro first second differs same
    exact exclusion.orderly.takesTurns follows differs same
  · rintro thread request isCaller q next reply after current meets answered
      ⟨active, member, sameService, isActive⟩
    have rejects : (pool.threads thread).Throughout RejectsActive := by
      apply reaches.throughout
      change ((participants thread).program platform).Throughout RejectsActive
      rw [isCaller]
      exact enqueueRollback_rejects platform request
    have here := follows thread
    rw [current] at rejects here
    have allowed : (phases thread).Allows (.query q) := here.1
    have ofRequest := exclusion.requests thread request isCaller
    have stands := exclusion.orderly.stands thread
    -- of the phases of a request only the one before the insert allows such a query
    cases phase : phases thread with
    | based service event =>
        rw [phase, isCaller] at stands
        obtain ⟨other, ⟨sameCaller, -⟩, ofService, -, requested⟩ := stands
        cases sameCaller
        have ofRequested : active.serviceId = service.id := by
          rw [sameService, ofService, requested.service]
        exact exclusion.orderly.meets phase meets allowed member ofRequested isActive
          rejects.1 answered
    | begun other =>
        rw [phase] at allowed
        cases q <;> first | exact meets.elim | exact allowed.elim
    | owned other service =>
        rw [phase] at allowed
        cases q <;> first | exact meets.elim | exact allowed.elim
    | targeted other service target =>
        rw [phase] at allowed
        cases q <;> first | exact meets.elim | exact allowed.elim
    | inserted event =>
        rw [phase] at allowed
        exact allowed.elim
    | closed =>
        rw [phase] at allowed
        cases q <;> first | exact meets.elim | exact allowed.elim
    | _ =>
        rw [phase] at ofRequest
        exact ofRequest.elim

end Exclusive

/-! ### Requests and their jobs -/

/-- No call fails but the taking of a job where there is none. -/
def rollbackMachine {ι : Type} (surroundings : Surroundings) (thread : ι) :
    Machine Calls JsError (RollbackStore ι) := fun (call : Call) store =>
  match call with
  | .addJob rollbackEventId =>
      (.ok (), { store with queue := store.queue ++ [rollbackEventId] })
  | .takeJob =>
      match store.queue with
      | [] => (.error (.typeError "no job"), store)
      | rollbackEventId :: queue =>
          (.ok rollbackEventId,
            { store with
              queue := queue
              history := store.history.noted thread .takeJob (.ok rollbackEventId) })
  | call =>
      let answer := surroundings.answer store.database call
      (answer.1,
        { database := answer.2
          queue := store.queue
          history := store.history.noted thread call answer.1 })

theorem rollbackMachine_answers {ι : Type} (thread : ι) (call : Call)
    (store : RollbackStore ι) :
    rollbackAnswers thread call store (rollbackMachine .quiet thread call store).1
      (rollbackMachine .quiet thread call store).2 := by
  have database : Answered (fun _ => True) store.database call
      (Surroundings.quiet.answer store.database call).1
      (Surroundings.quiet.answer store.database call).2 :=
    Surroundings.answered .quiet (fun _ _ => trivial) store.database call
  cases call with
  | addJob id => exact ⟨⟨fun _ _ => trivial, rfl⟩, rfl, rfl⟩
  | takeJob =>
      unfold rollbackMachine
      dsimp only
      split
      · exact ⟨⟨fun _ _ => trivial, rfl⟩, rfl, rfl⟩
      · next rollbackEventId queue same =>
        exact ⟨⟨fun _ _ => trivial, rfl⟩, ⟨[], queue, same, rfl⟩, rfl⟩
  | _ => exact ⟨database, rfl, rfl⟩

def rollbackRequest : RollbackRequest where
  orgId := 6
  serviceId := 1
  targetSnapshotId := 4
  triggeredByUserId := 5

/-- Three requests for one service, and two workers. -/
def requestsAndJobs : Nat → Participant
  | 2 | 4 => .worker
  | _ => .caller rollbackRequest

def unrequestedDatabase : Database :=
  { requestedDatabase webConfigBlob with events := .empty }

/-- Two requests have found no active rollback; the first has inserted its own, and the
second has met it. -/
def racedPool : Pool Calls JsError Nat (Option RollbackEvent) (RollbackStore Nat) :=
  ((((rollbackPool .transparent requestsAndJobs unrequestedDatabase).advanced
    (rollbackMachine .quiet 0) 0 4).advanced (rollbackMachine .quiet 1) 1 4).advanced
      (rollbackMachine .quiet 0) 0 2).advanced (rollbackMachine .quiet 1) 1 1

/-- The job has been executed, another request has been accepted after it, and its job has
begun to send its commands. -/
def repeatedPool : Pool Calls JsError Nat (Option RollbackEvent) (RollbackStore Nat) :=
  ((racedPool.advanced (rollbackMachine .quiet 2) 2 40).advanced
    (rollbackMachine .quiet 3) 3 6).advanced (rollbackMachine .quiet 4) 4 8

theorem repeatedPool_history :
    repeatedPool.store.history.inserts = [(0, 0), (3, 1)] ∧
      repeatedPool.store.history.commands = [2, 2, 2, 2, 4] := by
  decide +kernel

theorem rollbacks_exclusive_repeated :
    repeatedPool.store.history.inserts = [(0, 0), (3, 1)] ∧
      repeatedPool.store.history.commands = [2, 2, 2, 2, 4] ∧
      Exclusive requestsAndJobs repeatedPool := by
  refine ⟨repeatedPool_history.1, repeatedPool_history.2, ?_⟩
  have start : Pool.Reaches rollbackAnswers
      (rollbackPool .transparent requestsAndJobs unrequestedDatabase)
      (rollbackPool .transparent requestsAndJobs unrequestedDatabase) := .refl
  have raced : Pool.Reaches rollbackAnswers _ racedPool :=
    (((start.advanced 0 (rollbackMachine .quiet 0) (rollbackMachine_answers 0) 4).advanced
      1 (rollbackMachine .quiet 1) (rollbackMachine_answers 1) 4).advanced
        0 (rollbackMachine .quiet 0) (rollbackMachine_answers 0) 2).advanced
          1 (rollbackMachine .quiet 1) (rollbackMachine_answers 1) 1
  have repeated : Pool.Reaches rollbackAnswers _ repeatedPool :=
    ((raced.advanced 2 (rollbackMachine .quiet 2) (rollbackMachine_answers 2) 40).advanced
      3 (rollbackMachine .quiet 3) (rollbackMachine_answers 3) 6).advanced
        4 (rollbackMachine .quiet 4) (rollbackMachine_answers 4) 8
  exact rollbacks_exclusive .transparent requestsAndJobs unrequestedDatabase
    (fun event absurd => by cases absurd) repeated

end ServersManager
