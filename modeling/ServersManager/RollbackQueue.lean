/-
Module: ServersManager.RollbackQueue
Purpose: Any number of requests for rollbacks and of deliveries of their jobs at once, and
  what every call of any of them preserves.
Trusted boundary: human-reviewed semantics of the queue
Main exports:
  Participant, Participant.program, RollbackStore, rollbackAnswers, rollbackPool,
  Requested, Orderly, Orderly.step
-/
import ServersManager.RollbackProtocol
import ServersManager.SnapshotTransactions
import ServersManager.Library.Custody

namespace ServersManager

open Library

/-! ### Requests and deliveries -/

/-- What a thread of the pool does: it serves one request, or it takes one job. -/
inductive Participant where
  | caller (request : RollbackRequest)
  | worker

def Participant.program (platform : Platform) : Participant → Job (Option RollbackEvent)
  | .caller rollback => do
      let event ← enqueueRollback rollback.orgId rollback.serviceId
        rollback.targetSnapshotId rollback.triggeredByUserId
      return some event
  | .worker => do
      let rollbackEventId ← request .takeJob
      process platform rollbackEventId
      return none

def Participant.phase : Participant → Phase
  | .caller rollback => .begun rollback
  | .worker => .waiting

/-- Which thread inserted which event, which took which job, and whose commands have been
executed, in order. -/
structure RollbackHistory (ι : Type) where
  inserts : List (ι × Nat)
  taken : List (ι × Nat)
  commands : List ι

/-- The database, the jobs in the queue, and what has happened. -/
structure RollbackStore (ι : Type) where
  database : Database
  queue : List Nat
  history : RollbackHistory ι

section Answers

variable {ι : Type}

def RollbackStore.start (database : Database) : RollbackStore ι :=
  { database := database
    queue := []
    history := { inserts := [], taken := [], commands := [] } }

/-- The queue hands out each job once, in any order; one whose adding fails may have been
added. -/
def QueueAnswers (queue : List Nat) :
    (call : Call) → Except JsError call.Reply → List Nat → Prop
  | .addJob rollbackEventId, .ok _, after => after = queue ++ [rollbackEventId]
  | .addJob rollbackEventId, .error _, after =>
      after = queue ∨ after = queue ++ [rollbackEventId]
  | .takeJob, .ok rollbackEventId, after =>
      ∃ front back, queue = front ++ rollbackEventId :: back ∧ after = front ++ back
  | _, _, after => after = queue

/-- What is noted of a call that has been answered. -/
def RollbackHistory.noted (history : RollbackHistory ι) (thread : ι) :
    (call : Call) → Except JsError call.Reply → RollbackHistory ι
  | .query (.insertEvent _), .ok row =>
      { history with inserts := history.inserts ++ [(thread, row.id)] }
  | .takeJob, .ok rollbackEventId =>
      { history with taken := history.taken ++ [(thread, rollbackEventId)] }
  | .execCommand _ _, _ => { history with commands := history.commands ++ [thread] }
  | _, _ => history

/-- Any call may fail; a command that fails may have been executed. -/
def rollbackAnswers (thread : ι) : Semantics Calls JsError (RollbackStore ι) :=
  fun (call : Call) before reply after =>
    Answered (fun _ => True) before.database call reply after.database ∧
      QueueAnswers before.queue call reply after.queue ∧
      after.history = before.history.noted thread call reply

/-- All threads, none of which has begun. -/
def rollbackPool (platform : Platform) (participants : ι → Participant) (start : Database) :
    Pool Calls JsError ι (Option RollbackEvent) (RollbackStore ι) where
  threads thread := (participants thread).program platform
  store := .start start

/-- Every participant follows the protocol, from the phase it begins in. -/
theorem Participant.program_follows (platform : Platform) (participant : Participant) :
    (participant.program platform).Follows rollbackProtocol (fun _ _ => True)
      participant.phase := by
  cases participant with
  | caller rollback =>
      apply (Program.follows_bind _ _ _ _ _).mpr
      apply Program.Follows.mono (enqueueRollback_follows rollback)
      intro outcome phase closed
      cases outcome <;> trivial
  | worker =>
      apply follows_request.mpr
      refine ⟨trivial, ?_, fun error => trivial⟩
      intro rollbackEventId
      apply (Program.follows_bind _ _ _ _ _).mpr
      apply Program.Follows.mono (process_follows platform rollbackEventId)
      intro outcome phase ended
      cases outcome <;> trivial

end Answers

/-! ### What stays true of services, snapshots and events -/

/-- The service is there, and is the organization's. -/
def ServiceOwned (db : Database) (orgId serviceId : Nat) : Prop :=
  ∃ service ∈ db.services, service.id = serviceId ∧ service.orgId = orgId

/-- The snapshot is there, and is the service's. -/
def HasSnapshot (db : Database) (serviceId snapshotId : Nat) : Prop :=
  ∃ snapshot ∈ db.snapshots, snapshot.id = snapshotId ∧ snapshot.serviceId = serviceId

/-- The event is what was requested, of a service of the requesting organization and
between two of its snapshots. -/
structure Requested (db : Database) (request : RollbackRequest) (event : RollbackEvent) :
    Prop where
  service : event.serviceId = request.serviceId
  target : event.toSnapshotId = request.targetSnapshotId
  owned : ServiceOwned db request.orgId event.serviceId
  fromSnapshot : HasSnapshot db event.serviceId event.fromSnapshotId
  toSnapshot : HasSnapshot db event.serviceId event.toSnapshotId

/-- What an event is about. -/
def RollbackEvent.about (event : RollbackEvent) : Nat × Nat × Nat :=
  (event.serviceId, event.fromSnapshotId, event.toSnapshotId)

/-- No service changes its organization, and no snapshot its service. -/
structure Retains (before after : Database) : Prop where
  owned : ∀ {orgId serviceId}, ServiceOwned before orgId serviceId →
    ServiceOwned after orgId serviceId
  snapshots : ∀ {serviceId snapshotId}, HasSnapshot before serviceId snapshotId →
    HasSnapshot after serviceId snapshotId

/-- Calls that remove no host, and save a service as its organization's. -/
def Call.Preserves (db : Database) : Call → Prop
  | .query (.removeHost _) => False
  | .query (.saveService row) => ServiceOwned db row.orgId row.id
  | _ => True

section Retaining

variable {before after : Database} {request : RollbackRequest} {event other : RollbackEvent}

/-- What a request asked for stays on record. -/
theorem Requested.retained (requested : Requested before request event)
    (retains : Retains before after) (same : other.about = event.about) :
    Requested after request other := by
  obtain ⟨sameService, sameFrom, sameTo⟩ : other.serviceId = event.serviceId ∧
      other.fromSnapshotId = event.fromSnapshotId ∧
      other.toSnapshotId = event.toSnapshotId := by
    simpa [RollbackEvent.about] using same
  constructor
  · exact sameService.trans requested.service
  · exact sameTo.trans requested.target
  · rw [sameService]
    exact retains.owned requested.owned
  · rw [sameService, sameFrom]
    exact retains.snapshots requested.fromSnapshot
  · rw [sameService, sameTo]
    exact retains.snapshots requested.toSnapshot

/-- No query takes a service from its organization. -/
theorem owned_of_performed {q : Query} {orgId serviceId : Nat}
    (preserves : (Call.query q).Preserves before)
    (owned : ServiceOwned before orgId serviceId) :
    ServiceOwned (before.perform q).2 orgId serviceId := by
  have keeps : q.writesServices = false →
      ServiceOwned (before.perform q).2 orgId serviceId := by
    intro frame
    unfold ServiceOwned
    rw [Database.perform_services frame]
    exact owned
  obtain ⟨service, held, sameId, sameOrg⟩ := owned
  cases q with
  | removeHost host => cases preserves
  | insertService row =>
      apply Database.answer_keeps (fun db => ServiceOwned db orgId serviceId)
      · exact ⟨service, held, sameId, sameOrg⟩
      · rintro ⟨written, services⟩ inserts
        exact ⟨service, (Table.mem_insert rfl inserts).mpr (.inr held), sameId, sameOrg⟩
  | saveService row =>
      apply Database.answer_keeps (fun db => ServiceOwned db orgId serviceId)
      · exact ⟨service, held, sameId, sameOrg⟩
      · intro services saved
        by_cases same : service.id = row.id
        · obtain ⟨owner, ownerHeld, ownerId, ownerOrg⟩ := preserves
          have isOwner : service = owner := Table.eq_of_id held ownerHeld
            (same.trans ownerId.symm)
          exact ⟨row, (Table.mem_save saved).mpr (.inl rfl), same.symm.trans sameId,
            by rw [← ownerOrg, ← isOwner, sameOrg]⟩
        · have kept : service ∈ services := (Table.mem_save saved).mpr (.inr ⟨held, same⟩)
          exact ⟨service, kept, sameId, sameOrg⟩
  | _ => exact keeps rfl

/-- No query takes a snapshot from its service. -/
theorem hasSnapshot_of_performed {q : Query} {serviceId snapshotId : Nat}
    (preserves : (Call.query q).Preserves before)
    (has : HasSnapshot before serviceId snapshotId) :
    HasSnapshot (before.perform q).2 serviceId snapshotId := by
  have keeps : q.writesSnapshots = false →
      HasSnapshot (before.perform q).2 serviceId snapshotId := by
    intro frame
    unfold HasSnapshot
    rw [Database.perform_snapshots frame]
    exact has
  cases q with
  | removeHost host => cases preserves
  | createSnapshot row =>
      obtain ⟨created, replied⟩ := before.perform_createSnapshot row
      have creates := Created.of_perform (Prod.ext replied rfl)
      obtain ⟨snapshot, held, sameId, sameService⟩ := has
      rcases creates.retained _ _ (Table.byId_self held) with stays | ⟨-, retired⟩
      · exact ⟨snapshot, (Table.byId_eq_some.mp stays).1, sameId, sameService⟩
      · exact ⟨_, (Table.byId_eq_some.mp retired).1, sameId, sameService⟩
  | _ => exact keeps rfl

/-- A call that preserves the rows retains them. -/
theorem Call.Preserves.retains {call : Call} {reply : Except JsError call.Reply}
    {faults : JsError → Prop} (preserves : call.Preserves before)
    (answered : Answered faults before call reply after) : Retains before after := by
  cases call with
  | query q =>
      rcases answered with ⟨error, -, -, rfl⟩ | ⟨-, rfl⟩
      · exact ⟨id, id⟩
      · exact ⟨owned_of_performed preserves, hasSnapshot_of_performed preserves⟩
  | _ =>
      obtain ⟨-, rfl⟩ := answered
      exact ⟨id, id⟩

end Retaining

/-! ### The invariant -/

/-- The rollback whose job a thread has in its hands. -/
def Phase.job : Phase → Option Nat
  | .inserted event => some event.id
  | .taken rollbackEventId => some rollbackEventId
  | .loaded event => some event.id
  | .running event _ _ => some event.id
  | _ => none

/-- A thread that may have sent commands. -/
def Phase.Sending : Phase → Prop
  | .running _ _ _ | .closed => True
  | _ => False

section Invariant

variable {ι : Type}

/-- A request that has not inserted an event yet. -/
def AtRequest (participant : Participant) (thread : ι) (store : RollbackStore ι)
    (request : RollbackRequest) : Prop :=
  participant = .caller request ∧ ∀ id, (thread, id) ∉ store.history.inserts

/-- What a thread in a phase can rely on. -/
def Phase.Stands (participant : Participant) (thread : ι) (store : RollbackStore ι) :
    Phase → Prop
  | .begun request => AtRequest participant thread store request
  | .owned request service =>
      AtRequest participant thread store request ∧ service.id = request.serviceId ∧
        ServiceOwned store.database request.orgId service.id
  | .targeted request service target =>
      AtRequest participant thread store request ∧ service.id = request.serviceId ∧
        ServiceOwned store.database request.orgId service.id ∧
        target.id = request.targetSnapshotId ∧
        HasSnapshot store.database service.id target.id
  | .based service event => ∃ request,
      AtRequest participant thread store request ∧ service.id = event.serviceId ∧
        event.status = .pending ∧ Requested store.database request event
  | .waiting => ∀ id, (thread, id) ∉ store.history.taken
  | .taken rollbackEventId => (thread, rollbackEventId) ∈ store.history.taken
  | .loaded event =>
      (thread, event.id) ∈ store.history.taken ∧ event ∈ store.database.events
  | .running event service _ =>
      (thread, event.id) ∈ store.history.taken ∧ event ∈ store.database.events ∧
        event.status = .inProgress ∧
        ∀ loaded ∈ service, ServiceOwned store.database loaded.orgId loaded.id
  | .inserted _ | .closed => True

/-- The thread has taken a job for a rollback of the service. -/
def OnService (store : RollbackStore ι) (thread : ι) (serviceId : Nat) : Prop :=
  ∃ event ∈ store.database.events, (thread, event.id) ∈ store.history.taken ∧
    event.serviceId = serviceId

def SameService (store : RollbackStore ι) (first second : ι) : Prop :=
  ∃ serviceId, OnService store first serviceId ∧ OnService store second serviceId

/-- An event that a request has inserted. -/
def InsertedBy (participants : ι → Participant) (store : RollbackStore ι)
    (event : RollbackEvent) : Prop :=
  ∃ thread request, participants thread = .caller request ∧
    (thread, event.id) ∈ store.history.inserts ∧
    Requested store.database request event

structure Orderly (participants : ι → Participant) (phases : ι → Phase)
    (store : RollbackStore ι) : Prop where
  stands : ∀ thread, (phases thread).Stands (participants thread) thread store
  custody : Custody (Phase.job ∘ phases) store.queue store.database.events.nextId
  once : ∀ thread first second, (thread, first) ∈ store.history.taken →
    (thread, second) ∈ store.history.taken → first = second
  commanded : ∀ thread ∈ store.history.commands,
    (phases thread).Sending ∧ ∃ serviceId, OnService store thread serviceId
  turns : InTurns (SameService store) (fun thread => phases thread = .closed)
    store.history.commands
  accounted : ∀ event ∈ store.database.events, InsertedBy participants store event

/-- What a step of one thread leaves to the others: it writes no event but the one whose
job it has. -/
structure Spares (thread : ι) (job : Option Nat) (before after : RollbackStore ι) :
    Prop where
  retains : Retains before.database after.database
  events : ∀ event ∈ before.database.events, job ≠ some event.id →
    event ∈ after.database.events
  abouts : ∀ event ∈ before.database.events, ∃ later ∈ after.database.events,
    later.id = event.id ∧ later.about = event.about
  inserts : ∀ entry, entry ∈ before.history.inserts → entry ∈ after.history.inserts
  inserted : ∀ other id, other ≠ thread → (other, id) ∈ after.history.inserts →
    (other, id) ∈ before.history.inserts
  takes : ∀ entry, entry ∈ before.history.taken → entry ∈ after.history.taken
  taken : ∀ other id, other ≠ thread → (other, id) ∈ after.history.taken →
    (other, id) ∈ before.history.taken

variable {thread other : ι} {job : Option Nat} {before after : RollbackStore ι}

/-- A call that neither inserts an event nor takes a job spares the other threads. -/
theorem spares_of_history (history : after.history = before.history)
    (retains : Retains before.database after.database)
    (events : ∀ event ∈ before.database.events, job ≠ some event.id →
      event ∈ after.database.events)
    (abouts : ∀ event ∈ before.database.events, ∃ later ∈ after.database.events,
      later.id = event.id ∧ later.about = event.about) :
    Spares thread job before after := by
  constructor
  · exact retains
  · exact events
  · exact abouts
  · intro entry member
    rw [history]
    exact member
  · intro other id _ member
    rwa [history] at member
  · intro entry member
    rw [history]
    exact member
  · intro other id _ member
    rwa [history] at member

/-- A request under way is not disturbed by the steps of others. -/
theorem AtRequest.spared {participant : Participant} {request : RollbackRequest}
    (requesting : AtRequest participant other before request)
    (spares : Spares thread job before after) (differs : other ≠ thread) :
    AtRequest participant other after request := by
  constructor
  · exact requesting.1
  · intro id inserted
    exact requesting.2 id (spares.inserted other id differs inserted)

/-- Nor is what it asked for. -/
theorem Requested.spared {request : RollbackRequest} {event : RollbackEvent}
    (requested : Requested before.database request event)
    (spares : Spares thread job before after) : Requested after.database request event :=
  requested.retained spares.retains rfl

/-- Nor is the standing of any phase, as long as the jobs are apart. -/
theorem Phase.Stands.spared {participant : Participant} {phase : Phase}
    (stands : phase.Stands participant other before)
    (spares : Spares thread job before after) (differs : other ≠ thread)
    (apart : ∀ id, phase.job = some id → job ≠ some id) :
    phase.Stands participant other after := by
  have kept : ∀ event ∈ before.database.events, phase.job = some event.id →
      event ∈ after.database.events := by
    intro event member ofJob
    exact spares.events event member (apart event.id ofJob)
  cases phase with
  | begun request => exact AtRequest.spared stands spares differs
  | owned request service =>
      obtain ⟨requesting, same, owned⟩ := stands
      exact ⟨requesting.spared spares differs, same, spares.retains.owned owned⟩
  | targeted request service target =>
      obtain ⟨requesting, same, owned, sameTarget, has⟩ := stands
      exact ⟨requesting.spared spares differs, same, spares.retains.owned owned, sameTarget,
        spares.retains.snapshots has⟩
  | based service event =>
      obtain ⟨request, requesting, same, pending, requested⟩ := stands
      exact ⟨request, requesting.spared spares differs, same, pending,
        requested.spared spares⟩
  | waiting =>
      intro id takenLater
      exact stands id (spares.taken other id differs takenLater)
  | taken rollbackEventId => exact spares.takes _ stands
  | loaded event => exact ⟨spares.takes _ stands.1, kept event stands.2 rfl⟩
  | running event service sent =>
      obtain ⟨taken, member, inProgress, owned⟩ := stands
      refine ⟨spares.takes _ taken, kept event member rfl, inProgress, ?_⟩
      intro loaded isLoaded
      exact spares.retains.owned (owned loaded isLoaded)
  | inserted event => trivial
  | closed => trivial

theorem OnService.spared {serviceId : Nat} (onService : OnService before other serviceId)
    (spares : Spares thread job before after) : OnService after other serviceId := by
  obtain ⟨event, member, taken, rfl⟩ := onService
  obtain ⟨later, laterMember, sameId, sameAbout⟩ := spares.abouts event member
  refine ⟨later, laterMember, ?_, congrArg Prod.fst sameAbout⟩
  rw [sameId]
  exact spares.takes _ taken

/-- A participant that takes one job commands on one service. -/
theorem OnService.unique {store : RollbackStore ι}
    (once : ∀ thread first second, (thread, first) ∈ store.history.taken →
      (thread, second) ∈ store.history.taken → first = second) {first second : Nat}
    (onFirst : OnService store thread first) (onSecond : OnService store thread second) :
    first = second := by
  obtain ⟨event, member, taken, rfl⟩ := onFirst
  obtain ⟨other, otherMember, otherTaken, rfl⟩ := onSecond
  have same : event = other :=
    Table.eq_of_id member otherMember (once thread event.id other.id taken otherTaken)
  rw [same]

/-- An event stays accounted for by the request that inserted it. -/
theorem InsertedBy.spared {participants : ι → Participant} {event later : RollbackEvent}
    (accounted : InsertedBy participants before event)
    (spares : Spares thread job before after) (sameId : later.id = event.id)
    (same : later.about = event.about) : InsertedBy participants after later := by
  obtain ⟨caller, request, isCaller, inserted, requested⟩ := accounted
  refine ⟨caller, request, isCaller, ?_, requested.retained spares.retains same⟩
  rw [sameId]
  exact spares.inserts _ inserted

end Invariant

/-! ### Single steps -/

section Steps

variable {ι : Type} [DecidableEq ι] {participants : ι → Participant} {phases : ι → Phase}
  {thread : ι} {phase : Phase} {before after : RollbackStore ι}

/-- The frame rule: one thread moves, and the others keep their standing. -/
theorem Orderly.advance (orderly : Orderly participants phases before)
    (spares : Spares thread (phases thread).job before after)
    (stands : phase.Stands (participants thread) thread after)
    (custody : Custody (Function.update (Phase.job ∘ phases) thread phase.job) after.queue
      after.database.events.nextId)
    (once : ∀ first second, (thread, first) ∈ after.history.taken →
      (thread, second) ∈ after.history.taken → first = second)
    (commands : after.history.commands = before.history.commands)
    (sending : (phases thread).Sending → phase.Sending)
    (closed : phases thread = .closed → phase = .closed)
    (inserted : ∀ event ∈ after.database.events,
      (∃ earlier ∈ before.database.events, event.id = earlier.id ∧
        event.about = earlier.about) ∨ InsertedBy participants after event) :
    Orderly participants (Function.update phases thread phase) after := by
  have onceAfter : ∀ other first second, (other, first) ∈ after.history.taken →
      (other, second) ∈ after.history.taken → first = second := by
    intro other first second tookFirst tookSecond
    by_cases same : other = thread
    · subst other
      exact once first second tookFirst tookSecond
    · exact orderly.once other first second (spares.taken other first same tookFirst)
        (spares.taken other second same tookSecond)
  constructor
  · intro other
    by_cases same : other = thread
    · subst other
      rw [Function.update_self]
      exact stands
    · rw [Function.update_of_ne same]
      apply (orderly.stands other).spared spares same
      intro id ofOther ofThread
      exact same (orderly.custody.alone other thread id ofOther ofThread)
  · rw [Function.comp_update]
    exact custody
  · exact onceAfter
  · intro other sent
    rw [commands] at sent
    obtain ⟨otherSending, serviceId, onService⟩ := orderly.commanded other sent
    refine ⟨?_, serviceId, onService.spared spares⟩
    by_cases same : other = thread
    · subst other
      rw [Function.update_self]
      exact sending otherSending
    · rw [Function.update_of_ne same]
      exact otherSending
  · rw [commands]
    apply orderly.turns.mono
    · -- whoever has sent commands is on the service that it was on
      rintro first sentFirst second sentSecond ⟨serviceId, onFirst, onSecond⟩
      obtain ⟨-, firstService, wasFirst⟩ := orderly.commanded first sentFirst
      obtain ⟨-, secondService, wasSecond⟩ := orderly.commanded second sentSecond
      cases (wasFirst.spared spares).unique onceAfter onFirst
      cases (wasSecond.spared spares).unique onceAfter onSecond
      exact ⟨_, wasFirst, wasSecond⟩
    · intro other sent isClosed
      by_cases same : other = thread
      · subst other
        rw [Function.update_self]
        exact closed isClosed
      · rw [Function.update_of_ne same]
        exact isClosed
  · intro event member
    rcases inserted event member with ⟨earlier, wasMember, sameId, same⟩ | isNew
    · exact (orderly.accounted earlier wasMember).spared spares sameId same
    · exact isNew

/-- A step that writes no event and that nothing is noted of. -/
theorem Orderly.keep (orderly : Orderly participants phases before)
    (retains : Retains before.database after.database)
    (events : after.database.events = before.database.events)
    (history : after.history = before.history)
    (stands : phase.Stands (participants thread) thread after)
    (custody : Custody (Function.update (Phase.job ∘ phases) thread phase.job) after.queue
      before.database.events.nextId)
    (sending : (phases thread).Sending → phase.Sending)
    (closed : phases thread = .closed → phase = .closed) :
    Orderly participants (Function.update phases thread phase) after := by
  apply orderly.advance
  · apply spares_of_history history retains
    · intro event member _
      rw [events]
      exact member
    · intro event member
      rw [events]
      exact ⟨event, member, rfl, rfl⟩
  · exact stands
  · rw [events]
    exact custody
  · rw [history]
    exact orderly.once thread
  · rw [history]
  · exact sending
  · exact closed
  · intro event member
    rw [events] at member
    exact .inl ⟨event, member, rfl, rfl⟩

/-- A thread keeps its job, or drops it. -/
theorem Orderly.held (orderly : Orderly participants phases before)
    (job : phase.job = (phases thread).job ∨ phase.job = none) :
    Custody (Function.update (Phase.job ∘ phases) thread phase.job) before.queue
      before.database.events.nextId := by
  rcases job with same | none
  · have unchanged : Function.update (Phase.job ∘ phases) thread (phases thread).job =
        Phase.job ∘ phases := Function.update_eq_self thread (Phase.job ∘ phases)
    rw [same, unchanged]
    exact orderly.custody
  · rw [none]
    exact orderly.custody.release thread

/-- A call that writes no event and takes no job. -/
theorem Orderly.quiet (orderly : Orderly participants phases before)
    (retains : Retains before.database after.database)
    (events : after.database.events = before.database.events)
    (queue : after.queue = before.queue) (history : after.history = before.history)
    (stands : phase.Stands (participants thread) thread after)
    (job : phase.job = (phases thread).job ∨ phase.job = none)
    (sending : (phases thread).Sending → phase.Sending)
    (closed : phases thread = .closed → phase = .closed) :
    Orderly participants (Function.update phases thread phase) after := by
  apply orderly.keep retains events history stands _ sending closed
  rw [queue]
  exact orderly.held job

/-- A thread that ends. -/
theorem Orderly.close (orderly : Orderly participants phases before)
    (retains : Retains before.database after.database)
    (events : after.database.events = before.database.events)
    (queue : after.queue = before.queue) (history : after.history = before.history) :
    Orderly participants (Function.update phases thread .closed) after := by
  apply orderly.quiet retains events queue history
  · trivial
  · exact .inr rfl
  · exact fun _ => trivial
  · exact fun _ => rfl

/-- A thread writes the event whose job it has. -/
theorem Orderly.save (orderly : Orderly participants phases before)
    {event row : RollbackEvent} {events : Table RollbackEvent}
    (holds : (phases thread).job = some event.id) (held : event ∈ before.database.events)
    (sameId : row.id = event.id) (same : row.about = event.about)
    (saved : before.database.events.save row = some events)
    (database : after.database = { before.database with events := events })
    (queue : after.queue = before.queue) (history : after.history = before.history)
    (stands : phase.Stands (participants thread) thread after)
    (job : phase.job = (phases thread).job ∨ phase.job = none)
    (sending : (phases thread).Sending → phase.Sending)
    (closed : phases thread = .closed → phase = .closed) :
    Orderly participants (Function.update phases thread phase) after := by
  have isRow : row ∈ after.database.events := by
    rw [database]
    exact (Table.mem_save saved).mpr (.inl rfl)
  have stays : ∀ other ∈ before.database.events, other.id ≠ row.id →
      other ∈ after.database.events := by
    intro other member differs
    rw [database]
    exact (Table.mem_save saved).mpr (.inr ⟨member, differs⟩)
  apply orderly.advance
  · apply spares_of_history history
    · rw [database]
      exact ⟨id, id⟩
    · intro other member notHeld
      apply stays other member
      intro sameOther
      exact notHeld (by rw [holds, sameOther, sameId])
    · intro other member
      by_cases sameOther : other.id = row.id
      · have isEvent : other = event := Table.eq_of_id member held (sameOther.trans sameId)
        rw [isEvent]
        exact ⟨row, isRow, sameId, same⟩
      · exact ⟨other, stays other member sameOther, rfl, rfl⟩
  · exact stands
  · rw [queue, database]
    exact (orderly.held job).later (Table.nextId_le_save saved)
  · rw [history]
    exact orderly.once thread
  · rw [history]
  · exact sending
  · exact closed
  · intro other member
    rw [database] at member
    rcases (Table.mem_save saved).mp member with rfl | ⟨wasMember, -⟩
    · exact .inl ⟨event, held, sameId, same⟩
    · exact .inl ⟨other, wasMember, rfl, rfl⟩

omit [DecidableEq ι] in
/-- The events of both are active, so that they are one event, and its job has been taken
once. -/
theorem Orderly.alone (orderly : Orderly participants phases before) {other : ι}
    {event otherEvent : RollbackEvent} {service otherService : Option Service}
    {sent otherSent : List String} (current : phases thread = .running event service sent)
    (otherCurrent : phases other = .running otherEvent otherService otherSent)
    (sameService : SameService before other thread) : other = thread := by
  have stands := orderly.stands thread
  rw [current] at stands
  obtain ⟨taken, member, inProgress, -⟩ := stands
  have otherStands := orderly.stands other
  rw [otherCurrent] at otherStands
  obtain ⟨otherTaken, otherMember, otherInProgress, -⟩ := otherStands
  obtain ⟨serviceId, onOther, onThread⟩ := sameService
  have onEvent : OnService before thread event.serviceId := ⟨event, member, taken, rfl⟩
  have onOtherEvent : OnService before other otherEvent.serviceId :=
    ⟨otherEvent, otherMember, otherTaken, rfl⟩
  have serviceIds : otherEvent.serviceId = event.serviceId := by
    rw [onOtherEvent.unique orderly.once onOther, onThread.unique orderly.once onEvent]
  have otherKey : Keyed.index otherEvent = some event.serviceId := by
    simp [Keyed.index, otherInProgress, RollbackEventStatus.isActive, serviceIds]
  have ownKey : Keyed.index event = some event.serviceId := by
    simp [Keyed.index, inProgress, RollbackEventStatus.isActive]
  have sameEvent := Table.eq_of_index otherMember member otherKey ownKey
  apply orderly.custody.alone other thread event.id
  · simp [otherCurrent, Phase.job, sameEvent]
  · simp [current, Phase.job]

omit [DecidableEq ι] in
/-- The one thread that is running for a service sends a command: all others that have
sent any for it are done. -/
theorem Orderly.command (orderly : Orderly participants phases before)
    {event : RollbackEvent} {service : Option Service} {sent : List String}
    (current : phases thread = .running event service sent)
    (database : after.database = before.database) (queue : after.queue = before.queue)
    (history : after.history =
      { before.history with commands := before.history.commands ++ [thread] }) :
    Orderly participants phases after := by
  have sameStands : ∀ other, (phases other).Stands (participants other) other after := by
    intro other
    have stands := orderly.stands other
    revert stands
    cases phases other <;>
      simp only [Phase.Stands, AtRequest, database, history, imp_self]
  have sameOn : ∀ other serviceId, OnService after other serviceId ↔
      OnService before other serviceId := by
    intro other serviceId
    simp only [OnService, database, history]
  have ownStands := orderly.stands thread
  rw [current] at ownStands
  obtain ⟨taken, member, inProgress, -⟩ := ownStands
  have onOwn : OnService before thread event.serviceId := ⟨event, member, taken, rfl⟩
  constructor
  · exact sameStands
  · rw [queue, database]
    exact orderly.custody
  · rw [history]
    exact orderly.once
  · intro other commanded
    rw [history] at commanded
    rcases List.mem_append.mp commanded with earlier | isLast
    · obtain ⟨sending, serviceId, onService⟩ := orderly.commanded other earlier
      exact ⟨sending, serviceId, (sameOn other serviceId).mpr onService⟩
    · cases List.mem_singleton.mp isLast
      refine ⟨?_, event.serviceId, (sameOn thread event.serviceId).mpr onOwn⟩
      rw [current]
      trivial
  · have sameGroup : SameService after = SameService before := by
      funext first second
      simp only [SameService, sameOn]
    rw [history, sameGroup]
    apply orderly.turns.append
    · rw [current]
      intro isClosed
      cases isClosed
    · -- another one that is still running would have its event active as well
      intro other commanded differs sameService
      obtain ⟨otherSending, -⟩ := orderly.commanded other commanded
      cases otherCurrent : phases other with
      | running otherEvent otherService otherSent =>
          exact (differs (orderly.alone current otherCurrent sameService)).elim
      | closed => rfl
      | _ =>
          rw [otherCurrent] at otherSending
          exact otherSending.elim
  · intro other otherMember
    rw [database] at otherMember
    obtain ⟨caller, request, isCaller, inserted, requested⟩ :=
      orderly.accounted other otherMember
    refine ⟨caller, request, isCaller, ?_, ?_⟩
    · rw [history]
      exact inserted
    · rw [database]
      exact requested

/-! ### Requests -/

omit [DecidableEq ι] in
/-- A lookup changes nothing, and finds what there is. -/
theorem rollbackAnswers_lookup {q : Query} {found : q.Reply} {reply : Except JsError q.Reply}
    (performs : before.database.perform q = (.ok found, before.database))
    (unnoted : before.history.noted thread (.query q) reply = before.history)
    (answered : rollbackAnswers thread (Call.query q) before reply after) :
    after = before ∧ ∀ value, reply = .ok value → value = found := by
  obtain ⟨database, queue, history⟩ := answered
  have sameQueue : after.queue = before.queue := queue
  have sameHistory : after.history = before.history := history.trans unnoted
  have same : after.database = before.database ∧
      ∀ value, reply = .ok value → value = found := by
    rcases database with ⟨error, -, replied, same⟩ | ⟨replied, same⟩
    · refine ⟨same, ?_⟩
      intro value isValue
      rw [replied] at isValue
      cases isValue
    · rw [performs] at replied same
      refine ⟨same, ?_⟩
      intro value isValue
      rw [replied] at isValue
      exact (Except.ok.inj isValue).symm
  refine ⟨?_, same.2⟩
  cases after
  cases before
  simp_all

/-- A thread that has sent nothing yet goes on with what a lookup has found. -/
theorem Orderly.look {store : RollbackStore ι} (orderly : Orderly participants phases store)
    (unsent : ¬ (phases thread).Sending)
    (stands : phase.Stands (participants thread) thread store)
    (job : phase.job = (phases thread).job ∨ phase.job = none) :
    Orderly participants (Function.update phases thread phase) store := by
  apply orderly.quiet ⟨id, id⟩ rfl rfl rfl stands job
  · intro sending
    exact (unsent sending).elim
  · intro isClosed
    rw [isClosed] at unsent
    exact (unsent trivial).elim

/-- The request finds the service of its organization. -/
theorem Orderly.owned (orderly : Orderly participants phases before)
    {request : RollbackRequest} (current : phases thread = .begun request)
    {reply : Except JsError (Option Service)}
    (answered : rollbackAnswers thread
      (Call.query (.findServiceForOrg request.orgId request.serviceId)) before reply after) :
    Orderly participants (Function.update phases thread ((Phase.begun request).next
      (.query (.findServiceForOrg request.orgId request.serviceId)) reply)) after := by
  obtain ⟨rfl, found⟩ := rollbackAnswers_lookup rfl rfl answered
  have requesting := orderly.stands thread
  rw [current] at requesting
  cases reply with
  | error error => exact orderly.close ⟨id, id⟩ rfl rfl rfl
  | ok value =>
      cases value with
      | none => exact orderly.close ⟨id, id⟩ rfl rfl rfl
      | some service =>
          obtain ⟨member, matched⟩ := Table.findOne_mem (found _ rfl).symm
          have same : service.id = request.serviceId ∧ service.orgId = request.orgId := by
            simpa using matched
          apply orderly.look
          · rw [current]
            exact id
          · exact ⟨requesting, same.1, service, member, rfl, same.2⟩
          · exact .inr rfl

/-- It finds the snapshot it asked for. -/
theorem Orderly.targeted (orderly : Orderly participants phases before)
    {request : RollbackRequest} {service : Service}
    (current : phases thread = .owned request service)
    {reply : Except JsError (Option DeploymentSnapshot)}
    (answered : rollbackAnswers thread
      (Call.query (.findSnapshotOfService service.id request.targetSnapshotId)) before reply
      after) :
    Orderly participants (Function.update phases thread ((Phase.owned request service).next
      (.query (.findSnapshotOfService service.id request.targetSnapshotId)) reply)) after := by
  obtain ⟨rfl, found⟩ := rollbackAnswers_lookup rfl rfl answered
  have stands := orderly.stands thread
  rw [current] at stands
  obtain ⟨requesting, sameService, owned⟩ := stands
  cases reply with
  | error error => exact orderly.close ⟨id, id⟩ rfl rfl rfl
  | ok value =>
      cases value with
      | none => exact orderly.close ⟨id, id⟩ rfl rfl rfl
      | some target =>
          obtain ⟨member, matched⟩ := Table.findOne_mem (found _ rfl).symm
          have same : target.id = request.targetSnapshotId ∧
              target.serviceId = service.id := by
            simpa using matched
          apply orderly.look
          · rw [current]
            exact id
          · exact ⟨requesting, sameService, owned, same.1, target, member, rfl, same.2⟩
          · exact .inr rfl

/-- It finds the current snapshot, which is where the event starts from. -/
theorem Orderly.based (orderly : Orderly participants phases before)
    {request : RollbackRequest} {service : Service} {target : DeploymentSnapshot}
    (current : phases thread = .targeted request service target)
    {reply : Except JsError (Option DeploymentSnapshot)}
    (answered : rollbackAnswers thread (Call.query (.findCurrentSnapshot service.id)) before
      reply after) :
    Orderly participants (Function.update phases thread
      ((Phase.targeted request service target).next (.query (.findCurrentSnapshot service.id))
        reply)) after := by
  obtain ⟨rfl, found⟩ := rollbackAnswers_lookup rfl rfl answered
  have stands := orderly.stands thread
  rw [current] at stands
  obtain ⟨requesting, sameService, owned, sameTarget, has⟩ := stands
  cases reply with
  | error error => exact orderly.close ⟨id, id⟩ rfl rfl rfl
  | ok value =>
      cases value with
      | none => exact orderly.close ⟨id, id⟩ rfl rfl rfl
      | some snapshot =>
          obtain ⟨member, matched⟩ := Table.findOne_mem (found _ rfl).symm
          have same : snapshot.serviceId = service.id ∧ snapshot.isCurrent = true := by
            simpa using matched
          have requested : Requested after.database request (requestedEvent service snapshot.id
              target.id request.triggeredByUserId) := by
            constructor
            · exact sameService
            · exact sameTarget
            · exact owned
            · exact ⟨snapshot, member, rfl, same.1⟩
            · exact has
          apply orderly.look
          · rw [current]
            exact id
          · exact ⟨request, requesting, rfl, rfl, requested⟩
          · exact .inr rfl

/-- It finds no active event of the service. -/
theorem Orderly.unopposed (orderly : Orderly participants phases before)
    {service : Service} {event : RollbackEvent}
    (current : phases thread = .based service event)
    {reply : Except JsError (Option RollbackEvent)}
    (answered : rollbackAnswers thread (Call.query (.findActiveEvent service.id)) before
      reply after) :
    Orderly participants (Function.update phases thread ((Phase.based service event).next
      (.query (.findActiveEvent service.id)) reply)) after := by
  obtain ⟨rfl, -⟩ := rollbackAnswers_lookup rfl rfl answered
  have stands := orderly.stands thread
  rw [current] at stands
  cases reply with
  | error error => exact orderly.close ⟨id, id⟩ rfl rfl rfl
  | ok value =>
      cases value with
      | some active => exact orderly.close ⟨id, id⟩ rfl rfl rfl
      | none =>
          apply orderly.look
          · rw [current]
            exact id
          · exact stands
          · exact .inr rfl

/-- The new event is under an id that no thread has ever had. -/
theorem Orderly.insert (orderly : Orderly participants phases before)
    {service : Service} {event : RollbackEvent}
    (current : phases thread = .based service event)
    {reply : Except JsError RollbackEvent}
    (answered : rollbackAnswers thread (Call.query (.insertEvent event)) before reply after) :
    Orderly participants (Function.update phases thread ((Phase.based service event).next
      (.query (.insertEvent event)) reply)) after := by
  have stands := orderly.stands thread
  rw [current] at stands
  obtain ⟨request, ⟨isCaller, -⟩, -, -, requested⟩ := stands
  obtain ⟨answeredBy, sameQueue, sameHistory⟩ := answered
  have queue : after.queue = before.queue := sameQueue
  rcases answeredBy.written rfl with
    ⟨error, rfl, database⟩ | ⟨⟨row, events⟩, inserts, rfl, database⟩
  · apply orderly.close
    · rw [database]
      exact ⟨id, id⟩
    · rw [database]
    · exact queue
    · exact sameHistory
  · have history : after.history = { before.history with
        inserts := before.history.inserts ++ [(thread, row.id)] } := sameHistory
    obtain ⟨isRow, saved⟩ := Table.insert_eq_some.mp inserts
    have rowId : row.id = before.database.events.nextId := by rw [isRow]
    have about : row.about = event.about := by rw [isRow]; rfl
    have members : ∀ other, other ∈ after.database.events ↔
        other = row ∨ other ∈ before.database.events := by
      intro other
      rw [database]
      exact Table.mem_insert rfl inserts
    have nextId : after.database.events.nextId = before.database.events.nextId + 1 := by
      rw [database]
      refine (Table.save_nextId saved).trans ?_
      exact Nat.max_eq_right (Nat.le_succ _)
    apply orderly.advance
    · constructor
      · rw [database]
        exact ⟨id, id⟩
      · intro other member _
        exact (members other).mpr (.inr member)
      · intro other member
        exact ⟨other, (members other).mpr (.inr member), rfl, rfl⟩
      · intro entry member
        rw [history]
        exact List.mem_append_left _ member
      · intro other id differs member
        rw [history] at member
        rcases List.mem_append.mp member with was | isNew
        · exact was
        · cases List.mem_singleton.mp isNew
          exact (differs rfl).elim
      · intro entry member
        rw [history]
        exact member
      · intro other id _ member
        rwa [history] at member
    · trivial
    · rw [queue, nextId]
      change Custody (Function.update _ thread (some row.id)) _ _
      rw [rowId]
      exact orderly.custody.issue thread
    · rw [history]
      exact orderly.once thread
    · rw [history]
    · rw [current]
      exact False.elim
    · rw [current]
      intro absurd
      cases absurd
    · intro other member
      rcases (members other).mp member with rfl | was
      · right
        refine ⟨thread, request, isCaller, ?_, ?_⟩
        · rw [history]
          exact List.mem_append_right _ (List.mem_singleton_self _)
        · apply requested.retained _ about
          rw [database]
          exact ⟨id, id⟩
      · exact .inl ⟨other, was, rfl, rfl⟩

/-- Whether or not adding the job fails, the thread has nothing more to do with it. -/
theorem Orderly.add (orderly : Orderly participants phases before) {event : RollbackEvent}
    (current : phases thread = .inserted event) {reply : Except JsError Unit}
    (answered : rollbackAnswers thread (Call.addJob event.id) before reply after) :
    Orderly participants (Function.update phases thread .closed) after := by
  obtain ⟨⟨-, database⟩, queue, history⟩ := answered
  have holds : (Phase.job ∘ phases) thread = some event.id := by
    rw [Function.comp_apply, current]
    rfl
  have custody : Custody (Function.update (Phase.job ∘ phases) thread none) after.queue
      before.database.events.nextId := by
    have queued : after.queue = before.queue ∨ after.queue = before.queue ++ [event.id] := by
      cases reply with
      | ok value => exact .inr queue
      | error error => exact queue
    rcases queued with same | added
    · rw [same]
      exact orderly.custody.release thread
    · rw [added]
      exact orderly.custody.enqueue holds
  apply orderly.keep
  · rw [database]
    exact ⟨id, id⟩
  · rw [database]
  · exact history
  · trivial
  · exact custody
  · exact fun _ => trivial
  · exact fun _ => rfl

/-! ### Jobs -/

/-- A worker takes a job, which leaves the queue. -/
theorem Orderly.take (orderly : Orderly participants phases before)
    (current : phases thread = .waiting) {reply : Except JsError Nat}
    (answered : rollbackAnswers thread Call.takeJob before reply after) :
    Orderly participants (Function.update phases thread (Phase.waiting.next .takeJob reply))
      after := by
  have idle := orderly.stands thread
  rw [current] at idle
  obtain ⟨⟨-, database⟩, queue, sameHistory⟩ := answered
  cases reply with
  | error error =>
      apply orderly.close
      · rw [database]
        exact ⟨id, id⟩
      · rw [database]
      · exact queue
      · exact sameHistory
  | ok rollbackEventId =>
      have history : after.history = { before.history with
          taken := before.history.taken ++ [(thread, rollbackEventId)] } := sameHistory
      obtain ⟨front, back, was, is⟩ := queue
      have taken : ∀ id, (thread, id) ∈ after.history.taken → id = rollbackEventId := by
        intro id member
        rw [history] at member
        rcases List.mem_append.mp member with earlier | isNew
        · exact (idle id earlier).elim
        · cases List.mem_singleton.mp isNew
          rfl
      apply orderly.advance
      · constructor
        · rw [database]
          exact ⟨id, id⟩
        · intro event member _
          rw [database]
          exact member
        · intro event member
          rw [database]
          exact ⟨event, member, rfl, rfl⟩
        · intro entry member
          rw [history]
          exact member
        · intro other id _ member
          rwa [history] at member
        · intro entry member
          rw [history]
          exact List.mem_append_left _ member
        · intro other id differs member
          rw [history] at member
          rcases List.mem_append.mp member with earlier | isNew
          · exact earlier
          · cases List.mem_singleton.mp isNew
            exact (differs rfl).elim
      · change (thread, rollbackEventId) ∈ after.history.taken
        rw [history]
        exact List.mem_append_right _ (List.mem_singleton_self _)
      · have custody := orderly.custody
        rw [was] at custody
        rw [is, database]
        exact custody.dequeue thread
      · intro first second tookFirst tookSecond
        rw [taken first tookFirst, taken second tookSecond]
      · rw [history]
      · rw [current]
        exact False.elim
      · rw [current]
        intro absurd
        cases absurd
      · intro event member
        rw [database] at member
        exact .inl ⟨event, member, rfl, rfl⟩

/-- It loads the event of its job. -/
theorem Orderly.load (orderly : Orderly participants phases before) {rollbackEventId : Nat}
    (current : phases thread = .taken rollbackEventId)
    {reply : Except JsError (Option RollbackEvent)}
    (answered : rollbackAnswers thread (Call.query (.findEvent rollbackEventId)) before reply
      after) :
    Orderly participants (Function.update phases thread ((Phase.taken rollbackEventId).next
      (.query (.findEvent rollbackEventId)) reply)) after := by
  obtain ⟨rfl, found⟩ := rollbackAnswers_lookup rfl rfl answered
  have taken := orderly.stands thread
  rw [current] at taken
  cases reply with
  | error error => exact orderly.close ⟨id, id⟩ rfl rfl rfl
  | ok value =>
      cases value with
      | none => exact orderly.close ⟨id, id⟩ rfl rfl rfl
      | some event =>
          obtain ⟨member, sameId⟩ := Table.byId_eq_some.mp (found _ rfl).symm
          have isId : event.id = rollbackEventId := sameId
          apply orderly.look
          · rw [current]
            exact id
          · refine ⟨?_, member⟩
            rw [isId]
            exact taken
          · rw [current]
            exact .inl (congrArg some isId)

/-- It marks the event as in progress, unless another of the service is active. -/
theorem Orderly.start (orderly : Orderly participants phases before) {event : RollbackEvent}
    (current : phases thread = .loaded event) {reply : Except JsError RollbackEvent}
    (answered : rollbackAnswers thread
      (Call.query (.saveEvent { event with status := .inProgress })) before reply after) :
    Orderly participants (Function.update phases thread ((Phase.loaded event).next
      (.query (.saveEvent { event with status := .inProgress })) reply)) after := by
  have stands := orderly.stands thread
  rw [current] at stands
  obtain ⟨taken, member⟩ := stands
  obtain ⟨answeredBy, sameQueue, sameHistory⟩ := answered
  have queue : after.queue = before.queue := sameQueue
  have history : after.history = before.history := sameHistory
  rcases answeredBy.saveEvent with ⟨error, rfl, database⟩ | ⟨rfl, events, saved, database⟩
  · apply orderly.close _ _ queue history
    · rw [database]
      exact ⟨id, id⟩
    · rw [database]
  · have sameId : ({ event with status := .inProgress } : RollbackEvent).id = event.id := rfl
    apply orderly.save _ member sameId rfl saved database queue history
    · refine ⟨?_, ?_, rfl, ?_⟩
      · rw [history]
        exact taken
      · rw [database]
        exact (Table.mem_save saved).mpr (.inl rfl)
      · intro loaded absurd
        cases absurd
    · rw [current]
      exact .inl rfl
    · rw [current]
      exact False.elim
    · rw [current]
      intro absurd
      cases absurd
    · rw [current]
      rfl

/-- A running job keeps to the services it has loaded. -/
theorem RunningAllows.preserves {event : RollbackEvent} {service : Option Service}
    {sent : List String} {db : Database} {call : Call}
    (allowed : RunningAllows event service sent call)
    (owned : ∀ loaded ∈ service, ServiceOwned db loaded.orgId loaded.id) :
    call.Preserves db := by
  cases call with
  | query q =>
      cases q with
      | saveService row =>
          obtain ⟨loaded, isLoaded, sameId, sameOrg, -⟩ := allowed
          change ServiceOwned db row.orgId row.id
          rw [sameId, sameOrg]
          exact owned loaded isLoaded
      | removeHost host => exact allowed.elim
      | _ => trivial
  | _ => trivial

/-- It saves the log of the event. -/
theorem Orderly.log (orderly : Orderly participants phases before) {event row : RollbackEvent}
    {service : Option Service} {sent : List String}
    (current : phases thread = .running event service sent)
    (updates : event.Updates row) {reply : Except JsError RollbackEvent}
    (answered : rollbackAnswers thread (Call.query (.saveEvent row)) before reply after) :
    Orderly participants (Function.update phases thread
      ((Phase.running event service sent).next (.query (.saveEvent row)) reply)) after := by
  have stands := orderly.stands thread
  rw [current] at stands
  obtain ⟨taken, member, inProgress, owned⟩ := stands
  obtain ⟨answeredBy, sameQueue, sameHistory⟩ := answered
  have queue : after.queue = before.queue := sameQueue
  have history : after.history = before.history := sameHistory
  have sameAbout : row.about = event.about := by
    unfold RollbackEvent.about
    rw [updates.serviceId, updates.fromSnapshotId, updates.toSnapshotId]
  have notClosed : ∀ phase : Phase, phases thread = .closed → phase = .closed := by
    rw [current]
    intro phase absurd
    cases absurd
  rcases answeredBy.saveEvent with ⟨error, rfl, database⟩ | ⟨rfl, events, saved, database⟩
  · apply orderly.close _ _ queue history
    · rw [database]
      exact ⟨id, id⟩
    · rw [database]
  · change Orderly participants (Function.update phases thread
      (if row.status.isActive then .running row service sent else .closed)) after
    have holds : (phases thread).job = some event.id := by
      rw [current]
      rfl
    rcases updates.status with ⟨still, -⟩ | ⟨completed, -⟩
    · rw [if_pos (by rw [still]; rfl)]
      apply orderly.save holds member updates.id sameAbout saved database queue history
      · refine ⟨?_, ?_, still, ?_⟩
        · rw [history, updates.id]
          exact taken
        · rw [database]
          exact (Table.mem_save saved).mpr (.inl rfl)
        · intro loaded isLoaded
          rw [database]
          exact owned loaded isLoaded
      · rw [holds]
        exact .inl (congrArg some updates.id)
      · exact fun _ => trivial
      · exact notClosed _
    · rw [if_neg (by rw [completed]; simp)]
      apply orderly.save holds member updates.id sameAbout saved database queue history
      · trivial
      · exact .inr rfl
      · exact fun _ => trivial
      · exact notClosed _

/-- Every call that a running job may make. -/
theorem Orderly.running (orderly : Orderly participants phases before)
    {event : RollbackEvent} {service : Option Service} {sent : List String}
    (current : phases thread = .running event service sent) {call : Call}
    {reply : Except JsError call.Reply} (allowed : RunningAllows event service sent call)
    (answered : rollbackAnswers thread call before reply after) :
    Orderly participants (Function.update phases thread
      ((Phase.running event service sent).next call reply)) after := by
  have stands := orderly.stands thread
  rw [current] at stands
  obtain ⟨taken, member, inProgress, owned⟩ := stands
  have retains := Call.Preserves.retains (allowed.preserves owned) answered.1
  -- a call that leaves the events alone keeps the job running, with a service of some owner
  have idle : ∀ loaded : Option Service,
      (∀ found ∈ loaded, ServiceOwned before.database found.orgId found.id) →
      (∀ q, call = .query q → q.writesEvents = false) → after.queue = before.queue →
      after.history = before.history →
      Orderly participants (Function.update phases thread (.running event loaded sent))
        after := by
    intro loaded ownedLoaded frame queue history
    have events := answered.1.events frame
    apply orderly.quiet retains events queue history
    · refine ⟨?_, ?_, inProgress, ?_⟩
      · rw [history]
        exact taken
      · rw [events]
        exact member
      · intro found isFound
        exact retains.owned (ownedLoaded found isFound)
    · rw [current]
      exact .inl rfl
    · exact fun _ => trivial
    · rw [current]
      intro absurd
      cases absurd
  cases call with
  | query q =>
      have frame : q.writesEvents = false →
          ∀ other, Call.query q = .query other → other.writesEvents = false := by
        intro silent other same
        cases same
        exact silent
      have queue : after.queue = before.queue := answered.2.1
      cases q with
      | insertEvent row => exact allowed.elim
      | removeHost host => exact allowed.elim
      | saveEvent row => exact orderly.log current allowed answered
      | findService id =>
          have history : after.history = before.history := answered.2.2
          obtain ⟨-, found⟩ := rollbackAnswers_lookup rfl rfl answered
          cases reply with
          | error error => exact idle service owned (frame rfl) queue history
          | ok value =>
              cases value with
              | none => exact idle service owned (frame rfl) queue history
              | some loaded =>
                  apply idle (some loaded) _ (frame rfl) queue history
                  intro other isLoaded
                  cases isLoaded
                  obtain ⟨inTable, -⟩ := Table.byId_eq_some.mp (found _ rfl).symm
                  exact ⟨loaded, inTable, rfl, rfl⟩
      | _ => exact idle service owned (frame rfl) queue answered.2.2
  | execCommand options command =>
      obtain ⟨⟨-, database⟩, queue, history⟩ := answered
      have sending : Orderly participants (Function.update phases thread
          (.running event service (sent ++ [command]))) before := by
        apply orderly.quiet ⟨id, id⟩ rfl rfl rfl
        · exact ⟨taken, member, inProgress, owned⟩
        · rw [current]
          exact .inl rfl
        · exact fun _ => trivial
        · rw [current]
          intro absurd
          cases absurd
      exact sending.command (Function.update_self _ _ _) database queue history
  | addJob id => exact allowed.elim
  | takeJob => exact allowed.elim
  | _ => exact idle service owned (fun q absurd => by cases absurd) answered.2.1 answered.2.2

/-- A call of the alerts, and the thread is done. -/
theorem Orderly.finish (orderly : Orderly participants phases before) {call : Call}
    {reply : Except JsError call.Reply} (ofAlerts : call.OfAlerts)
    (answered : rollbackAnswers thread call before reply after) :
    Orderly participants (Function.update phases thread .closed) after := by
  obtain ⟨database, queue, history⟩ := answered
  have preserves : call.Preserves before.database := by
    cases call with
    | query q => cases q <;> trivial
    | _ => trivial
  have same : after.queue = before.queue ∧ after.history = before.history := by
    cases call with
    | query q =>
        cases q with
        | insertEvent row => exact ofAlerts.elim
        | _ => exact ⟨queue, history⟩
    | addJob id => exact ofAlerts.elim
    | takeJob => exact ofAlerts.elim
    | execCommand options command => exact ofAlerts.elim
    | _ => exact ⟨queue, history⟩
  exact orderly.close (preserves.retains database) (database.events ofAlerts.writesEvents)
    same.1 same.2

/-- Every call that any thread may make next. -/
theorem Orderly.step (orderly : Orderly participants phases before) {call : Call}
    {reply : Except JsError call.Reply} (allowed : (phases thread).Allows call)
    (answered : rollbackAnswers thread call before reply after) :
    Orderly participants (Function.update phases thread ((phases thread).next call reply))
      after := by
  cases current : phases thread with
  | begun request =>
      rw [current] at allowed
      cases call with
      | query q =>
          cases q with
          | findServiceForOrg orgId id =>
              obtain ⟨rfl, rfl⟩ := allowed
              exact orderly.owned current answered
          | _ => exact allowed.elim
      | _ => exact allowed.elim
  | owned request service =>
      rw [current] at allowed
      cases call with
      | query q =>
          cases q with
          | findSnapshotOfService serviceId id =>
              obtain ⟨rfl, rfl⟩ := allowed
              exact orderly.targeted current answered
          | _ => exact allowed.elim
      | _ => exact allowed.elim
  | targeted request service target =>
      rw [current] at allowed
      cases call with
      | query q =>
          cases q with
          | findCurrentSnapshot serviceId =>
              obtain rfl : serviceId = service.id := allowed
              exact orderly.based current answered
          | _ => exact allowed.elim
      | _ => exact allowed.elim
  | based service event =>
      rw [current] at allowed
      cases call with
      | query q =>
          cases q with
          | findActiveEvent serviceId =>
              obtain rfl : serviceId = service.id := allowed
              exact orderly.unopposed current answered
          | insertEvent row =>
              obtain rfl : row = event := allowed
              exact orderly.insert current answered
          | _ => exact allowed.elim
      | _ => exact allowed.elim
  | inserted event =>
      rw [current] at allowed
      cases call with
      | addJob id =>
          obtain rfl : id = event.id := allowed
          exact orderly.add current answered
      | query q => cases q <;> exact allowed.elim
      | _ => exact allowed.elim
  | waiting =>
      rw [current] at allowed
      cases call with
      | takeJob => exact orderly.take current answered
      | query q => cases q <;> exact allowed.elim
      | _ => exact allowed.elim
  | taken rollbackEventId =>
      rw [current] at allowed
      cases call with
      | query q =>
          cases q with
          | findEvent id =>
              obtain rfl : id = rollbackEventId := allowed
              exact orderly.load current answered
          | _ => exact allowed.elim
      | _ => exact allowed.elim
  | loaded event =>
      rw [current] at allowed
      cases call with
      | query q =>
          cases q with
          | saveEvent row =>
              obtain rfl : row = { event with status := .inProgress } := allowed
              exact orderly.start current answered
          | _ => exact allowed.elim
      | _ => exact allowed.elim
  | running event service sent =>
      rw [current] at allowed
      exact orderly.running current allowed answered
  | closed =>
      rw [current] at allowed
      exact orderly.finish allowed answered

end Steps

end ServersManager
