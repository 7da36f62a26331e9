/-
Module: ServersManager.SnapshotTransactions
Purpose: The transactions of `createSnapshot`, any number of them at once: each that
  commits creates its snapshot as if in one step, and every service keeps one current.
Trusted boundary: none
Main exports:
  DeploymentSnapshotsService.createSnapshot, Creations, OneCurrent,
  DeploymentSnapshotsService.transactionAnswers,
  DeploymentSnapshotsService.createSnapshot_refines,
  DeploymentSnapshotsService.snapshots_consistent
-/
import ServersManager.Calls
import ServersManager.Library.Pool
import ServersManager.Library.ReadCommitted

namespace ServersManager

open Library

/-! ### Creating snapshots in one step -/

/-- The snapshots, by their ids. -/
abbrev Snapshots := Nat → Option DeploymentSnapshot

/-- A new snapshot is there, and none of its service is current any more but it. -/
structure Created (snapshot : DeploymentSnapshot) (before after : Snapshots) : Prop where
  current : snapshot.isCurrent = true
  fresh : before snapshot.id = none
  created : after snapshot.id = some snapshot
  others : ∀ id, id ≠ snapshot.id →
    after id = (before id).map (DeploymentSnapshot.retire snapshot.serviceId)

/-- Any number of snapshots, created one after another. -/
inductive Creations (start : Snapshots) : List DeploymentSnapshot → Snapshots → Prop where
  | start : Creations start [] start
  | create {created : List DeploymentSnapshot} {snapshot : DeploymentSnapshot}
      {before after : Snapshots} (earlier : Creations start created before)
      (creates : Created snapshot before after) :
      Creations start (created ++ [snapshot]) after

/-- Each service that has snapshots has one that is current. -/
structure OneCurrent (snapshots : Snapshots) : Prop where
  ids : ∀ id snapshot, snapshots id = some snapshot → snapshot.id = id
  one : ∀ id snapshot, snapshots id = some snapshot →
    ∃! current : DeploymentSnapshot, snapshots current.id = some current ∧
      current.serviceId = snapshot.serviceId ∧ current.isCurrent = true

/-- No snapshot has gone or changed, but that it may not be current any more. -/
def Retained (before after : Snapshots) : Prop :=
  ∀ id snapshot, before id = some snapshot →
    after id = some snapshot ∨
      snapshot.isCurrent = true ∧ after id = some { snapshot with isCurrent := false }

section Creating

variable {snapshot : DeploymentSnapshot} {before after : Snapshots}

/-- The snapshots of another service stay as they are. -/
theorem Created.of_other (creates : Created snapshot before after) {id : Nat}
    {row : DeploymentSnapshot} (other : row.serviceId ≠ snapshot.serviceId) :
    after id = some row ↔ before id = some row := by
  by_cases same : id = snapshot.id
  · subst same
    rw [creates.created, creates.fresh]
    constructor
    · intro isRow
      cases isRow
      exact (other rfl).elim
    · intro absurd
      cases absurd
  · rw [creates.others id same]
    constructor
    · intro has
      obtain ⟨old, had, rfl⟩ := Option.map_eq_some_iff.mp has
      rw [DeploymentSnapshot.retire_serviceId] at other
      rwa [DeploymentSnapshot.retire_other other]
    · intro had
      rw [had]
      exact congrArg some (DeploymentSnapshot.retire_other other)

/-- Of the new snapshot's service no other is current. -/
theorem Created.eq_of_current (creates : Created snapshot before after) {id : Nat}
    {row : DeploymentSnapshot} (has : after id = some row)
    (same : row.serviceId = snapshot.serviceId) (current : row.isCurrent = true) :
    row = snapshot := by
  by_cases isNew : id = snapshot.id
  · subst isNew
    rw [creates.created] at has
    exact (Option.some.inj has).symm
  · rw [creates.others id isNew] at has
    obtain ⟨old, -, rfl⟩ := Option.map_eq_some_iff.mp has
    have stays := (DeploymentSnapshot.retire_isCurrent.mp current).1
    rw [DeploymentSnapshot.retire_serviceId] at same
    exact (stays same).elim

theorem Created.oneCurrent (creates : Created snapshot before after)
    (oneCurrent : OneCurrent before) : OneCurrent after where
  ids id found has := by
    by_cases same : id = snapshot.id
    · subst same
      rw [creates.created] at has
      cases has
      rfl
    · rw [creates.others id same] at has
      obtain ⟨old, had, rfl⟩ := Option.map_eq_some_iff.mp has
      rw [DeploymentSnapshot.retire_id]
      exact oneCurrent.ids id old had
  one id found has := by
    by_cases same : found.serviceId = snapshot.serviceId
    · refine ⟨snapshot, ⟨creates.created, same.symm, creates.current⟩, ?_⟩
      rintro row ⟨hasRow, ofService, current⟩
      exact creates.eq_of_current hasRow (ofService.trans same) current
    · obtain ⟨current, ⟨had, ofService, isCurrent⟩, unique⟩ :=
        oneCurrent.one id found ((creates.of_other same).mp has)
      have other : current.serviceId ≠ snapshot.serviceId := ofService ▸ same
      refine ⟨current, ⟨(creates.of_other other).mpr had, ofService, isCurrent⟩, ?_⟩
      rintro row ⟨hasRow, rowService, rowCurrent⟩
      have otherRow : row.serviceId ≠ snapshot.serviceId := rowService ▸ same
      exact unique row ⟨(creates.of_other otherRow).mp hasRow, rowService, rowCurrent⟩

theorem Created.retained (creates : Created snapshot before after) :
    Retained before after := by
  intro id row had
  have apart : id ≠ snapshot.id := by
    rintro rfl
    rw [creates.fresh] at had
    cases had
  rw [creates.others id apart, had]
  unfold DeploymentSnapshot.retire
  by_cases retires : row.serviceId = snapshot.serviceId ∧ row.isCurrent = true
  · exact .inr ⟨retires.2, congrArg some (if_pos retires)⟩
  · exact .inl (congrArg some (if_neg retires))

theorem Retained.refl (snapshots : Snapshots) : Retained snapshots snapshots :=
  fun _ _ has => .inl has

theorem Retained.trans {first second third : Snapshots} (before : Retained first second)
    (after : Retained second third) : Retained first third := by
  intro id row had
  rcases before id row had with stays | ⟨current, retires⟩
  · exact after id row stays
  · rcases after id _ retires with stays | ⟨absurd, -⟩
    · exact .inr ⟨current, stays⟩
    · cases absurd

variable {start : Snapshots} {created : List DeploymentSnapshot}

theorem Creations.oneCurrent (creations : Creations start created after)
    (oneCurrent : OneCurrent start) : OneCurrent after := by
  induction creations with
  | start => exact oneCurrent
  | create earlier creates inductionHypothesis => exact creates.oneCurrent inductionHypothesis

theorem Creations.retained (creations : Creations start created after) :
    Retained start after := by
  induction creations with
  | start => exact .refl start
  | create earlier creates inductionHypothesis =>
      exact inductionHypothesis.trans creates.retained

theorem Creations.eq_of_nil (creations : Creations start [] after) : after = start := by
  generalize isNil : ([] : List DeploymentSnapshot) = created at creations
  cases creations with
  | start => rfl
  | create earlier creates => simp at isNil

/-- The last snapshot that was created for a service is its current one. -/
theorem Creations.last_current (creations : Creations start created after) {serviceId : Nat}
    {last : DeploymentSnapshot}
    (isLast : (created.filter fun snapshot => snapshot.serviceId = serviceId).getLast? =
      some last) :
    after last.id = some last ∧ last.serviceId = serviceId ∧ last.isCurrent = true := by
  induction creations with
  | start => cases isLast
  | @create created snapshot before after earlier creates inductionHypothesis =>
      rw [List.filter_append, List.getLast?_append] at isLast
      by_cases same : snapshot.serviceId = serviceId
      · have isIt : some snapshot = some last := by simpa [same] using isLast
        cases isIt
        exact ⟨creates.created, same, creates.current⟩
      · have passed : [snapshot].filter (fun row => row.serviceId = serviceId) = [] := by
          simp [same]
        rw [passed, List.getLast?_nil, Option.none_or] at isLast
        obtain ⟨had, ofService, current⟩ := inductionHypothesis isLast
        have other : last.serviceId ≠ snapshot.serviceId := fun isSame =>
          same (isSame.symm.trans ofService)
        exact ⟨(creates.of_other other).mpr had, ofService, current⟩

/-- The query that stands for the whole transaction elsewhere creates a snapshot so. -/
theorem Created.of_perform {db later : Database} {row : DeploymentSnapshot}
    (performed : db.perform (.createSnapshot snapshot) = (.ok row, later)) :
    Created row db.snapshots.byId later.snapshots.byId := by
  obtain ⟨⟨written, snapshots⟩, inserts, same⟩ :=
    Database.answer_eq_ok.mp (congrArg Prod.fst performed)
  obtain rfl : written = row := same
  simp only [Database.perform, inserts, Option.map_some] at performed
  obtain rfl := (congrArg Prod.snd performed).symm
  obtain ⟨isRow, saved⟩ := Table.insert_eq_some.mp inserts
  have newId : written.id = db.snapshots.nextId := by
    rw [isRow]
    rfl
  have ofService : written.serviceId = snapshot.serviceId := by rw [isRow]
  rw [← isRow] at saved
  refine ⟨by rw [isRow], ?_, ?_, ?_⟩
  · apply Table.byId_eq_none.mpr
    intro other member
    rw [newId]
    exact Nat.ne_of_lt (db.snapshots.below other member)
  · exact (Table.byId_save saved).trans (if_pos rfl)
  · intro id apart
    rw [ofService]
    refine (Table.byId_save saved).trans ((if_neg apart).trans ?_)
    cases found : db.snapshots.byId id with
    | none =>
        apply Table.byId_eq_none.mpr
        rintro other member rfl
        obtain ⟨old, oldMember, rfl⟩ := Table.mem_mapRows.mp member
        exact Table.byId_eq_none.mp found old oldMember
          (DeploymentSnapshot.retire_id _ _).symm
    | some old =>
        obtain ⟨member, rfl⟩ := Table.byId_eq_some.mp found
        apply Table.byId_eq_some.mpr
        exact ⟨Table.mem_mapRows.mpr ⟨old, member, rfl⟩, DeploymentSnapshot.retire_id _ _⟩

end Creating

namespace DeploymentSnapshotsService

/-! ### `deployment-snapshots/deployment-snapshots.service.ts` -/

/-- What a transaction of the service calls: the database and the random source. -/
inductive TransactionCall where
  | sql (statement : RowStatement DeploymentSnapshot)
  | randomBytes (length : Nat)

abbrev TransactionCall.Reply : TransactionCall → Type
  | .sql statement => statement.Reply
  | .randomBytes _ => List UInt8

def Transactions : Signature where
  Call := TransactionCall
  Reply := TransactionCall.Reply

abbrev Transactional (α : Type) := Program Transactions JsError α

def execute (statement : RowStatement DeploymentSnapshot) : Transactional statement.Reply :=
  Program.perform (S := Transactions) (.sql statement)

/-- `dataSource.transaction`: what the callback throws is thrown again after a rollback,
whose own failure is ignored. -/
def transaction {α : Type} (runInTransaction : Transactional α) : Transactional α :=
  tryCatch
    (do
      execute .start
      let result ← runInTransaction
      execute .commit
      return result)
    fun error => do
      tryCatch (execute .rollback) fun _ => return ()
      throw error

def updateRows (condition : DeploymentSnapshot → Bool)
    (change : DeploymentSnapshot → DeploymentSnapshot) : List Nat → Transactional Unit
  | [] => return ()
  | id :: ids => do
      execute (.update id condition change)
      updateRows condition change ids

/-- `manager.update`. -/
def update (condition : DeploymentSnapshot → Bool)
    (change : DeploymentSnapshot → DeploymentSnapshot) : Transactional Unit := do
  let ids ← execute (.select condition)
  updateRows condition change ids

/-- `CryptoService.encrypt`, as in any other program. -/
def encrypt (platform : Platform) (plaintext : String) : Transactional String := do
  let iv ← Program.perform (S := Transactions) (.randomBytes 12)
  return platform.encrypt iv plaintext

/-- `{ serviceId: input.serviceId, isCurrent: true }`. -/
def isCurrentOf (serviceId : Nat) (snapshot : DeploymentSnapshot) : Bool :=
  snapshot.serviceId == serviceId && snapshot.isCurrent

/-- `{ isCurrent: false }`. -/
def notCurrent (snapshot : DeploymentSnapshot) : DeploymentSnapshot :=
  { snapshot with isCurrent := false }

def createSnapshot (platform : Platform) (input : CreateSnapshotInput) :
    Transactional DeploymentSnapshot :=
  transaction do
    update (isCurrentOf input.serviceId) notCurrent
    let configBlob ← encrypt platform (Json.stringify input.config)
    execute (.insert fun id => { newSnapshot input configBlob with id := id })

/-! ### Transactions at once -/

/-- The store, and the transactions that have committed, in the order of their commits. -/
structure Journal (ι : Type) where
  store : Store DeploymentSnapshot ι
  commits : List ι

/-- A commit that succeeds is noted. -/
def noted {ι : Type} (commits : List ι) (thread : ι) :
    (call : TransactionCall) → Except JsError call.Reply → List ι
  | .sql .commit, .ok _ => commits ++ [thread]
  | _, _ => commits

/-- Any call may fail. -/
def transactionAnswers {ι : Type} [DecidableEq ι] (thread : ι) :
    Semantics Transactions JsError (Journal ι) :=
  fun (call : TransactionCall) before reply after =>
    after.commits = noted before.commits thread call reply ∧
      match call, reply with
      | .sql statement, reply =>
          before.store.Answers thread statement reply after.store
      | .randomBytes _, _ => after.store = before.store

/-! ### The order of a transaction's statements -/

/-- How far a transaction has come: it has retired snapshots at most, has inserted its own,
has committed, or has been aborted. -/
inductive Phase where
  | retiring
  | inserted (snapshot : DeploymentSnapshot)
  | committed (snapshot : DeploymentSnapshot)
  | aborted

def Phase.Allows (serviceId : Nat) : Phase → TransactionCall → Prop
  | .retiring, .randomBytes _ | .retiring, .sql .start | .retiring, .sql (.select _) => True
  | .retiring, .sql (.update _ condition change) =>
      condition = isCurrentOf serviceId ∧ change = notCurrent
  | .retiring, .sql (.insert make) => ∀ id,
      (make id).id = id ∧ (make id).serviceId = serviceId ∧ (make id).isCurrent = true
  | .inserted _, .sql .commit => True
  | .committed _, .sql .rollback => False
  | _, .sql .rollback => True
  | _, _ => False

def Phase.Moves (phase : Phase) :
    (call : TransactionCall) → Except JsError call.Reply → Phase → Prop
  | .randomBytes _, _, after => after = phase
  | .sql .rollback, _, after => after = .aborted
  | .sql _, .error _, after => after = .aborted
  | .sql (.insert _), .ok snapshot, after => after = .inserted snapshot
  | .sql .commit, .ok _, after => ∃ snapshot, phase = .inserted snapshot ∧
      after = .committed snapshot
  | .sql _, .ok _, after => after = phase

def createProtocol (serviceId : Nat) : Protocol Transactions JsError Phase where
  Allows phase call := phase.Allows serviceId call
  Moves phase call reply after := phase.Moves call reply after

/-- How a call of `createSnapshot` ends. -/
def EndsIn (outcome : Except JsError DeploymentSnapshot) (phase : Phase) : Prop :=
  match outcome with
  | .ok snapshot => phase = .committed snapshot
  | .error _ => phase = .aborted

section Follows

variable {serviceId : Nat}

/-- What is left to do after a failure. -/
theorem rollback_follows {phase : Phase} (rollsBack : phase.Allows serviceId (.sql .rollback))
    (error : JsError) :
    (((execute .rollback).tryCatch fun _ => .pure ()).bind fun _ =>
        (.throw error : Transactional DeploymentSnapshot)).Follows
      (createProtocol serviceId) EndsIn phase := by
  apply (Program.follows_bind _ _ _ _ _).mpr
  apply (Program.follows_tryCatch _ _ _ _ _).mpr
  apply (Program.follows_perform _ _ _ _).mpr
  apply And.intro rollsBack
  rintro (failed | value) after rfl
  · rfl
  · rfl

/-- A callback that inserts last is what the transaction commits. -/
theorem transaction_follows {runInTransaction : Transactional DeploymentSnapshot}
    (follows : runInTransaction.Follows (createProtocol serviceId)
      (fun outcome phase =>
        match outcome with
        | .ok snapshot => phase = .inserted snapshot
        | .error _ => phase.Allows serviceId (.sql .rollback)) .retiring) :
    (transaction runInTransaction).Follows (createProtocol serviceId) EndsIn .retiring := by
  have again : Phase.aborted.Allows serviceId (.sql .rollback) := trivial
  apply (Program.follows_tryCatch _ _ _ _ _).mpr
  apply (Program.follows_perform_bind _).mpr
  refine ⟨trivial, ?_, ?_⟩
  · rintro started phase rfl
    apply (Program.follows_bind _ _ _ _ _).mpr
    apply Program.Follows.mono follows
    intro outcome phase ended
    cases outcome with
    | error error => exact rollback_follows ended error
    | ok snapshot =>
        obtain rfl : phase = .inserted snapshot := ended
        apply (Program.follows_perform_bind _).mpr
        refine ⟨trivial, ?_, ?_⟩
        · rintro value after ⟨inserted, same, rfl⟩
          cases same
          rfl
        · rintro error after rfl
          exact rollback_follows again error
  · rintro error after rfl
    exact rollback_follows again error

/-- The update retires rows of the service only. -/
theorem updateRows_follows (ids : List Nat) :
    (updateRows (isCurrentOf serviceId) notCurrent ids).Follows (createProtocol serviceId)
      (fun outcome phase =>
        match outcome with
        | .ok _ => phase = .retiring
        | .error _ => phase.Allows serviceId (.sql .rollback)) .retiring := by
  induction ids with
  | nil => rfl
  | cons id ids inductionHypothesis =>
      apply (Program.follows_perform_bind _).mpr
      refine ⟨⟨rfl, rfl⟩, ?_, ?_⟩
      · rintro updated phase rfl
        exact inductionHypothesis
      · rintro error phase rfl
        trivial

theorem createSnapshot_follows (platform : Platform) (input : CreateSnapshotInput) :
    (createSnapshot platform input).Follows (createProtocol input.serviceId) EndsIn
      .retiring := by
  apply transaction_follows
  apply (Program.follows_bind _ _ _ _ _).mpr
  apply (Program.follows_perform_bind _).mpr
  refine ⟨trivial, ?_, ?_⟩
  · rintro ids phase rfl
    apply Program.Follows.mono (updateRows_follows ids)
    intro outcome phase updated
    cases outcome with
    | error error => exact updated
    | ok value =>
        obtain rfl : phase = .retiring := updated
        apply (Program.follows_bind _ _ _ _ _).mpr
        apply (Program.follows_perform_bind _).mpr
        refine ⟨trivial, ?_, ?_⟩
        · rintro iv phase rfl
          apply (Program.follows_perform _ _ _ _).mpr
          refine ⟨fun id => ⟨rfl, rfl, rfl⟩, ?_⟩
          rintro (error | snapshot) after rfl
          · trivial
          · rfl
        · rintro error phase rfl
          trivial
  · rintro error phase rfl
    trivial

end Follows

/-! ### What the transactions hold -/

section Holds

variable {ι : Type}

/-- What a transaction has written, but for one row, are retirements of committed rows. -/
def Retires (serviceId : Nat) (store : Store DeploymentSnapshot ι) (thread : ι)
    (except : Option Nat) : Prop :=
  ∀ id version, some id ≠ except → store.pending thread id = some version →
    (store.committed id).map (DeploymentSnapshot.retire serviceId) = some version

/-- Nothing of the transaction is pending. -/
def Idle (store : Store DeploymentSnapshot ι) (thread : ι) : Prop :=
  ∀ id, store.pending thread id = none

/-- What a phase says of the store and the commits. -/
def Phase.Holds (serviceId : Nat) (thread : ι) (journal : Journal ι) : Phase → Prop
  | .retiring => Retires serviceId journal.store thread none ∧ thread ∉ journal.commits
  | .inserted snapshot =>
      Retires serviceId journal.store thread (some snapshot.id) ∧
        journal.store.pending thread snapshot.id = some snapshot ∧
        journal.store.committed snapshot.id = none ∧
        snapshot.serviceId = serviceId ∧ snapshot.isCurrent = true ∧
        thread ∉ journal.commits
  | .committed snapshot => Idle journal.store thread ∧ snapshot.serviceId = serviceId
  | .aborted => Idle journal.store thread ∧ thread ∉ journal.commits

/-- What other transactions do concerns no row that a transaction has written. -/
theorem Phase.Holds.of_others {serviceId : Nat} {thread : ι} {journal after : Journal ι}
    {phase : Phase} (holds : phase.Holds serviceId thread journal)
    (pending : after.store.pending thread = journal.store.pending thread)
    (committed : ∀ id version, journal.store.pending thread id = some version →
      after.store.committed id = journal.store.committed id)
    (commits : thread ∈ after.commits → thread ∈ journal.commits) :
    phase.Holds serviceId thread after := by
  have retires : ∀ {except}, Retires serviceId journal.store thread except →
      Retires serviceId after.store thread except := by
    intro except before id version apart written
    rw [pending] at written
    rw [committed id version written]
    exact before id version apart written
  have idle : Idle journal.store thread → Idle after.store thread := by
    intro before id
    rw [pending]
    exact before id
  cases phase with
  | retiring => exact ⟨retires holds.1, fun isIn => holds.2 (commits isIn)⟩
  | inserted snapshot =>
      obtain ⟨before, written, absent, ofService, current, uncommitted⟩ := holds
      refine ⟨retires before, ?_, ?_, ofService, current, fun isIn => ?_⟩
      · rw [pending]
        exact written
      · rw [committed _ _ written]
        exact absent
      · exact uncommitted (commits isIn)
  | committed snapshot => exact ⟨idle holds.1, holds.2⟩
  | aborted => exact ⟨idle holds.1, fun isIn => holds.2 (commits isIn)⟩

variable [DecidableEq ι] {inputs : ι → CreateSnapshotInput}

/-- What holds whenever no call is under way.  From the journal `base` on, the committed
snapshots are those that the transactions have created since, one after another. -/
structure Consistent (inputs : ι → CreateSnapshotInput) (base : Journal ι)
    (phases : ι → Phase) (journal : Journal ι) : Prop where
  sound : journal.store.Sound
  holds : ∀ thread, (phases thread).Holds (inputs thread).serviceId thread journal
  refines : ∃ (since : List ι) (created : List DeploymentSnapshot),
    journal.commits = base.commits ++ since ∧
      List.Forall₂ (fun thread snapshot => phases thread = .committed snapshot)
        since created ∧
      Creations base.store.committed created journal.store.committed

variable {base journal after : Journal ι} {phases : ι → Phase} {thread : ι}

omit [DecidableEq ι] in
theorem Phase.Holds.uncommitted {serviceId : Nat} {phase : Phase}
    (holds : phase.Holds serviceId thread journal)
    (running : ∀ snapshot, phase ≠ .committed snapshot) : thread ∉ journal.commits := by
  cases phase with
  | retiring => exact holds.2
  | inserted snapshot => exact holds.2.2.2.2.2
  | committed snapshot => exact (running snapshot rfl).elim
  | aborted => exact holds.2

/-- A step that commits nothing. -/
theorem Consistent.step (consistent : Consistent inputs base phases journal)
    (running : ∀ snapshot, phases thread ≠ .committed snapshot) {phase : Phase}
    (sound : after.store.Sound)
    (holds : phase.Holds (inputs thread).serviceId thread after)
    (pending : ∀ other, other ≠ thread →
      after.store.pending other = journal.store.pending other)
    (committed : after.store.committed = journal.store.committed)
    (commits : after.commits = journal.commits) :
    Consistent inputs base (Function.update phases thread phase) after where
  sound := sound
  holds other := by
    by_cases same : other = thread
    · subst same
      rw [Function.update_self]
      exact holds
    · rw [Function.update_of_ne same]
      apply (consistent.holds other).of_others (pending other same)
      · intro id version written
        rw [committed]
      · rw [commits]
        exact id
  refines := by
    obtain ⟨since, created, hasCommitted, phasesOf, creations⟩ := consistent.refines
    refine ⟨since, created, commits.trans hasCommitted, ?_, committed ▸ creations⟩
    apply phasesOf.imp
    intro other snapshot isCommitted
    have apart : other ≠ thread := by
      rintro rfl
      exact running snapshot isCommitted
    rw [Function.update_of_ne apart]
    exact isCommitted

theorem Retires.write {serviceId id : Nat}
    {store : Store DeploymentSnapshot ι} {row : DeploymentSnapshot}
    (retires : Retires serviceId store thread none)
    (seen : (store.visible thread id).filter (isCurrentOf serviceId) = some row) :
    Retires serviceId (store.write thread id (notCurrent row)) thread none := by
  obtain ⟨sees, isCurrent⟩ := Option.filter_eq_some_iff.mp seen
  have current : row.serviceId = serviceId ∧ row.isCurrent = true := by
    simpa [isCurrentOf] using isCurrent
  intro otherId version apart written
  rcases Store.pending_write.mp written with ⟨⟨-, rfl⟩, rfl⟩ | ⟨-, before⟩
  · cases own : store.pending thread otherId with
    | some version =>
        -- a row that the transaction has retired already is not current
        have retired := retires otherId version apart own
        obtain ⟨old, -, rfl⟩ := Option.map_eq_some_iff.mp retired
        rw [Store.visible_pending own] at sees
        cases sees
        have stays := (DeploymentSnapshot.retire_isCurrent.mp current.2).1
        rw [DeploymentSnapshot.retire_serviceId] at current
        exact (stays current.1).elim
    | none =>
        rw [Store.visible_committed own] at sees
        change (store.committed otherId).map _ = _
        rw [sees]
        exact congrArg some (if_pos current)
  · exact retires otherId version apart before

theorem index_current {snapshot : DeploymentSnapshot} (current : snapshot.isCurrent = true) :
    Keyed.index snapshot = some snapshot.serviceId :=
  if_pos current

/-- A commit creates the transaction's snapshot: a row of its service that is current and
that it has not retired would have kept the index from letting the snapshot in. -/
theorem Phase.Holds.created {serviceId : Nat} {snapshot : DeploymentSnapshot}
    (holds : (Phase.inserted snapshot).Holds serviceId thread journal)
    (sound : journal.store.Sound) :
    Created snapshot journal.store.committed (journal.store.commit thread).committed := by
  obtain ⟨retires, written, absent, ofService, current, -⟩ := holds
  refine ⟨current, absent, Store.visible_pending written, ?_⟩
  intro id apart
  change journal.store.visible thread id = _
  cases own : journal.store.pending thread id with
  | some version =>
      have differs : some id ≠ some snapshot.id := fun same => apart (Option.some.inj same)
      rw [Store.visible_pending own, ofService]
      exact (retires id version differs own).symm
  | none =>
      rw [Store.visible_committed own]
      cases held : journal.store.committed id with
      | none => rfl
      | some row =>
          have stays : ¬ (row.serviceId = snapshot.serviceId ∧ row.isCurrent = true) := by
            rintro ⟨sameService, rowCurrent⟩
            apply sound.clear thread snapshot.id snapshot written
            have sees := (Store.visible_committed own).trans held
            exact ⟨snapshot.serviceId, id, row, index_current current, apart,
              sameService ▸ index_current rowCurrent, .inl sees⟩
          exact (congrArg some (if_neg stays)).symm

theorem Consistent.commit (consistent : Consistent inputs base phases journal)
    {snapshot : DeploymentSnapshot} (inserted : phases thread = .inserted snapshot) :
    Consistent inputs base (Function.update phases thread (.committed snapshot))
      { store := journal.store.commit thread, commits := journal.commits ++ [thread] } where
  sound := consistent.sound.commit thread
  holds other := by
    by_cases same : other = thread
    · subst same
      rw [Function.update_self]
      have holds := consistent.holds other
      rw [inserted] at holds
      apply And.intro _ holds.2.2.2.1
      intro id
      cases pending : (journal.store.commit other).pending other id with
      | none => rfl
      | some version => exact ((Store.pending_commit.mp pending).1 rfl).elim
    · rw [Function.update_of_ne same]
      apply (consistent.holds other).of_others
      · exact Function.update_of_ne same _ _
      · intro id version written
        apply Store.visible_committed
        cases pending : journal.store.pending thread id with
        | none => rfl
        | some row => exact (same
            (consistent.sound.exclusive other thread id version row written pending)).elim
      · intro isIn
        rcases List.mem_append.mp isIn with before | now
        · exact before
        · exact (same (List.mem_singleton.mp now)).elim
  refines := by
    obtain ⟨since, created, hasCommitted, phasesOf, creations⟩ := consistent.refines
    have holds := consistent.holds thread
    rw [inserted] at holds
    refine ⟨since ++ [thread], created ++ [snapshot], ?_, ?_, ?_⟩
    · rw [hasCommitted, List.append_assoc]
    · apply List.rel_append
      · apply phasesOf.imp
        intro other earlier isCommitted
        have apart : other ≠ thread := by
          rintro rfl
          cases inserted.symm.trans isCommitted
        rw [Function.update_of_ne apart]
        exact isCommitted
      · exact .cons (Function.update_self _ _ _) .nil
    · exact .create creations (holds.created consistent.sound)

theorem idle_abort (store : Store DeploymentSnapshot ι) (thread : ι) :
    Idle (store.abort thread) thread := by
  intro id
  cases pending : (store.abort thread).pending thread id with
  | none => rfl
  | some version => exact ((Store.pending_abort.mp pending).1 rfl).elim

/-- A statement that fails, and a rollback, end the transaction. -/
theorem Consistent.abort (consistent : Consistent inputs base phases journal)
    (running : ∀ snapshot, phases thread ≠ .committed snapshot)
    (aborts : after.store = journal.store.abort thread)
    (commits : after.commits = journal.commits) :
    Consistent inputs base (Function.update phases thread .aborted) after := by
  apply consistent.step running
  · rw [aborts]
    exact consistent.sound.abort thread
  · constructor
    · rw [aborts]
      exact idle_abort journal.store thread
    · rw [commits]
      exact (consistent.holds thread).uncommitted running
  · intro other apart
    rw [aborts]
    exact Function.update_of_ne apart _ _
  · rw [aborts]
    rfl
  · exact commits

/-- A call that leaves everything as it is. -/
theorem Consistent.stay (consistent : Consistent inputs base phases journal)
    (same : after.store = journal.store) (commits : after.commits = journal.commits) :
    Consistent inputs base (Function.update phases thread (phases thread)) after := by
  obtain ⟨store, committed⟩ := after
  obtain rfl : store = journal.store := same
  obtain rfl : committed = journal.commits := commits
  rw [Function.update_eq_self]
  exact consistent

theorem Phase.Allows.running {serviceId : Nat} {phase : Phase} {call : TransactionCall}
    (allows : phase.Allows serviceId call) (snapshot : DeploymentSnapshot) :
    phase ≠ .committed snapshot := by
  rintro rfl
  cases call with
  | randomBytes length => exact allows
  | sql statement => cases statement <;> exact allows

theorem Phase.Allows.ofUpdate {serviceId id : Nat} {phase : Phase}
    {condition : DeploymentSnapshot → Bool} {change : DeploymentSnapshot → DeploymentSnapshot}
    (allows : phase.Allows serviceId (.sql (.update id condition change))) :
    phase = .retiring ∧ condition = isCurrentOf serviceId ∧ change = notCurrent := by
  cases phase with
  | retiring => exact ⟨rfl, allows⟩
  | _ => cases allows

theorem Phase.Allows.ofInsert {serviceId : Nat} {phase : Phase}
    {make : Nat → DeploymentSnapshot}
    (allows : phase.Allows serviceId (.sql (.insert make))) :
    phase = .retiring ∧ ∀ id, (make id).id = id ∧ (make id).serviceId = serviceId ∧
      (make id).isCurrent = true := by
  cases phase with
  | retiring => exact ⟨rfl, allows⟩
  | _ => cases allows

theorem Phase.Allows.ofCommit {serviceId : Nat} {phase : Phase}
    (allows : phase.Allows serviceId (.sql .commit)) :
    ∃ snapshot, phase = .inserted snapshot := by
  cases phase with
  | inserted snapshot => exact ⟨snapshot, rfl⟩
  | _ => cases allows

/-- An update that finds a current row of the service retires it. -/
theorem Consistent.update (consistent : Consistent inputs base phases journal)
    (retiring : phases thread = .retiring) {id : Nat} {row : DeploymentSnapshot}
    (seen : (journal.store.visible thread id).filter
      (isCurrentOf (inputs thread).serviceId) = some row)
    (sound : after.store.Sound)
    (writes : after.store = journal.store.write thread id (notCurrent row))
    (commits : after.commits = journal.commits) :
    Consistent inputs base (Function.update phases thread .retiring) after := by
  have holds := consistent.holds thread
  rw [retiring] at holds
  apply consistent.step _ sound
  · constructor
    · rw [writes]
      exact holds.1.write seen
    · rw [commits]
      exact holds.2
  · intro other apart
    rw [writes]
    exact Function.update_of_ne apart _ _
  · rw [writes]
    rfl
  · exact commits
  · intro snapshot isCommitted
    cases retiring.symm.trans isCommitted

theorem Consistent.insert (consistent : Consistent inputs base phases journal)
    (retiring : phases thread = .retiring) {snapshot : DeploymentSnapshot}
    (isNext : snapshot.id = journal.store.nextId)
    (ofService : snapshot.serviceId = (inputs thread).serviceId)
    (current : snapshot.isCurrent = true) (sound : after.store.Sound)
    (inserts : after.store =
      { journal.store.write thread journal.store.nextId snapshot with
        nextId := journal.store.nextId + 1 })
    (commits : after.commits = journal.commits) :
    Consistent inputs base (Function.update phases thread (.inserted snapshot)) after := by
  have holds := consistent.holds thread
  rw [retiring] at holds
  apply consistent.step _ sound
  · refine ⟨?_, ?_, ?_, ofService, current, ?_⟩
    · rw [inserts, isNext]
      intro id version apart written
      rcases Store.pending_write.mp written with ⟨⟨-, rfl⟩, -⟩ | ⟨-, before⟩
      · exact (apart rfl).elim
      · apply holds.1 id version _ before
        intro absurd
        cases absurd
    · rw [inserts, isNext]
      exact Store.pending_write.mpr (.inl ⟨⟨rfl, rfl⟩, rfl⟩)
    · rw [inserts, isNext]
      exact (consistent.sound.fresh journal.store.nextId (Nat.le_refl _)).1
    · rw [commits]
      exact holds.2
  · intro other apart
    rw [inserts]
    exact Function.update_of_ne apart _ _
  · rw [inserts]
    rfl
  · exact commits
  · intro earlier isCommitted
    cases retiring.symm.trans isCommitted

/-- Every call of every transaction keeps the journal consistent. -/
theorem consistent_keeps (inputs : ι → CreateSnapshotInput) (base : Journal ι) :
    Pool.Keeps (fun thread => createProtocol (inputs thread).serviceId) transactionAnswers
      (Consistent inputs base) := by
  rintro phases journal thread call reply after consistent allows ⟨commits, answered⟩
  have running := Phase.Allows.running allows
  cases call with
  | randomBytes length => exact ⟨_, rfl, consistent.stay answered commits⟩
  | sql statement =>
      cases reply with
      | error error =>
          refine ⟨.aborted, ?_, consistent.abort running answered ?_⟩
          · cases statement <;> rfl
          · cases statement <;> exact commits
      | ok reply =>
          have sound := Store.Answers.sound answered consistent.sound
          cases statement with
          | start => exact ⟨_, rfl, consistent.stay answered commits⟩
          | select condition => exact ⟨_, rfl, consistent.stay answered.1 commits⟩
          | update id condition change =>
              obtain ⟨retiring, rfl, rfl⟩ := Phase.Allows.ofUpdate allows
              obtain ⟨-, updates⟩ := answered
              cases seen : (journal.store.visible thread id).filter
                  (isCurrentOf (inputs thread).serviceId) with
              | none =>
                  rw [seen] at updates
                  exact ⟨_, rfl, consistent.stay updates commits⟩
              | some row =>
                  rw [seen] at updates
                  exact ⟨.retiring, retiring.symm,
                    consistent.update retiring seen sound updates.2 commits⟩
          | insert make =>
              obtain ⟨retiring, makes⟩ := Phase.Allows.ofInsert allows
              obtain ⟨rfl, -, inserts⟩ := answered
              obtain ⟨isNext, ofService, current⟩ := makes journal.store.nextId
              exact ⟨_, rfl, consistent.insert retiring isNext ofService current sound
                inserts commits⟩
          | commit =>
              obtain ⟨snapshot, inserted⟩ := Phase.Allows.ofCommit allows
              obtain ⟨store, committed⟩ := after
              obtain rfl : store = journal.store.commit thread := answered
              obtain rfl : committed = journal.commits ++ [thread] := commits
              exact ⟨_, ⟨snapshot, inserted, rfl⟩, consistent.commit inserted⟩
          | rollback => exact ⟨_, rfl, consistent.abort running answered commits⟩

end Holds

/-! ### Every interleaving -/

section Interleavings

variable {ι : Type} [DecidableEq ι] {platform : Platform} {inputs : ι → CreateSnapshotInput}

/-- A store in which no transaction has begun. -/
structure Begins (store : Store DeploymentSnapshot ι) : Prop where
  idle : ∀ thread, Idle store thread
  fresh : ∀ id, store.nextId ≤ id → store.committed id = none
  oneCurrent : OneCurrent store.committed

omit [DecidableEq ι] in
theorem indexed_of_oneCurrent {snapshots : Snapshots} (oneCurrent : OneCurrent snapshots)
    {id otherId : Nat} {row other : DeploymentSnapshot} {key : Nat}
    (has : snapshots id = some row) (hasOther : snapshots otherId = some other)
    (rowKey : Keyed.index row = some key) (otherKey : Keyed.index other = some key) :
    id = otherId := by
  have current : ∀ {snapshot : DeploymentSnapshot}, Keyed.index snapshot = some key →
      snapshot.serviceId = key ∧ snapshot.isCurrent = true := by
    intro snapshot isKey
    by_cases isCurrent : snapshot.isCurrent = true
    · rw [index_current isCurrent] at isKey
      exact ⟨Option.some.inj isKey, isCurrent⟩
    · have absent : Keyed.index snapshot = none := if_neg isCurrent
      rw [absent] at isKey
      cases isKey
  obtain ⟨rowService, rowCurrent⟩ := current rowKey
  obtain ⟨otherService, otherCurrent⟩ := current otherKey
  have rowId := oneCurrent.ids id row has
  have otherIsId := oneCurrent.ids otherId other hasOther
  have same := (oneCurrent.one id row has).unique
    ⟨rowId.symm ▸ has, rfl, rowCurrent⟩
    ⟨otherIsId.symm ▸ hasOther, otherService.trans rowService.symm, otherCurrent⟩
  rw [← rowId, ← otherIsId, same]

/-- All transactions, none of which has begun. -/
def allTransactions (platform : Platform) (inputs : ι → CreateSnapshotInput)
    (start : Store DeploymentSnapshot ι) :
    Pool Transactions JsError ι DeploymentSnapshot (Journal ι) where
  threads thread := createSnapshot platform (inputs thread)
  store := { store := start, commits := [] }

omit [DecidableEq ι] in
theorem Begins.consistent {start : Store DeploymentSnapshot ι} (begins : Begins start) :
    Consistent inputs { store := start, commits := [] } (fun _ => .retiring)
      { store := start, commits := [] } where
  sound := Store.sound_of_committed begins.idle begins.fresh
    fun _ _ _ _ _ has hasOther rowKey otherKey =>
      indexed_of_oneCurrent begins.oneCurrent has hasOther rowKey otherKey
  holds thread := by
    constructor
    · intro id version apart written
      rw [begins.idle thread id] at written
      cases written
    · exact List.not_mem_nil
  refines := ⟨[], [], rfl, .nil, .start⟩

/-- A transaction that has committed has nothing left to do but to return. -/
theorem ended_of_committed {program : Transactional DeploymentSnapshot} {serviceId : Nat}
    {snapshot : DeploymentSnapshot}
    (follows : program.Follows (createProtocol serviceId) EndsIn (.committed snapshot)) :
    program = .ofExcept (.ok snapshot) := by
  cases program with
  | pure value =>
      cases (follows : Phase.committed snapshot = .committed value)
      rfl
  | throw error => cases (follows : Phase.committed snapshot = .aborted)
  | call op next => exact (Phase.Allows.running follows.1 snapshot rfl).elim

/-- What is known of a state that some interleaving reaches. -/
structure Reached (platform : Platform) (inputs : ι → CreateSnapshotInput)
    (start : Store DeploymentSnapshot ι) (phases : ι → Phase)
    (pool : Pool Transactions JsError ι DeploymentSnapshot (Journal ι)) : Prop where
  follows : pool.Follows (fun thread => createProtocol (inputs thread).serviceId)
    (fun _ => EndsIn) phases
  consistent : Consistent inputs { store := start, commits := [] } phases pool.store

theorem reached {start : Store DeploymentSnapshot ι} (begins : Begins start)
    {pool : Pool Transactions JsError ι DeploymentSnapshot (Journal ι)}
    (reaches : Pool.Reaches transactionAnswers (allTransactions platform inputs start) pool) :
    ∃ phases, Reached platform inputs start phases pool := by
  have follows : (allTransactions platform inputs start).Follows
      (fun thread => createProtocol (inputs thread).serviceId) (fun _ => EndsIn)
      (fun _ => .retiring) := fun thread => createSnapshot_follows platform (inputs thread)
  obtain ⟨phases, stillFollows, consistent⟩ := Pool.Reaches.invariant
    (consistent_keeps inputs _) follows begins.consistent reaches
  exact ⟨phases, stillFollows, consistent⟩

/-- From one state to a later one, the committed snapshots change as if those that the
transactions committing between them return had been created one after another. -/
theorem createSnapshot_refines {start : Store DeploymentSnapshot ι} (begins : Begins start)
    {pool later : Pool Transactions JsError ι DeploymentSnapshot (Journal ι)}
    (reaches : Pool.Reaches transactionAnswers (allTransactions platform inputs start) pool)
    (more : Pool.Reaches transactionAnswers pool later) :
    ∃ (since : List ι) (created : List DeploymentSnapshot),
      later.store.commits = pool.store.commits ++ since ∧
      List.Forall₂ (fun thread snapshot => later.Ended thread (.ok snapshot) ∧
        snapshot.serviceId = (inputs thread).serviceId) since created ∧
      Creations pool.store.store.committed created later.store.store.committed := by
  obtain ⟨phases, known⟩ := reached begins reaches
  have fromHere : Consistent inputs pool.store phases pool.store :=
    { sound := known.consistent.sound
      holds := known.consistent.holds
      refines := ⟨[], [], (List.append_nil _).symm, .nil, .start⟩ }
  obtain ⟨phasesLater, follows, consistent⟩ := Pool.Reaches.invariant
    (consistent_keeps inputs pool.store) known.follows fromHere more
  obtain ⟨since, created, commits, phasesOf, creations⟩ := consistent.refines
  refine ⟨since, created, commits, ?_, creations⟩
  apply phasesOf.imp
  intro thread snapshot isCommitted
  have followsHere := follows thread
  have holds := consistent.holds thread
  rw [isCommitted] at followsHere holds
  exact ⟨ended_of_committed followsHere, holds.2⟩

/-- A transaction that throws has committed nothing. -/
theorem thrown_uncommitted {start : Store DeploymentSnapshot ι} (begins : Begins start)
    {pool : Pool Transactions JsError ι DeploymentSnapshot (Journal ι)}
    (reaches : Pool.Reaches transactionAnswers (allTransactions platform inputs start) pool)
    {thread : ι} {error : JsError} (thrown : pool.Ended thread (.error error)) :
    thread ∉ pool.store.commits := by
  obtain ⟨phases, known⟩ := reached begins reaches
  have aborted : phases thread = .aborted := known.follows.ended thrown
  have holds := known.consistent.holds thread
  rw [aborted] at holds
  exact holds.2

omit [DecidableEq ι] in
theorem getLast?_of_forall₂ {α β : Type} {related : α → β → Prop} {first : List α}
    {second : List β} (pairs : List.Forall₂ related first second) {last : α}
    (isLast : first.getLast? = some last) :
    ∃ other, second.getLast? = some other ∧ related last other := by
  induction pairs with
  | nil => cases isLast
  | @cons value other values others relates pairs inductionHypothesis =>
      rw [List.getLast?_cons] at isLast ⊢
      cases rest : values.getLast? with
      | none =>
          rw [rest] at isLast
          cases isLast
          have ends : values = [] := List.getLast?_eq_none_iff.mp rest
          subst ends
          cases pairs
          exact ⟨other, rfl, relates⟩
      | some found =>
          rw [rest] at isLast
          obtain ⟨last, isOther, relatesLast⟩ := inductionHypothesis (rest.trans isLast)
          rw [isOther]
          exact ⟨last, rfl, relatesLast⟩

/-- In every state that any interleaving of the statements reaches, each service that has
snapshots has one that is current, which is that of the transaction for it that committed
last; no committed snapshot is lost or changed later on, but that it may stop being
current; and a transaction that throws is none of those that committed, without which the
committed snapshots stay as they are. -/
theorem snapshots_consistent (platform : Platform) (inputs : ι → CreateSnapshotInput)
    {start : Store DeploymentSnapshot ι} (begins : Begins start)
    {pool : Pool Transactions JsError ι DeploymentSnapshot (Journal ι)}
    (reaches : Pool.Reaches transactionAnswers (allTransactions platform inputs start) pool) :
    OneCurrent pool.store.store.committed ∧
      (∀ serviceId last,
        (pool.store.commits.filter fun thread =>
          (inputs thread).serviceId = serviceId).getLast? = some last →
        ∃ snapshot, pool.Ended last (.ok snapshot) ∧ snapshot.serviceId = serviceId ∧
          snapshot.isCurrent = true ∧
          pool.store.store.committed snapshot.id = some snapshot) ∧
      (∀ later, Pool.Reaches transactionAnswers pool later →
        Retained pool.store.store.committed later.store.store.committed) ∧
      (∀ thread error, pool.Ended thread (.error error) → thread ∉ pool.store.commits) ∧
      ∀ later, Pool.Reaches transactionAnswers pool later →
        later.store.commits = pool.store.commits →
          later.store.store.committed = pool.store.store.committed := by
  obtain ⟨since, created, commits, ended, creations⟩ :=
    createSnapshot_refines begins .refl reaches
  obtain rfl : pool.store.commits = since := commits
  refine ⟨creations.oneCurrent begins.oneCurrent, ?_, ?_, ?_, ?_⟩
  · intro serviceId last isLast
    have filtered := List.rel_filter (p := fun thread => (inputs thread).serviceId = serviceId)
      (q := fun snapshot : DeploymentSnapshot => snapshot.serviceId = serviceId)
      (fun {thread snapshot} related => by simp [related.2]) ended
    obtain ⟨snapshot, isNewest, returned, ofService⟩ := getLast?_of_forall₂ filtered isLast
    obtain ⟨held, sameService, current⟩ := creations.last_current isNewest
    exact ⟨snapshot, returned, sameService, current, held⟩
  · intro later more
    obtain ⟨since, created, commitsLater, endedLater, creationsLater⟩ :=
      createSnapshot_refines begins reaches more
    exact creationsLater.retained
  · intro thread error thrown
    exact thrown_uncommitted begins reaches thrown
  · intro later more same
    obtain ⟨since, created, commitsLater, endedLater, creationsLater⟩ :=
      createSnapshot_refines begins reaches more
    have none : since = [] := by
      rw [same] at commitsLater
      exact List.append_right_eq_self.mp commitsLater.symm
    subst none
    cases endedLater
    exact creationsLater.eq_of_nil

end Interleavings

/-! ### Two snapshots of one service at once -/

def serviceInput (imageTag : String) : CreateSnapshotInput :=
  { serviceId := 7
    imageTag := imageTag
    config := .obj []
    deployedAt := 1000
    deployedById := none }

def serviceSnapshot (id : Nat) (imageTag : String) : DeploymentSnapshot :=
  { newSnapshot (serviceInput imageTag)
      (Platform.transparent.encrypt [] (Json.stringify (serviceInput imageTag).config)) with
    id := id }

/-- The service has a snapshot, and no transaction has begun. -/
def servedStore : Store DeploymentSnapshot Bool where
  committed id := if id = 0 then some (serviceSnapshot 0 "web:1") else none
  pending _ _ := none
  nextId := 1

theorem servedStore_committed {id : Nat} {snapshot : DeploymentSnapshot}
    (has : servedStore.committed id = some snapshot) :
    id = 0 ∧ snapshot = serviceSnapshot 0 "web:1" := by
  simp only [servedStore, Option.ite_none_right_eq_some, Option.some.injEq] at has
  exact ⟨has.1, has.2.symm⟩

theorem servedStore_begins : Begins servedStore where
  idle _ _ := rfl
  fresh id above := if_neg (Nat.ne_of_gt above)
  oneCurrent := by
    constructor
    · intro id snapshot has
      obtain ⟨rfl, rfl⟩ := servedStore_committed has
      rfl
    · intro id snapshot has
      obtain ⟨rfl, rfl⟩ := servedStore_committed has
      refine ⟨serviceSnapshot 0 "web:1", ⟨rfl, rfl, rfl⟩, ?_⟩
      rintro row ⟨hasRow, -⟩
      exact (servedStore_committed hasRow).2

/-- One transaction has retired the snapshot. -/
def retiredStore : Store DeploymentSnapshot Bool :=
  servedStore.write true 0 (notCurrent (serviceSnapshot 0 "web:1"))

/-- It has created another. -/
def insertedStore : Store DeploymentSnapshot Bool :=
  { retiredStore.write true 1 (serviceSnapshot 1 "web:2") with nextId := 2 }

theorem served_selects (thread : Bool) :
    servedStore.Performs thread (.select (isCurrentOf 7)) [0] servedStore := by
  refine ⟨rfl, fun id => ?_⟩
  rw [List.mem_singleton]
  constructor
  · rintro rfl
    exact ⟨_, rfl, rfl⟩
  · rintro ⟨row, sees, -⟩
    exact (servedStore_committed sees).1

theorem served_retires : servedStore.Performs true (.update 0 (isCurrentOf 7) notCurrent) ()
    retiredStore := by
  constructor
  · rintro ⟨other, version, -, wrote⟩
    cases wrote
  · refine ⟨?_, rfl⟩
    rintro ⟨key, otherId, other, rowKey, -⟩
    cases rowKey

theorem retired_inserts : retiredStore.Performs true
    (.insert fun id => serviceSnapshot id "web:2") (serviceSnapshot 1 "web:2")
    insertedStore := by
  refine ⟨rfl, ?_, rfl⟩
  rintro ⟨key, otherId, other, -, -, otherKey, sees | ⟨writer, differs, wrote⟩⟩
  · cases otherId with
    | zero =>
        obtain rfl := Option.some.inj sees
        cases otherKey
    | succ otherId => cases (sees : none = some other)
  · cases writer with
    | false => cases (wrote : none = some other)
    | true => exact differs rfl

/-- The other transaction finds nothing to retire any more. -/
theorem committed_retires : (insertedStore.commit true).Performs false
    (.update 0 (isCurrentOf 7) notCurrent) () (insertedStore.commit true) := by
  constructor
  · rintro ⟨other, version, differs, wrote⟩
    cases other with
    | false => exact differs rfl
    | true => cases (wrote : none = some version)
  · rfl

/-- Two transactions have seen the same current snapshot: one of them retires it and
commits, and the other is refused by the index and rolled back. -/
theorem snapshots_consistent_overlapping :
    ∃ pool, Pool.Reaches transactionAnswers
        (allTransactions .transparent (fun _ => serviceInput "web:2") servedStore) pool ∧
      pool.store.commits = [true] ∧
      pool.store.store.committed 0 = some (notCurrent (serviceSnapshot 0 "web:1")) ∧
      OneCurrent pool.store.store.committed ∧
      (∃ snapshot, pool.Ended true (.ok snapshot) ∧ snapshot.serviceId = 7 ∧
        pool.store.store.committed snapshot.id = some snapshot) ∧
      ∃ error, pool.Ended false (.error error) ∧ false ∉ pool.store.commits := by
  have answers : ∀ (thread : Bool) (statement : RowStatement DeploymentSnapshot)
      (reply : statement.Reply) (before after : Store DeploymentSnapshot Bool) commits,
      before.Performs thread statement reply after →
        transactionAnswers thread (TransactionCall.sql statement)
          { store := before, commits := commits } (.ok reply)
          { store := after,
            commits := noted commits thread (.sql statement) (.ok reply) } :=
    fun _ _ _ _ _ _ performs => ⟨rfl, performs⟩
  have starts : Pool.Reaches transactionAnswers
      (allTransactions .transparent (fun _ => serviceInput "web:2") servedStore)
      (allTransactions .transparent (fun _ => serviceInput "web:2") servedStore) := .refl
  have began := starts.call true rfl (answers true .start () servedStore servedStore [] rfl)
  have beganOther := began.call false rfl
    (answers false .start () servedStore servedStore [] rfl)
  have selected := beganOther.call true rfl
    (answers true _ _ _ _ [] (served_selects true))
  have selectedOther := selected.call false rfl
    (answers false _ _ _ _ [] (served_selects false))
  have retired := selectedOther.call true rfl (answers true _ _ _ _ [] served_retires)
  have reads : ∀ (thread : Bool) (journal : Journal Bool),
      transactionAnswers thread (TransactionCall.randomBytes 12) journal
        (.ok ([] : List UInt8)) journal := fun _ _ => ⟨rfl, rfl⟩
  have encrypted := retired.call true rfl (reads true _)
  have inserted := encrypted.call true rfl (answers true _ _ _ _ [] retired_inserts)
  have committed := inserted.call true rfl
    (answers true .commit () insertedStore (insertedStore.commit true) [] rfl)
  have retiredOther := committed.call false rfl
    (answers false _ _ _ _ [true] committed_retires)
  have encryptedOther := retiredOther.call false rfl (reads false _)
  have refused : transactionAnswers false
      (TransactionCall.sql (.insert fun id => serviceSnapshot id "web:2"))
      { store := insertedStore.commit true, commits := [true] }
      (.error uniqueViolation)
      { store := (insertedStore.commit true).abort false, commits := [true] } := ⟨rfl, rfl⟩
  have refusedOther := encryptedOther.call false rfl refused
  have rolledBack := refusedOther.call false rfl (answers false .rollback () _ _ [true] rfl)
  obtain ⟨oneCurrent, newest, -, uncommitted, -⟩ :=
    snapshots_consistent .transparent (fun _ => serviceInput "web:2") servedStore_begins
      rolledBack
  obtain ⟨snapshot, ended, ofService, -, held⟩ := newest 7 true rfl
  exact ⟨_, rolledBack, rfl, rfl, oneCurrent, ⟨snapshot, ended, ofService, held⟩,
    _, rfl, uncommitted false _ rfl⟩

end DeploymentSnapshotsService

end ServersManager
