/-
Module: ServersManager.Library.ReadCommitted
Purpose: Transactions at the isolation level read committed over one table with a partial
  unique index: what each statement may do while others are under way.
Trusted boundary: none
Main exports:
  Store, RowStatement, Store.Performs, Store.Answers, Store.Sound, Store.sound_of_committed,
  Store.Answers.sound
-/
import Mathlib.Logic.Function.Basic
import ServersManager.Library.Table

namespace Library

/-! ### Stores and statements -/

/-- A table by its primary keys: the committed rows, and for each open transaction the
versions that it has written and nobody else sees yet. -/
structure Store (ρ τ : Type) where
  committed : Nat → Option ρ
  pending : τ → Nat → Option ρ
  nextId : Nat

/-- The statements of a transaction.  A bulk update is a `select` of the rows to be changed
and an `update` of each of them. -/
inductive RowStatement (ρ : Type) where
  | start
  | select (condition : ρ → Bool)
  | update (id : Nat) (condition : ρ → Bool) (change : ρ → ρ)
  | insert (make : Nat → ρ)
  | commit
  | rollback

abbrev RowStatement.Reply {ρ : Type} : RowStatement ρ → Type
  | .select _ => List Nat
  | .insert _ => ρ
  | _ => Unit

namespace Store

variable {ρ τ κ ε : Type}

/-- What a transaction sees: what it has written itself, over what is committed. -/
def visible (store : Store ρ τ) (transaction : τ) (id : Nat) : Option ρ :=
  (store.pending transaction id).or (store.committed id)

/-- Another transaction has written the row and is still open. -/
def Locked (store : Store ρ τ) (transaction : τ) (id : Nat) : Prop :=
  ∃ other version, other ≠ transaction ∧ store.pending other id = some version

/-- The index does not let the version in: another row that the transaction sees has its
key, or a version that an open transaction has written. -/
def Conflicts [Keyed ρ κ] (store : Store ρ τ) (transaction : τ) (id : Nat) (row : ρ) :
    Prop :=
  ∃ key otherId other, Keyed.index row = some key ∧ otherId ≠ id ∧
    Keyed.index other = some key ∧
    (store.visible transaction otherId = some other ∨
      ∃ writer, writer ≠ transaction ∧ store.pending writer otherId = some other)

variable [DecidableEq τ]

def write (store : Store ρ τ) (transaction : τ) (id : Nat) (row : ρ) : Store ρ τ :=
  { store with
    pending := Function.update store.pending transaction
      (Function.update (store.pending transaction) id (some row)) }

/-- Nothing of the transaction remains. -/
def abort (store : Store ρ τ) (transaction : τ) : Store ρ τ :=
  { store with pending := Function.update store.pending transaction fun _ => none }

/-- The transaction's versions become the committed rows. -/
def commit (store : Store ρ τ) (transaction : τ) : Store ρ τ :=
  { store with
    committed := store.visible transaction
    pending := Function.update store.pending transaction fun _ => none }

/-- What a statement does that succeeds.  A `select` sees what is committed when it begins.
An `update` waits until no other open transaction has written the row, and changes it if it
still satisfies the condition.  What the index might refuse waits for the transactions whose
end decides it. -/
def Performs [Keyed ρ κ] (store : Store ρ τ) (transaction : τ) :
    (statement : RowStatement ρ) → statement.Reply → Store ρ τ → Prop
  | .start, _, after => after = store
  | .select condition, ids, after =>
      after = store ∧ ∀ id, id ∈ ids ↔
        ∃ row, store.visible transaction id = some row ∧ condition row = true
  | .update id condition change, _, after =>
      ¬ store.Locked transaction id ∧
        match (store.visible transaction id).filter condition with
        | none => after = store
        | some row =>
            ¬ store.Conflicts transaction id (change row) ∧
              after = store.write transaction id (change row)
  | .insert make, row, after =>
      row = make store.nextId ∧ ¬ store.Conflicts transaction store.nextId row ∧
        after = { store.write transaction store.nextId row with nextId := store.nextId + 1 }
  | .commit, _, after => after = store.commit transaction
  | .rollback, _, after => after = store.abort transaction

/-- Any statement may fail, which ends its transaction. -/
def Answers [Keyed ρ κ] (store : Store ρ τ) (transaction : τ) (statement : RowStatement ρ) :
    Except ε statement.Reply → Store ρ τ → Prop
  | .ok reply, after => store.Performs transaction statement reply after
  | .error _, after => after = store.abort transaction

/-! ### What the statements keep -/

/-- No two open transactions have written one row, and no version that is in the store is
one that the index would refuse. -/
structure Sound [Keyed ρ κ] (store : Store ρ τ) : Prop where
  fresh : ∀ id, store.nextId ≤ id → store.committed id = none ∧
    ∀ transaction, store.pending transaction id = none
  exclusive : ∀ transaction other id row version,
    store.pending transaction id = some row → store.pending other id = some version →
    transaction = other
  indexed : ∀ id otherId row other key, store.committed id = some row →
    store.committed otherId = some other → Keyed.index row = some key →
    Keyed.index other = some key → id = otherId
  clear : ∀ transaction id row, store.pending transaction id = some row →
    ¬ store.Conflicts transaction id row

variable {store after : Store ρ τ} {transaction other : τ} {id otherId : Nat} {row : ρ}

omit [DecidableEq τ] in
theorem visible_pending (written : store.pending transaction id = some row) :
    store.visible transaction id = some row := by
  unfold visible
  rw [written]
  rfl

omit [DecidableEq τ] in
theorem visible_committed (untouched : store.pending transaction id = none) :
    store.visible transaction id = store.committed id := by
  unfold visible
  rw [untouched]
  rfl

/-- What is pending after a write has been written by it, or was pending before. -/
theorem pending_write {version : ρ} :
    (store.write transaction id row).pending other otherId = some version ↔
      (other = transaction ∧ otherId = id) ∧ row = version ∨
        ¬ (other = transaction ∧ otherId = id) ∧
          store.pending other otherId = some version := by
  unfold write
  by_cases same : other = transaction
  · subst same
    by_cases sameId : otherId = id
    · simp [sameId]
    · simp [sameId]
  · simp [same]

theorem visible_write {version : ρ}
    (sees : (store.write transaction id row).visible other otherId = some version) :
    (other = transaction ∧ otherId = id) ∧ row = version ∨
      store.visible other otherId = some version := by
  unfold visible at sees
  cases written : (store.write transaction id row).pending other otherId with
  | some own =>
      rw [written] at sees
      cases sees
      rcases pending_write.mp written with here | ⟨-, before⟩
      · exact .inl here
      · exact .inr (visible_pending before)
  | none =>
      rw [written] at sees
      have untouched : store.pending other otherId = none := by
        cases before : store.pending other otherId with
        | none => rfl
        | some old =>
            by_cases here : other = transaction ∧ otherId = id
            · rw [pending_write.mpr (.inl ⟨here, rfl⟩)] at written
              cases written
            · rw [pending_write.mpr (.inr ⟨here, before⟩)] at written
              cases written
      exact .inr ((visible_committed untouched).trans sees)

/-- What is pending after a transaction has ended is another one's. -/
theorem pending_abort {version : ρ} :
    (store.abort transaction).pending other id = some version ↔
      other ≠ transaction ∧ store.pending other id = some version := by
  unfold abort
  by_cases same : other = transaction
  · simp [same]
  · simp [same]

theorem pending_commit {version : ρ} :
    (store.commit transaction).pending other id = some version ↔
      other ≠ transaction ∧ store.pending other id = some version :=
  pending_abort

theorem visible_abort (differs : other ≠ transaction) :
    (store.abort transaction).visible other otherId = store.visible other otherId := by
  unfold visible abort
  simp [differs]

theorem visible_commit (differs : other ≠ transaction) :
    (store.commit transaction).visible other otherId =
      (store.pending other otherId).or (store.visible transaction otherId) := by
  unfold visible commit
  simp [differs, visible]

section Sound

variable [Keyed ρ κ]

omit [DecidableEq τ] in
/-- Where nothing is pending, only what is committed has to respect the index. -/
theorem sound_of_committed (idle : ∀ transaction id, store.pending transaction id = none)
    (fresh : ∀ id, store.nextId ≤ id → store.committed id = none)
    (indexed : ∀ id otherId row other key, store.committed id = some row →
      store.committed otherId = some other → Keyed.index row = some key →
      Keyed.index other = some key → id = otherId) : store.Sound where
  fresh id above := ⟨fresh id above, fun transaction => idle transaction id⟩
  exclusive transaction other id row version written := by
    rw [idle] at written
    cases written
  indexed := indexed
  clear transaction id row written := by
    rw [idle] at written
    cases written

/-- A version that neither a lock nor a key forbids. -/
theorem Sound.write (sound : store.Sound) (below : id < store.nextId)
    (free : ¬ store.Locked transaction id)
    (allowed : ¬ store.Conflicts transaction id row) :
    (store.write transaction id row).Sound where
  fresh otherId above := by
    have apart : otherId ≠ id := Nat.ne_of_gt (Nat.lt_of_lt_of_le below above)
    apply And.intro (sound.fresh otherId above).1
    intro other
    cases written : (store.write transaction id row).pending other otherId with
    | none => rfl
    | some version =>
        rcases pending_write.mp written with ⟨⟨-, same⟩, -⟩ | ⟨-, before⟩
        · exact (apart same).elim
        · rw [(sound.fresh otherId above).2 other] at before
          cases before
  exclusive first second otherId version other firstWritten secondWritten := by
    rcases pending_write.mp firstWritten with ⟨⟨rfl, rfl⟩, -⟩ | ⟨-, firstBefore⟩
    · rcases pending_write.mp secondWritten with ⟨⟨rfl, -⟩, -⟩ | ⟨-, secondBefore⟩
      · rfl
      · by_contra apart
        exact free ⟨second, other, fun same => apart same.symm, secondBefore⟩
    · rcases pending_write.mp secondWritten with ⟨⟨rfl, rfl⟩, -⟩ | ⟨-, secondBefore⟩
      · by_contra apart
        exact free ⟨first, version, apart, firstBefore⟩
      · exact sound.exclusive _ _ _ _ _ firstBefore secondBefore
  indexed := sound.indexed
  clear other otherId version written := by
    rintro ⟨key, thirdId, third, versionKey, apart, thirdKey, held⟩
    rcases pending_write.mp written with ⟨⟨rfl, rfl⟩, rfl⟩ | ⟨elsewhere, before⟩
    · -- the new version itself: whatever it meets was there before
      apply allowed
      refine ⟨key, thirdId, third, versionKey, apart, thirdKey, ?_⟩
      rcases held with sees | ⟨writer, differs, wrote⟩
      · rcases visible_write sees with ⟨⟨-, same⟩, -⟩ | sawBefore
        · exact (apart same).elim
        · exact .inl sawBefore
      · rcases pending_write.mp wrote with ⟨⟨same, -⟩, -⟩ | ⟨-, wroteBefore⟩
        · exact (differs same).elim
        · exact .inr ⟨writer, differs, wroteBefore⟩
    · rcases held with sees | ⟨writer, differs, wrote⟩
      · rcases visible_write sees with ⟨⟨rfl, rfl⟩, rfl⟩ | sawBefore
        · exact allowed ⟨key, otherId, version, thirdKey, apart.symm, versionKey,
            .inl (visible_pending before)⟩
        · exact sound.clear other otherId version before
            ⟨key, thirdId, third, versionKey, apart, thirdKey, .inl sawBefore⟩
      · rcases pending_write.mp wrote with ⟨⟨rfl, rfl⟩, rfl⟩ | ⟨-, wroteBefore⟩
        · exact allowed ⟨key, otherId, version, thirdKey, apart.symm, versionKey,
            .inr ⟨other, differs.symm, before⟩⟩
        · exact sound.clear other otherId version before
            ⟨key, thirdId, third, versionKey, apart, thirdKey,
              .inr ⟨writer, differs, wroteBefore⟩⟩

theorem Sound.abort (sound : store.Sound) (transaction : τ) :
    (store.abort transaction).Sound where
  fresh id above := by
    apply And.intro (sound.fresh id above).1
    intro other
    cases written : (store.abort transaction).pending other id with
    | none => rfl
    | some version =>
        have before := (pending_abort.mp written).2
        rw [(sound.fresh id above).2 other] at before
        cases before
  exclusive first second id row version firstWritten secondWritten :=
    sound.exclusive first second id row version (pending_abort.mp firstWritten).2
      (pending_abort.mp secondWritten).2
  indexed := sound.indexed
  clear other id row written := by
    obtain ⟨differs, before⟩ := pending_abort.mp written
    rintro ⟨key, otherId, third, rowKey, apart, thirdKey, held⟩
    apply sound.clear other id row before
    refine ⟨key, otherId, third, rowKey, apart, thirdKey, ?_⟩
    rcases held with sees | ⟨writer, writes, wrote⟩
    · rw [visible_abort differs] at sees
      exact .inl sees
    · exact .inr ⟨writer, writes, (pending_abort.mp wrote).2⟩

/-- The index holds of what is committed: of two rows with one key, the pending one would
have been refused. -/
theorem Sound.commit (sound : store.Sound) (transaction : τ) :
    (store.commit transaction).Sound where
  fresh id above := by
    apply And.intro
    · change store.visible transaction id = none
      rw [visible_committed ((sound.fresh id above).2 transaction)]
      exact (sound.fresh id above).1
    · exact ((sound.abort transaction).fresh id above).2
  exclusive := (sound.abort transaction).exclusive
  indexed id otherId row other key sees seesOther rowKey otherKey := by
    change store.visible transaction id = some row at sees
    change store.visible transaction otherId = some other at seesOther
    by_contra apart
    cases written : store.pending transaction id with
    | some version =>
        obtain rfl : version = row := by
          rw [visible_pending written] at sees
          exact Option.some.inj sees
        exact sound.clear transaction id version written
          ⟨key, otherId, other, rowKey, fun same => apart same.symm, otherKey, .inl seesOther⟩
    | none =>
        cases writtenOther : store.pending transaction otherId with
        | some version =>
            obtain rfl : version = other := by
              rw [visible_pending writtenOther] at seesOther
              exact Option.some.inj seesOther
            exact sound.clear transaction otherId version writtenOther
              ⟨key, id, row, otherKey, apart, rowKey, .inl sees⟩
        | none =>
            rw [visible_committed written] at sees
            rw [visible_committed writtenOther] at seesOther
            exact apart (sound.indexed id otherId row other key sees seesOther rowKey otherKey)
  clear other id row written := by
    obtain ⟨differs, before⟩ := pending_commit.mp written
    rintro ⟨key, otherId, third, rowKey, apart, thirdKey, held⟩
    apply sound.clear other id row before
    refine ⟨key, otherId, third, rowKey, apart, thirdKey, ?_⟩
    rcases held with sees | ⟨writer, writes, wrote⟩
    · -- what has become visible was pending in the transaction that has committed
      rw [visible_commit differs] at sees
      cases own : store.pending other otherId with
      | some version =>
          rw [own] at sees
          cases sees
          exact .inl (visible_pending own)
      | none =>
          rw [own, Option.none_or] at sees
          cases committing : store.pending transaction otherId with
          | some version =>
              rw [visible_pending committing] at sees
              cases sees
              exact .inr ⟨transaction, differs.symm, committing⟩
          | none =>
              rw [visible_committed committing] at sees
              exact .inl ((visible_committed own).trans sees)
    · exact .inr ⟨writer, writes, (pending_commit.mp wrote).2⟩

/-- A row is inserted under a key that is handed out once. -/
theorem Sound.insert (sound : store.Sound)
    (allowed : ¬ store.Conflicts transaction store.nextId row) :
    ({ store.write transaction store.nextId row with nextId := store.nextId + 1 } :
      Store ρ τ).Sound := by
  have next : ({ store with nextId := store.nextId + 1 } : Store ρ τ).Sound :=
    { fresh := fun id above => sound.fresh id (Nat.le_of_succ_le above)
      exclusive := sound.exclusive
      indexed := sound.indexed
      clear := sound.clear }
  apply Sound.write next (Nat.lt_succ_self _) _ allowed
  rintro ⟨other, version, -, wrote⟩
  have absent : store.pending other store.nextId = some version := wrote
  rw [(sound.fresh store.nextId (Nat.le_refl _)).2 other] at absent
  cases absent

/-- Whatever a statement answers, the store stays sound. -/
theorem Answers.sound {statement : RowStatement ρ} {reply : Except ε statement.Reply}
    (answered : store.Answers transaction statement reply after) (sound : store.Sound) :
    after.Sound := by
  cases reply with
  | error error =>
      obtain rfl : after = store.abort transaction := answered
      exact sound.abort transaction
  | ok reply =>
      cases statement with
      | start =>
          obtain rfl : after = store := answered
          exact sound
      | select condition =>
          obtain rfl : after = store := answered.1
          exact sound
      | update id condition change =>
          obtain ⟨free, updated⟩ := answered
          cases seen : (store.visible transaction id).filter condition with
          | none =>
              rw [seen] at updated
              obtain rfl : after = store := updated
              exact sound
          | some row =>
              rw [seen] at updated
              obtain ⟨allowed, rfl⟩ := updated
              apply sound.write _ free allowed
              by_contra above
              have absent := sound.fresh id (Nat.le_of_not_lt above)
              rw [visible_committed (absent.2 transaction), absent.1] at seen
              cases seen
      | insert make =>
          obtain ⟨-, allowed, rfl⟩ := answered
          exact sound.insert allowed
      | commit =>
          obtain rfl : after = store.commit transaction := answered
          exact sound.commit transaction
      | rollback =>
          obtain rfl : after = store.abort transaction := answered
          exact sound.abort transaction

end Sound

end Store

end Library
