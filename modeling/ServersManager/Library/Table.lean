/-
Module: ServersManager.Library.Table
Purpose: Tables of rows with a generated primary key and one partial unique index,
  the constraints being part of the type.
Trusted boundary: none
Main exports:
  Keyed, Table, Table.insert, Table.save, Table.removeRows, Table.mapRows,
  Table.Gone, mem_save, mem_insert
-/
import Mathlib.Data.List.Basic
import Mathlib.Data.List.Nodup

namespace Library

/-- How the rows of a table are keyed: a generated primary key, and a unique index
over the rows for which `index` gives a key. -/
class Keyed (ρ : Type) (κ : outParam Type) where
  id : ρ → Nat
  index : ρ → Option κ

/-- A table whose rows respect both constraints.  A primary key is never handed out
twice: every row's key lies below `nextId`. -/
structure Table (ρ : Type) {κ : Type} [Keyed ρ κ] where
  rows : List ρ
  nextId : Nat
  below : ∀ row ∈ rows, Keyed.id row < nextId
  distinct : (rows.map Keyed.id).Nodup
  indexed : ∀ row ∈ rows, ∀ other ∈ rows, ∀ key, Keyed.index row = some key →
    Keyed.index other = some key → Keyed.id row = Keyed.id other

namespace Table

variable {ρ κ : Type} [Keyed ρ κ]

/-- The table without rows. -/
def empty : Table ρ where
  rows := []
  nextId := 0
  below := by simp
  distinct := by simp
  indexed := by simp

instance : Inhabited (Table ρ) := ⟨empty⟩

/-- The table with one row. -/
def single (row : ρ) : Table ρ where
  rows := [row]
  nextId := Keyed.id row + 1
  below := by simp
  distinct := by simp
  indexed := by simp

instance : Membership ρ (Table ρ) := ⟨fun table row => row ∈ table.rows⟩

theorem mem_iff {table : Table ρ} {row : ρ} : row ∈ table ↔ row ∈ table.rows :=
  Iff.rfl

/-- The first row that satisfies a condition. -/
def findOne (table : Table ρ) (condition : ρ → Bool) : Option ρ :=
  table.rows.find? condition

/-- The row with a primary key. -/
def byId (table : Table ρ) (id : Nat) : Option ρ :=
  table.findOne fun row => Keyed.id row == id

/-- All rows that satisfy a condition. -/
def find (table : Table ρ) (condition : ρ → Bool) : List ρ :=
  table.rows.filter condition

/-- A row that is found is there and meets the condition. -/
theorem findOne_mem {table : Table ρ} {condition : ρ → Bool} {row : ρ}
    (found : table.findOne condition = some row) :
    row ∈ table ∧ condition row = true :=
  ⟨List.mem_of_find?_eq_some found, List.find?_some found⟩

/-- No row is found where none meets it. -/
theorem findOne_none {table : Table ρ} {condition : ρ → Bool} :
    table.findOne condition = none ↔
      ∀ row ∈ table, condition row = false := by
  simp [findOne, mem_iff]

/-- The only row that meets a condition is found. -/
theorem findOne_of_unique {table : Table ρ} {condition : ρ → Bool} {row : ρ}
    (member : row ∈ table) (meets : condition row = true)
    (only : ∀ other ∈ table, condition other = true → other = row) :
    table.findOne condition = some row := by
  cases found : table.findOne condition with
  | none =>
      rw [findOne_none.mp found row member] at meets
      cases meets
  | some other =>
      obtain ⟨otherMember, matched⟩ := findOne_mem found
      rw [only other otherMember matched]

/-- Two rows with one primary key are one row. -/
theorem eq_of_id {table : Table ρ} {row other : ρ} (member : row ∈ table)
    (otherMember : other ∈ table)
    (same : (Keyed.id row : Nat) = Keyed.id other) : row = other :=
  List.inj_on_of_nodup_map table.distinct member otherMember same

/-- Two rows with one index key are one row. -/
theorem eq_of_index {table : Table ρ} {row other : ρ} {key : κ}
    (member : row ∈ table) (otherMember : other ∈ table)
    (rowKey : Keyed.index row = some key)
    (otherKey : Keyed.index other = some key) : row = other :=
  eq_of_id member otherMember
    (table.indexed row member other otherMember key rowKey otherKey)

/-- A row is found by its id and nothing else, since ids are distinct. -/
theorem byId_eq_some {table : Table ρ} {id : Nat} {row : ρ} :
    table.byId id = some row ↔ row ∈ table ∧ Keyed.id row = id := by
  constructor
  · intro found
    obtain ⟨member, matched⟩ := findOne_mem found
    exact ⟨member, by simpa using matched⟩
  · rintro ⟨member, rfl⟩
    apply findOne_of_unique member
    · exact beq_self_eq_true _
    · intro other otherMember matched
      exact eq_of_id otherMember member (beq_iff_eq.mp matched)

theorem byId_self {table : Table ρ} {row : ρ} (member : row ∈ table) :
    table.byId (Keyed.id row) = some row :=
  byId_eq_some.mpr ⟨member, rfl⟩

/-- An id is free where no row has it. -/
theorem byId_eq_none {table : Table ρ} {id : Nat} :
    table.byId id = none ↔ ∀ row ∈ table, Keyed.id row ≠ id := by
  simp [byId, findOne_none]

/-- What a query finds. -/
theorem mem_find {table : Table ρ} {condition : ρ → Bool} {row : ρ} :
    row ∈ table.find condition ↔ row ∈ table ∧ condition row = true := by
  simp [find, mem_iff]

/-- It finds no id twice. -/
theorem find_distinct (table : Table ρ) (condition : ρ → Bool) :
    ((table.find condition).map Keyed.id).Nodup :=
  table.distinct.sublist (List.filter_sublist.map _)

/-! ### Writing rows -/

section Writing

variable [DecidableEq κ]

/-- Another row of the table already holds the index key of `row`. -/
def Clashes (table : Table ρ) (row : ρ) : Prop :=
  ∃ other ∈ table.rows, Keyed.id other ≠ Keyed.id row ∧
    ∃ key ∈ Keyed.index row, Keyed.index other = some key

instance (table : Table ρ) (row : ρ) : Decidable (table.Clashes row) :=
  inferInstanceAs (Decidable (∃ other ∈ table.rows, _))

/-- The rows after `row` has been written under its own primary key. -/
def written (table : Table ρ) (row : ρ) : List ρ :=
  if (table.byId (Keyed.id row)).isSome then
    table.rows.map fun old => if Keyed.id old = Keyed.id row then row else old
  else
    table.rows ++ [row]

omit [DecidableEq κ] in
/-- A written row replaces the one of its id. -/
theorem mem_written {table : Table ρ} {row other : ρ} :
    other ∈ table.written row ↔
      other = row ∨ other ∈ table ∧ Keyed.id other ≠ Keyed.id row := by
  unfold written
  split
  · next present =>
    obtain ⟨old, found⟩ := Option.isSome_iff_exists.mp present
    obtain ⟨oldMember, oldId⟩ := byId_eq_some.mp found
    simp only [List.mem_map, mem_iff]
    constructor
    · rintro ⟨source, member, rfl⟩
      split
      · exact .inl rfl
      · next differs => exact .inr ⟨member, differs⟩
    · rintro (rfl | ⟨member, differs⟩)
      · exact ⟨old, oldMember, by simp [oldId]⟩
      · exact ⟨other, member, by simp [differs]⟩
  · next missing =>
    have absent := byId_eq_none.mp (Option.not_isSome_iff_eq_none.mp missing)
    simp only [List.mem_append, List.mem_singleton, mem_iff]
    constructor
    · rintro (member | rfl)
      · exact .inr ⟨member, absent other member⟩
      · exact .inl rfl
    · rintro (rfl | ⟨member, -⟩)
      · exact .inr rfl
      · exact .inl member

omit [DecidableEq κ] in
/-- So the ids stay distinct. -/
theorem written_distinct (table : Table ρ) (row : ρ) :
    ((table.written row).map Keyed.id).Nodup := by
  unfold written
  split
  · rw [List.map_map]
    convert table.distinct using 2
    funext old
    simp only [Function.comp]
    split
    · next same => exact same.symm
    · rfl
  · next missing =>
    have absent := byId_eq_none.mp (Option.not_isSome_iff_eq_none.mp missing)
    rw [List.map_append, List.nodup_append]
    refine ⟨table.distinct, by simp, ?_⟩
    intro id member other otherMember same
    obtain ⟨old, oldMember, rfl⟩ := List.mem_map.mp member
    simp only [List.map_cons, List.map_nil, List.mem_singleton] at otherMember
    exact absent old oldMember (same.trans otherMember)

/-- Write one row: it replaces the row with its primary key, or is added where
there is none.  A clash in the unique index is refused. -/
def save (table : Table ρ) (row : ρ) : Option (Table ρ) :=
  if clash : table.Clashes row then none
  else some
    { rows := table.written row
      nextId := max table.nextId (Keyed.id row + 1)
      below := by
        intro other member
        rcases mem_written.mp member with rfl | ⟨old, -⟩
        · exact Nat.lt_of_lt_of_le (Nat.lt_succ_self _) (Nat.le_max_right _ _)
        · exact Nat.lt_of_lt_of_le (table.below other old) (Nat.le_max_left _ _)
      distinct := table.written_distinct row
      indexed := by
        intro first firstMember second secondMember key firstKey secondKey
        rcases mem_written.mp firstMember with rfl | ⟨firstOld, firstDiffers⟩ <;>
        rcases mem_written.mp secondMember with rfl | ⟨secondOld, secondDiffers⟩
        · rfl
        · exact absurd ⟨second, secondOld, secondDiffers, key, firstKey, secondKey⟩
            clash
        · exact absurd ⟨first, firstOld, firstDiffers, key, secondKey, firstKey⟩
            clash
        · exact table.indexed _ firstOld _ secondOld _ firstKey secondKey }

/-- Insert a row under the next primary key. -/
def insert (table : Table ρ) (make : Nat → ρ) : Option (ρ × Table ρ) :=
  (table.save (make table.nextId)).map fun after => (make table.nextId, after)

/-- A save fails only where the row clashes. -/
theorem save_eq_none {table : Table ρ} {row : ρ} :
    table.save row = none ↔ table.Clashes row := by
  unfold save
  split <;> simp_all

theorem save_rows {table after : Table ρ} {row : ρ}
    (saved : table.save row = some after) : after.rows = table.written row := by
  unfold save at saved
  split at saved
  · simp at saved
  · rw [← Option.some.inj saved]

theorem nextId_le_save {table after : Table ρ} {row : ρ}
    (saved : table.save row = some after) : table.nextId ≤ after.nextId := by
  unfold save at saved
  split at saved
  · simp at saved
  · rw [← Option.some.inj saved]
    exact Nat.le_max_left _ _

theorem save_nextId {table after : Table ρ} {row : ρ}
    (saved : table.save row = some after) :
    after.nextId = max table.nextId (Keyed.id row + 1) := by
  unfold save at saved
  split at saved
  · simp at saved
  · rw [← Option.some.inj saved]

/-- What is in the table after a save. -/
theorem mem_save {table after : Table ρ} {row other : ρ}
    (saved : table.save row = some after) :
    other ∈ after ↔
      other = row ∨ other ∈ table ∧ Keyed.id other ≠ Keyed.id row := by
  rw [mem_iff, save_rows saved, mem_written]

/-- What is found by an id after it. -/
theorem byId_save {table after : Table ρ} {row : ρ} {id : Nat}
    (saved : table.save row = some after) :
    after.byId id =
      if id = Keyed.id row then some row else table.byId id := by
  split
  · next same =>
    rw [same]
    exact byId_self ((mem_save saved).mpr (.inl rfl))
  · next differs =>
    cases found : table.byId id with
    | some old =>
        obtain ⟨member, rfl⟩ := byId_eq_some.mp found
        exact byId_self ((mem_save saved).mpr (.inr ⟨member, differs⟩))
    | none =>
        refine byId_eq_none.mpr fun other member same => ?_
        rcases (mem_save saved).mp member with rfl | ⟨old, -⟩
        · exact differs same.symm
        · exact byId_eq_none.mp found other old same

theorem not_clashes_of_save {table after : Table ρ} {row : ρ}
    (saved : table.save row = some after) : ¬ table.Clashes row := fun clash => by
  rw [save_eq_none.mpr clash] at saved
  cases saved

omit [DecidableEq κ] in
/-- A row may be written over one that holds its index key already. -/
theorem not_clashes_of_replaces {table : Table ρ} {old row : ρ} (member : old ∈ table)
    (sameId : (Keyed.id old : Nat) = Keyed.id row)
    (sameIndex : Keyed.index row = none ∨ Keyed.index row = Keyed.index old) :
    ¬ table.Clashes row := by
  rintro ⟨other, otherMember, differs, key, rowKey, otherKey⟩
  rcases sameIndex with gone | kept
  · rw [gone] at rowKey
    cases rowKey
  · refine differs (.trans ?_ sameId)
    rw [eq_of_index otherMember member otherKey (kept ▸ rowKey)]

theorem exists_save {table : Table ρ} {row : ρ} (clear : ¬ table.Clashes row) :
    ∃ after, table.save row = some after :=
  Option.ne_none_iff_exists'.mp fun refused => clear (save_eq_none.mp refused)

/-- An insert is a save under the next id. -/
theorem insert_eq_some {table after : Table ρ} {make : Nat → ρ} {row : ρ} :
    table.insert make = some (row, after) ↔
      row = make table.nextId ∧ table.save (make table.nextId) = some after := by
  unfold insert
  cases table.save (make table.nextId) with
  | none => simp
  | some saved => simp [eq_comm]

theorem insert_eq_none {table : Table ρ} {make : Nat → ρ} :
    table.insert make = none ↔ table.Clashes (make table.nextId) := by
  rw [insert, Option.map_eq_none_iff, save_eq_none]

/-- An insert leaves every row in place and adds the new one. -/
theorem mem_insert {table after : Table ρ} {make : Nat → ρ} {row other : ρ}
    (generated : Keyed.id (make table.nextId) = table.nextId)
    (inserted : table.insert make = some (row, after)) :
    other ∈ after ↔ other = row ∨ other ∈ table := by
  obtain ⟨rfl, saved⟩ := insert_eq_some.mp inserted
  rw [mem_save saved, generated]
  constructor
  · rintro (rfl | ⟨member, -⟩)
    · exact .inl rfl
    · exact .inr member
  · rintro (rfl | member)
    · exact .inl rfl
    · exact .inr ⟨member, Nat.ne_of_lt (table.below other member)⟩

/-- The inserted row comes last. -/
theorem insert_rows {table after : Table ρ} {make : Nat → ρ} {row : ρ}
    (generated : Keyed.id (make table.nextId) = table.nextId)
    (inserted : table.insert make = some (row, after)) :
    after.rows = table.rows ++ [row] := by
  obtain ⟨rfl, saved⟩ := insert_eq_some.mp inserted
  have absent : table.byId (Keyed.id (make table.nextId)) = none := by
    rw [generated]
    exact byId_eq_none.mpr fun other member => Nat.ne_of_lt (table.below other member)
  rw [save_rows saved, written, absent]
  rfl

/-- Saving a row over the one that holds an index key. -/
theorem mem_save_indexed {table after : Table ρ} {old row other : ρ} {key : κ}
    (member : old ∈ table) (sameId : (Keyed.id old : Nat) = Keyed.id row)
    (oldKey : Keyed.index old = some key) (saved : table.save row = some after) :
    other ∈ after ↔ other = row ∨ other ∈ table ∧ Keyed.index other ≠ some key := by
  rw [mem_save saved]
  apply or_congr_right
  apply and_congr_right
  intro otherMember
  apply not_congr
  constructor
  · intro same
    rw [eq_of_id otherMember member (same.trans sameId.symm), oldKey]
  · intro otherKey
    rw [eq_of_index otherMember member otherKey oldKey, sameId]

/-- Inserting a row with an index key that none holds. -/
theorem mem_insert_indexed {table after : Table ρ} {make : Nat → ρ} {row other : ρ}
    {key : κ} (generated : Keyed.id (make table.nextId) = table.nextId)
    (absent : ∀ old ∈ table, Keyed.index old ≠ some key)
    (inserted : table.insert make = some (row, after)) :
    other ∈ after ↔ other = row ∨ other ∈ table ∧ Keyed.index other ≠ some key := by
  rw [mem_insert generated inserted]
  apply or_congr_right
  constructor
  · exact fun member => ⟨member, absent other member⟩
  · exact And.left

end Writing

/-- Remove all rows that satisfy a condition; their primary keys stay used up. -/
def removeRows (table : Table ρ) (gone : ρ → Bool) : Table ρ where
  rows := table.rows.filter fun row => !gone row
  nextId := table.nextId
  below row member := table.below row (List.mem_filter.mp member).1
  distinct := table.distinct.sublist (List.filter_sublist.map _)
  indexed first firstMember second secondMember :=
    table.indexed first (List.mem_filter.mp firstMember).1 second
      (List.mem_filter.mp secondMember).1

/-- What stays after a removal. -/
theorem mem_removeRows {table : Table ρ} {gone : ρ → Bool} {row : ρ} :
    row ∈ table.removeRows gone ↔ row ∈ table ∧ gone row = false := by
  simp [mem_iff, removeRows]

/-- Update rows in bulk, where an update keeps the primary key and keeps or gives up
the index key. -/
def mapRows (table : Table ρ) (update : ρ → ρ)
    (keepsId : ∀ row, Keyed.id (update row) = Keyed.id row)
    (keepsIndex : ∀ row, Keyed.index (update row) = none ∨
      Keyed.index (update row) = Keyed.index row) : Table ρ where
  rows := table.rows.map update
  nextId := table.nextId
  below := by
    intro row member
    obtain ⟨old, oldMember, rfl⟩ := List.mem_map.mp member
    rw [keepsId]
    exact table.below old oldMember
  distinct := by
    rw [List.map_map, show (Keyed.id ∘ update : ρ → Nat) = Keyed.id from
      funext keepsId]
    exact table.distinct
  indexed := by
    intro first firstMember second secondMember key firstKey secondKey
    obtain ⟨firstOld, firstOldMember, rfl⟩ := List.mem_map.mp firstMember
    obtain ⟨secondOld, secondOldMember, rfl⟩ := List.mem_map.mp secondMember
    rw [keepsId, keepsId]
    rcases keepsIndex firstOld with gone | kept
    · rw [gone] at firstKey
      cases firstKey
    · rcases keepsIndex secondOld with gone' | kept'
      · rw [gone'] at secondKey
        cases secondKey
      · exact table.indexed _ firstOldMember _ secondOldMember key
          (kept ▸ firstKey) (kept' ▸ secondKey)

/-- What is there after an update of all rows. -/
theorem mem_mapRows {table : Table ρ} {update : ρ → ρ}
    {keepsId : ∀ row, Keyed.id (update row) = Keyed.id row}
    {keepsIndex : ∀ row, Keyed.index (update row) = none ∨
      Keyed.index (update row) = Keyed.index row} {row : ρ} :
    row ∈ table.mapRows update keepsId keepsIndex ↔
      ∃ old ∈ table, update old = row :=
  List.mem_map

/-! ### Rows that stay -/

/-- An id is found where some row has it. -/
theorem isSome_byId {table : Table ρ} {id : Nat} :
    (table.byId id).isSome ↔ ∃ row ∈ table, Keyed.id row = id := by
  rw [Option.isSome_iff_exists]
  exact exists_congr fun row => byId_eq_some

theorem isSome_byId_save [DecidableEq κ] {table after : Table ρ} {row : ρ} {id : Nat}
    (saved : table.save row = some after) (has : (table.byId id).isSome) :
    (after.byId id).isSome := by
  rw [byId_save saved]
  split
  · rfl
  · exact has

theorem isSome_byId_removeRows {table : Table ρ} {id : Nat} {removed : ρ → Bool}
    (has : (table.byId id).isSome) (stays : ∀ row, Keyed.id row = id → removed row = false) :
    ((table.removeRows removed).byId id).isSome := by
  obtain ⟨row, member, same⟩ := isSome_byId.mp has
  exact isSome_byId.mpr ⟨row, mem_removeRows.mpr ⟨member, stays row same⟩, same⟩

theorem isSome_byId_mapRows {table : Table ρ} {id : Nat} {update : ρ → ρ}
    (keepsId : ∀ row, Keyed.id (update row) = Keyed.id row)
    (keepsIndex : ∀ row, Keyed.index (update row) = none ∨
      Keyed.index (update row) = Keyed.index row) (has : (table.byId id).isSome) :
    ((table.mapRows update keepsId keepsIndex).byId id).isSome := by
  obtain ⟨row, member, same⟩ := isSome_byId.mp has
  exact isSome_byId.mpr ⟨update row, mem_mapRows.mpr ⟨row, member, rfl⟩,
    (keepsId row).trans same⟩

/-! ### Rows that are gone for good -/

/-- No row has this primary key, and none will be given it. -/
def Gone (table : Table ρ) (id : Nat) : Prop :=
  table.byId id = none ∧ id < table.nextId

/-- An id that is found has been given out. -/
theorem used_of_byId {table : Table ρ} {id : Nat} {row : ρ}
    (found : table.byId id = some row) : id < table.nextId := by
  obtain ⟨member, rfl⟩ := byId_eq_some.mp found
  exact table.below row member

/-- A removed id has been given out, and is found no more. -/
theorem gone_of_removeRows {table : Table ρ} {id : Nat} {removed : ρ → Bool}
    (used : id < table.nextId)
    (removes : ∀ row, Keyed.id row = id → removed row = true) :
    (table.removeRows removed).Gone id := by
  refine ⟨byId_eq_none.mpr fun row member same => ?_, used⟩
  rw [mem_removeRows, removes row same] at member
  exact absurd member.2 (by decide)

/-- What is gone is gone after a removal. -/
theorem Gone.removeRows {table : Table ρ} {id : Nat} (gone : table.Gone id)
    (removed : ρ → Bool) : (table.removeRows removed).Gone id := by
  refine ⟨byId_eq_none.mpr fun row member => ?_, gone.2⟩
  exact byId_eq_none.mp gone.1 row (mem_removeRows.mp member).1

/-- And after an update of all rows. -/
theorem Gone.mapRows {table : Table ρ} {id : Nat} (gone : table.Gone id) (update : ρ → ρ)
    (keepsId : ∀ row, Keyed.id (update row) = Keyed.id row)
    (keepsIndex : ∀ row, Keyed.index (update row) = none ∨
      Keyed.index (update row) = Keyed.index row) :
    (table.mapRows update keepsId keepsIndex).Gone id := by
  refine ⟨byId_eq_none.mpr fun row member => ?_, gone.2⟩
  obtain ⟨old, oldMember, rfl⟩ := mem_mapRows.mp member
  rw [keepsId]
  exact byId_eq_none.mp gone.1 old oldMember

/-- Saving another row does not bring a removed one back. -/
theorem Gone.save [DecidableEq κ] {table after : Table ρ} {id : Nat}
    (gone : table.Gone id) {row : ρ} (saved : table.save row = some after)
    (other : Keyed.id row ≠ id) : after.Gone id := by
  constructor
  · rw [byId_save saved, if_neg (Ne.symm other)]
    exact gone.1
  · exact Nat.lt_of_lt_of_le gone.2 (nextId_le_save saved)

/-- A new row gets a primary key that has never been used. -/
theorem Gone.insert [DecidableEq κ] {table after : Table ρ} {id : Nat}
    (gone : table.Gone id) {make : Nat → ρ} {row : ρ}
    (generated : Keyed.id (make table.nextId) = table.nextId)
    (inserted : table.insert make = some (row, after)) : after.Gone id := by
  obtain ⟨-, saved⟩ := insert_eq_some.mp inserted
  apply gone.save saved
  rw [generated]
  exact Nat.ne_of_gt gone.2

end Table

end Library
