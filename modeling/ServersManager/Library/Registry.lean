/-
Module: ServersManager.Library.Registry
Purpose: Records of what the rows of a table have been given once and for all, kept also
  after the rows are gone.
Trusted boundary: none
Main exports:
  Extends, Records, Records.insert, Records.save, Records.removeRows, Records.mapRows
-/
import Mathlib.Logic.Function.Basic
import ServersManager.Library.Table

namespace Library

/-- Whatever is on one record is on the other. -/
def Extends {τ : Type} (registry later : Nat → Option τ) : Prop :=
  ∀ id value, registry id = some value → later id = some value

theorem Extends.refl {τ : Type} (registry : Nat → Option τ) : Extends registry registry :=
  fun _ _ recorded => recorded

theorem Extends.trans {τ : Type} {first second third : Nat → Option τ}
    (before : Extends first second) (after : Extends second third) :
    Extends first third :=
  fun id value recorded => after id value (before id value recorded)

/-- A new entry for a key without one. -/
theorem extends_update {τ : Type} {registry : Nat → Option τ} {id : Nat}
    (fresh : registry id = none) (value : τ) :
    Extends registry (Function.update registry id (some value)) := by
  intro other held recorded
  by_cases same : other = id
  · subst same
    rw [fresh] at recorded
    cases recorded
  · rw [Function.update_of_ne same]
    exact recorded

/-- Every row's tag is on record, and no key that is still to be given out has one. -/
structure Records {ρ κ τ : Type} [Keyed ρ κ] (tag : ρ → τ) (table : Table ρ)
    (registry : Nat → Option τ) : Prop where
  present : ∀ row ∈ table, registry (Keyed.id row) = some (tag row)
  fresh : ∀ id, table.nextId ≤ id → registry id = none

namespace Records

variable {ρ κ τ : Type} [Keyed ρ κ] {tag : ρ → τ} {table after : Table ρ}
  {registry : Nat → Option τ}

/-- The table without rows, and the record without entries. -/
theorem empty (tag : ρ → τ) : Records tag (Table.empty : Table ρ) fun _ => none := by
  constructor
  · intro row member
    cases member
  · exact fun _ _ => rfl

/-- What the rows of a table say now. -/
theorem ofTable (tag : ρ → τ) (table : Table ρ) :
    Records tag table fun id => (table.byId id).map tag := by
  constructor
  · intro row member
    rw [Table.byId_self member]
    rfl
  · intro id later
    have unused : table.byId id = none :=
      Table.byId_eq_none.mpr fun row member same => by
        have below := table.below row member
        omega
    rw [unused]
    rfl

theorem removeRows (records : Records tag table registry) (gone : ρ → Bool) :
    Records tag (table.removeRows gone) registry :=
  ⟨fun row member => records.present row (Table.mem_removeRows.mp member).1,
    records.fresh⟩

/-- Rows are updated in bulk and keep their tags. -/
theorem mapRows (records : Records tag table registry) {update : ρ → ρ}
    (keepsId : ∀ row, Keyed.id (update row) = Keyed.id row)
    (keepsIndex : ∀ row, Keyed.index (update row) = none ∨
      Keyed.index (update row) = Keyed.index row)
    (keepsTag : ∀ row, tag (update row) = tag row) :
    Records tag (table.mapRows update keepsId keepsIndex) registry := by
  refine ⟨?_, records.fresh⟩
  intro row member
  obtain ⟨old, oldMember, rfl⟩ := Table.mem_mapRows.mp member
  rw [keepsId, keepsTag]
  exact records.present old oldMember

variable [DecidableEq κ]

/-- A row is saved with the tag that is on record for it. -/
theorem save (records : Records tag table registry) {row : ρ}
    (recorded : registry (Keyed.id row) = some (tag row))
    (saved : table.save row = some after) : Records tag after registry := by
  constructor
  · intro other member
    rcases (Table.mem_save saved).mp member with rfl | ⟨old, -⟩
    · exact recorded
    · exact records.present other old
  · intro id later
    exact records.fresh id (Nat.le_trans (Table.nextId_le_save saved) later)

/-- The key of a new row is not on record. -/
theorem insert_fresh (records : Records tag table registry) {make : Nat → ρ} {row : ρ}
    (generated : Keyed.id (make table.nextId) = table.nextId)
    (inserted : table.insert make = some (row, after)) :
    registry (Keyed.id row) = none := by
  obtain ⟨rfl, -⟩ := Table.insert_eq_some.mp inserted
  rw [generated]
  exact records.fresh _ (Nat.le_refl _)

/-- A new row's tag goes on record. -/
theorem insert (records : Records tag table registry) {make : Nat → ρ} {row : ρ}
    (generated : Keyed.id (make table.nextId) = table.nextId)
    (inserted : table.insert make = some (row, after)) :
    Records tag after (Function.update registry (Keyed.id row) (some (tag row))) := by
  have unrecorded := records.insert_fresh generated inserted
  have extended := extends_update unrecorded (tag row)
  constructor
  · intro other member
    rcases (Table.mem_insert generated inserted).mp member with rfl | old
    · exact Function.update_self _ _ _
    · exact extended _ _ (records.present other old)
  · intro id later
    have saved := (Table.insert_eq_some.mp inserted).2
    have below := after.below row ((Table.mem_insert generated inserted).mpr (.inl rfl))
    rw [Function.update_of_ne (by omega)]
    exact records.fresh id (Nat.le_trans (Table.nextId_le_save saved) later)

end Records

end Library
