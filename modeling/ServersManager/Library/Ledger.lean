/-
Module: ServersManager.Library.Ledger
Purpose: Lists of what each thread of a pool holds, in the order in which it was
  acquired.
Trusted boundary: none
Main exports:
  Ledger, Ledger.acquire, Ledger.keep, Ledger.perm
-/
import Mathlib.Data.List.Nodup
import Mathlib.Data.List.Perm.Basic

namespace Library

variable {ι β γ : Type}

/-- The entries are what the threads hold, one entry for each thread that holds
something. -/
structure Ledger (held : ι → Option β) (entries : List (ι × β)) : Prop where
  distinct : (entries.map Prod.fst).Nodup
  complete : ∀ thread value, (thread, value) ∈ entries ↔ held thread = some value

namespace Ledger

variable {held after : ι → Option β} {entries : List (ι × β)}

theorem empty (nothing : ∀ thread, held thread = none) : Ledger held [] where
  distinct := List.nodup_nil
  complete thread value := by simp [nothing thread]

theorem keep (ledger : Ledger held entries) (same : ∀ thread, after thread = held thread) :
    Ledger after entries where
  distinct := ledger.distinct
  complete thread value := by rw [same thread, ledger.complete]

/-- A thread that held nothing acquires something. -/
theorem acquire (ledger : Ledger held entries) {thread : ι} {value : β}
    (free : held thread = none) (acquires : after thread = some value)
    (others : ∀ other ≠ thread, after other = held other) :
    Ledger after (entries ++ [(thread, value)]) where
  distinct := by
    rw [List.map_append, List.map_singleton, List.nodup_append_comm]
    refine List.nodup_cons.mpr ⟨?_, ledger.distinct⟩
    intro present
    obtain ⟨⟨holder, held'⟩, member, rfl⟩ := List.mem_map.mp present
    rw [ledger.complete, free] at member
    cases member
  complete other held' := by
    rw [List.mem_append, List.mem_singleton, ledger.complete, Prod.mk.injEq]
    by_cases same : other = thread
    · subst same
      rw [free, acquires]
      simp [eq_comm]
    · rw [others other same]
      simp [same]

/-- Two ledgers over one pool agree up to the order of their entries. -/
theorem perm {heldOther : ι → Option γ} {others : List (ι × γ)} {value : γ → β}
    (ledger : Ledger held entries) (other : Ledger heldOther others)
    (same : ∀ thread, held thread = (heldOther thread).map value) :
    (entries.map Prod.snd).Perm (others.map fun entry => value entry.2) := by
  have distinctOthers : (others.map fun entry => (entry.1, value entry.2)).Nodup := by
    apply List.Nodup.of_map Prod.fst
    rw [List.map_map]
    exact other.distinct
  have perm : entries.Perm (others.map fun entry => (entry.1, value entry.2)) := by
    refine (List.perm_ext_iff_of_nodup (.of_map _ ledger.distinct) distinctOthers).mpr ?_
    rintro ⟨thread, held'⟩
    rw [ledger.complete, same, Option.map_eq_some_iff, List.mem_map]
    constructor
    · rintro ⟨whole, holds, rfl⟩
      exact ⟨(thread, whole), (other.complete _ _).mpr holds, rfl⟩
    · rintro ⟨⟨holder, whole⟩, member, eq⟩
      cases eq
      exact ⟨whole, (other.complete _ _).mp member, rfl⟩
  have mapped := perm.map Prod.snd
  rwa [List.map_map] at mapped

end Ledger

end Library
