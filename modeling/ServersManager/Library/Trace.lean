/-
Module: ServersManager.Library.Trace
Purpose: Traces in which every entry is permitted by what comes before it.
Trusted boundary: none
Main exports:
  Grounded, Grounded.append, Grounded.front, Grounded.exists_permitted,
  Grounded.pairwise
-/
import Mathlib.Data.List.Induction

namespace Library

variable {α : Type} {permits : List α → α → Prop}

/-- Every entry of the trace is permitted by the entries before it. -/
def Grounded (permits : List α → α → Prop) (trace : List α) : Prop :=
  ∀ before entry after, trace = before ++ entry :: after → permits before entry

namespace Grounded

theorem empty : Grounded permits [] := by
  intro before entry after split
  simp at split

/-- A permitted entry comes last. -/
theorem append {trace : List α} (grounded : Grounded permits trace) {entry : α}
    (permitted : permits trace entry) : Grounded permits (trace ++ [entry]) := by
  intro before other after split
  rcases List.eq_nil_or_concat after with rfl | ⟨init, last, rfl⟩
  · obtain ⟨rfl, same⟩ := List.append_inj' split rfl
    cases same
    exact permitted
  · have regrouped : trace ++ [entry] = (before ++ other :: init) ++ [last] := by
      simpa using split
    exact grounded before other init (List.append_inj' regrouped rfl).1

theorem front {trace more : List α} (grounded : Grounded permits (trace ++ more)) :
    Grounded permits trace := by
  intro before entry after split
  apply grounded before entry (after ++ more)
  rw [split, List.append_assoc, List.cons_append]

/-- An entry, and what it has come after. -/
theorem exists_permitted {trace : List α} (grounded : Grounded permits trace) {entry : α}
    (member : entry ∈ trace) : ∃ before after, trace = before ++ entry :: after ∧
      permits before entry ∧ Grounded permits before := by
  obtain ⟨before, after, split⟩ := List.append_of_mem member
  refine ⟨before, after, split, grounded before entry after split, ?_⟩
  rw [split] at grounded
  exact grounded.front

/-- What every entry has to do with those before it. -/
theorem pairwise {trace : List α} {relation : α → α → Prop}
    (grounded : Grounded permits trace)
    (related : ∀ before entry, permits before entry →
      ∀ earlier ∈ before, relation earlier entry) : trace.Pairwise relation := by
  induction trace using List.reverseRecOn with
  | nil => exact .nil
  | append_singleton trace entry inductionHypothesis =>
      rw [List.pairwise_append]
      refine ⟨inductionHypothesis grounded.front, List.pairwise_singleton _ _, ?_⟩
      intro earlier member last isLast
      rw [List.mem_singleton.mp isLast]
      exact related trace entry (grounded trace entry [] rfl) earlier member

end Grounded

end Library
