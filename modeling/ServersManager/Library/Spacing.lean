/-
Module: ServersManager.Library.Spacing
Purpose: How many events fit into a window if they keep a distance.
Trusted boundary: none
Main exports:
  Spaced, Spaced.length_le
-/
import Mathlib.Data.List.Basic
import Mathlib.Data.Nat.Init

namespace Library

/-- Each time comes at least this long after those before it. -/
def Spaced (gap : ℕ) (times : List ℕ) : Prop :=
  times.Pairwise fun earlier later => earlier + gap ≤ later

theorem Spaced.sublist {gap : ℕ} {times fewer : List ℕ} (spaced : Spaced gap times)
    (part : fewer.Sublist times) : Spaced gap fewer :=
  List.Pairwise.sublist part spaced

theorem Spaced.length_mul_le {gap low high : ℕ} {times : List ℕ} (spaced : Spaced gap times)
    (within : ∀ time ∈ times, low ≤ time ∧ time ≤ high) :
    (times.length - 1) * gap ≤ high - low := by
  induction times generalizing low with
  | nil => simp
  | cons first times inductionHypothesis =>
      obtain ⟨after, rest⟩ := List.pairwise_cons.mp spaced
      obtain ⟨aboveFirst, belowFirst⟩ := within first (.head _)
      have shorter : (times.length - 1) * gap ≤ high - (first + gap) :=
        inductionHypothesis rest fun time member =>
          ⟨after time member, (within time (.tail _ member)).2⟩
      cases times with
      | nil => simp
      | cons second times =>
          have fits : first + gap ≤ high :=
            Nat.le_trans (after second (.head _)) (within second (.tail _ (.head _))).2
          simp only [List.length_cons, Nat.add_sub_cancel] at shorter ⊢
          rw [Nat.succ_mul]
          omega

/-- A window holds one event more than the distance fits into it. -/
theorem Spaced.length_le {gap low high : ℕ} {times : List ℕ} (spaced : Spaced gap times)
    (positive : 0 < gap) (within : ∀ time ∈ times, low ≤ time ∧ time ≤ high) :
    times.length ≤ (high - low) / gap + 1 := by
  have fits := (Nat.le_div_iff_mul_le positive).mpr (spaced.length_mul_le within)
  omega

end Library
