/-
Module: ServersManager.Library.Patterns
Purpose: Anchored patterns as regular expressions: classes, options, repetitions, and
  what they match.
Trusted boundary: none
Main exports:
  Patterns.oneOf, Patterns.word, Patterns.optional, Patterns.repeated, Patterns.oneOrMore
-/
import Mathlib.Computability.RegularExpressions

namespace Library

namespace Patterns

open RegularExpression (char)

variable {α : Type} [DecidableEq α]

/-- `[c₁c₂…]`: one of these characters. -/
def oneOf (chars : List α) : RegularExpression α :=
  chars.foldr (fun c rest => char c + rest) 0

/-- These characters in this order. -/
def word (chars : List α) : RegularExpression α :=
  chars.foldr (fun c rest => char c * rest) 1

/-- `P?`. -/
def optional (pattern : RegularExpression α) : RegularExpression α :=
  1 + pattern

/-- `P{n}`. -/
def repeated (pattern : RegularExpression α) : Nat → RegularExpression α
  | 0 => 1
  | count + 1 => pattern * repeated pattern count

/-- `P+`. -/
def oneOrMore (pattern : RegularExpression α) : RegularExpression α :=
  pattern * .star pattern

variable {pattern : RegularExpression α} {text : List α}

theorem rmatch_oneOf {chars : List α} :
    (oneOf chars).rmatch text = true ↔ ∃ c ∈ chars, text = [c] := by
  induction chars with
  | nil => simp [oneOf, RegularExpression.zero_rmatch]
  | cons first rest inductionHypothesis =>
      change (char first + oneOf rest).rmatch text = true ↔ _
      rw [RegularExpression.add_rmatch_iff, RegularExpression.char_rmatch_iff,
        inductionHypothesis, List.exists_mem_cons_iff]

theorem rmatch_word {chars : List α} : (word chars).rmatch text = true ↔ text = chars := by
  induction chars generalizing text with
  | nil => exact RegularExpression.one_rmatch_iff text
  | cons first rest inductionHypothesis =>
      change (char first * word rest).rmatch text = true ↔ _
      rw [RegularExpression.mul_rmatch_iff]
      constructor
      · rintro ⟨front, back, rfl, matchesFront, matchesBack⟩
        rw [(RegularExpression.char_rmatch_iff first front).mp matchesFront,
          inductionHypothesis.mp matchesBack]
        rfl
      · rintro rfl
        exact ⟨[first], rest, rfl, (RegularExpression.char_rmatch_iff first _).mpr rfl,
          inductionHypothesis.mpr rfl⟩

/-- What begins with these characters. -/
theorem rmatch_word_mul {chars : List α} :
    (word chars * pattern).rmatch text = true ↔
      ∃ back, text = chars ++ back ∧ pattern.rmatch back = true := by
  rw [RegularExpression.mul_rmatch_iff]
  constructor
  · rintro ⟨front, back, rfl, matchesFront, matchesBack⟩
    rw [rmatch_word] at matchesFront
    exact ⟨back, by rw [matchesFront], matchesBack⟩
  · rintro ⟨back, rfl, matchesBack⟩
    exact ⟨chars, back, rfl, rmatch_word.mpr rfl, matchesBack⟩

/-- What begins with one of these characters. -/
theorem rmatch_oneOf_mul {chars : List α} :
    (oneOf chars * pattern).rmatch text = true ↔
      ∃ c ∈ chars, ∃ back, text = c :: back ∧ pattern.rmatch back = true := by
  rw [RegularExpression.mul_rmatch_iff]
  constructor
  · rintro ⟨front, back, rfl, matchesFront, matchesBack⟩
    obtain ⟨c, member, rfl⟩ := rmatch_oneOf.mp matchesFront
    exact ⟨c, member, back, rfl, matchesBack⟩
  · rintro ⟨c, member, back, rfl, matchesBack⟩
    exact ⟨[c], back, rfl, rmatch_oneOf.mpr ⟨c, member, rfl⟩, matchesBack⟩

theorem rmatch_optional :
    (optional pattern).rmatch text = true ↔ text = [] ∨ pattern.rmatch text = true := by
  rw [optional, RegularExpression.add_rmatch_iff, RegularExpression.one_rmatch_iff]

theorem rmatch_optional_mul {other : RegularExpression α} :
    (optional pattern * other).rmatch text = true ↔
      other.rmatch text = true ∨ (pattern * other).rmatch text = true := by
  rw [RegularExpression.mul_rmatch_iff, RegularExpression.mul_rmatch_iff]
  constructor
  · rintro ⟨front, back, rfl, matchesFront, matchesBack⟩
    rcases rmatch_optional.mp matchesFront with rfl | present
    · exact .inl matchesBack
    · exact .inr ⟨front, back, rfl, present, matchesBack⟩
  · rintro (absent | ⟨front, back, rfl, present, matchesBack⟩)
    · exact ⟨[], text, rfl, rmatch_optional.mpr (.inl rfl), absent⟩
    · exact ⟨front, back, rfl, rmatch_optional.mpr (.inr present), matchesBack⟩

theorem rmatch_repeated_zero : (repeated pattern 0).rmatch text = true ↔ text = [] :=
  RegularExpression.one_rmatch_iff text

theorem rmatch_repeated_succ {count : Nat} :
    (repeated pattern (count + 1)).rmatch text = true ↔
      ∃ front back, text = front ++ back ∧ pattern.rmatch front = true ∧
        (repeated pattern count).rmatch back = true :=
  RegularExpression.mul_rmatch_iff _ _ _

/-- A class one or more times: a text that is not empty and has no other character. -/
theorem rmatch_oneOrMore_oneOf {chars : List α} :
    (oneOrMore (oneOf chars)).rmatch text = true ↔ text ≠ [] ∧ ∀ c ∈ text, c ∈ chars := by
  rw [oneOrMore, RegularExpression.mul_rmatch_iff]
  constructor
  · rintro ⟨front, back, rfl, matchesFront, matchesBack⟩
    obtain ⟨first, member, rfl⟩ := rmatch_oneOf.mp matchesFront
    refine ⟨List.cons_ne_nil _ _, ?_⟩
    obtain ⟨parts, rfl, each⟩ := (RegularExpression.star_rmatch_iff _ _).mp matchesBack
    intro c inText
    rcases List.mem_cons.mp inText with rfl | inBack
    · exact member
    · obtain ⟨part, partMember, inPart⟩ := List.mem_flatten.mp inBack
      obtain ⟨other, otherMember, rfl⟩ := rmatch_oneOf.mp (each part partMember).2
      rw [List.mem_singleton.mp inPart]
      exact otherMember
  · rintro ⟨present, allowed⟩
    cases text with
    | nil => exact absurd rfl present
    | cons first rest =>
        refine ⟨[first], rest, rfl, rmatch_oneOf.mpr ⟨first, allowed first (.head _), rfl⟩, ?_⟩
        refine (RegularExpression.star_rmatch_iff _ _).mpr ⟨rest.map fun c => [c], ?_, ?_⟩
        · exact (List.flatMap_singleton' rest).symm
        · intro part member
          obtain ⟨c, inRest, rfl⟩ := List.mem_map.mp member
          exact ⟨List.cons_ne_nil _ _, rmatch_oneOf.mpr ⟨c, allowed c (.tail _ inRest), rfl⟩⟩

end Patterns

end Library
