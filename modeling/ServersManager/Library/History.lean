/-
Module: ServersManager.Library.History
Purpose: A history that an observer extends when what it sees has changed, and that a
  writer extends whenever it writes.
Trusted boundary: none
Main exports:
  Report, recorded, latest, recorded_append, Varied, varied_recorded
-/
import Mathlib.Data.List.Chain
import Mathlib.Tactic.Common

namespace Library

/-- A value has been seen, or has been put in place by an author. -/
inductive Report (α β : Type) where
  | observed (value : α)
  | written (value : α) (author : β)
  deriving DecidableEq

namespace Report

variable {α β : Type}

def value : Report α β → α
  | .observed value => value
  | .written value _ => value

end Report

section History

variable {α β : Type} [DecidableEq α]

/-- The entries that reports add.  An observed value is recorded, under no author, if it
is not the current one; a written value is always recorded. -/
def recorded (current : Option α) : List (Report α β) → List (α × Option β)
  | [] => []
  | .observed value :: reports =>
      if current = some value then recorded current reports
      else (value, none) :: recorded (some value) reports
  | .written value author :: reports =>
      (value, some author) :: recorded (some value) reports

/-- The value that was reported last. -/
def latest (current : Option α) (reports : List (Report α β)) : Option α :=
  (reports.getLast?.map Report.value).or current

omit [DecidableEq α] in
@[simp] theorem latest_nil (current : Option α) :
    latest current ([] : List (Report α β)) = current := rfl

omit [DecidableEq α] in
@[simp] theorem latest_cons (current : Option α) (report : Report α β)
    (reports : List (Report α β)) :
    latest current (report :: reports) = latest (some report.value) reports := by
  cases reports with
  | nil => rfl
  | cons next rest =>
      unfold latest
      rw [List.getLast?_cons_cons]
      cases last : (next :: rest).getLast? with
      | none => simp at last
      | some report => rfl

omit [DecidableEq α] in
/-- The latest of two stretches of reports. -/
theorem latest_append (current : Option α) (reports more : List (Report α β)) :
    latest current (reports ++ more) = latest (latest current reports) more := by
  induction reports generalizing current with
  | nil => rfl
  | cons report reports inductionHypothesis =>
      rw [List.cons_append, latest_cons, latest_cons]
      exact inductionHypothesis _

omit [DecidableEq α] in
/-- After a report, what came before it does not matter. -/
theorem latest_eq_of_ne_nil (current other : Option α) {reports : List (Report α β)}
    (reported : reports ≠ []) : latest current reports = latest other reports := by
  cases reports with
  | nil => exact absurd rfl reported
  | cons report reports => rw [latest_cons, latest_cons]

omit [DecidableEq α] in
theorem exists_latest (current : Option α) {reports : List (Report α β)}
    (reported : reports ≠ []) : ∃ value, latest current reports = some value := by
  cases last : reports.getLast? with
  | none => exact absurd (List.getLast?_eq_none_iff.mp last) reported
  | some report => exact ⟨report.value, by simp [latest, last]⟩

/-- A value that is observed again is not recorded. -/
theorem recorded_observed_same (value : α) (reports : List (Report α β)) :
    recorded (some value) (.observed value :: reports) = recorded (some value) reports :=
  if_pos rfl

/-- A new value is. -/
theorem recorded_observed_new {current : Option α} {value : α}
    (differs : current ≠ some value) (reports : List (Report α β)) :
    recorded current (.observed value :: reports) =
      (value, none) :: recorded (some value) reports :=
  if_neg differs

/-- What later reports add depends on the value that was reported last alone. -/
theorem recorded_append (current : Option α) (reports more : List (Report α β)) :
    recorded current (reports ++ more) =
      recorded current reports ++ recorded (latest current reports) more := by
  induction reports generalizing current with
  | nil => rfl
  | cons report reports inductionHypothesis =>
      rw [latest_cons]
      cases report with
      | observed value =>
          by_cases same : current = some value
          · rw [same, List.cons_append, recorded_observed_same, recorded_observed_same]
            exact inductionHypothesis _
          · rw [List.cons_append, recorded_observed_new same, recorded_observed_new same,
              inductionHypothesis]
            rfl
      | written value author =>
          exact congrArg _ (inductionHypothesis _)

/-- Observations add nothing exactly if they all are of the current value. -/
theorem recorded_observed_eq_nil {current : Option α} {values : List α} :
    recorded (β := β) current (values.map .observed) = [] ↔
      ∀ value ∈ values, current = some value := by
  induction values with
  | nil => simp [recorded]
  | cons value values inductionHypothesis =>
      rw [List.map_cons, List.forall_mem_cons]
      by_cases same : current = some value
      · subst same
        rw [recorded_observed_same, inductionHypothesis]
        exact ⟨fun rest => ⟨rfl, rest⟩, fun both => both.2⟩
      · rw [recorded_observed_new same]
        simp [same]

/-- One value, however often it is observed, is recorded once unless it is current. -/
theorem recorded_observed_all {current : Option α} {value : α} {values : List α}
    (same : ∀ other ∈ values, other = value) :
    recorded (β := β) current ((value :: values).map .observed) =
      if current = some value then [] else [(value, none)] := by
  have rest : recorded (β := β) (some value) (values.map .observed) = [] :=
    recorded_observed_eq_nil.mpr fun other member => by rw [same other member]
  rw [List.map_cons]
  by_cases known : current = some value
  · rw [known, recorded_observed_same, rest, if_pos rfl]
  · rw [recorded_observed_new known, rest, if_neg known]

omit [DecidableEq α] in
/-- And it is the latest. -/
theorem latest_observed_all {current : Option α} {value : α} {values : List α}
    (same : ∀ other ∈ values, other = value) :
    latest (β := β) current ((value :: values).map .observed) = some value := by
  induction values generalizing current with
  | nil => rfl
  | cons other values inductionHypothesis =>
      rw [same other (.head _), List.map_cons, latest_cons]
      exact inductionHypothesis fun later member => same later (.tail _ member)

/-- No entry without an author repeats the value of the entry before it. -/
def Varied (entries : List (α × Option β)) : Prop :=
  entries.IsChain fun earlier later => later.2 = none → later.1 ≠ earlier.1

/-- By induction on the reports: no observed entry repeats the one before it. -/
theorem varied_recorded_cons (entry : α × Option β) (reports : List (Report α β)) :
    Varied (entry :: recorded (some entry.1) reports) := by
  induction reports generalizing entry with
  | nil => exact .singleton _
  | cons report reports inductionHypothesis =>
      cases report with
      | observed value =>
          by_cases same : some entry.1 = some value
          · cases same
            rw [recorded_observed_same]
            exact inductionHypothesis entry
          · rw [recorded_observed_new same]
            apply List.IsChain.cons_cons
            · intro _ repeated
              exact same (congrArg some repeated.symm)
            · exact inductionHypothesis (value, none)
      | written value author =>
          apply List.IsChain.cons_cons
          · intro unwritten
            cases unwritten
          · exact inductionHypothesis (value, some author)

theorem varied_recorded (reports : List (Report α β)) :
    Varied (recorded none reports) := by
  cases reports with
  | nil => exact .nil
  | cons report reports =>
      cases report with
      | observed value => exact varied_recorded_cons (value, none) reports
      | written value author => exact varied_recorded_cons (value, some author) reports

/-- The current value is that of the last entry. -/
def EndsIn (entries : List (α × Option β)) (current : Option α) : Prop :=
  entries.getLast?.map Prod.fst = current

/-- A varied history stays varied. -/
theorem Varied.append_recorded {entries : List (α × Option β)} {current : Option α}
    (varied : Varied entries) (endsIn : EndsIn entries current)
    (reports : List (Report α β)) : Varied (entries ++ recorded current reports) := by
  rcases List.eq_nil_or_concat entries with rfl | ⟨earlier, last, rfl⟩
  · cases endsIn
    exact varied_recorded reports
  · obtain rfl : some last.1 = current := by simpa [EndsIn] using endsIn
    have chained := varied_recorded_cons last reports
    unfold Varied at varied chained ⊢
    rw [List.concat_eq_append] at varied ⊢
    rw [List.append_assoc, List.singleton_append, List.isChain_split]
    exact ⟨varied, chained⟩

end History

end Library
