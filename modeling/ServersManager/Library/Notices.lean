/-
Module: ServersManager.Library.Notices
Purpose: Programs that give notice of what they are about to do, each notice standing
  for the program it announces, and runs that record the notices.
Trusted boundary: none
Main exports:
  Signature.withNotices, Program.attempt, Program.lift, Program.notify, Program.attend,
  Machine.noting, Program.run_attend, Program.run_lift, Semantics.noting,
  Program.steps_attend, Program.ensures_lift, Program.ensures_lift_bind,
  Program.Ensures.lift, Program.returning_notify
-/
import ServersManager.Library.Program

namespace Library

/-- A signature with notices added: calls that answer nothing. -/
def Signature.withNotices (S : Signature) (N : Type) : Signature where
  Call := S.Call ⊕ N
  Reply
    | .inl op => S.Reply op
    | .inr _ => Unit

namespace Program

variable {S : Signature} {ε α β N σ : Type}

/-- Go on with whatever a program ends with. -/
def attempt : Program S ε α → (Except ε α → Program S ε β) → Program S ε β
  | .pure value, next => next (.ok value)
  | .throw error, next => next (.error error)
  | .call op rest, next => .call op fun reply => (rest reply).attempt next

/-- A program that gives no notice. -/
def lift : Program S ε α → Program (S.withNotices N) ε α
  | .pure value => .pure value
  | .throw error => .throw error
  | .call op next => .call (S := S.withNotices N) (.inl op) fun reply => (next reply).lift

/-- Give notice. -/
def notify (notice : N) : Program (S.withNotices N) ε Unit :=
  perform (S := S.withNotices N) (.inr notice)

/-- Do what the notices announce. -/
def attend (code : N → Program S ε Unit) :
    Program (S.withNotices N) ε α → Program S ε α
  | .pure value => .pure value
  | .throw error => .throw error
  | .call (.inl op) next => .call op fun reply => (next reply).attend code
  | .call (.inr notice) next =>
      (code notice).attempt fun reply => (next reply).attend code

/-! ### Attending to notices and the structure of programs -/

theorem attempt_ofExcept (program : Program S ε α) :
    program.attempt ofExcept = program := by
  induction program with
  | pure value => rfl
  | throw error => rfl
  | call op next inductionHypothesis =>
      simp only [attempt, inductionHypothesis]

/-- What follows an attempt follows its outcome. -/
theorem attempt_bind {γ : Type} (program : Program S ε α)
    (next : Except ε α → Program S ε β) (rest : β → Program S ε γ) :
    (program.attempt next).bind rest =
      program.attempt fun outcome => (next outcome).bind rest := by
  induction program with
  | pure value => rfl
  | throw error => rfl
  | call op continuation inductionHypothesis =>
      simp only [attempt, bind, inductionHypothesis]

/-- A handler around an attempt handles what the outcome leads to. -/
theorem attempt_tryCatch (program : Program S ε α)
    (next : Except ε α → Program S ε β) (handler : ε → Program S ε β) :
    (program.attempt next).tryCatch handler =
      program.attempt fun outcome => (next outcome).tryCatch handler := by
  induction program with
  | pure value => rfl
  | throw error => rfl
  | call op continuation inductionHypothesis =>
      simp only [attempt, tryCatch, inductionHypothesis]

variable (code : N → Program S ε Unit)

@[simp] theorem attend_pure (value : α) :
    (Program.pure value : Program (S.withNotices N) ε α).attend code =
      .pure value := rfl

@[simp] theorem attend_throw (error : ε) :
    (Program.throw error : Program (S.withNotices N) ε α).attend code =
      .throw error := rfl

@[simp] theorem attend_ofExcept (outcome : Except ε α) :
    (ofExcept outcome : Program (S.withNotices N) ε α).attend code =
      ofExcept outcome := by
  cases outcome <;> rfl

@[simp] theorem attend_notify (notice : N) :
    (notify notice : Program (S.withNotices N) ε Unit).attend code = code notice := by
  change (code notice).attempt (fun reply => (ofExcept reply).attend code) = code notice
  simp only [attend_ofExcept]
  exact attempt_ofExcept (code notice)

@[simp] theorem attend_lift (program : Program S ε α) :
    (program.lift : Program (S.withNotices N) ε α).attend code = program := by
  induction program with
  | pure value => rfl
  | throw error => rfl
  | call op next inductionHypothesis =>
      change Program.call op (fun reply => ((next reply).lift).attend code) = _
      simp only [inductionHypothesis]

@[simp] theorem attend_bind (program : Program (S.withNotices N) ε α)
    (rest : α → Program (S.withNotices N) ε β) :
    (program.bind rest).attend code =
      (program.attend code).bind fun value => (rest value).attend code := by
  induction program with
  | pure value => rfl
  | throw error => rfl
  | call op next inductionHypothesis =>
      cases op with
      | inl op => exact congrArg (Program.call op) (funext inductionHypothesis)
      | inr notice =>
          exact (congrArg (code notice).attempt (funext inductionHypothesis)).trans
            (attempt_bind _ _ _).symm

@[simp] theorem attend_tryCatch (program : Program (S.withNotices N) ε α)
    (handler : ε → Program (S.withNotices N) ε α) :
    (program.tryCatch handler).attend code =
      (program.attend code).tryCatch fun error => (handler error).attend code := by
  induction program with
  | pure value => rfl
  | throw error => rfl
  | call op next inductionHypothesis =>
      cases op with
      | inl op => exact congrArg (Program.call op) (funext inductionHypothesis)
      | inr notice =>
          exact (congrArg (code notice).attempt (funext inductionHypothesis)).trans
            (attempt_tryCatch _ _ _).symm

end Program

/-! ### Recording notices -/

variable {S : Signature} {ε α β N σ : Type}

/-- A machine that does what each notice announces and records the notice. -/
def Machine.noting (machine : Machine S ε σ) (code : N → Program S ε Unit) :
    Machine (S.withNotices N) ε (σ × List N)
  | .inl op, (state, notices) =>
      ((machine op state).1, ((machine op state).2, notices))
  | .inr notice, (state, notices) =>
      (((code notice).run machine state).1,
        (((code notice).run machine state).2, notices ++ [notice]))

namespace Program

variable (machine : Machine S ε σ) (code : N → Program S ε Unit)

/-- An attempt runs its program, and then what the outcome leads to. -/
theorem run_attempt (program : Program S ε α) (next : Except ε α → Program S ε β)
    (state : σ) :
    (program.attempt next).run machine state =
      (next (program.run machine state).1).run machine
        (program.run machine state).2 := by
  induction program generalizing state with
  | pure value => rfl
  | throw error => rfl
  | call op rest inductionHypothesis =>
      simp only [attempt, run]
      exact inductionHypothesis _ _

/-- Recording the notices does not change the run. -/
theorem run_attend (program : Program (S.withNotices N) ε α) (state : σ)
    (notices : List N) :
    (program.attend code).run machine state =
      ((program.run (machine.noting code) (state, notices)).1,
        (program.run (machine.noting code) (state, notices)).2.1) := by
  induction program generalizing state notices with
  | pure value => rfl
  | throw error => rfl
  | call op next inductionHypothesis =>
      cases op with
      | inl op => exact inductionHypothesis _ _ _
      | inr notice =>
          exact (run_attempt machine (code notice) _ state).trans
            (inductionHypothesis _ _ _)

/-- A program that gives no notice records none. -/
@[simp] theorem run_lift (program : Program S ε α) (state : σ) (notices : List N) :
    (program.lift : Program (S.withNotices N) ε α).run (machine.noting code)
        (state, notices) =
      ((program.run machine state).1, ((program.run machine state).2, notices)) := by
  induction program generalizing state with
  | pure value => rfl
  | throw error => rfl
  | call op next inductionHypothesis => exact inductionHypothesis _ _

@[simp] theorem run_notify (notice : N) (state : σ) (notices : List N) :
    (notify notice : Program (S.withNotices N) ε Unit).run (machine.noting code)
        (state, notices) =
      (((code notice).run machine state).1,
        (((code notice).run machine state).2, notices ++ [notice])) :=
  run_perform (S := S.withNotices N) (machine.noting code) (.inr notice) (state, notices)

/-- A lifted program notices nothing. -/
theorem run_lift_eq_ok {program : Program S ε α} {state after : σ}
    {notices noticesAfter : List N} {value : α} :
    (program.lift : Program (S.withNotices N) ε α).run (machine.noting code)
          (state, notices) = (.ok value, (after, noticesAfter)) ↔
      program.run machine state = (.ok value, after) ∧ noticesAfter = notices := by
  rw [run_lift]
  generalize program.run machine state = ended
  obtain ⟨outcome, last⟩ := ended
  simp only [Prod.mk.injEq]
  constructor
  · rintro ⟨rfl, rfl, rfl⟩
    exact ⟨⟨rfl, rfl⟩, rfl⟩
  · rintro ⟨⟨rfl, rfl⟩, rfl⟩
    exact ⟨rfl, rfl, rfl⟩

/-- A notice is kept, and its program runs. -/
theorem run_notify_eq_ok {notice : N} {state after : σ} {notices noticesAfter : List N} :
    (notify notice : Program (S.withNotices N) ε Unit).run (machine.noting code)
          (state, notices) = (.ok (), (after, noticesAfter)) ↔
      (code notice).run machine state = (.ok (), after) ∧
        noticesAfter = notices ++ [notice] := by
  rw [run_notify]
  generalize (code notice).run machine state = ended
  obtain ⟨outcome, last⟩ := ended
  simp only [Prod.mk.injEq]
  constructor
  · rintro ⟨rfl, rfl, rfl⟩
    exact ⟨⟨rfl, rfl⟩, rfl⟩
  · rintro ⟨⟨rfl, rfl⟩, rfl⟩
    exact ⟨rfl, rfl, rfl⟩

end Program

/-! ### Steps that record notices -/

/-- Surroundings in which a notice is answered by a whole run of what it announces, and is
recorded. -/
def Semantics.noting (sem : Semantics S ε σ) (code : N → Program S ε Unit) :
    Semantics (S.withNotices N) ε (σ × List N)
  | .inl op, (state, notices), reply, (after, noticesAfter) =>
      sem op state reply after ∧ noticesAfter = notices
  | .inr notice, (state, notices), reply, (after, noticesAfter) =>
      Program.Steps sem (code notice, state) (Program.ofExcept reply, after) ∧
        noticesAfter = notices ++ [notice]

/-- A machine that keeps notices answers as before. -/
theorem Machine.noting_answers {sem : Semantics S ε σ} {machine : Machine S ε σ}
    (code : N → Program S ε Unit)
    (answers : ∀ op state, sem op state (machine op state).1 (machine op state).2)
    (op : (S.withNotices N).Call) (state : σ × List N) :
    sem.noting code op state (machine.noting code op state).1
      (machine.noting code op state).2 := by
  cases op with
  | inl op => exact ⟨answers op state.1, rfl⟩
  | inr notice => exact ⟨Program.run_steps machine answers (code notice) state.1, rfl⟩

namespace Program

variable {sem : Semantics S ε σ} {code : N → Program S ε Unit}

/-- A program that has ended takes no step. -/
theorem steps_ofExcept (ended : Except ε α) {state after : σ} {outcome : Except ε α}
    (steps : Steps sem (ofExcept ended, state) (ofExcept outcome, after)) :
    ended = outcome ∧ state = after := by
  rcases Relation.ReflTransGen.cases_head steps with same | ⟨_, step, -⟩
  · cases ended <;> cases outcome <;> cases same <;> exact ⟨rfl, rfl⟩
  · cases ended <;> cases step

/-- A run that ends begins with the answer to its first call. -/
theorem steps_call {op : S.Call} {next : Except ε (S.Reply op) → Program S ε α}
    {state after : σ} {outcome : Except ε α}
    (steps : Steps sem (.call op next, state) (ofExcept outcome, after)) :
    ∃ reply middle, sem op state reply middle ∧
      Steps sem (next reply, middle) (ofExcept outcome, after) := by
  rcases Relation.ReflTransGen.cases_head steps with same | ⟨middle, step, rest⟩
  · cases outcome <;> cases congrArg Prod.fst same
  · cases step with
    | call answered => exact ⟨_, _, answered, rest⟩

/-- A run that ends has first run the program that is attempted. -/
theorem steps_attempt {program : Program S ε α} {next : Except ε α → Program S ε β}
    {state after : σ} {outcome : Except ε β}
    (steps : Steps sem (program.attempt next, state) (ofExcept outcome, after)) :
    ∃ reply middle, Steps sem (program, state) (ofExcept reply, middle) ∧
      Steps sem (next reply, middle) (ofExcept outcome, after) := by
  induction program generalizing state with
  | pure value => exact ⟨.ok value, state, .refl, steps⟩
  | throw error => exact ⟨.error error, state, .refl, steps⟩
  | call op rest inductionHypothesis =>
      obtain ⟨reply, middle, answered, later⟩ := steps_call steps
      obtain ⟨value, last, first, second⟩ := inductionHypothesis reply later
      exact ⟨value, last, .head (.call answered) first, second⟩

/-- Every run of what a program does when its notices are attended to is a run of the
program that records them. -/
theorem steps_attend (program : Program (S.withNotices N) ε α) {state after : σ}
    {outcome : Except ε α}
    (steps : Steps sem (program.attend code, state) (ofExcept outcome, after))
    (notices : List N) :
    ∃ noticesAfter, Steps (sem.noting code) (program, (state, notices))
      (ofExcept outcome, (after, noticesAfter)) := by
  induction program generalizing state notices with
  | pure value =>
      obtain ⟨rfl, rfl⟩ := steps_ofExcept (.ok value) steps
      exact ⟨notices, .refl⟩
  | throw error =>
      obtain ⟨rfl, rfl⟩ := steps_ofExcept (.error error) steps
      exact ⟨notices, .refl⟩
  | call op next inductionHypothesis =>
      cases op with
      | inl op =>
          obtain ⟨reply, middle, answered, rest⟩ := steps_call steps
          obtain ⟨noticesAfter, noted⟩ := inductionHypothesis reply rest notices
          exact ⟨noticesAfter, .head (.call ⟨answered, rfl⟩) noted⟩
      | inr notice =>
          obtain ⟨reply, middle, announced, rest⟩ := steps_attempt steps
          obtain ⟨noticesAfter, noted⟩ :=
            inductionHypothesis reply rest (notices ++ [notice])
          exact ⟨noticesAfter, .head (.call ⟨announced, rfl⟩) noted⟩

/-- What makes no call that a property forbids keeps it, and gives no notice. -/
theorem ensures_lift {allowed : S.Call → Prop} {program : Program S ε α}
    (only : program.Only allowed) (Inv : σ → Prop)
    (keeps : ∀ state op reply after, allowed op → Inv state → sem op state reply after →
      Inv after) {state : σ} (inv : Inv state) (notices : List N) :
    (program.lift : Program (S.withNotices N) ε α).Ensures (sem.noting code)
      (fun _ after => Inv after.1 ∧ after.2 = notices) (state, notices) := by
  induction program generalizing state with
  | pure value => exact ⟨inv, rfl⟩
  | throw error => exact ⟨inv, rfl⟩
  | call op next inductionHypothesis =>
      refine ⟨trivial, ?_⟩
      rintro reply ⟨after, noticesAfter⟩ ⟨answered, rfl⟩
      exact inductionHypothesis reply (only.2 reply)
        (keeps state op reply after only.1 inv answered)

/-- One call that gives no notice, and what comes after it. -/
theorem ensures_lift_bind {op : S.Call} {rest : S.Reply op → Program (S.withNotices N) ε α}
    {post : Except ε α → σ × List N → Prop} {state : σ} {notices : List N}
    (returns : ∀ value after, sem op state (.ok value) after →
      (rest value).Ensures (sem.noting code) post (after, notices))
    (fails : ∀ error after, sem op state (.error error) after →
      post (.error error) (after, notices)) :
    (((perform op).lift : Program (S.withNotices N) ε (S.Reply op)).bind rest).Ensures
      (sem.noting code) post (state, notices) := by
  refine ⟨trivial, ?_⟩
  rintro (error | value) ⟨after, noticesAfter⟩ ⟨answered, rfl⟩
  · exact fails error after answered
  · exact returns value after answered

/-- What a program ensures, it ensures where notices are recorded, and gives none. -/
theorem Ensures.lift {program : Program S ε α} {post : Except ε α → σ → Prop} {state : σ}
    (ensures : program.Ensures sem post state) (notices : List N) :
    (program.lift : Program (S.withNotices N) ε α).Ensures (sem.noting code)
      (fun outcome after => post outcome after.1 ∧ after.2 = notices) (state, notices) := by
  induction program generalizing state with
  | pure value => exact ⟨ensures, rfl⟩
  | throw error => exact ⟨ensures, rfl⟩
  | call op next inductionHypothesis =>
      apply And.intro trivial
      rintro reply ⟨after, noticesAfter⟩ ⟨answered, rfl⟩
      exact inductionHypothesis reply (ensures.2 reply after answered)

/-- A program that gives no notice, and what comes after it. -/
theorem Returning.lift_bind {program : Program S ε β}
    {rest : β → Program (S.withNotices N) ε α} {middle : β → σ → Prop}
    {post : α → σ × List N → Prop} {state : σ} {notices : List N}
    (returns : program.Returning sem middle state)
    (returnsRest : ∀ value after, middle value after →
      (rest value).Returning (sem.noting code) post (after, notices)) :
    ((program.lift : Program (S.withNotices N) ε β).bind rest).Returning (sem.noting code)
      post (state, notices) := by
  apply (follows_bind _ _ _ _ _).mpr
  apply Follows.mono (Ensures.lift returns notices)
  rintro outcome ⟨after, noticesAfter⟩ ⟨holds, rfl⟩
  cases outcome with
  | ok value => exact returnsRest value after (holds value rfl)
  | error error =>
      intro value absurd
      cases absurd

/-- One notice that announces a program that returns. -/
theorem returning_notify {notice : N} {middle : σ → Prop} {state : σ} {notices : List N}
    (announces : (code notice).Returning sem (fun _ => middle) state) :
    (notify notice : Program (S.withNotices N) ε Unit).Returning (sem.noting code)
      (fun _ after => middle after.1 ∧ after.2 = notices ++ [notice]) (state, notices) := by
  apply returning_perform
  rintro value ⟨after, noticesAfter⟩ ⟨steps, rfl⟩
  exact ⟨announces.steps steps value rfl, rfl⟩

/-- A notice, and what follows it. -/
theorem returning_notify_bind {notice : N} {rest : Unit → Program (S.withNotices N) ε α}
    {middle : σ → Prop} {post : α → σ × List N → Prop} {state : σ} {notices : List N}
    (announces : (code notice).Returning sem (fun _ => middle) state)
    (returnsRest : ∀ after, middle after →
      (rest ()).Returning (sem.noting code) post (after, notices ++ [notice])) :
    ((notify notice).bind rest).Returning (sem.noting code) post (state, notices) := by
  apply Returning.bind (returning_notify announces)
  rintro value ⟨after, noticesAfter⟩ ⟨holds, rfl⟩
  exact returnsRest after holds

end Program

end Library
