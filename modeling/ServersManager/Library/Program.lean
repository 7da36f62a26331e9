/-
Module: ServersManager.Library.Program
Purpose: Programs as finite trees of fallible calls, their sequential runs, their
  single steps, and the rules by which a program is shown to follow a protocol.
Trusted boundary: none
Main exports:
  Signature, Program, Program.run, Program.Only, Program.Ends, Program.Step, Protocol,
  Program.Follows, Program.Follows.step, Program.Ensures, Program.Ensures.steps,
  Program.Returning
-/
import Mathlib.Logic.Relation

namespace Library

/-- The calls a program may make, and the type of each call's reply. -/
structure Signature where
  Call : Type
  Reply : Call → Type

/-- A program over a signature: it returns, throws, or makes one call and goes on
with whatever the call answered.  A call answers with a reply or with an error, and
the continuation sees both, so a handler is a property of the tree and not of the
calls. -/
inductive Program (S : Signature) (ε α : Type) where
  | pure (value : α)
  | throw (error : ε)
  | call (op : S.Call) (next : Except ε (S.Reply op) → Program S ε α)

namespace Program

variable {S : Signature} {ε α β Q σ : Type}

/-- Sequencing: the continuation runs where the first program returns. -/
def bind : Program S ε α → (α → Program S ε β) → Program S ε β
  | .pure value, rest => rest value
  | .throw error, _ => .throw error
  | .call op next, rest => .call op fun reply => (next reply).bind rest

/-- `try body catch handler`: the handler runs where the body throws. -/
def tryCatch : Program S ε α → (ε → Program S ε α) → Program S ε α
  | .pure value, _ => .pure value
  | .throw error, handler => handler error
  | .call op next, handler =>
      .call op fun reply => (next reply).tryCatch handler

/-- The program that returns or rethrows a computed outcome. -/
def ofExcept : Except ε α → Program S ε α
  | .ok value => .pure value
  | .error error => .throw error

/-- One call; an error reply is thrown. -/
def perform (op : S.Call) : Program S ε (S.Reply op) :=
  .call op ofExcept

instance : Monad (Program S ε) where
  pure := .pure
  bind := bind

instance : MonadExcept ε (Program S ε) where
  throw := .throw
  tryCatch := tryCatch

@[simp] theorem pure_eq (value : α) :
    (Pure.pure value : Program S ε α) = .pure value := rfl

@[simp] theorem throw_eq (error : ε) :
    (MonadExcept.throw error : Program S ε α) = .throw error := rfl

@[simp] theorem bind_eq (program : Program S ε α) (rest : α → Program S ε β) :
    (program >>= rest) = program.bind rest := rfl

@[simp] theorem tryCatch_eq (program : Program S ε α)
    (handler : ε → Program S ε α) :
    MonadExcept.tryCatch program handler = program.tryCatch handler := rfl

@[simp] theorem ofExcept_ok (value : α) :
    (ofExcept (.ok value) : Program S ε α) = .pure value := rfl

@[simp] theorem ofExcept_error (error : ε) :
    (ofExcept (.error error) : Program S ε α) = .throw error := rfl

@[simp] theorem pure_bind (value : α) (rest : α → Program S ε β) :
    (Program.pure value).bind rest = rest value := rfl

@[simp] theorem throw_bind (error : ε) (rest : α → Program S ε β) :
    (Program.throw error).bind rest = .throw error := rfl

@[simp] theorem pure_tryCatch (value : α) (handler : ε → Program S ε α) :
    (Program.pure value).tryCatch handler = .pure value := rfl

@[simp] theorem throw_tryCatch (error : ε) (handler : ε → Program S ε α) :
    (Program.throw error : Program S ε α).tryCatch handler = handler error := rfl

/-- Three programs, one after another. -/
theorem bind_assoc {γ : Type} (program : Program S ε α) (rest : α → Program S ε β)
    (last : β → Program S ε γ) :
    (program.bind rest).bind last = program.bind fun value => (rest value).bind last := by
  induction program with
  | pure value => rfl
  | throw error => rfl
  | call op next inductionHypothesis =>
      simp only [bind, inductionHypothesis]

/-! ### Sequential runs -/

end Program

/-- A machine answers every call from its state, deterministically. -/
abbrev Machine (S : Signature) (ε σ : Type) :=
  (op : S.Call) → σ → Except ε (S.Reply op) × σ

/-- Feed a finished run into the rest of the program; an error skips it. -/
def resume {ε α β σ : Type} (outcome : Except ε α × σ)
    (rest : α → σ → Except ε β × σ) : Except ε β × σ :=
  match outcome with
  | (.ok value, state) => rest value state
  | (.error error, state) => (.error error, state)

/-- Feed a finished run into a handler; a value passes it by. -/
def recover {ε α σ : Type} (outcome : Except ε α × σ)
    (handler : ε → σ → Except ε α × σ) : Except ε α × σ :=
  match outcome with
  | (.ok value, state) => (.ok value, state)
  | (.error error, state) => handler error state

section Outcomes

variable {ε α β σ : Type}

@[simp] theorem resume_ok (value : α) (state : σ)
    (rest : α → σ → Except ε β × σ) :
    resume (.ok value, state) rest = rest value state := rfl

@[simp] theorem resume_error (error : ε) (state : σ)
    (rest : α → σ → Except ε β × σ) :
    resume (.error error, state) rest = (.error error, state) := rfl

@[simp] theorem recover_ok (value : α) (state : σ)
    (handler : ε → σ → Except ε α × σ) :
    recover (.ok value, state) handler = (.ok value, state) := rfl

@[simp] theorem recover_error (error : ε) (state : σ)
    (handler : ε → σ → Except ε α × σ) :
    recover (.error error, state) handler = handler error state := rfl

/-- What returns in the end has returned before. -/
theorem resume_eq_ok {outcome : Except ε α × σ} {rest : α → σ → Except ε β × σ}
    {value : β} {after : σ} :
    resume outcome rest = (.ok value, after) ↔
      ∃ first middle, outcome = (.ok first, middle) ∧
        rest first middle = (.ok value, after) := by
  obtain ⟨outcome, state⟩ := outcome
  constructor
  · cases outcome with
    | ok first => exact fun completes => ⟨first, state, rfl, completes⟩
    | error error => exact fun failed => by cases failed
  · rintro ⟨first, middle, same, completes⟩
    rw [same]
    exact completes

end Outcomes

namespace Program

variable {S : Signature} {ε α β Q σ : Type}

/-- Run a program to its end on one machine, nothing else running. -/
def run (machine : Machine S ε σ) : Program S ε α → σ → Except ε α × σ
  | .pure value, state => (.ok value, state)
  | .throw error, state => (.error error, state)
  | .call op next, state =>
      (next (machine op state).1).run machine (machine op state).2

variable (machine : Machine S ε σ)

@[simp] theorem run_pure (value : α) (state : σ) :
    (Program.pure value : Program S ε α).run machine state =
      (.ok value, state) := rfl

@[simp] theorem run_throw (error : ε) (state : σ) :
    (Program.throw error : Program S ε α).run machine state =
      (.error error, state) := rfl

@[simp] theorem run_ofExcept (outcome : Except ε α) (state : σ) :
    (ofExcept outcome : Program S ε α).run machine state = (outcome, state) := by
  cases outcome <;> rfl

@[simp] theorem run_perform (op : S.Call) (state : σ) :
    (perform op : Program S ε (S.Reply op)).run machine state =
      machine op state := by
  rw [perform, run, run_ofExcept]

@[simp] theorem run_bind (program : Program S ε α)
    (rest : α → Program S ε β) (state : σ) :
    (program.bind rest).run machine state =
      resume (program.run machine state)
        (fun value after => (rest value).run machine after) := by
  induction program generalizing state with
  | pure value => rfl
  | throw error => rfl
  | call op next inductionHypothesis =>
      simp only [bind, run]
      exact inductionHypothesis _ _

@[simp] theorem run_tryCatch (program : Program S ε α)
    (handler : ε → Program S ε α) (state : σ) :
    (program.tryCatch handler).run machine state =
      recover (program.run machine state)
        (fun error after => (handler error).run machine after) := by
  induction program generalizing state with
  | pure value => rfl
  | throw error => rfl
  | call op next inductionHypothesis =>
      simp only [tryCatch, run]
      exact inductionHypothesis _ _

end Program

/-! ### Calls of one kind -/

namespace Program

variable {S : Signature} {ε α β Q σ : Type}

/-- Whatever the answers, the program makes only calls that satisfy a condition. -/
def Only (allowed : S.Call → Prop) : Program S ε α → Prop
  | .pure _ | .throw _ => True
  | .call op next => allowed op ∧ ∀ reply, (next reply).Only allowed

variable {allowed : S.Call → Prop}

theorem only_ofExcept {outcome : Except ε α} :
    (ofExcept outcome : Program S ε α).Only allowed := by
  cases outcome <;> trivial

theorem only_perform {op : S.Call} (allows : allowed op) :
    (perform op : Program S ε (S.Reply op)).Only allowed :=
  ⟨allows, fun _ => only_ofExcept⟩

/-- A program may be allowed more than it calls. -/
theorem Only.mono {program : Program S ε α} {wider : S.Call → Prop}
    (only : program.Only allowed) (widens : ∀ op, allowed op → wider op) :
    program.Only wider := by
  induction program with
  | pure value => trivial
  | throw error => trivial
  | call op next inductionHypothesis =>
      exact ⟨widens op only.1, fun reply => inductionHypothesis reply (only.2 reply)⟩

/-- Two programs, one after the other. -/
theorem Only.bind {program : Program S ε α} {rest : α → Program S ε β}
    (only : program.Only allowed) (onlyRest : ∀ value, (rest value).Only allowed) :
    (program.bind rest).Only allowed := by
  induction program with
  | pure value => exact onlyRest value
  | throw error => trivial
  | call op next inductionHypothesis =>
      exact ⟨only.1, fun reply => inductionHypothesis reply (only.2 reply)⟩

/-- A handler counts as well. -/
theorem Only.tryCatch {program : Program S ε α} {handler : ε → Program S ε α}
    (only : program.Only allowed)
    (onlyHandler : ∀ error, (handler error).Only allowed) :
    (program.tryCatch handler).Only allowed := by
  induction program with
  | pure value => trivial
  | throw error => exact onlyHandler error
  | call op next inductionHypothesis =>
      exact ⟨only.1, fun reply => inductionHypothesis reply (only.2 reply)⟩

/-- What none of its calls changes, the program leaves unchanged. -/
theorem Only.run {program : Program S ε α} (only : program.Only allowed)
    {machine : Machine S ε σ} (Inv : σ → Prop)
    (keeps : ∀ op state, allowed op → Inv state → Inv (machine op state).2)
    {state : σ} (inv : Inv state) : Inv (program.run machine state).2 := by
  induction program generalizing state with
  | pure value => exact inv
  | throw error => exact inv
  | call op next inductionHypothesis =>
      exact inductionHypothesis _ (only.2 _) (keeps op state only.1 inv)

end Program

/-! ### Outcomes -/

namespace Program

variable {S : Signature} {ε α β Q σ : Type}

/-- Whatever the answers, every outcome satisfies a condition. -/
def Ends (post : Except ε α → Prop) : Program S ε α → Prop
  | .pure value => post (.ok value)
  | .throw error => post (.error error)
  | .call _ next => ∀ reply, (next reply).Ends post

variable {post : Except ε α → Prop}

theorem ends_of_all {program : Program S ε α} (all : ∀ outcome, post outcome) :
    program.Ends post := by
  induction program with
  | pure value => exact all _
  | throw error => exact all _
  | call op next inductionHypothesis => exact inductionHypothesis

/-- A postcondition may be weakened. -/
theorem Ends.mono {program : Program S ε α} {weak : Except ε α → Prop}
    (ends : program.Ends post) (weaken : ∀ outcome, post outcome → weak outcome) :
    program.Ends weak := by
  induction program with
  | pure value => exact weaken _ ends
  | throw error => exact weaken _ ends
  | call op next inductionHypothesis =>
      exact fun reply => inductionHypothesis reply (ends reply)

@[simp] theorem ends_ofExcept {outcome : Except ε α} :
    (ofExcept outcome : Program S ε α).Ends post ↔ post outcome := by
  cases outcome <;> rfl

@[simp] theorem ends_bind {program : Program S ε β} {rest : β → Program S ε α} :
    (program.bind rest).Ends post ↔
      program.Ends fun outcome =>
        match outcome with
        | .ok value => (rest value).Ends post
        | .error error => post (.error error) := by
  induction program with
  | pure value => rfl
  | throw error => rfl
  | call op next inductionHypothesis => exact forall_congr' inductionHypothesis

@[simp] theorem ends_tryCatch {program : Program S ε α} {handler : ε → Program S ε α} :
    (program.tryCatch handler).Ends post ↔
      program.Ends fun outcome =>
        match outcome with
        | .ok value => post (.ok value)
        | .error error => (handler error).Ends post := by
  induction program with
  | pure value => rfl
  | throw error => rfl
  | call op next inductionHypothesis => exact forall_congr' inductionHypothesis

end Program

/-! ### Single steps -/

/-- What the surroundings may answer to a call made in a state, and the state the
call leaves behind. -/
abbrev Semantics (S : Signature) (ε σ : Type) :=
  (op : S.Call) → σ → Except ε (S.Reply op) → σ → Prop

namespace Program

variable {S : Signature} {ε α β Q σ : Type}

/-- One step of a program: its next call is answered. -/
inductive Step (sem : Semantics S ε σ) :
    Program S ε α × σ → Program S ε α × σ → Prop where
  | call {op : S.Call} {next : Except ε (S.Reply op) → Program S ε α}
      {state after : σ} {reply : Except ε (S.Reply op)}
      (answered : sem op state reply after) :
      Step sem (.call op next, state) (next reply, after)

/-- A run cut short after any number of steps. -/
abbrev Steps (sem : Semantics S ε σ) :
    Program S ε α × σ → Program S ε α × σ → Prop :=
  Relation.ReflTransGen (Step sem)

/-- A run on a machine that stays within an invariant, under which the surroundings may
give its answers; its outcome is read back as a program. -/
theorem run_steps_within {sem : Semantics S ε σ} (machine : Machine S ε σ) (Inv : σ → Prop)
    (answers : ∀ op state, Inv state →
      sem op state (machine op state).1 (machine op state).2)
    (keeps : ∀ op state, Inv state → Inv (machine op state).2)
    (program : Program S ε α) {state : σ} (inv : Inv state) :
    Steps sem (program, state)
      (ofExcept (program.run machine state).1, (program.run machine state).2) := by
  induction program generalizing state with
  | pure value => exact .refl
  | throw error => exact .refl
  | call op next inductionHypothesis =>
      exact .head (.call (answers op state inv))
        (inductionHypothesis _ (keeps op state inv))

/-- A run on a machine whose answers the surroundings may always give. -/
theorem run_steps {sem : Semantics S ε σ} (machine : Machine S ε σ)
    (answers : ∀ op state, sem op state (machine op state).1 (machine op state).2)
    (program : Program S ε α) (state : σ) :
    Steps sem (program, state)
      (ofExcept (program.run machine state).1, (program.run machine state).2) :=
  run_steps_within machine (fun _ => True) (fun op state _ => answers op state)
    (fun _ _ holds => holds) program trivial

/-- Every call of a run passes a check. -/
def checks (machine : Machine S ε σ) (check : S.Call → σ → Bool) :
    Program S ε α → σ → Bool
  | .pure _, _ | .throw _, _ => true
  | .call op next, state => check op state &&
      (next (machine op state).1).checks machine check (machine op state).2

/-- A run on a machine whose answers the surroundings may give where they are checked. -/
theorem run_steps_checked {sem : Semantics S ε σ} (machine : Machine S ε σ)
    (check : S.Call → σ → Bool)
    (answers : ∀ op state, check op state = true →
      sem op state (machine op state).1 (machine op state).2)
    (program : Program S ε α) {state : σ}
    (checked : program.checks machine check state = true) :
    Steps sem (program, state)
      (ofExcept (program.run machine state).1, (program.run machine state).2) := by
  induction program generalizing state with
  | pure value => exact .refl
  | throw error => exact .refl
  | call op next inductionHypothesis =>
      obtain ⟨here, rest⟩ := Bool.and_eq_true_iff.mp checked
      exact .head (.call (answers op state here)) (inductionHypothesis _ rest)

end Program

/-! ### Protocols -/

/-- What a program may do, as an automaton over ghost states: the calls it may make
in a state, and where each answer may take it.  An answer without a move is one the
surroundings are known not to give. -/
structure Protocol (S : Signature) (ε Q : Type) where
  Allows : Q → S.Call → Prop
  Moves : Q → (op : S.Call) → Except ε (S.Reply op) → Q → Prop

namespace Program

variable {S : Signature} {ε α β Q σ : Type}

/-- Every call of the program is allowed where it is made, and every way the
program can end satisfies the postcondition. -/
def Follows (P : Protocol S ε Q) :
    Program S ε α → (Except ε α → Q → Prop) → Q → Prop
  | .pure value, post, ghost => post (.ok value) ghost
  | .throw error, post, ghost => post (.error error) ghost
  | .call op next, post, ghost =>
      P.Allows ghost op ∧
        ∀ reply after, P.Moves ghost op reply after →
          (next reply).Follows P post after

variable (P : Protocol S ε Q)

@[simp] theorem follows_pure (value : α) (post : Except ε α → Q → Prop)
    (ghost : Q) :
    (Program.pure value : Program S ε α).Follows P post ghost ↔
      post (.ok value) ghost := Iff.rfl

@[simp] theorem follows_throw (error : ε) (post : Except ε α → Q → Prop)
    (ghost : Q) :
    (Program.throw error : Program S ε α).Follows P post ghost ↔
      post (.error error) ghost := Iff.rfl

@[simp] theorem follows_ofExcept (outcome : Except ε α)
    (post : Except ε α → Q → Prop) (ghost : Q) :
    (ofExcept outcome : Program S ε α).Follows P post ghost ↔
      post outcome ghost := by
  cases outcome <;> rfl

@[simp] theorem follows_perform (op : S.Call)
    (post : Except ε (S.Reply op) → Q → Prop) (ghost : Q) :
    (perform op : Program S ε (S.Reply op)).Follows P post ghost ↔
      P.Allows ghost op ∧
        ∀ reply after, P.Moves ghost op reply after → post reply after := by
  simp only [perform, Follows, follows_ofExcept]

/-- The rule of one call and what comes after it. -/
theorem follows_perform_bind {op : S.Call} {rest : S.Reply op → Program S ε α}
    {post : Except ε α → Q → Prop} {ghost : Q} :
    ((perform op).bind rest).Follows P post ghost ↔
      P.Allows ghost op ∧
        (∀ value after, P.Moves ghost op (.ok value) after →
          (rest value).Follows P post after) ∧
        ∀ error after, P.Moves ghost op (.error error) after →
          post (.error error) after := by
  refine and_congr_right fun _ => ⟨fun holds => ⟨?_, ?_⟩, ?_⟩
  · exact fun value after moves => holds (.ok value) after moves
  · exact fun error after moves => holds (.error error) after moves
  · rintro ⟨returns, fails⟩ (error | value) after moves
    · exact fails error after moves
    · exact returns value after moves

/-- The rule of sequencing. -/
@[simp] theorem follows_bind (program : Program S ε α)
    (rest : α → Program S ε β) (post : Except ε β → Q → Prop) (ghost : Q) :
    (program.bind rest).Follows P post ghost ↔
      program.Follows P
        (fun outcome after =>
          match outcome with
          | .ok value => (rest value).Follows P post after
          | .error error => post (.error error) after) ghost := by
  induction program generalizing ghost with
  | pure value => rfl
  | throw error => rfl
  | call op next inductionHypothesis =>
      simp only [bind, Follows, inductionHypothesis]

/-- The rule of handlers. -/
@[simp] theorem follows_tryCatch (program : Program S ε α)
    (handler : ε → Program S ε α) (post : Except ε α → Q → Prop) (ghost : Q) :
    (program.tryCatch handler).Follows P post ghost ↔
      program.Follows P
        (fun outcome after =>
          match outcome with
          | .ok value => post (.ok value) after
          | .error error => (handler error).Follows P post after) ghost := by
  induction program generalizing ghost with
  | pure value => rfl
  | throw error => rfl
  | call op next inductionHypothesis =>
      simp only [tryCatch, Follows, inductionHypothesis]

variable {P}

/-- A program whose calls a ghost state allows, and whose answers leave it there,
ends there. -/
theorem Only.follows {allowed : S.Call → Prop} {program : Program S ε α}
    (only : program.Only allowed) {ghost : Q}
    (allows : ∀ op, allowed op → P.Allows ghost op)
    (stays : ∀ op reply after, allowed op → P.Moves ghost op reply after →
      after = ghost)
    {post : Except ε α → Q → Prop} (ends : program.Ends fun outcome => post outcome ghost) :
    program.Follows P post ghost := by
  induction program with
  | pure value => exact ends
  | throw error => exact ends
  | call op next inductionHypothesis =>
      refine ⟨allows op only.1, fun reply after moves => ?_⟩
      rw [stays op reply after only.1 moves]
      exact inductionHypothesis reply (only.2 reply) (ends reply)

/-- A program whose calls keep a condition on ghost states ends in one that satisfies
it. -/
theorem Only.followsKeeping {allowed : S.Call → Prop} {program : Program S ε α}
    (only : program.Only allowed) (Inv : Q → Prop)
    (allows : ∀ ghost op, Inv ghost → allowed op → P.Allows ghost op)
    (keeps : ∀ ghost op reply after, Inv ghost → allowed op →
      P.Moves ghost op reply after → Inv after)
    {post : Except ε α → Q → Prop}
    (ends : program.Ends fun outcome => ∀ ghost, Inv ghost → post outcome ghost)
    {ghost : Q} (inv : Inv ghost) : program.Follows P post ghost := by
  induction program generalizing ghost with
  | pure value => exact ends ghost inv
  | throw error => exact ends ghost inv
  | call op next inductionHypothesis =>
      refine ⟨allows ghost op inv only.1, fun reply after moves => ?_⟩
      exact inductionHypothesis reply (only.2 reply) (ends reply)
        (keeps ghost op reply after inv only.1 moves)

/-- The rule of consequence. -/
theorem Follows.mono {program : Program S ε α}
    {weak strong : Except ε α → Q → Prop} {ghost : Q}
    (follows : program.Follows P strong ghost)
    (weaken : ∀ outcome after, strong outcome after → weak outcome after) :
    program.Follows P weak ghost := by
  induction program generalizing ghost with
  | pure value => exact weaken _ _ follows
  | throw error => exact weaken _ _ follows
  | call op next inductionHypothesis =>
      exact ⟨follows.1, fun reply after moves =>
        inductionHypothesis reply (follows.2 reply after moves)⟩

/-- An invariant between ghost state and state that every allowed call keeps, the
answer being one the protocol has a move for. -/
def Protocol.Keeps (P : Protocol S ε Q) (sem : Semantics S ε σ)
    (Inv : Q → σ → Prop) : Prop :=
  ∀ ghost state op reply after, Inv ghost state → P.Allows ghost op →
    sem op state reply after →
      ∃ ghostAfter, P.Moves ghost op reply ghostAfter ∧ Inv ghostAfter after

/-- A step of a program that follows its protocol leaves a program that still
does, and keeps the invariant. -/
theorem Follows.step {sem : Semantics S ε σ} {Inv : Q → σ → Prop}
    (keeps : Protocol.Keeps P sem Inv)
    {post : Except ε α → Q → Prop} {ghost : Q}
    {before after : Program S ε α × σ}
    (follows : before.1.Follows P post ghost) (inv : Inv ghost before.2)
    (step : Step sem before after) :
    ∃ ghostAfter, after.1.Follows P post ghostAfter ∧ Inv ghostAfter after.2 := by
  cases step with
  | call answered =>
      obtain ⟨ghostAfter, moves, invAfter⟩ :=
        keeps _ _ _ _ _ inv follows.1 answered
      exact ⟨ghostAfter, follows.2 _ _ moves, invAfter⟩

/-- The same for a run cut short anywhere. -/
theorem Follows.steps {sem : Semantics S ε σ} {Inv : Q → σ → Prop}
    (keeps : Protocol.Keeps P sem Inv)
    {post : Except ε α → Q → Prop} {ghost : Q}
    {before after : Program S ε α × σ}
    (follows : before.1.Follows P post ghost) (inv : Inv ghost before.2)
    (steps : Steps sem before after) :
    ∃ ghostAfter, after.1.Follows P post ghostAfter ∧ Inv ghostAfter after.2 := by
  induction steps with
  | refl => exact ⟨ghost, follows, inv⟩
  | tail _ step inductionHypothesis =>
      obtain ⟨middle, followsMiddle, invMiddle⟩ := inductionHypothesis
      exact followsMiddle.step keeps invMiddle step

end Program

/-! ### Weakest preconditions -/

/-- The protocol whose ghost state is the state itself. -/
def Semantics.protocol {S : Signature} {ε σ : Type} (sem : Semantics S ε σ) :
    Protocol S ε σ where
  Allows _ _ := True
  Moves state op reply after := sem op state reply after

namespace Program

variable {S : Signature} {ε α β σ τ : Type} {sem : Semantics S ε σ}

/-- Whatever the surroundings answer, every end of the program satisfies the
postcondition. -/
abbrev Ensures (sem : Semantics S ε σ) (program : Program S ε α)
    (post : Except ε α → σ → Prop) (state : σ) : Prop :=
  program.Follows sem.protocol post state

/-- One call and what comes after it. -/
theorem ensures_perform_bind {op : S.Call} {rest : S.Reply op → Program S ε α}
    {post : Except ε α → σ → Prop} {state : σ}
    (returns : ∀ value after, sem op state (.ok value) after →
      (rest value).Ensures sem post after)
    (fails : ∀ error after, sem op state (.error error) after →
      post (.error error) after) :
    ((perform op).bind rest).Ensures sem post state :=
  (follows_perform_bind _).mpr ⟨trivial, returns, fails⟩

/-- Sequencing after a program that always returns. -/
theorem Ensures.bind {program : Program S ε α} {rest : α → Program S ε β}
    {middle : α → σ → Prop} {post : Except ε β → σ → Prop} {state : σ}
    (ensures : program.Ensures sem
      (fun outcome after => ∃ value, outcome = .ok value ∧ middle value after) state)
    (ensuresRest : ∀ value after, middle value after →
      (rest value).Ensures sem post after) :
    (program.bind rest).Ensures sem post state := by
  apply (follows_bind _ _ _ _ _).mpr
  apply Follows.mono ensures
  rintro outcome after ⟨value, rfl, holds⟩
  exact ensuresRest value after holds

/-- Whatever the surroundings answer, every value the program returns satisfies the
postcondition. -/
abbrev Returning (sem : Semantics S ε σ) (program : Program S ε α) (post : α → σ → Prop)
    (state : σ) : Prop :=
  program.Ensures sem (fun outcome after => ∀ value, outcome = .ok value → post value after)
    state

theorem returning_pure {value : α} {post : α → σ → Prop} {state : σ}
    (holds : post value state) :
    (Program.pure value : Program S ε α).Returning sem post state := by
  rintro _ ⟨⟩
  exact holds

theorem returning_throw {error : ε} {post : α → σ → Prop} {state : σ} :
    (Program.throw error : Program S ε α).Returning sem post state := by
  rintro _ ⟨⟩

theorem returning_ofExcept_bind {outcome : Except ε α} {rest : α → Program S ε β}
    {post : β → σ → Prop} {state : σ}
    (returns : ∀ value, outcome = .ok value → (rest value).Returning sem post state) :
    ((ofExcept outcome).bind rest).Returning sem post state := by
  cases outcome with
  | ok value => exact returns value rfl
  | error error => exact returning_throw

theorem returning_perform {op : S.Call} {post : S.Reply op → σ → Prop} {state : σ}
    (returns : ∀ value after, sem op state (.ok value) after → post value after) :
    (perform op : Program S ε (S.Reply op)).Returning sem post state := by
  apply (follows_perform _ _ _ _).mpr
  refine ⟨trivial, ?_⟩
  rintro reply after answered value rfl
  exact returns value after answered

/-- The rule of sequencing, for runs that return. -/
theorem Returning.bind {program : Program S ε α} {rest : α → Program S ε β}
    {middle : α → σ → Prop} {post : β → σ → Prop} {state : σ}
    (returns : program.Returning sem middle state)
    (returnsRest : ∀ value after, middle value after →
      (rest value).Returning sem post after) :
    (program.bind rest).Returning sem post state := by
  apply (follows_bind _ _ _ _ _).mpr
  apply Follows.mono returns
  intro outcome after holds
  cases outcome with
  | ok value => exact returnsRest value after (holds value rfl)
  | error error =>
      rintro _ ⟨⟩

/-- A call, and what follows it. -/
theorem returning_perform_bind {op : S.Call} {rest : S.Reply op → Program S ε α}
    {post : α → σ → Prop} {state : σ}
    (returns : ∀ value after, sem op state (.ok value) after →
      (rest value).Returning sem post after) :
    ((perform op).bind rest).Returning sem post state :=
  Returning.bind (returning_perform fun _ _ answered => answered) returns

/-- A handler that returns well from every state. -/
theorem Returning.tryCatch {program : Program S ε α} {handler : ε → Program S ε α}
    {post : α → σ → Prop} {state : σ} (returns : program.Returning sem post state)
    (handles : ∀ error after, (handler error).Returning sem post after) :
    (program.tryCatch handler).Returning sem post state := by
  apply (follows_tryCatch _ _ _ _ _).mpr
  apply Follows.mono returns
  intro outcome after holds
  cases outcome with
  | ok value =>
      rintro _ ⟨⟩
      exact holds value rfl
  | error error => exact handles error after

/-- The rule of consequence. -/
theorem Returning.mono {program : Program S ε α} {weak strong : α → σ → Prop} {state : σ}
    (returns : program.Returning sem strong state)
    (weaken : ∀ value after, strong value after → weak value after) :
    program.Returning sem weak state :=
  Follows.mono returns fun _ after holds value same => weaken value after (holds value same)

/-- What a program ensures holds wherever its steps end. -/
theorem Ensures.steps {post : Except ε α → σ → Prop} {program : Program S ε α}
    {state after : σ} {outcome : Except ε α}
    (ensures : program.Ensures sem post state)
    (steps : Steps sem (program, state) (ofExcept outcome, after)) :
    post outcome after := by
  have keeps : Protocol.Keeps sem.protocol sem fun ghost reached => ghost = reached := by
    rintro ghost reached op reply next rfl - answered
    exact ⟨next, answered, rfl⟩
  obtain ⟨ghost, follows, rfl⟩ := Follows.steps keeps ensures rfl steps
  exact (follows_ofExcept _ _ _ _).mp follows

/-- The same for a run on a machine that answers as the surroundings do, seen through
a view of its state. -/
theorem Ensures.run {post : Except ε α → σ → Prop} {program : Program S ε α}
    (machine : Machine S ε τ) (view : τ → σ)
    (answers : ∀ op state, sem op (view state) (machine op state).1
      (view (machine op state).2))
    {state : τ} (ensures : program.Ensures sem post (view state)) :
    post (program.run machine state).1 (view (program.run machine state).2) := by
  induction program generalizing state with
  | pure value => exact ensures
  | throw error => exact ensures
  | call op next inductionHypothesis =>
      exact inductionHypothesis _ (ensures.2 _ _ (answers op state))

end Program

end Library
