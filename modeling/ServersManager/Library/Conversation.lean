/-
Module: ServersManager.Library.Conversation
Purpose: The conversations a program can have with its surroundings, whatever these
  answer, and programs whose calls are carried out by other programs.
Trusted boundary: none
Main exports:
  Exchange, Program.Converses, Program.converses_bind, Program.converses_perform_bind,
  Program.converses_tryCatch, Program.converses_record, Program.interpret, Program.run_interpret
-/
import ServersManager.Library.Notices

namespace Library

variable {S T : Signature} {ε α β σ : Type}

/-- A call and what it was answered. -/
abbrev Exchange (S : Signature) (ε : Type) :=
  (op : S.Call) × Except ε (S.Reply op)

namespace Program

/-- The program can make these calls, given these answers, and then ends so. -/
def Converses : Program S ε α → List (Exchange S ε) → Except ε α → Prop
  | .pure value, trace, outcome => trace = [] ∧ outcome = .ok value
  | .throw error, trace, outcome => trace = [] ∧ outcome = .error error
  | .call op next, trace, outcome =>
      ∃ reply rest, trace = ⟨op, reply⟩ :: rest ∧ (next reply).Converses rest outcome

@[simp] theorem converses_pure {value : α} {trace : List (Exchange S ε)}
    {outcome : Except ε α} :
    (Program.pure value : Program S ε α).Converses trace outcome ↔
      trace = [] ∧ outcome = .ok value := Iff.rfl

@[simp] theorem converses_throw {error : ε} {trace : List (Exchange S ε)}
    {outcome : Except ε α} :
    (Program.throw error : Program S ε α).Converses trace outcome ↔
      trace = [] ∧ outcome = .error error := Iff.rfl

@[simp] theorem converses_ofExcept {result : Except ε α} {trace : List (Exchange S ε)}
    {outcome : Except ε α} :
    (ofExcept result : Program S ε α).Converses trace outcome ↔
      trace = [] ∧ outcome = result := by
  cases result <;> exact Iff.rfl

@[simp] theorem converses_perform {op : S.Call} {trace : List (Exchange S ε)}
    {outcome : Except ε (S.Reply op)} :
    (perform op : Program S ε (S.Reply op)).Converses trace outcome ↔
      trace = [⟨op, outcome⟩] := by
  constructor
  · rintro ⟨reply, rest, rfl, ends⟩
    obtain ⟨rfl, rfl⟩ := converses_ofExcept.mp ends
    rfl
  · rintro rfl
    exact ⟨outcome, [], rfl, converses_ofExcept.mpr ⟨rfl, rfl⟩⟩

/-- The rule of sequencing. -/
theorem converses_bind {program : Program S ε α} {rest : α → Program S ε β}
    {trace : List (Exchange S ε)} {outcome : Except ε β} :
    (program.bind rest).Converses trace outcome ↔
      (∃ value front back, trace = front ++ back ∧ program.Converses front (.ok value) ∧
        (rest value).Converses back outcome) ∨
      ∃ error, outcome = .error error ∧ program.Converses trace (.error error) := by
  induction program generalizing trace with
  | pure value =>
      constructor
      · intro ends
        exact .inl ⟨value, [], trace, rfl, ⟨rfl, rfl⟩, ends⟩
      · rintro (⟨_, _, back, rfl, ⟨rfl, ⟨⟩⟩, ends⟩ | ⟨error, -, -, ⟨⟩⟩)
        exact ends
  | throw error =>
      constructor
      · rintro ⟨rfl, rfl⟩
        exact .inr ⟨error, rfl, rfl, rfl⟩
      · rintro (⟨_, _, _, -, ⟨-, ⟨⟩⟩, -⟩ | ⟨_, rfl, rfl, ⟨⟩⟩)
        exact ⟨rfl, rfl⟩
  | call op next inductionHypothesis =>
      constructor
      · rintro ⟨reply, more, rfl, ends⟩
        rcases (inductionHypothesis reply).mp ends with
          ⟨value, front, back, rfl, returns, goesOn⟩ | ⟨error, rfl, throws⟩
        · exact .inl ⟨value, ⟨op, reply⟩ :: front, back, rfl, ⟨reply, front, rfl, returns⟩,
            goesOn⟩
        · exact .inr ⟨error, rfl, reply, more, rfl, throws⟩
      · rintro (⟨value, _, back, rfl, ⟨reply, front, rfl, returns⟩, goesOn⟩ |
          ⟨error, rfl, reply, more, rfl, throws⟩)
        · exact ⟨reply, front ++ back, rfl, (inductionHypothesis reply).mpr
            (.inl ⟨value, front, back, rfl, returns, goesOn⟩)⟩
        · exact ⟨reply, more, rfl, (inductionHypothesis reply).mpr (.inr ⟨error, rfl, throws⟩)⟩

/-- One call and what comes after it. -/
theorem converses_perform_bind {op : S.Call} {rest : S.Reply op → Program S ε α}
    {trace : List (Exchange S ε)} {outcome : Except ε α} :
    ((perform op).bind rest).Converses trace outcome ↔
      (∃ value more, trace = ⟨op, .ok value⟩ :: more ∧ (rest value).Converses more outcome) ∨
      ∃ error, trace = [⟨op, .error error⟩] ∧ outcome = .error error := by
  constructor
  · rintro ⟨reply, more, rfl, ends⟩
    cases reply with
    | ok value => exact .inl ⟨value, more, rfl, ends⟩
    | error error =>
        obtain ⟨rfl, rfl⟩ := ends
        exact .inr ⟨error, rfl, rfl⟩
  · rintro (⟨value, more, rfl, ends⟩ | ⟨error, rfl, rfl⟩)
    · exact ⟨.ok value, more, rfl, ends⟩
    · exact ⟨.error error, [], rfl, rfl, rfl⟩

/-- The rule of handlers. -/
theorem converses_tryCatch {program : Program S ε α} {handler : ε → Program S ε α}
    {trace : List (Exchange S ε)} {outcome : Except ε α} :
    (program.tryCatch handler).Converses trace outcome ↔
      (∃ value, outcome = .ok value ∧ program.Converses trace (.ok value)) ∨
      ∃ error front back, trace = front ++ back ∧ program.Converses front (.error error) ∧
        (handler error).Converses back outcome := by
  induction program generalizing trace with
  | pure value =>
      constructor
      · rintro ⟨rfl, rfl⟩
        exact .inl ⟨value, rfl, rfl, rfl⟩
      · rintro (⟨_, rfl, rfl, ⟨⟩⟩ | ⟨_, _, _, -, ⟨-, ⟨⟩⟩, -⟩)
        exact ⟨rfl, rfl⟩
  | throw error =>
      constructor
      · intro ends
        exact .inr ⟨error, [], trace, rfl, ⟨rfl, rfl⟩, ends⟩
      · rintro (⟨_, -, -, ⟨⟩⟩ | ⟨_, _, back, rfl, ⟨rfl, ⟨⟩⟩, ends⟩)
        exact ends
  | call op next inductionHypothesis =>
      constructor
      · rintro ⟨reply, more, rfl, ends⟩
        rcases (inductionHypothesis reply).mp ends with
          ⟨value, rfl, returns⟩ | ⟨error, front, back, rfl, throws, handles⟩
        · exact .inl ⟨value, rfl, reply, more, rfl, returns⟩
        · exact .inr ⟨error, ⟨op, reply⟩ :: front, back, rfl, ⟨reply, front, rfl, throws⟩,
            handles⟩
      · rintro (⟨value, rfl, reply, more, rfl, returns⟩ |
          ⟨error, _, back, rfl, ⟨reply, front, rfl, throws⟩, handles⟩)
        · exact ⟨reply, more, rfl, (inductionHypothesis reply).mpr (.inl ⟨value, rfl, returns⟩)⟩
        · exact ⟨reply, front ++ back, rfl, (inductionHypothesis reply).mpr
            (.inr ⟨error, front, back, rfl, throws, handles⟩)⟩

/-- What is said in a run on a machine. -/
def record (machine : Machine S ε σ) : Program S ε α → σ → List (Exchange S ε)
  | .pure _, _ | .throw _, _ => []
  | .call op next, state =>
      ⟨op, (machine op state).1⟩ ::
        (next (machine op state).1).record machine (machine op state).2

/-- A run is a conversation. -/
theorem converses_record (machine : Machine S ε σ) (program : Program S ε α) (state : σ) :
    program.Converses (program.record machine state) (program.run machine state).1 := by
  induction program generalizing state with
  | pure value => exact ⟨rfl, rfl⟩
  | throw error => exact ⟨rfl, rfl⟩
  | call op next inductionHypothesis =>
      exact ⟨_, _, rfl, inductionHypothesis _ _⟩

/-! ### Calls carried out by programs -/

/-- Every call is replaced by the program that carries it out. -/
def interpret (code : (op : S.Call) → Program T ε (S.Reply op)) :
    Program S ε α → Program T ε α
  | .pure value => .pure value
  | .throw error => .throw error
  | .call op next => (code op).attempt fun reply => (next reply).interpret code

variable (code : (op : S.Call) → Program T ε (S.Reply op))

@[simp] theorem interpret_pure (value : α) :
    (Program.pure value : Program S ε α).interpret code = .pure value := rfl

@[simp] theorem interpret_throw (error : ε) :
    (Program.throw error : Program S ε α).interpret code = .throw error := rfl

@[simp] theorem interpret_ofExcept (outcome : Except ε α) :
    (ofExcept outcome : Program S ε α).interpret code = ofExcept outcome := by
  cases outcome <;> rfl

@[simp] theorem interpret_perform (op : S.Call) :
    (perform op : Program S ε (S.Reply op)).interpret code = code op := by
  simp only [perform, interpret, interpret_ofExcept]
  exact attempt_ofExcept (code op)

@[simp] theorem interpret_bind (program : Program S ε α) (rest : α → Program S ε β) :
    (program.bind rest).interpret code =
      (program.interpret code).bind fun value => (rest value).interpret code := by
  induction program with
  | pure value => rfl
  | throw error => rfl
  | call op next inductionHypothesis =>
      simp only [bind, interpret, inductionHypothesis]
      exact (attempt_bind _ _ _).symm

@[simp] theorem interpret_tryCatch (program : Program S ε α)
    (handler : ε → Program S ε α) :
    (program.tryCatch handler).interpret code =
      (program.interpret code).tryCatch fun error => (handler error).interpret code := by
  induction program with
  | pure value => rfl
  | throw error => rfl
  | call op next inductionHypothesis =>
      simp only [tryCatch, interpret, inductionHypothesis]
      exact (attempt_tryCatch _ _ _).symm

/-- A machine that answers each call by a run of the program that carries it out. -/
def carryingOut (machine : Machine T ε σ) : Machine S ε σ :=
  fun op state => (code op).run machine state

/-- A run of the interpretation is a run in which each call is carried out. -/
theorem run_interpret (machine : Machine T ε σ) (program : Program S ε α) (state : σ) :
    (program.interpret code).run machine state =
      program.run (carryingOut code machine) state := by
  induction program generalizing state with
  | pure value => rfl
  | throw error => rfl
  | call op next inductionHypothesis =>
      simp only [interpret, run_attempt, inductionHypothesis]
      rfl

end Program

end Library
