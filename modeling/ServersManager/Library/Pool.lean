/-
Module: ServersManager.Library.Pool
Purpose: Pools of programs sharing one store, every interleaving of their calls,
  and the rule that lifts protocols to an invariant of all interleavings.
Trusted boundary: none
Main exports:
  Pool, Pool.Step, Pool.Reaches, Pool.Reaches.call, Pool.Reaches.run, Pool.Keeps,
  Pool.Reaches.invariant, Pool.Reaches.advancedMeeting
-/
import Mathlib.Logic.Function.Basic
import ServersManager.Library.Program

namespace Library

/-- Programs that share a store.  The index type is arbitrary, so a pool may hold
any number of threads; one that is never scheduled has not started. -/
structure Pool (S : Signature) (ε ι α σ : Type) where
  threads : ι → Program S ε α
  store : σ

/-- Wherever a program gets to, its next call and what follows it satisfy a condition. -/
def Program.Throughout {S : Signature} {ε α : Type}
    (condition : (op : S.Call) → (Except ε (S.Reply op) → Program S ε α) → Prop) :
    Program S ε α → Prop
  | .pure _ | .throw _ => True
  | .call op next => condition op next ∧ ∀ reply, (next reply).Throughout condition

namespace Pool

variable {S : Signature} {ε ι α Q σ : Type} [DecidableEq ι]

/-- One call of one thread is answered; all other threads stand still. -/
inductive Step (sem : ι → Semantics S ε σ) :
    Pool S ε ι α σ → Pool S ε ι α σ → Prop where
  | call {pool : Pool S ε ι α σ} (thread : ι) {op : S.Call}
      {next : Except ε (S.Reply op) → Program S ε α}
      {reply : Except ε (S.Reply op)} {after : σ}
      (current : pool.threads thread = .call op next)
      (answered : sem thread op pool.store reply after) :
      Step sem pool
        { threads := Function.update pool.threads thread (next reply)
          store := after }

/-- Every interleaving of the threads' calls, of any length. -/
abbrev Reaches (sem : ι → Semantics S ε σ) :
    Pool S ε ι α σ → Pool S ε ι α σ → Prop :=
  Relation.ReflTransGen (Step sem)

/-- A thread's own step is a step of the pool. -/
theorem Step.thread {sem : ι → Semantics S ε σ} (thread : ι) (threads : ι → Program S ε α)
    {before after : Program S ε α × σ} (step : Program.Step (sem thread) before after) :
    Step sem
      { threads := Function.update threads thread before.1
        store := before.2 }
      { threads := Function.update threads thread after.1
        store := after.2 } := by
  cases step with
  | @call op next state afterwards reply answered =>
      have stepped : Step sem
          { threads := Function.update threads thread (.call op next), store := state }
          { threads := Function.update
              (Function.update threads thread (.call op next)) thread (next reply)
            store := afterwards } :=
        Step.call thread (Function.update_self _ _ _) answered
      rwa [Function.update_idem] at stepped

theorem Reaches.thread {sem : ι → Semantics S ε σ} (thread : ι)
    (threads : ι → Program S ε α) {before after : Program S ε α × σ}
    (steps : Program.Steps (sem thread) before after) :
    Reaches sem
      { threads := Function.update threads thread before.1
        store := before.2 }
      { threads := Function.update threads thread after.1
        store := after.2 } := by
  induction steps with
  | refl => exact .refl
  | tail _ step inductionHypothesis =>
      exact inductionHypothesis.tail (Step.thread thread threads step)

/-- One more call. -/
theorem Reaches.call {sem : ι → Semantics S ε σ} {start pool : Pool S ε ι α σ}
    (reaches : Reaches sem start pool) (thread : ι) {op : S.Call}
    {next : Except ε (S.Reply op) → Program S ε α} {reply : Except ε (S.Reply op)}
    {after : σ} (current : pool.threads thread = .call op next)
    (answered : sem thread op pool.store reply after) :
    Reaches sem start
      { threads := Function.update pool.threads thread (next reply)
        store := after } :=
  reaches.tail (.call thread current answered)

/-- One more call, answered by a machine. -/
theorem Reaches.answer {sem : ι → Semantics S ε σ} {start pool : Pool S ε ι α σ}
    (reaches : Reaches sem start pool) (thread : ι) (machine : Machine S ε σ) {op : S.Call}
    {next : Except ε (S.Reply op) → Program S ε α}
    (current : pool.threads thread = .call op next)
    (answers : sem thread op pool.store (machine op pool.store).1
      (machine op pool.store).2) :
    Reaches sem start
      { threads := Function.update pool.threads thread (next (machine op pool.store).1)
        store := (machine op pool.store).2 } :=
  reaches.call thread current answers

/-- A thread may go on to its end on a machine that stays within an invariant. -/
theorem Reaches.runWithin {sem : ι → Semantics S ε σ} {start pool : Pool S ε ι α σ}
    (reaches : Reaches sem start pool) (thread : ι) (machine : Machine S ε σ)
    (Inv : σ → Prop)
    (answers : ∀ op state, Inv state →
      sem thread op state (machine op state).1 (machine op state).2)
    (keeps : ∀ op state, Inv state → Inv (machine op state).2) (inv : Inv pool.store) :
    Reaches sem start
      { threads := Function.update pool.threads thread
          (.ofExcept ((pool.threads thread).run machine pool.store).1)
        store := ((pool.threads thread).run machine pool.store).2 } := by
  have steps := Reaches.thread thread pool.threads
    (Program.run_steps_within machine Inv answers keeps (pool.threads thread) inv)
  rw [Function.update_eq_self] at steps
  exact reaches.trans steps

/-- A thread may go on to its end on a machine whose answers the surroundings may
give. -/
theorem Reaches.run {sem : ι → Semantics S ε σ} {start pool : Pool S ε ι α σ}
    (reaches : Reaches sem start pool) (thread : ι) (machine : Machine S ε σ)
    (answers : ∀ op state, sem thread op state (machine op state).1
      (machine op state).2) :
    Reaches sem start
      { threads := Function.update pool.threads thread
          (.ofExcept ((pool.threads thread).run machine pool.store).1)
        store := ((pool.threads thread).run machine pool.store).2 } :=
  reaches.runWithin thread machine (fun _ => True) (fun op state _ => answers op state)
    (fun _ _ holds => holds) trivial

/-- A thread has returned or thrown. -/
def Ended (pool : Pool S ε ι α σ) (thread : ι) (outcome : Except ε α) : Prop :=
  pool.threads thread = .ofExcept outcome

/-- The pool after a thread has gone on to its end on a machine. -/
def completed (pool : Pool S ε ι α σ) (thread : ι) (machine : Machine S ε σ) :
    Pool S ε ι α σ where
  threads := Function.update pool.threads thread
    (.ofExcept ((pool.threads thread).run machine pool.store).1)
  store := ((pool.threads thread).run machine pool.store).2

theorem ended_completed (pool : Pool S ε ι α σ) (thread : ι) (machine : Machine S ε σ) :
    (pool.completed thread machine).Ended thread
      ((pool.threads thread).run machine pool.store).1 :=
  Function.update_self _ _ _

theorem Ended.completed {pool : Pool S ε ι α σ} {other : ι} {outcome : Except ε α}
    (ended : pool.Ended other outcome) {thread : ι} (differs : other ≠ thread)
    (machine : Machine S ε σ) : (pool.completed thread machine).Ended other outcome :=
  (Function.update_of_ne differs _ _).trans ended

/-- An invariant between all threads' ghost states and the store that every call
allowed to any thread keeps. -/
def Keeps (P : ι → Protocol S ε Q) (sem : ι → Semantics S ε σ)
    (Inv : (ι → Q) → σ → Prop) : Prop :=
  ∀ ghosts store thread op reply after, Inv ghosts store →
    (P thread).Allows (ghosts thread) op → sem thread op store reply after →
      ∃ ghostAfter, (P thread).Moves (ghosts thread) op reply ghostAfter ∧
        Inv (Function.update ghosts thread ghostAfter) after

/-- All threads follow their protocols from these ghost states. -/
def Follows (P : ι → Protocol S ε Q) (post : ι → Except ε α → Q → Prop)
    (ghosts : ι → Q) (pool : Pool S ε ι α σ) : Prop :=
  ∀ thread, (pool.threads thread).Follows (P thread) (post thread)
    (ghosts thread)

variable {P : ι → Protocol S ε Q} {sem : ι → Semantics S ε σ}
  {Inv : (ι → Q) → σ → Prop} {post : ι → Except ε α → Q → Prop}

/-- One step of the pool keeps the invariant and leaves all threads on their
protocols. -/
theorem Step.invariant (keeps : Keeps P sem Inv)
    {before after : Pool S ε ι α σ} {ghosts : ι → Q}
    (follows : before.Follows P post ghosts) (inv : Inv ghosts before.store)
    (step : Step sem before after) :
    ∃ ghostsAfter, after.Follows P post ghostsAfter ∧
      Inv ghostsAfter after.store := by
  cases step with
  | call thread current answered =>
      have here := follows thread
      rw [current] at here
      obtain ⟨ghostAfter, moves, invAfter⟩ :=
        keeps _ _ thread _ _ _ inv here.1 answered
      refine ⟨_, fun other => ?_, invAfter⟩
      by_cases same : other = thread
      · subst other
        simpa using here.2 _ _ moves
      · simpa [Function.update_of_ne same] using follows other

/-- The invariant holds after every interleaving. -/
theorem Reaches.invariant (keeps : Keeps P sem Inv)
    {start pool : Pool S ε ι α σ} {ghosts : ι → Q}
    (follows : start.Follows P post ghosts) (inv : Inv ghosts start.store)
    (reaches : Reaches sem start pool) :
    ∃ ghostsAfter, pool.Follows P post ghostsAfter ∧
      Inv ghostsAfter pool.store := by
  induction reaches with
  | refl => exact ⟨ghosts, follows, inv⟩
  | tail _ step inductionHypothesis =>
      obtain ⟨middle, followsMiddle, invMiddle⟩ := inductionHypothesis
      exact step.invariant keeps followsMiddle invMiddle

omit [DecidableEq ι] in
/-- A thread that has ended satisfies its postcondition. -/
theorem Follows.ended {ghosts : ι → Q} {pool : Pool S ε ι α σ}
    (follows : pool.Follows P post ghosts) {thread : ι}
    {outcome : Except ε α} (ended : pool.Ended thread outcome) :
    post thread outcome (ghosts thread) := by
  have here := follows thread
  rw [show pool.threads thread = .ofExcept outcome from ended] at here
  exact (Program.follows_ofExcept _ _ _ _).mp here

/-- The pool after a thread has made some number of calls, answered by a machine. -/
def advanced (machine : Machine S ε σ) (thread : ι) :
    Nat → Pool S ε ι α σ → Pool S ε ι α σ
  | 0, pool => pool
  | calls + 1, pool =>
      match pool.threads thread with
      | .call op next =>
          advanced machine thread calls
            { threads := Function.update pool.threads thread
                (next (machine op pool.store).1)
              store := (machine op pool.store).2 }
      | _ => pool

/-- What has ended stays ended while another thread makes calls. -/
theorem Ended.advanced {pool : Pool S ε ι α σ} {other : ι} {outcome : Except ε α}
    (ended : pool.Ended other outcome) {thread : ι} (differs : other ≠ thread)
    (machine : Machine S ε σ) (calls : Nat) :
    (pool.advanced machine thread calls).Ended other outcome := by
  induction calls generalizing pool with
  | zero => exact ended
  | succ calls inductionHypothesis =>
      unfold Pool.advanced
      split
      · exact inductionHypothesis ((Function.update_of_ne differs _ _).trans ended)
      · exact ended

theorem Reaches.advanced {sem : ι → Semantics S ε σ} {start pool : Pool S ε ι α σ}
    (reaches : Reaches sem start pool) (thread : ι) (machine : Machine S ε σ)
    (answers : ∀ op state, sem thread op state (machine op state).1 (machine op state).2)
    (calls : Nat) : Reaches sem start (pool.advanced machine thread calls) := by
  induction calls generalizing pool with
  | zero => exact reaches
  | succ calls inductionHypothesis =>
      unfold Pool.advanced
      split
      · next op next current =>
        exact inductionHypothesis (reaches.answer thread machine current (answers _ _))
      · exact reaches

/-- The next calls of a thread, answered by a machine, meet a condition. -/
def meets (condition : S.Call → σ → Bool) (machine : Machine S ε σ) (thread : ι) :
    Nat → Pool S ε ι α σ → Bool
  | 0, _ => true
  | calls + 1, pool =>
      match pool.threads thread with
      | .call op next => condition op pool.store &&
          meets condition machine thread calls
            { threads := Function.update pool.threads thread
                (next (machine op pool.store).1)
              store := (machine op pool.store).2 }
      | _ => true

/-- A thread may make calls that meet a condition under which the machine answers as the
surroundings may. -/
theorem Reaches.advancedMeeting {sem : ι → Semantics S ε σ} {start pool : Pool S ε ι α σ}
    (reaches : Reaches sem start pool) (thread : ι) (machine : Machine S ε σ)
    (condition : S.Call → σ → Bool)
    (answers : ∀ op state, condition op state = true →
      sem thread op state (machine op state).1 (machine op state).2)
    (calls : Nat) (meeting : pool.meets condition machine thread calls = true) :
    Reaches sem start (pool.advanced machine thread calls) := by
  induction calls generalizing pool with
  | zero => exact reaches
  | succ calls inductionHypothesis =>
      unfold Pool.advanced
      unfold Pool.meets at meeting
      split
      · next op next current =>
        rw [current] at meeting
        obtain ⟨holds, rest⟩ := Bool.and_eq_true_iff.mp meeting
        exact inductionHypothesis
          (reaches.answer thread machine current (answers _ _ holds)) rest
      · exact reaches

/-- What is so wherever a thread may get to, is so wherever it has got to. -/
theorem Reaches.throughout {sem : ι → Semantics S ε σ} {start pool : Pool S ε ι α σ}
    (reaches : Reaches sem start pool) {thread : ι}
    {condition : (op : S.Call) → (Except ε (S.Reply op) → Program S ε α) → Prop}
    (throughout : (start.threads thread).Throughout condition) :
    (pool.threads thread).Throughout condition := by
  induction reaches with
  | refl => exact throughout
  | tail _ step inductionHypothesis =>
      cases step with
      | call stepping current answered =>
          by_cases same : thread = stepping
          · subst thread
            rw [current] at inductionHypothesis
            simpa using inductionHypothesis.2 _
          · simpa [Function.update_of_ne same] using inductionHypothesis

/-- A semantics that also refuses the calls a condition rules out. -/
def guarded (condition : ι → S.Call → σ → Prop) (sem : ι → Semantics S ε σ) :
    ι → Semantics S ε σ :=
  fun thread op store reply after =>
    condition thread op store ∧ sem thread op store reply after

end Pool

end Library
