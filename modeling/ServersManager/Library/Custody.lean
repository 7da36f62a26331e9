/-
Module: ServersManager.Library.Custody
Purpose: Tokens that are in a queue or held by one thread, and work that threads of one
  group do in turns.
Trusted boundary: none
Main exports:
  Custody, Custody.issue, Custody.enqueue, Custody.dequeue, InTurns, InTurns.append
-/
import Mathlib.Data.List.Basic
import Mathlib.Data.List.Nodup
import Mathlib.Logic.Function.Basic

namespace Library

variable {ι : Type}

/-! ### Tokens -/

/-- A token is issued once; it is in the queue, or held by one thread, or gone. -/
structure Custody (held : ι → Option Nat) (queue : List Nat) (next : Nat) : Prop where
  distinct : queue.Nodup
  queued : ∀ token ∈ queue, token < next
  issued : ∀ thread token, held thread = some token → token < next
  apart : ∀ thread token, held thread = some token → token ∉ queue
  alone : ∀ first second token, held first = some token → held second = some token →
    first = second

namespace Custody

theorem start (held : ι → Option Nat) (none_held : ∀ thread, held thread = none) (next : Nat) :
    Custody held [] next := by
  have absent : ∀ thread token, held thread ≠ some token := by
    intro thread token holds
    rw [none_held thread] at holds
    cases holds
  constructor
  · exact List.nodup_nil
  · intro token queued
    cases queued
  · intro thread token holds
    exact (absent thread token holds).elim
  · intro thread token holds
    exact (absent thread token holds).elim
  · intro first second token holds
    exact (absent first token holds).elim

variable {held : ι → Option Nat} {queue : List Nat} {next : Nat}

theorem later (custody : Custody held queue next) {after : Nat} (le : next ≤ after) :
    Custody held queue after := by
  constructor
  · exact custody.distinct
  · intro token queued
    exact Nat.lt_of_lt_of_le (custody.queued token queued) le
  · intro thread token holds
    exact Nat.lt_of_lt_of_le (custody.issued thread token holds) le
  · exact custody.apart
  · exact custody.alone

variable [DecidableEq ι]

/-- Whoever holds a token afterwards held it before, or is the one thread that got it. -/
theorem of_held {thread other : ι} {got : Option Nat} {token : Nat}
    (holds : Function.update held thread got other = some token) :
    other = thread ∧ got = some token ∨ other ≠ thread ∧ held other = some token := by
  by_cases same : other = thread
  · subst other
    rw [Function.update_self] at holds
    exact .inl ⟨rfl, holds⟩
  · rw [Function.update_of_ne same] at holds
    exact .inr ⟨same, holds⟩

/-- A thread gives up what it holds. -/
theorem release (custody : Custody held queue next) (thread : ι) :
    Custody (Function.update held thread none) queue next := by
  have before : ∀ other token, Function.update held thread none other = some token →
      held other = some token := by
    intro other token holds
    rcases of_held holds with ⟨-, absurd⟩ | ⟨-, held⟩
    · cases absurd
    · exact held
  constructor
  · exact custody.distinct
  · exact custody.queued
  · intro other token holds
    exact custody.issued other token (before other token holds)
  · intro other token holds
    exact custody.apart other token (before other token holds)
  · intro first second token firstHolds secondHolds
    exact custody.alone first second token (before first token firstHolds)
      (before second token secondHolds)

/-- A thread gets a token that nobody else holds and that is not in the queue. -/
theorem give (custody : Custody held queue next) (thread : ι) {token : Nat}
    (issued : token < next) (notQueued : token ∉ queue)
    (notHeld : ∀ other, held other ≠ some token) :
    Custody (Function.update held thread (some token)) queue next := by
  constructor
  · exact custody.distinct
  · exact custody.queued
  · intro other found holds
    rcases of_held holds with ⟨-, same⟩ | ⟨-, held⟩
    · cases same
      exact issued
    · exact custody.issued other found held
  · intro other found holds
    rcases of_held holds with ⟨-, same⟩ | ⟨-, held⟩
    · cases same
      exact notQueued
    · exact custody.apart other found held
  · intro first second found firstHolds secondHolds
    rcases of_held firstHolds with ⟨rfl, same⟩ | ⟨-, firstHeld⟩
    · cases same
      rcases of_held secondHolds with ⟨rfl, -⟩ | ⟨-, secondHeld⟩
      · rfl
      · exact (notHeld second secondHeld).elim
    · rcases of_held secondHolds with ⟨rfl, same⟩ | ⟨-, secondHeld⟩
      · cases same
        exact (notHeld first firstHeld).elim
      · exact custody.alone first second found firstHeld secondHeld

/-- A thread gets a new token. -/
theorem issue (custody : Custody held queue next) (thread : ι) :
    Custody (Function.update held thread (some next)) queue (next + 1) := by
  apply (custody.later (Nat.le_succ next)).give thread (Nat.lt_succ_self next)
  · intro queued
    exact Nat.lt_irrefl next (custody.queued next queued)
  · intro other holds
    exact Nat.lt_irrefl next (custody.issued other next holds)

/-- A thread puts the token it holds into the queue. -/
theorem enqueue (custody : Custody held queue next) {thread : ι} {token : Nat}
    (holds : held thread = some token) :
    Custody (Function.update held thread none) (queue ++ [token]) next := by
  have released := custody.release thread
  constructor
  · rw [List.nodup_append]
    refine ⟨custody.distinct, List.nodup_singleton token, ?_⟩
    rintro queued member other isToken rfl
    cases List.mem_singleton.mp isToken
    exact custody.apart thread _ holds member
  · intro other member
    rcases List.mem_append.mp member with queued | added
    · exact custody.queued other queued
    · cases List.mem_singleton.mp added
      exact custody.issued thread token holds
  · exact released.issued
  · intro other found otherHolds member
    rcases List.mem_append.mp member with queued | added
    · exact released.apart other found otherHolds queued
    · cases List.mem_singleton.mp added
      rcases of_held otherHolds with ⟨-, absurd⟩ | ⟨differs, otherHeld⟩
      · cases absurd
      · exact differs (custody.alone other thread token otherHeld holds)
  · exact released.alone

/-- A thread takes a token out of the queue. -/
theorem dequeue {front back : List Nat} {token : Nat}
    (custody : Custody held (front ++ token :: back) next) (thread : ι) :
    Custody (Function.update held thread (some token)) (front ++ back) next := by
  have kept : ∀ other, other ∈ front ++ back → other ∈ front ++ token :: back := by
    intro other member
    rcases List.mem_append.mp member with inFront | inBack
    · exact List.mem_append_left _ inFront
    · exact List.mem_append_right _ (List.mem_cons_of_mem _ inBack)
  have taken : token ∈ front ++ token :: back :=
    List.mem_append_right _ List.mem_cons_self
  have rest := List.nodup_middle.mp custody.distinct
  have remaining : Custody held (front ++ back) next := by
    constructor
    · exact (List.nodup_cons.mp rest).2
    · intro other member
      exact custody.queued other (kept other member)
    · exact custody.issued
    · intro other found holds member
      exact custody.apart other found holds (kept found member)
    · exact custody.alone
  apply remaining.give thread (custody.queued token taken) (List.nodup_cons.mp rest).1
  intro other holds
  exact custody.apart other token holds taken

end Custody

/-! ### Turns -/

/-- Of two threads of one group, one is done before the other one begins. -/
structure InTurns (group : ι → ι → Prop) (done : ι → Prop) (log : List ι) : Prop where
  past : ∀ first second, first ≠ second → group first second →
    [first, second].Sublist log → done first
  apart : ∀ first second, first ≠ second → group first second →
    ¬ [first, second, first].Sublist log

namespace InTurns

variable {group later : ι → ι → Prop} {done doneLater : ι → Prop} {log : List ι}

theorem nil : InTurns group done [] := by
  constructor
  · intro first second _ _ both
    cases both
  · intro first second _ _ between
    cases between

theorem mono (turns : InTurns group done log)
    (grouped : ∀ first ∈ log, ∀ second ∈ log, later first second → group first second)
    (stays : ∀ thread ∈ log, done thread → doneLater thread) : InTurns later doneLater log := by
  constructor
  · intro first second differs together both
    have firstMember := both.subset List.mem_cons_self
    have secondMember := both.subset (List.mem_cons_of_mem _ List.mem_cons_self)
    exact stays first firstMember (turns.past first second differs
      (grouped first firstMember second secondMember together) both)
  · intro first second differs together between
    have firstMember := between.subset List.mem_cons_self
    have secondMember := between.subset (List.mem_cons_of_mem _ List.mem_cons_self)
    exact turns.apart first second differs
      (grouped first firstMember second secondMember together) between

/-- The last of the items is the one added, or they were all there. -/
theorem of_sublist_append (items : List ι) {last added : ι}
    (within : (items ++ [last]).Sublist (log ++ [added])) :
    (items ++ [last]).Sublist log ∨ last = added ∧ items.Sublist log := by
  have reversed := within.reverse
  simp only [List.reverse_append, List.reverse_cons, List.reverse_nil, List.nil_append,
    List.singleton_append] at reversed
  cases reversed with
  | cons _ inner =>
      left
      have forward := inner.reverse
      simpa using forward
  | cons_cons _ inner =>
      right
      have forward := inner.reverse
      exact ⟨rfl, by simpa using forward⟩

/-- A thread that is not done goes on, while all others of its group are done. -/
theorem append (turns : InTurns group done log) {thread : ι} (active : ¬ done thread)
    (others : ∀ other ∈ log, other ≠ thread → group other thread → done other) :
    InTurns group done (log ++ [thread]) := by
  constructor
  · intro first second differs together both
    rcases of_sublist_append [first] both with inside | ⟨rfl, before⟩
    · exact turns.past first second differs together inside
    · exact others first (List.singleton_sublist.mp before) differs together
  · intro first second differs together between
    rcases of_sublist_append [first, second] between with inside | ⟨rfl, before⟩
    · exact turns.apart first second differs together inside
    · exact active (turns.past first second differs together before)

end InTurns

end Library
