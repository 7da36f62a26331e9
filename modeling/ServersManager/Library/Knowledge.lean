/-
Module: ServersManager.Library.Knowledge
Purpose: Programs that rely on facts which stay true once they are, and the rule by which
  all that such programs know is true in every interleaving.
Trusted boundary: none
Main exports:
  Knowledge, Knowledge.protocol, Tells, Tells.bind, Tells.ask, Truthful, Truthful.reaches,
  Truthful.returned
-/
import Mathlib.Order.Basic
import ServersManager.Library.Pool

namespace Library

/-- What may be called by those who know something, and what an answer tells them.
Knowing more rules out no call. -/
structure Knowledge (S : Signature) (ε K : Type) [Preorder K] where
  Permits : K → S.Call → Prop
  Learns : K → (op : S.Call) → Except ε (S.Reply op) → Prop
  mono : ∀ {known more : K} {op : S.Call}, known ≤ more → Permits known op → Permits more op

section Tells

variable {S : Signature} {ε K α β : Type} [Preorder K] {knowledge : Knowledge S ε K}
  {known : K}

/-- What is known only grows, and includes what the last answer has told. -/
def Knowledge.protocol (knowledge : Knowledge S ε K) : Protocol S ε K where
  Allows := knowledge.Permits
  Moves known op reply after := known ≤ after ∧ knowledge.Learns after op reply

/-- Whoever knows this much may run the program, and then also knows something of the
value that it returns. -/
def Tells (knowledge : Knowledge S ε K) (known : K) (program : Program S ε α)
    (post : α → K → Prop) : Prop :=
  ∀ aware, known ≤ aware → program.Follows knowledge.protocol
    (fun outcome after => aware ≤ after ∧ ∀ value, outcome = .ok value → post value after)
    aware

namespace Tells

variable {post : α → K → Prop} {last : β → K → Prop}

theorem pure {value : α} (holds : ∀ aware, known ≤ aware → post value aware) :
    Tells knowledge known (Program.pure value) post := by
  intro aware knows
  refine ⟨le_refl aware, ?_⟩
  rintro _ ⟨⟩
  exact holds aware knows

theorem throw (error : ε) : Tells knowledge known (Program.throw error) post := by
  intro aware knows
  refine ⟨le_refl aware, ?_⟩
  intro value absurd
  cases absurd

theorem mono {program : Program S ε α} {weak : α → K → Prop}
    (tells : Tells knowledge known program post)
    (weaken : ∀ value aware, known ≤ aware → post value aware → weak value aware) :
    Tells knowledge known program weak := by
  intro aware knows
  apply (tells aware knows).mono
  rintro outcome after ⟨grows, holds⟩
  refine ⟨grows, ?_⟩
  intro value same
  exact weaken value after (knows.trans grows) (holds value same)

theorem bind {program : Program S ε α} {rest : α → Program S ε β}
    (tells : Tells knowledge known program post)
    (tellsRest : ∀ value learned, known ≤ learned → post value learned →
      Tells knowledge learned (rest value) last) :
    Tells knowledge known (program.bind rest) last := by
  intro aware knows
  apply (Program.follows_bind _ _ _ _ _).mpr
  apply (tells aware knows).mono
  rintro outcome after ⟨grows, holds⟩
  cases outcome with
  | error error =>
      refine ⟨grows, ?_⟩
      intro value absurd
      cases absurd
  | ok value =>
      apply (tellsRest value after (knows.trans grows) (holds value rfl) after (le_refl _)).mono
      rintro outcome later ⟨more, returned⟩
      exact ⟨grows.trans more, returned⟩

theorem ofExcept_bind {outcome : Except ε α} {rest : α → Program S ε β}
    (tellsRest : ∀ value, outcome = .ok value → Tells knowledge known (rest value) last) :
    Tells knowledge known ((Program.ofExcept outcome).bind rest) last := by
  cases outcome with
  | error error => exact throw error
  | ok value => exact tellsRest value rfl

theorem tryCatch {program : Program S ε α} {handler : ε → Program S ε α}
    (tells : Tells knowledge known program post)
    (tellsHandler : ∀ error, Tells knowledge known (handler error) post) :
    Tells knowledge known (program.tryCatch handler) post := by
  intro aware knows
  apply (Program.follows_tryCatch _ _ _ _ _).mpr
  apply (tells aware knows).mono
  rintro outcome after ⟨grows, holds⟩
  cases outcome with
  | ok value => exact ⟨grows, holds⟩
  | error error =>
      apply (tellsHandler error after (knows.trans grows)).mono
      rintro outcome later ⟨more, returned⟩
      exact ⟨grows.trans more, returned⟩

/-- One call tells what its answer does. -/
theorem ask {op : S.Call} (permits : knowledge.Permits known op) :
    Tells knowledge known (Program.perform op)
      fun value learned => knowledge.Learns learned op (.ok value) := by
  intro aware knows
  apply (Program.follows_perform _ _ _ _).mpr
  refine ⟨knowledge.mono knows permits, ?_⟩
  rintro reply after ⟨grows, learns⟩
  refine ⟨grows, ?_⟩
  rintro value rfl
  exact learns

/-- Calls that anyone may make need no knowledge, and here tell nothing. -/
theorem only {free : S.Call → Prop} {program : Program S ε α} (made : program.Only free)
    (permits : ∀ known op, free op → knowledge.Permits known op) :
    Tells knowledge known program fun _ _ => True := by
  intro aware knows
  apply made.followsKeeping (fun after => aware ≤ after)
  · intro after op grows isFree
    exact permits after op isFree
  · rintro before op reply after grows isFree ⟨more, -⟩
    exact grows.trans more
  · apply Program.ends_of_all
    intro outcome after grows
    exact ⟨grows, fun _ _ => trivial⟩
  · exact le_refl aware

end Tells

end Tells

/-! ### Any interleaving -/

section Pools

variable {S : Signature} {ε K ι α σ : Type} [Preorder K]
  {knowledge : ι → Knowledge S ε K} {sem : ι → Semantics S ε σ} {Holds : σ → K → Prop}

/-- Whatever a call permitted to any thread is answered, what was true of the store still
is, and what the answer tells has become true. -/
def Truthful (knowledge : ι → Knowledge S ε K) (sem : ι → Semantics S ε σ)
    (Holds : σ → K → Prop) : Prop :=
  ∀ thread op store reply after all, Holds store all →
    (knowledge thread).Permits all op → sem thread op store reply after →
      ∃ more, all ≤ more ∧ Holds after more ∧ (knowledge thread).Learns more op reply

/-- All that the threads know, and all that was known at first, is true of the store. -/
def Informed (Holds : σ → K → Prop) (origin : K) (aware : ι → K) (store : σ) : Prop :=
  ∃ all, Holds store all ∧ origin ≤ all ∧ ∀ thread, aware thread ≤ all

variable [DecidableEq ι]

theorem Truthful.keeps (truthful : Truthful knowledge sem Holds) (origin : K) :
    Pool.Keeps (fun thread => (knowledge thread).protocol) sem (Informed Holds origin) := by
  rintro aware store thread op reply after ⟨all, holds, grown, knows⟩ permits answered
  obtain ⟨more, grows, holdsAfter, learns⟩ := truthful thread op store reply after all holds
    ((knowledge thread).mono (knows thread) permits) answered
  refine ⟨more, ⟨(knows thread).trans grows, learns⟩, more, holdsAfter, grown.trans grows, ?_⟩
  intro other
  by_cases same : other = thread
  · subst other
    rw [Function.update_self]
  · rw [Function.update_of_ne same]
    exact (knows other).trans grows

variable {start pool : Pool S ε ι α σ} {post : ι → α → K → Prop} {origin : K}

/-- Wherever a pool gets to, its threads go on from what they know, and that is true. -/
theorem Truthful.informed (truthful : Truthful knowledge sem Holds)
    (tells : ∀ thread, Tells (knowledge thread) origin (start.threads thread) (post thread))
    (holds : Holds start.store origin) (reaches : Pool.Reaches sem start pool) :
    ∃ aware, pool.Follows (fun thread => (knowledge thread).protocol)
      (fun thread outcome after => origin ≤ after ∧
        ∀ value, outcome = .ok value → post thread value after) aware ∧
        Informed Holds origin aware pool.store := by
  apply reaches.invariant (truthful.keeps origin)
  · intro thread
    exact tells thread origin (le_refl origin)
  · exact ⟨origin, holds, le_refl origin, fun _ => le_refl origin⟩

/-- In every pool that is reached from where something was true of the store, it still is,
with all that has been learned since. -/
theorem Truthful.reaches (truthful : Truthful knowledge sem Holds)
    (tells : ∀ thread, Tells (knowledge thread) origin (start.threads thread) (post thread))
    (holds : Holds start.store origin) (reaches : Pool.Reaches sem start pool) :
    ∃ all, origin ≤ all ∧ Holds pool.store all := by
  obtain ⟨aware, -, all, holdsAll, grown, -⟩ := truthful.informed tells holds reaches
  exact ⟨all, grown, holdsAll⟩

/-- What a thread has returned is as its program tells. -/
theorem Truthful.returned (truthful : Truthful knowledge sem Holds)
    (tells : ∀ thread, Tells (knowledge thread) origin (start.threads thread) (post thread))
    (holds : Holds start.store origin) (reaches : Pool.Reaches sem start pool)
    {thread : ι} {value : α} (ended : pool.Ended thread (.ok value)) :
    ∃ aware, origin ≤ aware ∧ post thread value aware := by
  obtain ⟨aware, follows, -⟩ := truthful.informed tells holds reaches
  obtain ⟨grown, returned⟩ := follows.ended ended
  exact ⟨aware thread, grown, returned value rfl⟩

end Pools

end Library
