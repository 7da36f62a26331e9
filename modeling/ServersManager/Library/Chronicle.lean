/-
Module: ServersManager.Library.Chronicle
Purpose: Pools whose store is the log of all calls: a pool comes to a log exactly when
  every entry is permitted and is what its thread asks for next.
Trusted boundary: none
Main exports:
  Entry, said, Program.Leads, Program.Asks, asks_call, chronicle, Asked,
  reaches_chronicle, Punctual, exists_said, Grounded.part
-/
import ServersManager.Library.Conversation
import ServersManager.Library.Pool
import ServersManager.Library.Trace

namespace Library

variable {S : Signature} {ε ι κ α β : Type}

/-! ### What a program asks for -/

/-- After these exchanges the program is here. -/
def Program.Leads : Program S ε α → List (Exchange S ε) → Program S ε α → Prop
  | program, [], here => here = program
  | program, ⟨op, reply⟩ :: trace, here =>
      ∃ next, program = .call op next ∧ (next reply).Leads trace here

/-- After these exchanges the program makes this call. -/
def Program.Asks (program : Program S ε α) (trace : List (Exchange S ε)) (op : S.Call) :
    Prop :=
  ∃ next, program.Leads trace (.call op next)

namespace Program

/-- A trace in two parts leads through what lies between them. -/
theorem leads_append {program here : Program S ε α} {first second : List (Exchange S ε)} :
    program.Leads (first ++ second) here ↔
      ∃ middle, program.Leads first middle ∧ middle.Leads second here := by
  induction first generalizing program with
  | nil => exact ⟨fun leads => ⟨program, rfl, leads⟩, by rintro ⟨_, rfl, leads⟩; exact leads⟩
  | cons exchange first inductionHypothesis =>
      constructor
      · rintro ⟨next, rfl, leads⟩
        obtain ⟨middle, before, after⟩ := inductionHypothesis.mp leads
        exact ⟨middle, ⟨next, rfl, before⟩, after⟩
      · rintro ⟨middle, ⟨next, rfl, before⟩, after⟩
        exact ⟨next, rfl, inductionHypothesis.mpr ⟨middle, before, after⟩⟩

/-- One more exchange. -/
theorem Leads.snoc {program : Program S ε α} {trace : List (Exchange S ε)} {op : S.Call}
    {next : Except ε (S.Reply op) → Program S ε α}
    (leads : program.Leads trace (.call op next)) (reply : Except ε (S.Reply op)) :
    program.Leads (trace ++ [⟨op, reply⟩]) (next reply) :=
  leads_append.mpr ⟨_, leads, next, rfl, rfl⟩

/-- A trace leads to one place only. -/
theorem Leads.unique {program first second : Program S ε α} {trace : List (Exchange S ε)}
    (leads : program.Leads trace first) (other : program.Leads trace second) :
    first = second := by
  induction trace generalizing program with
  | nil => exact leads.trans other.symm
  | cons exchange trace inductionHypothesis =>
      obtain ⟨next, rfl, leads⟩ := leads
      obtain ⟨_, ⟨⟩, other⟩ := other
      exact inductionHypothesis leads other

@[simp] theorem asks_pure {value : α} {trace : List (Exchange S ε)} {op : S.Call} :
    ¬ (Program.pure value : Program S ε α).Asks trace op := by
  rintro ⟨next, leads⟩
  cases trace with
  | nil => cases leads
  | cons exchange trace =>
      obtain ⟨_, differs, -⟩ := leads
      cases differs

@[simp] theorem asks_throw {error : ε} {trace : List (Exchange S ε)} {op : S.Call} :
    ¬ (Program.throw error : Program S ε α).Asks trace op := by
  rintro ⟨next, leads⟩
  cases trace with
  | nil => cases leads
  | cons exchange trace =>
      obtain ⟨_, differs, -⟩ := leads
      cases differs

/-- What a program asks is its first call, or a call after the answer to it. -/
theorem asks_call {op other : S.Call} {next : Except ε (S.Reply op) → Program S ε α}
    {trace : List (Exchange S ε)} :
    (Program.call op next).Asks trace other ↔
      trace = [] ∧ other = op ∨
        ∃ reply rest, trace = ⟨op, reply⟩ :: rest ∧ (next reply).Asks rest other := by
  constructor
  · rintro ⟨last, leads⟩
    cases trace with
    | nil =>
        cases leads
        exact .inl ⟨rfl, rfl⟩
    | cons exchange trace =>
        obtain ⟨_, ⟨⟩, leads⟩ := leads
        exact .inr ⟨exchange.2, trace, rfl, last, leads⟩
  · rintro (⟨rfl, rfl⟩ | ⟨reply, rest, rfl, last, leads⟩)
    · exact ⟨next, rfl⟩
    · exact ⟨last, next, rfl, leads⟩

end Program

/-! ### The log of a pool -/

/-- A call of a thread, the circumstances under which it was answered, and the answer. -/
structure Entry (S : Signature) (ε ι κ : Type) where
  thread : ι
  circumstances : κ
  exchange : Exchange S ε

/-- A call is answered as the log so far permits, and is put at its end. -/
def chronicle (permits : List (Entry S ε ι κ) → Entry S ε ι κ → Prop) (thread : ι) :
    Semantics S ε (List (Entry S ε ι κ)) :=
  fun op log reply after => ∃ circumstances,
    permits log ⟨thread, circumstances, ⟨op, reply⟩⟩ ∧
      after = log ++ [⟨thread, circumstances, ⟨op, reply⟩⟩]

variable [DecidableEq ι]

/-- What a thread has said. -/
def said (log : List (Entry S ε ι κ)) (thread : ι) : List (Exchange S ε) :=
  (log.filter fun entry => entry.thread = thread).map Entry.exchange

@[simp] theorem said_append (first second : List (Entry S ε ι κ)) (thread : ι) :
    said (first ++ second) thread = said first thread ++ said second thread := by
  simp [said]

theorem said_self (entry : Entry S ε ι κ) : said [entry] entry.thread = [entry.exchange] := by
  simp [said]

theorem said_other {entry : Entry S ε ι κ} {thread : ι} (differs : entry.thread ≠ thread) :
    said [entry] thread = [] := by
  simp [said, differs]

/-- What a thread has said is in the log. -/
theorem mem_said {log : List (Entry S ε ι κ)} {thread : ι} {exchange : Exchange S ε} :
    exchange ∈ said log thread ↔
      ∃ entry ∈ log, entry.thread = thread ∧ entry.exchange = exchange := by
  simp [said, and_assoc]

/-- The entry is permitted, and is what its thread asks for next. -/
def Asked (permits : List (Entry S ε ι κ) → Entry S ε ι κ → Prop)
    (programs : ι → Program S ε α) (before : List (Entry S ε ι κ)) (entry : Entry S ε ι κ) :
    Prop :=
  permits before entry ∧
    (programs entry.thread).Asks (said before entry.thread) entry.exchange.1

variable {permits : List (Entry S ε ι κ) → Entry S ε ι κ → Prop}
  {programs : ι → Program S ε α}

/-- Every thread is where its own exchanges lead. -/
def Along (programs threads : ι → Program S ε α) (log : List (Entry S ε ι κ)) : Prop :=
  ∀ thread, (programs thread).Leads (said log thread) (threads thread)

/-- The log grows with what one thread says. -/
theorem Along.append {threads : ι → Program S ε α} {log : List (Entry S ε ι κ)}
    (along : Along programs threads log) {thread : ι} {op : S.Call}
    {next : Except ε (S.Reply op) → Program S ε α}
    (current : threads thread = .call op next) (reply : Except ε (S.Reply op))
    (circumstances : κ) :
    Along programs (Function.update threads thread (next reply))
      (log ++ [⟨thread, circumstances, ⟨op, reply⟩⟩]) := by
  intro other
  rw [said_append]
  by_cases same : other = thread
  · subst same
    have here := along other
    rw [current] at here
    rw [said_self ⟨other, circumstances, ⟨op, reply⟩⟩, Function.update_self]
    exact here.snoc reply
  · rw [said_other (Ne.symm same), List.append_nil, Function.update_of_ne same]
    exact along other

/-- A pool comes to the logs whose every entry is asked for, and to no others. -/
theorem reaches_chronicle {log : List (Entry S ε ι κ)} :
    (∃ pool, Pool.Reaches (chronicle permits) { threads := programs, store := [] } pool ∧
        pool.store = log) ↔
      Grounded (Asked permits programs) log := by
  constructor
  · rintro ⟨pool, reaches, rfl⟩
    suffices holds : Grounded (Asked permits programs) pool.store ∧
        Along programs pool.threads pool.store from holds.1
    induction reaches with
    | refl => exact ⟨.empty, fun thread => rfl⟩
    | tail _ step inductionHypothesis =>
        obtain ⟨grounded, along⟩ := inductionHypothesis
        cases step with
        | call thread current answered =>
            obtain ⟨circumstances, permitted, rfl⟩ := answered
            have here := along thread
            rw [current] at here
            exact ⟨grounded.append ⟨permitted, _, here⟩,
              along.append current _ circumstances⟩
  · intro grounded
    suffices holds : ∃ pool, Pool.Reaches (chronicle permits)
        { threads := programs, store := [] } pool ∧ pool.store = log ∧
          Along programs pool.threads pool.store by
      obtain ⟨pool, reaches, store, -⟩ := holds
      exact ⟨pool, reaches, store⟩
    induction log using List.reverseRecOn with
    | nil => exact ⟨_, .refl, rfl, fun thread => rfl⟩
    | append_singleton log entry inductionHypothesis =>
        obtain ⟨pool, reaches, rfl, along⟩ := inductionHypothesis grounded.front
        obtain ⟨permitted, next, leads⟩ := grounded pool.store entry [] rfl
        obtain ⟨thread, circumstances, op, reply⟩ := entry
        have current : pool.threads thread = .call op next := (along thread).unique leads
        exact ⟨_, reaches.call thread current ⟨circumstances, permitted, rfl⟩, rfl,
          along.append current reply circumstances⟩

/-! ### Time -/

/-- Time passes, and no thread takes longer than its patience. -/
structure Punctual (time : κ → ℕ) (patience : ℕ) (before : List (Entry S ε ι κ))
    (entry : Entry S ε ι κ) : Prop where
  later : ∀ earlier ∈ before, time earlier.circumstances ≤ time entry.circumstances
  prompt : ∀ earlier ∈ before, earlier.thread = entry.thread →
    time entry.circumstances ≤ time earlier.circumstances + patience

/-- What the thread of an entry has said before it, it has said less than its patience
before. -/
theorem exists_said {time : κ → ℕ} {patience : ℕ}
    (punctual : ∀ before entry, permits before entry → Punctual time patience before entry)
    {log : List (Entry S ε ι κ)} (grounded : Grounded (Asked permits programs) log)
    {entry : Entry S ε ι κ} {before after : List (Entry S ε ι κ)}
    (split : log = before ++ entry :: after) {exchange : Exchange S ε}
    (spoken : exchange ∈ said before entry.thread) :
    ∃ earlier ∈ log, earlier.thread = entry.thread ∧ earlier.exchange = exchange ∧
      time earlier.circumstances ≤ time entry.circumstances ∧
      time entry.circumstances ≤ time earlier.circumstances + patience := by
  obtain ⟨earlier, member, sameThread, same⟩ := mem_said.mp spoken
  obtain ⟨later, prompt⟩ := punctual before entry (grounded before entry after split).1
  refine ⟨earlier, ?_, sameThread, same, later earlier member, prompt earlier member sameThread⟩
  rw [split]
  exact List.mem_append_left _ member

/-! ### Threads that say their whole part at once -/

/-- Exchanges of one thread under the same circumstances. -/
def part (thread : ι) (circumstances : κ) (trace : List (Exchange S ε)) :
    List (Entry S ε ι κ) :=
  trace.map fun exchange => ⟨thread, circumstances, exchange⟩

omit [DecidableEq ι] in
@[simp] theorem part_append (thread : ι) (circumstances : κ)
    (first second : List (Exchange S ε)) :
    part thread circumstances (first ++ second) =
      part thread circumstances first ++ part thread circumstances second :=
  List.map_append

@[simp] theorem said_part (thread : ι) (circumstances : κ) (trace : List (Exchange S ε)) :
    said (part thread circumstances trace) thread = trace := by
  induction trace with
  | nil => rfl
  | cons exchange trace inductionHypothesis =>
      simp only [said, part, List.map_cons, List.filter_cons] at *
      simpa using inductionHypothesis

omit [DecidableEq ι] in
/-- A part at one moment takes no time. -/
theorem Punctual.part {time : κ → ℕ} (patience : ℕ) {log : List (Entry S ε ι κ)} {thread : ι}
    {circumstances : κ} (silent : ∀ entry ∈ log, entry.thread ≠ thread)
    (later : ∀ entry ∈ log, time entry.circumstances ≤ time circumstances)
    (front : List (Exchange S ε)) (exchange : Exchange S ε) :
    Punctual time patience (log ++ Library.part thread circumstances front)
      ⟨thread, circumstances, exchange⟩ := by
  constructor
  · intro entry inLog
    rcases List.mem_append.mp inLog with old | new
    · exact later entry old
    · obtain ⟨_, -, rfl⟩ := List.mem_map.mp new
      exact Nat.le_refl _
  · intro entry inLog sameThread
    rcases List.mem_append.mp inLog with old | new
    · exact absurd sameThread (silent entry old)
    · obtain ⟨_, -, rfl⟩ := List.mem_map.mp new
      exact Nat.le_add_right _ _

theorem said_eq_nil {log : List (Entry S ε ι κ)} {thread : ι} :
    said log thread = [] ↔ ∀ entry ∈ log, entry.thread ≠ thread := by
  simp [said]

/-- A thread that has not begun may say its part if every exchange is permitted after
those before it. -/
theorem Grounded.part {log : List (Entry S ε ι κ)} {thread : ι}
    (grounded : Grounded (Asked permits programs) log)
    (silent : ∀ entry ∈ log, entry.thread ≠ thread) (circumstances : κ)
    {trace : List (Exchange S ε)} {here : Program S ε α}
    (leads : (programs thread).Leads trace here)
    (permitted : ∀ front exchange back, trace = front ++ exchange :: back →
      permits (log ++ Library.part thread circumstances front)
        ⟨thread, circumstances, exchange⟩) :
    Grounded (Asked permits programs) (log ++ Library.part thread circumstances trace) := by
  induction trace using List.reverseRecOn generalizing here with
  | nil =>
      rw [show Library.part thread circumstances [] = [] from rfl, List.append_nil]
      exact grounded
  | append_singleton trace exchange inductionHypothesis =>
      obtain ⟨middle, before, after⟩ := Program.leads_append.mp leads
      rw [part_append, ← List.append_assoc]
      apply Grounded.append
      · apply inductionHypothesis before
        intro front other back split
        apply permitted front other (back ++ [exchange])
        rw [split, List.append_assoc, List.cons_append]
      · refine ⟨permitted trace exchange [] rfl, ?_⟩
        show (programs thread).Asks (said _ thread) exchange.1
        rw [said_append, said_eq_nil.mpr silent, said_part, List.nil_append]
        obtain ⟨next, rfl, -⟩ := after
        exact ⟨next, before⟩

end Library
