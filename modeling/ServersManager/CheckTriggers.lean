/-
Module: ServersManager.CheckTriggers
Purpose: Requests to check a domain at once, any number of them at a time: how often they
  get through, which of them are refused, and whose they are.  The cooldown is that of the
  id as the request spells it.
Trusted boundary: human-reviewed semantics of `SET .. EX .. NX`
Main exports:
  enqueueCheck, tryAcquire, TriggerPermits, Arms, triggers_throttled
-/
import Mathlib.Data.List.Perm.Subperm
import ServersManager.Database
import ServersManager.Library.Chronicle
import ServersManager.Library.Spacing

namespace ServersManager

open Library

/-! ### The calls of a trigger -/

inductive TriggerError where
  | http (status : Nat) (text : String)
  | failed (error : JsError)

/-- The lookup of the domain, `SET key 1 EX seconds NX`, and adding a job.  An id is the
text that the request's path has for it. -/
inductive TriggerCall where
  | findDomain (orgId : Nat) (id : String)
  | setKey (key : String) (seconds : Nat)
  | addDomainCheck (domainId : String)
deriving DecidableEq

def TriggerCall.Reply : TriggerCall → Type
  | .findDomain _ _ => Option Domain
  | .setKey _ _ => Option String
  | .addDomainCheck _ => String

abbrev TriggerCalls : Signature := ⟨TriggerCall, TriggerCall.Reply⟩

abbrev TriggerJob := Program TriggerCalls TriggerError

def trigger (call : TriggerCall) : TriggerJob call.Reply :=
  Program.perform (S := TriggerCalls) call

/-! ### `common/rate-limit/rate-limiter.service.ts` -/

def tryAcquire (key : String) (windowSeconds : Nat) : TriggerJob Bool := do
  let result : Option String ← trigger (.setKey key windowSeconds)
  return result == some "OK"

/-! ### `domains/domains.service.ts` -/

def domainCheckRateLimitWindowSeconds : Nat := 60

def domainCheckKey (id : String) : String := "domain-check:" ++ id

def findDomainForCheck (orgId : Nat) (id : String) : TriggerJob Domain := do
  match ← trigger (.findDomain orgId id) with
  | some domain => return domain
  | none => throw (.http 404 ("Domain " ++ id ++ " not found"))

def enqueueJob (domainId : String) : TriggerJob String :=
  trigger (.addDomainCheck domainId)

def enqueueCheck (orgId : Nat) (id : String) : TriggerJob String := do
  let _ ← findDomainForCheck orgId id
  let acquired ← tryAcquire (domainCheckKey id) domainCheckRateLimitWindowSeconds
  if acquired then enqueueJob id
  else
    throw (.http 429
      ("Domain " ++ id ++ " was checked too recently; try again in under a minute"))

/-! ### Requests at once -/

/-- `POST /domains/:id/check`, for the organization of the user. -/
structure CheckTrigger where
  orgId : Nat
  id : String

/-- When a call is answered, in milliseconds, what the domain table holds then, and whether
a key is set by it. -/
structure TriggerMoment where
  time : Nat
  domains : Table Domain
  armed : Bool

abbrev TriggerEntry (ι : Type) := Entry TriggerCalls TriggerError ι TriggerMoment

section Log

variable {ι : Type}

/-- The entry has set the key. -/
def Sets (key : String) (seconds : Nat) (entry : TriggerEntry ι) : Prop :=
  entry.exchange.1 = .setKey key seconds ∧ entry.circumstances.armed = true

/-- The key is set, and has not expired. -/
def Held (log : List (TriggerEntry ι)) (key : String) (now : Nat) : Prop :=
  ∃ entry ∈ log, ∃ seconds, Sets key seconds entry ∧
    now < entry.circumstances.time + seconds * 1000

/-- The answers.  The database reads the text of an id as a primary key, several texts
perhaps as one, and fails where it cannot.  A key is set if it is not held; any call may
fail, and a failed one may have set it. -/
def triggerReplies (reads : String → Option Nat) (before : List (TriggerEntry ι))
    (moment : TriggerMoment) : (call : TriggerCall) → Except TriggerError call.Reply → Prop
  | .findDomain orgId id, .ok found =>
      ∃ key, reads id = some key ∧ found =
        moment.domains.findOne fun domain => domain.id == key && domain.orgId == orgId
  | .setKey key _, .ok result =>
      (result = some "OK" ∧ moment.armed = true ∧ ¬ Held before key moment.time) ∨
        (result = none ∧ moment.armed = false ∧ Held before key moment.time)
  | .setKey key _, .error _ => moment.armed = true → ¬ Held before key moment.time
  | _, _ => True

structure TriggerPermits (reads : String → Option Nat) (patience : Nat)
    (before : List (TriggerEntry ι)) (entry : TriggerEntry ι) : Prop extends
    Punctual TriggerMoment.time patience before entry where
  replies : triggerReplies reads before entry.circumstances entry.exchange.1 entry.exchange.2

end Log

/-! ### What a trigger asks for -/

/-- The exchanges of a trigger that has found its domain. -/
def foundTrace (orgId : Nat) (id : String) (domain : Domain) :
    List (Exchange TriggerCalls TriggerError) :=
  [⟨TriggerCall.findDomain orgId id, .ok (some domain)⟩]

/-- The exchanges of a trigger that may proceed. -/
def acquiredTrace (orgId : Nat) (id : String) (domain : Domain) :
    List (Exchange TriggerCalls TriggerError) :=
  foundTrace orgId id domain ++
    [⟨TriggerCall.setKey (domainCheckKey id) domainCheckRateLimitWindowSeconds,
      .ok (some "OK")⟩]

theorem enqueueCheck_asks {orgId : Nat} {id : String}
    {trace : List (Exchange TriggerCalls TriggerError)} {call : TriggerCall}
    (asks : (enqueueCheck orgId id).Asks trace call) :
    trace = [] ∧ call = .findDomain orgId id ∨
      ∃ domain,
        trace = foundTrace orgId id domain ∧
            call = .setKey (domainCheckKey id) domainCheckRateLimitWindowSeconds ∨
          trace = acquiredTrace orgId id domain ∧ call = .addDomainCheck id := by
  replace asks := Program.asks_call.mp asks
  rcases asks with ⟨rfl, rfl⟩ | ⟨reply, trace, rfl, asks⟩
  · exact .inl ⟨rfl, rfl⟩
  rcases reply with error | (_ | domain)
  · exact absurd asks Program.asks_throw
  · exact absurd asks Program.asks_throw
  refine .inr ⟨domain, ?_⟩
  replace asks := Program.asks_call.mp asks
  rcases asks with ⟨rfl, rfl⟩ | ⟨reply, trace, rfl, asks⟩
  · exact .inl ⟨rfl, rfl⟩
  rcases reply with error | (_ | result)
  · exact absurd asks Program.asks_throw
  · exact absurd asks Program.asks_throw
  by_cases acquired : result = "OK"
  · subst acquired
    replace asks := Program.asks_call.mp asks
    rcases asks with ⟨rfl, rfl⟩ | ⟨reply, trace, rfl, asks⟩
    · exact .inr ⟨rfl, rfl⟩
    rcases reply with error | jobId
    · exact absurd asks Program.asks_throw
    · exact absurd asks Program.asks_pure
  · have refused : Program.Asks (if some result == some "OK" then enqueueJob id
        else throw (.http 429 ("Domain " ++ id ++
          " was checked too recently; try again in under a minute"))) trace call := asks
    rw [if_neg (by simpa using acquired)] at refused
    exact absurd refused Program.asks_throw

/-! ### The log of all triggers -/

instance : DecidableEq TriggerCalls.Call := inferInstanceAs (DecidableEq TriggerCall)

section Triggers

variable {ι : Type}

/-- The entry starts the cooldown of an id. -/
def Arms (id : String) (entry : TriggerEntry ι) : Prop :=
  Sets (domainCheckKey id) domainCheckRateLimitWindowSeconds entry

/-- The entry adds a check to the queue, under an id. -/
def Adds (id : String) (entry : TriggerEntry ι) : Prop :=
  entry.exchange.1 = .addDomainCheck id

instance (id : String) (entry : TriggerEntry ι) : Decidable (Arms id entry) :=
  inferInstanceAs (Decidable (_ ∧ _))

instance (id : String) (entry : TriggerEntry ι) : Decidable (Adds id entry) :=
  inferInstanceAs (Decidable (_ = _))

/-- The id of an added check. -/
def addedId (entry : TriggerEntry ι) : Option String :=
  match entry.exchange.1 with
  | .addDomainCheck id => some id
  | _ => none

/-- The entry adds a check of the domain to the queue, under whatever id. -/
def AddsFor (reads : String → Option Nat) (domainId : Nat) (entry : TriggerEntry ι) : Prop :=
  (addedId entry).bind reads = some domainId

instance (reads : String → Option Nat) (domainId : Nat) (entry : TriggerEntry ι) :
    Decidable (AddsFor reads domainId entry) :=
  inferInstanceAs (Decidable (_ = _))

/-- The entry is the reason why a trigger is answered with 429. -/
def Refuses (id : String) (entry : TriggerEntry ι) : Prop :=
  entry.exchange = ⟨TriggerCall.setKey (domainCheckKey id)
    domainCheckRateLimitWindowSeconds, .ok none⟩

variable [DecidableEq ι] (reads : String → Option Nat) (triggers : ι → CheckTrigger)
  (patience : Nat)

def triggerPrograms (thread : ι) : TriggerJob String :=
  enqueueCheck (triggers thread).orgId (triggers thread).id

/-- All triggers, none of which has begun. -/
def triggerPool : Pool TriggerCalls TriggerError ι String (List (TriggerEntry ι)) where
  threads := triggerPrograms triggers
  store := []

def triggerAnswers (ι : Type) :
    ι → Semantics TriggerCalls TriggerError (List (TriggerEntry ι)) :=
  chronicle (TriggerPermits reads patience)

/-- The domain with this id was the organization's when the thread of this entry looked it
up. -/
def LookedUp (id : String) (log : List (TriggerEntry ι)) (entry : TriggerEntry ι) : Prop :=
  ∃ looked ∈ log, looked.thread = entry.thread ∧
    ∃ domain ∈ looked.circumstances.domains,
      reads id = some domain.id ∧ domain.orgId = (triggers entry.thread).orgId

variable {reads triggers patience} {log : List (TriggerEntry ι)} {id : String}

abbrev TriggerLog (reads : String → Option Nat) (triggers : ι → CheckTrigger)
    (patience : Nat) (log : List (TriggerEntry ι)) : Prop :=
  Grounded (Asked (TriggerPermits reads patience) (triggerPrograms triggers)) log

theorem domainCheckKey_inj {id other : String}
    (same : domainCheckKey id = domainCheckKey other) :
    id = other := by
  have lists := congrArg String.toList same
  simp only [domainCheckKey, String.toList_append, List.append_cancel_left_eq] at lists
  exact String.toList_inj.mp lists

omit [DecidableEq ι] in
theorem not_held_of_armed {before : List (TriggerEntry ι)} {entry : TriggerEntry ι}
    {key : String} {seconds : Nat}
    (replies : triggerReplies reads before entry.circumstances entry.exchange.1 entry.exchange.2)
    (sets : Sets key seconds entry) : ¬ Held before key entry.circumstances.time := by
  obtain ⟨thread, moment, op, reply⟩ := entry
  obtain ⟨rfl, armed⟩ := sets
  cases reply with
  | ok result =>
      rcases replies with ⟨-, -, free⟩ | ⟨-, unarmed, -⟩
      · exact free
      · exact absurd (armed.symm.trans unarmed) (by decide)
  | error error => exact replies armed

/-- Two cooldowns of one id begin a window apart. -/
theorem arms_spaced (grounded : TriggerLog reads triggers patience log) (id : String) :
    Spaced 60000 ((log.filter fun entry => Arms id entry).map
      fun entry => entry.circumstances.time) := by
  unfold Spaced
  rw [List.pairwise_map, List.pairwise_filter]
  apply grounded.pairwise
  intro before entry asked earlier member isEarlier isEntry
  have armsEarlier : Arms id earlier := of_decide_eq_true isEarlier
  have armsEntry : Arms id entry := of_decide_eq_true isEntry
  have free := not_held_of_armed asked.1.replies armsEntry
  by_contra close
  apply free
  refine ⟨earlier, member, _, armsEarlier, ?_⟩
  show _ < _ + 60 * 1000
  omega

theorem lookedUp_of_found (grounded : TriggerLog reads triggers patience log)
    {entry : TriggerEntry ι} {before after : List (TriggerEntry ι)}
    (split : log = before ++ entry :: after) {domain : Domain}
    (spoken : foundTrace (triggers entry.thread).orgId (triggers entry.thread).id domain <+:
      said before entry.thread) :
    LookedUp reads triggers (triggers entry.thread).id log entry := by
  obtain ⟨looked, member, sameThread, looks, -, -⟩ :=
    exists_said (fun _ _ permitted => permitted.toPunctual) grounded split
      (spoken.subset (List.mem_singleton_self _))
  refine ⟨looked, member, sameThread, domain, ?_⟩
  obtain ⟨_, _, -, asked, -⟩ := grounded.exists_permitted member
  have replies := asked.1.replies
  rw [looks] at replies
  obtain ⟨key, read, found⟩ := replies
  obtain ⟨present, matched⟩ := Table.findOne_mem found.symm
  simp only [Bool.and_eq_true, beq_iff_eq] at matched
  exact ⟨present, by rw [read, matched.1], matched.2⟩

/-- Whoever starts a cooldown or adds a check has found the domain to be its own. -/
theorem lookedUp_of_effect (grounded : TriggerLog reads triggers patience log)
    {entry : TriggerEntry ι} (member : entry ∈ log)
    (effect : Arms id entry ∨ Adds id entry) :
    LookedUp reads triggers id log entry := by
  obtain ⟨before, after, split, ⟨-, asks⟩, -⟩ := grounded.exists_permitted member
  rcases enqueueCheck_asks asks with ⟨-, call⟩ | ⟨domain, ⟨spoken, call⟩ | ⟨spoken, call⟩⟩
  · rcases effect with ⟨sets, -⟩ | adds
    · cases call.symm.trans sets
    · cases call.symm.trans adds
  · have same : (triggers entry.thread).id = id := by
      rcases effect with ⟨sets, -⟩ | adds
      · apply domainCheckKey_inj
        injection call.symm.trans sets
      · cases call.symm.trans adds
    rw [← same]
    apply lookedUp_of_found grounded split
    rw [spoken]
  · have same : (triggers entry.thread).id = id := by
      rcases effect with ⟨sets, -⟩ | adds
      · cases call.symm.trans sets
      · injection call.symm.trans adds
    rw [← same]
    apply lookedUp_of_found grounded split
    rw [spoken]
    exact List.prefix_append _ _

/-- A check is added by a trigger that has started the cooldown. -/
theorem exists_arms (grounded : TriggerLog reads triggers patience log) {entry : TriggerEntry ι}
    (member : entry ∈ log) (adds : Adds id entry) :
    ∃ armed ∈ log, Arms id armed ∧ armed.thread = entry.thread ∧
      armed.circumstances.time ≤ entry.circumstances.time ∧
      entry.circumstances.time ≤ armed.circumstances.time + patience := by
  obtain ⟨before, after, split, ⟨-, asks⟩, -⟩ := grounded.exists_permitted member
  rcases enqueueCheck_asks asks with ⟨-, call⟩ | ⟨domain, ⟨-, call⟩ | ⟨spoken, call⟩⟩
  · cases call.symm.trans adds
  · cases call.symm.trans adds
  have same : (triggers entry.thread).id = id := by
    injection call.symm.trans adds
  obtain ⟨armed, armedMember, sameThread, sets, later, prompt⟩ :=
    exists_said (fun _ _ permitted => permitted.toPunctual) grounded split
      (by rw [spoken]; exact .tail _ (.head _))
  refine ⟨armed, armedMember, ⟨?_, ?_⟩, sameThread, later, prompt⟩
  · rw [sets, same]
  · obtain ⟨_, _, -, asked, -⟩ := grounded.exists_permitted armedMember
    have replies := asked.1.replies
    rw [sets] at replies
    rcases replies with ⟨-, armed, -⟩ | ⟨⟨⟩, -, -⟩
    exact armed

/-- No trigger adds two checks. -/
theorem adds_nodup (grounded : TriggerLog reads triggers patience log) (id : String) :
    log.Pairwise fun earlier entry => Adds id earlier → Adds id entry →
      earlier.thread ≠ entry.thread := by
  apply grounded.pairwise
  intro before entry asked earlier member addsEarlier addsEntry sameThread
  have spoken : earlier.exchange ∈ said before entry.thread :=
    mem_said.mpr ⟨earlier, member, sameThread, rfl⟩
  rcases enqueueCheck_asks asked.2 with ⟨-, call⟩ | ⟨domain, ⟨-, call⟩ | ⟨trace, -⟩⟩
  · cases call.symm.trans addsEntry
  · cases call.symm.trans addsEntry
  · rw [trace] at spoken
    simp only [acquiredTrace, foundTrace, List.cons_append, List.nil_append, List.mem_cons,
      List.not_mem_nil, or_false] at spoken
    rcases spoken with same | same
    · rw [Adds, same] at addsEarlier
      cases addsEarlier
    · rw [Adds, same] at addsEarlier
      cases addsEarlier

private theorem length_filter_le_add {α : Type} (items : List α) (kind first : α → Bool) :
    (items.filter kind).length ≤ (items.filter first).length +
      (items.filter fun item => kind item && !first item).length := by
  simp only [← List.countP_eq_length_filter]
  induction items with
  | nil => exact Nat.le_refl _
  | cons item items inductionHypothesis =>
      simp only [List.countP_cons]
      cases kind item <;> cases first item <;> simp <;> omega

/-- Entries that are each of one of several kinds are at most as many as all of the
kinds have. -/
private theorem length_filter_le_mul {α β : Type} {items : List α} {kind : α → Bool}
    {kinds : β → α → Bool} {indices : List β} {bound : Nat}
    (kinded : ∀ item ∈ items, kind item = true → ∃ index ∈ indices, kinds index item = true)
    (each : ∀ index ∈ indices, (items.filter (kinds index)).length ≤ bound) :
    (items.filter kind).length ≤ indices.length * bound := by
  induction indices generalizing kind with
  | nil =>
      rw [List.filter_eq_nil_iff.mpr]
      · exact Nat.zero_le _
      · intro item member isKind
        obtain ⟨index, absent, -⟩ := kinded item member isKind
        cases absent
  | cons first indices inductionHypothesis =>
      have others : (items.filter fun item => kind item && !kinds first item).length ≤
          indices.length * bound := by
        apply inductionHypothesis _ fun index member => each index (.tail _ member)
        intro item member isKind
        obtain ⟨isKind, other⟩ := Bool.and_eq_true_iff.mp isKind
        obtain ⟨index, listed, ofIndex⟩ := kinded item member isKind
        rcases List.mem_cons.mp listed with rfl | rest
        · rw [ofIndex] at other
          cases other
        · exact ⟨index, rest, ofIndex⟩
      have split := length_filter_le_add items kind (kinds first)
      have ofFirst := each first (.head _)
      rw [List.length_cons, Nat.succ_mul]
      omega

/-- The entries of a kind that fall into a window. -/
def during (log : List (TriggerEntry ι)) (kind : TriggerEntry ι → Prop) [DecidablePred kind]
    (low high : Nat) : List (TriggerEntry ι) :=
  log.filter fun entry =>
    kind entry ∧ low ≤ entry.circumstances.time ∧ entry.circumstances.time ≤ high

theorem length_adds_le (grounded : TriggerLog reads triggers patience log) (id : String)
    (low high : Nat) :
    (during log (Adds id) low high).length ≤
      (during log (Arms id) (low - patience) high).length := by
  have distinct : ((during log (Adds id) low high).map Entry.thread).Nodup := by
    unfold during
    rw [List.Nodup, List.pairwise_map, List.pairwise_filter]
    apply (adds_nodup grounded id).imp
    intro earlier entry apart isEarlier isEntry
    exact apart (of_decide_eq_true isEarlier).1 (of_decide_eq_true isEntry).1
  have included : (during log (Adds id) low high).map Entry.thread ⊆
      (during log (Arms id) (low - patience) high).map Entry.thread := by
    intro thread member
    obtain ⟨entry, inWindow, rfl⟩ := List.mem_map.mp member
    obtain ⟨inLog, isAdded⟩ := List.mem_filter.mp inWindow
    obtain ⟨adds, above, below⟩ := of_decide_eq_true isAdded
    obtain ⟨armed, armedMember, arms, sameThread, later, prompt⟩ :=
      exists_arms grounded inLog adds
    rw [← sameThread]
    apply List.mem_map_of_mem
    apply List.mem_filter.mpr
    refine ⟨armedMember, decide_eq_true ⟨arms, ?_, ?_⟩⟩
    · omega
    · omega
  have fits := (distinct.subperm included).length_le
  rwa [List.length_map, List.length_map] at fits

theorem length_arms_le (grounded : TriggerLog reads triggers patience log) (id : String)
    (low high : Nat) :
    (during log (Arms id) low high).length ≤ (high - low) / 60000 + 1 := by
  have spaced : Spaced 60000 ((during log (Arms id) low high).map
      fun entry => entry.circumstances.time) := by
    apply (arms_spaced grounded id).sublist
    apply List.Sublist.map
    apply List.monotone_filter_right
    intro entry inWindow
    exact decide_eq_true (of_decide_eq_true inWindow).1
  rw [← List.length_map]
  apply spaced.length_le (by decide)
  intro time member
  obtain ⟨entry, inWindow, rfl⟩ := List.mem_map.mp member
  exact (of_decide_eq_true (List.mem_filter.mp inWindow).2).2

/-- The added checks of a window, under one id. -/
theorem length_adds_window (grounded : TriggerLog reads triggers patience log) (id : String)
    (low length : Nat) :
    (during log (Adds id) low (low + length)).length ≤ (length + patience) / 60000 + 1 := by
  apply (length_adds_le grounded id low (low + length)).trans
  apply (length_arms_le grounded id (low - patience) (low + length)).trans
  apply Nat.add_le_add_right
  apply Nat.div_le_div_right
  omega

/-- A check is added under the id of its request. -/
theorem added_id (grounded : TriggerLog reads triggers patience log) {entry : TriggerEntry ι}
    (member : entry ∈ log) (adds : Adds id entry) : (triggers entry.thread).id = id := by
  obtain ⟨before, after, split, ⟨-, asks⟩, -⟩ := grounded.exists_permitted member
  rcases enqueueCheck_asks asks with ⟨-, call⟩ | ⟨domain, ⟨-, call⟩ | ⟨-, call⟩⟩
  · cases call.symm.trans adds
  · cases call.symm.trans adds
  · injection call.symm.trans adds

/-- The added checks of a domain in a window, under all the ids that requests have for
it. -/
theorem length_addsFor_window (grounded : TriggerLog reads triggers patience log)
    {domainId : Nat} {spellings : List String}
    (spelled : ∀ thread, reads (triggers thread).id = some domainId →
      (triggers thread).id ∈ spellings) (low length : Nat) :
    (during log (AddsFor reads domainId) low (low + length)).length ≤
      spellings.length * ((length + patience) / 60000 + 1) := by
  refine length_filter_le_mul (fun entry member inWindow => ?_)
    fun id _ => length_adds_window grounded id low length
  obtain ⟨addsFor, above, below⟩ := of_decide_eq_true inWindow
  obtain ⟨id, added, read⟩ := Option.bind_eq_some_iff.mp addsFor
  have adds : Adds id entry := by
    unfold addedId at added
    split at added
    · next other same =>
      cases added
      exact same
    · cases added
  have own := added_id grounded member adds
  refine ⟨id, own ▸ spelled entry.thread (own ▸ read), decide_eq_true ⟨adds, above, below⟩⟩

/-- Nobody is refused without reason. -/
theorem arms_of_refuses (grounded : TriggerLog reads triggers patience log)
    {entry : TriggerEntry ι} (member : entry ∈ log) (refuses : Refuses id entry) :
    ∃ armed ∈ log, Arms id armed ∧
      armed.circumstances.time ≤ entry.circumstances.time ∧
      entry.circumstances.time < armed.circumstances.time + 60000 := by
  obtain ⟨before, after, split, asked, -⟩ := grounded.exists_permitted member
  have replies := asked.1.replies
  rw [refuses] at replies
  rcases replies with ⟨⟨⟩, -, -⟩ | ⟨-, -, armed, inBefore, seconds, sets, recent⟩
  have inLog : armed ∈ log := by
    rw [split]
    exact List.mem_append_left _ inBefore
  obtain ⟨_, _, -, ⟨-, asks⟩, -⟩ := grounded.exists_permitted inLog
  have window : seconds = domainCheckRateLimitWindowSeconds := by
    rcases enqueueCheck_asks asks with ⟨-, call⟩ | ⟨domain, ⟨-, call⟩ | ⟨-, call⟩⟩
    · cases call.symm.trans sets.1
    · injection sets.1.symm.trans call
    · cases call.symm.trans sets.1
  subst window
  exact ⟨armed, inLog, sets, asked.1.later armed inBefore, recent⟩

end Triggers

/-- However many users of whatever organizations ask for checks at once: the cooldowns of
an id, as requests spell it, begin a minute apart, a window sees no more checks added under
it than minutes and one, only requests of the domain's own organization have any effect,
and a request is refused only within a minute of such an effect.  Of one domain, a window
sees at most as many added checks for every spelling that requests have for its id. -/
theorem triggers_throttled {ι : Type} [DecidableEq ι] (reads : String → Option Nat)
    (triggers : ι → CheckTrigger) (patience : Nat)
    (pool : Pool TriggerCalls TriggerError ι String (List (TriggerEntry ι)))
    (reaches : Pool.Reaches (triggerAnswers reads patience ι) (triggerPool triggers) pool) :
    (∀ id, Spaced 60000 ((pool.store.filter fun entry => Arms id entry).map
          fun entry => entry.circumstances.time) ∧
        (∀ low length, (during pool.store (Adds id) low (low + length)).length ≤
          (length + patience) / 60000 + 1) ∧
        (∀ entry ∈ pool.store, Arms id entry ∨ Adds id entry →
          LookedUp reads triggers id pool.store entry) ∧
        ∀ entry ∈ pool.store, Refuses id entry →
          ∃ armed ∈ pool.store, Arms id armed ∧
            armed.circumstances.time ≤ entry.circumstances.time ∧
            entry.circumstances.time < armed.circumstances.time + 60000) ∧
      ∀ domainId, ∀ spellings : List String,
        (∀ thread, reads (triggers thread).id = some domainId →
          (triggers thread).id ∈ spellings) →
        ∀ low length, (during pool.store (AddsFor reads domainId) low (low + length)).length ≤
          spellings.length * ((length + patience) / 60000 + 1) := by
  have grounded : TriggerLog reads triggers patience pool.store :=
    reaches_chronicle.mp ⟨pool, reaches, rfl⟩
  refine ⟨fun id => ⟨arms_spaced grounded id, length_adds_window grounded id, ?_, ?_⟩, ?_⟩
  · intro entry member effect
    exact lookedUp_of_effect grounded member effect
  · intro entry member refuses
    exact arms_of_refuses grounded member refuses
  · intro domainId spellings spelled
    exact length_addsFor_window grounded spelled

/-! ### Three requests within a minute -/

def triggeredDomain : Domain :=
  { id := 5
    orgId := 1
    hostId := none
    hostname := "example.com"
    registrar := none
    domainExpiresAt := none
    dnsStatus := .unknown
    resolvedIp := none
    lastCheckedAt := none }

def lowerId : String := "3f2504e0-4f89-41d3-9a0c-0305e82c3301"

def upperId : String := "3F2504E0-4F89-41D3-9A0C-0305E82C3301"

/-- The database takes both for one key. -/
def readsId (id : String) : Option Nat :=
  if id = lowerId ∨ id = upperId then some 5 else none

/-- The second request spells the id in another way. -/
def spelledTriggers (thread : ℕ) : CheckTrigger :=
  { orgId := 1
    id := if thread = 1 then upperId else lowerId }

def checkedMoment (time : Nat) (armed : Bool) : TriggerMoment :=
  { time := time
    domains := Table.single triggeredDomain
    armed := armed }

/-- A request that gets through. -/
def acquiredPart (thread time : Nat) (id : String) : List (TriggerEntry ℕ) :=
  part thread (checkedMoment time true) (acquiredTrace 1 id triggeredDomain ++
    [⟨TriggerCall.addDomainCheck id, .ok "1"⟩])

theorem mem_acquiredPart {thread time : Nat} {id : String} {entry : TriggerEntry ℕ}
    (member : entry ∈ acquiredPart thread time id) :
    entry.thread = thread ∧ entry.circumstances.time = time := by
  obtain ⟨exchange, -, rfl⟩ := List.mem_map.mp member
  exact ⟨rfl, rfl⟩

/-- A request gets through where the key of its id is not held. -/
theorem acquiredPart_grounded {log : List (TriggerEntry ℕ)} {thread time : Nat} {id : String}
    (grounded : TriggerLog readsId spelledTriggers 0 log)
    (silent : ∀ entry ∈ log, entry.thread ≠ thread)
    (later : ∀ entry ∈ log, entry.circumstances.time ≤ time)
    (own : (spelledTriggers thread).id = id) (free : ¬ Held log (domainCheckKey id) time) :
    TriggerLog readsId spelledTriggers 0 (log ++ acquiredPart thread time id) := by
  have read : readsId id = some 5 := by
    rw [← own, spelledTriggers]
    by_cases second : thread = 1
    · rw [if_pos second]
      exact if_pos (.inr rfl)
    · rw [if_neg second]
      exact if_pos (.inl rfl)
  apply Grounded.part grounded
  · exact silent
  · rw [triggerPrograms, own]
    exact ⟨_, rfl, _, rfl, _, rfl, rfl⟩
  · intro front exchange back split
    refine ⟨Punctual.part 0 silent later front exchange, ?_⟩
    rcases front with _ | ⟨found, _ | ⟨acquired, _ | ⟨added, rest⟩⟩⟩
    · cases split
      exact ⟨5, read, rfl⟩
    · cases split
      refine .inl ⟨rfl, rfl, ?_⟩
      rintro ⟨entry, member, held⟩
      rcases List.mem_append.mp member with before | looked
      · exact free ⟨entry, before, held⟩
      · obtain ⟨seconds, ⟨sets, -⟩, -⟩ := held
        obtain ⟨exchange, isFound, rfl⟩ := List.mem_map.mp looked
        rw [List.mem_singleton] at isFound
        subst isFound
        cases sets
    · cases split
      trivial
    · simp [acquiredTrace, foundTrace] at split

/-- The second request gets through as well, as it spells the id in another way; the third
does not. -/
theorem triggers_throttled_spellings : ∃ pool,
    Pool.Reaches (triggerAnswers readsId 0 ℕ) (triggerPool spelledTriggers) pool ∧
      (∃ entry ∈ pool.store, Refuses lowerId entry) ∧
      (during pool.store (AddsFor readsId 5) 0 (0 + 59999)).length = 2 ∧
      (during pool.store (Adds lowerId) 0 (0 + 59999)).length ≤ 1 := by
  let refusal : Exchange TriggerCalls TriggerError :=
    ⟨TriggerCall.setKey (domainCheckKey lowerId) domainCheckRateLimitWindowSeconds, .ok none⟩
  let refused := part 2 (checkedMoment 59999 false)
    (foundTrace 1 lowerId triggeredDomain ++ [refusal])
  have first : TriggerLog readsId spelledTriggers 0 ([] ++ acquiredPart 0 0 lowerId) :=
    acquiredPart_grounded Grounded.empty (by simp) (by simp) rfl (by simp [Held])
  have second : TriggerLog readsId spelledTriggers 0
      ([] ++ acquiredPart 0 0 lowerId ++ acquiredPart 1 1000 upperId) := by
    apply acquiredPart_grounded first _ _ rfl
    rotate_left
    · intro entry member
      rw [(mem_acquiredPart member).1]
      decide
    · intro entry member
      rw [(mem_acquiredPart member).2]
      decide
    rintro ⟨entry, member, seconds, ⟨sets, -⟩, -⟩
    rw [List.nil_append] at member
    obtain ⟨exchange, said, rfl⟩ := List.mem_map.mp member
    simp only [acquiredTrace, foundTrace, List.cons_append, List.nil_append,
      List.mem_cons, List.not_mem_nil, or_false] at said
    rcases said with rfl | rfl | rfl
    · cases sets
    · injection sets with keys
      exact absurd (domainCheckKey_inj keys) (by decide)
    · cases sets
  have grounded : TriggerLog readsId spelledTriggers 0
      ([] ++ acquiredPart 0 0 lowerId ++ acquiredPart 1 1000 upperId ++ refused) := by
    have members : ∀ entry ∈ [] ++ acquiredPart 0 0 lowerId ++ acquiredPart 1 1000 upperId,
        entry.thread ≠ 2 ∧ entry.circumstances.time ≤ 59999 := by
      intro entry member
      rcases List.mem_append.mp member with member | member
      · rw [(mem_acquiredPart member).1, (mem_acquiredPart member).2]
        decide
      · rw [(mem_acquiredPart member).1, (mem_acquiredPart member).2]
        decide
    apply Grounded.part second
    · exact fun entry member => (members entry member).1
    · exact ⟨_, rfl, _, rfl, rfl⟩
    · intro front exchange back split
      refine ⟨Punctual.part 0 (fun entry member => (members entry member).1)
        (fun entry member => (members entry member).2) front exchange, ?_⟩
      rcases front with _ | ⟨found, _ | ⟨refusal, rest⟩⟩
      · cases split
        exact ⟨5, if_pos (.inl rfl), rfl⟩
      · cases split
        have armed : (⟨0, checkedMoment 0 true, ⟨TriggerCall.setKey (domainCheckKey lowerId)
            domainCheckRateLimitWindowSeconds, .ok (some "OK")⟩⟩ : TriggerEntry ℕ) ∈
              acquiredPart 0 0 lowerId :=
          List.mem_map_of_mem (.tail _ (.head _))
        refine .inr ⟨rfl, rfl, _, List.mem_append_left _ (List.mem_append_left _ armed), 60,
          ⟨rfl, rfl⟩, ?_⟩
        show 59999 < 0 + 60 * 1000
        decide
      · simp [foundTrace] at split
  obtain ⟨pool, reaches, store⟩ := reaches_chronicle.mpr grounded
  refine ⟨pool, reaches, ?_, ?_, ?_⟩
  · rw [store]
    exact ⟨⟨2, checkedMoment 59999 false, refusal⟩, List.mem_append_right _
      (List.mem_map_of_mem (.tail _ (.head _))), rfl⟩
  · rw [store]
    decide
  · exact ((triggers_throttled readsId spelledTriggers 0 pool reaches).1 lowerId).2.1 0 59999

end ServersManager
