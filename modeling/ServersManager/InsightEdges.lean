/-
Module: ServersManager.InsightEdges
Purpose: The daily insight check over any number of runs: an entity is alerted on when
  it newly matches, and the flags then say exactly what matched.
Trusted boundary: none
Main exports:
  InsightNotice, noticedDailyCheck, noticedDailyCheck_attend, InsightsServed,
  activeIds, DailyChecks, EdgeTriggered, dailyChecks_edgeTriggered
-/
import ServersManager.Insights

namespace ServersManager

open Library

/-! ### A daily check with notices -/

/-- What a daily check gives notice of: the entities it has found to match, and each
condition it is about to dispatch. -/
inductive InsightNotice where
  | matching (flag : InsightFlag) (entities : List InsightMatch)
  | dispatching (input : EvaluateDirectConditionInput)
deriving DecidableEq

/-- What the notices announce. -/
def InsightNotice.code (platform : Platform) : InsightNotice → Job Unit
  | .matching _ _ => return ()
  | .dispatching input => evaluateDirectCondition platform input

def noticedActivateFlags (flag : InsightFlag) (previouslyActiveIds : List Nat) :
    List InsightMatch → NoticedJob InsightNotice Unit
  | [] => return ()
  | entity :: entities => do
      if !previouslyActiveIds.contains entity.id then
        Program.notify (.dispatching (directCondition flag entity))
      (upsertFlag entity.id flag true).lift
      noticedActivateFlags flag previouslyActiveIds entities

def noticedEvaluateFlag (flag : InsightFlag) : NoticedJob InsightNotice Unit := do
  let currentlyMatching ← (computeMatches flag).lift
  Program.notify (.matching flag currentlyMatching)
  let currentIds := currentlyMatching.map InsightMatch.id
  let previousStates ← (query (.findActiveInsights flag)).lift
  let previouslyActiveIds := previousStates.map InsightState.entityId
  noticedActivateFlags flag previouslyActiveIds currentlyMatching
  (deactivateFlags flag
    (previousStates.filter fun state => !currentIds.contains state.entityId)).lift

def noticedDailyCheck : NoticedJob InsightNotice Unit := do
  noticedEvaluateFlag .idleHost
  noticedEvaluateFlag .orphanedDomain
  noticedEvaluateFlag .orphanedHost

section Attend

variable (platform : Platform)

theorem noticedActivateFlags_attend (flag : InsightFlag) (previouslyActiveIds : List Nat)
    (entities : List InsightMatch) :
    (noticedActivateFlags flag previouslyActiveIds entities).attend
        (InsightNotice.code platform) =
      activateFlags platform flag previouslyActiveIds entities := by
  induction entities with
  | nil => rfl
  | cons entity entities inductionHypothesis =>
      simp only [noticedActivateFlags, activateFlags, Program.bind_eq]
      split
      · simp only [Program.attend_bind, Program.attend_notify, InsightNotice.code,
          Program.attend_lift, inductionHypothesis]
      · simp only [Program.attend_bind, Program.attend_lift, inductionHypothesis]

/-- One flag, with its evaluations put in for the notices. -/
theorem noticedEvaluateFlag_attend (flag : InsightFlag) :
    (noticedEvaluateFlag flag).attend (InsightNotice.code platform) =
      evaluateFlag platform flag := by
  simp only [noticedEvaluateFlag, evaluateFlag, evaluateFlagTransitions, Program.bind_eq,
    Program.attend_bind, Program.attend_lift, Program.attend_notify, InsightNotice.code,
    Program.pure_eq, Program.pure_bind, noticedActivateFlags_attend]

/-- Attending to its notices, it is the daily check. -/
theorem noticedDailyCheck_attend :
    noticedDailyCheck.attend (InsightNotice.code platform) =
      runDailyCheck platform := by
  simp only [noticedDailyCheck, runDailyCheck, evaluateIdleHosts,
    evaluateOrphanedDomains, evaluateOrphanedHosts, Program.bind_eq,
    Program.attend_bind, noticedEvaluateFlag_attend]

end Attend

/-! ### The flag table -/

/-- The entities for which a flag is set. -/
def activeIds (states : Table InsightState) (flag : InsightFlag) : List Nat :=
  (states.find fun state => state.flag == flag && state.active).map
    InsightState.entityId

/-- The ids of a flag are the entities of its active rows. -/
theorem mem_activeIds {states : Table InsightState} {flag : InsightFlag}
    {entityId : Nat} :
    entityId ∈ activeIds states flag ↔
      ∃ state ∈ states, state.entityId = entityId ∧ state.flag = flag ∧
        state.active = true := by
  simp only [activeIds, List.mem_map, Table.mem_find, Bool.and_eq_true, beq_iff_eq]
  constructor
  · rintro ⟨state, ⟨member, sameFlag, active⟩, same⟩
    exact ⟨state, member, same, sameFlag, active⟩
  · rintro ⟨state, member, same, sameFlag, active⟩
    exact ⟨state, ⟨member, sameFlag, active⟩, same⟩

/-- One flag of one entity has been set or cleared, and nothing else. -/
def FlagSet (before after : Table InsightState) (entityId : Nat) (flag : InsightFlag)
    (active : Bool) : Prop :=
  ∀ otherId otherFlag, otherId ∈ activeIds after otherFlag ↔
    if otherId = entityId ∧ otherFlag = flag then active = true
    else otherId ∈ activeIds before otherFlag

/-- A written row sets its flag and no other. -/
theorem flagSet_of_row {before after : Table InsightState} (row : InsightState)
    (written : ∀ other, other ∈ after ↔ other = row ∨
      other ∈ before ∧ Keyed.index other ≠ some (row.entityId, row.flag)) :
    FlagSet before after row.entityId row.flag row.active := by
  intro otherId otherFlag
  simp only [mem_activeIds, written]
  split
  · next same =>
    obtain ⟨rfl, rfl⟩ := same
    constructor
    · rintro ⟨state, rfl | ⟨-, differs⟩, sameId, sameFlag, active⟩
      · exact active
      · exact absurd (congrArg some (Prod.ext sameId sameFlag)) differs
    · intro active
      exact ⟨row, .inl rfl, rfl, rfl, active⟩
  · next differs =>
    constructor
    · rintro ⟨state, rfl | ⟨member, -⟩, sameId, sameFlag, active⟩
      · exact absurd ⟨sameId.symm, sameFlag.symm⟩ differs
      · exact ⟨state, member, sameId, sameFlag, active⟩
    · rintro ⟨state, member, rfl, rfl, active⟩
      refine ⟨state, .inr ⟨member, fun same => ?_⟩, rfl, rfl, active⟩
      exact differs (Prod.ext_iff.mp (Option.some.inj same))

/-- A row is saved with another activity. -/
theorem flagSet_of_save {before after : Table InsightState} {state : InsightState}
    {active : Bool} (member : state ∈ before)
    (saved : before.save { state with active := active } = some after) :
    FlagSet before after state.entityId state.flag active :=
  flagSet_of_row { state with active := active } fun _ =>
    Table.mem_save_indexed member rfl rfl saved

/-- A row is inserted where there was none. -/
theorem flagSet_of_insert {before after : Table InsightState} {row : InsightState}
    {entityId : Nat} {flag : InsightFlag} {active : Bool}
    (absent : ∀ state ∈ before, Keyed.index state ≠ some (entityId, flag))
    (inserted : before.insert (fun id =>
      { newInsight entityId flag active with id := id }) = some (row, after)) :
    FlagSet before after entityId flag active := by
  obtain ⟨rfl, -⟩ := Table.insert_eq_some.mp inserted
  exact flagSet_of_row { newInsight entityId flag active with id := before.nextId }
    fun _ => Table.mem_insert_indexed rfl absent inserted

/-! ### Surroundings of a daily check -/

variable {σ : Type}

/-- Whatever else happens at any time, the flag table is written by its own queries
alone, and a query that does not fail is answered from the tables. -/
structure InsightsServed (machine : Machine Calls JsError σ) (database : σ → Database) :
    Prop where
  query : ∀ (q : Query) state,
    (∃ error, (machine (Call.query q) state).1 = .error error) ∧
        (database (machine (Call.query q) state).2).insightStates =
          (database state).insightStates ∨
      (machine (Call.query q) state).1 = ((database state).perform q).1 ∧
        (database (machine (Call.query q) state).2).insightStates =
          ((database state).perform q).2.insightStates
  other : ∀ (call : Call) state, (∀ q, call ≠ .query q) →
    (database (machine call state).2).insightStates = (database state).insightStates

section Runs

variable {machine : Machine Calls JsError σ} {database : σ → Database}
  (served : InsightsServed machine database)
include served

/-- A query that succeeds has been performed. -/
theorem query_performed {q : Query} {state after : σ} {value : q.Reply}
    (completes : (query q).run machine state = (.ok value, after)) :
    ((database state).perform q).1 = .ok value ∧
      (database after).insightStates =
        ((database state).perform q).2.insightStates := by
  rw [run_query] at completes
  rcases served.query q state with ⟨⟨error, failed⟩, -⟩ | ⟨replied, written⟩
  · rw [completes] at failed
    cases failed
  · rw [completes] at replied written
    exact ⟨replied.symm, written⟩

/-- A call that writes no insight leaves the flags as they are. -/
theorem call_insights {call : Call} (state : σ)
    (silent : ∀ q, call = .query q → q.writesInsights = false) :
    (database (machine call state).2).insightStates = (database state).insightStates := by
  cases call with
  | query q =>
      rcases served.query q state with ⟨-, same⟩ | ⟨-, written⟩
      · exact same
      · exact written.trans (Database.perform_insights (silent q rfl))
  | _ => exact served.other _ state fun q absent => nomatch absent

/-- What makes no query of the flag table's own leaves it alone. -/
theorem only_insights {α : Type} {program : Job α} {allowed : Call → Prop}
    (only : program.Only allowed)
    (silent : ∀ q, allowed (.query q) → q.writesInsights = false) (state : σ) :
    (database (program.run machine state).2).insightStates =
      (database state).insightStates := by
  apply Program.Only.run only fun after =>
    (database after).insightStates = (database state).insightStates
  · intro call before allows same
    refine (call_insights served before ?_).trans same
    rintro q rfl
    exact silent q allows
  · rfl

/-- Whether it inserts or saves, an upsert sets its flag. -/
theorem upsertFlag_run {entityId : Nat} {flag : InsightFlag} {active : Bool}
    {state after : σ}
    (completes : (upsertFlag entityId flag active).run machine state = (.ok (), after)) :
    FlagSet (database state).insightStates (database after).insightStates entityId flag
      active := by
  simp only [upsertFlag, Program.bind_eq, Program.run_bind] at completes
  obtain ⟨found, middle, loaded, completes⟩ := resume_eq_ok.mp completes
  obtain ⟨looked, unchanged⟩ := query_performed served loaded
  change (database middle).insightStates = (database state).insightStates at unchanged
  rw [← unchanged]
  have found_eq : (database middle).insightStates.findOne (fun state =>
      state.entityId == entityId && state.flag == flag) = found := by
    rw [unchanged]
    exact Except.ok.inj looked
  cases found with
  | none =>
      simp only [Program.run_bind] at completes
      obtain ⟨row, last, inserts, ends⟩ := resume_eq_ok.mp completes
      cases ends
      obtain ⟨replied, written⟩ := query_performed served inserts
      obtain ⟨⟨row, states⟩, inserted, -⟩ := Database.answer_eq_ok.mp replied
      simp only [Database.perform, inserted, Option.map_some, Database.answer] at written
      rw [written]
      refine flagSet_of_insert ?_ inserted
      intro other member same
      obtain ⟨sameId, sameFlag⟩ := Prod.ext_iff.mp (Option.some.inj same)
      have differs := Table.findOne_none.mp found_eq other member
      simp [show other.entityId = entityId from sameId,
        show other.flag = flag from sameFlag] at differs
  | some old =>
      simp only [Program.run_bind] at completes
      obtain ⟨row, last, saves, ends⟩ := resume_eq_ok.mp completes
      cases ends
      obtain ⟨replied, written⟩ := query_performed served saves
      obtain ⟨states, saved, -⟩ := Database.answer_eq_ok.mp replied
      simp only [Database.perform, saved, Option.map_some, Database.answer] at written
      rw [written]
      obtain ⟨member, matched⟩ := Table.findOne_mem found_eq
      simp only [Bool.and_eq_true, beq_iff_eq] at matched
      obtain ⟨rfl, rfl⟩ := matched
      exact flagSet_of_save member saved

/-- The loop that lowers flags, by induction on its rows. -/
theorem deactivateFlags_run {flag : InsightFlag} {states : List InsightState}
    {state after : σ}
    (completes : (deactivateFlags flag states).run machine state = (.ok (), after)) :
    ∀ otherId otherFlag,
      otherId ∈ activeIds (database after).insightStates otherFlag ↔
        otherId ∈ activeIds (database state).insightStates otherFlag ∧
          ¬ (otherFlag = flag ∧ otherId ∈ states.map InsightState.entityId) := by
  induction states generalizing state with
  | nil =>
      cases completes
      simp
  | cons first states inductionHypothesis =>
      simp only [deactivateFlags, Program.bind_eq, Program.run_bind] at completes
      obtain ⟨_, middle, cleared, rest⟩ := resume_eq_ok.mp completes
      have flagSet := upsertFlag_run served cleared
      intro otherId otherFlag
      rw [inductionHypothesis rest, flagSet]
      split
      · next same => simp [same]
      · next differs =>
        simp only [List.map_cons, List.mem_cons]
        constructor
        · rintro ⟨active, others⟩
          refine ⟨active, ?_⟩
          rintro ⟨sameFlag, sameId | later⟩
          · exact differs ⟨sameId, sameFlag⟩
          · exact others ⟨sameFlag, later⟩
        · rintro ⟨active, others⟩
          exact ⟨active, fun later => others ⟨later.1, .inr later.2⟩⟩

variable {platform : Platform}

/-- Dispatching a condition leaves the flags alone and never fails. -/
theorem dispatching_run {input : EvaluateDirectConditionInput} {state after : σ}
    {notices noticesAfter : List InsightNotice}
    (completes : (Program.notify (InsightNotice.dispatching input) :
      NoticedJob InsightNotice Unit).run (machine.noting (InsightNotice.code platform))
        (state, notices) = (.ok (), (after, noticesAfter))) :
    (database after).insightStates = (database state).insightStates ∧
      noticesAfter = notices ++ [.dispatching input] := by
  obtain ⟨dispatched, recorded⟩ := (Program.run_notify_eq_ok _ _).mp completes
  have silent : ∀ q, Call.OfAlerts (.query q) → q.writesInsights = false := by
    intro q allows
    cases q <;> first | rfl | cases allows
  have unchanged := only_insights served (evaluateDirectCondition_only platform input)
    silent state
  change (evaluateDirectCondition platform input).run machine state = _ at dispatched
  rw [dispatched] at unchanged
  exact ⟨unchanged, recorded⟩

/-- The loop that raises flags dispatches for those that were not active before. -/
theorem activateFlags_run {flag : InsightFlag} {previouslyActiveIds : List Nat}
    {entities : List InsightMatch} {state after : σ}
    {notices noticesAfter : List InsightNotice}
    (completes : (noticedActivateFlags flag previouslyActiveIds entities).run
        (machine.noting (InsightNotice.code platform)) (state, notices) =
      (.ok (), (after, noticesAfter))) :
    noticesAfter = notices ++
        (entities.filter fun entity => !previouslyActiveIds.contains entity.id).map
          (fun entity => .dispatching (directCondition flag entity)) ∧
      ∀ otherId otherFlag,
        otherId ∈ activeIds (database after).insightStates otherFlag ↔
          otherFlag = flag ∧ otherId ∈ entities.map InsightMatch.id ∨
            otherId ∈ activeIds (database state).insightStates otherFlag := by
  induction entities generalizing state notices with
  | nil =>
      cases completes
      simp
  | cons entity entities inductionHypothesis =>
      -- The flag is set whether or not the condition has been dispatched first.
      have activated : ∀ {first : σ} {noticesFirst : List InsightNotice},
          ((upsertFlag entity.id flag true).lift.bind fun _ =>
              noticedActivateFlags flag previouslyActiveIds entities).run
            (machine.noting (InsightNotice.code platform)) (first, noticesFirst) =
              (.ok (), (after, noticesAfter)) →
          noticesAfter = noticesFirst ++
              (entities.filter fun entity =>
                !previouslyActiveIds.contains entity.id).map
                (fun entity => .dispatching (directCondition flag entity)) ∧
            ∀ otherId otherFlag,
              otherId ∈ activeIds (database after).insightStates otherFlag ↔
                otherFlag = flag ∧
                    otherId ∈ (entity :: entities).map InsightMatch.id ∨
                  otherId ∈ activeIds (database first).insightStates otherFlag := by
        intro first noticesFirst completes
        rw [Program.run_bind] at completes
        obtain ⟨_, ⟨middle, noticesMiddle⟩, lifted, rest⟩ := resume_eq_ok.mp completes
        obtain ⟨set, rfl⟩ := (Program.run_lift_eq_ok _ _).mp lifted
        obtain ⟨recorded, activeAfter⟩ := inductionHypothesis rest
        refine ⟨recorded, fun otherId otherFlag => ?_⟩
        rw [activeAfter, upsertFlag_run served set]
        simp only [List.map_cons, List.mem_cons]
        split
        · next same => simp [same]
        · next differs =>
          constructor
          · rintro (⟨sameFlag, later⟩ | active)
            · exact .inl ⟨sameFlag, .inr later⟩
            · exact .inr active
          · rintro (⟨sameFlag, sameId | later⟩ | active)
            · exact absurd ⟨sameId, sameFlag⟩ differs
            · exact .inl ⟨sameFlag, later⟩
            · exact .inr active
      simp only [noticedActivateFlags, Program.bind_eq] at completes
      split at completes
      · next fresh =>
        rw [Program.run_bind] at completes
        obtain ⟨_, ⟨first, noticesFirst⟩, dispatched, rest⟩ := resume_eq_ok.mp completes
        obtain ⟨unchanged, rfl⟩ := dispatching_run served dispatched
        obtain ⟨recorded, activeAfter⟩ := activated rest
        rw [unchanged] at activeAfter
        refine ⟨?_, activeAfter⟩
        rw [recorded, List.filter_cons, if_pos fresh, List.map_cons, List.append_assoc,
          List.singleton_append]
      · next known =>
        obtain ⟨recorded, activeAfter⟩ := activated completes
        refine ⟨?_, activeAfter⟩
        rw [recorded, List.filter_cons, if_neg known]

/-! ### What matches -/

/-- The hosts that are found idle are some of the rows of the table. -/
theorem computeIdleHosts_run {state after : σ} {hosts : List Host}
    (completes : (computeIdleHosts none).run machine state = (.ok hosts, after)) :
    (hosts.map Host.id).Nodup := by
  simp only [computeIdleHosts, Program.bind_eq, Program.run_bind] at completes
  obtain ⟨time, started, -, completes⟩ := resume_eq_ok.mp completes
  obtain ⟨candidates, middle, found, completes⟩ := resume_eq_ok.mp completes
  have rows := Except.ok.inj (query_performed served found).1
  split at completes
  · cases completes
    exact List.nodup_nil
  · rw [Program.run_bind] at completes
    obtain ⟨running, last, -, completes⟩ := resume_eq_ok.mp completes
    cases completes
    rw [← rows]
    exact (Table.find_distinct _ _).sublist (List.filter_sublist.map _)

/-- Each orphaned domain is found once. -/
theorem computeOrphanedDomains_run {state after : σ} {domains : List Domain}
    (completes : (computeOrphanedDomains none).run machine state =
      (.ok domains, after)) :
    (domains.map Domain.id).Nodup := by
  simp only [computeOrphanedDomains, Program.bind_eq, Program.run_bind] at completes
  obtain ⟨candidates, middle, found, completes⟩ := resume_eq_ok.mp completes
  have rows := Except.ok.inj (query_performed served found).1
  split at completes
  · cases completes
    exact List.nodup_nil
  · rw [Program.run_bind] at completes
    obtain ⟨hosts, last, -, completes⟩ := resume_eq_ok.mp completes
    cases completes
    rw [← rows]
    exact (Table.find_distinct _ _).sublist (List.filter_sublist.map _)

/-- So is each orphaned host. -/
theorem computeOrphanedHosts_run {state after : σ} {hosts : List Host}
    (completes : (computeOrphanedHosts none).run machine state = (.ok hosts, after)) :
    (hosts.map Host.id).Nodup := by
  simp only [computeOrphanedHosts, Program.bind_eq, Program.run_bind] at completes
  obtain ⟨candidates, middle, found, completes⟩ := resume_eq_ok.mp completes
  have rows := Except.ok.inj (query_performed served found).1
  split at completes
  · cases completes
    exact List.nodup_nil
  · rw [Program.run_bind] at completes
    obtain ⟨domains, last, -, completes⟩ := resume_eq_ok.mp completes
    cases completes
    rw [← rows]
    exact (Table.find_distinct _ _).sublist (List.filter_sublist.map _)

/-- What matches is a set of entities. -/
theorem computeMatches_run {flag : InsightFlag} {state after : σ}
    {entities : List InsightMatch}
    (completes : (computeMatches flag).run machine state = (.ok entities, after)) :
    (entities.map InsightMatch.id).Nodup := by
  cases flag <;>
    simp only [computeMatches, Program.bind_eq, Program.run_bind] at completes <;>
    obtain ⟨found, last, computes, ends⟩ := resume_eq_ok.mp completes <;>
    cases ends <;>
    rw [List.map_map]
  · exact computeIdleHosts_run served computes
  · exact computeOrphanedDomains_run served computes
  · exact computeOrphanedHosts_run served computes

end Runs

/-- The calls that look for matching entities. -/
def Call.OfInsights : Call → Prop
  | .query (.findHealthyHosts _ _) | .query (.findRunningServices _) => True
  | .query (.findHosts _) | .query (.findDomains _) => True
  | .query .findDomainsWithHost | .now => True
  | _ => False

/-- Finding the matches writes nothing. -/
theorem computeMatches_only (flag : InsightFlag) :
    (computeMatches flag).Only Call.OfInsights := by
  cases flag with
  | idleHost =>
      refine Program.Only.bind ?_ fun found => trivial
      apply Program.Only.bind (Program.only_perform trivial)
      intro time
      apply Program.Only.bind (Program.only_perform trivial)
      intro candidates
      split
      · trivial
      · exact Program.Only.bind (Program.only_perform trivial) fun running => trivial
  | orphanedDomain =>
      refine Program.Only.bind ?_ fun found => trivial
      apply Program.Only.bind (Program.only_perform trivial)
      intro candidates
      split
      · trivial
      · exact Program.Only.bind (Program.only_perform trivial) fun hosts => trivial
  | orphanedHost =>
      refine Program.Only.bind ?_ fun found => trivial
      apply Program.Only.bind (Program.only_perform trivial)
      intro candidates
      split
      · trivial
      · exact Program.Only.bind (Program.only_perform trivial) fun domains => trivial

/-! ### One check -/

/-- The conditions that newly matching entities give rise to. -/
def dispatches (flag : InsightFlag) (active : List Nat) (entities : List InsightMatch) :
    List InsightNotice :=
  (entities.filter fun entity => !active.contains entity.id).map fun entity =>
    .dispatching (directCondition flag entity)

/-- What is dispatched depends on the active ids as a set. -/
theorem dispatches_congr {flag : InsightFlag} {active other : List Nat}
    (same : ∀ id, id ∈ active ↔ id ∈ other) (entities : List InsightMatch) :
    dispatches flag active entities = dispatches flag other entities := by
  unfold dispatches
  congr 2
  funext entity
  simp only [List.contains_eq_mem, same]

/-- The flags in the order in which a check evaluates them. -/
def insightFlags : List InsightFlag := [.idleHost, .orphanedDomain, .orphanedHost]

/-- What a check gives notice of, from what was active before and what matches. -/
def checkNotices (active : InsightFlag → List Nat)
    (entities : InsightFlag → List InsightMatch) : List InsightNotice :=
  insightFlags.flatMap fun flag =>
    .matching flag (entities flag) :: dispatches flag (active flag) (entities flag)

/-- The notices of one check. -/
def dailyNotices (machine : Machine Calls JsError σ) (platform : Platform) (state : σ) :
    List InsightNotice :=
  (noticedDailyCheck.run (machine.noting (InsightNotice.code platform))
    (state, [])).2.2

/-- What one completed check does, from the flag table it finds to the one it
leaves. -/
structure CheckEdges (before : Table InsightState) (notices : List InsightNotice)
    (after : Table InsightState) (entities : InsightFlag → List InsightMatch) :
    Prop where
  distinct : ∀ flag, ((entities flag).map InsightMatch.id).Nodup
  notices : notices = checkNotices (activeIds before) entities
  active : ∀ flag entityId, entityId ∈ activeIds after flag ↔
    entityId ∈ (entities flag).map InsightMatch.id
  single : ∀ state ∈ after, ∀ other ∈ after, state.entityId = other.entityId →
    state.flag = other.flag → state = other

section Checks

variable {machine : Machine Calls JsError σ} {database : σ → Database}
  (served : InsightsServed machine database) {platform : Platform}
include served

/-- One flag's part of a check: afterwards it is set for what matched, and the other
flags are as they were. -/
theorem evaluateFlag_run {flag : InsightFlag} {state after : σ}
    {notices noticesAfter : List InsightNotice}
    (completes : (noticedEvaluateFlag flag).run
        (machine.noting (InsightNotice.code platform)) (state, notices) =
      (.ok (), (after, noticesAfter))) :
    ∃ entities : List InsightMatch, (entities.map InsightMatch.id).Nodup ∧
      noticesAfter = notices ++ .matching flag entities ::
        dispatches flag (activeIds (database state).insightStates flag) entities ∧
      ∀ otherId otherFlag,
        otherId ∈ activeIds (database after).insightStates otherFlag ↔
          if otherFlag = flag then otherId ∈ entities.map InsightMatch.id
          else otherId ∈ activeIds (database state).insightStates otherFlag := by
  simp only [noticedEvaluateFlag, Program.bind_eq, Program.run_bind] at completes
  obtain ⟨entities, ⟨computed, _⟩, computing, completes⟩ := resume_eq_ok.mp completes
  obtain ⟨_, ⟨_, _⟩, notified, completes⟩ := resume_eq_ok.mp completes
  obtain ⟨previous, ⟨looked, _⟩, looking, completes⟩ := resume_eq_ok.mp completes
  obtain ⟨_, ⟨activated, _⟩, activates, deactivating⟩ := resume_eq_ok.mp completes
  obtain ⟨computes, rfl⟩ := (Program.run_lift_eq_ok _ _).mp computing
  obtain ⟨announced, rfl⟩ := (Program.run_notify_eq_ok _ _).mp notified
  cases announced
  obtain ⟨looks, rfl⟩ := (Program.run_lift_eq_ok _ _).mp looking
  obtain ⟨rfl, activeThen⟩ := activateFlags_run served activates
  obtain ⟨deactivates, rfl⟩ := (Program.run_lift_eq_ok _ _).mp deactivating
  have activeAfter := deactivateFlags_run served deactivates
  have computedTable := only_insights served (computeMatches_only flag)
    (fun q allows => by cases q <;> first | rfl | cases allows) state
  rw [computes] at computedTable
  obtain ⟨rows, lookedTable⟩ := query_performed served looks
  have lookedSame : (database looked).insightStates = (database state).insightStates :=
    lookedTable.trans computedTable
  have previousIds : previous.map InsightState.entityId =
      activeIds (database state).insightStates flag := by
    rw [← computedTable, activeIds, ← Except.ok.inj rows]
  refine ⟨entities, computeMatches_run served computes, ?_, fun otherId otherFlag => ?_⟩
  · rw [previousIds, List.append_assoc, List.singleton_append]
    rfl
  · rw [activeAfter, activeThen, lookedSame]
    have cleared : otherId ∈ (previous.filter fun state =>
          !(entities.map InsightMatch.id).contains state.entityId).map
            InsightState.entityId ↔
        otherId ∈ activeIds (database state).insightStates flag ∧
          otherId ∉ entities.map InsightMatch.id := by
      rw [← previousIds]
      simp only [List.mem_map, List.mem_filter]
      constructor
      · rintro ⟨row, ⟨member, gone⟩, rfl⟩
        refine ⟨⟨row, member, rfl⟩, ?_⟩
        simpa using gone
      · rintro ⟨⟨row, member, rfl⟩, gone⟩
        refine ⟨row, ⟨member, ?_⟩, rfl⟩
        simpa using gone
    rw [cleared]
    split
    · next same =>
      subst same
      constructor
      · rintro ⟨⟨-, matched⟩ | active, kept⟩
        · exact matched
        · by_contra gone
          exact kept ⟨rfl, active, gone⟩
      · intro matched
        exact ⟨.inl ⟨rfl, matched⟩, fun gone => gone.2.2 matched⟩
    · next differs =>
      constructor
      · rintro ⟨⟨same, -⟩ | active, -⟩
        · exact absurd same differs
        · exact active
      · intro active
        exact ⟨.inr active, fun gone => differs gone.1⟩

/-- One daily check, whatever was active before. -/
theorem dailyCheck_run {state after : σ}
    (completes : (runDailyCheck platform).run machine state = (.ok (), after)) :
    ∃ entities, CheckEdges (database state).insightStates
      (dailyNotices machine platform state) (database after).insightStates entities := by
  have noticed : noticedDailyCheck.run (machine.noting (InsightNotice.code platform))
      (state, []) = (.ok (), (after, dailyNotices machine platform state)) := by
    have same := Program.run_attend machine (InsightNotice.code platform)
      noticedDailyCheck state []
    rw [noticedDailyCheck_attend, completes, Prod.mk.injEq] at same
    exact Prod.ext same.1.symm (Prod.ext same.2.symm rfl)
  simp only [noticedDailyCheck, Program.bind_eq, Program.run_bind] at noticed
  obtain ⟨_, ⟨idled, _⟩, idle, noticed⟩ := resume_eq_ok.mp noticed
  obtain ⟨_, ⟨orphaned, _⟩, domains, hosts⟩ := resume_eq_ok.mp noticed
  obtain ⟨idleHosts, idleDistinct, rfl, idleActive⟩ := evaluateFlag_run served idle
  obtain ⟨orphanedDomains, domainsDistinct, rfl, domainsActive⟩ :=
    evaluateFlag_run served domains
  obtain ⟨orphanedHosts, hostsDistinct, recorded, hostsActive⟩ :=
    evaluateFlag_run served hosts
  exists @InsightFlag.rec (fun _ => List InsightMatch) idleHosts orphanedDomains orphanedHosts
  have untouched : ∀ flag, flag ≠ .idleHost → ∀ id,
      id ∈ activeIds (database idled).insightStates flag ↔
        id ∈ activeIds (database state).insightStates flag := by
    intro flag other id
    rw [idleActive, if_neg other]
  constructor
  · intro flag
    cases flag with
    | idleHost => exact idleDistinct
    | orphanedDomain => exact domainsDistinct
    | orphanedHost => exact hostsDistinct
  · have hostsUntouched : ∀ id,
        id ∈ activeIds (database orphaned).insightStates .orphanedHost ↔
          id ∈ activeIds (database state).insightStates .orphanedHost := by
      intro id
      rw [domainsActive, if_neg (by decide), untouched .orphanedHost (by decide)]
    rw [recorded, dispatches_congr (untouched .orphanedDomain (by decide)),
      dispatches_congr hostsUntouched]
    simp [checkNotices, insightFlags]
  · intro flag entityId
    cases flag with
    | idleHost =>
        rw [hostsActive, if_neg (by decide), domainsActive, if_neg (by decide),
          idleActive, if_pos rfl]
    | orphanedDomain =>
        rw [hostsActive, if_neg (by decide), domainsActive, if_pos rfl]
    | orphanedHost => rw [hostsActive, if_pos rfl]
  · intro first member second otherMember sameId sameFlag
    exact Table.eq_of_index member otherMember rfl
      (congrArg some (Prod.ext sameId.symm sameFlag.symm))

end Checks

/-! ### Any number of checks -/

/-- Completed daily checks, one after another.  Between two of them anything may
change but the flag table. -/
inductive DailyChecks (machine : Machine Calls JsError σ) (database : σ → Database)
    (platform : Platform) : Table InsightState →
      List (List InsightNotice × Table InsightState) → Prop where
  | none (before : Table InsightState) : DailyChecks machine database platform before []
  | next {state after : σ} {checks : List (List InsightNotice × Table InsightState)}
      (completes : (runDailyCheck platform).run machine state = (.ok (), after))
      (later : DailyChecks machine database platform (database after).insightStates
        checks) :
      DailyChecks machine database platform (database state).insightStates
        ((dailyNotices machine platform state, (database after).insightStates) :: checks)

/-- Every check finds the flags as the one before it left them. -/
def EdgeTriggered (before : Table InsightState) :
    List (List InsightNotice × Table InsightState) → Prop
  | [] => True
  | (notices, after) :: checks =>
      (∃ entities, CheckEdges before notices after entities) ∧
        EdgeTriggered after checks

/-- Over any sequence of completed daily checks, a check dispatches one condition for
each entity that matches and was not active, and leaves active what matches. -/
theorem dailyChecks_edgeTriggered {machine : Machine Calls JsError σ}
    {database : σ → Database} (served : InsightsServed machine database)
    {platform : Platform} {before : Table InsightState}
    {checks : List (List InsightNotice × Table InsightState)}
    (runs : DailyChecks machine database platform before checks) :
    EdgeTriggered before checks := by
  induction runs with
  | none before => trivial
  | next completes later inductionHypothesis =>
      exact ⟨dailyCheck_run served completes, inductionHypothesis⟩

/-- The store of the model serves the insights. -/
theorem insightsServed_machine (surroundings : Surroundings) :
    InsightsServed surroundings.machine id where
  query _ _ := .inr ⟨rfl, rfl⟩
  other call _ isQuery := by
    cases call with
    | query q => exact absurd rfl (isQuery q)
    | _ => rfl

/-- A host that has been idle for two days, with no domain. -/
def idleDatabase : Database :=
  { (default : Database) with
    hosts := Table.single
      { id := 2
        orgId := 6
        name := "web-1"
        ipAddress := "10.0.0.2"
        sshPort := 22
        sshUser := "deploy"
        sshKeyEncrypted := "key"
        status := .healthy
        lastCheckedAt := none
        setupVerifiedAt := some 0
        createdAt := 0 }
    clock := 48 * 60 * 60 * 1000 }

/-- The database after a daily check. -/
def checkedDaily (db : Database) : Database :=
  ((runDailyCheck Platform.transparent).run Surroundings.quiet.machine db).2

theorem dailyChecks_edgeTriggered_idle :
    EdgeTriggered idleDatabase.insightStates
      [(dailyNotices Surroundings.quiet.machine Platform.transparent idleDatabase,
          (checkedDaily idleDatabase).insightStates),
        (dailyNotices Surroundings.quiet.machine Platform.transparent
            (checkedDaily idleDatabase),
          (checkedDaily (checkedDaily idleDatabase)).insightStates)] := by
  have first : (runDailyCheck Platform.transparent).run Surroundings.quiet.machine
      idleDatabase = (.ok (), checkedDaily idleDatabase) := Prod.ext rfl rfl
  have second : (runDailyCheck Platform.transparent).run Surroundings.quiet.machine
      (checkedDaily idleDatabase) = (.ok (), checkedDaily (checkedDaily idleDatabase)) :=
    Prod.ext rfl rfl
  exact dailyChecks_edgeTriggered (insightsServed_machine Surroundings.quiet)
    (.next first (.next second (.none _)))

/-- The first check finds the host idle and without a domain, the second reports
nothing new. -/
example : dailyNotices Surroundings.quiet.machine Platform.transparent
      (checkedDaily idleDatabase) =
    [.matching .idleHost (idleDatabase.hosts.rows.map idleHostMatch),
      .matching .orphanedDomain [],
      .matching .orphanedHost (idleDatabase.hosts.rows.map orphanedHostMatch)] := by
  decide +kernel

end ServersManager
