/-
Module: ServersManager.Removal
Purpose: Removing hosts and domains while checks of them are under way: removed rows
  stay away as long as none is removed between being loaded and being saved by a check.
Trusted boundary: none
Main exports:
  EntityJob, RemovalHistory, removalAnswers, SavesUnremoved, removed_stay_removed,
  check_restores_removed_host
-/
import ServersManager.DomainCheck
import ServersManager.Library.Pool

namespace ServersManager

open Library

/-! ### The jobs and their surroundings -/

inductive EntityJob where
  | checkHost (hostId : Nat)
  | checkDomain (domainId : Nat)
  | removeHost (orgId id : Nat)
  | removeDomain (orgId id : Nat)

def EntityJob.code (platform : Platform) : EntityJob → Job Unit
  | .checkHost hostId => ServersManager.checkHost platform hostId
  | .checkDomain domainId => ServersManager.checkDomain platform domainId
  | .removeHost orgId id => ServersManager.removeHost orgId id
  | .removeDomain orgId id => ServersManager.removeDomain orgId id

/-- Any call may fail; a query that does not is performed. -/
def databaseAnswers : Semantics Calls JsError Database :=
  fun call db reply after => Answered (fun _ => True) db call reply after

/-- What is checked and removed. -/
inductive Entity where
  | host (id : Nat)
  | domain (id : Nat)
deriving Repr, Inhabited, DecidableEq

/-- The entity that a job asks for. -/
def Call.seeks : Call → Option Entity
  | .query (.findHost id) | .query (.findHostForOrg _ id) => some (.host id)
  | .query (.findDomain id) | .query (.findDomainForOrg _ id) => some (.domain id)
  | _ => none

/-- The entity that a job has been given. -/
def Call.finds : (call : Call) → Except JsError call.Reply → Option Entity
  | .query (.findHost _), .ok (some host) => some (.host host.id)
  | .query (.findHostForOrg _ _), .ok (some host) => some (.host host.id)
  | .query (.findDomain _), .ok (some domain) => some (.domain domain.id)
  | .query (.findDomainForOrg _ _), .ok (some domain) => some (.domain domain.id)
  | _, _ => none

def Call.saves : Call → Option Entity
  | .query (.saveHost host) => some (.host host.id)
  | .query (.saveDomain domain) => some (.domain domain.id)
  | _ => none

def Call.removes : Call → Option Entity
  | .query (.removeHost host) => some (.host host.id)
  | .query (.removeDomain domain) => some (.domain domain.id)
  | _ => none

/-- What a call has removed. -/
def Call.removed (call : Call) : Except JsError call.Reply → List Entity
  | .ok _ => call.removes.toList
  | .error _ => []

/-- The database, and what has been removed since each job asked for its entity. -/
structure RemovalHistory (ι : Type) where
  database : Database
  removedSince : ι → List Entity

variable {ι : Type} [DecidableEq ι]

def RemovalHistory.since (history : RemovalHistory ι) (thread : ι) (call : Call)
    (reply : Except JsError call.Reply) (other : ι) : List Entity :=
  (if other = thread ∧ call.seeks.isSome then [] else history.removedSince other) ++
    call.removed reply

def removalAnswers (thread : ι) : Semantics Calls JsError (RemovalHistory ι) :=
  fun call history reply after =>
    databaseAnswers call history.database reply after.database ∧
      after.removedSince = history.since thread call reply

/-- What a job saves has not been removed since the job asked for it. -/
def SavesUnremoved (thread : ι) (call : Call) (history : RemovalHistory ι) : Prop :=
  ∀ entity ∈ call.saves, entity ∉ history.removedSince thread

/-! ### Rows under calls -/

def Database.Has (db : Database) : Entity → Prop
  | .host id => (db.hosts.byId id).isSome
  | .domain id => (db.domains.byId id).isSome

/-- The primary key has been handed out. -/
def Database.Used (db : Database) : Entity → Prop
  | .host id => id < db.hosts.nextId
  | .domain id => id < db.domains.nextId

/-- There was a row, and there is none. -/
def Database.Lost (db : Database) : Entity → Prop
  | .host id => db.hosts.Gone id
  | .domain id => db.domains.Gone id

theorem Database.Has.used {db : Database} {entity : Entity} (has : db.Has entity) :
    db.Used entity := by
  cases entity with
  | host id => exact Table.used_of_byId (Option.isSome_iff_exists.mp has).choose_spec
  | domain id => exact Table.used_of_byId (Option.isSome_iff_exists.mp has).choose_spec

section Queries

variable {db : Database} {q : Query} {id : Nat}

/-- A removed host stays away, unless a host without a row is saved. -/
theorem perform_hosts_gone (gone : db.hosts.Gone id)
    (present : ∀ entity ∈ (Call.query q).saves, db.Has entity) :
    (db.perform q).2.hosts.Gone id := by
  cases q with
  | insertHost host =>
      apply Database.answer_keeps (·.hosts.Gone id) gone
      rintro ⟨row, hosts⟩ inserted
      exact gone.insert rfl inserted
  | saveHost host =>
      apply Database.answer_keeps (·.hosts.Gone id) gone
      intro hosts saved
      apply gone.save saved
      rintro rfl
      have has : (db.hosts.byId host.id).isSome := present _ rfl
      rw [show db.hosts.byId host.id = none from gone.1] at has
      cases has
  | removeHost host => exact gone.removeRows _
  | _ =>
      rw [Database.perform_hosts rfl]
      exact gone

theorem perform_domains_gone (gone : db.domains.Gone id)
    (present : ∀ entity ∈ (Call.query q).saves, db.Has entity) :
    (db.perform q).2.domains.Gone id := by
  cases q with
  | insertDomain domain =>
      apply Database.answer_keeps (·.domains.Gone id) gone
      rintro ⟨row, domains⟩ inserted
      exact gone.insert rfl inserted
  | saveDomain domain =>
      apply Database.answer_keeps (·.domains.Gone id) gone
      intro domains saved
      apply gone.save saved
      rintro rfl
      have has : (db.domains.byId domain.id).isSome := present _ rfl
      rw [show db.domains.byId domain.id = none from gone.1] at has
      cases has
  | removeDomain domain => exact gone.removeRows _
  | removeHost host =>
      exact gone.mapRows (Domain.unlink host.id) (Domain.unlink_id host.id)
        fun domain => .inr (Domain.unlink_index host.id domain)
  | _ =>
      rw [Database.perform_domains rfl]
      exact gone

/-- Only a removal takes a row away. -/
theorem perform_hosts_has (has : db.Has (.host id)) :
    (db.perform q).2.Has (.host id) ∨ (Call.query q).removes = some (.host id) := by
  cases q with
  | insertHost host =>
      refine .inl (Database.answer_keeps (fun after => after.Has (.host id)) has ?_)
      rintro ⟨row, hosts⟩ inserted
      exact Table.isSome_byId_save (Table.insert_eq_some.mp inserted).2 has
  | saveHost host =>
      refine .inl (Database.answer_keeps (fun after => after.Has (.host id)) has ?_)
      intro hosts saved
      exact Table.isSome_byId_save saved has
  | removeHost host =>
      by_cases same : host.id = id
      · exact .inr (by rw [Call.removes, same])
      · refine .inl (Table.isSome_byId_removeRows has fun row sameId => ?_)
        exact beq_eq_false_iff_ne.mpr fun wanted => same (wanted.symm.trans sameId)
  | _ =>
      refine .inl ?_
      rw [Database.Has, Database.perform_hosts rfl]
      exact has

theorem perform_domains_has (has : db.Has (.domain id)) :
    (db.perform q).2.Has (.domain id) ∨ (Call.query q).removes = some (.domain id) := by
  cases q with
  | insertDomain domain =>
      refine .inl (Database.answer_keeps (fun after => after.Has (.domain id)) has ?_)
      rintro ⟨row, domains⟩ inserted
      exact Table.isSome_byId_save (Table.insert_eq_some.mp inserted).2 has
  | saveDomain domain =>
      refine .inl (Database.answer_keeps (fun after => after.Has (.domain id)) has ?_)
      intro domains saved
      exact Table.isSome_byId_save saved has
  | removeDomain domain =>
      by_cases same : domain.id = id
      · exact .inr (by rw [Call.removes, same])
      · refine .inl (Table.isSome_byId_removeRows has fun row sameId => ?_)
        exact beq_eq_false_iff_ne.mpr fun wanted => same (wanted.symm.trans sameId)
  | removeHost host =>
      exact .inl (Table.isSome_byId_mapRows (Domain.unlink_id host.id)
        (fun domain => .inr (Domain.unlink_index host.id domain)) has)
  | _ =>
      refine .inl ?_
      rw [Database.Has, Database.perform_domains rfl]
      exact has

/-- Primary keys are never handed back. -/
theorem perform_hosts_nextId (db : Database) (q : Query) :
    db.hosts.nextId ≤ (db.perform q).2.hosts.nextId := by
  cases q with
  | insertHost host =>
      apply Database.answer_keeps (db.hosts.nextId ≤ ·.hosts.nextId) le_rfl
      rintro ⟨row, hosts⟩ inserted
      exact Table.nextId_le_save (Table.insert_eq_some.mp inserted).2
  | saveHost host =>
      apply Database.answer_keeps (db.hosts.nextId ≤ ·.hosts.nextId) le_rfl
      intro hosts saved
      exact Table.nextId_le_save saved
  | removeHost host => exact le_rfl
  | _ => rw [Database.perform_hosts rfl]

theorem perform_domains_nextId (db : Database) (q : Query) :
    db.domains.nextId ≤ (db.perform q).2.domains.nextId := by
  cases q with
  | insertDomain domain =>
      apply Database.answer_keeps (db.domains.nextId ≤ ·.domains.nextId) le_rfl
      rintro ⟨row, domains⟩ inserted
      exact Table.nextId_le_save (Table.insert_eq_some.mp inserted).2
  | saveDomain domain =>
      apply Database.answer_keeps (db.domains.nextId ≤ ·.domains.nextId) le_rfl
      intro domains saved
      exact Table.nextId_le_save saved
  | removeDomain domain => exact le_rfl
  | removeHost host => exact le_rfl
  | _ => rw [Database.perform_domains rfl]

end Queries

section Calls

variable {db after : Database} {call : Call} {reply : Except JsError call.Reply}
  {entity : Entity}

theorem answered_lost (lost : db.Lost entity)
    (present : ∀ saved ∈ call.saves, db.Has saved)
    (answered : databaseAnswers call db reply after) : after.Lost entity := by
  cases call with
  | query q =>
      rcases answered with ⟨error, -, -, rfl⟩ | ⟨-, rfl⟩
      · exact lost
      cases entity with
      | host id => exact perform_hosts_gone lost present
      | domain id => exact perform_domains_gone lost present
  | _ => exact answered.2 ▸ lost

/-- A row is there after a call, unless the call has removed it. -/
theorem answered_has (has : db.Has entity)
    (answered : databaseAnswers call db reply after) :
    after.Has entity ∨ entity ∈ call.removed reply := by
  cases call with
  | query q =>
      rcases answered with ⟨error, -, -, rfl⟩ | ⟨replied, rfl⟩
      · exact .inl has
      have kept : (db.perform q).2.Has entity ∨ (Call.query q).removes = some entity := by
        cases entity with
        | host id => exact perform_hosts_has has
        | domain id => exact perform_domains_has has
      refine kept.imp_right fun removes => ?_
      -- A removal of rows does not fail.
      have returns : ∃ value, reply = .ok value := by
        subst replied
        cases q <;> first | exact ⟨_, rfl⟩ | cases removes
      obtain ⟨value, rfl⟩ := returns
      rw [Call.removed, removes]
      exact .head _
  | _ => exact .inl (answered.2 ▸ has)

theorem answered_used (used : db.Used entity)
    (answered : databaseAnswers call db reply after) : after.Used entity := by
  cases call with
  | query q =>
      rcases answered with ⟨error, -, -, rfl⟩ | ⟨-, rfl⟩
      · exact used
      cases entity with
      | host id => exact Nat.lt_of_lt_of_le used (perform_hosts_nextId db q)
      | domain id => exact Nat.lt_of_lt_of_le used (perform_domains_nextId db q)
  | _ => exact answered.2 ▸ used

/-- What a call returns is what the query performed returns. -/
theorem answered_ok {q : Query} {value : q.Reply}
    (answered : databaseAnswers (Call.query q) db (.ok value) after) :
    db.perform q = (.ok value, after) := by
  rcases answered with ⟨error, -, absent, -⟩ | ⟨replied, rfl⟩
  · cases absent
  · exact Prod.ext replied.symm rfl

/-- What a job is given is what it asked for, and has a row. -/
theorem answered_finds (found : call.finds reply = some entity)
    (answered : databaseAnswers call db reply after) :
    call.seeks = some entity ∧ after.Has entity := by
  cases call with
  | query q =>
      rcases reply with error | given
      · cases q <;> cases found
      have performed := answered_ok answered
      cases q with
      | findHost id =>
          rcases given with - | host <;> cases found
          obtain ⟨row, rfl⟩ : db.hosts.byId id = some host ∧ db = after := by
            simpa [Database.perform] using performed
          obtain ⟨member, rfl⟩ := Table.byId_eq_some.mp row
          exact ⟨rfl, Table.isSome_byId.mpr ⟨host, member, rfl⟩⟩
      | findDomain id =>
          rcases given with - | domain <;> cases found
          obtain ⟨row, rfl⟩ : db.domains.byId id = some domain ∧ db = after := by
            simpa [Database.perform] using performed
          obtain ⟨member, rfl⟩ := Table.byId_eq_some.mp row
          exact ⟨rfl, Table.isSome_byId.mpr ⟨domain, member, rfl⟩⟩
      | findHostForOrg orgId id =>
          rcases given with - | host <;> cases found
          obtain ⟨row, rfl⟩ : (db.hosts.findOne fun host =>
              host.id == id && host.orgId == orgId) = some host ∧ db = after := by
            simpa [Database.perform] using performed
          obtain ⟨member, matched⟩ := Table.findOne_mem row
          obtain rfl : host.id = id := beq_iff_eq.mp (Bool.and_eq_true_iff.mp matched).1
          exact ⟨rfl, Table.isSome_byId.mpr ⟨host, member, rfl⟩⟩
      | findDomainForOrg orgId id =>
          rcases given with - | domain <;> cases found
          obtain ⟨row, rfl⟩ : (db.domains.findOne fun domain =>
              domain.id == id && domain.orgId == orgId) = some domain ∧ db = after := by
            simpa [Database.perform] using performed
          obtain ⟨member, matched⟩ := Table.findOne_mem row
          obtain rfl : domain.id = id := beq_iff_eq.mp (Bool.and_eq_true_iff.mp matched).1
          exact ⟨rfl, Table.isSome_byId.mpr ⟨domain, member, rfl⟩⟩
      | _ => cases found
  | _ => cases found

theorem answered_removes (used : db.Used entity) (removes : call.removes = some entity)
    {value : call.Reply} (answered : databaseAnswers call db (.ok value) after) :
    after.Lost entity := by
  cases call with
  | query q =>
      cases q with
      | removeHost row =>
          cases removes
          rcases answered with ⟨error, -, absent, -⟩ | ⟨-, rfl⟩
          · cases absent
          · exact Table.gone_of_removeRows used fun other same => beq_iff_eq.mpr same
      | removeDomain row =>
          cases removes
          rcases answered with ⟨error, -, absent, -⟩ | ⟨-, rfl⟩
          · cases absent
          · exact Table.gone_of_removeRows used fun other same => beq_iff_eq.mpr same
      | _ => cases removes
  | _ => cases removes

end Calls

/-! ### The order of a job's calls -/

/-- The calls of a check other than loading and saving its entity. -/
def Call.OfCheck (call : Call) : Prop :=
  call.OfSync ∨ call.OfDomainCheck

theorem Call.OfCheck.seeks {call : Call} (ofCheck : call.OfCheck) : call.seeks = none := by
  cases call with
  | query q => cases q <;> first | rfl | exact (ofCheck.elim id id).elim
  | _ => rfl

theorem Call.OfCheck.saves {call : Call} (ofCheck : call.OfCheck) : call.saves = none := by
  cases call with
  | query q => cases q <;> first | rfl | exact (ofCheck.elim id id).elim
  | _ => rfl

/-- How far a job has come. -/
inductive EntityPhase where
  | check (entity : Entity)
  | checking (entity : Entity)
  | checked
  | removal (entity : Entity)
  | removing (entity : Entity)
  | removed (entity : Entity)
  | failed

def EntityPhase.Allows : EntityPhase → Call → Prop
  | .check entity, call | .removal entity, call => call.seeks = some entity
  | .checking entity, call => call.saves = some entity ∨ call.OfCheck
  | .checked, call => call.OfCheck
  | .removing entity, call => call.removes = some entity
  | .removed _, _ | .failed, _ => False

def EntityPhase.next (phase : EntityPhase) (call : Call)
    (reply : Except JsError call.Reply) : EntityPhase :=
  match phase with
  | .check entity => if (call.finds reply).isSome then .checking entity else .checked
  | .checking entity => if call.saves.isSome then .checked else .checking entity
  | .removal entity => if (call.finds reply).isSome then .removing entity else .failed
  | .removing entity =>
      match reply with
      | .ok _ => .removed entity
      | .error _ => .failed
  | phase => phase

/-- A job is given what it asks for. -/
def entityProtocol : Protocol Calls JsError EntityPhase where
  Allows := EntityPhase.Allows
  Moves phase call reply after := after = phase.next call reply ∧
    ∀ entity, call.finds reply = some entity → call.seeks = some entity

/-- The phase in which a job starts. -/
def EntityJob.begins : EntityJob → EntityPhase
  | .checkHost id => .check (.host id)
  | .checkDomain id => .check (.domain id)
  | .removeHost _ id => .removal (.host id)
  | .removeDomain _ id => .removal (.domain id)

/-- The phase in which a removal has returned. -/
def EntityJob.Completed (outcome : Except JsError Unit) (phase : EntityPhase) :
    EntityJob → Prop
  | .removeHost _ id => outcome = .ok () → phase = .removed (.host id)
  | .removeDomain _ id => outcome = .ok () → phase = .removed (.domain id)
  | _ => True

section Follows

variable {α : Type} {post : Except JsError α → EntityPhase → Prop} {entity : Entity}

theorem checking_follows {program : Job α} (only : program.Only Call.OfCheck)
    (ends : ∀ outcome, post outcome (.checking entity)) :
    program.Follows entityProtocol post (.checking entity) := by
  apply only.follows _ _ (Program.ends_of_all ends)
  · exact fun call ofCheck => .inr ofCheck
  · rintro call reply after ofCheck ⟨rfl, -⟩
    exact if_neg (by rw [Call.OfCheck.saves ofCheck]; exact Bool.false_ne_true)

theorem checked_follows {program : Job α} (only : program.Only Call.OfCheck)
    (ends : ∀ outcome, post outcome .checked) :
    program.Follows entityProtocol post .checked := by
  apply only.follows _ _ (Program.ends_of_all ends)
  · exact fun call ofCheck => ofCheck
  · rintro call reply after ofCheck ⟨rfl, -⟩
    rfl

/-- A quiet part of a check, and what comes after it. -/
theorem checking_bind_follows {β : Type} {program : Job β} {rest : β → Job Unit}
    (only : program.Only Call.OfCheck)
    (follows : ∀ value, (rest value).Follows entityProtocol (fun _ _ => True)
      (.checking entity)) :
    (program.bind rest).Follows entityProtocol (fun _ _ => True) (.checking entity) := by
  refine (Program.follows_bind _ _ _ _ _).mpr (checking_follows only fun outcome => ?_)
  cases outcome with
  | ok value => exact follows value
  | error error => trivial

end Follows

/-- A check saves what it has loaded, and nothing else that can be removed. -/
theorem checkHost_entity_follows (platform : Platform) (hostId : Nat) :
    (checkHost platform hostId).Follows entityProtocol (fun _ _ => True)
      (.check (.host hostId)) := by
  refine (Program.follows_perform_bind _).mpr ⟨rfl, ?_, fun _ _ _ => trivial⟩
  rintro found after ⟨rfl, given⟩
  cases found with
  | none => trivial
  | some host =>
  have same : some (Entity.host hostId) = some (.host host.id) := given _ rfl
  refine checking_bind_follows
    ((runCheck_only _ _).mono fun call ofSession => .inl ofSession.ofSync) fun result => ?_
  refine checking_bind_follows (Program.only_perform (.inl trivial)) fun log => ?_
  refine checking_bind_follows (Program.only_perform (.inl trivial)) fun checkedAt => ?_
  refine (Program.follows_perform_bind _).mpr ⟨.inl same.symm, ?_, fun _ _ _ => trivial⟩
  rintro saved after ⟨rfl, -⟩
  apply checked_follows _ fun _ => trivial
  apply Program.Only.bind
  · exact (evaluateTransition_only _ _).mono fun call ofAlerts => .inl ofAlerts.ofSync
  · exact fun evaluated => (syncResults_only _ _ _).mono fun call => .inl

theorem checkDomain_follows (platform : Platform) (domainId : Nat) :
    (checkDomain platform domainId).Follows entityProtocol (fun _ _ => True)
      (.check (.domain domainId)) := by
  refine (Program.follows_perform_bind _).mpr ⟨rfl, ?_, fun _ _ _ => trivial⟩
  rintro found after ⟨rfl, given⟩
  cases found with
  | none => trivial
  | some domain =>
  have same : some (Entity.domain domainId) = some (.domain domain.id) := given _ rfl
  have lookup : ∀ call : Call, call.OfLookup → call.OfCheck := by
    intro call ofLookup
    cases call <;> first | exact .inr trivial | cases ofLookup
  refine checking_bind_follows ((performDnsCheck_only _).mono lookup) fun dnsResult => ?_
  refine checking_bind_follows (Program.only_perform (.inr trivial)) fun dnsLog => ?_
  refine checking_bind_follows ((performWhoisLookup_only _ _).mono lookup)
    fun whoisResult => ?_
  refine checking_bind_follows (Program.only_perform (.inr trivial)) fun whoisLog => ?_
  refine checking_bind_follows (Program.only_perform (.inr trivial)) fun checkedAt => ?_
  refine (Program.follows_perform_bind _).mpr ⟨.inl same.symm, ?_, fun _ _ _ => trivial⟩
  rintro saved after ⟨rfl, -⟩
  exact checked_follows ((checkCertificate_only _ _ _).mono fun call => .inr)
    fun _ => trivial

theorem removeHost_follows (orgId id : Nat) :
    (removeHost orgId id).Follows entityProtocol
      (fun outcome phase => outcome = .ok () → phase = .removed (.host id))
      (.removal (.host id)) := by
  refine (Program.follows_bind _ _ _ _ _).mpr
    (Program.follows_perform_bind _ |>.mpr ⟨rfl, ?_, ?_⟩)
  · rintro found after ⟨rfl, given⟩
    cases found with
    | none => exact fun absent => nomatch absent
    | some host =>
        have same : some (Entity.host id) = some (.host host.id) := given _ rfl
        refine (Program.follows_perform _ _ _ _).mpr ⟨same.symm, ?_⟩
        rintro reply after ⟨rfl, -⟩ completed
        rw [completed]
        rfl
  · exact fun error after moves absent => nomatch absent

theorem removeDomain_follows (orgId id : Nat) :
    (removeDomain orgId id).Follows entityProtocol
      (fun outcome phase => outcome = .ok () → phase = .removed (.domain id))
      (.removal (.domain id)) := by
  refine (Program.follows_bind _ _ _ _ _).mpr
    (Program.follows_perform_bind _ |>.mpr ⟨rfl, ?_, ?_⟩)
  · rintro found after ⟨rfl, given⟩
    cases found with
    | none => exact fun absent => nomatch absent
    | some domain =>
        have same : some (Entity.domain id) = some (.domain domain.id) := given _ rfl
        refine (Program.follows_perform _ _ _ _).mpr ⟨same.symm, ?_⟩
        rintro reply after ⟨rfl, -⟩ completed
        rw [completed]
        rfl
  · exact fun error after moves absent => nomatch absent

theorem EntityJob.code_follows (platform : Platform) (job : EntityJob) :
    (job.code platform).Follows entityProtocol
      (fun outcome phase => job.Completed outcome phase) job.begins := by
  cases job with
  | checkHost hostId => exact checkHost_entity_follows platform hostId
  | checkDomain domainId => exact checkDomain_follows platform domainId
  | removeHost orgId id => exact removeHost_follows orgId id
  | removeDomain orgId id => exact removeDomain_follows orgId id

/-! ### What the phases say about the tables -/

/-- What a check holds has its row, unless it has been removed in the meantime. -/
def EntityPhase.Fits (removedSince : List Entity) (db : Database) : EntityPhase → Prop
  | .checking entity => db.Has entity ∨ entity ∈ removedSince
  | .removing entity => db.Used entity
  | .removed entity => db.Lost entity
  | _ => True

section Steps

variable {history after : RemovalHistory ι} {thread : ι} {call : Call}
  {reply : Except JsError call.Reply} {phase : EntityPhase}

omit [DecidableEq ι] in
/-- A job saves only what still has its row. -/
theorem saves_has (fits : phase.Fits (history.removedSince thread) history.database)
    (allowed : phase.Allows call) (unremoved : SavesUnremoved thread call history) :
    ∀ entity ∈ call.saves, history.database.Has entity := by
  intro entity saves
  have seeksNothing : call.seeks = none := by
    cases call with
    | query q => cases q <;> first | rfl | cases saves
    | _ => rfl
  have removesNothing : call.removes = none := by
    cases call with
    | query q => cases q <;> first | rfl | cases saves
    | _ => rfl
  cases phase with
  | checking checkedEntity =>
      rcases allowed with same | ofCheck
      · obtain rfl : entity = checkedEntity := Option.some.inj (saves.symm.trans same)
        exact fits.resolve_right (unremoved entity saves)
      · cases (Call.OfCheck.saves ofCheck).symm.trans saves
  | checked => cases (Call.OfCheck.saves allowed).symm.trans saves
  | check sought => cases seeksNothing.symm.trans allowed
  | removal sought => cases seeksNothing.symm.trans allowed
  | removing removed => cases removesNothing.symm.trans allowed
  | removed removed => cases allowed
  | failed => cases allowed

/-- What a phase says stays true while other jobs make their calls. -/
theorem EntityPhase.Fits.stable {other : ι}
    (fits : phase.Fits (history.removedSince other) history.database)
    (differs : other ≠ thread) (present : ∀ saved ∈ call.saves, history.database.Has saved)
    (answered : removalAnswers thread call history reply after) :
    phase.Fits (after.removedSince other) after.database := by
  have since : after.removedSince other =
      history.removedSince other ++ call.removed reply := by
    rw [answered.2, RemovalHistory.since, if_neg fun both => differs both.1]
  rw [since]
  cases phase with
  | checking entity =>
      rcases fits with has | removed
      · exact (answered_has has answered.1).imp_right (List.mem_append_right _)
      · exact .inr (List.mem_append_left _ removed)
  | removing entity => exact answered_used fits answered.1
  | removed entity => exact answered_lost fits present answered.1
  | _ => trivial

/-- A job's own call takes it to a phase that fits. -/
theorem EntityPhase.fits_next
    (fits : phase.Fits (history.removedSince thread) history.database)
    (allowed : phase.Allows call)
    (answered : removalAnswers thread call history reply after) :
    (phase.next call reply).Fits (after.removedSince thread) after.database := by
  cases phase with
  | check entity =>
      change EntityPhase.Fits _ _ (ite _ _ _)
      split
      · next found =>
        obtain ⟨given, found⟩ := Option.isSome_iff_exists.mp found
        obtain ⟨sought, has⟩ := answered_finds found answered.1
        obtain rfl : entity = given := Option.some.inj (allowed.symm.trans sought)
        exact .inl has
      · trivial
  | removal entity =>
      change EntityPhase.Fits _ _ (ite _ _ _)
      split
      · next found =>
        obtain ⟨given, found⟩ := Option.isSome_iff_exists.mp found
        obtain ⟨sought, has⟩ := answered_finds found answered.1
        obtain rfl : entity = given := Option.some.inj (allowed.symm.trans sought)
        exact has.used
      · trivial
  | checking entity =>
      change EntityPhase.Fits _ _ (ite _ _ _)
      split
      · trivial
      · next savesNothing =>
        have ofCheck : call.OfCheck := allowed.resolve_left fun saves =>
          savesNothing (by rw [saves]; rfl)
        have since : after.removedSince thread =
            history.removedSince thread ++ call.removed reply := by
          rw [answered.2, RemovalHistory.since, if_neg]
          rintro ⟨-, seeks⟩
          rw [ofCheck.seeks] at seeks
          cases seeks
        rw [since]
        rcases fits with has | removed
        · exact (answered_has has answered.1).imp_right (List.mem_append_right _)
        · exact .inr (List.mem_append_left _ removed)
  | removing entity =>
      cases reply with
      | error error => trivial
      | ok value => exact answered_removes fits allowed answered.1
  | _ => first | trivial | cases allowed

end Steps

/-! ### Any interleaving -/

/-- Checks and removals, none of which has started. -/
def entityPool (platform : Platform) (jobs : ι → EntityJob) (db : Database) :
    Pool Calls JsError ι Unit (RemovalHistory ι) where
  threads thread := (jobs thread).code platform
  store :=
    { database := db
      removedSince := fun _ => [] }

/-- Every interleaving in which no entity is removed between being loaded and being
saved by a check. -/
def unremovedAnswers : ι → Semantics Calls JsError (RemovalHistory ι) :=
  Pool.guarded SavesUnremoved removalAnswers

theorem fits_keeps :
    Pool.Keeps (fun _ : ι => entityProtocol) unremovedAnswers fun phases history =>
      ∀ thread, (phases thread).Fits (history.removedSince thread) history.database := by
  rintro phases history thread call reply after fits allowed ⟨unremoved, answered⟩
  refine ⟨_, ⟨rfl, fun entity found => (answered_finds found answered.1).1⟩,
    fun other => ?_⟩
  by_cases same : other = thread
  · subst same
    rw [Function.update_self]
    exact EntityPhase.fits_next (fits other) allowed answered
  · rw [Function.update_of_ne same]
    exact (fits other).stable same (saves_has (fits thread) allowed unremoved) answered

/-- Removed hosts and domains stay removed, as long as none is removed between being
loaded and being saved by a check. -/
theorem removed_stay_removed (platform : Platform) (jobs : ι → EntityJob) (db : Database)
    {pool : Pool Calls JsError ι Unit (RemovalHistory ι)}
    (reaches : Pool.Reaches unremovedAnswers (entityPool platform jobs db) pool) :
    (∀ thread orgId id, jobs thread = .removeHost orgId id →
      pool.Ended thread (.ok ()) → pool.store.database.hosts.byId id = none) ∧
    ∀ thread orgId id, jobs thread = .removeDomain orgId id →
      pool.Ended thread (.ok ()) → pool.store.database.domains.byId id = none := by
  have starts : (entityPool platform jobs db).Follows (fun _ => entityProtocol)
      (fun thread outcome phase => (jobs thread).Completed outcome phase)
      fun thread => (jobs thread).begins :=
    fun thread => (jobs thread).code_follows platform
  have fits : ∀ thread, (jobs thread).begins.Fits [] db := by
    intro thread
    cases jobs thread <;> trivial
  obtain ⟨phases, follows, fitsAfter⟩ := reaches.invariant fits_keeps starts fits
  constructor
  · intro thread orgId id job ended
    have completed := follows.ended ended
    have removed := fitsAfter thread
    simp only [job, EntityJob.Completed] at completed
    rw [completed trivial] at removed
    exact removed.1
  · intro thread orgId id job ended
    have completed := follows.ended ended
    have removed := fitsAfter thread
    simp only [job, EntityJob.Completed] at completed
    rw [completed trivial] at removed
    exact removed.1

/-- A check of a host and its removal. -/
def checkAndRemove : Bool → EntityJob
  | false => .checkHost 2
  | true => .removeHost 6 2

def checkAndRemovePool : Pool Calls JsError Bool Unit (RemovalHistory Bool) :=
  entityPool Platform.transparent checkAndRemove registeredDatabase

def removalMachine (surroundings : Surroundings) (thread : ι) :
    Machine Calls JsError (RemovalHistory ι) :=
  fun (call : Call) history =>
    ((surroundings.answer history.database call).1,
      { database := (surroundings.answer history.database call).2
        removedSince := history.since thread call
          (surroundings.answer history.database call).1 })

theorem removalMachine_answers (surroundings : Surroundings) (thread : ι) (call : Call)
    (history : RemovalHistory ι) :
    removalAnswers thread call history (removalMachine surroundings thread call history).1
      (removalMachine surroundings thread call history).2 :=
  ⟨surroundings.answered (fun _ _ => trivial) history.database call, rfl⟩

/-- The removal finds the host while it is being checked, and removes it once the check
has saved it. -/
theorem removed_stay_removed_host :
    ∃ pool, Pool.Reaches unremovedAnswers checkAndRemovePool pool ∧
      pool.store.removedSince false = [.host 2] ∧ pool.Ended true (.ok ()) ∧
        pool.store.database.hosts.byId 2 = none := by
  let machine := removalMachine Surroundings.quiet (ι := Bool)
  have starts : Pool.Reaches unremovedAnswers checkAndRemovePool checkAndRemovePool :=
    .refl
  have answers : ∀ thread call history, SavesUnremoved thread call history →
      unremovedAnswers thread call history (machine thread call history).1
        (machine thread call history).2 :=
    fun thread call history unremoved =>
      ⟨unremoved, removalMachine_answers Surroundings.quiet thread call history⟩
  have savesNothing : ∀ (thread : Bool) (call : Call) history, call.saves = none →
      SavesUnremoved thread call history := by
    intro thread call history none entity saves
    cases none.symm.trans saves
  have loaded := starts.answer false (machine false) rfl
    (answers _ _ _ (savesNothing _ _ _ rfl))
  have connected := loaded.answer false (machine false) rfl
    (answers _ _ _ (savesNothing _ _ _ rfl))
  have found := connected.answer true (machine true) rfl
    (answers _ _ _ (savesNothing _ _ _ rfl))
  have uptime := found.answer false (machine false) rfl
    (answers _ _ _ (savesNothing _ _ _ rfl))
  have listed := uptime.answer false (machine false) rfl
    (answers _ _ _ (savesNothing _ _ _ rfl))
  have logged := listed.answer false (machine false) rfl
    (answers _ _ _ (savesNothing _ _ _ rfl))
  have timed := logged.answer false (machine false) rfl
    (answers _ _ _ (savesNothing _ _ _ rfl))
  have saved := timed.answer false (machine false) rfl
    (answers _ _ _ fun entity saves member => nomatch member)
  have removed := saved.answer true (machine true) rfl
    (answers _ _ _ (savesNothing _ _ _ rfl))
  refine ⟨_, removed, ?_, ?_, ?_⟩
  · rfl
  · rfl
  · exact (removed_stay_removed Platform.transparent checkAndRemove registeredDatabase
      removed).1 true 6 2 rfl rfl

/-- The host is loaded by a check, removed, and inserted again when the check saves
it. -/
theorem check_restores_removed_host :
    ∃ pool, Pool.Reaches removalAnswers checkAndRemovePool pool ∧
      pool.Ended true (.ok ()) ∧ (pool.store.database.hosts.byId 2).isSome := by
  have starts : Pool.Reaches removalAnswers checkAndRemovePool checkAndRemovePool := .refl
  have loaded := starts.answer false (removalMachine Surroundings.quiet false) rfl
    (removalMachine_answers _ _ _ _)
  have removed := loaded.run true (removalMachine Surroundings.quiet true)
    (removalMachine_answers _ _)
  have saved := removed.run false (removalMachine Surroundings.quiet false)
    (removalMachine_answers _ _)
  refine ⟨_, saved, ?_, ?_⟩
  · rfl
  · rfl

end ServersManager
