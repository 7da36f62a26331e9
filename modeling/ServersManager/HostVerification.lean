/-
Module: ServersManager.HostVerification
Purpose: Overlapping checks of one host: its verification is permanent as long as no
  check that loaded it unverified saves it after it has been verified.
Trusted boundary: none
Main exports:
  Overlap, overlapAnswers, SavesCurrentVerification, verification_permanent,
  overlap_clears_verification
-/
import ServersManager.HealthCheck
import ServersManager.Library.Pool

namespace ServersManager

open Library

variable {ι : Type} [DecidableEq ι]

/-! ### Overlapping checks -/

/-- The database, and the host as each check has loaded it. -/
structure Overlap (ι : Type) where
  database : Database
  loaded : ι → Option Host

/-- What a reply makes of the copy that a check holds. -/
def loadedCopy (before : Option Host) : (call : Call) → Except JsError call.Reply →
    Option Host
  | .query (.findHost _), .ok found => found
  | _, _ => before

/-- Any call may fail; a query that does not is performed. -/
def overlapAnswers (thread : ι) : Semantics Calls JsError (Overlap ι) :=
  fun call store reply after =>
    Answered (fun _ => True) store.database call reply after.database ∧
      after.loaded = Function.update store.loaded thread
        (loadedCopy (store.loaded thread) call reply)

/-- A check that loaded the host unverified saves it while it still is. -/
def SavesCurrentVerification (thread : ι) (call : Call) (store : Overlap ι) : Prop :=
  match call with
  | .query (.saveHost row) =>
      ∀ copy ∈ store.loaded thread, copy.setupVerifiedAt = none →
        ∀ current ∈ store.database.hosts.byId row.id, current.setupVerifiedAt = none
  | _ => True

/-- Checks of one host, none of which has started. -/
def checkPool (ι : Type) (platform : Platform) (hostId : Nat) (db : Database) :
    Pool Calls JsError ι Unit (Overlap ι) where
  threads _ := checkHost platform hostId
  store :=
    { database := db
      loaded := fun _ => none }

/-- A verified host is not waiting for its setup. -/
def Host.Settled (host : Host) : Prop :=
  host.setupVerifiedAt.isSome → host.status ≠ .pendingSetup

/-! ### The order of a check's calls -/

inductive CheckPhase where
  | begun
  | holding (copy : Host)
  | closed

/-- The entity a check may save: its copy, updated with some outcome that its copy
allows. -/
def CheckedFrom (copy row : Host) : Prop :=
  ∃ status checkedAt, row = checkedHost copy status checkedAt ∧
    (status = .pendingSetup → copy.setupVerifiedAt = none)

def CheckPhase.Allows (hostId : Nat) : CheckPhase → Call → Prop
  | .begun, .query (.findHost id) => id = hostId
  | .holding copy, .query (.saveHost row) => CheckedFrom copy row
  | .holding _, call => call.OfSync
  | .closed, call => call.OfSync
  | _, _ => False

def CheckPhase.next : CheckPhase → (call : Call) → Except JsError call.Reply → CheckPhase
  | .begun, .query (.findHost _), .ok (some host) => .holding host
  | .holding _, .query (.saveHost _), _ => .closed
  | .holding copy, _, _ => .holding copy
  | _, _, _ => .closed

def checkProtocol (hostId : Nat) : Protocol Calls JsError CheckPhase where
  Allows := CheckPhase.Allows hostId
  Moves phase call reply after := after = phase.next call reply

section Follows

variable {hostId : Nat} {α : Type} {post : Except JsError α → CheckPhase → Prop}

/-- What a sync calls, a check may call while it holds its copy. -/
theorem holding_follows {program : Job α} (only : program.Only Call.OfSync) {copy : Host}
    (ends : program.Ends fun outcome => post outcome (.holding copy)) :
    program.Follows (checkProtocol hostId) post (.holding copy) := by
  apply only.follows _ _ ends
  · intro call allowed
    cases call with
    | query q => cases q <;> first | exact allowed | cases allowed
    | _ => exact allowed
  · intro call reply after allowed moves
    rw [show after = CheckPhase.next (.holding copy) call reply from moves]
    cases call with
    | query q => cases q <;> first | rfl | cases allowed
    | _ => rfl

/-- And after its save. -/
theorem closed_follows {program : Job α} (only : program.Only Call.OfSync)
    (ends : ∀ outcome, post outcome .closed) :
    program.Follows (checkProtocol hostId) post .closed := by
  apply only.follows _ _ (Program.ends_of_all ends)
  · exact fun call allowed => allowed
  · intro call reply after allowed moves
    rw [show after = CheckPhase.next .closed call reply from moves]
    rfl

end Follows

/-- Only a host that has never been verified is found to be waiting for its setup. -/
theorem mapSshFailureToOutcome_pendingSetup {error : JsError}
    {setupVerifiedAt : Option Date}
    (pending : (mapSshFailureToOutcome error setupVerifiedAt).status = .pendingSetup) :
    setupVerifiedAt = none := by
  unfold mapSshFailureToOutcome at pending
  split at pending
  · split at pending
    · assumption
    · cases pending
  · cases pending

/-- A check never sends a host back to the pending setup. -/
theorem mapCommandResultsToOutcome_status {results : List SshCommandResult}
    {outcome : HealthCheckOutcome}
    (mapped : mapCommandResultsToOutcome results = .ok outcome) :
    outcome.status ≠ .pendingSetup := by
  unfold mapCommandResultsToOutcome at mapped
  split at mapped
  · dsimp only at mapped
    split at mapped
    · cases mapped
      exact fun pending => nomatch pending
    · split at mapped
      · cases mapped
        exact fun pending => nomatch pending
      · cases mapped
        exact fun pending => nomatch pending
  · cases mapped

/-- The outcomes of a check that the host's copy allows. -/
def OutcomeAllowed (host : Host)
    (result : HealthCheckOutcome × Option (List SshCommandResult)) : Prop :=
  result.1.status = .pendingSetup → host.setupVerifiedAt = none

/-- How a session ends: with an outcome that is allowed for the host it checked. -/
theorem runCheck_ends (platform : Platform) (host : Host) :
    (runCheck platform host).Ends fun outcome =>
      ∀ result, outcome = .ok result → OutcomeAllowed host result := by
  unfold runCheck
  split
  · rintro result ⟨⟩
    exact mapSshFailureToOutcome_pendingSetup
  · refine Program.ends_tryCatch.mpr (Program.ends_bind.mpr
      (Program.ends_of_all fun outcome => ?_))
    cases outcome with
    | error error =>
        rintro result ⟨⟩
        exact mapSshFailureToOutcome_pendingSetup
    | ok results =>
        refine Program.ends_bind.mpr (Program.ends_ofExcept.mpr ?_)
        cases mapped : mapCommandResultsToOutcome results with
        | error error =>
            rintro result ⟨⟩
            exact mapSshFailureToOutcome_pendingSetup
        | ok outcome =>
            rintro result ⟨⟩ pending
            exact absurd pending (mapCommandResultsToOutcome_status mapped)

/-- A check follows its protocol: it loads the host, saves it once, and syncs. -/
theorem checkHost_follows (platform : Platform) (hostId : Nat) :
    (checkHost platform hostId).Follows (checkProtocol hostId) (fun _ _ => True)
      .begun := by
  refine (Program.follows_perform_bind _).mpr ⟨rfl, ?_, fun _ _ _ => trivial⟩
  rintro found after rfl
  cases found with
  | none => trivial
  | some host =>
  refine (Program.follows_bind _ _ _ _ _).mpr (holding_follows
    ((runCheck_only _ _).mono fun call => Call.OfSession.ofSync)
    ((runCheck_ends platform host).mono fun outcome allowed => ?_))
  cases outcome with
  | error error => trivial
  | ok result =>
  refine (Program.follows_perform_bind _).mpr ⟨trivial, ?_, fun _ _ _ => trivial⟩
  rintro log after rfl
  refine (Program.follows_perform_bind _).mpr ⟨trivial, ?_, fun _ _ _ => trivial⟩
  rintro checkedAt after rfl
  refine (Program.follows_perform_bind _).mpr ⟨?_, ?_, fun _ _ _ => trivial⟩
  · exact ⟨result.1.status, checkedAt, rfl, allowed result rfl⟩
  · rintro saved after rfl
    apply closed_follows _ fun _ => trivial
    apply Program.Only.bind
    · exact (evaluateTransition_only _ _).mono fun call => Call.OfAlerts.ofSync
    · exact fun evaluated => syncResults_only _ _ _

/-! ### Permanent verification -/

/-- What holds of the store while checks hold copies of the host: a copy that is
verified is verified as the row is, and so is what once was. -/
structure Verified (hostId : Nat) (since : Option Date) (phases : ι → CheckPhase)
    (store : Overlap ι) : Prop where
  settled : ∀ host ∈ store.database.hosts.byId hostId, host.Settled
  copies : ∀ thread copy, phases thread = .holding copy →
    copy.id = hostId ∧ store.loaded thread = some copy ∧
      (copy.setupVerifiedAt.isSome →
        ∃ host ∈ store.database.hosts.byId hostId,
          host.setupVerifiedAt = copy.setupVerifiedAt)
  permanent : since.isSome → ∃ host ∈ store.database.hosts.byId hostId,
    host.setupVerifiedAt = since

section Steps

variable {hostId : Nat} {since : Option Date} {phases : ι → CheckPhase}
  {store after : Overlap ι} {thread : ι} {call : Call}
  {reply : Except JsError call.Reply}

/-- A call that leaves the hosts alone, and the copy that its check then holds. -/
theorem Verified.quiet (verified : Verified hostId since phases store)
    (hosts : after.database.hosts = store.database.hosts)
    (others : ∀ other, other ≠ thread → after.loaded other = store.loaded other)
    {phase : CheckPhase}
    (held : ∀ copy, phase = .holding copy →
      copy.id = hostId ∧ after.loaded thread = some copy ∧
        (copy.setupVerifiedAt.isSome →
          ∃ host ∈ store.database.hosts.byId hostId,
            host.setupVerifiedAt = copy.setupVerifiedAt)) :
    Verified hostId since (Function.update phases thread phase) after := by
  constructor
  · rw [hosts]
    exact verified.settled
  · intro other copy holds
    rw [hosts]
    by_cases same : other = thread
    · subst same
      rw [Function.update_self] at holds
      exact held copy holds
    · rw [Function.update_of_ne same] at holds
      rw [others other same]
      exact verified.copies other copy holds
  · rw [hosts]
    exact verified.permanent

/-- A sync loads no copy of the host. -/
theorem loadedCopy_ofSync {before : Option Host} (ofSync : call.OfSync) :
    loadedCopy before call reply = before := by
  cases call with
  | query q => cases q <;> first | rfl | cases ofSync
  | _ => rfl

/-- Nor does it write hosts. -/
theorem OfSync.hosts (ofSync : call.OfSync)
    (answered : overlapAnswers thread call store reply after) :
    after.database.hosts = store.database.hosts := by
  refine answered.1.field Database.hosts fun q same => Database.perform_hosts ?_
  subst same
  cases q <;> first | rfl | cases ofSync

/-- So it keeps the invariant. -/
theorem Verified.sync (verified : Verified hostId since phases store)
    (ofSync : call.OfSync) (answered : overlapAnswers thread call store reply after)
    {phase : CheckPhase} (stays : phase = phases thread ∨ phase = .closed) :
    Verified hostId since (Function.update phases thread phase) after := by
  have loaded : after.loaded = store.loaded := by
    rw [answered.2, loadedCopy_ofSync ofSync, Function.update_eq_self]
  refine verified.quiet (OfSync.hosts ofSync answered) (fun other _ => by rw [loaded]) ?_
  intro copy holds
  rw [loaded]
  rcases stays with same | closed
  · exact verified.copies thread copy (same.symm.trans holds)
  · cases closed.symm.trans holds

/-- Loading the host begins to hold the row as it is. -/
theorem Verified.load (verified : Verified hostId since phases store)
    {found : Except JsError (Option Host)}
    (answered : overlapAnswers thread (Call.query (.findHost hostId)) store found after) :
    Verified hostId since (Function.update phases thread
      (CheckPhase.next .begun (.query (.findHost hostId)) found)) after := by
  have hosts : after.database.hosts = store.database.hosts :=
    answered.1.field Database.hosts fun q same => by cases same; rfl
  have others : ∀ other, other ≠ thread → after.loaded other = store.loaded other := by
    intro other differs
    rw [answered.2, Function.update_of_ne differs]
  refine verified.quiet hosts others fun copy holds => ?_
  cases found with
  | error error => cases holds
  | ok found =>
      cases found with
      | none => cases holds
      | some copy =>
          cases holds
          have row : store.database.hosts.byId hostId = some copy := by
            rcases answered.1 with ⟨error, -, absent, -⟩ | ⟨replied, -⟩
            · cases absent
            · exact (Except.ok.inj replied).symm
          refine ⟨(Table.byId_eq_some.mp row).2, ?_, fun _ => ⟨copy, row, rfl⟩⟩
          rw [answered.2, Function.update_self]
          rfl

omit [DecidableEq ι] in
/-- A saved entity is as verified as the row it replaces. -/
theorem checkedFrom_setupVerifiedAt {copy row host : Host}
    (verified : Verified hostId since phases store)
    (holds : phases thread = .holding copy) (checked : CheckedFrom copy row)
    (current : SavesCurrentVerification thread (.query (.saveHost row)) store)
    (found : host ∈ store.database.hosts.byId hostId)
    (isVerified : host.setupVerifiedAt.isSome) :
    row.setupVerifiedAt = host.setupVerifiedAt := by
  obtain ⟨status, checkedAt, rfl, -⟩ := checked
  obtain ⟨sameId, loaded, asRow⟩ := verified.copies thread copy holds
  have byRow : host ∈ store.database.hosts.byId
      (checkedHost copy status checkedAt).id := by
    change host ∈ store.database.hosts.byId copy.id
    rwa [sameId]
  cases copyVerified : copy.setupVerifiedAt with
  | none =>
      rw [current copy loaded copyVerified host byRow] at isVerified
      cases isVerified
  | some date =>
      obtain ⟨row, member, same⟩ := asRow (by rw [copyVerified]; rfl)
      cases found.symm.trans member
      rw [same, copyVerified]
      simp [checkedHost, copyVerified]

/-- A checked copy of a verified host is verified still. -/
theorem settled_checkedHost {copy row : Host} (checked : CheckedFrom copy row) :
    row.Settled := by
  obtain ⟨status, checkedAt, rfl, pending⟩ := checked
  intro isVerified sameStatus
  cases status with
  | pendingSetup =>
      have unverified := pending rfl
      simp [checkedHost, unverified, HealthCheckStatus.isSuccessfulConnection]
        at isVerified
  | _ => cases sameStatus

/-- A save keeps the invariant, as long as no unverified copy replaces a verified row. -/
theorem Verified.save {copy row : Host} (verified : Verified hostId since phases store)
    (holds : phases thread = .holding copy) (checked : CheckedFrom copy row)
    (current : SavesCurrentVerification thread (.query (.saveHost row)) store)
    {saved : Except JsError Host}
    (answered : overlapAnswers thread (Call.query (.saveHost row)) store saved after) :
    Verified hostId since (Function.update phases thread .closed) after := by
  have loaded : after.loaded = store.loaded := by
    rw [answered.2]
    exact Function.update_eq_self _ _
  rcases answered.1.written rfl with ⟨error, -, same⟩ | ⟨hosts, saves, -, same⟩
  · refine verified.quiet (by rw [same]) (fun other _ => by rw [loaded]) ?_
    exact fun copy absent => nomatch absent
  have saved : after.database.hosts.byId hostId = some row := by
    obtain ⟨status, checkedAt, rfl, -⟩ := checked
    have sameId : hostId = Keyed.id (checkedHost copy status checkedAt) :=
      (verified.copies thread copy holds).1.symm
    rw [same, Table.byId_save saves, if_pos sameId]
  have kept : ∀ host ∈ store.database.hosts.byId hostId, host.setupVerifiedAt.isSome →
      row.setupVerifiedAt = host.setupVerifiedAt :=
    fun host found => checkedFrom_setupVerifiedAt verified holds checked current found
  constructor
  · rintro host found
    rw [saved] at found
    cases found
    exact settled_checkedHost checked
  · intro other copyOther holdsOther
    by_cases sameThread : other = thread
    · subst sameThread
      rw [Function.update_self] at holdsOther
      cases holdsOther
    · rw [Function.update_of_ne sameThread] at holdsOther
      obtain ⟨sameId, loadedOther, asRow⟩ := verified.copies other copyOther holdsOther
      refine ⟨sameId, by rw [loaded, loadedOther], fun isVerified => ⟨row, saved, ?_⟩⟩
      obtain ⟨host, found, sameDate⟩ := asRow isVerified
      rw [kept host found (sameDate ▸ isVerified), sameDate]
  · intro isVerified
    obtain ⟨host, found, sameDate⟩ := verified.permanent isVerified
    exact ⟨row, saved, (kept host found (sameDate ▸ isVerified)).trans sameDate⟩

omit [DecidableEq ι] in
theorem allows_holding {copy : Host}
    (allowed : CheckPhase.Allows hostId (.holding copy) call) :
    (∃ row, call = .query (.saveHost row) ∧ CheckedFrom copy row) ∨
      call.OfSync ∧ CheckPhase.next (.holding copy) call reply = .holding copy := by
  cases call with
  | query q =>
      cases q with
      | saveHost row => exact .inl ⟨row, rfl, allowed⟩
      | _ => exact .inr ⟨allowed, rfl⟩
  | _ => exact .inr ⟨allowed, rfl⟩

/-- The step lemma: every call of a check keeps the invariant. -/
theorem Verified.next (verified : Verified hostId since phases store)
    (allowed : (phases thread).Allows hostId call)
    (current : SavesCurrentVerification thread call store)
    (answered : overlapAnswers thread call store reply after) :
    Verified hostId since
      (Function.update phases thread ((phases thread).next call reply)) after := by
  cases phase : phases thread with
  | begun =>
      rw [phase] at allowed
      cases call with
      | query q =>
          cases q with
          | findHost id =>
              obtain rfl : id = hostId := allowed
              exact verified.load answered
          | _ => cases allowed
      | _ => cases allowed
  | holding copy =>
      rw [phase] at allowed
      rcases allows_holding allowed with ⟨row, rfl, checked⟩ | ⟨ofSync, stays⟩
      · exact verified.save phase checked current answered
      · rw [stays]
        exact verified.sync ofSync answered (.inl phase.symm)
  | closed =>
      rw [phase] at allowed
      exact verified.sync allowed answered (.inr rfl)

end Steps

/-- Every interleaving in which a check that loaded the host unverified saves it while
it still is. -/
def currentAnswers : ι → Semantics Calls JsError (Overlap ι) :=
  Pool.guarded SavesCurrentVerification overlapAnswers

/-- The run lemma: so does every interleaving of checks. -/
theorem verified_keeps (hostId : Nat) (since : Option Date) :
    Pool.Keeps (fun _ : ι => checkProtocol hostId) currentAnswers
      (Verified hostId since) := by
  intro phases store thread call reply after verified allowed answered
  exact ⟨_, rfl, verified.next allowed answered.1 answered.2⟩

/-- Once the host is verified, it stays verified at the same time and is never again
waiting for its setup, as long as no check that loaded it unverified saves it after it
has been verified. -/
theorem verification_permanent (platform : Platform) (hostId : Nat) (db : Database)
    (settled : ∀ host ∈ db.hosts.byId hostId, host.Settled)
    {pool later : Pool Calls JsError ι Unit (Overlap ι)}
    (reaches : Pool.Reaches currentAnswers (checkPool ι platform hostId db) pool)
    (continues : Pool.Reaches currentAnswers pool later) {host : Host} {since : Date}
    (found : pool.store.database.hosts.byId hostId = some host)
    (isVerified : host.setupVerifiedAt = some since) :
    ∃ row, later.store.database.hosts.byId hostId = some row ∧
      row.setupVerifiedAt = some since ∧ row.status ≠ .pendingSetup := by
  have starts : (checkPool ι platform hostId db).Follows (fun _ => checkProtocol hostId)
      (fun _ _ _ => True) fun _ => .begun :=
    fun thread => checkHost_follows platform hostId
  have begins : Verified hostId none (fun _ => .begun)
      (checkPool ι platform hostId db).store :=
    { settled := settled
      copies := fun thread copy absent => nomatch absent
      permanent := fun absent => nomatch absent }
  obtain ⟨phases, follows, verified⟩ :=
    reaches.invariant (verified_keeps hostId none) starts begins
  have since : Verified hostId (some since) phases pool.store :=
    { verified with permanent := fun _ => ⟨host, found, isVerified⟩ }
  obtain ⟨phasesLater, -, verifiedLater⟩ :=
    continues.invariant (verified_keeps hostId _) follows since
  obtain ⟨row, member, same⟩ := verifiedLater.permanent rfl
  exact ⟨row, member, same, verifiedLater.settled row member (by rw [same]; rfl)⟩

/-! ### Two checks of a new host -/

def overlapMachine (surroundings : Surroundings) (thread : ι) :
    Machine Calls JsError (Overlap ι) :=
  fun (call : Call) store =>
    ((surroundings.answer store.database call).1,
      { database := (surroundings.answer store.database call).2
        loaded := Function.update store.loaded thread
          (loadedCopy (store.loaded thread) call
            (surroundings.answer store.database call).1) })

/-- The machine of a run answers as the overlapping store does. -/
theorem overlapMachine_answers (surroundings : Surroundings) (thread : ι) (call : Call)
    (store : Overlap ι) :
    overlapAnswers thread call store (overlapMachine surroundings thread call store).1
      (overlapMachine surroundings thread call store).2 :=
  ⟨surroundings.answered (fun _ _ => trivial) store.database call, rfl⟩

/-- A host that rejects the key. -/
def Surroundings.rejecting : Surroundings :=
  { Surroundings.quiet with
    connect := .error (.ssh "All configured authentication methods failed"
      "client-authentication") }

def newHostChecks : Pool Calls JsError Bool Unit (Overlap Bool) :=
  checkPool Bool Platform.transparent 2 registeredDatabase

/-- The first check verifies the host; the second one loads it after that, is rejected by
it, and saves it. -/
theorem verification_permanent_rejected :
    ∃ later : Pool Calls JsError Bool Unit (Overlap Bool),
      (later.store.database.hosts.byId 2).map Host.status = some .unreachable ∧
        ∃ row, later.store.database.hosts.byId 2 = some row ∧
          row.setupVerifiedAt = some 1000 ∧ row.status ≠ .pendingSetup := by
  let quiet := overlapMachine Surroundings.quiet (ι := Bool)
  let rejecting := overlapMachine Surroundings.rejecting (ι := Bool)
  have starts : Pool.Reaches currentAnswers newHostChecks newHostChecks := .refl
  have goesOn : ∀ {start pool : Pool Calls JsError Bool Unit (Overlap Bool)},
      Pool.Reaches currentAnswers start pool → Pool.Reaches currentAnswers pool pool :=
    fun _ => .refl
  have answers : ∀ surroundings (thread : Bool) call store,
      SavesCurrentVerification thread call store →
        currentAnswers thread call store
          (overlapMachine surroundings thread call store).1
          (overlapMachine surroundings thread call store).2 :=
    fun surroundings thread call store current =>
      ⟨current, overlapMachine_answers surroundings thread call store⟩
  have loaded := starts.answer false (quiet false) rfl (answers _ _ _ _ trivial)
  have connected := loaded.answer false (quiet false) rfl (answers _ _ _ _ trivial)
  have uptime := connected.answer false (quiet false) rfl (answers _ _ _ _ trivial)
  have listed := uptime.answer false (quiet false) rfl (answers _ _ _ _ trivial)
  have logged := listed.answer false (quiet false) rfl (answers _ _ _ _ trivial)
  have timed := logged.answer false (quiet false) rfl (answers _ _ _ _ trivial)
  have saved := timed.answer false (quiet false) rfl
    (answers _ _ _ _ (by rintro copy ⟨⟩ - current ⟨⟩; rfl))
  have loadedAgain := (goesOn saved).answer true (rejecting true) rfl
    (answers _ _ _ _ trivial)
  have rejected := loadedAgain.answer true (rejecting true) rfl (answers _ _ _ _ trivial)
  have loggedAgain := rejected.answer true (rejecting true) rfl (answers _ _ _ _ trivial)
  have timedAgain := loggedAgain.answer true (rejecting true) rfl
    (answers _ _ _ _ trivial)
  have savedAgain := timedAgain.answer true (rejecting true) rfl
    (answers _ _ _ _ (by rintro copy ⟨⟩ absent; cases absent))
  exact ⟨_, rfl, verification_permanent Platform.transparent 2 registeredDatabase
    (by rintro host ⟨⟩ absent; cases absent) saved savedAgain rfl rfl⟩

/-- A check that loaded the host before it was verified, and is rejected by it, clears
the verification. -/
theorem overlap_clears_verification :
    ∃ pool later : Pool Calls JsError Bool Unit (Overlap Bool),
      Pool.Reaches overlapAnswers newHostChecks pool ∧
      Pool.Reaches overlapAnswers pool later ∧
      (∃ host, pool.store.database.hosts.byId 2 = some host ∧
        host.setupVerifiedAt = some 1000) ∧
      ∃ row, later.store.database.hosts.byId 2 = some row ∧
        row.setupVerifiedAt = none ∧ row.status = .pendingSetup := by
  have starts : Pool.Reaches overlapAnswers newHostChecks newHostChecks := .refl
  have loaded := starts.answer true (overlapMachine Surroundings.quiet true) rfl
    (overlapMachine_answers _ _ _ _)
  have verified := loaded.run false (overlapMachine Surroundings.quiet false)
    (overlapMachine_answers _ _)
  exact ⟨_, _, verified, Pool.Reaches.run .refl true
    (overlapMachine Surroundings.rejecting true) (overlapMachine_answers _ _),
    ⟨_, rfl, rfl⟩, ⟨_, rfl, rfl, rfl⟩⟩

end ServersManager
