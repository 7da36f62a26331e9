/-
Module: ServersManager.CertificateRecords
Purpose: Registering, checking and removing domains one after another while calls
  fail: when every domain keeps its certificate record.
Trusted boundary: none
Main exports:
  DomainJob, certificateAnswers, Paired, createDomain_ensures, certificates_paired
-/
import ServersManager.DomainCheck

namespace ServersManager

open Library

/-! ### Jobs one after another -/

inductive DomainJob where
  | create (orgId : Nat) (dto : CreateDomainDto)
  | remove (orgId id : Nat)
  | check (domainId : Nat)

/-- Any call may fail; one that does has changed nothing. -/
def failingAnswers : Semantics Calls JsError Database :=
  fun (call : Call) db reply after => Answered (fun _ => True) db call reply after

/-- A call whose failure leaves no half of a domain behind. -/
def Call.MayFail : Call → Prop
  | .query (.insertCertificate _) | .addDomainCheck _ => False
  | _ => True

/-- Only these calls fail on their own. -/
def certificateAnswers : Semantics Calls JsError Database :=
  fun (call : Call) db reply after => Answered (fun _ => call.MayFail) db call reply after

/-- A job has run from its beginning to its end. -/
def DomainJob.Runs (sem : Semantics Calls JsError Database) (platform : Platform)
    (before after : Database) : DomainJob → Prop
  | .create orgId dto => ∃ outcome,
      Program.Steps sem (createDomain orgId dto, before) (.ofExcept outcome, after)
  | .remove orgId id => ∃ outcome,
      Program.Steps sem (removeDomain orgId id, before) (.ofExcept outcome, after)
  | .check domainId => ∃ outcome,
      Program.Steps sem (checkDomain platform domainId, before) (.ofExcept outcome, after)

/-- Any number of jobs, one after another. -/
def DomainRuns (sem : Semantics Calls JsError Database) (platform : Platform) :
    Database → Database → Prop :=
  Relation.ReflTransGen fun before after =>
    ∃ job : DomainJob, job.Runs sem platform before after

/-! ### Domains and their certificate records -/

/-- Each domain has exactly one certificate record. -/
def EachCertified (db : Database) : Prop :=
  ∀ domain ∈ db.domains, ∃! certificate,
    certificate ∈ db.certificates ∧ certificate.domainId = domain.id

/-- The domains are those that the certificate records belong to. -/
def Paired (db : Database) : Prop :=
  ∀ id, (∃ domain ∈ db.domains, domain.id = id) ↔
    ∃ certificate ∈ db.certificates, certificate.domainId = id

theorem Paired.eachCertified {db : Database} (paired : Paired db) : EachCertified db := by
  intro domain member
  obtain ⟨certificate, held, sameId⟩ := (paired domain.id).mp ⟨domain, member, rfl⟩
  refine ⟨certificate, ⟨held, sameId⟩, ?_⟩
  rintro other ⟨otherHeld, otherId⟩
  exact Table.eq_of_index otherHeld held rfl (congrArg some (sameId.trans otherId.symm))

/-- Neither table has been touched. -/
structure SameRecords (db after : Database) : Prop where
  domains : after.domains = db.domains
  certificates : after.certificates = db.certificates

theorem SameRecords.refl (db : Database) : SameRecords db db := ⟨rfl, rfl⟩

theorem SameRecords.trans {first second third : Database}
    (before : SameRecords first second) (after : SameRecords second third) :
    SameRecords first third :=
  ⟨after.domains.trans before.domains, after.certificates.trans before.certificates⟩

theorem SameRecords.paired {db after : Database} (same : SameRecords db after)
    (paired : Paired db) : Paired after := by
  unfold Paired
  rw [same.domains, same.certificates]
  exact paired

/-! ### Single calls -/

/-- The calls that touch neither table. -/
def Call.SparesRecords : Call → Prop
  | .query q => q.writesDomains = false ∧ q.writesCertificates = false
  | _ => True

theorem Call.OfAlerts.sparesRecords {call : Call} (ofAlerts : call.OfAlerts) :
    call.SparesRecords := by
  cases call with
  | query q => cases q <;> first | exact ⟨rfl, rfl⟩ | cases ofAlerts
  | _ => trivial

theorem Call.OfHandshake.sparesRecords {call : Call} (ofHandshake : call.OfHandshake) :
    call.SparesRecords := by
  cases call <;> trivial

theorem Call.OfLookup.sparesRecords {call : Call} (ofLookup : call.OfLookup) :
    call.SparesRecords := by
  cases call <;> trivial

section Rules

variable {α β : Type} {db after : Database} {call : Call} {faults : JsError → Prop}
  {post : Except JsError β → Database → Prop}

theorem Call.SparesRecords.same (spares : call.SparesRecords)
    {reply : Except JsError call.Reply} (answered : Answered faults db call reply after) :
    SameRecords db after := by
  cases call with
  | query q =>
      obtain ⟨error, -, -, rfl⟩ | ⟨-, rfl⟩ := answered
      · exact .refl _
      · exact ⟨Database.perform_domains spares.1, Database.perform_certificates spares.2⟩
  | _ => exact ⟨congrArg _ answered.2, congrArg _ answered.2⟩

theorem ensures_spares {program : Job α} (only : program.Only Call.SparesRecords) :
    program.Ensures certificateAnswers (fun _ after => SameRecords db after) db := by
  apply only.followsKeeping (SameRecords db)
  · exact fun _ _ _ _ => trivial
  · intro before call reply after same spares answered
    exact same.trans (Call.SparesRecords.same spares answered)
  · exact Program.ends_of_all fun _ after same => same
  · exact .refl db

theorem ensures_spares_bind {program : Job α} {rest : α → Job β}
    (only : program.Only Call.SparesRecords)
    (returns : ∀ value after, SameRecords db after →
      (rest value).Ensures certificateAnswers post after)
    (fails : ∀ error after, SameRecords db after → post (.error error) after) :
    (program.bind rest).Ensures certificateAnswers post db := by
  apply (Program.follows_bind _ _ _ _ _).mpr
  apply Program.Follows.mono (ensures_spares only)
  rintro (error | value) after same
  · exact fails error after same
  · exact returns value after same

theorem query_spares {q : Query} (domains : q.writesDomains = false)
    (certificates : q.writesCertificates = false) : (query q).Only Call.SparesRecords :=
  Program.only_perform ⟨domains, certificates⟩

theorem now_sparesRecords : now.Only Call.SparesRecords := Program.only_perform trivial

/-- One call that may do anything of its own. -/
theorem ensures_request_bind {rest : call.Reply → Job β}
    (returns : ∀ value after, Answered (fun _ => call.MayFail) db call (.ok value) after →
      (rest value).Ensures certificateAnswers post after)
    (fails : ∀ error after, Answered (fun _ => call.MayFail) db call (.error error) after →
      post (.error error) after) :
    ((request call).bind rest).Ensures certificateAnswers post db :=
  Program.ensures_perform_bind returns fails

/-- A query that returns has been performed. -/
theorem Answered.performed {faults : JsError → Prop} {q : Query} {value : q.Reply}
    (answered : Answered faults db (.query q) (.ok value) after) :
    db.perform q = (.ok value, after) := by
  obtain ⟨error, -, absurd, -⟩ | ⟨replied, rfl⟩ := answered
  · cases absurd
  · rw [replied]

/-- A query that changes nothing, and what comes after it. -/
theorem ensures_read_bind {q : Query} {value : q.Reply} {rest : q.Reply → Job β}
    (reads : db.perform q = (.ok value, db))
    (returns : (rest value).Ensures certificateAnswers post db)
    (fails : ∀ error, post (.error error) db) :
    ((query q).bind rest).Ensures certificateAnswers post db := by
  apply ensures_request_bind
  · intro reply after answered
    cases reads.symm.trans answered.performed
    exact returns
  · rintro error after (⟨-, -, -, rfl⟩ | ⟨replied, -⟩)
    · exact fails error
    · rw [reads] at replied
      cases replied

/-- A write that keeps the domains paired, and what comes after it. -/
theorem paired_write_bind {q : Query} {rest : q.Reply → Job β} (paired : Paired db)
    (kept : Paired (db.perform q).2)
    (continues : ∀ value after, Paired after →
      (rest value).Ensures certificateAnswers (fun _ after => Paired after) after) :
    ((query q).bind rest).Ensures certificateAnswers (fun _ after => Paired after) db := by
  apply ensures_request_bind
  · intro value after answered
    apply continues value
    rwa [answered.performed] at kept
  · rintro error after (⟨-, -, -, rfl⟩ | ⟨-, rfl⟩)
    · exact paired
    · exact kept

end Rules

/-! ### What the jobs do to the records -/

section Jobs

variable {db after : Database}

/-- A domain that has its row is saved. -/
theorem Paired.saveDomain (paired : Paired db) {row : Domain} {domains : Table Domain}
    (present : ∃ domain ∈ db.domains, domain.id = row.id)
    (saved : db.domains.save row = some domains) : Paired { db with domains := domains } := by
  intro id
  refine Iff.trans ?_ (paired id)
  constructor
  · rintro ⟨domain, member, rfl⟩
    rcases (Table.mem_save saved).mp member with rfl | ⟨old, -⟩
    · exact present
    · exact ⟨domain, old, rfl⟩
  · rintro ⟨domain, member, rfl⟩
    by_cases same : domain.id = row.id
    · exact ⟨row, (Table.mem_save saved).mpr (.inl rfl), same.symm⟩
    · exact ⟨domain, (Table.mem_save saved).mpr (.inr ⟨member, same⟩), rfl⟩

/-- A certificate record is saved under its own domain. -/
theorem Paired.saveCertificate (paired : Paired db) {held row : SSLCertificate}
    {certificates : Table SSLCertificate} (present : held ∈ db.certificates)
    (sameId : row.id = held.id) (sameDomain : row.domainId = held.domainId)
    (saved : db.certificates.save row = some certificates) :
    Paired { db with certificates := certificates } := by
  intro id
  refine (paired id).trans ?_
  constructor
  · rintro ⟨certificate, member, rfl⟩
    by_cases same : certificate.id = row.id
    · have isHeld : certificate = held := Table.eq_of_id member present (same.trans sameId)
      exact ⟨row, (Table.mem_save saved).mpr (.inl rfl), by rw [sameDomain, isHeld]⟩
    · exact ⟨certificate, (Table.mem_save saved).mpr (.inr ⟨member, same⟩), rfl⟩
  · rintro ⟨certificate, member, rfl⟩
    rcases (Table.mem_save saved).mp member with rfl | ⟨old, -⟩
    · exact ⟨held, present, sameDomain.symm⟩
    · exact ⟨certificate, old, rfl⟩

/-- The cascade takes the record along. -/
theorem Paired.removeDomain (paired : Paired db) (domainId : Nat) :
    Paired (db.removeDomain domainId) := by
  intro id
  have before := paired id
  simp only [Database.removeDomain, Table.mem_removeRows]
  by_cases same : id = domainId
  · subst same
    refine iff_of_false ?_ ?_
    · rintro ⟨domain, ⟨-, stays⟩, rfl⟩
      simp at stays
    · rintro ⟨certificate, ⟨-, stays⟩, rfl⟩
      simp at stays
  · constructor
    · rintro ⟨domain, ⟨member, -⟩, rfl⟩
      obtain ⟨certificate, held, sameId⟩ := before.mp ⟨domain, member, rfl⟩
      exact ⟨certificate, ⟨held, by simpa [sameId] using same⟩, sameId⟩
    · rintro ⟨certificate, ⟨member, -⟩, rfl⟩
      obtain ⟨domain, held, sameId⟩ := before.mpr ⟨certificate, member, rfl⟩
      exact ⟨domain, ⟨held, by simpa [sameId] using same⟩, sameId⟩

/-- A domain is registered with its record. -/
theorem Paired.insert (paired : Paired db) {domain row : Domain} {domains : Table Domain}
    {certificate : SSLCertificate} {certificates : Table SSLCertificate}
    (insertsDomain : db.domains.insert (fun id => { domain with id := id }) =
      some (row, domains))
    (insertsCertificate : db.certificates.insert
      (fun id => { newCertificate row.id with id := id }) = some (certificate, certificates)) :
    Paired { db with domains := domains, certificates := certificates } := by
  intro id
  have ofRow : certificate.domainId = row.id := by
    rw [(Table.insert_eq_some.mp insertsCertificate).1]
    rfl
  simp only [Table.mem_insert rfl insertsDomain, Table.mem_insert rfl insertsCertificate,
    or_and_right, exists_or, exists_eq_left, ofRow, paired id]

/-- No record has the key of a domain that is only now inserted. -/
theorem Paired.exists_insert (paired : Paired db) {domain row : Domain}
    {domains : Table Domain}
    (insertsDomain : db.domains.insert (fun id => { domain with id := id }) =
      some (row, domains)) :
    ∃ written, db.certificates.insert (fun id => { newCertificate row.id with id := id }) =
      some written := by
  refine Option.ne_none_iff_exists'.mp fun refused => ?_
  obtain ⟨other, member, -, key, rowKey, otherKey⟩ := Table.insert_eq_none.mp refused
  cases rowKey
  obtain ⟨old, held, sameId⟩ := (paired row.id).mpr ⟨other, member, Option.some.inj otherKey⟩
  have fresh : row.id = db.domains.nextId := by
    rw [(Table.insert_eq_some.mp insertsDomain).1]
  have below := db.domains.below old held
  exact Nat.ne_of_lt below (sameId.trans fresh)

theorem checkLinkedHost_only (orgId : Nat) (hostId : Option Nat) :
    (checkLinkedHost orgId hostId).Only Call.SparesRecords := by
  cases hostId with
  | none => trivial
  | some hostId =>
      unfold checkLinkedHost findHostOrThrow
      apply Program.Only.bind
      · apply Program.Only.bind (query_spares rfl rfl)
        intro found
        cases found <;> trivial
      · intro host
        trivial

/-- The part of a registration that writes. -/
theorem insertRecords_ensures (paired : Paired db) (row : Domain) :
    ((query (.insertDomain row)).bind fun domain =>
        (query (.insertCertificate (newCertificate domain.id))).bind fun _ =>
          (request (.addDomainCheck domain.id)).bind fun jobId =>
            .pure (domain, jobId)).Ensures certificateAnswers
      (fun outcome after => Paired after ∧
        ∀ error, outcome = .error error → SameRecords db after) db := by
  apply ensures_request_bind
  · intro domain inserted answered
    obtain ⟨⟨written, domains⟩, insertsDomain, same⟩ :=
      Database.answer_eq_ok.mp (congrArg Prod.fst answered.performed)
    obtain rfl : written = domain := same
    obtain ⟨⟨certificate, certificates⟩, insertsCertificate⟩ :=
      paired.exists_insert insertsDomain
    have insertedIs : inserted = { db with domains := domains } := by
      have performed := answered.performed
      simp only [Database.perform, insertsDomain, Option.map_some] at performed
      exact (congrArg Prod.snd performed).symm
    subst insertedIs
    have performs : { db with domains := domains }.perform
        (.insertCertificate (newCertificate written.id)) =
          (.ok certificate, { db with domains := domains, certificates := certificates }) := by
      simp only [Database.perform, insertsCertificate, Option.map_some]
      rfl
    apply ensures_request_bind
    · rintro record stored recorded
      obtain rfl := congrArg Prod.snd (performs.symm.trans recorded.performed)
      apply ensures_request_bind
      · rintro jobId queued ⟨-, rfl⟩
        exact ⟨paired.insert insertsDomain insertsCertificate, nofun⟩
      · rintro error queued ⟨fails, -⟩
        exact (fails error rfl).elim
    · rintro error stored (⟨-, fails, -⟩ | ⟨replied, -⟩)
      · exact fails.elim
      · rw [performs] at replied
        cases replied
  · rintro error inserted (⟨-, -, -, rfl⟩ | ⟨replied, rfl⟩)
    · exact ⟨paired, fun _ _ => .refl _⟩
    · cases insertsDomain : db.domains.insert fun id => { row with id := id } with
      | none =>
          simp only [Database.perform, insertsDomain, Option.map_none]
          exact ⟨paired, fun _ _ => .refl _⟩
      | some written =>
          simp only [Database.perform, insertsDomain, Option.map_some] at replied
          cases replied

/-- A registration that throws has added nothing. -/
theorem createDomain_ensures (paired : Paired db) (orgId : Nat) (dto : CreateDomainDto) :
    (createDomain orgId dto).Ensures certificateAnswers
      (fun outcome after => Paired after ∧
        ∀ error, outcome = .error error → SameRecords db after) db := by
  have untouched : ∀ {outcome : Except JsError (Domain × String)} {after},
      SameRecords db after →
        Paired after ∧ ∀ error, outcome = .error error → SameRecords db after :=
    fun same => ⟨same.paired paired, fun _ _ => same⟩
  unfold createDomain
  apply ensures_spares_bind (checkLinkedHost_only orgId dto.hostId) _
    fun error after same => untouched same
  intro linked checked sameChecked
  apply ensures_spares_bind (query_spares rfl rfl) _
    fun error after same => untouched (sameChecked.trans same)
  intro existing looked sameLooked
  have same := sameChecked.trans sameLooked
  cases existing with
  | some domain => exact untouched same
  | none =>
      apply Program.Follows.mono
        (insertRecords_ensures (same.paired paired) (newDomain orgId dto))
      rintro outcome after ⟨pairedAfter, thrown⟩
      exact ⟨pairedAfter, fun error failed => same.trans (thrown error failed)⟩

theorem removeDomain_ensures (paired : Paired db) (orgId id : Nat) :
    (removeDomain orgId id).Ensures certificateAnswers (fun _ after => Paired after) db := by
  unfold removeDomain findDomainOrThrow
  rw [Program.bind_eq, Program.bind_eq, Program.bind_assoc]
  apply ensures_spares_bind (query_spares rfl rfl)
  · intro found after same
    cases found with
    | none => exact same.paired paired
    | some domain =>
        apply (Program.follows_perform _ _ _ _).mpr
        refine ⟨trivial, ?_⟩
        rintro reply removed (⟨-, -, -, rfl⟩ | ⟨-, rfl⟩)
        · exact same.paired paired
        · exact (same.paired paired).removeDomain domain.id
  · intro error after same
    exact same.paired paired

/-- What leaves both tables alone leaves the domains paired. -/
theorem ensures_paired {α : Type} {program : Job α} (only : program.Only Call.SparesRecords)
    (paired : Paired db) :
    program.Ensures certificateAnswers (fun _ after => Paired after) db :=
  Program.Follows.mono (ensures_spares only) fun _ _ same => same.paired paired

/-- A certificate record is saved under the domain under which it has been found. -/
theorem checkTls_ensures (paired : Paired db) (platform : Platform) (domain : Domain)
    (resolvedIp : String) :
    (checkTls platform domain resolvedIp).Ensures certificateAnswers
      (fun _ after => Paired after) db := by
  unfold checkTls
  apply ensures_spares_bind ((performTlsCheck_only _ _ _).mono
    fun call => Call.OfHandshake.sparesRecords) _ fun error after same => same.paired paired
  intro tlsResult first sameFirst
  apply ensures_spares_bind (query_spares rfl rfl) _
    fun error after same => (sameFirst.trans same).paired paired
  intro log logged sameLogged
  have pairedLogged := (sameFirst.trans sameLogged).paired paired
  cases holds : logged.certificates.findOne fun certificate =>
      certificate.domainId == domain.id with
  | none =>
      refine ensures_read_bind (congrArg (fun found => (Except.ok found, logged)) holds) ?_ ?_
      · exact pairedLogged
      · exact fun error => pairedLogged
  | some cert =>
      have held : cert ∈ logged.certificates := (Table.findOne_mem holds).1
      refine ensures_read_bind (congrArg (fun found => (Except.ok found, logged)) holds) ?_
        fun error => pairedLogged
      apply ensures_spares_bind now_sparesRecords _
        fun error after same => same.paired pairedLogged
      intro lastCheckedAt timed sameTimed
      apply ensures_spares_bind Program.only_ofExcept _
        fun error after same => (sameTimed.trans same).paired pairedLogged
      intro validFrom fromRead sameFrom
      apply ensures_spares_bind Program.only_ofExcept _
        fun error after same => ((sameTimed.trans sameFrom).trans same).paired pairedLogged
      intro validTo toRead sameTo
      have same := (sameTimed.trans sameFrom).trans sameTo
      have present : cert ∈ toRead.certificates := by
        rw [same.certificates]
        exact held
      apply paired_write_bind (same.paired pairedLogged)
      · apply Database.answer_keeps Paired (same.paired pairedLogged)
        intro certificates saved
        refine (same.paired pairedLogged).saveCertificate present ?_ ?_ saved
        · rfl
        · rfl
      · intro saved stored pairedStored
        apply ensures_paired _ pairedStored
        exact (evaluateTransition_only _ _).mono fun call => Call.OfAlerts.sparesRecords

theorem checkCertificate_ensures (paired : Paired db) (platform : Platform) (domain : Domain)
    (dnsResult : DnsCheckResult) :
    (checkCertificate platform domain dnsResult).Ensures certificateAnswers
      (fun _ after => Paired after) db := by
  unfold checkCertificate
  split
  · exact checkTls_ensures paired platform domain _
  · apply ensures_paired _ paired
    exact Program.Only.bind (query_spares rfl rfl) fun log => trivial

/-- A domain is saved under the key under which it has been found. -/
theorem checkDomain_ensures (paired : Paired db) (platform : Platform) (domainId : Nat) :
    (checkDomain platform domainId).Ensures certificateAnswers
      (fun _ after => Paired after) db := by
  unfold checkDomain
  cases holds : db.domains.byId domainId with
  | none =>
      refine ensures_read_bind (congrArg (fun found => (Except.ok found, db)) holds) ?_ ?_
      · exact paired
      · exact fun error => paired
  | some domain =>
      obtain ⟨member, -⟩ := Table.byId_eq_some.mp holds
      refine ensures_read_bind (congrArg (fun found => (Except.ok found, db)) holds) ?_
        fun error => paired
      apply ensures_spares_bind ((performDnsCheck_only _).mono
        fun call => Call.OfLookup.sparesRecords) _ fun error after same => same.paired paired
      intro dnsResult resolved sameResolved
      apply ensures_spares_bind (query_spares rfl rfl) _
        fun error after same => (sameResolved.trans same).paired paired
      intro dnsLog dnsLogged sameDns
      apply ensures_spares_bind ((performWhoisLookup_only _ _).mono
        fun call => Call.OfLookup.sparesRecords) _
        fun error after same => ((sameResolved.trans sameDns).trans same).paired paired
      intro whoisResult lookedUp sameLookup
      have sameWhois := (sameResolved.trans sameDns).trans sameLookup
      apply ensures_spares_bind (query_spares rfl rfl) _
        fun error after same => (sameWhois.trans same).paired paired
      intro whoisLog whoisLogged sameLog
      apply ensures_spares_bind now_sparesRecords _
        fun error after same => ((sameWhois.trans sameLog).trans same).paired paired
      intro checkedAt timed sameTimed
      have same := (sameWhois.trans sameLog).trans sameTimed
      apply paired_write_bind (same.paired paired)
      · apply Database.answer_keeps Paired (same.paired paired)
        intro domains saved
        apply (same.paired paired).saveDomain _ saved
        rw [same.domains]
        exact ⟨domain, member, rfl⟩
      · intro saved stored pairedStored
        exact checkCertificate_ensures pairedStored platform _ dnsResult

end Jobs

/-! ### Every sequence of jobs -/

theorem DomainJob.Runs.paired {platform : Platform} {before after : Database}
    {job : DomainJob} (runs : job.Runs certificateAnswers platform before after)
    (paired : Paired before) : Paired after := by
  cases job with
  | create orgId dto =>
      obtain ⟨outcome, steps⟩ := runs
      exact ((createDomain_ensures paired orgId dto).steps steps).1
  | remove orgId id =>
      obtain ⟨outcome, steps⟩ := runs
      exact (removeDomain_ensures paired orgId id).steps steps
  | check domainId =>
      obtain ⟨outcome, steps⟩ := runs
      exact (checkDomain_ensures paired platform domainId).steps steps

/-- Where neither the insert of a certificate record nor the adding of a first check
fails, every domain has exactly one record in every state, and a registration that
throws has added nothing. -/
theorem certificates_paired (platform : Platform) {start db : Database}
    (paired : Paired start) (runs : DomainRuns certificateAnswers platform start db) :
    EachCertified db ∧
      ∀ orgId dto error after,
        Program.Steps certificateAnswers (createDomain orgId dto, db) (.throw error, after) →
          SameRecords db after := by
  have pairedNow : Paired db := by
    induction runs with
    | refl => exact paired
    | tail _ step inductionHypothesis =>
        obtain ⟨job, ran⟩ := step
        exact ran.paired inductionHypothesis
  refine ⟨pairedNow.eachCertified, ?_⟩
  intro orgId dto error after steps
  have thrown : Program.Steps certificateAnswers (createDomain orgId dto, db)
      (.ofExcept (.error error), after) := steps
  exact ((createDomain_ensures pairedNow orgId dto).steps thrown).2 error rfl

/-! ### A registration whose second insert fails -/

def webDomain : CreateDomainDto :=
  { hostname := "example.com"
    hostId := none }

/-- Only the calls that are refused fail. -/
def refusing (refuses : Call → Bool) : Machine Calls JsError Database :=
  fun (call : Call) db =>
    if refuses call then (.error (.error "Connection terminated"), db)
    else Surroundings.quiet.answer db call

theorem refusing_answered {refuses : Call → Bool} {faults : JsError → Prop} (call : Call)
    (db : Database) (mayFail : refuses call = true → ∀ error, faults error) :
    Answered faults db call (refusing refuses call db).1 (refusing refuses call db).2 := by
  unfold refusing
  cases refused : refuses call with
  | true =>
      cases call with
      | query q => exact .inl ⟨_, mayFail refused _, rfl, rfl⟩
      | _ => exact ⟨fun error _ => mayFail refused error, rfl⟩
  | false => exact Surroundings.quiet.answered (fun _ absent => nomatch absent) db call

/-- Only the insert of a certificate record fails. -/
def refusingRecords : Machine Calls JsError Database :=
  refusing fun
    | .query (.insertCertificate _) => true
    | _ => false

/-- Only the insert of a domain fails. -/
def refusingDomains : Machine Calls JsError Database :=
  refusing fun
    | .query (.insertDomain _) => true
    | _ => false

theorem refusingDomains_answers (call : Call) (db : Database) :
    certificateAnswers call db (refusingDomains call db).1 (refusingDomains call db).2 := by
  apply refusing_answered
  intro refused error
  split at refused
  · trivial
  · cases refused

def orphanedDatabase : Database :=
  ((createDomain 6 webDomain).run refusingRecords default).2

/-- The domain stays without its record, and every retry is refused as already
registered. -/
theorem refused_record_orphans_domain :
    DomainRuns failingAnswers .transparent default orphanedDatabase ∧
      Program.Steps failingAnswers (createDomain 6 webDomain, default)
        (.throw (.error "Connection terminated"), orphanedDatabase) ∧
      ¬ EachCertified orphanedDatabase ∧ ¬ SameRecords default orphanedDatabase ∧
      ((createDomain 6 webDomain).run Surroundings.quiet.machine orphanedDatabase).1 =
        .error (.conflict "Domain example.com is already registered for this organization") := by
  have steps : Program.Steps failingAnswers (createDomain 6 webDomain, default)
      (.throw (.error "Connection terminated"), orphanedDatabase) :=
    Program.run_steps refusingRecords
      (fun (op : Call) state => refusing_answered op state fun _ _ => trivial)
      (createDomain 6 webDomain) default
  have one : orphanedDatabase.domains.rows.length = 1 := by decide
  have none : orphanedDatabase.certificates.rows = [] := by decide
  refine ⟨.single ⟨.create 6 webDomain, .error _, steps⟩, steps, ?_, ?_, rfl⟩
  · intro certified
    obtain ⟨domain, rows⟩ := List.length_eq_one_iff.mp one
    obtain ⟨certificate, ⟨member, -⟩, -⟩ := certified domain (by
      rw [Table.mem_iff, rows]
      exact .head _)
    rw [Table.mem_iff, none] at member
    cases member
  · intro same
    rw [same.domains] at one
    cases one

/-- Where a job ends whose calls do not fail. -/
def afterJob {α : Type} (program : Job α) (db : Database) : Database :=
  (program.run Surroundings.quiet.machine db).2

theorem afterJob_steps {α : Type} (program : Job α) (db : Database) : ∃ outcome,
    Program.Steps certificateAnswers (program, db) (.ofExcept outcome, afterJob program db) :=
  ⟨_, Program.run_steps Surroundings.quiet.machine
    (fun (op : Call) state => Surroundings.quiet.answered (fun _ absent => nomatch absent)
      state op) program db⟩

/-- A domain has been registered and checked, and registered again in vain. -/
def checkedDatabase : Database :=
  afterJob (createDomain 6 webDomain)
    (afterJob (checkDomain .transparent 0) (afterJob (createDomain 6 webDomain) default))

/-- A registration of the same hostname for another organization, whose first insert
fails, leaves the domain and its record as they are. -/
theorem certificates_paired_refused :
    DomainRuns certificateAnswers .transparent default checkedDatabase ∧
      checkedDatabase.domains.rows.length = 1 ∧ EachCertified checkedDatabase ∧
      ∃ error after, Program.Steps certificateAnswers
          (createDomain 7 webDomain, checkedDatabase) (.throw error, after) ∧
        SameRecords checkedDatabase after := by
  have paired : Paired default := by
    intro id
    refine iff_of_false ?_ ?_
    · rintro ⟨domain, member, -⟩
      cases member
    · rintro ⟨certificate, member, -⟩
      cases member
  have runs : DomainRuns certificateAnswers .transparent default checkedDatabase :=
    .tail (.tail (.single ⟨.create 6 webDomain, afterJob_steps _ _⟩)
      ⟨.check 0, afterJob_steps _ _⟩) ⟨.create 6 webDomain, afterJob_steps _ _⟩
  have refused := Program.run_steps refusingDomains
    (fun (op : Call) state => refusingDomains_answers op state) (createDomain 7 webDomain)
    checkedDatabase
  obtain ⟨certified, unchanged⟩ := certificates_paired .transparent paired runs
  exact ⟨runs, by decide, certified, _, _, refused, unchanged 7 webDomain _ _ refused⟩

end ServersManager
