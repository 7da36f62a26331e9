/-
Module: ServersManager.DomainFold
Purpose: The checks of a new domain one after another, with any lookup failing: what the
  domain, its certificate record, the log and the evaluated transitions are afterwards.
Trusted boundary: none
Main exports:
  DomainNotice, observedCheckDomain, observedCheckDomain_attend, CheckRuns, CheckOutcome,
  Folded, CheckRun.folded, checks_folded
-/
import ServersManager.CertificateRecords

namespace ServersManager

open Library

/-! ### Checks that tell what they find out -/

/-- What a check has found out, or a transition that it has evaluated. -/
inductive DomainNotice where
  | dns (result : DnsCheckResult)
  | whois (result : WhoisCheckResult)
  | tls (result : TlsCheckResult)
  | transition (input : EvaluateTransitionInput)

/-- Telling what has been found out does nothing. -/
def DomainNotice.announced (platform : Platform) : DomainNotice → Job Unit
  | .dns _ | .whois _ | .tls _ => return ()
  | .transition input => evaluateTransition platform input

section Observed

variable (platform : Platform)

def observedCheckTls (domain : Domain) (resolvedIp : String) :
    NoticedJob DomainNotice Unit := do
  let tlsResult ← (performTlsCheck platform resolvedIp domain.hostname).lift
  Program.notify (.tls tlsResult)
  let _ ← (writeHealthCheckLog .sslCertificate domain.id tlsResult.status.text
    tlsResult.rawOutput).lift
  match ← (query (.findCertificate domain.id)).lift with
  | none => return ()
  | some cert =>
      let lastCheckedAt ← now.lift
      let validFrom ← Program.ofExcept (dateColumn tlsResult.validFrom)
      let validTo ← Program.ofExcept (dateColumn tlsResult.validTo)
      let _ ← (query (.saveCertificate
        { cert with
          status := tlsResult.status
          issuer := tlsResult.issuer.map platform.columnText
          validFrom := validFrom
          validTo := validTo
          lastCheckedAt := some lastCheckedAt })).lift
      Program.notify (.transition
        { orgId := domain.orgId
          entityType := .sslCertificate
          entityId := domain.id
          previousStatus := cert.status.text
          newStatus := tlsResult.status.text })

def observedCheckCertificate (domain : Domain) (dnsResult : DnsCheckResult) :
    NoticedJob DomainNotice Unit := do
  match dnsResult.status, dnsResult.resolvedIp.filter (· ≠ "") with
  | .resolving, some resolvedIp => observedCheckTls platform domain resolvedIp
  | _, _ =>
      let _ ← (writeHealthCheckLog .sslCertificate domain.id "skipped"
        (.obj [("reason", .str "DNS did not resolve; nothing to connect to")])).lift
      return ()

def observedCheckDomain (domainId : Nat) : NoticedJob DomainNotice Unit := do
  match ← (query (.findDomain domainId)).lift with
  | none => return ()
  | some domain =>
      let dnsResult ← (performDnsCheck domain.hostname).lift
      Program.notify (.dns dnsResult)
      let _ ← (writeHealthCheckLog .domain domain.id dnsResult.status.text
        (.obj (("check", .str "dns") :: dnsResult.rawOutput))).lift
      let whoisResult ← (performWhoisLookup platform domain.hostname).lift
      Program.notify (.whois whoisResult)
      let _ ← (writeHealthCheckLog .domain domain.id
        (if whoisResult.ok then "whois_ok" else "whois_failed")
        (.obj (("check", .str "whois") :: whoisResult.rawOutput))).lift
      let checked := checkedDomain domain dnsResult whoisResult (← now.lift)
      let _ ← (query (.saveDomain checked)).lift
      observedCheckCertificate platform checked dnsResult

theorem observedCheckTls_attend (domain : Domain) (resolvedIp : String) :
    (observedCheckTls platform domain resolvedIp).attend (DomainNotice.announced platform) =
      checkTls platform domain resolvedIp := by
  simp only [observedCheckTls, checkTls, Program.bind_eq, Program.attend_bind,
    Program.attend_lift, Program.attend_notify, DomainNotice.announced, Program.pure_eq,
    Program.pure_bind]
  congr 1
  funext tlsResult
  congr 1
  funext log
  congr 1
  funext found
  cases found with
  | none => rfl
  | some cert =>
      simp only [Program.attend_bind, Program.attend_ofExcept, Program.attend_lift,
        Program.attend_notify, DomainNotice.announced]

theorem observedCheckCertificate_attend (domain : Domain) (dnsResult : DnsCheckResult) :
    (observedCheckCertificate platform domain dnsResult).attend
        (DomainNotice.announced platform) =
      checkCertificate platform domain dnsResult := by
  unfold observedCheckCertificate checkCertificate
  generalize dnsResult.status = status, dnsResult.resolvedIp.filter (· ≠ "") = address
  cases status with
  | resolving =>
      cases address with
      | some resolvedIp => apply observedCheckTls_attend
      | none => simp only [Program.bind_eq, Program.attend_bind, Program.attend_lift,
          Program.pure_eq, Program.attend_pure]
  | _ => simp only [Program.bind_eq, Program.attend_bind, Program.attend_lift,
      Program.pure_eq, Program.attend_pure]

/-- Nothing but the telling is added to the source's check. -/
theorem observedCheckDomain_attend (domainId : Nat) :
    (observedCheckDomain platform domainId).attend (DomainNotice.announced platform) =
      checkDomain platform domainId := by
  simp only [observedCheckDomain, checkDomain, Program.bind_eq, Program.attend_bind,
    Program.attend_lift]
  congr 1
  funext found
  cases found with
  | none => rfl
  | some domain =>
      simp only [Program.attend_bind, Program.attend_lift, Program.attend_notify,
        DomainNotice.announced, Program.pure_eq, Program.pure_bind,
        observedCheckCertificate_attend]

end Observed

/-! ### Runs of checks -/

/-- A check has run to its end: none of its repository calls has failed, as it would
have thrown. -/
def CheckRun (platform : Platform) (domainId : Nat) (before : Database)
    (notices : List DomainNotice) (after : Database) : Prop :=
  Program.Steps (failingAnswers.noting (DomainNotice.announced platform))
    (observedCheckDomain platform domainId, (before, [])) (.pure (), (after, notices))

/-- Any number of checks, each beginning after the one before it has ended. -/
inductive CheckRuns (platform : Platform) (domainId : Nat) (start : Database) :
    List (List DomainNotice) → Database → Prop where
  | start : CheckRuns platform domainId start [] start
  | check {checks : List (List DomainNotice)} {notices : List DomainNotice}
      {db after : Database} (earlier : CheckRuns platform domainId start checks db)
      (run : CheckRun platform domainId db notices after) :
      CheckRuns platform domainId start (checks ++ [notices]) after

/-- Every check that returns is such a run. -/
theorem checkDomain_observed {platform : Platform} {domainId : Nat} {before after : Database}
    (steps : Program.Steps failingAnswers (checkDomain platform domainId, before)
      (.pure (), after)) : ∃ notices, CheckRun platform domainId before notices after := by
  rw [← observedCheckDomain_attend] at steps
  have ended : Program.Steps failingAnswers
      ((observedCheckDomain platform domainId).attend (DomainNotice.announced platform), before)
      (.ofExcept (.ok ()), after) := steps
  exact Program.steps_attend _ ended []

/-! ### What a check finds out -/

/-- The results of the three lookups; the last is not made unless DNS gave an address. -/
structure CheckOutcome where
  dns : DnsCheckResult
  whois : WhoisCheckResult
  tls : Option TlsCheckResult
deriving Inhabited

/-- The address that DNS gave. -/
def CheckOutcome.address (outcome : CheckOutcome) : Option String :=
  outcome.dns.resolvedIp.filter (· ≠ "")

/-- What the lookups of one check can return together. -/
structure CheckOutcome.Possible (outcome : CheckOutcome) : Prop where
  tls : outcome.tls.isSome = outcome.address.isSome
  registrar : outcome.whois.registrar ≠ some ""

/-- The evaluation of a change of the certificate's status. -/
def certificateTransition (orgId domainId : Nat)
    (change : SslCertificateStatus × SslCertificateStatus) : EvaluateTransitionInput :=
  { orgId := orgId
    entityType := .sslCertificate
    entityId := domainId
    previousStatus := change.1.text
    newStatus := change.2.text }

/-- What a check tells of its TLS result. -/
def tlsNotices (domain : Domain) (previous : SslCertificateStatus) :
    Option TlsCheckResult → List DomainNotice
  | none => []
  | some tls =>
      [.tls tls, .transition (certificateTransition domain.orgId domain.id
        (previous, tls.status))]

/-- The certificate entry of a check. -/
def certificateEntry (domainId : Nat) : Option TlsCheckResult → HealthCheckLog
  | none => newHealthCheckLog .sslCertificate domainId "skipped"
      (.obj [("reason", .str "DNS did not resolve; nothing to connect to")])
  | some tls => newHealthCheckLog .sslCertificate domainId tls.status.text tls.rawOutput

def dnsEntry (domainId : Nat) (dns : DnsCheckResult) : HealthCheckLog :=
  newHealthCheckLog .domain domainId dns.status.text
    (.obj (("check", .str "dns") :: dns.rawOutput))

def whoisEntry (domainId : Nat) (whois : WhoisCheckResult) : HealthCheckLog :=
  newHealthCheckLog .domain domainId (if whois.ok then "whois_ok" else "whois_failed")
    (.obj (("check", .str "whois") :: whois.rawOutput))

/-- One entry for each lookup. -/
def CheckOutcome.entries (domainId : Nat) (outcome : CheckOutcome) : List HealthCheckLog :=
  [dnsEntry domainId outcome.dns, whoisEntry domainId outcome.whois,
    certificateEntry domainId outcome.tls]

/-- The log, but for the ids of its rows. -/
def Database.entries (db : Database) : List HealthCheckLog :=
  db.healthCheckLogs.rows.map fun log => { log with id := 0 }

/-- A record holds what one TLS result says, or what a new one does. -/
structure ShowsResult (platform : Platform) (domainId : Nat) (tls : Option TlsCheckResult)
    (certificate : SSLCertificate) : Prop where
  domainId : certificate.domainId = domainId
  status : certificate.status = (tls.map TlsCheckResult.status).getD .unknown
  issuer : certificate.issuer =
    (tls.bind TlsCheckResult.issuer).map platform.columnText
  validFrom : dateColumn (tls.bind TlsCheckResult.validFrom) = .ok certificate.validFrom
  validTo : dateColumn (tls.bind TlsCheckResult.validTo) = .ok certificate.validTo

/-- What a check leaves of the domain's certificate record and of the log. -/
structure CertificateChecked (platform : Platform) (domainId : Nat)
    (certificate : SSLCertificate) (tls : Option TlsCheckResult) (db after : Database) :
    Prop where
  domains : after.domains = db.domains
  entries : after.entries = db.entries ++ [certificateEntry domainId tls]
  shown : ∀ earlier, ShowsResult platform domainId earlier certificate →
    ∃ row ∈ after.certificates, ShowsResult platform domainId (tls.or earlier) row

/-- What one check does to its domain. -/
structure Checked (platform : Platform) (domain : Domain) (certificate : SSLCertificate)
    (outcome : CheckOutcome) (db after : Database) : Prop where
  possible : outcome.Possible
  stored : ∃ checkedAt, after.domains.byId domain.id =
    some (checkedDomain domain outcome.dns outcome.whois checkedAt)
  entries : after.entries = db.entries ++ outcome.entries domain.id
  shown : ∀ earlier, ShowsResult platform domain.id earlier certificate →
    ∃ row ∈ after.certificates, ShowsResult platform domain.id (outcome.tls.or earlier) row

/-! ### Single calls -/

section Calls

variable {db after : Database} {platform : Platform}

/-- Lookups leave the database alone. -/
theorem returning_lookup {α : Type} {program : Job α} {allowed : Call → Prop}
    {good : α → Prop} (only : program.Only allowed)
    (spares : ∀ (call : Call) reply after, allowed call →
      Answered (fun _ => True) db call reply after → after = db)
    (ends : program.Ends fun outcome => ∀ value, outcome = .ok value → good value) :
    program.Returning failingAnswers (fun value after => after = db ∧ good value) db := by
  apply only.followsKeeping (· = db)
  · intro ghost op same allows
    trivial
  · intro ghost op reply after same allows answered
    rw [same] at answered
    exact spares op reply after allows answered
  · apply ends.mono
    intro outcome holds ghost same value isOk
    exact ⟨same, holds value isOk⟩
  · rfl

theorem Call.OfLookup.spares (call : Call) (reply : Except JsError call.Reply)
    (after : Database) (ofLookup : call.OfLookup)
    (answered : Answered (fun _ => True) db call reply after) : after = db := by
  cases call with
  | query q => cases ofLookup
  | _ => exact answered.2

theorem Call.OfHandshake.spares (call : Call) (reply : Except JsError call.Reply)
    (after : Database) (ofHandshake : call.OfHandshake)
    (answered : Answered (fun _ => True) db call reply after) : after = db := by
  cases call with
  | query q => cases ofHandshake
  | _ => exact answered.2

theorem performDnsCheck_ends (hostname : String) :
    (performDnsCheck hostname).Ends fun outcome => ∀ result, outcome = .ok result →
      result.resolvedIp = none ∨ result.status = .resolving := by
  unfold performDnsCheck
  rw [Program.tryCatch_eq, Program.ends_tryCatch, Program.bind_eq, Program.ends_bind]
  apply Program.ends_of_all
  intro outcome
  cases outcome with
  | ok addresses =>
      intro result same
      cases same
      exact .inr rfl
  | error error =>
      intro result same
      cases same
      exact .inl rfl

/-- No text that is picked is empty. -/
theorem pickField_nonempty {record : Json} {candidates : List String} {picked : Option String}
    (picks : pickField record candidates = .ok picked) : picked ≠ some "" := by
  intro isEmpty
  subst isEmpty
  unfold pickField at picks
  split at picks
  · cases picks
  · obtain ⟨candidate, -, found⟩ :=
      List.exists_of_findSome?_eq_some (Except.ok.inj picks)
    split at found
    · split at found
      · cases found
      · next text differs =>
        cases found
        exact differs rfl
    · cases found

theorem performWhoisLookup_ends (hostname : String) :
    (performWhoisLookup platform hostname).Ends fun outcome => ∀ result,
      outcome = .ok result → result.registrar ≠ some "" := by
  unfold performWhoisLookup
  rw [Program.tryCatch_eq, Program.ends_tryCatch, Program.bind_eq, Program.ends_bind]
  apply Program.ends_of_all
  intro outcome
  cases outcome with
  | error error =>
      intro result same
      cases same
      simp
  | ok record =>
      simp only [Program.bind_eq, Program.ends_bind, Program.ends_ofExcept]
      cases picks : pickField record registrarFieldNames with
      | error error =>
          intro result same
          cases same
          simp
      | ok registrar =>
          cases pickField record expiryFieldNames with
          | error error =>
              intro result same
              cases same
              simp
          | ok expiryRaw =>
              intro result same
              cases same
              exact pickField_nonempty picks

/-- A query that returns has been performed. -/
theorem returning_query {q : Query} {post : q.Reply → Database → Prop}
    (performed : ∀ value after, db.perform q = (.ok value, after) → post value after) :
    (query q).Returning failingAnswers post db := by
  apply Program.returning_perform
  intro value after answered
  exact performed value after (Answered.performed answered)

theorem performTlsCheck_returning (resolvedIp hostname : String) :
    (performTlsCheck platform resolvedIp hostname).Returning failingAnswers
      (fun _ after => after = db) db := by
  have ends : (performTlsCheck platform resolvedIp hostname).Ends fun outcome =>
      ∀ value, outcome = .ok value → True := Program.ends_of_all fun _ _ _ => trivial
  apply Program.Returning.mono (returning_lookup (performTlsCheck_only _ _ _)
    Call.OfHandshake.spares ends)
  rintro result after ⟨same, -⟩
  exact same

theorem saveCertificate_returning (row : SSLCertificate) :
    (query (.saveCertificate row)).Returning failingAnswers
      (fun _ after => ∃ certificates, db.certificates.save row = some certificates ∧
        after = { db with certificates := certificates }) db := by
  apply returning_query
  intro value after performed
  obtain ⟨certificates, saves, -⟩ :=
    Database.answer_eq_ok.mp (congrArg Prod.fst performed)
  simp only [Database.perform, saves, Option.map_some] at performed
  exact ⟨certificates, saves, (congrArg Prod.snd performed).symm⟩

theorem findDomain_returning {domainId : Nat} {domain : Domain}
    (found : db.domains.byId domainId = some domain) :
    (query (.findDomain domainId)).Returning failingAnswers
      (fun row after => row = some domain ∧ after = db) db := by
  apply returning_query
  intro row after performed
  cases performed
  exact ⟨found, rfl⟩

theorem saveDomain_returning (row : Domain) :
    (query (.saveDomain row)).Returning failingAnswers
      (fun _ after => ∃ domains, db.domains.save row = some domains ∧
        after = { db with domains := domains }) db := by
  apply returning_query
  intro value after performed
  obtain ⟨domains, saves, -⟩ := Database.answer_eq_ok.mp (congrArg Prod.fst performed)
  simp only [Database.perform, saves, Option.map_some] at performed
  exact ⟨domains, saves, (congrArg Prod.snd performed).symm⟩

theorem now_returning : now.Returning failingAnswers (fun _ after => after = db) db := by
  apply Program.returning_perform
  rintro value after ⟨-, same⟩
  exact same

theorem writeHealthCheckLog_returning (entityType : HealthCheckEntityType) (entityId : Nat)
    (status : String) (rawOutput : Json) :
    (writeHealthCheckLog entityType entityId status rawOutput).Returning failingAnswers
      (fun _ after => SameRecords db after ∧ after.entries = db.entries ++
        [newHealthCheckLog entityType entityId status rawOutput]) db := by
  apply returning_query
  intro value after performed
  obtain ⟨⟨row, logs⟩, inserts, -⟩ := Database.answer_eq_ok.mp (congrArg Prod.fst performed)
  simp only [Database.perform, inserts, Option.map_some] at performed
  obtain rfl := (congrArg Prod.snd performed).symm
  apply And.intro ⟨rfl, rfl⟩
  have rows := Table.insert_rows rfl inserts
  have isRow := (Table.insert_eq_some.mp inserts).1
  change logs.rows.map _ = db.healthCheckLogs.rows.map _ ++ _
  rw [rows, List.map_append, isRow]
  rfl

/-- Evaluating alerts touches neither the records nor the log. -/
theorem transition_returning (input : EvaluateTransitionInput) :
    ((DomainNotice.transition input).announced platform).Returning failingAnswers
      (fun _ after => SameRecords db after ∧ after.entries = db.entries) db := by
  apply Program.Follows.mono (evaluateTransition_keeps platform input
    (fun after => SameRecords db after ∧ after.entries = db.entries) _ ⟨.refl db, rfl⟩)
  · rintro outcome after ⟨-, -, same⟩ value -
    exact same
  · rintro state call reply after ⟨same, sameEntries⟩ ofAlerts answered
    apply And.intro (same.trans (Call.SparesRecords.same ofAlerts.sparesRecords answered))
    rw [← sameEntries]
    apply Answered.field Database.entries answered
    rintro q rfl
    cases q with
    | findAlertRules orgId entityType condition => rfl
    | findRecentSend ruleId entityId cutoff => rfl
    | saveAlertLog log => exact Database.answer_frame Database.entries _ _ fun _ => rfl
    | _ => cases ofAlerts

end Calls

/-! ### One check -/

section Checks

variable {db : Database} (platform : Platform)

/-- What a record is given shows the result it is from. -/
theorem showsResult_saved {domainId : Nat} {certificate : SSLCertificate} (tls : TlsCheckResult)
    {validFrom validTo lastCheckedAt : Option Date} (ofDomain : certificate.domainId = domainId)
    (readsFrom : dateColumn tls.validFrom = .ok validFrom)
    (readsTo : dateColumn tls.validTo = .ok validTo) :
    ShowsResult platform domainId (some tls)
      { certificate with
        status := tls.status
        issuer := tls.issuer.map platform.columnText
        validFrom := validFrom
        validTo := validTo
        lastCheckedAt := lastCheckedAt } where
  domainId := ofDomain
  status := rfl
  issuer := rfl
  validFrom := readsFrom
  validTo := readsTo

/-- The record of a domain is found by the domain's id. -/
theorem findCertificate_returning {certificate : SSLCertificate} {domainId : Nat}
    (held : certificate ∈ db.certificates) (ofDomain : certificate.domainId = domainId) :
    (query (.findCertificate domainId)).Returning failingAnswers
      (fun found after => found = some certificate ∧ after = db) db := by
  apply returning_query
  intro found after performed
  cases performed
  apply And.intro _ rfl
  cases finds : db.certificates.findOne fun row => row.domainId == domainId with
  | none =>
      have absent := Table.findOne_none.mp finds certificate held
      simp [ofDomain] at absent
  | some row =>
      obtain ⟨member, sameDomain⟩ := Table.findOne_mem finds
      have rowDomain : row.domainId = domainId := by simpa using sameDomain
      exact congrArg some (Table.eq_of_index member held rfl
        (congrArg some (ofDomain.trans rowDomain.symm)))

variable {platform}

/-- Telling what has been found out, and what comes after it. -/
theorem returning_told {notice : DomainNotice} {notices : List DomainNotice} {α : Type}
    {rest : Unit → NoticedJob DomainNotice α} {post : α → Database × List DomainNotice → Prop}
    (silent : notice.announced platform = .pure ())
    (returns : (rest ()).Returning (failingAnswers.noting (DomainNotice.announced platform))
      post (db, notices ++ [notice])) :
    ((Program.notify notice).bind rest).Returning
      (failingAnswers.noting (DomainNotice.announced platform)) post (db, notices) := by
  have announces : (notice.announced platform).Returning failingAnswers
      (fun _ after => after = db) db := by
    rw [silent]
    exact Program.returning_pure rfl
  apply Program.returning_notify_bind announces
  rintro after rfl
  exact returns

variable (platform)

theorem observedCheckTls_returning {domain : Domain} {certificate : SSLCertificate}
    (held : certificate ∈ db.certificates) (ofDomain : certificate.domainId = domain.id)
    (resolvedIp : String) (notices : List DomainNotice) :
    (observedCheckTls platform domain resolvedIp).Returning
      (failingAnswers.noting (DomainNotice.announced platform))
      (fun _ after => ∃ tls,
        CertificateChecked platform domain.id certificate (some tls) db after.1 ∧
          after.2 = notices ++ tlsNotices domain certificate.status (some tls))
      (db, notices) := by
  unfold observedCheckTls
  apply Program.Returning.lift_bind (performTlsCheck_returning _ _)
  rintro tls connected rfl
  apply returning_told rfl
  apply Program.Returning.lift_bind (writeHealthCheckLog_returning _ _ _ _)
  rintro log logged ⟨sameRecords, entered⟩
  have stillHeld : certificate ∈ logged.certificates := by
    rw [sameRecords.certificates]
    exact held
  apply Program.Returning.lift_bind (findCertificate_returning stillHeld ofDomain)
  rintro found after ⟨rfl, rfl⟩
  apply Program.Returning.lift_bind now_returning
  rintro lastCheckedAt timed rfl
  apply Program.returning_ofExcept_bind
  intro validFrom readsFrom
  apply Program.returning_ofExcept_bind
  intro validTo readsTo
  apply Program.Returning.lift_bind (saveCertificate_returning _)
  rintro saved stored ⟨certificates, saves, rfl⟩
  apply Program.Returning.mono
    (Program.returning_notify (transition_returning _))
  rintro value ⟨after, noticesAfter⟩ ⟨⟨same, sameEntries⟩, rfl⟩
  refine ⟨tls, ⟨?_, ?_, ?_⟩, ?_⟩
  · exact same.domains.trans sameRecords.domains
  · exact sameEntries.trans entered
  · intro earlier shows
    have written := (Table.mem_save saves).mpr (.inl rfl)
    rw [same.certificates]
    exact ⟨_, written, showsResult_saved platform tls ofDomain readsFrom readsTo⟩
  · simp [tlsNotices, certificateTransition]

/-- What a check does where DNS gave no address. -/
theorem skipped_returning {domain : Domain} {certificate : SSLCertificate}
    (held : certificate ∈ db.certificates) (notices : List DomainNotice) :
    ((writeHealthCheckLog .sslCertificate domain.id "skipped"
        (.obj [("reason", .str "DNS did not resolve; nothing to connect to")])).lift.bind
        fun _ => .pure ()).Returning (failingAnswers.noting (DomainNotice.announced platform))
      (fun _ after =>
        CertificateChecked platform domain.id certificate none db after.1 ∧
          after.2 = notices ++ tlsNotices domain certificate.status none)
      (db, notices) := by
  apply Program.Returning.lift_bind (writeHealthCheckLog_returning _ _ _ _)
  rintro log logged ⟨same, entered⟩
  apply Program.returning_pure
  apply And.intro _ (List.append_nil notices).symm
  constructor
  · exact same.domains
  · exact entered
  · intro earlier shows
    rw [same.certificates]
    exact ⟨certificate, held, shows⟩

theorem observedCheckCertificate_returning {domain : Domain} {certificate : SSLCertificate}
    (held : certificate ∈ db.certificates) (ofDomain : certificate.domainId = domain.id)
    {dnsResult : DnsCheckResult}
    (resolves : dnsResult.resolvedIp = none ∨ dnsResult.status = .resolving)
    (notices : List DomainNotice) :
    (observedCheckCertificate platform domain dnsResult).Returning
      (failingAnswers.noting (DomainNotice.announced platform))
      (fun _ after => ∃ tls : Option TlsCheckResult,
        tls.isSome = (dnsResult.resolvedIp.filter (· ≠ "")).isSome ∧
          CertificateChecked platform domain.id certificate tls db after.1 ∧
          after.2 = notices ++ tlsNotices domain certificate.status tls)
      (db, notices) := by
  unfold observedCheckCertificate
  cases given : dnsResult.resolvedIp.filter (· ≠ "") with
  | some resolvedIp =>
      have isResolving : dnsResult.status = .resolving := by
        rcases resolves with absent | isResolving
        · rw [absent] at given
          cases given
        · exact isResolving
      rw [isResolving]
      apply Program.Returning.mono (observedCheckTls_returning platform held ofDomain _ _)
      rintro value after ⟨tls, checked⟩
      exact ⟨some tls, rfl, checked⟩
  | none =>
      cases dnsResult.status <;>
        exact (skipped_returning platform held notices).mono fun _ _ checked =>
          ⟨none, rfl, checked⟩

theorem observedCheckDomain_returning {domain : Domain} {certificate : SSLCertificate}
    (found : db.domains.byId domain.id = some domain)
    (held : certificate ∈ db.certificates) (ofDomain : certificate.domainId = domain.id) :
    (observedCheckDomain platform domain.id).Returning
      (failingAnswers.noting (DomainNotice.announced platform))
      (fun _ after => ∃ outcome : CheckOutcome,
        Checked platform domain certificate outcome db after.1 ∧
          after.2 = .dns outcome.dns :: .whois outcome.whois ::
            tlsNotices domain certificate.status outcome.tls)
      (db, []) := by
  unfold observedCheckDomain
  apply Program.Returning.lift_bind (findDomain_returning found)
  rintro row read ⟨rfl, rfl⟩
  apply Program.Returning.lift_bind
    (returning_lookup (performDnsCheck_only _) Call.OfLookup.spares (performDnsCheck_ends _))
  rintro dns resolved ⟨rfl, resolves⟩
  apply returning_told rfl
  apply Program.Returning.lift_bind (writeHealthCheckLog_returning _ _ _ _)
  rintro dnsLog dnsLogged ⟨sameDns, dnsEntered⟩
  apply Program.Returning.lift_bind (returning_lookup (performWhoisLookup_only _ _)
    Call.OfLookup.spares (performWhoisLookup_ends _))
  rintro whois lookedUp ⟨rfl, registrar⟩
  apply returning_told rfl
  apply Program.Returning.lift_bind (writeHealthCheckLog_returning _ _ _ _)
  rintro whoisLog whoisLogged ⟨sameWhois, whoisEntered⟩
  apply Program.Returning.lift_bind now_returning
  rintro checkedAt timed rfl
  apply Program.Returning.lift_bind (saveDomain_returning _)
  rintro saved stored ⟨domains, saves, rfl⟩
  have stillHeld : certificate ∈
      ({ timed with domains := domains } : Database).certificates := by
    change certificate ∈ timed.certificates
    rw [sameWhois.certificates, sameDns.certificates]
    exact held
  have ofChecked : certificate.domainId =
      (checkedDomain domain dns whois checkedAt).id := ofDomain
  apply Program.Returning.mono
    (observedCheckCertificate_returning platform stillHeld ofChecked resolves _)
  rintro value ⟨after, noticesAfter⟩ ⟨tls, hasTls, checked, rfl⟩
  refine ⟨⟨dns, whois, tls⟩, ⟨⟨hasTls, registrar⟩, ⟨checkedAt, ?_⟩, ?_, ?_⟩, ?_⟩
  · rw [checked.domains]
    exact (Table.byId_save saves).trans (if_pos rfl)
  · rw [checked.entries]
    change timed.entries ++ _ = _
    rw [whoisEntered, dnsEntered]
    simp [CheckOutcome.entries, dnsEntry, whoisEntry, checkedDomain]
  · exact checked.shown
  · simp [checkedDomain, tlsNotices]

end Checks

/-! ### Folding the outcomes -/

section Folds

variable {α : Type}

/-- The most recent value that the checks have given. -/
def latestValue (value : CheckOutcome → Option α) (outcomes : List CheckOutcome) : Option α :=
  (outcomes.filterMap value).getLast?

@[simp] theorem latestValue_append (value : CheckOutcome → Option α) (outcomes : List CheckOutcome)
    (outcome : CheckOutcome) :
    latestValue value (outcomes ++ [outcome]) =
      (value outcome).or (latestValue value outcomes) := by
  unfold latestValue
  rw [List.filterMap_append, List.getLast?_append]
  cases given : value outcome with
  | none => simp [given]
  | some value => simp [given]

/-- The latest check in which DNS gave an address. -/
def latestReached (outcomes : List CheckOutcome) : Option CheckOutcome :=
  (outcomes.filter fun outcome => outcome.address.isSome).getLast?

theorem latestValue_tls {outcomes : List CheckOutcome}
    (possible : ∀ outcome ∈ outcomes, outcome.Possible) :
    latestValue CheckOutcome.tls outcomes = (latestReached outcomes).bind CheckOutcome.tls := by
  induction outcomes using List.reverseRecOn with
  | nil => rfl
  | append_singleton outcomes outcome inductionHypothesis =>
      have earlier := inductionHypothesis fun other member =>
        possible other (List.mem_append_left _ member)
      have hasTls := (possible outcome (List.mem_append_right _ (.head _))).tls
      rw [latestValue_append, earlier]
      unfold latestReached
      rw [List.filter_append, List.getLast?_append]
      cases given : outcome.tls with
      | none =>
          rw [given] at hasTls
          simp [← hasTls]
      | some tls =>
          rw [given] at hasTls
          simp [← hasTls, given]

/-- Each value behind the one before it. -/
def consecutive (first : α) : List α → List (α × α)
  | [] => []
  | next :: values => (first, next) :: consecutive next values

theorem consecutive_append (first : α) (values : List α) (last : α) :
    consecutive first (values ++ [last]) =
      consecutive first values ++ [(values.getLast?.getD first, last)] := by
  induction values generalizing first with
  | nil => rfl
  | cons next values inductionHypothesis =>
      simp [consecutive, inductionHypothesis, List.getLast?_cons]

end Folds

/-- The statuses that the certificate's checks have found. -/
def certificateStatuses (outcomes : List CheckOutcome) : List SslCertificateStatus :=
  outcomes.filterMap fun outcome => outcome.tls.map TlsCheckResult.status

theorem certificateStatuses_append (outcomes : List CheckOutcome) (outcome : CheckOutcome) :
    certificateStatuses (outcomes ++ [outcome]) =
      certificateStatuses outcomes ++ (outcome.tls.map TlsCheckResult.status).toList := by
  unfold certificateStatuses
  rw [List.filterMap_append]
  cases given : outcome.tls <;> simp [given]

theorem certificateStatuses_last (outcomes : List CheckOutcome) :
    (certificateStatuses outcomes).getLast? =
      (latestValue CheckOutcome.tls outcomes).map TlsCheckResult.status := by
  unfold certificateStatuses latestValue
  rw [← List.getLast?_map, List.map_filterMap]

/-- The consecutive differences of a sequence of statuses that starts from unknown. -/
def differences (statuses : List SslCertificateStatus) :
    List (SslCertificateStatus × SslCertificateStatus) :=
  (consecutive .unknown statuses).filter fun change => change.1 ≠ change.2

def DomainNotice.isFinding : DomainNotice → Bool
  | .transition _ => false
  | _ => true

def DomainNotice.evaluated : DomainNotice → Option EvaluateTransitionInput
  | .transition input => some input
  | _ => none

/-- What a check has told are these results, each of them once. -/
def CheckOutcome.Told (outcome : CheckOutcome) (notices : List DomainNotice) : Prop :=
  notices.filter DomainNotice.isFinding =
    .dns outcome.dns :: .whois outcome.whois :: outcome.tls.toList.map .tls

/-- The evaluations that the checks have asked for. -/
def evaluations (checks : List (List DomainNotice)) : List EvaluateTransitionInput :=
  checks.flatten.filterMap DomainNotice.evaluated

/-- Those whose status has changed: of any other nothing is evaluated. -/
def transitions (checks : List (List DomainNotice)) : List EvaluateTransitionInput :=
  (evaluations checks).filter fun input => input.previousStatus ≠ input.newStatus

/-- A domain as the outcomes of its checks have made it. -/
structure DomainShows (created : Domain) (outcomes : List CheckOutcome) (domain : Domain) :
    Prop where
  id : domain.id = created.id
  orgId : domain.orgId = created.orgId
  dnsStatus : domain.dnsStatus =
    (outcomes.getLast?.map fun last => last.dns.status).getD .unknown
  resolvedIp : domain.resolvedIp = outcomes.getLast?.bind fun last => last.dns.resolvedIp
  registrar : domain.registrar = latestValue (fun outcome => outcome.whois.registrar) outcomes
  domainExpiresAt : domain.domainExpiresAt =
    latestValue (fun outcome => outcome.whois.expiresAt) outcomes

/-- The state that the outcomes of a domain's checks add up to. -/
structure Folded (platform : Platform) (created : Domain) (start : Database)
    (outcomes : List CheckOutcome) (db : Database) : Prop where
  possible : ∀ outcome ∈ outcomes, outcome.Possible
  domain : ∃ domain, db.domains.byId created.id = some domain ∧
    DomainShows created outcomes domain
  certificate : ∃ certificate ∈ db.certificates,
    ShowsResult platform created.id (latestValue CheckOutcome.tls outcomes) certificate
  entries : db.entries = start.entries ++ outcomes.flatMap (CheckOutcome.entries created.id)

section Fold

variable {platform : Platform} {created : Domain} {start db after : Database}
  {outcomes : List CheckOutcome} {notices : List DomainNotice}

theorem CheckRun.checked {domain : Domain} {certificate : SSLCertificate}
    (run : CheckRun platform domain.id db notices after)
    (found : db.domains.byId domain.id = some domain) (held : certificate ∈ db.certificates)
    (ofDomain : certificate.domainId = domain.id) :
    ∃ outcome : CheckOutcome, Checked platform domain certificate outcome db after ∧
      notices = .dns outcome.dns :: .whois outcome.whois ::
        tlsNotices domain certificate.status outcome.tls := by
  have ended : Program.Steps (failingAnswers.noting (DomainNotice.announced platform))
      (observedCheckDomain platform domain.id, (db, []))
      (.ofExcept (.ok ()), (after, notices)) := run
  exact (observedCheckDomain_returning platform found held ofDomain).steps ended () rfl

/-- A check's domain shows its outcome behind those before it. -/
theorem DomainShows.check {domain : Domain} (shows : DomainShows created outcomes domain)
    {outcome : CheckOutcome} (possible : outcome.Possible) (checkedAt : Date) :
    DomainShows created (outcomes ++ [outcome])
      (checkedDomain domain outcome.dns outcome.whois checkedAt) where
  id := shows.id
  orgId := shows.orgId
  dnsStatus := by simp [checkedDomain]
  resolvedIp := by simp [checkedDomain]
  registrar := by
    rw [latestValue_append, ← shows.registrar]
    have kept : outcome.whois.registrar.filter (· ≠ "") = outcome.whois.registrar := by
      cases given : outcome.whois.registrar with
      | none => rfl
      | some registrar =>
          have nonempty : registrar ≠ "" := fun isEmpty =>
            possible.registrar (given.trans (congrArg some isEmpty))
          simp [Option.filter, nonempty]
    unfold checkedDomain
    rw [kept]
  domainExpiresAt := by
    rw [latestValue_append, ← shows.domainExpiresAt]
    rfl

/-- One check adds its outcome. -/
theorem Folded.check (folded : Folded platform created start outcomes db)
    (run : CheckRun platform created.id db notices after) :
    ∃ outcome : CheckOutcome, Folded platform created start (outcomes ++ [outcome]) after ∧
      outcome.Told notices ∧
      notices.filterMap DomainNotice.evaluated =
        (outcome.tls.map TlsCheckResult.status).toList.map fun status =>
          certificateTransition created.orgId created.id
            ((certificateStatuses outcomes).getLast?.getD .unknown, status) := by
  obtain ⟨domain, found, shows⟩ := folded.domain
  obtain ⟨certificate, held, shown⟩ := folded.certificate
  rw [← shows.id] at run found shown
  obtain ⟨outcome, checked, rfl⟩ := run.checked found held shown.domainId
  refine ⟨outcome, ?_, ?_, ?_⟩
  · constructor
    · intro other member
      rcases List.mem_append.mp member with earlier | last
      · exact folded.possible other earlier
      · rw [List.mem_singleton.mp last]
        exact checked.possible
    · obtain ⟨checkedAt, stored⟩ := checked.stored
      rw [shows.id] at stored
      exact ⟨_, stored, shows.check checked.possible checkedAt⟩
    · rw [latestValue_append, ← shows.id]
      exact checked.shown _ shown
    · rw [checked.entries, folded.entries, shows.id]
      simp
  · unfold CheckOutcome.Told
    cases outcome.tls <;> rfl
  · rw [certificateStatuses_last, ← shown.status, ← shows.orgId, ← shows.id]
    cases outcome.tls <;> rfl

/-- Any number of checks add up. -/
theorem CheckRuns.folded {checks : List (List DomainNotice)}
    (runs : CheckRuns platform created.id start checks db)
    (begins : Folded platform created start [] start) :
    ∃ outcomes, Folded platform created start outcomes db ∧
      List.Forall₂ CheckOutcome.Told outcomes checks ∧
      evaluations checks = (consecutive .unknown (certificateStatuses outcomes)).map
        (certificateTransition created.orgId created.id) := by
  induction runs with
  | start => exact ⟨[], begins, .nil, rfl⟩
  | check earlier run inductionHypothesis =>
      obtain ⟨outcomes, folded, told, evaluated⟩ := inductionHypothesis
      obtain ⟨outcome, foldedAfter, toldLast, evaluatedLast⟩ := folded.check run
      refine ⟨outcomes ++ [outcome], foldedAfter, ?_, ?_⟩
      · exact List.rel_append told (.cons toldLast .nil)
      · unfold evaluations at evaluated ⊢
        rw [List.flatten_append, List.filterMap_append, evaluated]
        simp only [List.flatten_cons, List.flatten_nil, List.append_nil, evaluatedLast,
          certificateStatuses_append]
        cases outcome.tls with
        | none => simp
        | some tls => simp [consecutive_append]

end Fold

/-! ### What the checks add up to -/

section Sums

variable {platform : Platform}

theorem SslCertificateStatus.text_inj {status other : SslCertificateStatus} :
    status.text = other.text ↔ status = other := by
  constructor
  · intro same
    cases status <;> cases other <;> first | rfl | simp [SslCertificateStatus.text] at same
  · rintro rfl
    rfl

/-- What remains of the evaluations are the differences. -/
theorem transitions_eq {checks : List (List DomainNotice)} {orgId domainId : Nat}
    {statuses : List SslCertificateStatus}
    (evaluated : evaluations checks =
      (consecutive .unknown statuses).map (certificateTransition orgId domainId)) :
    transitions checks = (differences statuses).map (certificateTransition orgId domainId) := by
  unfold transitions differences
  rw [evaluated, List.filter_map]
  congr 1
  apply List.filter_congr
  intro change member
  simp [certificateTransition, SslCertificateStatus.text_inj]

/-- A domain as it is registered shows no outcome. -/
theorem folded_created {start : Database} {orgId id certificateId : Nat}
    {dto : CreateDomainDto}
    (created : start.domains.byId id = some { newDomain orgId dto with id := id })
    (certified : { newCertificate id with id := certificateId } ∈ start.certificates) :
    Folded platform { newDomain orgId dto with id := id } start [] start where
  possible := by
    intro outcome member
    cases member
  domain := ⟨_, created, ⟨rfl, rfl, rfl, rfl, rfl, rfl⟩⟩
  certificate := ⟨_, certified, ⟨rfl, rfl, rfl, rfl, rfl⟩⟩
  entries := (List.append_nil _).symm

/-- After any checks of a new domain, its row holds the last DNS result and the most
recent registrar and expiry date that WHOIS has given, its certificate record one TLS
result, that of the latest check in which DNS gave an address, the log three entries for
each check, and the transitions evaluated are the changes of the certificate's status. -/
theorem checks_folded {start db : Database} {orgId id certificateId : Nat}
    {dto : CreateDomainDto} {checks : List (List DomainNotice)}
    (created : start.domains.byId id = some { newDomain orgId dto with id := id })
    (certified : { newCertificate id with id := certificateId } ∈ start.certificates)
    (nonempty : checks ≠ []) (runs : CheckRuns platform id start checks db) :
    ∃ (outcomes : List CheckOutcome) (last : CheckOutcome),
      List.Forall₂ CheckOutcome.Told outcomes checks ∧
      (∀ outcome ∈ outcomes, outcome.tls.isSome = outcome.address.isSome) ∧
      outcomes.getLast? = some last ∧
      (∃ domain, db.domains.byId id = some domain ∧
        domain.dnsStatus = last.dns.status ∧
        domain.resolvedIp = last.dns.resolvedIp ∧
        domain.registrar = latestValue (fun outcome => outcome.whois.registrar) outcomes ∧
        domain.domainExpiresAt = latestValue (fun outcome => outcome.whois.expiresAt) outcomes) ∧
      (∃ certificate ∈ db.certificates,
        ShowsResult platform id ((latestReached outcomes).bind CheckOutcome.tls) certificate) ∧
      db.entries = start.entries ++ outcomes.flatMap (CheckOutcome.entries id) ∧
      transitions checks =
        (differences (certificateStatuses outcomes)).map (certificateTransition orgId id) := by
  obtain ⟨outcomes, folded, told, evaluated⟩ :=
    CheckRuns.folded runs (folded_created created certified)
  have some_last : outcomes ≠ [] := by
    rintro rfl
    cases told
    exact nonempty rfl
  have isLast := List.getLast?_eq_some_getLast some_last
  refine ⟨outcomes, _, told, ?_, isLast, ?_, ?_, folded.entries, transitions_eq evaluated⟩
  · intro outcome member
    exact (folded.possible outcome member).tls
  · obtain ⟨domain, found, shows⟩ := folded.domain
    have dnsStatus := shows.dnsStatus
    have resolvedIp := shows.resolvedIp
    rw [isLast] at dnsStatus resolvedIp
    exact ⟨domain, found, dnsStatus, resolvedIp, shows.registrar, shows.domainExpiresAt⟩
  · rw [← latestValue_tls folded.possible]
    exact folded.certificate

end Sums

/-- A name server that knows the domain's address, and a peer that presents a certificate
until this date. -/
def reachableUntil (validTo : String) : Surroundings :=
  { Surroundings.quiet with
    addresses := ["192.0.2.7"]
    session :=
      { authorized := true
        authorizationError := none
        certificate := some
          { issuer := none
            subject := none
            validFrom := none
            validTo := some validTo } } }

/-- Two dates that can be read. -/
def calendar : Platform :=
  { Platform.transparent with
    parseDate := fun text =>
      if text = "Feb  1 00:00:00 1970 GMT" then some 2678400000
      else if text = "Jan 15 00:00:00 1970 GMT" then some 1209600000
      else none }

/-- A domain that has just been registered. -/
def newlyRegistered : Database :=
  ((createDomain 6 webDomain).run Surroundings.quiet.machine default).2

/-- A check in given surroundings, and what it tells. -/
def checkedIn (surroundings : Surroundings) (db : Database) :
    Except JsError Unit × Database × List DomainNotice :=
  (observedCheckDomain calendar 0).run
    (surroundings.machine.noting (DomainNotice.announced calendar)) (db, [])

theorem checkRun_checkedIn {surroundings : Surroundings} {db : Database}
    (returns : (checkedIn surroundings db).1 = .ok ()) :
    CheckRun calendar 0 db (checkedIn surroundings db).2.2
      (checkedIn surroundings db).2.1 := by
  have answers : ∀ (op : Calls.Call) (state : Database),
      failingAnswers op state (surroundings.machine op state).1
        (surroundings.machine op state).2 :=
    fun op state => surroundings.answered (fun _ _ => trivial) state op
  have steps := Program.run_steps
    (surroundings.machine.noting (DomainNotice.announced calendar))
    (Machine.noting_answers (DomainNotice.announced calendar) answers)
    (observedCheckDomain calendar 0) (db, [])
  unfold checkedIn at returns
  rw [returns] at steps
  exact steps

def firstCheck : Except JsError Unit × Database × List DomainNotice :=
  checkedIn (reachableUntil "Feb  1 00:00:00 1970 GMT") newlyRegistered

/-- The name has no address. -/
def secondCheck : Except JsError Unit × Database × List DomainNotice :=
  checkedIn .quiet firstCheck.2.1

def thirdCheck : Except JsError Unit × Database × List DomainNotice :=
  checkedIn (reachableUntil "Jan 15 00:00:00 1970 GMT") secondCheck.2.1

def threeChecks : List (List DomainNotice) :=
  [firstCheck.2.2, secondCheck.2.2, thirdCheck.2.2]

/-- The peer is reached, then not, and then its certificate is about to expire. -/
theorem checks_folded_expiring :
    CheckRuns calendar 0 newlyRegistered threeChecks thirdCheck.2.1 ∧
      (transitions threeChecks).map (fun input => (input.previousStatus, input.newStatus)) =
        [("unknown", "valid"), ("valid", "expiring_soon")] ∧
      ∃ outcomes : List CheckOutcome,
        List.Forall₂ CheckOutcome.Told outcomes threeChecks ∧
        (∃ certificate ∈ thirdCheck.2.1.certificates,
          ShowsResult calendar 0 ((latestReached outcomes).bind CheckOutcome.tls)
            certificate) ∧
        transitions threeChecks =
          (differences (certificateStatuses outcomes)).map (certificateTransition 6 0) := by
  have runs : CheckRuns calendar 0 newlyRegistered threeChecks thirdCheck.2.1 := by
    have first := CheckRuns.check .start (checkRun_checkedIn (rfl : firstCheck.1 = .ok ()))
    have second := first.check (checkRun_checkedIn (rfl : secondCheck.1 = .ok ()))
    exact second.check (checkRun_checkedIn (rfl : thirdCheck.1 = .ok ()))
  have created : newlyRegistered.domains.byId 0 =
      some { newDomain 6 webDomain with id := 0 } := rfl
  have certified : { newCertificate 0 with id := 0 } ∈ newlyRegistered.certificates :=
    Table.findOne_mem (rfl : newlyRegistered.certificates.byId 0 = some _) |>.1
  obtain ⟨outcomes, last, told, -, -, -, shown, -, evaluated⟩ :=
    checks_folded created certified (List.cons_ne_nil _ _) runs
  exact ⟨runs, by decide +kernel, outcomes, told, shown, evaluated⟩

end ServersManager
