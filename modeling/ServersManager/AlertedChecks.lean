/-
Module: ServersManager.AlertedChecks
Purpose: Host checks with their syncs, and domain checks, serve whatever they make due.
Trusted boundary: none
Main exports:
  HostOf, DomainOf, sync_squares, Squared, checkHost_squares, checkDomain_squares
-/
import ServersManager.AlertServing

namespace ServersManager

open Library

variable {hosts after : Table Host} {domains : Table Domain}
  {early late pairs : List (Nat × Nat)} {state next : Serving} {α β : Type}

/-! ### Service syncs -/

section Jobs

variable (platform : Platform) {host : Host}

/-- What is known of the host of a sync. -/
def HostOf (hosts : Table Host) (id orgId : Nat) : Prop :=
  (hosts.byId id).map Host.orgId = some orgId

/-- Taking a snapshot neither owes an alert nor serves one. -/
theorem captureSnapshotIfImageChanged_idle (service : Service)
    (container : DockerPsContainer) :
    (captureSnapshotIfImageChanged platform host service container).Only Call.Idle := by
  apply (captureSnapshotIfImageChanged_only platform host service container).mono
  intro call ofCapture
  cases call with
  | query q =>
      cases q <;> first
        | exact idle_query ⟨rfl, rfl, rfl, rfl, rfl, rfl⟩ fun _ => rfl
        | cases ofCapture
  | _ => exact ⟨trivial, fun _ => rfl⟩

/-- A service that is saved on a host of its organization leaves the services placed. -/
theorem Placed.save {services saved : Table Service} {row : Service}
    (placed : Placed hosts services) (saves : services.save row = some saved)
    (owned : HostOf hosts row.hostId row.orgId) : Placed hosts saved := by
  intro service member
  rcases (Table.mem_save saves).mp member with rfl | ⟨member, -⟩
  · exact owned
  · exact placed service member

/-- The evaluation of a service whose row has been written. -/
def serviceInput (orgId : Nat) (previousStatus : ServiceStatus) (saved : Service) :
    EvaluateTransitionInput :=
  { orgId := orgId
    entityType := .service
    entityId := saved.id
    previousStatus := previousStatus.text
    newStatus := saved.status.text }

/-- What a change of a service's status owes is what its evaluation serves. -/
theorem serviceInput_due {db : Database} (paired : RulesPaired db) {saved : Service}
    (stored : db.services.byId saved.id = some saved)
    (owned : HostOf db.hosts saved.hostId saved.orgId) (previousStatus : ServiceStatus) :
    (serviceInput saved.orgId previousStatus saved).change.event.toList.flatMap (due db) =
      (serviceInput saved.orgId previousStatus saved).pairs db := by
  apply change_due paired
  · change (db.services.byId saved.id).bind _ = _
    rw [stored]
    exact owned
  · rintro condition ⟨⟩
    exact produces_service saved.status

/-- A service that is new changes from unknown to its first status, which is then owed. -/
theorem insertService_owes {row saved : Service}
    (account : Account hosts domains [] [] state) (owned : HostOf hosts row.hostId row.orgId)
    (answered : servingAnswers (.query (.insertService row)) state (.ok saved) next) :
    Account hosts domains [] ((serviceInput row.orgId .unknown saved).pairs next.database)
      next := by
  obtain ⟨⟨inserted, services⟩, inserts, replied, clock, same⟩ := answered.written rfl
  change saved = inserted at replied
  subst replied
  obtain ⟨made, saves⟩ := Table.insert_eq_some.mp inserts
  have ownedSaved : HostOf hosts saved.hostId saved.orgId := by
    rw [made]
    exact owned
  rw [← made] at saves
  have sameHosts : next.database.hosts = hosts := by
    rw [same]
    exact account.sameHosts
  have sameDomains : next.database.domains = domains := by
    rw [same]
    exact account.sameDomains
  have placed : Placed hosts next.database.services := by
    rw [same]
    exact account.placed.save saves ownedSaved
  have owes := account.owes answered rfl sameHosts sameDomains placed
  have stored : next.database.services.byId saved.id = some saved := by
    rw [same]
    exact (Table.byId_save saves).trans (if_pos rfl)
  have found := serviceInput_due owes.paired stored (by rw [sameHosts]; exact ownedSaved)
    .unknown
  have sameOrg : saved.orgId = row.orgId := by
    rw [made]
  rw [← sameOrg, ← found]
  exact owes

/-- The status that a service has had so far. -/
def Database.statusOf (db : Database) (serviceId : Nat) : ServiceStatus :=
  ((db.services.byId serviceId).map Service.status).getD .unknown

/-- A service that is saved changes from the status it had, which is then owed. -/
theorem saveService_owes {row saved : Service}
    (account : Account hosts domains [] [] state) (owned : HostOf hosts row.hostId row.orgId)
    (answered : servingAnswers (.query (.saveService row)) state (.ok saved) next) :
    saved = row ∧
      Account hosts domains []
        ((serviceInput row.orgId (state.database.statusOf row.id) row).pairs next.database)
        next := by
  obtain ⟨services, saves, replied, clock, same⟩ := answered.written rfl
  have sameHosts : next.database.hosts = hosts := by
    rw [same]
    exact account.sameHosts
  have sameDomains : next.database.domains = domains := by
    rw [same]
    exact account.sameDomains
  have placed : Placed hosts next.database.services := by
    rw [same]
    exact account.placed.save saves owned
  have owes := account.owes answered rfl sameHosts sameDomains placed
  have stored : next.database.services.byId row.id = some row := by
    rw [same]
    exact (Table.byId_save saves).trans (if_pos rfl)
  have found := serviceInput_due owes.paired stored (by rw [sameHosts]; exact owned)
    (state.database.statusOf row.id)
  rw [← found]
  exact ⟨replied, owes⟩

/-- After the write of a service row its log is written, its change is evaluated, and its
image is looked at. -/
theorem upserted_squares {saved : Service} {container : DockerPsContainer}
    {previousStatus : ServiceStatus}
    (account : Account hosts domains []
      ((serviceInput host.orgId previousStatus saved).pairs state.database) state)
    (status : String) (rawOutput : Json) :
    (do
      let _ ← writeHealthCheckLog .service saved.id status rawOutput
      evaluateTransition platform (serviceInput host.orgId previousStatus saved)
      captureSnapshotIfImageChanged platform host saved container : Job Unit).Ensures
        servingAnswers (fun _ after => Account hosts domains [] [] after) state := by
  apply write_bind
  intro written logged answered
  have serves := (idle_query ⟨rfl, rfl, rfl, rfl, rfl, rfl⟩ fun _ => rfl).keeps answered
  apply (Program.follows_bind _ _ _ _ _).mpr
  apply Program.Follows.mono (evaluateTransition_serves platform _ logged)
  rintro outcome evaluated ⟨rfl, served⟩
  apply Squares.idle (captureSnapshotIfImageChanged_idle platform saved container)
  apply (account.idle serves).settled
  rw [serves.rows.inputPairs] at served
  exact served

/-- A listed container is written, and what that owes is served at once. -/
theorem upsertService_squares (owned : HostOf hosts host.id host.orgId)
    (container : DockerPsContainer) (checkedAt : Date) :
    Squares hosts domains (upsertService platform host container checkedAt) := by
  apply Squares.ofExcept_bind
  rintro ⟨image, tag⟩ -
  apply Squares.ofExcept_bind
  intro status _ state account
  apply read_bind (idle_query ⟨rfl, rfl, rfl, rfl, rfl, rfl⟩ fun _ => rfl)
  intro found loaded replied serves
  replace replied : state.database.services.findOne (fun service =>
      service.hostId == host.id &&
        service.containerId == platform.columnText container.id) = found :=
    Except.ok.inj replied
  have accountLoaded := account.idle serves
  cases found with
  | none =>
      apply write_bind
      intro saved written answered
      exact upserted_squares platform (insertService_owes accountLoaded owned answered) _ _
  | some service =>
      obtain ⟨member, matched⟩ := Table.findOne_mem replied
      simp only [Bool.and_eq_true, beq_iff_eq] at matched
      have ownedRow : HostOf hosts service.hostId service.orgId := account.placed service member
      have sameOrg : service.orgId = host.orgId := by
        have placed := ownedRow
        rw [HostOf, matched.1] at placed
        exact Option.some.inj (placed.symm.trans owned)
      let row := upsertRow platform host container image tag status checkedAt (some service)
      have held : loaded.database.statusOf row.id = service.status := by
        have stored : loaded.database.services.byId row.id = some service := by
          rw [serves.rows.services]
          exact Table.byId_self member
        rw [Database.statusOf, stored]
        rfl
      have rowOwned : HostOf hosts row.hostId row.orgId := ownedRow
      have rowOrg : row.orgId = host.orgId := sameOrg
      apply write_bind
      intro saved written answered
      obtain ⟨rfl, owes⟩ := saveService_owes accountLoaded rowOwned answered
      rw [rowOrg, held] at owes
      exact upserted_squares platform owes _ _

/-- So is every container of a listing; the induction is on the listing. -/
theorem upsertServices_squares (owned : HostOf hosts host.id host.orgId) (checkedAt : Date)
    (containers : List DockerPsContainer) :
    Squares hosts domains (upsertServices platform host checkedAt containers) := by
  induction containers with
  | nil => exact .pure ()
  | cons container containers inductionHypothesis =>
      apply Squares.bind (upsertService_squares platform owned container checkedAt)
      intro upserted
      exact inductionHypothesis

/-- No rule can be about a service that runs, or of which nothing is known. -/
theorem serviceInput_unalerted {db : Database} (paired : RulesPaired db) (orgId : Nat)
    (previousStatus : ServiceStatus) {saved : Service}
    (status : saved.status = .running ∨ saved.status = .unknown) :
    (serviceInput orgId previousStatus saved).pairs db = [] := by
  unfold EvaluateTransitionInput.pairs
  split
  · rfl
  · apply rulePairs_eq_nil paired
    change ∀ option ∈ alertConditionOptions,
      option.1 ≠ "service_status_transitioned_to:" ++ saved.status.text
    rcases status with runs | unknown
    · rw [runs]
      decide
    · rw [unknown]
      decide

/-- The save of a service that runs, or of which nothing is known, makes nothing due. -/
theorem saveUnalerted_bind {row : Service} {rest : Service → Job β}
    (owned : HostOf hosts row.hostId row.orgId)
    (status : row.status = .running ∨ row.status = .unknown)
    (squaresRest : Squares hosts domains (rest row)) :
    Squares hosts domains ((query (.saveService row)).bind rest) := by
  intro state account
  apply write_bind
  intro saved written answered
  obtain ⟨same, owes⟩ := saveService_owes account owned answered
  rw [serviceInput_unalerted owes.paired _ _ status] at owes
  rw [same]
  exact squaresRest written owes

/-- A service that is marked unknown owes nothing. -/
theorem markUnknown_squares (checkedAt : Date) (missing : List Service)
    (owned : ∀ service ∈ missing, HostOf hosts service.hostId service.orgId) :
    Squares hosts domains (markUnknown checkedAt missing) := by
  induction missing with
  | nil => exact .pure ()
  | cons service missing inductionHypothesis =>
      have ownedHere := owned service List.mem_cons_self
      apply saveUnalerted_bind
      · exact ownedHere
      · exact .inr rfl
      · apply Squares.bind (.idle (writeHealthCheckLog_idle _ _ _ _))
        intro log
        exact inductionHypothesis fun other member =>
          owned other (List.mem_cons_of_mem service member)

/-- The missing services are those of the host, so they are placed. -/
theorem markMissingServicesUnknown_squares (seenContainerIds : List Json)
    (checkedAt : Date) :
    Squares hosts domains (markMissingServicesUnknown host seenContainerIds checkedAt) := by
  intro state account
  apply read_bind (idle_query ⟨rfl, rfl, rfl, rfl, rfl, rfl⟩ fun _ => rfl)
  intro existingServices loaded replied serves
  cases replied
  apply markUnknown_squares checkedAt _ _ loaded (account.idle serves)
  intro service member
  exact account.placed service (Table.mem_find.mp (List.mem_filter.mp member).1).1

/-- A sync serves what it owes. -/
theorem sync_squares (owned : HostOf hosts host.id host.orgId)
    (dockerPsResult : SshCommandResult) :
    Squares hosts domains (sync platform host dockerPsResult) := by
  unfold sync
  split
  · exact .pure ()
  apply Squares.ofExcept_bind
  intro listing _
  apply Squares.bind (.idle (Program.only_perform now_idle))
  intro checkedAt
  apply Squares.bind (upsertServices_squares platform owned checkedAt listing.containers)
  intro upserted
  exact markMissingServicesUnknown_squares _ _

/-- So does whatever a check hands on to it. -/
theorem syncResults_squares (owned : HostOf hosts host.id host.orgId)
    (sshResults : Option (List SshCommandResult)) :
    Squares hosts domains (syncResults platform host sshResults) := by
  unfold syncResults
  split
  · exact .pure ()
  · exact sync_squares platform owned _
  · exact .throw _

/-! ### Host and domain checks -/

/-- Nothing is early or late, whatever the hosts and the domains are. -/
def Squared (state : Serving) : Prop :=
  Account state.database.hosts state.database.domains [] [] state

/-- Which hosts and domains there are does not matter to the balance. -/
theorem Account.forget (account : Account hosts domains [] [] state) : Squared state := by
  unfold Squared
  rw [account.sameHosts, account.sameDomains]
  exact account

/-- A program that squares the account leaves it squared. -/
theorem Squares.forget {program : Job α} (squares : Squares hosts domains program)
    (account : Account hosts domains [] [] state) :
    program.Ensures servingAnswers (fun _ after => Squared after) state := by
  apply Program.Follows.mono (squares state account)
  intro outcome after accountAfter
  exact accountAfter.forget

/-- A part of a job in which nothing happens, before the end is known. -/
theorem Account.idle_bind {program : Job α} {rest : α → Job β}
    (account : Account hosts domains [] [] state) (only : program.Only Call.Idle)
    (continues : ∀ value after, Account hosts domains [] [] after →
      (rest value).Ensures servingAnswers (fun _ after => Squared after) after) :
    (program.bind rest).Ensures servingAnswers (fun _ after => Squared after) state := by
  apply ServersManager.idle_bind only
  · intro error after serves
    exact (account.idle serves).forget
  · intro value after serves
    exact continues value after (account.idle serves)

/-- The session with a host neither owes alerts nor serves any. -/
theorem runCheck_idle (host : Host) : (runCheck platform host).Only Call.Idle := by
  apply (runCheck_only platform host).mono
  intro call ofSession
  cases call <;> first | exact ⟨trivial, fun _ => rfl⟩ | cases ofSession

/-- A host keeps its organization, and so do the services on it. -/
theorem Placed.saveHost {services : Table Service} {row old : Host} {saved : Table Host}
    (placed : Placed hosts services) (saves : hosts.save row = some saved)
    (stored : hosts.byId row.id = some old) (sameOrg : row.orgId = old.orgId) :
    Placed saved services := by
  intro service member
  rw [Table.byId_save saves]
  split
  · next same =>
    have here := placed service member
    rw [same] at here
    change (hosts.byId row.id).map Host.orgId = _ at here
    rw [stored] at here
    rw [Option.map_some, sameOrg]
    exact here
  · exact placed service member

/-- The evaluation of a host that has been saved. -/
def hostInput (host saved : Host) : EvaluateTransitionInput :=
  { orgId := saved.orgId
    entityType := .host
    entityId := saved.id
    previousStatus := host.status.text
    newStatus := saved.status.text }

/-- A host that is saved changes from the status that the check has loaded. -/
theorem saveHost_owes {row host saved : Host} (account : Account hosts domains [] [] state)
    (stored : hosts.byId row.id = some host) (sameOrg : row.orgId = host.orgId)
    (answered : servingAnswers (.query (.saveHost row)) state (.ok saved) next) :
    ∃ after, HostOf after row.id row.orgId ∧
      Account after domains [] ((hostInput host row).pairs next.database) next := by
  obtain ⟨after, saves, replied, clock, same⟩ := answered.written rfl
  rw [account.sameHosts] at saves
  have sameHosts : next.database.hosts = after := by
    rw [same]
  have sameDomains : next.database.domains = domains := by
    rw [same]
    exact account.sameDomains
  have placed : Placed after next.database.services := by
    rw [same]
    exact account.placed.saveHost saves stored sameOrg
  have owes := account.owes answered rfl sameHosts sameDomains placed
  have owned : HostOf after row.id row.orgId :=
    congrArg (Option.map Host.orgId) ((Table.byId_save saves).trans (if_pos rfl))
  have changed : happening state.database (.query (.saveHost row)) (.ok saved) =
      (hostInput host row).change.event := by
    change StatusChange.event _ = _
    rw [account.sameHosts, stored]
    rfl
  have found : (hostInput host row).change.event.toList.flatMap (due next.database) =
      (hostInput host row).pairs next.database := by
    apply change_due owes.paired
    · change (next.database.hosts.byId row.id).map Host.orgId = some row.orgId
      rw [sameHosts]
      exact owned
    · rintro condition ⟨⟩
      exact produces_host row.status
  rw [← found, ← changed]
  exact ⟨after, owned, owes⟩

/-- A health check serves its own change of status, and its sync those of the services. -/
theorem checkHost_squares (hostId : Nat) (settled : Squared state) :
    (checkHost platform hostId).Ensures servingAnswers (fun _ after => Squared after)
      state := by
  apply read_bind (idle_query ⟨rfl, rfl, rfl, rfl, rfl, rfl⟩ fun _ => rfl)
  intro found loaded replied serves
  replace replied : state.database.hosts.byId hostId = found := Except.ok.inj replied
  have account := Account.idle settled serves
  cases found with
  | none => exact account.forget
  | some host =>
      obtain ⟨member, rfl⟩ := Table.byId_eq_some.mp replied
      apply account.idle_bind (runCheck_idle platform host)
      rintro ⟨outcome, sshResults⟩ checked accountChecked
      apply accountChecked.idle_bind (writeHealthCheckLog_idle _ _ _ _)
      intro log logged accountLogged
      apply accountLogged.idle_bind (Program.only_perform now_idle)
      intro checkedAt timed accountTimed
      let row := checkedHost host outcome.status checkedAt
      have stored : state.database.hosts.byId row.id = some host := Table.byId_self member
      have sameOrg : row.orgId = host.orgId := rfl
      apply write_bind
      intro saved written answered
      obtain ⟨after, owned, owes⟩ := saveHost_owes accountTimed stored sameOrg answered
      apply (Program.follows_bind _ _ _ _ _).mpr
      apply Program.Follows.mono (evaluateTransition_serves platform _ written)
      rintro _ evaluated ⟨rfl, served⟩
      exact (syncResults_squares platform owned sshResults).forget (owes.settled served)

/-- What is known of a domain. -/
def DomainOf (domains : Table Domain) (id orgId : Nat) : Prop :=
  (domains.byId id).map Domain.orgId = some orgId

/-- A handshake neither owes alerts nor serves any. -/
theorem performTlsCheck_idle (resolvedIp hostname : String) :
    (performTlsCheck platform resolvedIp hostname).Only Call.Idle := by
  apply (performTlsCheck_only platform resolvedIp hostname).mono
  intro call ofHandshake
  cases call <;> first | exact ⟨trivial, fun _ => rfl⟩ | cases ofHandshake

theorem Call.OfLookup.idle {call : Call} (ofLookup : call.OfLookup) : call.Idle := by
  cases call <;> first | exact ⟨trivial, fun _ => rfl⟩ | cases ofLookup

/-- The evaluation of a domain's certificate that has been saved. -/
def certificateInput (domain : Domain) (cert saved : SSLCertificate) :
    EvaluateTransitionInput :=
  { orgId := domain.orgId
    entityType := .sslCertificate
    entityId := domain.id
    previousStatus := cert.status.text
    newStatus := saved.status.text }

/-- A certificate record that is saved changes from the status it had, in the name of its
domain. -/
theorem saveCertificate_owes {domain : Domain} {row cert saved : SSLCertificate}
    (account : Account hosts domains [] [] state)
    (stored : state.database.certificates.byId row.id = some cert)
    (sameDomain : row.domainId = domain.id) (owned : DomainOf domains domain.id domain.orgId)
    (answered : servingAnswers (.query (.saveCertificate row)) state (.ok saved) next) :
    Account hosts domains [] ((certificateInput domain cert row).pairs next.database)
      next := by
  obtain ⟨certificates, saves, replied, clock, same⟩ := answered.written rfl
  have sameHosts : next.database.hosts = hosts := by
    rw [same]
    exact account.sameHosts
  have sameDomains : next.database.domains = domains := by
    rw [same]
    exact account.sameDomains
  have placed : Placed hosts next.database.services := by
    rw [same]
    exact account.placed
  have owes := account.owes answered rfl sameHosts sameDomains placed
  have changed : happening state.database (.query (.saveCertificate row)) (.ok saved) =
      (certificateInput domain cert row).change.event := by
    change StatusChange.event _ = _
    rw [stored, sameDomain]
    rfl
  have found : (certificateInput domain cert row).change.event.toList.flatMap
      (due next.database) = (certificateInput domain cert row).pairs next.database := by
    apply change_due owes.paired
    · change (next.database.domains.byId domain.id).map Domain.orgId = some domain.orgId
      rw [sameDomains]
      exact owned
    · rintro condition ⟨⟩
      exact produces_sslCertificate row.status
  rw [← found, ← changed]
  exact owes

/-- A certificate that is checked is evaluated for the domain's organization. -/
theorem checkTls_squares {domain : Domain} (owned : DomainOf domains domain.id domain.orgId)
    (resolvedIp : String) :
    Squares hosts domains (checkTls platform domain resolvedIp) := by
  apply Squares.bind (.idle (performTlsCheck_idle platform resolvedIp domain.hostname))
  intro tlsResult
  apply Squares.bind (.idle (writeHealthCheckLog_idle _ _ _ _))
  intro log state account
  apply read_bind (idle_query ⟨rfl, rfl, rfl, rfl, rfl, rfl⟩ fun _ => rfl)
  intro found loaded replied serves
  replace replied : state.database.certificates.findOne (fun certificate =>
      certificate.domainId == domain.id) = found := Except.ok.inj replied
  have accountLoaded := account.idle serves
  cases found with
  | none => exact accountLoaded
  | some cert =>
      obtain ⟨member, matched⟩ := Table.findOne_mem replied
      rw [beq_iff_eq] at matched
      apply idle_bind (Program.only_perform now_idle)
      · intro error after unchanged
        exact accountLoaded.idle unchanged
      intro lastCheckedAt timed unchanged
      have accountTimed := accountLoaded.idle unchanged
      have stored : timed.database.certificates.byId cert.id = some cert := by
        rw [unchanged.rows.certificates, serves.rows.certificates]
        exact Table.byId_self member
      cases dateColumn tlsResult.validFrom with
      | error error => exact accountTimed
      | ok validFrom =>
          cases dateColumn tlsResult.validTo with
          | error error => exact accountTimed
          | ok validTo =>
              let row : SSLCertificate := { cert with
                status := tlsResult.status
                issuer := tlsResult.issuer.map platform.columnText
                validFrom := validFrom
                validTo := validTo
                lastCheckedAt := some lastCheckedAt }
              have storedRow : timed.database.certificates.byId row.id = some cert := stored
              have sameDomain : row.domainId = domain.id := matched
              apply write_bind
              intro saved written answered
              have owes := saveCertificate_owes accountTimed storedRow sameDomain owned answered
              apply Program.Follows.mono (evaluateTransition_serves platform _ written)
              rintro _ evaluated ⟨-, served⟩
              exact owes.settled served

/-- Without an address there is nothing to check. -/
theorem checkCertificate_squares {domain : Domain}
    (owned : DomainOf domains domain.id domain.orgId) (dnsResult : DnsCheckResult) :
    Squares hosts domains (checkCertificate platform domain dnsResult) := by
  unfold checkCertificate
  split
  · exact checkTls_squares platform owned _
  · apply Squares.bind (.idle (writeHealthCheckLog_idle _ _ _ _))
    intro log
    exact .pure ()

/-- A domain that is saved owes nothing. -/
theorem saveDomain_squares {row saved : Domain} (account : Account hosts domains [] [] state)
    (answered : servingAnswers (.query (.saveDomain row)) state (.ok saved) next) :
    ∃ after, DomainOf after row.id row.orgId ∧ Account hosts after [] [] next := by
  obtain ⟨after, saves, replied, clock, same⟩ := answered.written rfl
  have sameHosts : next.database.hosts = hosts := by
    rw [same]
    exact account.sameHosts
  have sameDomains : next.database.domains = after := by
    rw [same]
  have placed : Placed hosts next.database.services := by
    rw [same]
    exact account.placed
  have owned : DomainOf after row.id row.orgId :=
    congrArg (Option.map Domain.orgId) ((Table.byId_save saves).trans (if_pos rfl))
  exact ⟨after, owned, account.owes answered rfl sameHosts sameDomains placed⟩

/-- A domain check serves what its certificate owes. -/
theorem checkDomain_squares (domainId : Nat) (settled : Squared state) :
    (checkDomain platform domainId).Ensures servingAnswers (fun _ after => Squared after)
      state := by
  apply read_bind (idle_query ⟨rfl, rfl, rfl, rfl, rfl, rfl⟩ fun _ => rfl)
  intro found loaded replied serves
  have account := Account.idle settled serves
  cases found with
  | none => exact account.forget
  | some domain =>
      apply account.idle_bind ((performDnsCheck_only _).mono fun call => Call.OfLookup.idle)
      intro dnsResult resolved accountDns
      apply accountDns.idle_bind (writeHealthCheckLog_idle _ _ _ _)
      intro dnsLog dnsLogged accountDnsLog
      apply accountDnsLog.idle_bind
        ((performWhoisLookup_only platform _).mono fun call => Call.OfLookup.idle)
      intro whoisResult looked accountWhois
      apply accountWhois.idle_bind (writeHealthCheckLog_idle _ _ _ _)
      intro whoisLog whoisLogged accountWhoisLog
      apply accountWhoisLog.idle_bind (Program.only_perform now_idle)
      intro checkedAt timed accountTimed
      apply write_bind
      intro saved written answered
      obtain ⟨after, owned, accountSaved⟩ := saveDomain_squares accountTimed answered
      exact (checkCertificate_squares platform owned dnsResult).forget accountSaved

end Jobs

end ServersManager
