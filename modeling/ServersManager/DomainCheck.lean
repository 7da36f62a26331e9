/-
Module: ServersManager.DomainCheck
Purpose: The check of a domain and its certificate, and registering and removing
  domains.
Trusted boundary: none
Main exports:
  performDnsCheck, performWhoisLookup, computeSslStatusFromValidTo, performTlsCheck,
  checkTls, checkDomain, createDomain, removeDomain, Call.OfDomainCheck
-/
import ServersManager.HealthCheck

namespace ServersManager

open Library

/-! ### `domain-check/checks/dns-check.ts` -/

structure DnsCheckResult where
  status : DomainDnsStatus
  resolvedIp : Option String
  rawOutput : List (String × Json)
deriving Repr, Inhabited

def performDnsCheck (hostname : String) : Job DnsCheckResult :=
  tryCatch
    (do
      let addresses ← request (.resolve4 hostname)
      return { status := .resolving
               resolvedIp := addresses.head?
               rawOutput := [("addresses", .arr (addresses.map .str))] })
    fun error =>
      return { status := .notResolving
               resolvedIp := none
               rawOutput := [("error", .str error.message)] }

/-! ### `domain-check/checks/whois-check.ts` -/

structure WhoisCheckResult where
  ok : Bool
  registrar : Option String
  expiresAt : Option Date
  rawOutput : List (String × Json)
deriving Repr, Inhabited

def expiryFieldNames : List String :=
  ["registryExpiryDate", "registrarRegistrationExpirationDate", "expiryDate",
    "expirationDate", "expiresOn", "expires", "paidTill"]

def registrarFieldNames : List String :=
  ["registrar", "sponsoringRegistrar", "registrarName"]

/-- The member whose key is a candidate but for its case: the last such one.  As for
`isDockerMissing`, no other character becomes a letter of a candidate. -/
def findField (record : Json) (candidate : String) : Option (String × Json) :=
  (entries record).reverse.find? fun member =>
    member.1.toLower == candidate.toLower

def pickField (record : Json) (candidates : List String) :
    Except JsError (Option String) :=
  match record with
  | .null => .error (.typeError "Cannot convert undefined or null to object")
  | record => .ok (candidates.findSome? fun candidate =>
      match findField record candidate with
      | some (_, .str text) => if trim text = "" then none else some text
      | _ => none)

def performWhoisLookup (platform : Platform) (hostname : String) :
    Job WhoisCheckResult :=
  tryCatch
    (do
      let record ← request (.whois hostname)
      let registrar ← Program.ofExcept (pickField record registrarFieldNames)
      let expiryRaw ← Program.ofExcept (pickField record expiryFieldNames)
      return { ok := true
               registrar := registrar
               expiresAt := expiryRaw.bind platform.parseDate
               rawOutput := [("record", record)] })
    fun error =>
      return { ok := false
               registrar := none
               expiresAt := none
               rawOutput := [("error", .str error.message)] }

/-! ### `domain-check/ssl-status.util.ts` -/

def sslExpiryWarningDays : Int := 14

def msPerDay : Int := 24 * 60 * 60 * 1000

/-- No comparison with an invalid date holds. -/
def computeSslStatusFromValidTo (validTo : Option Date) (now : Date) :
    SslCertificateStatus :=
  match validTo with
  | none => .valid
  | some validTo =>
      if validTo - now < 0 then .expired
      else if validTo - now ≤ sslExpiryWarningDays * msPerDay then .expiringSoon
      else .valid

/-! ### `domain-check/checks/tls-check.ts` -/

/-- A date is `null`, or an object that may hold an invalid date. -/
structure TlsCheckResult where
  status : SslCertificateStatus
  issuer : Option Json
  validFrom : Option (Option Date)
  validTo : Option (Option Date)
  rawOutput : Json
deriving Repr, Inhabited

/-- The first of several values, if it is there and not `null`. -/
def firstValue (value : Option Json) : Option Json :=
  match value.filter truthy with
  | some (.arr (.null :: _)) | some (.arr []) => none
  | some (.arr (item :: _)) => some item
  | value => value

def formatIssuer (issuer : Option Json) : Option Json :=
  (firstValue (optionalProperty issuer "O")).or
    (firstValue (optionalProperty issuer "CN"))

/-- `text ? new Date(text) : null`. -/
def certificateDate (platform : Platform) (text : Option String) :
    Option (Option Date) :=
  (text.filter (· ≠ "")).map platform.parseDate

def computeStatus (validTo : Option (Option Date)) : Job SslCertificateStatus := do
  match validTo with
  | none => return .invalid
  | some validTo => return computeSslStatusFromValidTo validTo (← now)

/-- The members of an object that are not `undefined`. -/
def presentMembers (members : List (String × Option Json)) : Json :=
  .obj (members.filterMap fun member => member.2.map fun value => (member.1, value))

def certificateOutput (session : TlsSession) (certificate : PeerCertificate) : Json :=
  presentMembers
    [("issuer", certificate.issuer), ("subject", certificate.subject),
      ("valid_from", certificate.validFrom.map .str),
      ("valid_to", certificate.validTo.map .str),
      ("authorized", some (.bool session.authorized)),
      ("authorization_error", session.authorizationError.map .str)]

def noCertificate (message : String) : TlsCheckResult :=
  { status := .invalid
    issuer := none
    validFrom := none
    validTo := none
    rawOutput := .obj [("error", .str message)] }

def performTlsCheck (platform : Platform) (resolvedIp hostname : String) :
    Job TlsCheckResult :=
  tryCatch
    (do
      let session ← request (.tlsConnect resolvedIp hostname)
      match session.certificate with
      | none => return noCertificate "No certificate presented by peer"
      | some certificate =>
          let validTo := certificateDate platform certificate.validTo
          return { status := ← computeStatus validTo
                   issuer := formatIssuer certificate.issuer
                   validFrom := certificateDate platform certificate.validFrom
                   validTo := validTo
                   rawOutput := certificateOutput session certificate })
    fun error => return noCertificate error.message

/-! ### `domain-check/domain-check.processor.ts` -/

/-- A date on its way into a column: the database refuses an invalid one. -/
def dateColumn : Option (Option Date) → Except JsError (Option Date)
  | none => .ok none
  | some (some date) => .ok (some date)
  | some none => .error (.queryFailed "22007"
      "invalid input syntax for type timestamp with time zone")

def checkTls (platform : Platform) (domain : Domain) (resolvedIp : String) :
    Job Unit := do
  let tlsResult ← performTlsCheck platform resolvedIp domain.hostname
  let _ ← writeHealthCheckLog .sslCertificate domain.id tlsResult.status.text
    tlsResult.rawOutput
  match ← query (.findCertificate domain.id) with
  | none => return ()
  | some cert =>
      let lastCheckedAt ← now
      let validFrom ← Program.ofExcept (dateColumn tlsResult.validFrom)
      let validTo ← Program.ofExcept (dateColumn tlsResult.validTo)
      let _ ← query (.saveCertificate
        { cert with
          status := tlsResult.status
          issuer := tlsResult.issuer.map platform.columnText
          validFrom := validFrom
          validTo := validTo
          lastCheckedAt := some lastCheckedAt })
      evaluateTransition platform
        { orgId := domain.orgId
          entityType := .sslCertificate
          entityId := domain.id
          previousStatus := cert.status.text
          newStatus := tlsResult.status.text }

/-- The entity as a check saves it. -/
def checkedDomain (domain : Domain) (dnsResult : DnsCheckResult)
    (whoisResult : WhoisCheckResult) (checkedAt : Date) : Domain :=
  { domain with
    dnsStatus := dnsResult.status
    resolvedIp := dnsResult.resolvedIp
    registrar := (whoisResult.registrar.filter (· ≠ "")).or domain.registrar
    domainExpiresAt := whoisResult.expiresAt.or domain.domainExpiresAt
    lastCheckedAt := some checkedAt }

/-- What follows the save: the TLS check of a domain that resolves. -/
def checkCertificate (platform : Platform) (domain : Domain)
    (dnsResult : DnsCheckResult) : Job Unit := do
  match dnsResult.status, dnsResult.resolvedIp.filter (· ≠ "") with
  | .resolving, some resolvedIp => checkTls platform domain resolvedIp
  | _, _ =>
      let _ ← writeHealthCheckLog .sslCertificate domain.id "skipped"
        (.obj [("reason", .str "DNS did not resolve; nothing to connect to")])
      return ()

def checkDomain (platform : Platform) (domainId : Nat) : Job Unit := do
  match ← query (.findDomain domainId) with
  | none => return ()
  | some domain =>
      let dnsResult ← performDnsCheck domain.hostname
      let _ ← writeHealthCheckLog .domain domain.id dnsResult.status.text
        (.obj (("check", .str "dns") :: dnsResult.rawOutput))
      let whoisResult ← performWhoisLookup platform domain.hostname
      let _ ← writeHealthCheckLog .domain domain.id
        (if whoisResult.ok then "whois_ok" else "whois_failed")
        (.obj (("check", .str "whois") :: whoisResult.rawOutput))
      let checked := checkedDomain domain dnsResult whoisResult (← now)
      let _ ← query (.saveDomain checked)
      checkCertificate platform checked dnsResult

/-! ### `domains/domains.service.ts` -/

structure CreateDomainDto where
  hostname : String
  hostId : Option Nat
deriving Repr, DecidableEq

def newDomain (orgId : Nat) (dto : CreateDomainDto) : Domain :=
  { id := 0
    orgId := orgId
    hostId := dto.hostId
    hostname := dto.hostname
    registrar := none
    domainExpiresAt := none
    dnsStatus := .unknown
    resolvedIp := none
    lastCheckedAt := none }

def newCertificate (domainId : Nat) : SSLCertificate :=
  { id := 0
    domainId := domainId
    issuer := none
    validFrom := none
    validTo := none
    status := .unknown
    lastCheckedAt := none }

/-- The check that a linked host is one of the organization's. -/
def checkLinkedHost (orgId : Nat) : Option Nat → Job Unit
  | none => return ()
  | some hostId => do
      let _ ← findHostOrThrow orgId hostId
      return ()

/-- `DomainsService.create`: the domain and the id of its first check. -/
def createDomain (orgId : Nat) (dto : CreateDomainDto) : Job (Domain × String) := do
  checkLinkedHost orgId dto.hostId
  match ← query (.findDomainByHostname orgId dto.hostname) with
  | some _ => throw (.conflict ("Domain " ++ dto.hostname ++
      " is already registered for this organization"))
  | none =>
      let domain ← query (.insertDomain (newDomain orgId dto))
      let _ ← query (.insertCertificate (newCertificate domain.id))
      let jobId ← request (.addDomainCheck domain.id)
      return (domain, jobId)

/-- `DomainsService.findOneForOrgOrThrow`. -/
def findDomainOrThrow (orgId id : Nat) : Job Domain := do
  match ← query (.findDomainForOrg orgId id) with
  | some domain => return domain
  | none => throw (.notFound ("Domain " ++ toString id ++ " not found"))

/-- `DomainsService.remove`. -/
def removeDomain (orgId id : Nat) : Job Unit := do
  let domain ← findDomainOrThrow orgId id
  query (.removeDomain domain)

/-! ### What a check touches besides its domain -/

/-- The calls of a domain check other than loading and saving the domain. -/
def Call.OfDomainCheck : Call → Prop
  | .query (.writeHealthCheckLog _) => True
  | .query (.findCertificate _) | .query (.saveCertificate _) => True
  | .resolve4 _ | .whois _ | .tlsConnect _ _ => True
  | call => call.OfAlerts

theorem Call.OfAlerts.ofDomainCheck {call : Call} (ofAlerts : call.OfAlerts) :
    call.OfDomainCheck := by
  cases call with
  | query q => cases q <;> trivial
  | _ => trivial

/-- The calls of the two lookups that a check begins with. -/
def Call.OfLookup : Call → Prop
  | .resolve4 _ | .whois _ => True
  | _ => False

/-- The lookup of addresses calls the resolver and nothing else. -/
theorem performDnsCheck_only (hostname : String) :
    (performDnsCheck hostname).Only Call.OfLookup := by
  apply Program.Only.tryCatch
  · apply Program.Only.bind (Program.only_perform trivial)
    intro addresses
    trivial
  · intro error
    trivial

/-- The lookup of the registration makes a lookup call and nothing else. -/
theorem performWhoisLookup_only (platform : Platform) (hostname : String) :
    (performWhoisLookup platform hostname).Only Call.OfLookup := by
  apply Program.Only.tryCatch
  · apply Program.Only.bind (Program.only_perform trivial)
    intro record
    apply Program.Only.bind Program.only_ofExcept
    intro registrar
    apply Program.Only.bind Program.only_ofExcept
    intro expiryRaw
    trivial
  · intro error
    trivial

/-- The calls of a TLS handshake and the reading of its certificate. -/
def Call.OfHandshake : Call → Prop
  | .tlsConnect _ _ | .now => True
  | _ => False

theorem Call.OfHandshake.ofDomainCheck {call : Call} (ofHandshake : call.OfHandshake) :
    call.OfDomainCheck := by
  cases call <;> trivial

/-- A handshake connects, and reads the clock to judge its certificate. -/
theorem performTlsCheck_only (platform : Platform) (resolvedIp hostname : String) :
    (performTlsCheck platform resolvedIp hostname).Only Call.OfHandshake := by
  apply Program.Only.tryCatch
  · apply Program.Only.bind (Program.only_perform trivial)
    intro session
    split
    · trivial
    · apply Program.Only.bind
      · unfold computeStatus
        split
        · trivial
        · exact Program.Only.bind (Program.only_perform trivial) fun date => trivial
      · intro status
        trivial
  · intro error
    trivial

/-- The check of a certificate neither loads nor saves a domain. -/
theorem checkTls_only (platform : Platform) (domain : Domain) (resolvedIp : String) :
    (checkTls platform domain resolvedIp).Only Call.OfDomainCheck := by
  apply Program.Only.bind
    ((performTlsCheck_only _ _ _).mono fun call => Call.OfHandshake.ofDomainCheck)
  intro tlsResult
  apply Program.Only.bind (Program.only_perform trivial)
  intro log
  apply Program.Only.bind (Program.only_perform trivial)
  intro found
  split
  · trivial
  apply Program.Only.bind (Program.only_perform trivial)
  intro lastCheckedAt
  apply Program.Only.bind Program.only_ofExcept
  intro validFrom
  apply Program.Only.bind Program.only_ofExcept
  intro validTo
  apply Program.Only.bind (Program.only_perform trivial)
  intro saved
  exact (evaluateTransition_only _ _).mono fun call => Call.OfAlerts.ofDomainCheck

/-- The same where there may be no address to connect to. -/
theorem checkCertificate_only (platform : Platform) (domain : Domain)
    (dnsResult : DnsCheckResult) :
    (checkCertificate platform domain dnsResult).Only Call.OfDomainCheck := by
  unfold checkCertificate
  split
  · apply checkTls_only
  · exact Program.Only.bind (Program.only_perform trivial) fun log => trivial

end ServersManager
