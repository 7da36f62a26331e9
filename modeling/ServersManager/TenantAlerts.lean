/-
Module: ServersManager.TenantAlerts
Purpose: Checks, syncs, rollbacks and insights in any interleaving: every alert is about
  an entity of the organization whose rule it uses.
Trusted boundary: none
Main exports:
  TenantJob, TenantJob.minds, alerts_within_tenant
-/
import ServersManager.Tenancy

namespace ServersManager

open Library

/-! ### Evaluations -/

section Evaluating

variable {flag : Option InsightFlag} {known : OwnerRegistry} {orgId entityId : Nat}
  {entityType : AlertEntityType}

/-- The entity belongs to the organization, whatever else is looked at meanwhile. -/
def OwnedBy (flag : Option InsightFlag) (known : OwnerRegistry)
    (entityType : AlertEntityType) (entityId orgId : Nat) : Prop :=
  ∀ progress : JobProgress, progress.At flag →
    known.owner (alertedEntity progress.flag entityType entityId) = some orgId

/-- What holds while rules that have been found are evaluated. -/
structure Evaluating (flag : Option InsightFlag) (known : OwnerRegistry)
    (entityType : AlertEntityType) (orgId : Nat) (rules : List AlertRule)
    (aware : Awareness) : Prop where
  knows : known.Le aware.known
  looks : aware.progress.At flag
  found : aware.progress.rules = rules
  own : ∀ rule ∈ rules, rule.orgId = orgId ∧ rule.entityType = entityType

variable {rules : List AlertRule} {rule : AlertRule} {aware : Awareness}

/-- A rule that has been found is the organization's own, so it may be used for any entity
that the rules found are about. -/
theorem Evaluating.uses (evaluating : Evaluating flag known entityType orgId rules aware)
    (member : rule ∈ rules) {entity : AlertRule → AlertedEntity}
    (owned : ∀ other ∈ rules, known.owner (entity other) = some orgId) :
    UsesOwnRule aware.known aware.progress rule.id entity := by
  unfold UsesOwnRule
  rw [evaluating.found]
  refine ⟨⟨rule, member, rfl⟩, ?_⟩
  intro other otherMember _
  rw [(evaluating.own other otherMember).1]
  exact evaluating.knows.owner (owned other otherMember)

/-- A call of an evaluation other than the lookup of the rules keeps what holds. -/
theorem Evaluating.next (evaluating : Evaluating flag known entityType orgId rules aware)
    {call : Call} {reply : Except JsError call.Reply} {after : Awareness}
    (moves : tenantProtocol.Moves aware call reply after)
    (keepsFlag : (aware.progress.after call reply).flag = aware.progress.flag)
    (keepsRules : (aware.progress.after call reply).rules = aware.progress.rules) :
    Evaluating flag known entityType orgId rules after := by
  obtain ⟨grows, -, progress⟩ := moves
  refine ⟨evaluating.knows.trans grows, ?_, ?_, evaluating.own⟩
  · intro held same
    rw [progress, keepsFlag]
    exact evaluating.looks held same
  · rw [progress, keepsRules]
    exact evaluating.found

/-- The log of an attempt is written under a rule and an entity of one organization. -/
theorem writeLog_evaluating (member : rule ∈ rules)
    (owned : OwnedBy flag known entityType entityId orgId) (message : String)
    (success : Bool) (error : Option String)
    (evaluating : Evaluating flag known entityType orgId rules aware) :
    (writeLog rule entityId message success error).Follows tenantProtocol
      (fun outcome after => outcome = .ok () ∧
        Evaluating flag known entityType orgId rules after) aware := by
  have uses : UsesOwnRule aware.known aware.progress rule.id fun _ =>
      alertedEntity aware.progress.flag rule.entityType entityId := by
    apply evaluating.uses member
    intro other _
    rw [(evaluating.own rule member).2]
    exact owned aware.progress evaluating.looks
  apply (Program.follows_tryCatch _ _ _ _ _).mpr
  apply (Program.follows_perform_bind _).mpr
  refine ⟨⟨trivial, uses⟩, ?_, ?_⟩
  · intro log after moves
    exact ⟨rfl, evaluating.next moves rfl rfl⟩
  · intro error after moves
    exact ⟨rfl, evaluating.next moves rfl rfl⟩

/-- Whatever the cooldown query is answered, it is about the rule and the entity. -/
theorem isWithinCooldown_evaluating (rule : AlertRule) (entityId : Nat)
    (evaluating : Evaluating flag known entityType orgId rules aware) :
    (isWithinCooldown rule entityId).Follows tenantProtocol
      (fun outcome after => Evaluating flag known entityType orgId rules after ∧
        ∀ cooling, outcome = .ok cooling →
          after.progress.subject = some (rule.id, entityId)) aware := by
  apply (Program.follows_perform_bind _).mpr
  refine ⟨⟨trivial, trivial⟩, ?_, ?_⟩
  · intro time after moves
    have read := evaluating.next moves rfl rfl
    apply (Program.follows_perform_bind _).mpr
    refine ⟨⟨trivial, trivial⟩, ?_, ?_⟩
    · intro recentSend last asks
      refine ⟨read.next asks rfl rfl, ?_⟩
      intro cooling _
      obtain ⟨-, -, progress⟩ := asks
      rw [progress]
      rfl
    · intro error last asks
      exact ⟨read.next asks rfl rfl, nofun⟩
  · intro error after moves
    exact ⟨evaluating.next moves rfl rfl, nofun⟩

/-- A delivery posts to a webhook, or makes no call. -/
theorem sendAlert_posts (channel : AlertChannel) (message : String) (config : Json) :
    (sendAlert channel message config).Only fun call : Call =>
      ∃ url body, call = .fetch url body := by
  cases channel with
  | email => trivial
  | slack =>
      apply Program.Only.bind Program.only_ofExcept
      intro webhookUrl
      split
      · split
        · trivial
        · apply Program.Only.tryCatch
          · apply Program.Only.bind (Program.only_perform ⟨_, _, rfl⟩)
            intro response
            split <;> trivial
          · intro error
            trivial
      · trivial

/-- A message goes to the channel of the rule that the pair was last asked about. -/
theorem sendAlert_evaluating (member : rule ∈ rules)
    (owned : OwnedBy flag known entityType entityId orgId) (channel : AlertChannel)
    (message : String) (config : Json)
    (evaluating : Evaluating flag known entityType orgId rules aware)
    (asked : aware.progress.subject = some (rule.id, entityId)) :
    (sendAlert channel message config).Follows tenantProtocol
      (fun _ after => Evaluating flag known entityType orgId rules after) aware := by
  apply (sendAlert_posts channel message config).followsKeeping
    (fun after => Evaluating flag known entityType orgId rules after ∧
      after.progress.subject = some (rule.id, entityId)) ?_ ?_ ?_ ⟨evaluating, asked⟩
  · rintro aware _ ⟨evaluating, asked⟩ ⟨url, body, rfl⟩
    refine ⟨trivial, rule.id, entityId, asked, evaluating.uses member ?_⟩
    intro other otherMember
    rw [(evaluating.own other otherMember).2]
    exact owned aware.progress evaluating.looks
  · rintro aware _ reply after ⟨evaluating, asked⟩ ⟨url, body, rfl⟩ moves
    refine ⟨evaluating.next moves rfl rfl, ?_⟩
    obtain ⟨-, -, progress⟩ := moves
    rw [progress]
    exact asked
  · exact Program.ends_of_all fun outcome aware inv => inv.1

/-- One rule of those found: its cooldown, its configuration, its message and its log,
whatever of it fails. -/
theorem evaluateRule_evaluating (platform : Platform) (member : rule ∈ rules)
    (owned : OwnedBy flag known entityType entityId orgId) (message : String)
    (evaluating : Evaluating flag known entityType orgId rules aware) :
    (evaluateRule platform rule entityId message).Follows tenantProtocol
      (fun outcome after => outcome = .ok () ∧
        Evaluating flag known entityType orgId rules after) aware := by
  apply (Program.follows_tryCatch _ _ _ _ _).mpr
  apply (Program.follows_bind _ _ _ _ _).mpr
  apply (isWithinCooldown_evaluating rule entityId evaluating).mono
  rintro (error | cooling) after ⟨read, asked⟩
  · exact writeLog_evaluating member owned message false _ read
  · cases cooling with
    | true => exact ⟨rfl, read⟩
    | false =>
        apply (Program.follows_bind _ _ _ _ _).mpr
        apply (Program.follows_ofExcept _ _ _ _).mpr
        cases parseChannelConfig platform rule with
        | error error => exact writeLog_evaluating member owned message false _ read
        | ok channelConfig =>
            apply (Program.follows_bind _ _ _ _ _).mpr
            apply (sendAlert_evaluating member owned rule.channel message channelConfig
              read (asked false rfl)).mono
            rintro (error | result) last sent
            · exact writeLog_evaluating member owned message false _ sent
            · apply (writeLog_evaluating member owned message result.success
                result.error sent).mono
              rintro outcome ended ⟨rfl, written⟩
              exact ⟨rfl, written⟩

/-- The rules are taken one after another; the induction is on those that remain. -/
theorem evaluateRules_evaluating (platform : Platform)
    (owned : OwnedBy flag known entityType entityId orgId) (message : String)
    (remaining : List AlertRule) (found : ∀ rule ∈ remaining, rule ∈ rules)
    (evaluating : Evaluating flag known entityType orgId rules aware) :
    (evaluateRules platform entityId message remaining).Follows tenantProtocol
      (fun _ after => Evaluating flag known entityType orgId rules after) aware := by
  induction remaining generalizing aware with
  | nil => exact evaluating
  | cons rule remaining inductionHypothesis =>
      apply (Program.follows_bind _ _ _ _ _).mpr
      apply (evaluateRule_evaluating platform (found rule (.head _)) owned message
        evaluating).mono
      rintro outcome after ⟨rfl, evaluated⟩
      exact inductionHypothesis (fun other member => found other (.tail _ member))
        evaluated

/-- The rules are looked up in the organization that owns the entity, and no others are
used. -/
theorem dispatch_minds (platform : Platform)
    (owned : OwnedBy flag known entityType entityId orgId) (condition message : String) :
    Minds flag known (dispatch platform orgId entityType entityId condition message) := by
  intro aware knows looks
  apply (Program.follows_perform_bind _).mpr
  refine ⟨⟨trivial, trivial⟩, ?_, ?_⟩
  · rintro rules after ⟨grows, own, progress⟩
    have evaluating : Evaluating flag known entityType orgId rules after := by
      refine ⟨knows.trans grows, ?_, ?_, own⟩
      · rw [progress]
        exact looks
      · rw [progress]
        rfl
    apply (evaluateRules_evaluating platform owned message rules (fun _ member => member)
      evaluating).mono
    intro outcome last evaluated
    exact ⟨evaluated.knows, evaluated.looks⟩
  · rintro error after ⟨grows, -, progress⟩
    refine ⟨knows.trans grows, ?_⟩
    rw [progress]
    exact looks

/-- A change of status is evaluated for the organization that owns the entity. -/
theorem evaluateTransition_minds (platform : Platform) {input : EvaluateTransitionInput}
    (owned : OwnedBy flag known input.entityType input.entityId input.orgId) :
    Minds flag known (evaluateTransition platform input) := by
  apply Minds.tryCatch
  · split
    · exact .pure ()
    · split
      · exact .pure ()
      · exact dispatch_minds platform owned _ _
  · intro error
    exact .pure ()

/-- So is a condition that holds by itself. -/
theorem evaluateDirectCondition_minds (platform : Platform)
    {input : EvaluateDirectConditionInput}
    (owned : OwnedBy flag known input.entityType input.entityId input.orgId) :
    Minds flag known (evaluateDirectCondition platform input) := by
  apply Minds.tryCatch
  · exact dispatch_minds platform owned _ _
  · intro error
    exact .pure ()

end Evaluating


/-! ### The jobs -/

section Jobs

variable {flag : Option InsightFlag} {known : OwnerRegistry} {α β : Type}

/-- A call that has nothing to do with tenants, and whatever comes after it. -/
theorem Minds.calmCall {call : Call} {rest : call.Reply → Job β}
    (calm : call.Calm) (mindsRest : ∀ value, Minds flag known (rest value)) :
    Minds flag known ((request call).bind rest) :=
  (Minds.calm (Program.only_perform calm)).bind mindsRest

theorem Call.OfSession.calm {call : Call} (ofSession : call.OfSession) : call.Calm := by
  cases call <;> first | exact Call.Plain.calm trivial | cases ofSession

theorem Call.OfLookup.calm {call : Call} (ofLookup : call.OfLookup) : call.Calm := by
  cases call <;> first | exact Call.Plain.calm trivial | cases ofLookup

theorem Call.OfHandshake.calm {call : Call} (ofHandshake : call.OfHandshake) :
    call.Calm := by
  cases call <;> first | exact Call.Plain.calm trivial | cases ofHandshake

theorem Call.OfCapture.calm {call : Call} (ofCapture : call.OfCapture) : call.Calm := by
  cases call with
  | query q => cases q <;> first | exact Call.Plain.calm trivial | cases ofCapture
  | _ => first | exact Call.Plain.calm trivial | cases ofCapture

/-- A container that is listed is written under its host's organization, and its change of
status is evaluated for that one. -/
theorem upsertService_minds (platform : Platform) {host : Host} (has : known.HasHost host)
    (container : DockerPsContainer) (checkedAt : Date) :
    Minds flag known (upsertService platform host container checkedAt) := by
  apply Minds.ofExcept_bind
  rintro ⟨image, tag⟩ -
  apply Minds.ofExcept_bind
  intro status _
  apply Minds.call
  · trivial
  · exact fun _ _ => trivial
  · exact fun _ _ => rfl
  intro found learned grows learns
  have hasHost : learned.HasHost host := grows.hosts _ _ has
  -- What is saved is a service of this host, old or new.
  have rest : ∀ saved learned', learned.Le learned' → learned'.HasService saved →
      saved.hostId = host.id → Minds flag learned' (do
        let _ ← writeHealthCheckLog .service saved.id status.text
          (.obj [("container_id", container.id), ("names", container.names),
            ("image", container.image), ("status", container.status),
            ("ports", container.ports)])
        evaluateTransition platform
          { orgId := host.orgId
            entityType := .service
            entityId := saved.id
            previousStatus := ((found.map Service.status).getD .unknown).text
            newStatus := saved.status.text }
        captureSnapshotIfImageChanged platform host saved container : Job Unit) := by
    intro saved learned' grows' hasService placed
    apply Minds.calmCall
    · exact Call.Plain.calm trivial
    intro log
    apply Minds.bind
    · apply evaluateTransition_minds
      intro progress _
      have owner := hasService.serviceOwner
      have hostOrg : learned'.hosts host.id = some host.orgId := grows'.hosts _ _ hasHost
      rw [← placed, hasService.placed] at hostOrg
      rw [← Option.some.inj hostOrg]
      exact owner
    · intro evaluated
      apply Minds.calm
      exact (captureSnapshotIfImageChanged_only _ _ _ _).mono fun call => Call.OfCapture.calm
  cases found with
  | none =>
      apply Minds.call
      · exact hasHost
      · exact fun _ _ => trivial
      · exact fun _ _ => rfl
      rintro saved learned' grows' ⟨hasService, placed⟩
      exact rest saved learned' grows' hasService placed
  | some service =>
      obtain ⟨hasService, placed⟩ := learns
      have hasRow : learned.HasService
          (upsertRow platform host container image tag status checkedAt (some service)) :=
        ⟨hasService.own, hasService.placed⟩
      apply Minds.call
      · exact hasRow
      · exact fun _ _ => trivial
      · exact fun _ _ => rfl
      rintro saved learned' grows' rfl
      exact rest _ learned' grows' (grows'.hasService hasRow) placed


/-- Every listed container is; the induction is on the listing. -/
theorem upsertServices_minds (platform : Platform) {host : Host} (has : known.HasHost host)
    (checkedAt : Date) (containers : List DockerPsContainer) :
    Minds flag known (upsertServices platform host checkedAt containers) := by
  induction containers with
  | nil => exact .pure ()
  | cons container containers inductionHypothesis =>
      apply Minds.bind (upsertService_minds platform has container checkedAt)
      intro upserted
      exact inductionHypothesis

/-- A service that is gone keeps its organization. -/
theorem markUnknown_minds (checkedAt : Date) (missing : List Service)
    (has : ∀ service ∈ missing, known.HasService service) :
    Minds flag known (markUnknown checkedAt missing) := by
  induction missing with
  | nil => exact .pure ()
  | cons service missing inductionHypothesis =>
      have hasService := has service List.mem_cons_self
      apply Minds.bind
      · apply Minds.callLast
        · exact ⟨hasService.own, hasService.placed⟩
        · exact fun _ _ => trivial
        · exact fun _ _ => rfl
      intro saved
      apply Minds.calmCall
      · exact Call.Plain.calm trivial
      intro log
      exact inductionHypothesis fun other member =>
        has other (List.mem_cons_of_mem service member)

/-- The services of a host are looked up before any is marked, so their owners are known. -/
theorem markMissingServicesUnknown_minds (host : Host) (seenContainerIds : List Json)
    (checkedAt : Date) :
    Minds flag known (markMissingServicesUnknown host seenContainerIds checkedAt) := by
  apply Minds.call
  · trivial
  · exact fun _ _ => trivial
  · exact fun _ _ => rfl
  intro existingServices learned grows has
  apply markUnknown_minds
  intro service member
  exact has service (List.mem_filter.mp member).1

/-- A sync of a known host only touches what belongs to the host's organization. -/
theorem sync_minds (platform : Platform) {host : Host} (has : known.HasHost host)
    (dockerPsResult : SshCommandResult) :
    Minds flag known (sync platform host dockerPsResult) := by
  unfold sync
  split
  · exact .pure ()
  apply Minds.ofExcept_bind
  intro listing _
  apply Minds.calmCall
  · exact Call.Plain.calm trivial
  intro checkedAt
  apply Minds.bind (upsertServices_minds platform has checkedAt listing.containers)
  intro upserted
  apply markMissingServicesUnknown_minds

/-- So does whatever a check hands on to it. -/
theorem syncResults_minds (platform : Platform) {host : Host} (has : known.HasHost host)
    (sshResults : Option (List SshCommandResult)) :
    Minds flag known (syncResults platform host sshResults) := by
  unfold syncResults
  split
  · exact .pure ()
  · exact sync_minds platform has _
  · exact .throw _

/-- A check knows the owner of its host from having loaded it. -/
theorem checkHost_minds (platform : Platform) (hostId : Nat) :
    Minds flag known (checkHost platform hostId) := by
  apply Minds.call
  · trivial
  · exact fun _ _ => trivial
  · exact fun _ _ => rfl
  rintro (_ | host) learned grows has
  · exact .pure ()
  apply Minds.bind
  · apply Minds.calm
    exact (runCheck_only platform host).mono fun call => Call.OfSession.calm
  rintro ⟨outcome, sshResults⟩
  apply Minds.calmCall
  · exact Call.Plain.calm trivial
  intro log
  apply Minds.calmCall
  · exact Call.Plain.calm trivial
  intro checkedAt
  have hasChecked : learned.HasHost (checkedHost host outcome.status checkedAt) := has
  apply Minds.bind
  · apply Minds.callLast
    · exact hasChecked
    · exact fun _ _ => trivial
    · exact fun _ _ => rfl
  intro saved
  apply Minds.bind
  · apply evaluateTransition_minds
    intro progress _
    exact hasChecked
  intro evaluated
  exact syncResults_minds platform hasChecked sshResults

/-- The alert of a certificate is for the owner of its domain. -/
theorem checkTls_minds (platform : Platform) {domain : Domain}
    (has : known.HasDomain domain) (resolvedIp : String) :
    Minds flag known (checkTls platform domain resolvedIp) := by
  apply Minds.bind
  · apply Minds.calm
    exact (performTlsCheck_only _ _ _).mono fun call => Call.OfHandshake.calm
  intro tlsResult
  apply Minds.calmCall
  · exact Call.Plain.calm trivial
  intro log
  apply Minds.calmCall
  · exact Call.Plain.calm trivial
  rintro (_ | cert)
  · exact .pure ()
  apply Minds.calmCall
  · exact Call.Plain.calm trivial
  intro lastCheckedAt
  apply Minds.ofExcept_bind
  intro validFrom _
  apply Minds.ofExcept_bind
  intro validTo _
  apply Minds.calmCall
  · exact Call.Plain.calm trivial
  intro saved
  apply evaluateTransition_minds
  intro progress _
  exact has.own

/-- A certificate is checked only where the name has been resolved. -/
theorem checkCertificate_minds (platform : Platform) {domain : Domain}
    (has : known.HasDomain domain) (dnsResult : DnsCheckResult) :
    Minds flag known (checkCertificate platform domain dnsResult) := by
  unfold checkCertificate
  split
  · exact checkTls_minds platform has _
  · apply Minds.calmCall
    · exact Call.Plain.calm trivial
    intro log
    exact .pure ()

/-- A check knows the owner of its domain from having loaded it. -/
theorem checkDomain_minds (platform : Platform) (domainId : Nat) :
    Minds flag known (checkDomain platform domainId) := by
  apply Minds.call
  · trivial
  · exact fun _ _ => trivial
  · exact fun _ _ => rfl
  rintro (_ | domain) learned grows has
  · exact .pure ()
  apply Minds.bind
  · apply Minds.calm
    exact (performDnsCheck_only _).mono fun call => Call.OfLookup.calm
  intro dnsResult
  apply Minds.calmCall
  · exact Call.Plain.calm trivial
  intro dnsLog
  apply Minds.bind
  · apply Minds.calm
    exact (performWhoisLookup_only _ _).mono fun call => Call.OfLookup.calm
  intro whoisResult
  apply Minds.calmCall
  · exact Call.Plain.calm trivial
  intro whoisLog
  apply Minds.calmCall
  · exact Call.Plain.calm trivial
  intro checkedAt
  have hasChecked : learned.HasDomain (checkedDomain domain dnsResult whoisResult checkedAt) :=
    ⟨has.own, has.linked⟩
  apply Minds.bind
  · apply Minds.callLast
    · exact hasChecked
    · exact fun _ _ => trivial
    · exact fun _ _ => rfl
  intro saved
  exact checkCertificate_minds platform hasChecked dnsResult

/-! ### Registrations and removals -/

/-- A host that is found for an organization is that organization's. -/
theorem findHostOrThrow_bind_minds {orgId id : Nat} {rest : Host → Job β}
    (mindsRest : ∀ host learned, known.Le learned → learned.HasHost host → host.id = id →
      host.orgId = orgId → Minds flag learned (rest host)) :
    Minds flag known ((findHostOrThrow orgId id).bind rest) := by
  unfold findHostOrThrow
  rw [Program.bind_eq, Program.bind_assoc]
  apply Minds.call
  · trivial
  · exact fun _ _ => trivial
  · exact fun _ _ => rfl
  rintro (_ | host) learned grows has
  · exact .throw _
  · exact mindsRest host learned grows has.1 has.2.1 has.2.2

/-- A host is inserted for the organization that asks for it. -/
theorem createHost_minds (platform : Platform) (orgId : Nat) (dto : CreateHostDto)
    (privateKey : String) : Minds flag known (createHost platform orgId dto privateKey) := by
  apply Minds.calm
  apply Program.Only.bind
  · apply Program.Only.bind
    · exact Program.only_perform (Call.Plain.calm trivial)
    · intro iv
      trivial
  · intro sshKeyEncrypted
    exact Program.only_perform (Call.Plain.calm trivial)

/-- Only a host of the organization that asks is removed. -/
theorem removeHost_minds (orgId id : Nat) : Minds flag known (removeHost orgId id) := by
  apply findHostOrThrow_bind_minds
  intro host learned _ _ _ _
  apply Minds.calm
  exact Program.only_perform (Call.Plain.calm trivial)

/-- Only a domain of the organization that asks is removed. -/
theorem removeDomain_minds (orgId id : Nat) : Minds flag known (removeDomain orgId id) := by
  apply Minds.calm
  apply Program.Only.bind
  · apply Program.Only.bind
    · exact Program.only_perform (Call.Plain.calm trivial)
    · intro found
      split <;> trivial
  · intro domain
    exact Program.only_perform (Call.Plain.calm trivial)

/-- Once the linked host is looked up, if there is one, it is known to be the
organization's. -/
theorem checkLinkedHost_bind_minds {α : Type} {orgId : Nat} {linkedHostId : Option Nat}
    {rest : Unit → Job α}
    (minds : ∀ learned : OwnerRegistry,
      (∀ hostId, linkedHostId = some hostId → learned.hosts hostId = some orgId) →
      Minds flag learned (rest ())) :
    Minds flag known ((checkLinkedHost orgId linkedHostId).bind rest) := by
  cases linkedHostId with
  | none =>
      apply Minds.bind (.pure ())
      intro checked
      apply minds
      intro hostId same
      cases same
  | some hostId =>
      change Minds flag known (((findHostOrThrow orgId hostId).bind fun _ => .pure ()).bind rest)
      rw [Program.bind_assoc]
      apply findHostOrThrow_bind_minds
      intro host learned grows has sameId sameOrg
      apply minds
      intro other same
      cases same
      rw [← sameId, ← sameOrg]
      exact has

/-- A domain is inserted for the organization that asks for it. -/
theorem createDomain_minds (orgId : Nat) (dto : CreateDomainDto) :
    Minds flag known (createDomain orgId dto) := by
  apply checkLinkedHost_bind_minds
  intro learned linked
  apply Minds.calmCall
  · exact Call.Plain.calm trivial
  rintro (_ | taken)
  · apply Minds.bind
    · apply Minds.callLast
      · exact linked
      · exact fun _ _ => trivial
      · exact fun _ _ => rfl
    intro domain
    apply Minds.calmCall
    · exact Call.Plain.calm trivial
    intro certificate
    apply Minds.calmCall
    · exact Call.Plain.calm trivial
    intro jobId
    exact .pure _
  · exact .throw _


/-! ### Rollbacks -/

/-- None of the calls of a request for a rollback needs to know an owner. -/
theorem enqueueRollback_plain (orgId serviceId targetSnapshotId triggeredByUserId : Nat) :
    (enqueueRollback orgId serviceId targetSnapshotId triggeredByUserId).Only
      Call.Plain := by
  apply Program.Only.bind
  · apply Program.Only.bind (Program.only_perform trivial)
    intro found
    split <;> trivial
  intro service
  apply Program.Only.bind
  · apply Program.Only.bind (Program.only_perform trivial)
    intro found
    split <;> trivial
  intro targetSnapshot
  apply Program.Only.bind (Program.only_perform trivial)
  intro current
  split
  · trivial
  apply Program.Only.bind (Program.only_perform trivial)
  intro active
  split
  · trivial
  apply Program.Only.tryCatch
  · apply Program.Only.bind (Program.only_perform trivial)
    intro event
    apply Program.Only.bind (Program.only_perform trivial)
    intro job
    trivial
  · intro error
    split <;> trivial

/-- The event of a request is of a service that the organization owns. -/
theorem enqueueRollback_minds (orgId serviceId targetSnapshotId triggeredByUserId : Nat) :
    Minds flag known
      (enqueueRollback orgId serviceId targetSnapshotId triggeredByUserId) := by
  apply Minds.calm
  exact (enqueueRollback_plain _ _ _ _).mono fun call => Call.Plain.calm

/-- A copy of an event under the same key, for the same service. -/
structure SameRollback (event other : RollbackEvent) : Prop where
  id : other.id = event.id
  serviceId : other.serviceId = event.serviceId

/-- An event that only differs in status and log is still known. -/
theorem SameRollback.has {event other : RollbackEvent} (same : SameRollback event other)
    (has : known.HasEvent event) : known.HasEvent other := by
  unfold OwnerRegistry.HasEvent
  rw [same.id, same.serviceId]
  exact has

/-- An event that is known may be saved. -/
theorem saveEvent_minds {event : RollbackEvent} (has : known.HasEvent event) :
    Minds flag known (query (.saveEvent event)) := by
  apply Minds.callLast
  · exact has
  · exact fun _ _ => trivial
  · exact fun _ _ => rfl

/-- What is appended to is still the same event. -/
theorem appendLog_bind_minds {event : RollbackEvent} {entry : RollbackLogEntry}
    {rest : RollbackEvent → Job β} (has : known.HasEvent event)
    (mindsRest : ∀ logged, SameRollback event logged → Minds flag known (rest logged)) :
    Minds flag known ((appendLog event entry).bind rest) := by
  unfold appendLog
  rw [Program.bind_eq, Program.bind_assoc]
  apply Minds.bind
  · exact saveEvent_minds has
  · intro saved
    exact mindsRest _ ⟨rfl, rfl⟩

theorem messageEntry_minds (step message : String) :
    Minds flag known (messageEntry step message) := by
  apply Minds.calmCall
  · exact Call.Plain.calm trivial
  intro timestamp
  exact .pure _

theorem toLogEntry_minds (step : String) (result : SshCommandResult) :
    Minds flag known (toLogEntry step result) := by
  apply Minds.calmCall
  · exact Call.Plain.calm trivial
  intro timestamp
  exact .pure _

/-- Completing an event does not change whose it is. -/
theorem complete_minds {event : RollbackEvent} (has : known.HasEvent event)
    (status : RollbackEventStatus) : Minds flag known (complete event status) := by
  apply Minds.calmCall
  · exact Call.Plain.calm trivial
  intro completedAt
  apply Minds.bind
  · apply saveEvent_minds
    exact has
  · intro saved
    exact .pure ()

variable (platform : Platform) {event : RollbackEvent} {service : Service}

/-- A failed event is evaluated for the owner of its service, where there is one to tell. -/
theorem fail_minds (has : known.HasEvent event) (reason : String) (orgId : Option Nat)
    (owned : ∀ owner, orgId = some owner →
      known.serviceOwner event.serviceId = some owner) :
    Minds flag known (fail platform event reason orgId) := by
  apply Minds.bind (messageEntry_minds _ _)
  intro entry
  apply appendLog_bind_minds has
  intro logged same
  apply Minds.bind (complete_minds (same.has has) _)
  intro completed
  cases orgId with
  | none => exact .pure ()
  | some orgId =>
      apply evaluateTransition_minds
      intro progress _
      apply Option.bind_eq_some_iff.mpr
      exact ⟨logged.serviceId, same.has has, by rw [same.serviceId]; exact owned orgId rfl⟩

/-- The event and its service, of which the owner is known. -/
structure HasRollback (known : OwnerRegistry) (event : RollbackEvent) (service : Service) :
    Prop where
  ofEvent : known.HasEvent event
  ofService : known.HasService service
  same : service.id = event.serviceId

theorem SameRollback.hasRollback {other : RollbackEvent} (same : SameRollback event other)
    (has : HasRollback known event service) : HasRollback known other service :=
  ⟨same.has has.ofEvent, has.ofService, has.same.trans same.serviceId.symm⟩

/-- A rollback whose service is known fails for the service's organization. -/
theorem HasRollback.fail_minds (has : HasRollback known event service) (reason : String) :
    Minds flag known (fail platform event reason (some service.orgId)) := by
  apply ServersManager.fail_minds platform has.ofEvent
  rintro owner ⟨⟩
  rw [← has.same]
  exact has.ofService.serviceOwner

theorem createSnapshot_plain (input : CreateSnapshotInput) :
    (createSnapshot platform input).Only Call.Plain := by
  apply Program.Only.bind
  · apply Program.Only.bind (Program.only_perform trivial)
    intro iv
    trivial
  · intro configBlob
    exact Program.only_perform trivial

/-- A rollback that succeeds rewrites its own service and adds a snapshot of it. -/
theorem succeed_minds (has : HasRollback known event service) (newContainerId : Json)
    (targetSnapshot : DeploymentSnapshot) (newStatus : ServiceStatus) :
    Minds flag known
      (succeed platform event service newContainerId targetSnapshot newStatus) := by
  apply Minds.calmCall
  · exact Call.Plain.calm trivial
  intro lastCheckedAt
  apply Minds.bind
  · apply Minds.callLast
    · exact ⟨has.ofService.own, has.ofService.placed⟩
    · exact fun _ _ => trivial
    · exact fun _ _ => rfl
  intro saved
  apply Minds.ofExcept_bind
  intro config _
  apply Minds.calmCall
  · exact Call.Plain.calm trivial
  intro deployedAt
  apply Minds.bind
  · apply Minds.calm
    exact (createSnapshot_plain _ _).mono fun call => Call.Plain.calm
  intro snapshot
  apply Minds.calmCall
  · exact Call.Plain.calm trivial
  intro log
  exact complete_minds has.ofEvent _

/-- Whichever way the listing decides. -/
theorem checkRecreated_minds (has : HasRollback known event service)
    (targetSnapshot : DeploymentSnapshot) (containerName : String)
    (psResult : SshCommandResult) :
    Minds flag known
      (checkRecreated platform event service targetSnapshot containerName psResult) := by
  apply Minds.ofExcept_bind
  intro listing _
  apply Minds.ofExcept_bind
  intro newStatus _
  apply Minds.bind (messageEntry_minds _ _)
  intro entry
  apply appendLog_bind_minds has.ofEvent
  intro logged same
  split
  · exact succeed_minds platform (same.hasRollback has) _ _ _
  · exact (same.hasRollback has).fail_minds platform _

/-- Four log entries, and then the decision. -/
theorem settle_minds (has : HasRollback known event service)
    (targetSnapshot : DeploymentSnapshot) (containerName : String)
    (results : List SshCommandResult) :
    Minds flag known
      (settle platform event service targetSnapshot containerName results) := by
  unfold settle
  split
  · next stopResult rmResult runResult psResult =>
    apply Minds.bind (toLogEntry_minds _ _)
    intro stopEntry
    apply appendLog_bind_minds has.ofEvent
    intro stopped sameStopped
    have hasStopped := sameStopped.hasRollback has
    apply Minds.bind (toLogEntry_minds _ _)
    intro rmEntry
    apply appendLog_bind_minds hasStopped.ofEvent
    intro removed sameRemoved
    have hasRemoved := sameRemoved.hasRollback hasStopped
    apply Minds.bind (toLogEntry_minds _ _)
    intro runEntry
    apply appendLog_bind_minds hasRemoved.ofEvent
    intro started sameStarted
    have hasStarted := sameStarted.hasRollback hasRemoved
    apply Minds.bind (toLogEntry_minds _ _)
    intro psEntry
    apply appendLog_bind_minds hasStarted.ofEvent
    intro listed sameListed
    have hasListed := sameListed.hasRollback hasStarted
    split
    · exact hasListed.fail_minds platform _
    · exact checkRecreated_minds platform hasListed targetSnapshot containerName psResult
  · exact .throw _

/-- The session itself is calm; where it breaks off, the event fails. -/
theorem session_minds (has : HasRollback known event service) (host : Host)
    (targetSnapshot : DeploymentSnapshot) (privateKey : String) (config : Json) :
    Minds flag known
      (session platform event service host targetSnapshot privateKey config) := by
  apply Minds.tryCatch
  · apply Minds.ofExcept_bind
    intro config _
    apply Minds.bind
    · apply Minds.calm
      apply runCommands_only
      · exact Call.Plain.calm trivial
      · exact fun command => Call.Plain.calm trivial
    · intro results
      exact .pure _
  · intro error
    apply Minds.bind (has.fail_minds platform _)
    intro failed
    exact .pure _

/-- What cannot be decrypted escapes, and says nothing to anyone. -/
theorem execute_minds (has : HasRollback known event service) (host : Host)
    (targetSnapshot : DeploymentSnapshot) (privateKey : String) :
    Minds flag known
      (execute platform event service host targetSnapshot privateKey) := by
  apply Minds.ofExcept_bind
  intro config _
  apply Minds.bind (session_minds platform has host targetSnapshot privateKey config)
  intro ended
  split
  · exact .pure ()
  · exact settle_minds platform has targetSnapshot _ _

/-- Each row that is missing fails the event for the owner that is known by then. -/
theorem processEvent_minds (has : known.HasEvent event) :
    Minds flag known (processEvent platform event) := by
  apply Minds.call
  · trivial
  · exact fun _ _ => trivial
  · exact fun _ _ => rfl
  rintro (_ | service) learned grows found
  · exact fail_minds platform (grows.events _ _ has) _ none nofun
  have hasRollback : HasRollback learned event service :=
    ⟨grows.events _ _ has, found.1, found.2⟩
  apply Minds.calmCall
  · exact Call.Plain.calm trivial
  rintro (_ | host)
  · exact hasRollback.fail_minds platform _
  apply Minds.calmCall
  · exact Call.Plain.calm trivial
  rintro (_ | targetSnapshot)
  · exact hasRollback.fail_minds platform _
  cases platform.decrypt host.sshKeyEncrypted with
  | error error => exact hasRollback.fail_minds platform _
  | ok privateKey => exact execute_minds platform hasRollback host targetSnapshot _

/-- A job only speaks for the organization of its event's service. -/
theorem process_minds (rollbackEventId : Nat) :
    Minds flag known (process platform rollbackEventId) := by
  apply Minds.call
  · trivial
  · exact fun _ _ => trivial
  · exact fun _ _ => rfl
  rintro (_ | event) learned grows has
  · exact .pure ()
  have hasStarted : learned.HasEvent { event with status := .inProgress } := has
  apply Minds.bind (saveEvent_minds hasStarted)
  intro saved
  exact processEvent_minds platform hasStarted


/-! ### Insights -/

/-- What matches a flag belongs to the organization that comes with it. -/
def Matched (known : OwnerRegistry) (flag : InsightFlag) (entities : List InsightMatch) :
    Prop :=
  ∀ entity ∈ entities,
    known.owner (alertedEntity (some flag) .system entity.id) = some entity.orgId

theorem upsertFlag_plain (entityId : Nat) (insight : InsightFlag) (active : Bool) :
    (upsertFlag entityId insight active).Only Call.Plain := by
  apply Program.Only.bind (Program.only_perform trivial)
  rintro (_ | state)
  · apply Program.Only.bind (Program.only_perform trivial)
    intro inserted
    trivial
  · apply Program.Only.bind (Program.only_perform trivial)
    intro saved
    trivial

/-- A flag row has no owner of its own. -/
theorem upsertFlag_minds (entityId : Nat) (insight : InsightFlag) (active : Bool) :
    Minds flag known (upsertFlag entityId insight active) := by
  apply Minds.calm
  exact (upsertFlag_plain _ _ _).mono fun call => Call.Plain.calm

/-- What is newly matched is dispatched to the organization of the matched entity. -/
theorem activateFlags_minds (insight : InsightFlag) (previouslyActiveIds : List Nat)
    (entities : List InsightMatch) (matched : Matched known insight entities) :
    Minds (some insight) known
      (activateFlags platform insight previouslyActiveIds entities) := by
  induction entities with
  | nil => exact .pure ()
  | cons entity entities inductionHypothesis =>
      have rest : Minds (some insight) known (do
          upsertFlag entity.id insight true
          activateFlags platform insight previouslyActiveIds entities : Job Unit) := by
        apply Minds.bind (upsertFlag_minds _ _ _)
        intro activated
        apply inductionHypothesis
        intro other member
        exact matched other (List.mem_cons_of_mem entity member)
      unfold activateFlags
      split
      · apply Minds.bind
        · apply evaluateDirectCondition_minds
          intro progress looks
          rw [looks insight rfl]
          exact matched entity List.mem_cons_self
        · intro evaluated
          exact rest
      · exact rest

/-- Clearing a flag tells nobody. -/
theorem deactivateFlags_minds (insight : InsightFlag) (states : List InsightState) :
    Minds flag known (deactivateFlags insight states) := by
  induction states with
  | nil => exact .pure ()
  | cons state states inductionHypothesis =>
      apply Minds.bind (upsertFlag_minds _ _ _)
      intro deactivated
      exact inductionHypothesis

/-- The lookup of the active insights is where a job turns to a flag. -/
theorem findActiveInsights_bind_minds {insight : InsightFlag}
    {rest : List InsightState → Job β}
    (mindsRest : ∀ states, Minds (some insight) known (rest states)) :
    Minds none known ((query (.findActiveInsights insight)).bind rest) := by
  intro aware knows _
  apply (Program.follows_perform_bind _).mpr
  refine ⟨⟨trivial, trivial⟩, ?_, ?_⟩
  · rintro states after ⟨grows, -, progress⟩
    have looks : after.progress.At (some insight) := by
      rintro held ⟨⟩
      rw [progress]
      rfl
    apply (mindsRest states after (knows.trans grows) looks).mono
    rintro outcome last ⟨knowsLast, -⟩
    exact ⟨knowsLast, nofun⟩
  · rintro error after ⟨grows, -, -⟩
    exact ⟨knows.trans grows, nofun⟩

/-- New matches are dispatched while the flag is being evaluated, and at no other time. -/
theorem evaluateFlagTransitions_minds {insight : InsightFlag}
    {entities : List InsightMatch} (matched : Matched known insight entities) :
    Minds none known (evaluateFlagTransitions platform insight entities) := by
  apply findActiveInsights_bind_minds
  intro previousStates
  apply Minds.bind (activateFlags_minds platform insight _ entities matched)
  intro activated
  apply deactivateFlags_minds

/-- The hosts that are found idle are known by then. -/
theorem computeIdleHosts_bind_minds {orgId : Option Nat} {rest : List Host → Job β}
    (mindsRest : ∀ hosts learned, known.Le learned →
      (∀ host ∈ hosts, learned.HasHost host) → Minds flag learned (rest hosts)) :
    Minds flag known ((computeIdleHosts orgId).bind rest) := by
  unfold computeIdleHosts
  rw [Program.bind_eq, Program.bind_assoc]
  apply Minds.calmCall
  · exact Call.Plain.calm trivial
  intro time
  rw [Program.bind_eq, Program.bind_assoc]
  apply Minds.call
  · trivial
  · exact fun _ _ => trivial
  · exact fun _ _ => rfl
  intro candidates learned grows has
  split
  · exact mindsRest [] learned grows nofun
  · rw [Program.bind_eq, Program.bind_assoc]
    apply Minds.calmCall
    · exact Call.Plain.calm trivial
    intro runningServices
    apply mindsRest _ learned grows
    intro host member
    exact has host (List.mem_filter.mp member).1

/-- The domains that are found orphaned are known by then. -/
theorem computeOrphanedDomains_bind_minds {orgId : Option Nat} {rest : List Domain → Job β}
    (mindsRest : ∀ domains learned, known.Le learned →
      (∀ domain ∈ domains, learned.HasDomain domain) → Minds flag learned (rest domains)) :
    Minds flag known ((computeOrphanedDomains orgId).bind rest) := by
  unfold computeOrphanedDomains
  rw [Program.bind_eq, Program.bind_assoc]
  apply Minds.call
  · trivial
  · exact fun _ _ => trivial
  · exact fun _ _ => rfl
  intro domains learned grows has
  split
  · exact mindsRest [] learned grows nofun
  · rw [Program.bind_eq, Program.bind_assoc]
    apply Minds.calmCall
    · exact Call.Plain.calm trivial
    intro hosts
    apply mindsRest _ learned grows
    intro domain member
    exact has domain (List.mem_filter.mp member).1

/-- The hosts that are found orphaned are known by then. -/
theorem computeOrphanedHosts_bind_minds {orgId : Option Nat} {rest : List Host → Job β}
    (mindsRest : ∀ hosts learned, known.Le learned →
      (∀ host ∈ hosts, learned.HasHost host) → Minds flag learned (rest hosts)) :
    Minds flag known ((computeOrphanedHosts orgId).bind rest) := by
  unfold computeOrphanedHosts
  rw [Program.bind_eq, Program.bind_assoc]
  apply Minds.call
  · trivial
  · exact fun _ _ => trivial
  · exact fun _ _ => rfl
  intro hosts learned grows has
  split
  · exact mindsRest [] learned grows nofun
  · rw [Program.bind_eq, Program.bind_assoc]
    apply Minds.calmCall
    · exact Call.Plain.calm trivial
    intro domainsWithHost
    apply mindsRest _ learned grows
    intro host member
    exact has host (List.mem_filter.mp member).1

/-- Whichever flag it is, what it dispatches is about entities that it has read. -/
theorem evaluateFlag_minds (insight : InsightFlag) :
    Minds none known (evaluateFlag platform insight) := by
  cases insight with
  | idleHost =>
      change Minds none known (((computeIdleHosts none).bind fun hosts =>
        .pure (hosts.map idleHostMatch)).bind _)
      rw [Program.bind_assoc]
      apply computeIdleHosts_bind_minds
      intro hosts learned grows has
      apply evaluateFlagTransitions_minds
      intro entity member
      obtain ⟨host, hostMember, rfl⟩ := List.mem_map.mp member
      exact has host hostMember
  | orphanedDomain =>
      change Minds none known (((computeOrphanedDomains none).bind fun domains =>
        .pure (domains.map orphanedDomainMatch)).bind _)
      rw [Program.bind_assoc]
      apply computeOrphanedDomains_bind_minds
      intro domains learned grows has
      apply evaluateFlagTransitions_minds
      intro entity member
      obtain ⟨domain, domainMember, rfl⟩ := List.mem_map.mp member
      exact (has domain domainMember).own
  | orphanedHost =>
      change Minds none known (((computeOrphanedHosts none).bind fun hosts =>
        .pure (hosts.map orphanedHostMatch)).bind _)
      rw [Program.bind_assoc]
      apply computeOrphanedHosts_bind_minds
      intro hosts learned grows has
      apply evaluateFlagTransitions_minds
      intro entity member
      obtain ⟨host, hostMember, rfl⟩ := List.mem_map.mp member
      exact has host hostMember

/-- The three flags, one after another. -/
theorem runDailyCheck_minds : Minds none known (runDailyCheck platform) := by
  apply Minds.bind (evaluateFlag_minds platform _)
  intro idleHosts
  apply Minds.bind (evaluateFlag_minds platform _)
  intro orphanedDomains
  exact evaluateFlag_minds platform _

end Jobs


/-! ### Any interleaving of jobs -/

/-- What may run, each for any organization and any ids. -/
inductive TenantJob where
  | createHost (orgId : Nat) (dto : CreateHostDto) (privateKey : String)
  | removeHost (orgId id : Nat)
  | checkHost (hostId : Nat)
  | createDomain (orgId : Nat) (dto : CreateDomainDto)
  | removeDomain (orgId id : Nat)
  | checkDomain (domainId : Nat)
  | enqueueRollback (orgId serviceId targetSnapshotId triggeredByUserId : Nat)
  | process (rollbackEventId : Nat)
  | runDailyCheck

def TenantJob.code (platform : Platform) : TenantJob → Job Unit
  | .createHost orgId dto privateKey => do
      let _ ← ServersManager.createHost platform orgId dto privateKey
  | .removeHost orgId id => ServersManager.removeHost orgId id
  | .checkHost hostId => ServersManager.checkHost platform hostId
  | .createDomain orgId dto => do
      let _ ← ServersManager.createDomain orgId dto
  | .removeDomain orgId id => ServersManager.removeDomain orgId id
  | .checkDomain domainId => ServersManager.checkDomain platform domainId
  | .enqueueRollback orgId serviceId targetSnapshotId triggeredByUserId => do
      let _ ← ServersManager.enqueueRollback orgId serviceId targetSnapshotId
        triggeredByUserId
  | .process rollbackEventId => ServersManager.process platform rollbackEventId
  | .runDailyCheck => ServersManager.runDailyCheck platform

/-- Every job that writes rows or dispatches alerts. -/
theorem TenantJob.minds (platform : Platform) (job : TenantJob) (known : OwnerRegistry) :
    Minds none known (job.code platform) := by
  cases job with
  | createHost orgId dto privateKey =>
      apply Minds.bind (createHost_minds platform orgId dto privateKey)
      intro host
      exact .pure ()
  | removeHost orgId id => exact removeHost_minds orgId id
  | checkHost hostId => exact checkHost_minds platform hostId
  | createDomain orgId dto =>
      apply Minds.bind (createDomain_minds orgId dto)
      intro created
      exact .pure ()
  | removeDomain orgId id => exact removeDomain_minds orgId id
  | checkDomain domainId => exact checkDomain_minds platform domainId
  | enqueueRollback orgId serviceId targetSnapshotId triggeredByUserId =>
      apply Minds.bind (enqueueRollback_minds _ _ _ _)
      intro enqueued
      exact .pure ()
  | process rollbackEventId => exact process_minds platform rollbackEventId
  | runDailyCheck => exact runDailyCheck_minds platform

/-- Jobs, none of which has started. -/
def tenantPool {ι : Type} (platform : Platform) (jobs : ι → TenantJob) (db : Database)
    (registry : OwnerRegistry) : Pool Calls JsError ι Unit (TenantStore ι) where
  threads thread := (jobs thread).code platform
  store :=
    { database := db
      registry := registry
      progress := fun _ => { flag := none, rules := [], subject := none } }

/-- What every interleaving keeps. -/
theorem tenantPool_reaches {ι : Type} [DecidableEq ι] (platform : Platform)
    (jobs : ι → TenantJob) {db : Database} {registry : OwnerRegistry}
    (registered : Registered db registry)
    {pool : Pool Calls JsError ι Unit (TenantStore ι)}
    (reaches : Pool.Reaches tenantAnswers (tenantPool platform jobs db registry) pool) :
    ∃ aware, pool.Follows (fun _ => tenantProtocol)
        (fun _ _ after => registry.Le after.known ∧ after.progress.At none) aware ∧
      TenantsKept registry aware pool.store := by
  let start : ι → Awareness := fun _ =>
    { known := registry, progress := { flag := none, rules := [], subject := none } }
  have follows : (tenantPool platform jobs db registry).Follows (fun _ => tenantProtocol)
      (fun _ _ after => registry.Le after.known ∧ after.progress.At none) start := by
    intro thread
    exact (jobs thread).minds platform registry (start thread) (.refl registry) nofun
  have kept : TenantsKept registry start (tenantPool platform jobs db registry).store :=
    ⟨registered, .refl registry, fun _ => .refl registry, fun _ => rfl⟩
  exact reaches.invariant (tenant_keeps registry) follows kept

/-- However the calls of any number of jobs interleave, whichever of them fail, and
whenever alert rules change: every row keeps the owner it was given when it was inserted,
and whatever is about to be sent or logged is about an entity of the organization whose
rule it uses. -/
theorem alerts_within_tenant {ι : Type} [DecidableEq ι] (platform : Platform)
    (jobs : ι → TenantJob) {db : Database} {registry : OwnerRegistry}
    (registered : Registered db registry)
    {pool : Pool Calls JsError ι Unit (TenantStore ι)}
    (reaches : Pool.Reaches tenantAnswers (tenantPool platform jobs db registry) pool) :
    Registered pool.store.database pool.store.registry ∧
      registry.Le pool.store.registry ∧
      ∀ thread call next, pool.threads thread = .call call next →
        WithinTenant pool.store.registry (pool.store.progress thread) call := by
  obtain ⟨aware, follows, kept⟩ := tenantPool_reaches platform jobs registered reaches
  refine ⟨kept.registered, kept.grown, ?_⟩
  intro thread call next current
  have here := follows thread
  rw [current] at here
  rw [← kept.seen thread]
  exact here.1.2.mono (kept.known thread)

/-- An organization that wants to hear of its hosts that become healthy. -/
def healthyRule : AlertRule :=
  { id := 1
    orgId := 6
    entityType := .host
    condition := "host_status_transitioned_to:healthy"
    channel := .slack
    channelConfigEncrypted := Json.stringify (.obj [("webhook_url", .str "https://hook")])
    cooldownMinutes := 30
    enabled := true }

def tenancyJobs : Bool → TenantJob
  | false => .createHost 6
      { name := "web-1"
        ipAddress := "10.0.0.2"
        sshPort := none
        sshUser := "deploy" } "key"
  | true => .checkHost 0

def tenancyPool : Pool Calls JsError Bool Unit (TenantStore Bool) :=
  tenantPool .transparent tenancyJobs
    { (default : Database) with alertRules := Table.single healthyRule } .empty

/-- The check of the new host has made ten calls. -/
def checkedPool : Pool Calls JsError Bool Unit (TenantStore Bool) :=
  (tenancyPool.completed false (tenantMachine .quiet false)).advanced
    (tenantMachine .quiet true) true 10

theorem checkedPool_posts : (match checkedPool.threads true with
    | .call (.fetch _ _) _ => true
    | _ => false) = true := by
  decide +kernel

/-- A host is registered and checked, and its organization is about to be told. -/
theorem alerts_within_tenant_healthy : ∃ url body next,
    checkedPool.threads true = .call (.fetch url body) next ∧
      WithinTenant checkedPool.store.registry (checkedPool.store.progress true)
        (.fetch url body) := by
  have created : Pool.Reaches tenantAnswers tenancyPool
      (tenancyPool.completed false (tenantMachine .quiet false)) :=
    Pool.Reaches.run .refl false (tenantMachine .quiet false) (tenantMachine_answers .quiet false)
  have checked : Pool.Reaches tenantAnswers tenancyPool checkedPool :=
    created.advanced true (tenantMachine .quiet true) (tenantMachine_answers .quiet true) 10
  have registered : Registered tenancyPool.store.database
      tenancyPool.store.registry := Registered.empty.frame rfl rfl rfl rfl
  have posts := checkedPool_posts
  split at posts
  · next url body next current =>
    have within := (alerts_within_tenant .transparent tenancyJobs registered
      checked).2.2 true _ _ current
    exact ⟨url, body, next, current, within⟩
  · cases posts

end ServersManager
