/-
Module: ServersManager.CloudAccounts
Purpose: CloudAccountsService, and any number of its requests at once: the label and the
  key of each account are of requests of its organization, and no request reaches another
  organization's.
Trusted boundary: human-reviewed call signature of the account table
Main exports:
  saveAccount, connect, disconnect, findAllForOrg, CloudRequest, AccountsKept,
  accounts_kept
-/
import ServersManager.Calls
import ServersManager.Library.Knowledge
import ServersManager.Library.Registry

namespace ServersManager

open Library

/-! ### Accounts -/

inductive CloudProvider where
  | vercel
  | render
  | aws
  | azure
  | gcp
  | ovh
  | cloudflare
deriving Repr, Inhabited, DecidableEq

/-- `Object.values(CloudProvider)`. -/
def CloudProvider.values : List CloudProvider :=
  [.vercel, .render, .aws, .azure, .gcp, .ovh, .cloudflare]

def providerLabels : CloudProvider → String
  | .vercel => "Vercel"
  | .render => "Render"
  | .aws => "AWS"
  | .azure => "Azure"
  | .gcp => "Google Cloud"
  | .ovh => "OVHcloud"
  | .cloudflare => "Cloudflare"

structure CloudAccount where
  id : Nat
  orgId : Nat
  provider : CloudProvider
  label : String
  apiKeyEncrypted : String
  connectedAt : Date
deriving Repr, Inhabited, DecidableEq

def CloudAccount.owner (account : CloudAccount) : Nat × CloudProvider :=
  (account.orgId, account.provider)

/-- One row for each organization and provider. -/
instance : Keyed CloudAccount (Nat × CloudProvider) where
  id := CloudAccount.id
  index account := some account.owner

structure ConnectCloudAccountDto where
  provider : CloudProvider
  label : String
  apiKey : String
deriving Repr, Inhabited, DecidableEq

structure CloudAccountResponseDto where
  id : Option Nat
  provider : CloudProvider
  providerLabel : String
  connected : Bool
  label : Option String
  connectedAt : Option Date
  monthlyCostUsd : Option JsonNumber
deriving Repr, Inhabited, DecidableEq

def toCloudAccountResponseDto (provider : CloudProvider) (account : Option CloudAccount) :
    CloudAccountResponseDto :=
  { id := account.map CloudAccount.id
    provider := provider
    providerLabel := providerLabels provider
    connected := account.isSome
    label := account.map CloudAccount.label
    connectedAt := account.map CloudAccount.connectedAt
    monthlyCostUsd := none }

/-! ### The columns of an update -/

/-- The columns that an update sets. -/
structure AccountChanges where
  orgId : Option Nat
  provider : Option CloudProvider
  label : Option String
  apiKeyEncrypted : Option String
  connectedAt : Option Date
deriving Repr, Inhabited, DecidableEq

def differing {α : Type} [DecidableEq α] (wanted current : α) : Option α :=
  if wanted = current then none else some wanted

/-- The columns in which an entity differs from its row. -/
def CloudAccount.changes (account current : CloudAccount) : AccountChanges :=
  { orgId := differing account.orgId current.orgId
    provider := differing account.provider current.provider
    label := differing account.label current.label
    apiKeyEncrypted := differing account.apiKeyEncrypted current.apiKeyEncrypted
    connectedAt := differing account.connectedAt current.connectedAt }

def AccountChanges.apply (changes : AccountChanges) (row : CloudAccount) : CloudAccount :=
  { id := row.id
    orgId := changes.orgId.getD row.orgId
    provider := changes.provider.getD row.provider
    label := changes.label.getD row.label
    apiKeyEncrypted := changes.apiKeyEncrypted.getD row.apiKeyEncrypted
    connectedAt := changes.connectedAt.getD row.connectedAt }

theorem getD_differing {α : Type} [DecidableEq α] (wanted current other : α) :
    (differing wanted current).getD other = wanted ∨
      wanted = current ∧ (differing wanted current).getD other = other := by
  unfold differing
  split
  · next same => exact .inr ⟨same, rfl⟩
  · exact .inl rfl

@[simp] theorem getD_differing_self {α : Type} [DecidableEq α] (wanted current : α) :
    (differing wanted current).getD current = wanted := by
  rcases getD_differing wanted current current with wanted | ⟨rfl, current⟩
  · exact wanted
  · exact current

/-- Applied to the row that it was compared with, an update makes it the entity. -/
theorem apply_changes {account current : CloudAccount} (same : account.id = current.id) :
    (account.changes current).apply current = account := by
  cases account
  cases current
  cases same
  simp [CloudAccount.changes, AccountChanges.apply]

/-- What owner and entity agree on stays with the row. -/
theorem owner_apply_changes {account current : CloudAccount}
    (same : account.owner = current.owner) (row : CloudAccount) :
    ((account.changes current).apply row).owner = row.owner := by
  obtain ⟨sameOrg, sameProvider⟩ := Prod.mk.inj same
  simp [CloudAccount.changes, AccountChanges.apply, CloudAccount.owner, differing, sameOrg,
    sameProvider]

/-! ### The service -/

/-- The calls of the service: its repository, and what `encrypt` and `new Date()` draw.
The repository inserts a row under a new key or the entity's own, and updates the row of a
key. -/
inductive CloudCall where
  | findForOrg (orgId : Nat)
  | findOfProvider (orgId : Nat) (provider : CloudProvider)
  | findOwn (orgId id : Nat)
  | findRow (id : Nat)
  | insert (account : CloudAccount)
  | insertRow (account : CloudAccount)
  | update (id : Nat) (changes : AccountChanges)
  | remove (account : CloudAccount)
  | randomBytes (count : Nat)
  | now

def CloudCall.Reply : CloudCall → Type
  | .findForOrg _ => List CloudAccount
  | .findOfProvider _ _ | .findOwn _ _ | .findRow _ => Option CloudAccount
  | .insert _ => CloudAccount
  | .insertRow _ | .update _ _ | .remove _ => Unit
  | .randomBytes _ => List UInt8
  | .now => Date

abbrev CloudCalls : Signature := ⟨CloudCall, CloudCall.Reply⟩

abbrev CloudJob := Program CloudCalls JsError

def cloud (call : CloudCall) : CloudJob call.Reply :=
  Program.perform (S := CloudCalls) call

namespace CloudAccountsService

/-- The map by provider holds the last row of each. -/
def findAllForOrg (orgId : Nat) : CloudJob (List CloudAccountResponseDto) := do
  let connected ← cloud (.findForOrg orgId)
  return CloudProvider.values.map fun provider =>
    toCloudAccountResponseDto provider
      (connected.reverse.find? fun account => account.provider == provider)

/-- The row as it is saved: an account that was found keeps its key. -/
def connectedRow (platform : Platform) (orgId : Nat) (dto : ConnectCloudAccountDto)
    (existing : Option CloudAccount) (iv : List UInt8) (connectedAt : Date) : CloudAccount :=
  match existing with
  | some existing =>
      { existing with
        label := dto.label
        apiKeyEncrypted := platform.encrypt iv dto.apiKey
        connectedAt := connectedAt }
  | none =>
      { id := 0
        orgId := orgId
        provider := dto.provider
        label := dto.label
        apiKeyEncrypted := platform.encrypt iv dto.apiKey
        connectedAt := connectedAt }

/-- `repository.save` of an entity with a key: the row is read first, and only the columns
that differ from it are written. -/
def saveAccount (account : CloudAccount) : CloudJob CloudAccount := do
  match ← cloud (.findRow account.id) with
  | none =>
      cloud (.insertRow account)
      return account
  | some current =>
      if account.changes current = default then
        return account
      cloud (.update account.id (account.changes current))
      return account

def connect (platform : Platform) (orgId : Nat) (dto : ConnectCloudAccountDto) :
    CloudJob CloudAccountResponseDto := do
  let existing ← cloud (.findOfProvider orgId dto.provider)
  let iv ← cloud (.randomBytes 12)
  let connectedAt ← cloud .now
  let row := connectedRow platform orgId dto existing iv connectedAt
  let account ← match existing with
    | some _ => saveAccount row
    | none => cloud (.insert row)
  return toCloudAccountResponseDto dto.provider (some account)

def disconnect (orgId id : Nat) : CloudJob Unit := do
  match ← cloud (.findOwn orgId id) with
  | none => throw (.notFound "Cloud account not found")
  | some account => cloud (.remove account)

end CloudAccountsService

/-! ### What the table answers -/

/-- The answer to a call that does not fail. -/
def performCloud (accounts : Table CloudAccount) (drawn : List UInt8) (time : Date) :
    (call : CloudCall) → Except JsError call.Reply × Table CloudAccount
  | .findForOrg orgId =>
      (.ok (accounts.find fun account => account.orgId == orgId), accounts)
  | .findOfProvider orgId provider =>
      (.ok (accounts.findOne fun account =>
        account.orgId == orgId && account.provider == provider), accounts)
  | .findOwn orgId id =>
      (.ok (accounts.findOne fun account => account.id == id && account.orgId == orgId),
        accounts)
  | .insert row =>
      match accounts.insert fun id => { row with id := id } with
      | some (account, after) => (.ok account, after)
      | none => (.error (.queryFailed "23505" "duplicate key value"), accounts)
  | .findRow id => (.ok (accounts.byId id), accounts)
  | .insertRow row =>
      match accounts.byId row.id, accounts.save row with
      | none, some after => (.ok (), after)
      | _, _ => (.error (.queryFailed "23505" "duplicate key value"), accounts)
  | .update id changes =>
      match accounts.byId id with
      -- An update of a row that is gone by now affects nothing.
      | none => (.ok (), accounts)
      | some row =>
          match accounts.save (changes.apply row) with
          | some after => (.ok (), after)
          | none => (.error (.queryFailed "23505" "duplicate key value"), accounts)
  | .remove account => (.ok (), accounts.removeRows fun row => row.id == account.id)
  | .randomBytes _ => (.ok drawn, accounts)
  | .now => (.ok time, accounts)

/-- Every call is answered by the table, or fails without effect. -/
def cloudAnswers {ι : Type} (_ : ι) : Semantics CloudCalls JsError (Table CloudAccount) :=
  fun (call : CloudCall) accounts reply after =>
    (∃ drawn time, (reply, after) = performCloud accounts drawn time call) ∨
      (∃ error, reply = .error error) ∧ after = accounts

/-! ### Requests -/

inductive CloudRequest where
  | findAll (orgId : Nat)
  | connect (orgId : Nat) (dto : ConnectCloudAccountDto)
  | disconnect (orgId id : Nat)

def CloudRequest.orgId : CloudRequest → Nat
  | .findAll orgId | .connect orgId _ | .disconnect orgId _ => orgId

def CloudRequest.program (platform : Platform) :
    CloudRequest → CloudJob (List CloudAccountResponseDto)
  | .findAll orgId => CloudAccountsService.findAllForOrg orgId
  | .connect orgId dto => do
      return [← CloudAccountsService.connect platform orgId dto]
  | .disconnect orgId id => do
      CloudAccountsService.disconnect orgId id
      return []

/-- The label and the key of the account are those of the request. -/
def ConnectedBy (platform : Platform) (request : CloudRequest) (account : CloudAccount) :
    Prop :=
  ∃ dto iv, request = .connect account.orgId dto ∧ account.provider = dto.provider ∧
    account.label = dto.label ∧ account.apiKeyEncrypted = platform.encrypt iv dto.apiKey

def LabelledBy (request : CloudRequest) (account : CloudAccount) : Prop :=
  ∃ dto, request = .connect account.orgId dto ∧ account.provider = dto.provider ∧
    account.label = dto.label

def KeyedBy (platform : Platform) (request : CloudRequest) (account : CloudAccount) : Prop :=
  ∃ dto iv, request = .connect account.orgId dto ∧ account.provider = dto.provider ∧
    account.apiKeyEncrypted = platform.encrypt iv dto.apiKey

/-- The label of the account is of one of the requests, and so is its key, perhaps of
another one. -/
structure Remade {ι : Type} (platform : Platform) (requests : ι → CloudRequest)
    (account : CloudAccount) : Prop where
  label : ∃ thread, LabelledBy (requests thread) account
  key : ∃ thread, KeyedBy platform (requests thread) account

/-- Where one request alone is for the account, its label and its key are of that one. -/
theorem Remade.connectedBy {ι : Type} {platform : Platform} {requests : ι → CloudRequest}
    {account : CloudAccount} (remade : Remade platform requests account)
    (alone : ∀ first second firstDto secondDto,
      requests first = .connect account.orgId firstDto →
      requests second = .connect account.orgId secondDto →
      firstDto.provider = account.provider → secondDto.provider = account.provider →
        first = second) :
    ∃ thread, ConnectedBy platform (requests thread) account := by
  obtain ⟨⟨labeller, dto, labels, ofProvider, label⟩, keyer, keyDto, iv, keys, keyProvider,
    key⟩ := remade
  obtain rfl := alone labeller keyer dto keyDto labels keys ofProvider.symm keyProvider.symm
  obtain ⟨-, rfl⟩ := CloudRequest.connect.inj (labels.symm.trans keys)
  exact ⟨labeller, dto, iv, labels, ofProvider, label, key⟩

/-- Only the owner and the label matter to whose label it is. -/
theorem LabelledBy.congr {request : CloudRequest} {account other : CloudAccount}
    (labelled : LabelledBy request account) (owner : other.owner = account.owner)
    (label : other.label = account.label) : LabelledBy request other := by
  obtain ⟨dto, rfl, sameProvider, sameLabel⟩ := labelled
  obtain ⟨org, provider⟩ := Prod.mk.inj owner
  exact ⟨dto, by rw [org], provider.trans sameProvider, label.trans sameLabel⟩

theorem KeyedBy.congr {platform : Platform} {request : CloudRequest}
    {account other : CloudAccount} (keyed : KeyedBy platform request account)
    (owner : other.owner = account.owner)
    (key : other.apiKeyEncrypted = account.apiKeyEncrypted) :
    KeyedBy platform request other := by
  obtain ⟨dto, iv, rfl, sameProvider, sameKey⟩ := keyed
  obtain ⟨org, provider⟩ := Prod.mk.inj owner
  exact ⟨dto, iv, by rw [org], provider.trans sameProvider, key.trans sameKey⟩

/-- An account as it was at first, or as requests have made it. -/
def Given {ι : Type} (platform : Platform) (requests : ι → CloudRequest)
    (start : Table CloudAccount) (account : CloudAccount) : Prop :=
  account ∈ start ∨ Remade platform requests account

theorem ConnectedBy.remade {ι : Type} {platform : Platform} {requests : ι → CloudRequest}
    {thread : ι} {account : CloudAccount}
    (made : ConnectedBy platform (requests thread) account) :
    Remade platform requests account := by
  obtain ⟨dto, iv, request, provider, label, key⟩ := made
  exact ⟨⟨thread, dto, request, provider, label⟩, thread, dto, iv, request, provider, key⟩

/-- The entries of a response: those marked as connected are of accounts of the
organization. -/
def Responds (given : CloudAccount → Prop) (request : CloudRequest)
    (entries : List CloudAccountResponseDto) : Prop :=
  (∀ orgId, request = .findAll orgId →
    entries.map CloudAccountResponseDto.provider = CloudProvider.values) ∧
  ∀ entry ∈ entries, entry.connected = true → ∃ account, given account ∧
    account.orgId = request.orgId ∧
    entry = toCloudAccountResponseDto account.provider (some account)

/-! ### What requests know -/

/-- Whose each primary key is, for good, and whose rows are no longer those of the
start. -/
structure AccountOwners where
  owners : Nat → Option (Nat × CloudProvider)
  rewritten : Nat → Prop

instance : Preorder AccountOwners where
  le known registry := Extends known.owners registry.owners ∧
    ∀ id, known.rewritten id → registry.rewritten id
  le_refl _ := ⟨.refl _, fun _ rewritten => rewritten⟩
  le_trans _ _ _ before after :=
    ⟨before.1.trans after.1, fun id rewritten => after.2 id (before.2 id rewritten)⟩

def AccountOwners.Knows (registry : AccountOwners) (account : CloudAccount) : Prop :=
  registry.owners account.id = some account.owner

/-- What is to be disconnected is under a key of the organization. -/
def AccountOwners.OwnsTarget (registry : AccountOwners) : CloudRequest → Prop
  | .disconnect orgId id => ∃ provider, registry.owners id = some (orgId, provider)
  | _ => True

/-- The row was there under its key, at the start or later. -/
def AccountOwners.Saw (registry : AccountOwners) (start : Table CloudAccount)
    (row : CloudAccount) : Prop :=
  registry.Knows row ∧ (row ∈ start ∨ registry.rewritten row.id)

/-- A request writes accounts of its own making, under keys of their owner. -/
def AccountOwners.Permits (platform : Platform) (start : Table CloudAccount)
    (request : CloudRequest) (known : AccountOwners) : CloudCall → Prop
  | .insert row => ConnectedBy platform request row
  | .insertRow row => known.Knows row ∧ ConnectedBy platform request row
  | .update id changes => ∃ row current, changes = row.changes current ∧ row.id = id ∧
      current.id = id ∧ known.Knows row ∧ known.Saw start current ∧
      ConnectedBy platform request row
  | .remove account => known.Knows account ∧ account.orgId = request.orgId
  | _ => True

def AccountOwners.Learns (given : CloudAccount → Prop) (start : Table CloudAccount)
    (registry : AccountOwners) : (call : CloudCall) → Except JsError call.Reply → Prop
  | .findForOrg orgId, reply => ∀ rows : List CloudAccount, reply = .ok rows →
      ∀ account ∈ rows, given account ∧ account.orgId = orgId
  | .findOfProvider orgId provider, reply => ∀ account, reply = .ok (some account) →
      registry.Knows account ∧ account.owner = (orgId, provider)
  | .findOwn orgId id, reply => ∀ account, reply = .ok (some account) →
      registry.Knows account ∧ account.orgId = orgId ∧ account.id = id
  | .findRow id, reply => ∀ account : CloudAccount, reply = .ok (some account) →
      account.id = id ∧ registry.Saw start account
  | .insert row, reply => ∀ account, reply = .ok account →
      ∃ id, account = { row with id := id }
  | _, _ => True

theorem AccountOwners.Saw.mono {known more : AccountOwners} {start : Table CloudAccount}
    {row : CloudAccount} (le : known ≤ more) (saw : known.Saw start row) :
    more.Saw start row :=
  ⟨le.1 _ _ saw.1, saw.2.imp_right (le.2 _)⟩

def accountKnowledge (platform : Platform) (given : CloudAccount → Prop)
    (start : Table CloudAccount) (request : CloudRequest) :
    Knowledge CloudCalls JsError AccountOwners where
  Permits known (call : CloudCall) := known.Permits platform start request call
  Learns registry (call : CloudCall) reply := registry.Learns given start call reply
  mono {known more op} le permits := by
    cases (op : CloudCall) with
    | insertRow row => exact ⟨le.1 _ _ permits.1, permits.2⟩
    | update id changes =>
        obtain ⟨row, current, changed, sameId, currentId, knows, saw, made⟩ := permits
        exact ⟨row, current, changed, sameId, currentId, le.1 _ _ knows, saw.mono le, made⟩
    | remove account => exact ⟨le.1 _ _ permits.1, permits.2⟩
    | insert row => exact permits
    | _ => trivial

section Requests

variable {platform : Platform} {given : CloudAccount → Prop} {start : Table CloudAccount}
  {known : AccountOwners}

/-- What is listed are accounts of the organization. -/
theorem findAllForOrg_tells (orgId : Nat) :
    Tells (accountKnowledge platform given start (.findAll orgId)) known
      (CloudAccountsService.findAllForOrg orgId)
      fun entries _ => Responds given (.findAll orgId) entries := by
  apply Tells.bind (Tells.ask trivial)
  intro connected learned _ found
  apply Tells.pure
  intro aware _
  constructor
  · rintro _ _
    rfl
  · intro entry member isConnected
    obtain ⟨provider, -, rfl⟩ := List.mem_map.mp member
    cases last : connected.reverse.find? fun account => account.provider == provider with
    | none =>
        rw [last] at isConnected
        cases isConnected
    | some account =>
        have ofProvider : account.provider = provider := by simpa using List.find?_some last
        have inRows := List.mem_reverse.mp (List.mem_of_find?_eq_some last)
        obtain ⟨isGiven, sameOrg⟩ := found connected rfl account inRows
        subst ofProvider
        exact ⟨account, isGiven, sameOrg, rfl⟩

/-- An entity under a key of its owner is saved as it is. -/
theorem saveAccount_tells {request : CloudRequest} {row : CloudAccount}
    (knows : known.Knows row) (made : ConnectedBy platform request row) :
    Tells (accountKnowledge platform given start request) known
      (CloudAccountsService.saveAccount row) fun account _ => account = row := by
  apply Tells.bind (Tells.ask trivial)
  intro found learned grows told
  cases found with
  | none =>
      have permitted : learned.Permits platform start request (.insertRow row) :=
        ⟨grows.1 _ _ knows, made⟩
      apply Tells.bind (Tells.ask permitted)
      exact fun _ _ _ _ => Tells.pure fun _ _ => rfl
  | some current =>
      obtain ⟨sameId, saw⟩ := told current rfl
      have permitted : learned.Permits platform start request
          (.update row.id (row.changes current)) :=
        ⟨row, current, rfl, rfl, sameId, grows.1 _ _ knows, saw, made⟩
      change Tells _ _ (ite _ _ _) _
      split
      · exact Tells.pure fun _ _ => rfl
      · apply Tells.bind (Tells.ask permitted)
        exact fun _ _ _ _ => Tells.pure fun _ _ => rfl

/-- A connection hands out the account that it has stored. -/
theorem connect_tells (orgId : Nat) (dto : ConnectCloudAccountDto)
    (gives : ∀ account, ConnectedBy platform (.connect orgId dto) account → given account) :
    Tells (accountKnowledge platform given start (.connect orgId dto)) known
      (CloudAccountsService.connect platform orgId dto)
      fun entry _ => Responds given (.connect orgId dto) [entry] := by
  apply Tells.bind (Tells.ask trivial)
  intro existing learned _ found
  apply Tells.bind (Tells.ask trivial)
  intro iv drawn afterDraw _
  apply Tells.bind (Tells.ask trivial)
  intro connectedAt timed afterTime _
  -- the row is of this request, whether the account is old or new
  have made : ConnectedBy platform (.connect orgId dto)
      (CloudAccountsService.connectedRow platform orgId dto existing iv connectedAt) := by
    cases existing with
    | none => exact ⟨dto, iv, rfl, rfl, rfl, rfl⟩
    | some account =>
        obtain ⟨sameOrg, sameProvider⟩ := Prod.mk.inj (found account rfl).2
        exact ⟨dto, iv, congrArg (CloudRequest.connect · dto) sameOrg.symm, sameProvider, rfl,
          rfl⟩
  have responds : ∀ account : CloudAccount, account.owner = (orgId, dto.provider) →
      given account → Responds given (.connect orgId dto)
        [toCloudAccountResponseDto dto.provider (some account)] := by
    intro account owned isGiven
    obtain ⟨sameOrg, sameProvider⟩ := Prod.mk.inj owned
    constructor
    · intro _ absurd
      cases absurd
    · intro entry member _
      cases List.mem_singleton.mp member
      rw [← sameProvider]
      exact ⟨account, isGiven, sameOrg, rfl⟩
  cases existing with
  | none =>
      apply Tells.bind (Tells.ask made)
      intro account inserted _ told
      obtain ⟨id, rfl⟩ := told account rfl
      exact Tells.pure fun _ _ => responds _ rfl (gives _ made)
  | some existing =>
      obtain ⟨knows, owned⟩ := found existing rfl
      have knowsRow : timed.Knows (CloudAccountsService.connectedRow platform orgId dto
          (some existing) iv connectedAt) := afterTime.1 _ _ (afterDraw.1 _ _ knows)
      apply Tells.bind (saveAccount_tells knowsRow made)
      rintro account saved _ rfl
      exact Tells.pure fun _ _ => responds _ owned (gives _ made)

/-- A disconnection ends on an account of its own organization, or fails. -/
theorem disconnect_tells (orgId id : Nat) :
    Tells (accountKnowledge platform given start (.disconnect orgId id)) known
      (CloudAccountsService.disconnect orgId id)
      fun _ aware => aware.OwnsTarget (.disconnect orgId id) := by
  apply Tells.bind (Tells.ask trivial)
  intro found learned _ told
  cases found with
  | none => exact Tells.throw _
  | some account =>
      obtain ⟨knows, rfl, rfl⟩ := told account rfl
      have permitted : learned.Permits platform start (.disconnect account.orgId account.id)
          (.remove account) := ⟨knows, rfl⟩
      apply (Tells.ask permitted).mono
      intro removed aware grows _
      exact ⟨account.provider, grows.1 _ _ knows⟩

/-- Whatever the request, its response is as it may be. -/
theorem CloudRequest.tells (request : CloudRequest)
    (gives : ∀ account, ConnectedBy platform request account → given account) :
    Tells (accountKnowledge platform given start request) known (request.program platform)
      fun entries aware => Responds given request entries ∧ aware.OwnsTarget request := by
  cases request with
  | findAll orgId =>
      apply (findAllForOrg_tells orgId).mono
      intro entries aware _ responds
      exact ⟨responds, trivial⟩
  | connect orgId dto =>
      apply Tells.bind (connect_tells orgId dto gives)
      intro entry learned _ responds
      exact Tells.pure fun _ _ => ⟨responds, trivial⟩
  | disconnect orgId id =>
      apply Tells.bind (disconnect_tells orgId id)
      rintro done learned _ ⟨provider, owned⟩
      have responds : Responds given (.disconnect orgId id) [] := by
        constructor
        · intro _ absurd
          cases absurd
        · intro entry absurd
          cases absurd
      apply Tells.pure
      intro aware more
      exact ⟨responds, provider, more.1 _ _ owned⟩

end Requests

/-! ### What stays true of the table -/

section Table

variable {ι : Type} {platform : Platform} {requests : ι → CloudRequest}
  {start before after : Table CloudAccount} {registry : AccountOwners}

/-- Each primary key has the owner that it was given out to, a row is that of the start
or has been made by requests, and the accounts of an organization without a request are
those that it had at first. -/
structure AccountsHeld (platform : Platform) (requests : ι → CloudRequest)
    (start table : Table CloudAccount) (registry : AccountOwners) : Prop where
  owned : Library.Records CloudAccount.owner table registry.owners
  intact : ∀ account ∈ table, ¬ registry.rewritten account.id → account ∈ start
  remade : ∀ account ∈ table, registry.rewritten account.id →
    Remade platform requests account
  foreign : ∀ orgId, (∀ thread, (requests thread).orgId ≠ orgId) →
    ∀ account : CloudAccount, account.orgId = orgId → (account ∈ table ↔ account ∈ start)

theorem accountsHeld_start (platform : Platform) (requests : ι → CloudRequest)
    (start : Table CloudAccount) : AccountsHeld platform requests start start
      ⟨fun id => (start.byId id).map CloudAccount.owner, fun _ => False⟩ where
  owned := .ofTable _ _
  intact _ member _ := member
  remade _ _ rewritten := rewritten.elim
  foreign _ _ _ _ := Iff.rfl

theorem ConnectedBy.orgId {request : CloudRequest} {account : CloudAccount}
    (made : ConnectedBy platform request account) : request.orgId = account.orgId := by
  obtain ⟨dto, iv, rfl, -⟩ := made
  rfl

namespace AccountsHeld

variable (held : AccountsHeld platform requests start before registry) {thread : ι}
  {row : CloudAccount}

include held

theorem given {account : CloudAccount} (member : account ∈ before) :
    Given platform requests start account := by
  by_cases rewritten : registry.rewritten account.id
  · exact .inr (held.remade account member rewritten)
  · exact .inl (held.intact account member rewritten)

/-- An account that is found is under a key of its owner. -/
theorem found {condition : CloudAccount → Bool} (isFound : before.findOne condition = some row) :
    registry.Knows row ∧ condition row = true := by
  obtain ⟨present, matched⟩ := Table.findOne_mem isFound
  exact ⟨held.owned.present row present, matched⟩

theorem saw (member : row ∈ before) : registry.Saw start row := by
  refine ⟨held.owned.present row member, ?_⟩
  by_cases rewritten : registry.rewritten row.id
  · exact .inr rewritten
  · exact .inl (held.intact row member rewritten)

/-- A new account gets a key that nobody has had. -/
theorem insert {account : CloudAccount}
    (made : ConnectedBy platform (requests thread) row)
    (inserted : before.insert (fun id => { row with id := id }) = some (account, after)) :
    ∃ more, registry ≤ more ∧ AccountsHeld platform requests start after more ∧
      ∃ id, account = { row with id := id } := by
  have isRow : account = { row with id := before.nextId } :=
    (Table.insert_eq_some.mp inserted).1
  have fresh : ∀ other ∈ before, other.id ≠ account.id := by
    intro other old
    rw [isRow]
    exact Nat.ne_of_lt (before.below other old)
  refine ⟨⟨Function.update registry.owners account.id (some account.owner),
    fun id => registry.rewritten id ∨ id = account.id⟩, ⟨?_, fun _ => .inl⟩, ?_, _, isRow⟩
  · exact extends_update (held.owned.insert_fresh rfl inserted) _
  constructor
  · exact held.owned.insert rfl inserted
  · intro other member untouched
    rcases (Table.mem_insert rfl inserted).mp member with rfl | old
    · exact absurd (.inr rfl) untouched
    · exact held.intact other old fun rewritten => untouched (.inl rewritten)
  · intro other member rewritten
    rcases (Table.mem_insert rfl inserted).mp member with rfl | old
    · rw [isRow]
      exact ⟨made.remade.label, made.remade.key⟩
    · exact held.remade other old (rewritten.resolve_right (fresh other old))
  · intro orgId apart other ofOrg
    rw [← held.foreign orgId apart other ofOrg, Table.mem_insert rfl inserted]
    have differs : other ≠ account := by
      rintro rfl
      apply apart thread
      rw [made.orgId, ← ofOrg, isRow]
    exact or_iff_right differs

/-- A row made by requests is written under a key of its owner. -/
theorem write (knows : registry.Knows row) (own : (requests thread).orgId = row.orgId)
    (remade : Remade platform requests row) (saved : before.save row = some after) :
    ∃ more, registry ≤ more ∧ AccountsHeld platform requests start after more := by
  refine ⟨⟨registry.owners, fun id => registry.rewritten id ∨ id = row.id⟩,
    ⟨.refl _, fun _ => .inl⟩, ?_⟩
  constructor
  · exact held.owned.save knows saved
  · intro other member untouched
    rcases (Table.mem_save saved).mp member with rfl | ⟨old, -⟩
    · exact absurd (.inr rfl) untouched
    · exact held.intact other old fun rewritten => untouched (.inl rewritten)
  · intro other member rewritten
    rcases (Table.mem_save saved).mp member with rfl | ⟨old, differs⟩
    · exact remade
    · exact held.remade other old (rewritten.resolve_right differs)
  · intro orgId apart other ofOrg
    rw [← held.foreign orgId apart other ofOrg, Table.mem_save saved]
    have otherOrg : row.orgId ≠ other.orgId := by
      rw [ofOrg, ← own]
      exact apart thread
    constructor
    · rintro (rfl | ⟨old, -⟩)
      · exact (otherOrg rfl).elim
      · exact old
    · intro old
      refine .inr ⟨old, ?_⟩
      -- the key of the row is not that of another organization's
      intro sameId
      have ofOther := held.owned.present other old
      rw [sameId] at ofOther
      have sameOwner := Option.some.inj (knows.symm.trans ofOther)
      exact otherOrg (congrArg Prod.fst sameOwner)

/-- The columns in which a request's account differed from the row are written to what the
row is by now. -/
theorem update {account current : CloudAccount} (present : row ∈ before)
    (sameId : account.id = row.id) (currentId : current.id = row.id)
    (knows : registry.Knows account) (saw : registry.Saw start current)
    (made : ConnectedBy platform (requests thread) account)
    (saved : before.save ((account.changes current).apply row) = some after) :
    ∃ more, registry ≤ more ∧ AccountsHeld platform requests start after more := by
  have ownerCurrent : account.owner = current.owner := by
    have ofCurrent : registry.owners current.id = some current.owner := saw.1
    rw [currentId, ← sameId] at ofCurrent
    exact Option.some.inj (knows.symm.trans ofCurrent)
  have ownerRow : account.owner = row.owner := by
    have ofRow : registry.owners row.id = some row.owner := held.owned.present row present
    rw [← sameId] at ofRow
    exact Option.some.inj (knows.symm.trans ofRow)
  have ownerAfter := owner_apply_changes ownerCurrent row
  have remade : Remade platform requests ((account.changes current).apply row) := by
    by_cases rewritten : registry.rewritten row.id
    · have ofRow := held.remade row present rewritten
      have ofAccount : Remade platform requests account := made.remade
      have sameOwner := ownerAfter.trans ownerRow.symm
      constructor
      · rcases getD_differing account.label current.label row.label with
          written | ⟨-, kept⟩
        · exact ofAccount.label.imp fun _ labelled => labelled.congr sameOwner written
        · exact ofRow.label.imp fun _ labelled => labelled.congr ownerAfter kept
      · rcases getD_differing account.apiKeyEncrypted current.apiKeyEncrypted
          row.apiKeyEncrypted with written | ⟨-, kept⟩
        · exact ofAccount.key.imp fun _ keyed => keyed.congr sameOwner written
        · exact ofRow.key.imp fun _ keyed => keyed.congr ownerAfter kept
    · -- Nobody has written the row, so it still is what the request has compared with.
      have currentStart : current ∈ start :=
        saw.2.resolve_right fun seen => rewritten (currentId ▸ seen)
      obtain rfl : current = row :=
        Table.eq_of_id currentStart (held.intact row present rewritten) currentId
      rw [apply_changes sameId]
      exact made.remade
  refine held.write ?_ (?_ : (requests thread).orgId = _) remade saved
  · change registry.owners row.id = some _
    rw [ownerAfter]
    exact held.owned.present row present
  · rw [made.orgId]
    exact (congrArg Prod.fst (ownerAfter.trans ownerRow.symm)).symm

theorem remove (knows : registry.Knows row) (own : row.orgId = (requests thread).orgId) :
    AccountsHeld platform requests start
      (before.removeRows fun other => other.id == row.id) registry := by
  constructor
  · exact held.owned.removeRows _
  · intro other member
    exact held.intact other (Table.mem_removeRows.mp member).1
  · intro other member
    exact held.remade other (Table.mem_removeRows.mp member).1
  · intro orgId apart other ofOrg
    rw [← held.foreign orgId apart other ofOrg, Table.mem_removeRows]
    apply and_iff_left_of_imp
    intro old
    rw [beq_eq_false_iff_ne]
    intro sameId
    have ofOther := held.owned.present other old
    change registry.owners other.id = _ at ofOther
    rw [sameId] at ofOther
    have sameOwner := Option.some.inj (knows.symm.trans ofOther)
    apply apart thread
    rw [← own, ← ofOrg]
    exact congrArg Prod.fst sameOwner

end AccountsHeld

theorem AccountOwners.learns_error (given : CloudAccount → Prop)
    (start : Table CloudAccount) (registry : AccountOwners) (call : CloudCall)
    (error : JsError) : registry.Learns given start call (.error error) := by
  cases call <;> first | trivial | exact nofun

/-- The calls of the requests, in any order, tell the truth about the accounts. -/
theorem accountsHeld_truthful (platform : Platform) (requests : ι → CloudRequest)
    (start : Table CloudAccount) :
    Truthful (fun thread => accountKnowledge platform (Given platform requests start) start
      (requests thread)) cloudAnswers (AccountsHeld platform requests start) := by
  rintro thread (call : CloudCall) before reply after registry held permits
    (⟨drawn, time, answered⟩ | ⟨⟨error, rfl⟩, rfl⟩)
  · cases call with
    | findForOrg orgId =>
        obtain ⟨rfl, rfl⟩ := Prod.mk.inj answered
        refine ⟨registry, le_refl registry, held, ?_⟩
        rintro _ ⟨⟩ account member
        obtain ⟨present, ofOrg⟩ := Table.mem_find.mp member
        exact ⟨held.given present, by simpa using ofOrg⟩
    | findOfProvider orgId provider =>
        obtain ⟨rfl, rfl⟩ := Prod.mk.inj answered
        refine ⟨registry, le_refl registry, held, ?_⟩
        intro account isFound
        obtain ⟨knows, matched⟩ := held.found (Except.ok.inj isFound)
        have same : account.orgId = orgId ∧ account.provider = provider := by
          simpa using matched
        exact ⟨knows, Prod.ext same.1 same.2⟩
    | findOwn orgId id =>
        obtain ⟨rfl, rfl⟩ := Prod.mk.inj answered
        refine ⟨registry, le_refl registry, held, ?_⟩
        intro account isFound
        obtain ⟨knows, matched⟩ := held.found (Except.ok.inj isFound)
        have same : account.id = id ∧ account.orgId = orgId := by
          simpa using matched
        exact ⟨knows, same.2, same.1⟩
    | insert row =>
        cases inserted : before.insert fun id => { row with id := id } with
        | none =>
            simp only [performCloud, inserted] at answered
            obtain ⟨rfl, rfl⟩ := Prod.mk.inj answered
            exact ⟨registry, le_refl registry, held,
              AccountOwners.learns_error (Given platform requests start) start registry
                (.insert row) _⟩
        | some written =>
            obtain ⟨account, accounts⟩ := written
            simp only [performCloud, inserted] at answered
            obtain ⟨rfl, rfl⟩ := Prod.mk.inj answered
            obtain ⟨more, grows, heldAfter, isRow⟩ := held.insert permits inserted
            refine ⟨more, grows, heldAfter, ?_⟩
            rintro _ ⟨⟩
            exact isRow
    | findRow id =>
        obtain ⟨rfl, rfl⟩ := Prod.mk.inj answered
        refine ⟨registry, le_refl registry, held, ?_⟩
        intro account isFound
        obtain ⟨present, sameId⟩ := Table.byId_eq_some.mp (Except.ok.inj isFound)
        exact ⟨sameId, held.saw present⟩
    | insertRow row =>
        simp only [performCloud] at answered
        split at answered
        · next saved =>
          obtain ⟨rfl, rfl⟩ := Prod.mk.inj answered
          obtain ⟨more, grows, heldAfter⟩ :=
            held.write permits.1 permits.2.orgId permits.2.remade saved
          exact ⟨more, grows, heldAfter, trivial⟩
        · obtain ⟨rfl, rfl⟩ := Prod.mk.inj answered
          exact ⟨registry, le_refl registry, held, trivial⟩
    | update id changes =>
        obtain ⟨account, current, rfl, sameId, currentId, knows, saw, made⟩ := permits
        simp only [performCloud] at answered
        split at answered
        · obtain ⟨rfl, rfl⟩ := Prod.mk.inj answered
          exact ⟨registry, le_refl registry, held, trivial⟩
        · next row isRow =>
          obtain ⟨present, rowId⟩ := Table.byId_eq_some.mp isRow
          split at answered
          · next accounts saved =>
            obtain ⟨rfl, rfl⟩ := Prod.mk.inj answered
            obtain ⟨more, grows, heldAfter⟩ := held.update present
              (sameId.trans rowId.symm) (currentId.trans rowId.symm) knows saw made saved
            exact ⟨more, grows, heldAfter, trivial⟩
          · obtain ⟨rfl, rfl⟩ := Prod.mk.inj answered
            exact ⟨registry, le_refl registry, held, trivial⟩
    | remove account =>
        obtain ⟨rfl, rfl⟩ := Prod.mk.inj answered
        exact ⟨registry, le_refl registry, held.remove permits.1 permits.2, trivial⟩
    | randomBytes count =>
        obtain ⟨rfl, rfl⟩ := Prod.mk.inj answered
        exact ⟨registry, le_refl registry, held, trivial⟩
    | now =>
        obtain ⟨rfl, rfl⟩ := Prod.mk.inj answered
        exact ⟨registry, le_refl registry, held, trivial⟩
  · exact ⟨registry, le_refl registry, held, AccountOwners.learns_error _ _ _ call error⟩

end Table

/-! ### Any interleaving -/

/-- What is so of the accounts, and of the responses that have been given. -/
structure AccountsKept {ι : Type} (platform : Platform) (requests : ι → CloudRequest)
    (start : Table CloudAccount)
    (pool : Pool CloudCalls JsError ι (List CloudAccountResponseDto) (Table CloudAccount)) :
    Prop where
  single : ∀ first ∈ pool.store, ∀ second ∈ pool.store, first.owner = second.owner →
    first = second
  given : ∀ account ∈ pool.store, Given platform requests start account
  /-- With one request for it alone, both label and key are of that request. -/
  whole : ∀ account ∈ pool.store, account ∉ start →
    (∀ first second firstDto secondDto,
      requests first = .connect account.orgId firstDto →
      requests second = .connect account.orgId secondDto →
      firstDto.provider = account.provider → secondDto.provider = account.provider →
        first = second) →
    ∃ thread, ConnectedBy platform (requests thread) account
  foreign : ∀ orgId, (∀ thread, (requests thread).orgId ≠ orgId) →
    ∀ account : CloudAccount, account.orgId = orgId →
      (account ∈ pool.store ↔ account ∈ start)
  responses : ∀ thread entries, pool.Ended thread (.ok entries) →
    Responds (Given platform requests start) (requests thread) entries
  /-- Whatever is disconnected was not another organization's at first. -/
  disconnected : ∀ thread orgId id, requests thread = .disconnect orgId id →
    ∀ entries, pool.Ended thread (.ok entries) →
      ∀ account ∈ start, account.id = id → account.orgId = orgId

/-- The pool in which all requests are about to begin. -/
def cloudPool {ι : Type} (platform : Platform) (requests : ι → CloudRequest)
    (start : Table CloudAccount) :
    Pool CloudCalls JsError ι (List CloudAccountResponseDto) (Table CloudAccount) where
  threads thread := (requests thread).program platform
  store := start

/-- However requests of any organizations interleave, and whatever of them fails: an
organization has one account with a provider, whose label is of one of its own requests and
whose key is of one, and no request sees, writes or removes another organization's. -/
theorem accounts_kept {ι : Type} [DecidableEq ι] (platform : Platform)
    (requests : ι → CloudRequest) (start : Table CloudAccount)
    {pool : Pool CloudCalls JsError ι (List CloudAccountResponseDto) (Table CloudAccount)}
    (reaches : Pool.Reaches cloudAnswers (cloudPool platform requests start) pool) :
    AccountsKept platform requests start pool := by
  have truthful := accountsHeld_truthful platform requests start
  have holds := accountsHeld_start platform requests start
  have tells : ∀ thread, Tells (accountKnowledge platform (Given platform requests start)
      start (requests thread))
      ⟨fun id => (start.byId id).map CloudAccount.owner, fun _ => False⟩
      ((requests thread).program platform) fun entries aware =>
        Responds (Given platform requests start) (requests thread) entries ∧
          aware.OwnsTarget (requests thread) := by
    intro thread
    apply CloudRequest.tells
    intro account made
    exact .inr made.remade
  obtain ⟨registry, -, held⟩ := truthful.reaches tells holds reaches
  constructor
  · intro first firstMember second secondMember same
    exact Table.eq_of_index firstMember secondMember (congrArg some same) rfl
  · exact fun account member => held.given member
  · intro account member rewritten alone
    exact ((held.given member).resolve_left rewritten).connectedBy alone
  · exact held.foreign
  · intro thread entries ended
    obtain ⟨aware, -, responds, -⟩ := truthful.returned tells holds reaches ended
    exact responds
  · intro thread orgId id isDisconnect entries ended account member sameId
    obtain ⟨aware, grown, -, owns⟩ := truthful.returned tells holds reaches ended
    rw [isDisconnect] at owns
    obtain ⟨provider, owned⟩ := owns
    have ofAccount := grown.1 id account.owner (by
      rw [← sameId]
      exact holds.owned.present account member)
    have sameOwner := Option.some.inj (ofAccount.symm.trans owned)
    exact congrArg Prod.fst sameOwner

/-! ### Two organizations -/

def acmeAccount : CloudAccount :=
  { id := 1
    orgId := 7
    provider := .aws
    label := "Production"
    apiKeyEncrypted := "token"
    connectedAt := 0 }

/-- One organization connects an account, then connects it anew twice at a time, once
under the old label, and asks for the removal of the other organization's. -/
def cloudRequests : Nat → CloudRequest
  | 0 => .connect 6 { provider := .aws, label := "Staging", apiKey := "secret" }
  | 1 => .connect 6 { provider := .aws, label := "Live", apiKey := "other" }
  | 2 => .connect 6 { provider := .aws, label := "Staging", apiKey := "rotated" }
  | _ => .disconnect 6 1

def answeringTable : Machine CloudCalls JsError (Table CloudAccount) :=
  fun (call : CloudCall) accounts => performCloud accounts (List.replicate 12 0) 100 call

def connectedPool :
    Pool CloudCalls JsError Nat (List CloudAccountResponseDto) (Table CloudAccount) :=
  (cloudPool .transparent cloudRequests (Table.single acmeAccount)).completed 0 answeringTable

/-- The last request has compared its account with the row before the other one changes
it. -/
def reconnectedPool :
    Pool CloudCalls JsError Nat (List CloudAccountResponseDto) (Table CloudAccount) :=
  ((connectedPool.advanced answeringTable 2 4).completed 1 answeringTable).completed 2
    answeringTable

def refusedPool :
    Pool CloudCalls JsError Nat (List CloudAccountResponseDto) (Table CloudAccount) :=
  reconnectedPool.completed 3 answeringTable

/-- The new account is there, with the label of one request and the key of another, and the
other organization's still is. -/
theorem accounts_kept_refused :
    refusedPool.store.rows.map (fun account =>
        (account.owner, account.label, account.apiKeyEncrypted)) =
      [((7, .aws), "Production", "token"), ((6, .aws), "Live", "rotated")] ∧
      AccountsKept .transparent cloudRequests (Table.single acmeAccount) refusedPool := by
  have answers : ∀ thread : Nat, ∀ call accounts, cloudAnswers thread call accounts
      (answeringTable call accounts).1 (answeringTable call accounts).2 :=
    fun _ _ _ => .inl ⟨_, _, rfl⟩
  have connected : Pool.Reaches cloudAnswers
      (cloudPool .transparent cloudRequests (Table.single acmeAccount)) connectedPool :=
    Pool.Reaches.run .refl 0 answeringTable (answers 0)
  have compared := connected.advanced 2 answeringTable (answers 2) 4
  have relabelled := compared.run 1 answeringTable (answers 1)
  have rotated : Pool.Reaches cloudAnswers
      (cloudPool .transparent cloudRequests (Table.single acmeAccount)) reconnectedPool :=
    relabelled.run 2 answeringTable (answers 2)
  have refused : Pool.Reaches cloudAnswers
      (cloudPool .transparent cloudRequests (Table.single acmeAccount)) refusedPool :=
    rotated.run 3 answeringTable (answers 3)
  exact ⟨by decide +kernel,
    accounts_kept .transparent cloudRequests (Table.single acmeAccount) refused⟩

end ServersManager
