/-
Module: ServersManager.Registration
Purpose: AuthService.register, and any number of registrations at once: when each of
  them leaves an organization with its user, or nothing.
Trusted boundary: human-reviewed call signature of the account tables
Main exports:
  register, accountAnswers, AllOrNothing, registrations_allOrNothing
-/
import ServersManager.Js
import ServersManager.Library.Ledger
import ServersManager.Library.Pool
import ServersManager.Library.Table

namespace ServersManager

open Library

/-! ### Users and organizations -/

inductive UserRole where
  | admin
deriving Repr, Inhabited, DecidableEq

structure User where
  id : Nat
  orgId : Nat
  email : String
  passwordHash : String
  role : UserRole
deriving Repr, Inhabited, DecidableEq

structure Organization where
  id : Nat
  name : String
deriving Repr, Inhabited, DecidableEq

instance : Keyed User String where
  id := User.id
  index user := some user.email

instance : Keyed Organization Empty where
  id := Organization.id
  index _ := none

structure Accounts where
  users : Table User
  organizations : Table Organization
deriving Inhabited

/-- The calls of a registration: the two repositories, and `bcrypt.hash`. -/
inductive AccountCall where
  | findUser (email : String)
  | saveUser (user : User)
  | saveOrganization (organization : Organization)
  | hash (password : String) (rounds : Nat)

def AccountCall.Reply : AccountCall → Type
  | .findUser _ => Option User
  | .saveUser _ => User
  | .saveOrganization _ => Organization
  | .hash _ _ => String

abbrev AccountCalls : Signature := ⟨AccountCall, AccountCall.Reply⟩

abbrev AccountJob := Program AccountCalls JsError

def account (call : AccountCall) : AccountJob call.Reply :=
  Program.perform (S := AccountCalls) call

/-! ### The services -/

def findByEmail (email : String) : AccountJob (Option User) :=
  account (.findUser email)

def bcryptSaltRounds : Nat := 12

structure CreateUserInput where
  orgId : Nat
  email : String
  passwordHash : String
  role : Option UserRole

/-- `repository.create`: the row as it is before its key has been generated. -/
def newUser (input : CreateUserInput) : User :=
  { id := 0
    orgId := input.orgId
    email := input.email
    passwordHash := input.passwordHash
    role := input.role.getD .admin }

/-- `UsersService.create`. -/
def createUser (input : CreateUserInput) : AccountJob User :=
  account (.saveUser (newUser input))

/-- `OrganizationsService.create`. -/
def createOrganization (name : String) : AccountJob Organization :=
  account (.saveOrganization { id := 0, name := name })

def register (email password organizationName : String) : AccountJob User := do
  if (← findByEmail email).isSome then
    throw (.conflict "A user with this email already exists")
  let organization ← createOrganization organizationName
  let passwordHash ← account (.hash password bcryptSaltRounds)
  createUser
    { orgId := organization.id
      email := email
      passwordHash := passwordHash
      role := none }

/-! ### What the tables answer -/

/-- The answer to a call that does not fail, `salted` being what `bcrypt.hash` would
return. -/
def Accounts.perform (accounts : Accounts) (salted : String) :
    (call : AccountCall) → Except JsError call.Reply × Accounts
  | .findUser email =>
      (.ok (accounts.users.findOne fun user => user.email == email), accounts)
  | .saveUser user =>
      match accounts.users.insert fun id => { user with id := id } with
      | some (row, users) => (.ok row, { accounts with users := users })
      | none =>
          (.error (.queryFailed "23505"
            "duplicate key value violates unique constraint \"UQ_users_email\""), accounts)
  | .saveOrganization organization =>
      match accounts.organizations.insert fun id => { organization with id := id } with
      | some (row, organizations) =>
          (.ok row, { accounts with organizations := organizations })
      | none => (.error (.queryFailed "23505" "duplicate key value"), accounts)
  | .hash _ _ => (.ok salted, accounts)

/-- Every call is answered by the tables, or, where it may, fails without effect. -/
def accountAnswers (mayFail : AccountCall → Prop) :
    Semantics AccountCalls JsError Accounts :=
  fun (call : AccountCall) accounts reply after =>
    (∃ salted, (reply, after) = accounts.perform salted call) ∨
      mayFail call ∧ (∃ error, reply = .error error) ∧ after = accounts

/-- The calls to a repository. -/
def AccountCall.OfRepository : AccountCall → Prop
  | .hash _ _ => False
  | _ => True

/-- The calls that a registration makes to a repository before it inserts its user. -/
def AccountCall.BeforeUser : AccountCall → Prop
  | .findUser _ | .saveOrganization _ => True
  | _ => False

/-- A user that is inserted has an email of its own. -/
def EmailFree : AccountCall → Accounts → Prop
  | .saveUser user, accounts => ∀ other ∈ accounts.users, other.email ≠ user.email
  | _, _ => True

/-! ### Registrations at once -/

structure RegisterInput where
  email : String
  password : String
  organizationName : String
deriving Inhabited

def RegisterInput.job (input : RegisterInput) : AccountJob User :=
  register input.email input.password input.organizationName

section Pools

variable {ι : Type} [DecidableEq ι]

def registrationPool (inputs : ι → RegisterInput) (accounts : Accounts) :
    Pool AccountCalls JsError ι User Accounts where
  threads thread := (inputs thread).job
  store := accounts

omit [DecidableEq ι] in
/-- No call is in flight: every registration has ended or not begun. -/
def Idle (inputs : ι → RegisterInput)
    (pool : Pool AccountCalls JsError ι User Accounts) : Prop :=
  ∀ thread, pool.threads thread = (inputs thread).job ∨ ∃ outcome, pool.Ended thread outcome

omit [DecidableEq ι] in
/-- The user that a registration has returned. -/
def returned (pool : Pool AccountCalls JsError ι User Accounts) (thread : ι) : Option User :=
  match pool.threads thread with
  | .pure user => some user
  | _ => none

/-- What has been added to the tables are the users that registrations have returned,
and one organization for each of them. -/
structure AllOrNothing (start : Accounts)
    (pool : Pool AccountCalls JsError ι User Accounts) : Prop where
  emails : ∀ user ∈ pool.store.users, ∀ other ∈ pool.store.users,
    user.email = other.email → user = other
  added : ∃ (users : List (ι × User)) (organizations : List Organization),
    Ledger (returned pool) users ∧
      pool.store.users.rows = start.users.rows ++ users.map Prod.snd ∧
      pool.store.organizations.rows = start.organizations.rows ++ organizations ∧
      (organizations.map Organization.id).Perm (users.map fun entry => entry.2.orgId)

/-! ### The protocol of a registration -/

/-- How far a registration has come. -/
inductive Registering where
  | checking
  | created (orgId : Nat)
  | stored (user : User)

/-- The organization that a registration has created. -/
def Registering.organization : Registering → Option Nat
  | .checking => none
  | .created orgId => some orgId
  | .stored user => some user.orgId

/-- The user that a registration has inserted. -/
def Registering.user : Registering → Option User
  | .stored user => some user
  | _ => none

def registrationAllows : Registering → AccountCall → Prop
  | .checking, .findUser _ | .checking, .saveOrganization _ => True
  | .created _, .hash _ _ => True
  | .created orgId, .saveUser user => user.orgId = orgId
  | _, _ => False

def registrationMoves : Registering → (call : AccountCall) → Except JsError call.Reply →
    Registering → Prop
  | .checking, .saveOrganization _, .ok organization, after =>
      after = .created organization.id
  | .created _, .saveUser _, .ok user, after => after = .stored user
  | .created _, .saveUser _, .error _, _ => False
  | .created _, .hash _ _, .error _, _ => False
  | before, _, _, after => after = before

def registrationProtocol : Protocol AccountCalls JsError Registering where
  Allows := registrationAllows
  Moves := registrationMoves

/-- A registration that has ended has inserted the user it returns, or created nothing. -/
def registrationEnds (outcome : Except JsError User) (after : Registering) : Prop :=
  match outcome with
  | .ok user => after = .stored user
  | .error _ => after = .checking

theorem register_follows (input : RegisterInput) :
    input.job.Follows registrationProtocol registrationEnds .checking := by
  simp only [RegisterInput.job, register, Program.bind_eq, findByEmail, createOrganization,
    createUser]
  refine (Program.follows_perform_bind _).mpr ⟨trivial, ?_, ?_⟩
  · rintro found after rfl
    split
    · exact rfl
    refine (Program.follows_perform_bind _).mpr ⟨trivial, ?_, ?_⟩
    · rintro organization after rfl
      refine (Program.follows_perform_bind _).mpr ⟨trivial, ?_, ?_⟩
      · rintro passwordHash after rfl
        refine (Program.follows_perform _ _ _ _).mpr ⟨rfl, ?_⟩
        intro reply after moves
        cases reply with
        | ok user => exact moves
        | error error => exact moves.elim
      · rintro error after ⟨⟩
    · rintro error after rfl
      exact rfl
  · rintro error after rfl
    exact rfl

/-! ### All registrations -/

/-- The rows that the registrations have added, and whose they are. -/
def RegistrationInvariant (start : Accounts) (ghosts : ι → Registering)
    (accounts : Accounts) : Prop :=
  ∃ (created : List (ι × Nat)) (users : List (ι × User))
    (organizations : List Organization),
    Ledger (fun thread => (ghosts thread).organization) created ∧
      Ledger (fun thread => (ghosts thread).user) users ∧
      accounts.users.rows = start.users.rows ++ users.map Prod.snd ∧
      accounts.organizations.rows = start.organizations.rows ++ organizations ∧
      organizations.map Organization.id = created.map Prod.snd

/-- The answers under which every user that is inserted has an email of its own, and
only the calls before that insert may fail. -/
def completedAnswers : ι → Semantics AccountCalls JsError Accounts :=
  Pool.guarded (fun _ call accounts => EmailFree call accounts)
    (fun _ => accountAnswers AccountCall.BeforeUser)

omit [DecidableEq ι] in
theorem accountAnswers_findUser {mayFail : AccountCall → Prop} {email : String}
    {accounts after : Accounts} {reply : Except JsError (Option User)}
    (answers : accountAnswers mayFail (AccountCall.findUser email) accounts reply after) :
    after = accounts := by
  obtain ⟨salted, answered⟩ | ⟨-, -, same⟩ := answers
  · exact congrArg Prod.snd answered
  · exact same

omit [DecidableEq ι] in
/-- An organization is inserted, or the call fails. -/
theorem accountAnswers_saveOrganization {mayFail : AccountCall → Prop}
    {organization : Organization} {accounts after : Accounts}
    {reply : Except JsError Organization}
    (answers : accountAnswers mayFail (AccountCall.saveOrganization organization) accounts
      reply after) :
    (∃ error, reply = .error error) ∧ after = accounts ∨
      ∃ row, reply = .ok row ∧ after.users = accounts.users ∧
        after.organizations.rows = accounts.organizations.rows ++ [row] := by
  obtain ⟨salted, answered⟩ | ⟨-, failed, same⟩ := answers
  · cases inserts : accounts.organizations.insert fun id =>
        { organization with id := id } with
    | none =>
        simp only [Accounts.perform, inserts] at answered
        cases answered
        exact .inl ⟨⟨_, rfl⟩, rfl⟩
    | some written =>
        obtain ⟨row, organizations⟩ := written
        simp only [Accounts.perform, inserts] at answered
        cases answered
        exact .inr ⟨row, rfl, rfl, Table.insert_rows rfl inserts⟩
  · exact .inl ⟨failed, same⟩

omit [DecidableEq ι] in
/-- A user with an email of its own is inserted. -/
theorem accountAnswers_saveUser {user : User} {accounts after : Accounts}
    {reply : Except JsError User}
    (free : ∀ other ∈ accounts.users, other.email ≠ user.email)
    (answers : accountAnswers AccountCall.BeforeUser (AccountCall.saveUser user) accounts
      reply after) :
    ∃ row : User, reply = .ok row ∧ row.orgId = user.orgId ∧
      after.organizations = accounts.organizations ∧
      after.users.rows = accounts.users.rows ++ [row] := by
  obtain ⟨salted, answered⟩ | ⟨absurd, -⟩ := answers
  · cases inserts : accounts.users.insert fun id => { user with id := id } with
    | none =>
        obtain ⟨other, member, -, key, rowKey, otherKey⟩ := Table.insert_eq_none.mp inserts
        cases rowKey
        exact absurd (Option.some.inj otherKey) (free other member)
    | some written =>
        obtain ⟨row, users⟩ := written
        simp only [Accounts.perform, inserts] at answered
        cases answered
        refine ⟨row, rfl, ?_, rfl, Table.insert_rows rfl inserts⟩
        rw [(Table.insert_eq_some.mp inserts).1]
  · exact absurd.elim

omit [DecidableEq ι] in
theorem accountAnswers_hash {password : String} {rounds : Nat} {accounts after : Accounts}
    {reply : Except JsError String}
    (answers : accountAnswers AccountCall.BeforeUser (AccountCall.hash password rounds)
      accounts reply after) :
    (∃ text, reply = .ok text) ∧ after = accounts := by
  obtain ⟨salted, answered⟩ | ⟨absurd, -⟩ := answers
  · exact ⟨⟨salted, congrArg Prod.fst answered⟩, congrArg Prod.snd answered⟩
  · exact absurd.elim

theorem registration_keeps (start : Accounts) :
    Pool.Keeps (fun _ : ι => registrationProtocol) completedAnswers
      (RegistrationInvariant start) := by
  rintro ghosts accounts thread call reply after
    ⟨created, users, organizations, ledgerCreated, ledgerUsers, userRows, organizationRows,
      ids⟩ allowed ⟨free, answers⟩
  have unchanged : after = accounts →
      RegistrationInvariant start (Function.update ghosts thread (ghosts thread)) after := by
    rintro rfl
    rw [Function.update_eq_self]
    exact ⟨created, users, organizations, ledgerCreated, ledgerUsers, userRows,
      organizationRows, ids⟩
  generalize held : ghosts thread = ghost at allowed
  rw [held] at unchanged
  cases ghost with
  | checking =>
      cases (call : AccountCall) with
      | findUser email =>
          exact ⟨_, by cases reply <;> rfl, unchanged (accountAnswers_findUser answers)⟩
      | saveOrganization organization =>
          obtain ⟨⟨error, rfl⟩, same⟩ | ⟨row, rfl, sameUsers, rows⟩ :=
            accountAnswers_saveOrganization answers
          · exact ⟨_, rfl, unchanged same⟩
          · refine ⟨.created row.id, rfl, created ++ [(thread, row.id)], users,
              organizations ++ [row], ?_, ?_, ?_, ?_, ?_⟩
            · apply ledgerCreated.acquire
              · rw [held]
                rfl
              · rw [Function.update_self]
                rfl
              · intro other differs
                rw [Function.update_of_ne differs]
            · apply ledgerUsers.keep
              intro other
              by_cases same : other = thread
              · subst same
                rw [Function.update_self, held]
                rfl
              · rw [Function.update_of_ne same]
            · rw [sameUsers, userRows]
            · rw [rows, organizationRows, List.append_assoc]
            · rw [List.map_append, List.map_append, ids]
              rfl
      | saveUser user => exact allowed.elim
      | hash password rounds => exact allowed.elim
  | created orgId =>
      cases (call : AccountCall) with
      | findUser email => exact allowed.elim
      | saveOrganization organization => exact allowed.elim
      | saveUser user =>
          obtain ⟨row, rfl, sameOrg, sameOrganizations, rows⟩ :=
            accountAnswers_saveUser free answers
          refine ⟨.stored row, rfl, created, users ++ [(thread, row)], organizations, ?_, ?_,
            ?_, ?_, ids⟩
          · apply ledgerCreated.keep
            intro other
            by_cases same : other = thread
            · subst same
              rw [Function.update_self, held]
              exact congrArg some (sameOrg.trans allowed)
            · rw [Function.update_of_ne same]
          · apply ledgerUsers.acquire
            · rw [held]
              rfl
            · rw [Function.update_self]
              rfl
            · intro other differs
              rw [Function.update_of_ne differs]
          · rw [rows, userRows, List.map_append, List.append_assoc]
            rfl
          · rw [sameOrganizations, organizationRows]
      | hash password rounds =>
          obtain ⟨⟨text, rfl⟩, same⟩ := accountAnswers_hash answers
          exact ⟨_, rfl, unchanged same⟩
  | stored user => cases (call : AccountCall) <;> exact allowed.elim

/-- Where every user that is inserted has an email of its own and its insert does not
fail, each registration is all or nothing. -/
theorem registrations_allOrNothing (inputs : ι → RegisterInput) (start : Accounts)
    {pool : Pool AccountCalls JsError ι User Accounts}
    (reaches : Pool.Reaches completedAnswers (registrationPool inputs start) pool)
    (idle : Idle inputs pool) : AllOrNothing start pool := by
  have begins : RegistrationInvariant start (fun _ : ι => .checking) start := by
    refine ⟨[], [], [], .empty fun _ => rfl, .empty fun _ => rfl, ?_, ?_, rfl⟩
    · exact (List.append_nil _).symm
    · exact (List.append_nil _).symm
  have started : (registrationPool inputs start).Follows (fun _ => registrationProtocol)
      (fun _ => registrationEnds) (fun _ => .checking) :=
    fun thread => register_follows (inputs thread)
  obtain ⟨ghosts, follows, created, users, organizations, ledgerCreated, ledgerUsers,
      userRows, organizationRows, ids⟩ :=
    reaches.invariant (registration_keeps start) started begins
  have settled : ∀ thread, (ghosts thread).organization =
      (returned pool thread).map User.orgId ∧ (ghosts thread).user = returned pool thread := by
    intro thread
    have here := follows thread
    unfold returned
    rcases idle thread with waiting | ⟨outcome, ended⟩
    · rw [waiting] at here ⊢
      have checking : registrationAllows (ghosts thread)
          (.findUser (inputs thread).email) := here.1
      cases held : ghosts thread with
      | checking => exact ⟨rfl, rfl⟩
      | created orgId =>
          rw [held] at checking
          exact checking.elim
      | stored user =>
          rw [held] at checking
          exact checking.elim
    · have ends := Pool.Follows.ended follows ended
      rw [show pool.threads thread = .ofExcept outcome from ended]
      cases outcome with
      | ok user =>
          rw [show ghosts thread = .stored user from ends]
          exact ⟨rfl, rfl⟩
      | error error =>
          rw [show ghosts thread = .checking from ends]
          exact ⟨rfl, rfl⟩
  have byCall : Ledger (returned pool) users :=
    ledgerUsers.keep fun thread => (settled thread).2.symm
  refine ⟨?_, users, organizations, byCall, userRows, organizationRows, ?_⟩
  · intro user member other otherMember same
    exact Table.eq_of_index member otherMember rfl (congrArg some same.symm)
  · rw [ids]
    exact ledgerCreated.perm byCall fun thread => (settled thread).1

end Pools

/-! ### Two registrations of one email -/

def sharedEmail : RegisterInput :=
  { email := "ada@example.com"
    password := "correct horse"
    organizationName := "Analytical Engines" }

/-- No call fails, and `bcrypt.hash` returns this text. -/
def accountMachine : Machine AccountCalls JsError Accounts :=
  fun (call : AccountCall) accounts => accounts.perform "$2b$12$" call

theorem accountMachine_answers (mayFail : AccountCall → Prop) (call : AccountCall)
    (accounts : Accounts) :
    accountAnswers mayFail call accounts (accountMachine call accounts).1
      (accountMachine call accounts).2 :=
  .inl ⟨"$2b$12$", rfl⟩

/-- Both have looked for the email before either has inserted it. -/
theorem overlap_leaves_organization :
    ∃ pool : Pool AccountCalls JsError Bool User Accounts,
      Pool.Reaches (fun _ => accountAnswers AccountCall.OfRepository)
        (registrationPool (fun _ => sharedEmail) default) pool ∧
      Idle (fun _ => sharedEmail) pool ∧ ¬ AllOrNothing default pool := by
  have answers := accountMachine_answers AccountCall.OfRepository
  have begins : Pool.Reaches (fun _ => accountAnswers AccountCall.OfRepository)
      (registrationPool (fun _ : Bool => sharedEmail) default)
      (registrationPool (fun _ => sharedEmail) default) := .refl
  have looked := begins.answer true accountMachine rfl (answers _ _)
  generalize firstLook : (Pool.mk _ _ : Pool AccountCalls JsError Bool User Accounts) =
    pool at looked
  have overtaken : Pool.Reaches _ _ (pool.completed false accountMachine) :=
    looked.run false accountMachine answers
  have ended : Pool.Reaches _ _
      ((pool.completed false accountMachine).completed true accountMachine) :=
    overtaken.run true accountMachine answers
  refine ⟨_, ended, ?_, ?_⟩
  · rintro (_ | _)
    · exact .inr ⟨_, (pool.ended_completed false accountMachine).completed
        Bool.false_ne_true accountMachine⟩
    · exact .inr ⟨_, Pool.ended_completed _ true accountMachine⟩
  · rintro ⟨-, users, organizations, -, userRows, organizationRows, ids⟩
    rw [← firstLook] at userRows organizationRows
    have one : users.length = 1 := by
      have rows := congrArg List.length userRows
      rw [List.length_append, List.length_map] at rows
      exact ((Nat.zero_add _).symm.trans rows.symm).trans (by decide +kernel)
    have two : organizations.length = 2 := by
      have rows := congrArg List.length organizationRows
      rw [List.length_append] at rows
      exact ((Nat.zero_add _).symm.trans rows.symm).trans (by decide +kernel)
    have same := ids.length_eq
    rw [List.length_map, List.length_map, one, two] at same
    cases same

/-- Two people, one of whom registers twice. -/
def threeInputs : Nat → RegisterInput
  | 1 =>
      { email := "grace@example.com"
        password := "hunter2"
        organizationName := "Compilers" }
  | _ => sharedEmail

/-- Two registrations that overlap, and one that is refused. -/
theorem registrations_allOrNothing_overlapping :
    ∃ pool : Pool AccountCalls JsError Nat User Accounts,
      (returned pool 0).map User.orgId = some 0 ∧ (returned pool 1).map User.orgId = some 1 ∧
      pool.Ended 2 (.error (.conflict "A user with this email already exists")) ∧
      AllOrNothing default pool := by
  have begins : Pool.Reaches completedAnswers (registrationPool threeInputs default)
      (registrationPool threeInputs default) := .refl
  have answers := accountMachine_answers AccountCall.BeforeUser
  have looked := begins.answer 0 accountMachine rfl ⟨trivial, answers _ _⟩
  have lookedOther := looked.answer 1 accountMachine rfl ⟨trivial, answers _ _⟩
  have created := lookedOther.answer 0 accountMachine rfl ⟨trivial, answers _ _⟩
  have createdOther := created.answer 1 accountMachine rfl ⟨trivial, answers _ _⟩
  have hashedOther := createdOther.answer 1 accountMachine rfl ⟨trivial, answers _ _⟩
  have storedOther := hashedOther.answer 1 accountMachine rfl
    ⟨fun other member => absurd member List.not_mem_nil, answers _ _⟩
  have hashed := storedOther.answer 0 accountMachine rfl ⟨trivial, answers _ _⟩
  have stored := hashed.answer 0 accountMachine rfl
    ⟨fun other member => by
      obtain rfl := List.mem_singleton.mp member
      decide, answers _ _⟩
  have refused := stored.answer 2 accountMachine rfl ⟨trivial, answers _ _⟩
  have whole := registrations_allOrNothing threeInputs default refused
  refine ⟨_, ?_, ?_, ?_, whole ?_⟩
  · rfl
  · rfl
  · rfl
  rintro (_ | _ | _ | thread)
  · exact .inr ⟨.ok _, rfl⟩
  · exact .inr ⟨.ok _, rfl⟩
  · exact .inr ⟨.error _, rfl⟩
  · exact .inl rfl

end ServersManager
