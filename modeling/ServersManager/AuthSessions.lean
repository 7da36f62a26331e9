/-
Module: ServersManager.AuthSessions
Purpose: Logins, refreshed tokens and guarded requests, any number of them at once: whose
  login a request goes back to, and for how long.
Trusted boundary: human-reviewed semantics of signed tokens
Main exports:
  Jwt, login, refreshAccessToken, authenticate, SessionPermits, SessionsEnd, ClaimsStored,
  sessions_end_iff
-/
import ServersManager.Library.Chronicle
import ServersManager.Registration

namespace ServersManager

open Library

/-! ### Tokens -/

/-- What an access token says besides whose it is. -/
structure AccessClaims where
  orgId : Nat
  orgName : String
  email : String
  role : UserRole
deriving Repr, Inhabited, DecidableEq

/-- `JwtAccessPayload`, or `JwtRefreshPayload`, which lacks the claims. -/
structure JwtPayload where
  sub : Nat
  claims : Option AccessClaims
deriving Repr, Inhabited, DecidableEq

/-- A token: one that somebody has signed, or any other text. -/
inductive Jwt where
  | signed (payload : JwtPayload) (secret : String) (issuedAt expiresAt : Nat)
  | other (text : String)
deriving Repr, Inhabited, DecidableEq

/-- `JwtService.verify`, the expiration not being ignored. -/
def Jwt.verify (token : Jwt) (secret : String) (now : Nat) : Option JwtPayload :=
  match token with
  | .signed payload signer _ expiresAt =>
      if signer = secret ∧ now < expiresAt then some payload else none
  | .other _ => none

/-- Whoever has signed the token knows neither secret. -/
def Jwt.Foreign (token : Jwt) (secrets : List String) : Prop :=
  ∀ payload secret issuedAt expiresAt,
    token = .signed payload secret issuedAt expiresAt → secret ∉ secrets

/-- A token verifies under the secret that signed it, until it expires. -/
theorem Jwt.verify_eq_some {token : Jwt} {secret : String} {now : Nat}
    {payload : JwtPayload} :
    token.verify secret now = some payload ↔
      ∃ issuedAt expiresAt, token = .signed payload secret issuedAt expiresAt ∧
        now < expiresAt := by
  cases token with
  | signed signedPayload signer issuedAt expiresAt =>
      simp only [Jwt.verify, Option.ite_none_right_eq_some, Option.some.injEq,
        Jwt.signed.injEq]
      constructor
      · rintro ⟨⟨rfl, fresh⟩, rfl⟩
        exact ⟨issuedAt, expiresAt, ⟨rfl, rfl, rfl, rfl⟩, fresh⟩
      · rintro ⟨_, _, ⟨rfl, rfl, rfl, rfl⟩, fresh⟩
        exact ⟨⟨rfl, fresh⟩, rfl⟩
  | other text => simp [Jwt.verify]

/-! ### The calls of a request -/

/-- `configService.get('jwt')`, the durations in seconds. -/
structure SessionConfig where
  accessSecret : String
  accessExpiresIn : Nat
  refreshSecret : String
  refreshExpiresIn : Nat
deriving Repr, Inhabited

inductive SessionError where
  | unauthorized (text : String)
  | failed (error : JsError)

/-- The calls to the repositories, to `bcrypt` and to the signing library; a request is
handed the token that it brings along. -/
inductive SessionCall where
  | findByEmail (email : String)
  | findById (id : Nat)
  | findOrganization (id : Nat)
  | compare (password passwordHash : String)
  | sign (payload : JwtPayload) (secret : String) (expiresIn : Nat)
  | verify (token : Jwt) (secret : String)
  | receive

def SessionCall.Reply : SessionCall → Type
  | .findByEmail _ => Option User
  | .findById _ => Option User
  | .findOrganization _ => Option Organization
  | .compare _ _ => Bool
  | .sign _ _ _ => Jwt
  | .verify _ _ => JwtPayload
  | .receive => Jwt

abbrev SessionCalls : Signature := ⟨SessionCall, SessionCall.Reply⟩

abbrev SessionJob := Program SessionCalls SessionError

def ask (call : SessionCall) : SessionJob call.Reply :=
  Program.perform (S := SessionCalls) call

def unauthorized {α : Type} (text : String) : SessionJob α :=
  throw (.unauthorized text)

/-! ### `auth/auth.service.ts` and `auth/auth.controller.ts` -/

def getOrganizationName (orgId : Nat) : SessionJob String := do
  match ← ask (.findOrganization orgId) with
  | none => unauthorized "Organization no longer exists"
  | some organization => return organization.name

def validateCredentials (email password : String) : SessionJob User := do
  match ← ask (.findByEmail email) with
  | none => unauthorized "Invalid email or password"
  | some user =>
      let passwordMatches : Bool ← ask (.compare password user.passwordHash)
      if passwordMatches then
        return user
      else
        unauthorized "Invalid email or password"

def accessPayload (user : User) (orgName : String) : JwtPayload :=
  { sub := user.id
    claims := some
      { orgId := user.orgId
        orgName := orgName
        email := user.email
        role := user.role } }

def refreshPayload (user : User) : JwtPayload :=
  { sub := user.id
    claims := none }

structure TokenPair where
  accessToken : Jwt
  refreshToken : Jwt

variable (config : SessionConfig)

def issueTokenPair (user : User) (orgName : String) : SessionJob TokenPair := do
  let accessToken ←
    ask (.sign (accessPayload user orgName) config.accessSecret config.accessExpiresIn)
  let refreshToken ←
    ask (.sign (refreshPayload user) config.refreshSecret config.refreshExpiresIn)
  return { accessToken := accessToken, refreshToken := refreshToken }

/-- `POST /auth/login`. -/
def login (email password : String) : SessionJob TokenPair := do
  let user ← validateCredentials email password
  let orgName ← getOrganizationName user.orgId
  issueTokenPair config user orgName

def refreshAccessToken (refreshToken : Jwt) : SessionJob Jwt := do
  let payload ← tryCatch (ask (.verify refreshToken config.refreshSecret)) fun _ =>
    throw (.unauthorized "Invalid or expired refresh token")
  match ← ask (.findById payload.sub) with
  | none => unauthorized "Invalid or expired refresh token"
  | some user =>
      let orgName ← getOrganizationName user.orgId
      ask (.sign (accessPayload user orgName) config.accessSecret config.accessExpiresIn)

/-! ### `auth/strategies/jwt.strategy.ts` -/

/-- The user that a request is made for; a token without claims leaves them undefined. -/
structure AuthenticatedUser where
  id : Nat
  orgId : Option Nat
  orgName : Option String
  email : Option String
  role : Option UserRole
deriving Repr, Inhabited, DecidableEq

def JwtPayload.validate (payload : JwtPayload) : AuthenticatedUser :=
  { id := payload.sub
    orgId := payload.claims.map AccessClaims.orgId
    orgName := payload.claims.map AccessClaims.orgName
    email := payload.claims.map AccessClaims.email
    role := payload.claims.map AccessClaims.role }

/-- `JwtAuthGuard`: the user of a request that is let in. -/
def authenticate (token : Jwt) : SessionJob AuthenticatedUser := do
  let payload ← tryCatch (ask (.verify token config.accessSecret)) fun _ =>
    throw (.unauthorized "Unauthorized")
  return payload.validate

/-! ### Requests at once -/

inductive SessionRequest where
  | login (email password : String)
  | refresh
  | visit
deriving DecidableEq

inductive SessionResponse where
  | tokens (pair : TokenPair)
  | access (token : Jwt)
  | user (user : AuthenticatedUser)

def SessionRequest.program : SessionRequest → SessionJob SessionResponse
  | .login email password => do
      let pair ← ServersManager.login config email password
      return .tokens pair
  | .refresh => do
      let refreshToken ← ask .receive
      let accessToken ← refreshAccessToken config refreshToken
      return .access accessToken
  | .visit => do
      let token ← ask .receive
      let user ← authenticate config token
      return .user user

/-- When a call is answered, in seconds, and what the account tables hold then. -/
structure Circumstances where
  time : Nat
  accounts : Accounts

abbrev SessionEntry (ι : Type) := Entry SessionCalls SessionError ι Circumstances

/-- The answer to a call.  Any call may fail; whether a password matches a hash is
bcrypt's to say. -/
def sessionReplies (circumstances : Circumstances) :
    (call : SessionCall) → Except SessionError call.Reply → Prop
  | .findByEmail email, .ok found =>
      found = circumstances.accounts.users.findOne fun user => user.email == email
  | .findById id, .ok found => found = circumstances.accounts.users.byId id
  | .findOrganization id, .ok found => found = circumstances.accounts.organizations.byId id
  | .sign payload secret expiresIn, .ok token =>
      token = .signed payload secret circumstances.time (circumstances.time + expiresIn)
  | .verify token secret, .ok payload =>
      token.verify secret circumstances.time = some payload
  | _, _ => True

section Log

variable {ι : Type}

/-- What a request can bring along: a token that has been issued, or one that is not the
server's. -/
def Presented (before : List (SessionEntry ι)) (token : Jwt) : Prop :=
  token.Foreign [config.accessSecret, config.refreshSecret] ∨
    ∃ entry ∈ before, ∃ payload secret expiresIn,
      entry.exchange = ⟨SessionCall.sign payload secret expiresIn, .ok token⟩

/-- Time passes, no request takes longer than this, and the account tables may hold
anything at any time. -/
structure SessionPermits (patience : Nat) (before : List (SessionEntry ι))
    (entry : SessionEntry ι) : Prop extends
    Punctual Circumstances.time patience before entry where
  replies : sessionReplies entry.circumstances entry.exchange.1 entry.exchange.2
  presented : ∀ token, entry.exchange = ⟨SessionCall.receive, .ok token⟩ →
    Presented config before token

end Log

/-! ### What the requests ask for -/

section Asking

variable {config} {trace : List (Exchange SessionCalls SessionError)} {payload : JwtPayload}
  {secret : String} {token : Jwt} {expiresIn : Nat}

/-- The exchanges of a login before it signs. -/
def loginTrace (email password : String) (user : User) (organization : Organization) :
    List (Exchange SessionCalls SessionError) :=
  [⟨SessionCall.findByEmail email, .ok (some user)⟩,
    ⟨SessionCall.compare password user.passwordHash, .ok true⟩,
    ⟨SessionCall.findOrganization user.orgId, .ok (some organization)⟩]

/-- The exchanges of a refresh before it signs. -/
def refreshTrace (config : SessionConfig) (refreshToken : Jwt) (payload : JwtPayload)
    (user : User) (organization : Organization) :
    List (Exchange SessionCalls SessionError) :=
  [⟨SessionCall.receive, .ok refreshToken⟩,
    ⟨SessionCall.verify refreshToken config.refreshSecret, .ok payload⟩,
    ⟨SessionCall.findById payload.sub, .ok (some user)⟩,
    ⟨SessionCall.findOrganization user.orgId, .ok (some organization)⟩]

/-- A login signs two tokens, after it has read the user and the organization. -/
theorem login_signs {email password : String}
    (asks : ((SessionRequest.login email password).program config).Asks trace
      (SessionCall.sign payload secret expiresIn)) :
    ∃ user organization, loginTrace email password user organization <+: trace ∧
      (payload = accessPayload user organization.name ∧ secret = config.accessSecret ∧
          expiresIn = config.accessExpiresIn ∨
        payload = refreshPayload user ∧ secret = config.refreshSecret ∧
          expiresIn = config.refreshExpiresIn) := by
  replace asks := Program.asks_call.mp asks
  rcases asks with ⟨_, ⟨⟩⟩ | ⟨reply, trace, rfl, asks⟩
  rcases reply with error | (_ | user)
  · exact absurd asks Program.asks_throw
  · exact absurd asks Program.asks_throw
  replace asks := Program.asks_call.mp asks
  rcases asks with ⟨_, ⟨⟩⟩ | ⟨reply, trace, rfl, asks⟩
  rcases reply with error | (_ | _)
  · exact absurd asks Program.asks_throw
  · exact absurd asks Program.asks_throw
  replace asks := Program.asks_call.mp asks
  rcases asks with ⟨_, ⟨⟩⟩ | ⟨reply, trace, rfl, asks⟩
  rcases reply with error | (_ | organization)
  · exact absurd asks Program.asks_throw
  · exact absurd asks Program.asks_throw
  refine ⟨user, organization, List.prefix_append _ trace, ?_⟩
  replace asks := Program.asks_call.mp asks
  rcases asks with ⟨_, ⟨⟩⟩ | ⟨reply, trace, rfl, asks⟩
  · exact .inl ⟨rfl, rfl, rfl⟩
  rcases reply with error | accessToken
  · exact absurd asks Program.asks_throw
  replace asks := Program.asks_call.mp asks
  rcases asks with ⟨_, ⟨⟩⟩ | ⟨reply, trace, rfl, asks⟩
  · exact .inr ⟨rfl, rfl, rfl⟩
  rcases reply with error | refreshToken
  · exact absurd asks Program.asks_throw
  · exact absurd asks Program.asks_pure

/-- A refresh signs one, after it has verified a refresh token and read both again. -/
theorem refresh_signs
    (asks : (SessionRequest.refresh.program config).Asks trace
      (SessionCall.sign payload secret expiresIn)) :
    ∃ refreshToken old user organization,
      refreshTrace config refreshToken old user organization <+: trace ∧
        payload = accessPayload user organization.name ∧ secret = config.accessSecret ∧
          expiresIn = config.accessExpiresIn := by
  replace asks := Program.asks_call.mp asks
  rcases asks with ⟨_, ⟨⟩⟩ | ⟨reply, trace, rfl, asks⟩
  rcases reply with error | refreshToken
  · exact absurd asks Program.asks_throw
  replace asks := Program.asks_call.mp asks
  rcases asks with ⟨_, ⟨⟩⟩ | ⟨reply, trace, rfl, asks⟩
  rcases reply with error | old
  · exact absurd asks Program.asks_throw
  replace asks := Program.asks_call.mp asks
  rcases asks with ⟨_, ⟨⟩⟩ | ⟨reply, trace, rfl, asks⟩
  rcases reply with error | (_ | user)
  · exact absurd asks Program.asks_throw
  · exact absurd asks Program.asks_throw
  replace asks := Program.asks_call.mp asks
  rcases asks with ⟨_, ⟨⟩⟩ | ⟨reply, trace, rfl, asks⟩
  rcases reply with error | (_ | organization)
  · exact absurd asks Program.asks_throw
  · exact absurd asks Program.asks_throw
  refine ⟨refreshToken, old, user, organization, List.prefix_append _ trace, ?_⟩
  replace asks := Program.asks_call.mp asks
  rcases asks with ⟨_, ⟨⟩⟩ | ⟨reply, trace, rfl, asks⟩
  · exact ⟨rfl, rfl, rfl⟩
  rcases reply with error | accessToken
  · exact absurd asks Program.asks_throw
  · exact absurd asks Program.asks_pure

/-- A visit receives its token and verifies it. -/
theorem visit_asks {call : SessionCall}
    (asks : (SessionRequest.visit.program config).Asks trace call) :
    trace = [] ∧ call = .receive ∨
      ∃ token, trace = [⟨SessionCall.receive, .ok token⟩] ∧
        call = .verify token config.accessSecret := by
  replace asks := Program.asks_call.mp asks
  rcases asks with ⟨rfl, rfl⟩ | ⟨reply, trace, rfl, asks⟩
  · exact .inl ⟨rfl, rfl⟩
  rcases reply with error | token
  · exact absurd asks Program.asks_throw
  replace asks := Program.asks_call.mp asks
  rcases asks with ⟨rfl, rfl⟩ | ⟨reply, trace, rfl, asks⟩
  · exact .inr ⟨token, rfl, rfl⟩
  rcases reply with error | payload
  · exact absurd asks Program.asks_throw
  · exact absurd asks Program.asks_pure

end Asking

/-! ### Where a request's claims come from -/

section Origins

variable {ι : Type} [DecidableEq ι] (participants : ι → SessionRequest) (patience : Nat)

def sessionPrograms (thread : ι) : SessionJob SessionResponse :=
  (participants thread).program config

/-- All requests, none of which has begun. -/
def sessionPool :
    Pool SessionCalls SessionError ι SessionResponse (List (SessionEntry ι)) where
  threads := sessionPrograms config participants
  store := []

def sessionAnswers (ι : Type) :
    ι → Semantics SessionCalls SessionError (List (SessionEntry ι)) :=
  chronicle (SessionPermits config patience)

omit [DecidableEq ι] in
/-- A guarded request is let in, for the user of this payload. -/
def LetIn (entry : SessionEntry ι) (payload : JwtPayload) : Prop :=
  participants entry.thread = .visit ∧ ∃ token secret,
    entry.exchange = ⟨SessionCall.verify token secret, .ok payload⟩

omit [DecidableEq ι] in
/-- A login has found that the password is this user's. -/
structure LoggedIn (log : List (SessionEntry ι)) (entry : SessionEntry ι) (user : User) :
    Prop where
  accepted : ∃ password, participants entry.thread = .login user.email password ∧
    entry.exchange = ⟨SessionCall.compare password user.passwordHash, .ok true⟩
  stored : ∃ read ∈ log, read.thread = entry.thread ∧
    user ∈ read.circumstances.accounts.users

/-- Every guarded request that is let in comes less than this long after a login of its
user. -/
def SessionsEnd (bound : Nat) (log : List (SessionEntry ι)) : Prop :=
  ∀ entry ∈ log, ∀ payload, LetIn participants entry payload →
    ∃ login ∈ log, ∃ user, LoggedIn participants log login user ∧ user.id = payload.sub ∧
      entry.circumstances.time < login.circumstances.time + bound

/-- The claims of every guarded request that is let in have been in the tables less than
this long before. -/
def ClaimsStored (bound : Nat) (log : List (SessionEntry ι)) : Prop :=
  ∀ entry ∈ log, ∀ payload, LetIn participants entry payload →
    ∃ user organization, payload = accessPayload user organization.name ∧
      organization.id = user.orgId ∧
      (∃ read ∈ log, user ∈ read.circumstances.accounts.users ∧
        entry.circumstances.time < read.circumstances.time + bound) ∧
      ∃ read ∈ log, organization ∈ read.circumstances.accounts.organizations ∧
        entry.circumstances.time < read.circumstances.time + bound

variable {config participants patience}
variable {log : List (SessionEntry ι)}

abbrev SessionLog (config : SessionConfig) (participants : ι → SessionRequest)
    (patience : Nat) (log : List (SessionEntry ι)) : Prop :=
  Grounded (Asked (SessionPermits config patience) (sessionPrograms config participants)) log

/-- What a request has said is in the log, and not longer ago than a request may take. -/
theorem said_before (grounded : SessionLog config participants patience log)
    {entry : SessionEntry ι} {before after : List (SessionEntry ι)}
    (split : log = before ++ entry :: after)
    {exchange : Exchange SessionCalls SessionError}
    (spoken : exchange ∈ said before entry.thread) :
    ∃ earlier ∈ log, earlier.thread = entry.thread ∧ earlier.exchange = exchange ∧
      earlier.circumstances.time ≤ entry.circumstances.time ∧
      entry.circumstances.time ≤ earlier.circumstances.time + patience :=
  exists_said (fun _ _ permitted => permitted.toPunctual) grounded split spoken

/-- Every entry of the log is an answer that could be given. -/
theorem replies_of_mem (grounded : SessionLog config participants patience log)
    {entry : SessionEntry ι} (member : entry ∈ log) {call : SessionCall}
    {reply : Except SessionError call.Reply} (exchange : entry.exchange = ⟨call, reply⟩) :
    sessionReplies entry.circumstances call reply := by
  obtain ⟨before, after, -, asked, -⟩ := grounded.exists_permitted member
  have replies := asked.1.replies
  rw [exchange] at replies
  exact replies

/-- A token that is brought along and verified under one of the secrets has been signed
with it, for this payload. -/
theorem exists_signed (grounded : SessionLog config participants patience log)
    {received : SessionEntry ι} (member : received ∈ log) {token : Jwt}
    (receives : received.exchange = ⟨SessionCall.receive, .ok token⟩)
    {secret : String} (known : secret ∈ [config.accessSecret, config.refreshSecret])
    {now : Nat} {payload : JwtPayload} (verifies : token.verify secret now = some payload) :
    ∃ signing ∈ log, ∃ expiresIn,
      signing.exchange = ⟨SessionCall.sign payload secret expiresIn, .ok token⟩ ∧
        now < signing.circumstances.time + expiresIn := by
  obtain ⟨before, after, split, asked, -⟩ := grounded.exists_permitted member
  obtain ⟨issuedAt, expiresAt, rfl, fresh⟩ := Jwt.verify_eq_some.mp verifies
  rcases asked.1.presented _ receives with foreign | ⟨signing, earlier, other, signer,
    expiresIn, signs⟩
  · exact absurd known (foreign _ _ _ _ rfl)
  · have inLog : signing ∈ log := by
      rw [split]
      exact List.mem_append_left _ earlier
    have issued : Jwt.signed payload secret issuedAt expiresAt = _ :=
      replies_of_mem grounded inLog signs
    cases issued
    exact ⟨signing, inLog, expiresIn, signs, fresh⟩

/-- The tables have held this user and its organization, each this long ago at most. -/
def HeldWithin (log : List (SessionEntry ι)) (now bound : Nat) (user : User)
    (organization : Organization) : Prop :=
  organization.id = user.orgId ∧
    (∃ read ∈ log, user ∈ read.circumstances.accounts.users ∧
      now ≤ read.circumstances.time + bound) ∧
    ∃ read ∈ log, organization ∈ read.circumstances.accounts.organizations ∧
      now ≤ read.circumstances.time + bound

/-- An organization that was found was stored. -/
theorem organization_of_found (grounded : SessionLog config participants patience log)
    {read : SessionEntry ι} (member : read ∈ log) {orgId : Nat} {organization : Organization}
    (finds : read.exchange =
      ⟨SessionCall.findOrganization orgId, .ok (some organization)⟩) :
    organization ∈ read.circumstances.accounts.organizations ∧ organization.id = orgId := by
  have found : some organization = _ := replies_of_mem grounded member finds
  exact Table.byId_eq_some.mp found.symm

/-- A login signs tokens for a user whose password it has been given. -/
theorem login_signed (grounded : SessionLog config participants patience log)
    {signing : SessionEntry ι} (member : signing ∈ log) {email password : String}
    (logsIn : participants signing.thread = .login email password) {payload : JwtPayload}
    {secret : String} {expiresIn : Nat} {token : Except SessionError Jwt}
    (signs : signing.exchange = ⟨SessionCall.sign payload secret expiresIn, token⟩) :
    ∃ user organization,
      HeldWithin log signing.circumstances.time patience user organization ∧
      (∃ login ∈ log, LoggedIn participants log login user ∧
        signing.circumstances.time ≤ login.circumstances.time + patience) ∧
      (payload = accessPayload user organization.name ∧ secret = config.accessSecret ∧
          expiresIn = config.accessExpiresIn ∨
        payload = refreshPayload user ∧ secret = config.refreshSecret ∧
          expiresIn = config.refreshExpiresIn) := by
  obtain ⟨before, after, split, ⟨-, asks⟩, -⟩ := grounded.exists_permitted member
  rw [sessionPrograms, logsIn, signs] at asks
  obtain ⟨user, organization, spoken, describes⟩ := login_signs asks
  obtain ⟨read, readMember, readThread, reads, -, readTime⟩ := said_before grounded split
    (spoken.subset (List.mem_cons_self))
  obtain ⟨login, loginMember, loginThread, accepts, -, loginTime⟩ := said_before grounded split
    (spoken.subset (.tail _ (.head _)))
  obtain ⟨named, namedMember, -, names, -, namedTime⟩ := said_before grounded split
    (spoken.subset (.tail _ (.tail _ (.head _))))
  have found : some user = read.circumstances.accounts.users.findOne _ :=
    replies_of_mem grounded readMember reads
  obtain ⟨stored, sameEmail⟩ := Table.findOne_mem found.symm
  have ofEmail : user.email = email := by simpa using sameEmail
  obtain ⟨held, ofUser⟩ := organization_of_found grounded namedMember names
  refine ⟨user, organization, ⟨ofUser, ⟨read, readMember, stored, readTime⟩,
    ⟨named, namedMember, held, namedTime⟩⟩, ⟨login, loginMember, ?_, loginTime⟩, describes⟩
  constructor
  · refine ⟨password, ?_, accepts⟩
    rw [loginThread, logsIn, ofEmail]
  · exact ⟨read, readMember, readThread.trans loginThread.symm, stored⟩

/-- A refresh signs an access token for the user of a refresh token that is still valid
while the request lasts. -/
theorem refresh_signed (grounded : SessionLog config participants patience log)
    {signing : SessionEntry ι} (member : signing ∈ log)
    (refreshes : participants signing.thread = .refresh) {payload : JwtPayload}
    {secret : String} {expiresIn : Nat} {token : Except SessionError Jwt}
    (signs : signing.exchange = ⟨SessionCall.sign payload secret expiresIn, token⟩) :
    ∃ user organization,
      HeldWithin log signing.circumstances.time patience user organization ∧
      payload = accessPayload user organization.name ∧ secret = config.accessSecret ∧
      expiresIn = config.accessExpiresIn ∧
      ∃ issuing ∈ log, ∃ old oldToken oldExpiresIn,
        issuing.exchange =
          ⟨SessionCall.sign old config.refreshSecret oldExpiresIn, .ok oldToken⟩ ∧
        old.sub = user.id ∧ signing.circumstances.time <
          issuing.circumstances.time + oldExpiresIn + patience := by
  obtain ⟨before, after, split, ⟨-, asks⟩, -⟩ := grounded.exists_permitted member
  rw [sessionPrograms, refreshes, signs] at asks
  obtain ⟨refreshToken, old, user, organization, spoken, describes, ofSecret, duration⟩ :=
    refresh_signs asks
  obtain ⟨received, receivedMember, -, receives, -, -⟩ := said_before grounded split
    (spoken.subset (List.mem_cons_self))
  obtain ⟨verified, verifiedMember, -, verifies, -, verifiedTime⟩ := said_before grounded split
    (spoken.subset (.tail _ (.head _)))
  obtain ⟨read, readMember, -, reads, -, readTime⟩ := said_before grounded split
    (spoken.subset (.tail _ (.tail _ (.head _))))
  obtain ⟨named, namedMember, -, names, -, namedTime⟩ := said_before grounded split
    (spoken.subset (.tail _ (.tail _ (.tail _ (.head _)))))
  have valid : refreshToken.verify config.refreshSecret verified.circumstances.time =
      some old := replies_of_mem grounded verifiedMember verifies
  obtain ⟨issuing, issuingMember, oldExpiresIn, issues, fresh⟩ := exists_signed grounded
    receivedMember receives (.tail _ (.head _)) valid
  have found : some user = read.circumstances.accounts.users.byId old.sub :=
    replies_of_mem grounded readMember reads
  obtain ⟨stored, sameId⟩ := Table.byId_eq_some.mp found.symm
  obtain ⟨held, ofUser⟩ := organization_of_found grounded namedMember names
  refine ⟨user, organization, ⟨ofUser, ⟨read, readMember, stored, readTime⟩,
    ⟨named, namedMember, held, namedTime⟩⟩, describes, ofSecret, duration, issuing,
    issuingMember, old, refreshToken, oldExpiresIn, issues, sameId.symm, ?_⟩
  omega

/-- Whoever is let in presents a token that was signed not too long ago. -/
theorem visit_signed (grounded : SessionLog config participants patience log)
    {entry : SessionEntry ι} (member : entry ∈ log) {payload : JwtPayload}
    (letIn : LetIn participants entry payload) :
    ∃ signing ∈ log, ∃ token expiresIn,
      signing.exchange =
        ⟨SessionCall.sign payload config.accessSecret expiresIn, .ok token⟩ ∧
      entry.circumstances.time < signing.circumstances.time + expiresIn := by
  obtain ⟨visits, token, secret, verifies⟩ := letIn
  obtain ⟨before, after, split, ⟨-, asks⟩, -⟩ := grounded.exists_permitted member
  rw [sessionPrograms, visits, verifies] at asks
  rcases visit_asks asks with ⟨-, ⟨⟩⟩ | ⟨_, spoken, ⟨⟩⟩
  obtain ⟨received, receivedMember, -, receives, -, -⟩ := said_before grounded split
    (by rw [spoken]; exact List.mem_singleton_self _)
  have valid : token.verify config.accessSecret entry.circumstances.time = some payload :=
    replies_of_mem grounded member verifies
  obtain ⟨signing, signingMember, expiresIn, signs, fresh⟩ := exists_signed grounded
    receivedMember receives (.head _) valid
  exact ⟨signing, signingMember, token, expiresIn, signs, fresh⟩

/-- A visit signs nothing. -/
theorem visit_not_signs (grounded : SessionLog config participants patience log)
    {signing : SessionEntry ι} (member : signing ∈ log) {payload : JwtPayload}
    {secret : String} {expiresIn : Nat} {token : Except SessionError Jwt}
    (signs : signing.exchange = ⟨SessionCall.sign payload secret expiresIn, token⟩) :
    participants signing.thread ≠ .visit := by
  intro visits
  obtain ⟨before, after, split, ⟨-, asks⟩, -⟩ := grounded.exists_permitted member
  rw [sessionPrograms, visits, signs] at asks
  rcases visit_asks asks with ⟨-, ⟨⟩⟩ | ⟨_, -, ⟨⟩⟩

/-- Where the secrets differ, what is signed with the refresh secret has been signed by a
login. -/
theorem refreshToken_signed (distinct : config.accessSecret ≠ config.refreshSecret)
    (grounded : SessionLog config participants patience log)
    {signing : SessionEntry ι} (member : signing ∈ log) {payload : JwtPayload}
    {expiresIn : Nat} {token : Except SessionError Jwt}
    (signs : signing.exchange =
      ⟨SessionCall.sign payload config.refreshSecret expiresIn, token⟩) :
    ∃ login ∈ log, ∃ user, LoggedIn participants log login user ∧ user.id = payload.sub ∧
      expiresIn = config.refreshExpiresIn ∧
      signing.circumstances.time ≤ login.circumstances.time + patience := by
  cases participant : participants signing.thread with
  | login email password =>
      obtain ⟨user, organization, -, ⟨login, loginMember, loggedIn, time⟩,
        ⟨-, same, -⟩ | ⟨rfl, -, duration⟩⟩ := login_signed grounded member participant signs
      · exact absurd same.symm distinct
      · exact ⟨login, loginMember, user, loggedIn, rfl, duration, time⟩
  | refresh =>
      obtain ⟨user, organization, -, -, same, -⟩ :=
        refresh_signed grounded member participant signs
      exact absurd same.symm distinct
  | visit => exact absurd participant (visit_not_signs grounded member signs)

/-- What is signed with the access secret says what the tables have held, and goes back to
a login. -/
theorem accessToken_signed (distinct : config.accessSecret ≠ config.refreshSecret)
    (grounded : SessionLog config participants patience log)
    {signing : SessionEntry ι} (member : signing ∈ log) {payload : JwtPayload}
    {expiresIn : Nat} {token : Except SessionError Jwt}
    (signs : signing.exchange =
      ⟨SessionCall.sign payload config.accessSecret expiresIn, token⟩) :
    expiresIn = config.accessExpiresIn ∧
      (∃ user organization, payload = accessPayload user organization.name ∧
        HeldWithin log signing.circumstances.time patience user organization) ∧
      ∃ login ∈ log, ∃ user, LoggedIn participants log login user ∧ user.id = payload.sub ∧
        signing.circumstances.time ≤
          login.circumstances.time + (config.refreshExpiresIn + 2 * patience) := by
  cases participant : participants signing.thread with
  | login email password =>
      obtain ⟨user, organization, held, ⟨login, loginMember, loggedIn, time⟩,
        ⟨rfl, -, duration⟩ | ⟨-, same, -⟩⟩ := login_signed grounded member participant signs
      · refine ⟨duration, ⟨user, organization, rfl, held⟩, login, loginMember, user, loggedIn,
          rfl, ?_⟩
        omega
      · exact absurd same distinct
  | refresh =>
      obtain ⟨user, organization, held, rfl, -, duration, issuing, issuingMember, old,
        oldToken, oldExpiresIn, issues, sameUser, time⟩ :=
          refresh_signed grounded member participant signs
      obtain ⟨login, loginMember, owner, loggedIn, ofOwner, rfl, loginTime⟩ :=
        refreshToken_signed distinct grounded issuingMember issues
      refine ⟨duration, ⟨user, organization, rfl, held⟩, login, loginMember, owner, loggedIn,
        ofOwner.trans sameUser, ?_⟩
      omega
  | visit => exact absurd participant (visit_not_signs grounded member signs)

/-- With two secrets every session ends. -/
theorem sessionsEnd_of_distinct (distinct : config.accessSecret ≠ config.refreshSecret)
    (grounded : SessionLog config participants patience log) :
    SessionsEnd participants
      (config.refreshExpiresIn + config.accessExpiresIn + 2 * patience) log := by
  intro entry member payload letIn
  obtain ⟨signing, signingMember, token, expiresIn, signs, fresh⟩ :=
    visit_signed grounded member letIn
  obtain ⟨rfl, -, login, loginMember, user, loggedIn, ofUser, time⟩ :=
    accessToken_signed distinct grounded signingMember signs
  refine ⟨login, loginMember, user, loggedIn, ofUser, ?_⟩
  omega

/-- And the claims of its tokens were stored not long before. -/
theorem claimsStored_of_distinct (distinct : config.accessSecret ≠ config.refreshSecret)
    (grounded : SessionLog config participants patience log) :
    ClaimsStored participants (config.accessExpiresIn + patience) log := by
  intro entry member payload letIn
  obtain ⟨signing, signingMember, token, expiresIn, signs, fresh⟩ :=
    visit_signed grounded member letIn
  obtain ⟨rfl, ⟨user, organization, describes, ofUser, ⟨read, readMember, stored, readTime⟩,
    named, namedMember, held, namedTime⟩, -⟩ :=
      accessToken_signed distinct grounded signingMember signs
  refine ⟨user, organization, describes, ofUser, ⟨read, readMember, stored, ?_⟩,
    named, namedMember, held, ?_⟩
  · omega
  · omega

end Origins

/-! ### One secret for both tokens -/

section OneSecret

variable {participants : ℕ → SessionRequest} {patience : ℕ} {log : List (SessionEntry ℕ)}

/-- A token that was presented stays presented. -/
theorem Presented.append {token : Jwt} (presented : Presented config log token)
    (more : List (SessionEntry ℕ)) : Presented config (log ++ more) token := by
  rcases presented with foreign | ⟨entry, member, signs⟩
  · exact .inl foreign
  · exact .inr ⟨entry, List.mem_append_left _ member, signs⟩

variable {config}

/-- A request that has not begun may be made at one moment, with a token from before. -/
theorem SessionLog.part (grounded : SessionLog config participants patience log)
    {thread : ℕ} {circumstances : Circumstances}
    (earlier : ∀ entry ∈ log, entry.thread < thread ∧
      entry.circumstances.time ≤ circumstances.time)
    {trace : List (Exchange SessionCalls SessionError)}
    (leads : ∃ here, (sessionPrograms config participants thread).Leads trace here)
    (replies : ∀ exchange ∈ trace, sessionReplies circumstances exchange.1 exchange.2)
    (presented : ∀ token, ⟨SessionCall.receive, .ok token⟩ ∈ trace →
      Presented config log token) :
    SessionLog config participants patience (log ++ part thread circumstances trace) := by
  obtain ⟨here, leads⟩ := leads
  have silent : ∀ entry ∈ log, entry.thread ≠ thread :=
    fun entry member => Nat.ne_of_lt (earlier entry member).1
  apply Grounded.part grounded silent circumstances leads
  intro front exchange back split
  have member : exchange ∈ trace := by
    rw [split]
    exact List.mem_append_right _ (.head _)
  constructor
  · exact Punctual.part patience silent (fun entry inLog => (earlier entry inLog).2) front
      exchange
  · exact replies exchange member
  · intro token receives
    apply Presented.append
    apply presented
    rw [← show exchange = ⟨SessionCall.receive, .ok token⟩ from receives]
    exact member

end OneSecret

/-- The user whose session does not end. -/
def lastingUser : User :=
  { id := 1
    orgId := 2
    email := "admin@example.com"
    passwordHash := "hash"
    role := .admin }

def lastingOrganization : Organization := { id := 2, name := "Acme" }

def lastingMoment (time : ℕ) : Circumstances :=
  { time := time
    accounts :=
      { users := Table.single lastingUser
        organizations := Table.single lastingOrganization } }

/-- One login, this many refreshes, and a request. -/
def lastingRequests (refreshes : ℕ) : ℕ → SessionRequest
  | 0 => .login lastingUser.email "password"
  | thread + 1 => if thread < refreshes then .refresh else .visit

def lastingPayload : JwtPayload := accessPayload lastingUser lastingOrganization.name

def lastingToken (time : ℕ) : Jwt :=
  .signed lastingPayload config.accessSecret time (time + config.accessExpiresIn)

/-- The access token is signed. -/
def lastingSign (time : ℕ) : Exchange SessionCalls SessionError :=
  ⟨SessionCall.sign lastingPayload config.accessSecret config.accessExpiresIn,
    .ok (lastingToken config time)⟩

def lastingLogin : List (Exchange SessionCalls SessionError) :=
  loginTrace lastingUser.email "password" lastingUser lastingOrganization ++
    [lastingSign config 0]

def lastingRefresh (time : ℕ) : List (Exchange SessionCalls SessionError) :=
  refreshTrace config (lastingToken config time) lastingPayload lastingUser
    lastingOrganization ++ [lastingSign config (time + 1)]

/-- A login, and a refresh each second, with the access token of the one before. -/
def lastingLog : ℕ → List (SessionEntry ℕ)
  | 0 => part 0 (lastingMoment 0) (lastingLogin config)
  | time + 1 => lastingLog time ++
      part (time + 1) (lastingMoment (time + 1)) (lastingRefresh config time)

section Lasting

variable {config}

/-- In the lasting log each request is answered at its own time. -/
theorem lastingLog_times {time : ℕ} :
    ∀ entry ∈ lastingLog config time,
      entry.thread ≤ time ∧ entry.circumstances.time = entry.thread := by
  induction time with
  | zero =>
      intro entry member
      obtain ⟨_, -, rfl⟩ := List.mem_map.mp member
      exact ⟨Nat.le_refl _, rfl⟩
  | succ time inductionHypothesis =>
      intro entry member
      rcases List.mem_append.mp member with old | new
      · obtain ⟨thread, same⟩ := inductionHypothesis entry old
        exact ⟨Nat.le_succ_of_le thread, same⟩
      · obtain ⟨_, -, rfl⟩ := List.mem_map.mp new
        exact ⟨Nat.le_refl _, rfl⟩

/-- It goes on presenting a token. -/
theorem lastingLog_presented (time : ℕ) :
    Presented config (lastingLog config time) (lastingToken config time) := by
  refine .inr ⟨⟨time, lastingMoment time, lastingSign config time⟩, ?_,
    lastingPayload, config.accessSecret, config.accessExpiresIn, rfl⟩
  cases time with
  | zero =>
      apply List.mem_map_of_mem
      exact List.mem_append_right _ (List.mem_singleton_self _)
  | succ time =>
      apply List.mem_append_right
      apply List.mem_map_of_mem
      exact List.mem_append_right _ (List.mem_singleton_self _)

/-- With one secret it is a log of the service. -/
theorem lastingLog_grounded (same : config.accessSecret = config.refreshSecret)
    (long : 2 ≤ config.accessExpiresIn) (patience : ℕ) {refreshes time : ℕ}
    (few : time ≤ refreshes) :
    SessionLog config (lastingRequests refreshes) patience (lastingLog config time) := by
  induction time with
  | zero =>
      show SessionLog config _ patience
        ([] ++ part 0 (lastingMoment 0) (lastingLogin config))
      apply SessionLog.part Grounded.empty
      · intro entry member
        cases member
      · exact ⟨_, _, rfl, _, rfl, _, rfl, _, rfl, rfl⟩
      · intro exchange member
        simp only [lastingLogin, loginTrace, List.cons_append, List.nil_append,
          List.mem_cons, List.not_mem_nil, or_false] at member
        rcases member with rfl | rfl | rfl | rfl
        · exact rfl
        · trivial
        · exact rfl
        · exact rfl
      · intro token member
        simp [lastingLogin, loginTrace, lastingSign] at member
  | succ time inductionHypothesis =>
      apply SessionLog.part (inductionHypothesis (Nat.le_of_succ_le few))
      · intro entry member
        obtain ⟨thread, same⟩ := lastingLog_times entry member
        rw [same]
        exact ⟨Nat.lt_succ_of_le thread, Nat.le_succ_of_le thread⟩
      · have refreshing : sessionPrograms config (lastingRequests refreshes) (time + 1) =
            SessionRequest.refresh.program config :=
          congrArg (SessionRequest.program config) (if_pos (Nat.lt_of_succ_le few))
        rw [refreshing]
        exact ⟨_, _, rfl, _, rfl, _, rfl, _, rfl, _, rfl, rfl⟩
      · have valid : (lastingToken config time).verify config.refreshSecret (time + 1) =
            some lastingPayload := by
          rw [Jwt.verify_eq_some, ← same]
          exact ⟨_, _, rfl, Nat.add_lt_add_left long time⟩
        intro exchange member
        simp only [lastingRefresh, refreshTrace, List.cons_append, List.nil_append,
          List.mem_cons, List.not_mem_nil, or_false] at member
        rcases member with rfl | rfl | rfl | rfl | rfl
        · trivial
        · exact valid
        · exact rfl
        · exact rfl
        · exact rfl
      · intro token member
        simp [lastingRefresh, refreshTrace, lastingSign] at member
        cases member
        exact lastingLog_presented time

/-- With one secret for both, no bound holds. -/
theorem lasting_not_sessionsEnd (same : config.accessSecret = config.refreshSecret)
    (long : 2 ≤ config.accessExpiresIn) (patience bound : ℕ) :
    ∃ log : List (SessionEntry ℕ),
      SessionLog config (lastingRequests bound) patience log ∧
        ¬ SessionsEnd (lastingRequests bound) bound log := by
  let visit : List (Exchange SessionCalls SessionError) :=
    [⟨SessionCall.receive, .ok (lastingToken config bound)⟩,
      ⟨SessionCall.verify (lastingToken config bound) config.accessSecret,
        .ok lastingPayload⟩]
  have visits : lastingRequests bound (bound + 1) = .visit :=
    if_neg (Nat.lt_irrefl bound)
  refine ⟨lastingLog config bound ++ part (bound + 1) (lastingMoment bound) visit, ?_, ?_⟩
  · apply SessionLog.part (lastingLog_grounded same long patience (Nat.le_refl bound))
    · intro entry member
      obtain ⟨thread, same⟩ := lastingLog_times entry member
      rw [same]
      exact ⟨Nat.lt_succ_of_le thread, thread⟩
    · unfold sessionPrograms
      rw [visits]
      exact ⟨_, _, rfl, _, rfl, rfl⟩
    · have valid : (lastingToken config bound).verify config.accessSecret bound =
          some lastingPayload := by
        rw [Jwt.verify_eq_some]
        exact ⟨_, _, rfl, Nat.lt_add_of_pos_right (Nat.lt_of_lt_of_le Nat.two_pos long)⟩
      intro exchange member
      simp only [visit, List.mem_cons, List.not_mem_nil, or_false] at member
      rcases member with rfl | rfl
      · trivial
      · exact valid
    · intro token member
      simp [visit] at member
      cases member
      exact lastingLog_presented bound
  · intro ends
    obtain ⟨login, member, user, ⟨⟨password, logsIn, -⟩, -⟩, -, time⟩ := ends
      ⟨bound + 1, lastingMoment bound, _⟩
      (List.mem_append_right _ (List.mem_map_of_mem (.tail _ (.head _)))) lastingPayload
      ⟨visits, _, _, rfl⟩
    have first : login.thread = 0 := by
      generalize login.thread = thread at logsIn
      cases thread with
      | zero => rfl
      | succ thread =>
          change (if thread < bound then SessionRequest.refresh else .visit) = _ at logsIn
          split at logsIn <;> cases logsIn
    rcases List.mem_append.mp member with old | new
    · rw [(lastingLog_times login old).2, first, Nat.zero_add] at time
      exact Nat.lt_irrefl bound time
    · obtain ⟨_, -, rfl⟩ := List.mem_map.mp new
      cases first

end Lasting

/-! ### How long a session lasts -/

/-- The logs are those of the pool. -/
theorem reaches_sessionLog {config : SessionConfig} {participants : ℕ → SessionRequest}
    {patience : ℕ} {log : List (SessionEntry ℕ)} :
    (∃ pool, Pool.Reaches (sessionAnswers config patience ℕ)
        (sessionPool config participants) pool ∧ pool.store = log) ↔
      SessionLog config participants patience log :=
  reaches_chronicle

/-- Whether sessions end depends on the two secrets: if they differ, every request that is
let in goes back to a login of its user within the lifetimes of both tokens and twice the
time a request is in flight, and is let in with claims that the tables have held within
that of an access token; if they are one, access tokens that live two seconds or more
refresh themselves for ever. -/
theorem sessions_end_iff (config : SessionConfig) (patience : ℕ) :
    (2 ≤ config.accessExpiresIn →
      ((∃ bound, ∀ (participants : ℕ → SessionRequest) pool,
          Pool.Reaches (sessionAnswers config patience ℕ) (sessionPool config participants)
              pool →
            SessionsEnd participants bound pool.store) ↔
        config.accessSecret ≠ config.refreshSecret)) ∧
    (config.accessSecret ≠ config.refreshSecret →
      ∀ (participants : ℕ → SessionRequest) pool,
        Pool.Reaches (sessionAnswers config patience ℕ) (sessionPool config participants)
            pool →
          SessionsEnd participants
              (config.refreshExpiresIn + config.accessExpiresIn + 2 * patience) pool.store ∧
            ClaimsStored participants (config.accessExpiresIn + patience) pool.store) := by
  have bounded : config.accessSecret ≠ config.refreshSecret →
      ∀ (participants : ℕ → SessionRequest) pool,
        Pool.Reaches (sessionAnswers config patience ℕ) (sessionPool config participants)
            pool →
          SessionsEnd participants
              (config.refreshExpiresIn + config.accessExpiresIn + 2 * patience) pool.store ∧
            ClaimsStored participants (config.accessExpiresIn + patience) pool.store := by
    intro distinct participants pool reaches
    have grounded := reaches_sessionLog.mp ⟨pool, reaches, rfl⟩
    exact ⟨sessionsEnd_of_distinct distinct grounded,
      claimsStored_of_distinct distinct grounded⟩
  refine ⟨fun long => ⟨?_, ?_⟩, bounded⟩
  · rintro ⟨bound, ends⟩ same
    obtain ⟨log, grounded, unbounded⟩ := lasting_not_sessionsEnd same long patience bound
    obtain ⟨pool, reaches, rfl⟩ := reaches_sessionLog.mpr grounded
    exact unbounded (ends _ pool reaches)
  · intro distinct
    exact ⟨_, fun participants pool reaches => (bounded distinct participants pool reaches).1⟩

/-- A quarter of an hour, a week, and requests of a minute at most. -/
def usualConfig (accessSecret refreshSecret : String) : SessionConfig :=
  { accessSecret := accessSecret
    accessExpiresIn := 900
    refreshSecret := refreshSecret
    refreshExpiresIn := 604800 }

theorem sessions_end_iff_usual :
    (¬ ∃ bound, ∀ (participants : ℕ → SessionRequest) pool,
      Pool.Reaches (sessionAnswers (usualConfig "0123456789abcdef" "0123456789abcdef") 60 ℕ)
          (sessionPool (usualConfig "0123456789abcdef" "0123456789abcdef") participants)
          pool →
        SessionsEnd participants bound pool.store) ∧
    ∀ (participants : ℕ → SessionRequest) pool,
      Pool.Reaches (sessionAnswers (usualConfig "0123456789abcdef" "fedcba9876543210") 60 ℕ)
          (sessionPool (usualConfig "0123456789abcdef" "fedcba9876543210") participants)
          pool →
        SessionsEnd participants 605820 pool.store := by
  have one := sessions_end_iff (usualConfig "0123456789abcdef" "0123456789abcdef") 60
  have two := sessions_end_iff (usualConfig "0123456789abcdef" "fedcba9876543210") 60
  constructor
  · rw [one.1 (by decide)]
    intro distinct
    exact distinct rfl
  · intro participants pool reaches
    exact (two.2 (by decide) participants pool reaches).1

end ServersManager
