/-
Module: ServersManager.ApiClient
Purpose: The request helper of the browser client, which refreshes an expired access
  token once for all requests that wait for it.
Trusted boundary: human-reviewed event loop of the browser
Main exports:
  Client, Client.step, Event, Coalesced, refresh_coalesced
-/
import Mathlib.Data.List.Basic
import Mathlib.Data.List.Nodup
import Mathlib.Logic.Function.Basic
import Mathlib.Logic.Relation
import ServersManager.Library.Trace

namespace ServersManager

open Library

/-!
Each event is a task of the browser: an answer arrives, or the page makes a request.
The promise reactions that it sets off run before the next event, in the order in
which they were registered.  A request is made once; `ι` names the requests.  Tokens are
of any type, a truthy one being a string that is not empty.
-/

/-! ### `lib/apiClient.ts` -/

structure Tokens (τ : Type) where
  accessToken : Option τ
  refreshToken : Option τ
deriving Repr, Inhabited, DecidableEq

/-- What `configureApiClient` has been called with, over a store of both tokens. -/
structure TokenAccessors (τ : Type) where
  truthy : τ → Bool
  onAuthExpired : Tokens τ → Tokens τ

/-- One promise of `refreshAccessToken`: the token it has sent, whether its answer is
being read, and who awaits it. -/
inductive RefreshCall (ι τ : Type) where
  | unborn
  | pending (refreshToken : τ) (reading : Bool) (waiters : List ι)
  | settled (result : Option τ)

inductive RequestOutcome where
  | response (status : Nat)
  | sessionExpired
  | failed
deriving Repr, Inhabited, DecidableEq

inductive RequestState where
  | unsent
  | sent (skipAuth : Bool)
  | waiting (refresh : Nat)
  | retried
  | done (outcome : RequestOutcome)
deriving Repr, Inhabited, DecidableEq

/-- What the client does to the outside. -/
inductive Effect (ι τ : Type) where
  | fetched (request : ι) (authorization : Option τ)
  | awaited (request : ι) (refresh : Nat)
  | refreshStarted (refresh : Nat)
  | refreshSettled (refresh : Nat) (result : Option τ)
  | expired (request : ι)

structure Client (ι τ : Type) where
  tokens : Tokens τ
  refreshPromise : Option Nat
  refreshes : Nat → RefreshCall ι τ
  created : Nat
  requests : ι → RequestState
  effects : List (Effect ι τ)

inductive Event (ι τ : Type) where
  | request (request : ι) (skipAuth : Bool)
  | response (request : ι) (status : Nat)
  | networkError (request : ι)
  | refreshResponse (refresh : Nat) (ok : Bool)
  | refreshBody (refresh : Nat) (accessToken : Option τ)
  | refreshError (refresh : Nat)

namespace Client

variable {ι τ : Type} [DecidableEq ι]

def start (tokens : Tokens τ) : Client ι τ where
  tokens := tokens
  refreshPromise := none
  refreshes _ := .unborn
  created := 0
  requests _ := .unsent
  effects := []

def emit (client : Client ι τ) (effect : Effect ι τ) : Client ι τ :=
  { client with effects := client.effects ++ [effect] }

def setRequest (client : Client ι τ) (request : ι) (state : RequestState) : Client ι τ :=
  { client with requests := Function.update client.requests request state }

def setRefresh (client : Client ι τ) (refresh : Nat) (call : RefreshCall ι τ) : Client ι τ :=
  { client with refreshes := Function.update client.refreshes refresh call }

def setAccessToken (client : Client ι τ) (token : Option τ) : Client ι τ :=
  { client with tokens := { client.tokens with accessToken := token } }

omit [DecidableEq ι] in
@[simp] theorem emit_effects (client : Client ι τ) (effect : Effect ι τ) :
    (client.emit effect).effects = client.effects ++ [effect] := rfl

@[simp] theorem setRequest_effects (client : Client ι τ) (request : ι)
    (state : RequestState) : (client.setRequest request state).effects = client.effects := rfl

@[simp] theorem setRequest_self (client : Client ι τ) (request : ι) (state : RequestState) :
    (client.setRequest request state).requests request = state :=
  Function.update_self _ _ _

theorem setRequest_of_ne (client : Client ι τ) {request other : ι} (differs : other ≠ request)
    (state : RequestState) :
    (client.setRequest request state).requests other = client.requests other :=
  Function.update_of_ne differs _ _

variable (accessors : TokenAccessors τ)

/-- The `Authorization` header of a request that is sent now. -/
def authorization (client : Client ι τ) (skipAuth : Bool) : Option τ :=
  if skipAuth then none else client.tokens.accessToken.filter accessors.truthy

/-- `doFetch`; the request goes on in this state. -/
def doFetch (client : Client ι τ) (request : ι) (skipAuth : Bool) (next : RequestState) :
    Client ι τ :=
  (client.emit (.fetched request (client.authorization accessors skipAuth))).setRequest
    request next

/-- `onAuthExpired`, and the request throws. -/
def expire (client : Client ι τ) (request : ι) : Client ι τ :=
  let notified := client.emit (.expired request)
  { notified with tokens := accessors.onAuthExpired client.tokens }.setRequest request
    (.done .sessionExpired)

/-- What a request does with the token it has waited for. -/
def resume (result : Option τ) (client : Client ι τ) (request : ι) : Client ι τ :=
  match result.filter accessors.truthy with
  | some _ => client.doFetch accessors request false .retried
  | none => client.expire accessors request

/-- The promise settles: it is no longer the one to wait for, and its waiters go on. -/
def settle (client : Client ι τ) (refresh : Nat) (waiters : List ι) (result : Option τ) :
    Client ι τ :=
  let settled := (client.setRefresh refresh (.settled result)).emit
    (.refreshSettled refresh result)
  waiters.foldl (resume accessors result) { settled with refreshPromise := none }

/-- The promise that a request has to wait for: the one in flight, or a new one. -/
def joinRefresh (client : Client ι τ) (refreshToken : τ) : Client ι τ × Nat :=
  match client.refreshPromise with
  | some refresh => (client, refresh)
  | none =>
      let started := (client.setRefresh client.created (.pending refreshToken false [])).emit
        (.refreshStarted client.created)
      ({ started with
        refreshPromise := some client.created
        created := client.created + 1 }, client.created)

/-- A request awaits a promise. -/
def await (client : Client ι τ) (request : ι) (refresh : Nat) : Client ι τ :=
  match client.refreshes refresh with
  | .pending refreshToken reading waiters =>
      ((client.setRefresh refresh (.pending refreshToken reading (waiters ++ [request]))).emit
        (.awaited request refresh)).setRequest request (.waiting refresh)
  | .settled result => resume accessors result (client.emit (.awaited request refresh)) request
  | .unborn => client

/-- `await refreshAccessToken()`, and what follows. -/
def refreshAccessToken (client : Client ι τ) (request : ι) : Client ι τ :=
  match client.tokens.refreshToken.filter accessors.truthy with
  | none => client.expire accessors request
  | some refreshToken =>
      let joined := client.joinRefresh refreshToken
      joined.1.await accessors request joined.2

def step (client : Client ι τ) : Event ι τ → Option (Client ι τ)
  | .request request skipAuth =>
      match client.requests request with
      | .unsent => some (client.doFetch accessors request skipAuth (.sent skipAuth))
      | _ => none
  | .response request status =>
      match client.requests request with
      | .sent skipAuth =>
          if status = 401 ∧ skipAuth = false then
            some (client.refreshAccessToken accessors request)
          else some (client.setRequest request (.done (.response status)))
      | .retried => some (client.setRequest request (.done (.response status)))
      | _ => none
  | .networkError request =>
      match client.requests request with
      | .sent _ | .retried => some (client.setRequest request (.done .failed))
      | _ => none
  | .refreshResponse refresh ok =>
      match client.refreshes refresh with
      | .pending refreshToken false waiters =>
          if ok then
            some (client.setRefresh refresh (.pending refreshToken true waiters))
          else some (client.settle accessors refresh waiters none)
      | _ => none
  | .refreshBody refresh accessToken =>
      match client.refreshes refresh with
      | .pending _ true waiters =>
          some ((client.setAccessToken accessToken).settle accessors refresh waiters
            accessToken)
      | _ => none
  | .refreshError refresh =>
      match client.refreshes refresh with
      | .pending _ _ waiters => some (client.settle accessors refresh waiters none)
      | _ => none

end Client

/-! ### What the effects of a run have to satisfy -/

section Effects

variable {ι τ : Type} [DecidableEq ι]

/-- The request that an effect is about. -/
def Effect.owner : Effect ι τ → Option ι
  | .fetched request _ | .awaited request _ | .expired request => some request
  | _ => none

def Effect.isFetch (request : ι) : Effect ι τ → Bool
  | .fetched other _ => other = request
  | _ => false

def Effect.isWait (request : ι) : Effect ι τ → Bool
  | .awaited other _ => other = request
  | _ => false

/-- A call to `/auth/refresh` that has not been answered in full. -/
def Outstanding (effects : List (Effect ι τ)) (refresh : Nat) : Prop :=
  .refreshStarted refresh ∈ effects ∧ ∀ result, .refreshSettled refresh result ∉ effects

/-- A request fetches again, with the token of the refresh it has awaited, only if that
refresh has brought one; it is told of its expiry only if it has not. -/
def EffectPermitted (accessors : TokenAccessors τ) (before : List (Effect ι τ)) :
    Effect ι τ → Prop
  | .fetched request authorization =>
      (∃ first, .fetched request first ∈ before) →
        ∃ refresh token, .awaited request refresh ∈ before ∧
          .refreshSettled refresh (some token) ∈ before ∧
          accessors.truthy token = true ∧ authorization = some token
  | .expired request =>
      ∃ refresh result, .awaited request refresh ∈ before ∧
        .refreshSettled refresh result ∈ before ∧ result.filter accessors.truthy = none
  | _ => True

structure Coalesced (accessors : TokenAccessors τ) (effects : List (Effect ι τ)) :
    Prop where
  outstanding : ∀ refresh other, Outstanding effects refresh → Outstanding effects other →
    refresh = other
  fetches : ∀ request, effects.countP (Effect.isFetch request) ≤ 2
  waits : ∀ request, effects.countP (Effect.isWait request) ≤ 1
  grounded : Grounded (EffectPermitted accessors) effects

/-! ### The invariant -/

/-- The promise has not settled. -/
def RefreshCall.IsPending (call : RefreshCall ι τ) : Prop :=
  ∃ refreshToken reading waiters, call = .pending refreshToken reading waiters

/-- What a request has done so far. -/
def Progress (effects : List (Effect ι τ)) (request : ι) : RequestState → Prop
  | .unsent => effects.countP (Effect.isFetch request) = 0 ∧
      effects.countP (Effect.isWait request) = 0
  | .sent _ => effects.countP (Effect.isFetch request) = 1 ∧
      effects.countP (Effect.isWait request) = 0
  | .waiting refresh => effects.countP (Effect.isFetch request) = 1 ∧
      effects.countP (Effect.isWait request) = 1 ∧ .awaited request refresh ∈ effects
  | .retried | .done _ => effects.countP (Effect.isFetch request) ≤ 2 ∧
      effects.countP (Effect.isWait request) ≤ 1

structure Consistent (accessors : TokenAccessors τ) (client : Client ι τ) : Prop where
  promise : ∀ refresh, client.refreshPromise = some refresh ↔
    (client.refreshes refresh).IsPending
  fresh : ∀ refresh, client.created ≤ refresh → client.refreshes refresh = .unborn
  started : ∀ refresh, .refreshStarted refresh ∈ client.effects ↔
    client.refreshes refresh ≠ .unborn
  settled : ∀ refresh result, .refreshSettled refresh result ∈ client.effects ↔
    client.refreshes refresh = .settled result
  waiters : ∀ refresh refreshToken reading waiters,
    client.refreshes refresh = .pending refreshToken reading waiters →
      waiters.Nodup ∧ ∀ request ∈ waiters, client.requests request = .waiting refresh
  progress : ∀ request, Progress client.effects request (client.requests request)
  grounded : Grounded (EffectPermitted accessors) client.effects

theorem Progress.counts {effects : List (Effect ι τ)} {request : ι} {state : RequestState}
    (progress : Progress effects request state) :
    effects.countP (Effect.isFetch request) ≤ 2 ∧
      effects.countP (Effect.isWait request) ≤ 1 := by
  cases state with
  | unsent => exact ⟨by rw [progress.1]; decide, by rw [progress.2]; decide⟩
  | sent skipAuth => exact ⟨by rw [progress.1]; decide, by rw [progress.2]; decide⟩
  | waiting refresh => exact ⟨by rw [progress.1]; decide, Nat.le_of_eq progress.2.1⟩
  | retried => exact progress
  | done outcome => exact progress

/-- An effect that is not about a request leaves its progress as it is. -/
theorem Progress.emit {effects : List (Effect ι τ)} {request : ι} {state : RequestState}
    (progress : Progress effects request state) {effect : Effect ι τ}
    (other : effect.owner ≠ some request) : Progress (effects ++ [effect]) request state := by
  have fetch : effect.isFetch request = false := by
    cases effect with
    | fetched owner authorization =>
        exact decide_eq_false fun same => other (congrArg some same)
    | _ => rfl
  have wait : effect.isWait request = false := by
    cases effect with
    | awaited owner refresh => exact decide_eq_false fun same => other (congrArg some same)
    | _ => rfl
  have sameFetches : (effects ++ [effect]).countP (Effect.isFetch request) =
      effects.countP (Effect.isFetch request) := by
    rw [List.countP_append, List.countP_singleton, fetch]
    rfl
  have sameWaits : (effects ++ [effect]).countP (Effect.isWait request) =
      effects.countP (Effect.isWait request) := by
    rw [List.countP_append, List.countP_singleton, wait]
    rfl
  unfold Progress
  rw [sameFetches, sameWaits]
  cases state with
  | waiting refresh => exact ⟨progress.1, progress.2.1, List.mem_append_left _ progress.2.2⟩
  | _ => exact progress

/-! ### Single steps -/

section Steps

variable {accessors : TokenAccessors τ} {client : Client ι τ}

theorem start_consistent (accessors : TokenAccessors τ) (tokens : Tokens τ) :
    Consistent accessors (Client.start (ι := ι) tokens) where
  promise refresh := by
    refine iff_of_false nofun ?_
    rintro ⟨refreshToken, reading, waiters, absurd⟩
    cases absurd
  fresh refresh _ := rfl
  started refresh := iff_of_false (List.not_mem_nil) (fun born => born rfl)
  settled refresh result := iff_of_false (List.not_mem_nil) nofun
  waiters refresh refreshToken reading waiters absurd := by cases absurd
  progress request := ⟨rfl, rfl⟩
  grounded := .empty

/-- The tokens are nobody's business. -/
theorem Consistent.withTokens (consistent : Consistent accessors client) (tokens : Tokens τ) :
    Consistent accessors { client with tokens := tokens } :=
  { consistent with }

/-- No promise in flight is awaited by this request. -/
def Unawaited (client : Client ι τ) (request : ι) : Prop :=
  ∀ refresh, client.requests request = .waiting refresh →
    ¬ (client.refreshes refresh).IsPending

theorem Consistent.waiters_setRequest (consistent : Consistent accessors client)
    {request : ι} (unawaited : Unawaited client request) {state : RequestState}
    {refresh : Nat} {refreshToken : τ} {reading : Bool} {waiters : List ι}
    (pending : client.refreshes refresh = .pending refreshToken reading waiters) :
    waiters.Nodup ∧ ∀ waiter ∈ waiters,
      (client.setRequest request state).requests waiter = .waiting refresh := by
  obtain ⟨distinct, waiting⟩ := consistent.waiters _ _ _ _ pending
  refine ⟨distinct, fun waiter member => ?_⟩
  rw [Client.setRequest_of_ne]
  · exact waiting waiter member
  · rintro rfl
    exact unawaited refresh (waiting waiter member) ⟨_, _, _, pending⟩

/-- A request changes its state without an effect. -/
theorem Consistent.setRequest (consistent : Consistent accessors client) {request : ι}
    (unawaited : Unawaited client request) {state : RequestState}
    (progress : Progress client.effects request state) :
    Consistent accessors (client.setRequest request state) where
  promise := consistent.promise
  fresh := consistent.fresh
  started := consistent.started
  settled := consistent.settled
  waiters _ _ _ _ pending := consistent.waiters_setRequest unawaited pending
  progress other := by
    by_cases same : other = request
    · subst same
      rw [Client.setRequest_self]
      exact progress
    · rw [Client.setRequest_of_ne _ same]
      exact consistent.progress other
  grounded := consistent.grounded

/-- A request that waits for nothing ends. -/
theorem Consistent.finish (consistent : Consistent accessors client) {request : ι}
    (elsewhere : ∀ refresh, client.requests request ≠ .waiting refresh)
    (outcome : RequestOutcome) :
    Consistent accessors (client.setRequest request (.done outcome)) :=
  consistent.setRequest (fun refresh waiting => (elsewhere refresh waiting).elim)
    (consistent.progress request).counts

/-- A request has an effect and changes its state. -/
theorem Consistent.advance (consistent : Consistent accessors client) {request : ι}
    (unawaited : Unawaited client request) {state : RequestState} {effect : Effect ι τ}
    (owner : effect.owner = some request)
    (permitted : EffectPermitted accessors client.effects effect)
    (progress : Progress (client.effects ++ [effect]) request state) :
    Consistent accessors ((client.emit effect).setRequest request state) where
  promise := consistent.promise
  fresh := consistent.fresh
  started refresh := by
    refine Iff.trans ?_ (consistent.started refresh)
    simp only [Client.setRequest_effects, Client.emit_effects, List.mem_append,
      List.mem_singleton]
    refine or_iff_left ?_
    rintro rfl
    cases owner
  settled refresh result := by
    refine Iff.trans ?_ (consistent.settled refresh result)
    simp only [Client.setRequest_effects, Client.emit_effects, List.mem_append,
      List.mem_singleton]
    refine or_iff_left ?_
    rintro rfl
    cases owner
  waiters _ _ _ _ pending := consistent.waiters_setRequest unawaited pending
  progress other := by
    by_cases same : other = request
    · subst same
      rw [Client.setRequest_self]
      exact progress
    · rw [Client.setRequest_of_ne _ same]
      refine (consistent.progress other).emit ?_
      rw [owner]
      exact fun eq => same (Option.some.inj eq).symm
  grounded := consistent.grounded.append permitted

/-- The counts of a request after an effect of its own. -/
theorem countP_emit (effects : List (Effect ι τ)) (effect : Effect ι τ) (request : ι) :
    (effects ++ [effect]).countP (Effect.isFetch request) =
        effects.countP (Effect.isFetch request) + (effect.isFetch request).toNat ∧
      (effects ++ [effect]).countP (Effect.isWait request) =
        effects.countP (Effect.isWait request) + (effect.isWait request).toNat := by
  rw [List.countP_append, List.countP_append, List.countP_singleton, List.countP_singleton]
  constructor
  · cases effect.isFetch request <;> rfl
  · cases effect.isWait request <;> rfl

/-- A request is sent for the first time. -/
theorem Consistent.request (consistent : Consistent accessors client) {request : ι}
    (unsent : client.requests request = .unsent) (skipAuth : Bool) :
    Consistent accessors (client.doFetch accessors request skipAuth (.sent skipAuth)) := by
  have progress := consistent.progress request
  rw [unsent] at progress
  apply consistent.advance
  · intro refresh waiting
    rw [unsent] at waiting
    cases waiting
  · rfl
  · rintro ⟨first, member⟩
    have none := List.countP_eq_zero.mp progress.1 _ member
    simp [Effect.isFetch] at none
  · obtain ⟨fetches, waits⟩ := countP_emit client.effects
      (.fetched request (client.authorization accessors skipAuth)) request
    exact ⟨by simp [fetches, progress.1, Effect.isFetch],
      by simp [waits, progress.2, Effect.isWait]⟩

/-- A request that has awaited a settled promise goes on. -/
theorem Consistent.resume (consistent : Consistent accessors client) {request : ι}
    {refresh : Nat} (waiting : client.requests request = .waiting refresh)
    {result : Option τ} (settled : client.refreshes refresh = .settled result)
    (carries : ∀ token, result.filter accessors.truthy = some token →
      client.tokens.accessToken = some token) :
    Consistent accessors (Client.resume accessors result client request) := by
  have progress := consistent.progress request
  rw [waiting] at progress
  obtain ⟨fetchedOnce, waitedOnce, awaited⟩ := progress
  have told := (consistent.settled refresh result).mpr settled
  have unawaited : Unawaited client request := by
    rintro other ofOther ⟨refreshToken, reading, waiters, pending⟩
    rw [waiting] at ofOther
    cases ofOther
    rw [settled] at pending
    cases pending
  unfold Client.resume
  cases fresh : result.filter accessors.truthy with
  | none =>
      obtain ⟨fetches, waits⟩ := countP_emit client.effects (.expired request) request
      have permitted : EffectPermitted accessors client.effects (.expired request) :=
        ⟨refresh, result, awaited, told, fresh⟩
      have expired : Consistent accessors
          ((client.emit (.expired request)).setRequest request (.done .sessionExpired)) := by
        apply consistent.advance unawaited rfl permitted
        exact ⟨by simp [fetches, fetchedOnce, Effect.isFetch],
          by simp [waits, waitedOnce, Effect.isWait]⟩
      exact expired.withTokens _
  | some token =>
      obtain ⟨rfl, truthy⟩ := Option.filter_eq_some_iff.mp fresh
      have header : client.authorization accessors false = some token := by
        simp [Client.authorization, carries token fresh, truthy]
      obtain ⟨fetches, waits⟩ := countP_emit client.effects
        (.fetched request (client.authorization accessors false)) request
      apply consistent.advance unawaited rfl
      · intro first
        exact ⟨refresh, token, awaited, told, truthy, header⟩
      · exact ⟨by simp [fetches, fetchedOnce, Effect.isFetch],
          by simp [waits, waitedOnce, Effect.isWait]⟩

/-- All waiters of a settled promise go on, one after another. -/
theorem Consistent.resumeAll (waiters : List ι) {client : Client ι τ}
    (consistent : Consistent accessors client) (distinct : waiters.Nodup) {refresh : Nat}
    (waiting : ∀ waiter ∈ waiters, client.requests waiter = .waiting refresh)
    {result : Option τ} (settled : client.refreshes refresh = .settled result)
    (carries : ∀ token, result.filter accessors.truthy = some token →
      client.tokens.accessToken = some token) :
    Consistent accessors (waiters.foldl (Client.resume accessors result) client) := by
  induction waiters generalizing client with
  | nil => exact consistent
  | cons waiter waiters inductionHypothesis =>
      obtain ⟨absent, distinctRest⟩ := List.nodup_cons.mp distinct
      have resumed := consistent.resume (waiting waiter (.head _)) settled carries
      apply inductionHypothesis resumed distinctRest
      · intro other member
        have differs : other ≠ waiter := by
          rintro rfl
          exact absent member
        rw [← waiting other (.tail _ member)]
        unfold Client.resume
        split
        · exact Client.setRequest_of_ne _ differs _
        · exact Client.setRequest_of_ne _ differs _
      · unfold Client.resume
        split
        · exact settled
        · exact settled
      · intro token fresh
        unfold Client.resume
        rw [fresh]
        exact carries token fresh

/-- A promise settles. -/
theorem Consistent.settle (consistent : Consistent accessors client) {refresh : Nat}
    {refreshToken : τ} {reading : Bool} {waiters : List ι}
    (pending : client.refreshes refresh = .pending refreshToken reading waiters)
    {result : Option τ}
    (carries : ∀ token, result.filter accessors.truthy = some token →
      client.tokens.accessToken = some token) :
    Consistent accessors (client.settle accessors refresh waiters result) := by
  obtain ⟨distinct, waiting⟩ := consistent.waiters _ _ _ _ pending
  have isPending : (client.refreshes refresh).IsPending := ⟨_, _, _, pending⟩
  have current := (consistent.promise refresh).mpr isPending
  have only : ∀ other, (client.refreshes other).IsPending → other = refresh := fun other also =>
    Option.some.inj (((consistent.promise other).mpr also).symm.trans current)
  have after : ∀ other, Function.update client.refreshes refresh (.settled result) other =
      if other = refresh then .settled result else client.refreshes other :=
    fun other => Function.update_apply _ _ _ _
  let ended : Client ι τ :=
    { (client.setRefresh refresh (.settled result)).emit (.refreshSettled refresh result) with
      refreshPromise := none }
  have settled : ended.refreshes refresh = .settled result := Function.update_self _ _ _
  suffices prepared : Consistent accessors ended from
    prepared.resumeAll waiters distinct waiting settled carries
  constructor
  · intro other
    refine iff_of_false nofun ?_
    rintro ⟨refreshToken, reading, waiters, also⟩
    change Function.update _ _ _ _ = _ at also
    rw [after] at also
    split at also
    · cases also
    · next differs => exact differs (only other ⟨_, _, _, also⟩)
  · intro other unused
    have unborn := consistent.fresh other unused
    have differs : other ≠ refresh := by
      rintro rfl
      rw [unborn] at pending
      cases pending
    exact (Function.update_of_ne differs _ _).trans unborn
  · intro other
    change _ ∈ client.effects ++ [_] ↔ Function.update _ _ _ _ ≠ _
    rw [after, List.mem_append, consistent.started, List.mem_singleton]
    split
    · next same =>
      rw [same, pending]
      simp
    · simp
  · intro other value
    change _ ∈ client.effects ++ [_] ↔ Function.update _ _ _ _ = _
    rw [after, List.mem_append, consistent.settled, List.mem_singleton]
    split
    · next same =>
      rw [same, pending]
      simp [eq_comm]
    · next differs => simp [differs]
  · intro other otherToken otherReading otherWaiters also
    change Function.update _ _ _ _ = _ at also
    rw [after] at also
    split at also
    · cases also
    · exact consistent.waiters _ _ _ _ also
  · intro request
    exact (consistent.progress request).emit nofun
  · exact consistent.grounded.append trivial

/-- A new promise is started where none is in flight. -/
theorem Consistent.startRefresh (consistent : Consistent accessors client)
    (idle : client.refreshPromise = none) (refreshToken : τ) :
    Consistent accessors (client.joinRefresh refreshToken).1 := by
  have unborn := consistent.fresh client.created (Nat.le_refl _)
  have none_pending : ∀ other, ¬ (client.refreshes other).IsPending := by
    intro other pending
    have current := (consistent.promise other).mpr pending
    rw [idle] at current
    cases current
  have after : ∀ other, Function.update client.refreshes client.created
      (.pending refreshToken false []) other =
        if other = client.created then .pending refreshToken false []
        else client.refreshes other := fun other => Function.update_apply _ _ _ _
  unfold Client.joinRefresh
  rw [idle]
  constructor
  · intro other
    change some client.created = some other ↔
      (Function.update client.refreshes client.created _ other).IsPending
    rw [after]
    split
    · next same =>
      rw [same]
      exact iff_of_true rfl ⟨_, _, _, rfl⟩
    · next differs =>
      exact iff_of_false (fun same => differs (Option.some.inj same).symm) (none_pending other)
  · intro other unused
    change Function.update _ _ _ _ = _
    rw [after, if_neg (Nat.ne_of_gt unused)]
    exact consistent.fresh other (Nat.le_of_lt unused)
  · intro other
    change _ ∈ client.effects ++ [_] ↔ Function.update _ _ _ _ ≠ _
    rw [after, List.mem_append, consistent.started, List.mem_singleton]
    split
    · next same => simp [same]
    · next differs => simp [differs]
  · intro other value
    change _ ∈ client.effects ++ [_] ↔ Function.update _ _ _ _ = _
    rw [after, List.mem_append, consistent.settled, List.mem_singleton]
    split
    · next same =>
      rw [same, unborn]
      simp
    · simp
  · intro other otherToken otherReading otherWaiters pending
    change Function.update _ _ _ _ = _ at pending
    rw [after] at pending
    split at pending
    · cases pending
      exact ⟨List.nodup_nil, nofun⟩
    · exact (none_pending other ⟨_, _, _, pending⟩).elim
  · intro request
    exact (consistent.progress request).emit nofun
  · exact consistent.grounded.append trivial

/-- A pending promise goes on pending, its waiters waiting for it. -/
theorem Consistent.setPending (consistent : Consistent accessors client) {refresh : Nat}
    (pending : (client.refreshes refresh).IsPending) {refreshToken : τ} {reading : Bool}
    {waiters : List ι} (distinct : waiters.Nodup)
    (waiting : ∀ waiter ∈ waiters, client.requests waiter = .waiting refresh) :
    Consistent accessors
      (client.setRefresh refresh (.pending refreshToken reading waiters)) := by
  have after : ∀ other, Function.update client.refreshes refresh
      (.pending refreshToken reading waiters) other =
        if other = refresh then .pending refreshToken reading waiters
        else client.refreshes other := fun other => Function.update_apply _ _ _ _
  obtain ⟨oldToken, oldReading, oldWaiters, held⟩ := pending
  constructor
  · intro other
    change _ ↔ (Function.update client.refreshes refresh _ other).IsPending
    rw [after]
    split
    · next same =>
      rw [same]
      exact iff_of_true ((consistent.promise refresh).mpr ⟨_, _, _, held⟩) ⟨_, _, _, rfl⟩
    · exact consistent.promise other
  · intro other unused
    change Function.update _ _ _ _ = _
    rw [after]
    split
    · next same =>
      have unborn := consistent.fresh other unused
      rw [same, held] at unborn
      cases unborn
    · exact consistent.fresh other unused
  · intro other
    change _ ∈ client.effects ↔ Function.update _ _ _ _ ≠ _
    rw [after, consistent.started]
    split
    · next same => simp [same, held]
    · rfl
  · intro other value
    change _ ∈ client.effects ↔ Function.update _ _ _ _ = _
    rw [after, consistent.settled]
    split
    · next same => simp [same, held]
    · rfl
  · intro other otherToken otherReading otherWaiters also
    change Function.update _ _ _ _ = _ at also
    rw [after] at also
    split at also
    · next same =>
      cases also
      rw [same]
      exact ⟨distinct, waiting⟩
    · exact consistent.waiters _ _ _ _ also
  · exact consistent.progress
  · exact consistent.grounded

/-- A request that has been answered 401 awaits a promise in flight. -/
theorem Consistent.await (consistent : Consistent accessors client) {request : ι}
    {skipAuth : Bool} (sent : client.requests request = .sent skipAuth) {refresh : Nat}
    (pending : (client.refreshes refresh).IsPending) :
    Consistent accessors (client.await accessors request refresh) := by
  obtain ⟨refreshToken, reading, waiters, held⟩ := pending
  obtain ⟨distinct, waiting⟩ := consistent.waiters _ _ _ _ held
  have progress := consistent.progress request
  rw [sent] at progress
  obtain ⟨fetches, waits⟩ := countP_emit client.effects (.awaited request refresh) request
  have awaited : Consistent accessors
      ((client.emit (.awaited request refresh)).setRequest request (.waiting refresh)) := by
    have permitted : EffectPermitted accessors client.effects (.awaited request refresh) := trivial
    apply consistent.advance _ rfl permitted
    · refine ⟨?_, ?_, ?_⟩
      · simp [fetches, progress.1, Effect.isFetch]
      · simp [waits, progress.2, Effect.isWait]
      · exact List.mem_append_right _ (.head _)
    · intro other ofOther
      rw [sent] at ofOther
      cases ofOther
  have absent : request ∉ waiters := by
    intro member
    have waits := waiting request member
    rw [sent] at waits
    cases waits
  unfold Client.await
  rw [held]
  apply awaited.setPending ⟨_, _, _, held⟩
  · rw [List.nodup_append_comm]
    exact List.nodup_cons.mpr ⟨absent, distinct⟩
  · intro waiter member
    rcases List.mem_append.mp member with old | new
    · rw [Client.setRequest_of_ne]
      · exact waiting waiter old
      · rintro rfl
        exact absent old
    · rw [List.mem_singleton.mp new]
      exact Client.setRequest_self _ _ _

/-- A request whose answer is 401 awaits a refresh, where there is a token to refresh. -/
theorem Consistent.refreshAccessToken (consistent : Consistent accessors client)
    {request : ι} {skipAuth : Bool} (sent : client.requests request = .sent skipAuth)
    (present : (client.tokens.refreshToken.filter accessors.truthy).isSome) :
    Consistent accessors (client.refreshAccessToken accessors request) := by
  obtain ⟨refreshToken, found⟩ := Option.isSome_iff_exists.mp present
  unfold Client.refreshAccessToken
  rw [found]
  cases promise : client.refreshPromise with
  | some refresh =>
      simp only [Client.joinRefresh, promise]
      exact consistent.await sent ((consistent.promise refresh).mp promise)
  | none =>
      have started := consistent.startRefresh promise refreshToken
      simp only [Client.joinRefresh, promise] at started ⊢
      exact started.await sent ((started.promise _).mp rfl)

/-- The event finds a refresh token, where it makes the client look for one. -/
def RefreshTokenPresent (accessors : TokenAccessors τ) (client : Client ι τ) :
    Event ι τ → Prop
  | .response _ 401 => (client.tokens.refreshToken.filter accessors.truthy).isSome
  | _ => True

theorem Consistent.step (consistent : Consistent accessors client) {event : Event ι τ}
    (present : RefreshTokenPresent accessors client event) {after : Client ι τ}
    (steps : client.step accessors event = some after) : Consistent accessors after := by
  cases event with
  | request request skipAuth =>
      simp only [Client.step] at steps
      split at steps
      · next unsent =>
        cases steps
        exact consistent.request unsent skipAuth
      · cases steps
  | response request status =>
      simp only [Client.step] at steps
      split at steps
      · next skipAuth sent =>
        split at steps
        · next unauthorized =>
          obtain ⟨rfl, -⟩ := unauthorized
          cases steps
          exact consistent.refreshAccessToken sent present
        · cases steps
          exact consistent.finish (fun _ => by rw [sent]; nofun) _
      · next retried =>
        cases steps
        exact consistent.finish (fun _ => by rw [retried]; nofun) _
      · cases steps
  | networkError request =>
      simp only [Client.step] at steps
      split at steps
      · next skipAuth sent =>
        cases steps
        exact consistent.finish (fun _ => by rw [sent]; nofun) _
      · next retried =>
        cases steps
        exact consistent.finish (fun _ => by rw [retried]; nofun) _
      · cases steps
  | refreshResponse refresh ok =>
      simp only [Client.step] at steps
      split at steps
      · next refreshToken waiters pending =>
        obtain ⟨distinct, waiting⟩ := consistent.waiters _ _ _ _ pending
        split at steps
        · cases steps
          exact consistent.setPending ⟨_, _, _, pending⟩ distinct waiting
        · cases steps
          exact consistent.settle pending nofun
      · cases steps
  | refreshBody refresh accessToken =>
      simp only [Client.step] at steps
      split at steps
      · next refreshToken waiters pending =>
        cases steps
        have received : Consistent accessors (client.setAccessToken accessToken) :=
          consistent.withTokens _
        apply received.settle pending
        intro token fresh
        exact (Option.filter_eq_some_iff.mp fresh).1
      · cases steps
  | refreshError refresh =>
      simp only [Client.step] at steps
      split at steps
      · next refreshToken reading waiters pending =>
        cases steps
        exact consistent.settle pending nofun
      · cases steps

end Steps

/-- A state that is consistent satisfies what the claims of the trace are about. -/
theorem Consistent.coalesced {accessors : TokenAccessors τ} {client : Client ι τ}
    (consistent : Consistent accessors client) : Coalesced accessors client.effects where
  outstanding refresh other outstanding outstandingOther := by
    have pending : ∀ {refresh}, Outstanding client.effects refresh →
        client.refreshPromise = some refresh := by
      rintro refresh ⟨started, unsettled⟩
      apply (consistent.promise refresh).mpr
      have born := (consistent.started refresh).mp started
      cases call : client.refreshes refresh with
      | unborn => exact absurd call born
      | pending refreshToken reading waiters => exact ⟨_, _, _, rfl⟩
      | settled result =>
          exact absurd ((consistent.settled refresh result).mpr call) (unsettled result)
    exact Option.some.inj ((pending outstanding).symm.trans (pending outstandingOther))
  fetches request := (consistent.progress request).counts.1
  waits request := (consistent.progress request).counts.2
  grounded := consistent.grounded

end Effects

/-! ### All runs -/

section Runs

variable {ι τ : Type} [DecidableEq ι]

/-- Events in any order and number, each finding a refresh token where it needs one. -/
def Client.Runs (accessors : TokenAccessors τ) : Client ι τ → Client ι τ → Prop :=
  Relation.ReflTransGen fun before after => ∃ event,
    RefreshTokenPresent accessors before event ∧ before.step accessors event = some after

theorem Consistent.runs {accessors : TokenAccessors τ} {before after : Client ι τ}
    (consistent : Consistent accessors before) (runs : Client.Runs accessors before after) :
    Consistent accessors after := by
  induction runs with
  | refl => exact consistent
  | tail _ step inductionHypothesis =>
      obtain ⟨event, present, steps⟩ := step
      exact inductionHypothesis.step present steps

/-- Every refresh that has been started has settled. -/
def AllSettled (client : Client ι τ) : Prop :=
  ∀ refresh, .refreshStarted refresh ∈ client.effects →
    ∃ result, .refreshSettled refresh result ∈ client.effects

/-- After the last refresh has settled, the next 401 starts a new one. -/
theorem Consistent.starts {accessors : TokenAccessors τ} {client : Client ι τ}
    (consistent : Consistent accessors client) (allSettled : AllSettled client) {request : ι}
    (sent : client.requests request = .sent false)
    (present : (client.tokens.refreshToken.filter accessors.truthy).isSome) :
    ∃ refresh after, client.step accessors (.response request 401) = some after ∧
      after.effects =
        client.effects ++ [.refreshStarted refresh] ++ [.awaited request refresh] := by
  obtain ⟨refreshToken, found⟩ := Option.isSome_iff_exists.mp present
  have idle : client.refreshPromise = none := by
    cases promise : client.refreshPromise with
    | none => rfl
    | some refresh =>
        obtain ⟨token, reading, waiters, pending⟩ := (consistent.promise refresh).mp promise
        obtain ⟨result, settled⟩ := allSettled refresh
          ((consistent.started refresh).mpr (by rw [pending]; nofun))
        rw [consistent.settled, pending] at settled
        cases settled
  refine ⟨client.created, client.refreshAccessToken accessors request, ?_, ?_⟩
  · simp only [Client.step, sent, and_self, if_true]
  · simp only [Client.refreshAccessToken, found, Client.joinRefresh, idle, Client.await,
      Client.setRefresh, Client.emit, Function.update_self, Client.setRequest]

/-- Requests share one refresh at a time, fetch twice at most and the second time with
its token, and are told of their expiry only if it has failed. -/
theorem refresh_coalesced (accessors : TokenAccessors τ) (tokens : Tokens τ)
    {client : Client ι τ} (runs : Client.Runs accessors (.start tokens) client) :
    Coalesced accessors client.effects ∧
      (AllSettled client → ∀ request, client.requests request = .sent false →
        (client.tokens.refreshToken.filter accessors.truthy).isSome →
          ∃ refresh after, client.step accessors (.response request 401) = some after ∧
            after.effects =
              client.effects ++ [.refreshStarted refresh] ++ [.awaited request refresh]) := by
  have consistent := (start_consistent accessors tokens).runs runs
  refine ⟨consistent.coalesced, ?_⟩
  intro allSettled request sent present
  exact consistent.starts allSettled sent present

end Runs

/-! ### Two requests that expire together -/

/-- The accessors of a test, which only counts expiries. -/
def plainAccessors : TokenAccessors String where
  truthy token := token != ""
  onAuthExpired tokens := tokens

def expiredTokens : Tokens String :=
  { accessToken := some "initial-access-token"
    refreshToken := some "a-refresh-token" }

theorem refresh_coalesced_pair : ∃ client : Client Bool String,
    client.effects =
      [.fetched true (some "initial-access-token"),
        .fetched false (some "initial-access-token"), .refreshStarted 0, .awaited true 0,
        .awaited false 0, .refreshSettled 0 (some "fresh-access-token"),
        .fetched true (some "fresh-access-token"),
        .fetched false (some "fresh-access-token")] ∧
      Coalesced plainAccessors client.effects := by
  have begins : Client.Runs plainAccessors (.start expiredTokens : Client Bool String)
      (.start expiredTokens) := .refl
  have first := begins.tail ⟨.request true false, trivial, rfl⟩
  have both := first.tail ⟨.request false false, trivial, rfl⟩
  have refreshing := both.tail ⟨.response true 401, rfl, rfl⟩
  have joined := refreshing.tail ⟨.response false 401, rfl, rfl⟩
  have reading := joined.tail ⟨.refreshResponse 0 true, trivial, rfl⟩
  have refreshed := reading.tail ⟨.refreshBody 0 (some "fresh-access-token"), trivial, rfl⟩
  exact ⟨_, rfl, (refresh_coalesced plainAccessors expiredTokens refreshed).1⟩

end ServersManager
