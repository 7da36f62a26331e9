/-
Module: ServersManager.BrowserSessions
Purpose: Logging in and out in the browser while requests and refreshes are under way:
  when a session keeps to its own tokens.
Trusted boundary: human-reviewed event loop of the browser
Main exports:
  Page, Page.step, PageEvent, Settled, SessionKept, sessions_separated
-/
import ServersManager.ApiClient

namespace ServersManager

open Library

/-! ### `context/AuthContext.tsx` -/

/-- A token, and the session for which it was issued: the number of the login, or 0 for
what an earlier visit has left in the storage. -/
structure SessionToken where
  text : String
  session : Nat
deriving Repr, Inhabited, DecidableEq

/-- The accessors that `AuthProvider` configures. -/
def pageAccessors : TokenAccessors SessionToken where
  truthy token := token.text != ""
  onAuthExpired _ := { accessToken := none, refreshToken := none }

/-- The effect that restores a session when the page is loaded. -/
inductive Restoring (ι : Type) where
  | idle
  | refreshing (request : ι) (refreshToken : SessionToken)
  | loading (request : ι)

/-- The answer to this request is the restoring effect's. -/
def Restoring.owns {ι : Type} [DecidableEq ι] (restoring : Restoring ι) (request : ι) :
    Bool :=
  match restoring with
  | .refreshing other _ => other = request
  | _ => false

/-- The client, the restoring effect, the number of logins, and the session that is
open, if there is one. -/
structure Page (ι : Type) where
  client : Client ι SessionToken
  restoring : Restoring ι
  logins : Nat
  session : Option Nat

inductive PageEvent (ι : Type) where
  | request (request : ι) (skipAuth : Bool)
  | response (request : ι) (status : Nat)
  | networkError (request : ι)
  | refreshResponse (refresh : Nat) (ok : Bool)
  | refreshBody (refresh : Nat) (accessToken : Option String)
  | refreshError (refresh : Nat)
  | mount (request : ι)
  | restored (accessToken : Option String) (me : ι)
  | restoreFailed
  | loadFailed
  | loggedIn (request : ι) (accessToken refreshToken : String) (me : ι)
  | logout

namespace Page

variable {ι : Type} [DecidableEq ι]

/-- The page as it is loaded, with what the storage holds. -/
def start (stored : Option String) : Page ι where
  client := .start
    { accessToken := none
      refreshToken := stored.map fun text => { text := text, session := 0 } }
  restoring := .idle
  logins := 0
  session := stored.map fun _ => 0

def withClient (page : Page ι) (client : Client ι SessionToken) : Page ι :=
  { page with client := client }

def removeRefreshToken (page : Page ι) : Page ι :=
  page.withClient { page.client with
    tokens := { page.client.tokens with refreshToken := none } }

/-- The access token that a refresh has brought: it is issued for the session of the
refresh token that was sent. -/
def issued (refreshToken : SessionToken) (text : Option String) : Option SessionToken :=
  text.map fun text => { text := text, session := refreshToken.session }

/-- An event of the request helper alone. -/
def clientEvent (page : Page ι) (event : Event ι SessionToken) : Option (Page ι) :=
  (page.client.step pageAccessors event).map page.withClient

def step (page : Page ι) : PageEvent ι → Option (Page ι)
  | .request request skipAuth => page.clientEvent (.request request skipAuth)
  | .response request status =>
      if page.restoring.owns request then none
      else page.clientEvent (.response request status)
  | .networkError request =>
      if page.restoring.owns request then none
      else page.clientEvent (.networkError request)
  | .refreshResponse refresh ok => page.clientEvent (.refreshResponse refresh ok)
  | .refreshBody refresh accessToken =>
      match page.client.refreshes refresh with
      | .pending refreshToken true _ =>
          page.clientEvent (.refreshBody refresh (issued refreshToken accessToken))
      | _ => none
  | .refreshError refresh => page.clientEvent (.refreshError refresh)
  | .mount request =>
      match page.restoring, page.client.tokens.refreshToken.filter pageAccessors.truthy,
        page.client.requests request with
      | .idle, some refreshToken, .unsent =>
          some { page with
            client := page.client.doFetch pageAccessors request true (.sent true)
            restoring := .refreshing request refreshToken }
      | _, _, _ => none
  | .restored accessToken me =>
      match page.restoring, page.client.requests me with
      | .refreshing request refreshToken, .unsent =>
          let answered := page.client.setRequest request (.done (.response 200))
          let restored := answered.setAccessToken (issued refreshToken accessToken)
          some { page with
            client := restored.doFetch pageAccessors me false (.sent false)
            restoring := .loading me }
      | _, _ => none
  | .restoreFailed =>
      match page.restoring with
      | .refreshing request _ =>
          some { (page.withClient (page.client.setRequest request
            (.done .failed))).removeRefreshToken with restoring := .idle }
      | _ => none
  | .loadFailed =>
      match page.restoring with
      | .loading me =>
          match page.client.requests me with
          | .done _ => some { page.removeRefreshToken with restoring := .idle }
          | _ => none
      | _ => none
  | .loggedIn request accessToken refreshToken me =>
      match page.client.requests request, page.client.requests me with
      | .sent true, .unsent =>
          let session := page.logins + 1
          let answered := page.client.setRequest request (.done (.response 200))
          let opened : Client ι SessionToken := { answered with
            tokens :=
              { accessToken := some { text := accessToken, session := session }
                refreshToken := some { text := refreshToken, session := session } } }
          some { page with
            client := opened.doFetch pageAccessors me false (.sent false)
            logins := session
            session := some session }
      | _, _ => none
  | .logout =>
      some { page.withClient { page.client with
        tokens := { accessToken := none, refreshToken := none } } with session := none }

end Page

/-! ### What a session may see of another -/

section Sessions

variable {ι : Type} [DecidableEq ι]

/-- A refresh in flight that was started in this session. -/
def StartedIn (page : Page ι) (refresh session : Nat) : Prop :=
  ∃ refreshToken reading waiters,
    page.client.refreshes refresh = .pending refreshToken reading waiters ∧
      refreshToken.session = session

/-- A refresh whose answer is an error, and the session it was started in. -/
def RefreshFails (page : Page ι) (session : Nat) : PageEvent ι → Prop
  | .refreshResponse refresh false | .refreshError refresh =>
      StartedIn page refresh session
  | .refreshBody refresh accessToken =>
      (accessToken = none ∨ accessToken = some "") ∧ StartedIn page refresh session
  | .restoreFailed => ∃ request refreshToken,
      page.restoring = .refreshing request refreshToken ∧ refreshToken.session = session
  | _ => False

/-- Without a session there is no access token. -/
def SignedOut (page : Page ι) : Prop :=
  page.session = none → page.client.tokens.accessToken = none

/-- What is fetched carries tokens of this session only. -/
def CarriesOnly (session : Option Nat) (before after : Client ι SessionToken) : Prop :=
  ∃ effects, after.effects = before.effects ++ effects ∧
    ∀ request token, .fetched request (some token) ∈ effects →
      session = some token.session

/-- An event respects the sessions: what is fetched carries tokens of the open session,
and the tokens of the open session are not discarded for a refresh of another. -/
structure SessionKept (before : Page ι) (event : PageEvent ι) (after : Page ι) : Prop where
  carried : CarriesOnly after.session before.client after.client
  kept : ∀ session opened, RefreshFails before session event →
    before.session = some opened → opened ≠ session →
      after.client.tokens = before.client.tokens

/-- A refresh is answered in the session in which it was started: with a token while
that session is open, without one before another has been opened. -/
def Timely (page : Page ι) : PageEvent ι → Prop
  | .refreshResponse refresh false | .refreshError refresh =>
      ∀ session, StartedIn page refresh session →
        page.session = some session ∨ page.session = none
  | .refreshBody refresh accessToken =>
      ∀ session, StartedIn page refresh session →
        page.session = some session ∨ accessToken = none ∧ page.session = none
  | .restored accessToken _ => ∀ request refreshToken,
      page.restoring = .refreshing request refreshToken →
        page.session = some refreshToken.session ∨ accessToken = none
  | .restoreFailed => ∀ request refreshToken,
      page.restoring = .refreshing request refreshToken →
        page.session = some refreshToken.session ∨ page.session = none
  | _ => True

/-! ### The invariant -/

/-- The access token that is set is one of this session. -/
def Owned (session : Option Nat) (client : Client ι SessionToken) : Prop :=
  ∀ token, client.tokens.accessToken = some token → session = some token.session

omit [DecidableEq ι] in
theorem CarriesOnly.refl (session : Option Nat) (client : Client ι SessionToken) :
    CarriesOnly session client client :=
  ⟨[], (List.append_nil _).symm, nofun⟩

omit [DecidableEq ι] in
/-- Two stretches of a page that carry this session only. -/
theorem CarriesOnly.trans {session : Option Nat} {first second third : Client ι SessionToken}
    (before : CarriesOnly session first second) (after : CarriesOnly session second third) :
    CarriesOnly session first third := by
  obtain ⟨effects, appends, carried⟩ := before
  obtain ⟨more, appendsMore, carriedMore⟩ := after
  refine ⟨effects ++ more, ?_, ?_⟩
  · rw [appendsMore, appends, List.append_assoc]
  · intro request token member
    rcases List.mem_append.mp member with early | late
    · exact carried request token early
    · exact carriedMore request token late

omit [DecidableEq ι] in
/-- One effect that is no fetch, or a fetch with a token of the session. -/
theorem CarriesOnly.emit {session : Option Nat} {client : Client ι SessionToken}
    {effect : Effect ι SessionToken}
    (carries : ∀ request token, effect = .fetched request (some token) →
      session = some token.session) :
    CarriesOnly session client (client.emit effect) := by
  refine ⟨[effect], rfl, ?_⟩
  intro request token member
  exact carries request token (List.mem_singleton.mp member).symm

/-- A step of the client within one session. -/
structure Within (session : Option Nat) (before after : Client ι SessionToken) : Prop where
  owned : Owned session after
  carried : CarriesOnly session before after

section Within

variable {session : Option Nat} {client : Client ι SessionToken}

omit [DecidableEq ι] in
/-- A client that owns its tokens is within the session. -/
theorem Owned.within (owned : Owned session client) : Within session client client :=
  ⟨owned, .refl _ _⟩

omit [DecidableEq ι] in
/-- Two stretches within one session. -/
theorem Within.trans {first second third : Client ι SessionToken}
    (before : Within session first second) (after : Within session second third) :
    Within session first third :=
  ⟨after.owned, before.carried.trans after.carried⟩

/-- The state of a request carries no token. -/
theorem Owned.setRequest (owned : Owned session client) (request : ι) (state : RequestState) :
    Within session client (client.setRequest request state) :=
  ⟨owned, .refl _ _⟩

omit [DecidableEq ι] in
/-- A fetch carries the token of the session, or none. -/
theorem Owned.emit (owned : Owned session client) (effect : Effect ι SessionToken)
    (carries : ∀ request token, effect = .fetched request (some token) →
      session = some token.session) : Within session client (client.emit effect) :=
  ⟨owned, .emit carries⟩

omit [DecidableEq ι] in
/-- A token of the session may be kept. -/
theorem within_setAccessToken {token : Option SessionToken}
    (ownedToken : ∀ held, token = some held → session = some held.session) :
    Within session client (client.setAccessToken token) :=
  ⟨ownedToken, .refl _ _⟩

/-- What a request fetches with is the token in memory. -/
theorem Owned.doFetch (owned : Owned session client) (request : ι) (skipAuth : Bool)
    (next : RequestState) :
    Within session client (client.doFetch pageAccessors request skipAuth next) := by
  have emitted := owned.emit (.fetched request
    (client.authorization pageAccessors skipAuth)) (by
      intro other token same
      have header : client.authorization pageAccessors skipAuth = some token := by
        injection same
      unfold Client.authorization at header
      split at header
      · cases header
      · exact owned token (Option.filter_eq_some_iff.mp header).1)
  exact emitted.trans (emitted.owned.setRequest request next)

/-- An expired session leaves no token. -/
theorem Owned.expire (owned : Owned session client) (request : ι) :
    Within session client (client.expire pageAccessors request) :=
  ⟨nofun, (owned.emit (.expired request) nofun).carried⟩

/-- A waiting request is resumed with the result of its refresh. -/
theorem Owned.resume (owned : Owned session client) (result : Option SessionToken)
    (request : ι) :
    Within session client (Client.resume pageAccessors result client request) := by
  unfold Client.resume
  split
  · exact owned.doFetch request false .retried
  · exact owned.expire request

/-- All that wait are, by induction on them. -/
theorem Owned.resumeAll (waiters : List ι) {client : Client ι SessionToken}
    (owned : Owned session client) (result : Option SessionToken) :
    Within session client (waiters.foldl (Client.resume pageAccessors result) client) := by
  induction waiters generalizing client with
  | nil => exact owned.within
  | cons waiter waiters inductionHypothesis =>
      have resumed := owned.resume result waiter
      exact resumed.trans (inductionHypothesis resumed.owned)

/-- A refresh that settles stays within the session. -/
theorem Owned.settle (owned : Owned session client) (refresh : Nat) (waiters : List ι)
    (result : Option SessionToken) :
    Within session client (client.settle pageAccessors refresh waiters result) := by
  have settled : Within session client
      { (client.setRefresh refresh (.settled result)).emit
          (.refreshSettled refresh result) with
        refreshPromise := none } :=
    ⟨owned, (owned.emit (.refreshSettled refresh result) nofun).carried⟩
  exact settled.trans (settled.owned.resumeAll waiters result)

/-- So does a request that begins to wait. -/
theorem Owned.await (owned : Owned session client) (request : ι) (refresh : Nat) :
    Within session client (client.await pageAccessors request refresh) := by
  have emitted := owned.emit (.awaited request refresh) nofun
  unfold Client.await
  split
  · exact ⟨owned, emitted.carried⟩
  · next result settled => exact emitted.trans (emitted.owned.resume result request)
  · exact owned.within

/-- And one that begins a refresh, or joins it. -/
theorem Owned.refreshAccessToken (owned : Owned session client) (request : ι) :
    Within session client (client.refreshAccessToken pageAccessors request) := by
  unfold Client.refreshAccessToken
  split
  · exact owned.expire request
  · next refreshToken found =>
    have joined : Within session client (client.joinRefresh refreshToken).1 := by
      unfold Client.joinRefresh
      split
      · exact owned.within
      · exact ⟨owned, (owned.emit (.refreshStarted client.created) nofun).carried⟩
    exact joined.trans (joined.owned.await request _)

/-- Every event of the client keeps within the session, if the tokens it brings are the
session's. -/
theorem Owned.step (owned : Owned session client) {event : Event ι SessionToken}
    (brings : ∀ refresh token, event = .refreshBody refresh (some token) →
      session = some token.session)
    {after : Client ι SessionToken} (steps : client.step pageAccessors event = some after) :
    Within session client after := by
  cases event with
  | request request skipAuth =>
      simp only [Client.step] at steps
      split at steps
      · cases steps
        exact owned.doFetch request skipAuth (.sent skipAuth)
      · cases steps
  | response request status =>
      simp only [Client.step] at steps
      split at steps
      · split at steps
        · cases steps
          exact owned.refreshAccessToken request
        · cases steps
          exact owned.setRequest request _
      · cases steps
        exact owned.setRequest request _
      · cases steps
  | networkError request =>
      simp only [Client.step] at steps
      split at steps
      · cases steps
        exact owned.setRequest request _
      · cases steps
        exact owned.setRequest request _
      · cases steps
  | refreshResponse refresh ok =>
      simp only [Client.step] at steps
      split at steps
      · next refreshToken waiters pending =>
        split at steps
        · cases steps
          exact ⟨owned, .refl _ _⟩
        · cases steps
          exact owned.settle refresh waiters none
      · cases steps
  | refreshBody refresh accessToken =>
      simp only [Client.step] at steps
      split at steps
      · next refreshToken waiters pending =>
        cases steps
        have received : Within session client (client.setAccessToken accessToken) := by
          apply within_setAccessToken
          rintro held rfl
          exact brings refresh held rfl
        exact received.trans (received.owned.settle refresh waiters accessToken)
      · cases steps
  | refreshError refresh =>
      simp only [Client.step] at steps
      split at steps
      · next refreshToken reading waiters pending =>
        cases steps
        exact owned.settle refresh waiters none
      · cases steps

end Within

/-! ### Every run of a page -/

/-- The access token of the page is one of the open session. -/
def PageOwned (page : Page ι) : Prop := Owned page.session page.client

omit [DecidableEq ι] in
/-- A page that owns its tokens has none once it is signed out. -/
theorem PageOwned.signedOut {page : Page ι} (owned : PageOwned page) : SignedOut page := by
  intro closed
  cases held : page.client.tokens.accessToken with
  | none => rfl
  | some token =>
      have opened := owned token held
      rw [closed] at opened
      cases opened

omit [DecidableEq ι] in
/-- A refresh that fails in time is not one of an earlier session. -/
theorem Timely.refreshFails {page : Page ι} {event : PageEvent ι}
    (timely : Timely page event)
    {session opened : Nat} (fails : RefreshFails page session event)
    (opens : page.session = some opened) : opened = session := by
  have current : page.session = some session ∨ page.session = none := by
    cases event with
    | refreshResponse refresh ok =>
        cases ok with
        | true => exact fails.elim
        | false => exact timely session fails
    | refreshBody refresh accessToken =>
        rcases timely session fails.2 with same | ⟨-, closed⟩
        · exact .inl same
        · exact .inr closed
    | refreshError refresh => exact timely session fails
    | restoreFailed =>
        obtain ⟨request, token, restoring, rfl⟩ := fails
        exact timely request token restoring
    | _ => exact fails.elim
  rcases current with same | closed
  · exact Option.some.inj (opens.symm.trans same)
  · rw [closed] at opens
    cases opens

/-- What an event leaves behind. -/
def StaysOwned (before after : Page ι) : Prop :=
  PageOwned after ∧ CarriesOnly after.session before.client after.client

/-- Every event of the client, where a refresh brings a token of the session. -/
theorem PageOwned.clientEvent {page after : Page ι} (owned : PageOwned page)
    {event : Event ι SessionToken} (steps : page.clientEvent event = some after)
    (brings : ∀ refresh token, event = .refreshBody refresh (some token) →
      page.session = some token.session) : StaysOwned page after := by
  obtain ⟨client, stepped, rfl⟩ := Option.map_eq_some_iff.mp steps
  have within := owned.step brings stepped
  exact ⟨within.owned, within.carried⟩

/-- The step lemma: every event of the page that comes in time. -/
theorem PageOwned.step {page after : Page ι} (owned : PageOwned page) {event : PageEvent ι}
    (timely : Timely page event) (steps : page.step event = some after) :
    StaysOwned page after := by
  cases event with
  | request request skipAuth => exact owned.clientEvent steps nofun
  | response request status =>
      simp only [Page.step] at steps
      split at steps
      · cases steps
      · exact owned.clientEvent steps nofun
  | networkError request =>
      simp only [Page.step] at steps
      split at steps
      · cases steps
      · exact owned.clientEvent steps nofun
  | refreshResponse refresh ok => exact owned.clientEvent steps nofun
  | refreshBody refresh accessToken =>
      simp only [Page.step] at steps
      split at steps
      · next refreshToken waiters pending =>
        apply owned.clientEvent steps
        rintro other token same
        injection same with _ brought
        obtain ⟨text, present, rfl⟩ := Option.map_eq_some_iff.mp brought
        rcases timely refreshToken.session ⟨_, _, _, pending, rfl⟩ with
          current | ⟨absent, -⟩
        · exact current
        · rw [absent] at present
          cases present
      · cases steps
  | refreshError refresh => exact owned.clientEvent steps nofun
  | mount request =>
      simp only [Page.step] at steps
      split at steps
      · cases steps
        have fetched := Owned.doFetch owned request true (.sent true)
        exact ⟨fetched.owned, fetched.carried⟩
      · cases steps
  | restored accessToken me =>
      simp only [Page.step] at steps
      split at steps
      · next request refreshToken restoring unsent =>
        cases steps
        have brought : Within page.session page.client
            ((page.client.setRequest request (.done (.response 200))).setAccessToken
              (Page.issued refreshToken accessToken)) := by
          refine (Owned.setRequest owned request _).trans (within_setAccessToken ?_)
          intro token issued
          obtain ⟨text, present, rfl⟩ := Option.map_eq_some_iff.mp issued
          rcases timely request refreshToken restoring with current | absent
          · exact current
          · rw [absent] at present
            cases present
        have fetched := brought.trans (brought.owned.doFetch me false (.sent false))
        exact ⟨fetched.owned, fetched.carried⟩
      · cases steps
  | restoreFailed =>
      simp only [Page.step] at steps
      split at steps
      · cases steps
        exact ⟨owned, .refl _ _⟩
      · cases steps
  | loadFailed =>
      simp only [Page.step] at steps
      split at steps
      · split at steps
        · cases steps
          exact ⟨owned, .refl _ _⟩
        · cases steps
      · cases steps
  | loggedIn request accessToken refreshToken me =>
      simp only [Page.step] at steps
      split at steps
      · cases steps
        have opened : Owned (some (page.logins + 1))
            ({ page.client.setRequest request (.done (.response 200)) with
              tokens :=
                { accessToken := some { text := accessToken, session := page.logins + 1 }
                  refreshToken :=
                    some { text := refreshToken, session := page.logins + 1 } } } :
              Client ι SessionToken) := by
          rintro token ⟨⟩
          rfl
        have fetched := opened.doFetch me false (.sent false)
        exact ⟨fetched.owned, fetched.carried⟩
      · cases steps
  | logout =>
      simp only [Page.step] at steps
      cases steps
      exact ⟨nofun, .refl _ _⟩

/-- Events in any order and number that satisfy a condition. -/
def Page.Runs (condition : Page ι → PageEvent ι → Prop) : Page ι → Page ι → Prop :=
  Relation.ReflTransGen fun before after => ∃ event,
    condition before event ∧ before.step event = some after

/-- Where every refresh is answered in its own session, there is no access token without
a session, no request carries a token of another session, and no session ends for a
refresh of an earlier one. -/
theorem sessions_separated (stored : Option String) {page : Page ι}
    (runs : Page.Runs Timely (.start stored) page) :
    SignedOut page ∧ ∀ event after, Timely page event → page.step event = some after →
      SessionKept page event after := by
  have owned : PageOwned page := by
    induction runs with
    | refl => exact nofun
    | tail _ step inductionHypothesis =>
        obtain ⟨event, timely, steps⟩ := step
        exact (inductionHypothesis.step timely steps).1
  refine ⟨owned.signedOut, ?_⟩
  intro event after timely steps
  refine ⟨(owned.step timely steps).2, ?_⟩
  intro session opened fails opens differs
  exact absurd (timely.refreshFails fails opens) differs

end Sessions

/-! ### A refresh that outlives a logout -/

/-- A login whose first request has to refresh its token. -/
def refreshingPage : Option (Page Nat) :=
  [PageEvent.request 0 true, .loggedIn 0 "access-1" "refresh-1" 1, .response 1 401].foldlM
    Page.step (.start none)

/-- The page of the example: a login, and a request whose token has expired. -/
theorem refreshing_runs (condition : Page Nat → PageEvent Nat → Prop)
    (sends : ∀ page, condition page (.request 0 true))
    (logsIn : ∀ page, condition page (.loggedIn 0 "access-1" "refresh-1" 1))
    (expires : ∀ page, condition page (.response 1 401)) :
    ∃ page, refreshingPage = some page ∧ Page.Runs condition (.start none) page := by
  have begins : Page.Runs condition (.start none) (.start none) := .refl
  have sent := begins.tail ⟨.request 0 true, sends _, rfl⟩
  have loggedIn := sent.tail ⟨.loggedIn 0 "access-1" "refresh-1" 1, logsIn _, rfl⟩
  have refreshing := loggedIn.tail ⟨.response 1 401, expires _, rfl⟩
  exact ⟨_, rfl, refreshing⟩

/-- The answer of a refresh comes after the logout, and is kept. -/
theorem refresh_outlives_logout : ∃ page after : Page Nat,
    Page.Runs (fun _ _ => True) (.start none) page ∧
      page.step (.refreshBody 0 (some "access-2")) = some after ∧
      after.client.tokens.accessToken = some { text := "access-2", session := 1 } ∧
      ¬ SignedOut after ∧ ¬ SessionKept page (.refreshBody 0 (some "access-2")) after := by
  obtain ⟨page, found, refreshing⟩ := refreshing_runs (fun _ _ => True) (fun _ => trivial)
    (fun _ => trivial) (fun _ => trivial)
  cases found
  have loggedOut := refreshing.tail ⟨.logout, trivial, rfl⟩
  have reading := loggedOut.tail ⟨.refreshResponse 0 true, trivial, rfl⟩
  refine ⟨_, _, reading, rfl, rfl, ?_, ?_⟩
  · intro signedOut
    cases signedOut rfl
  · rintro ⟨⟨effects, appends, carried⟩, -⟩
    have same : effects = [.refreshSettled 0 (some { text := "access-2", session := 1 }),
        .fetched 1 (some { text := "access-2", session := 1 })] :=
      List.append_cancel_left (appends.symm.trans rfl)
    have ofSession := carried 1 { text := "access-2", session := 1 } (by simp [same])
    cases ofSession

/-- The refresh is answered before the user logs out. -/
theorem sessions_separated_refreshed : ∃ page,
    Page.Runs Timely (.start none) page ∧
      Effect.fetched 1 (some { text := "access-2", session := 1 }) ∈ page.client.effects ∧
      page.session = none ∧ SignedOut page := by
  obtain ⟨page, found, refreshing⟩ := refreshing_runs Timely (fun _ => trivial)
    (fun _ => trivial) (fun _ => trivial)
  cases found
  have reading := refreshing.tail ⟨.refreshResponse 0 true, trivial, rfl⟩
  have answered := reading.tail ⟨.refreshBody 0 (some "access-2"), by
    rintro session ⟨token, readingBody, waiters, pending, rfl⟩
    cases pending
    exact .inl rfl, rfl⟩
  have loggedOut := answered.tail ⟨.logout, trivial, rfl⟩
  refine ⟨_, loggedOut, ?_, rfl, (sessions_separated none loggedOut).1⟩
  exact List.mem_append_right _ (.head _)

end ServersManager
