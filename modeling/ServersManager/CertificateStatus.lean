/-
Module: ServersManager.CertificateStatus
Purpose: What the reported status of a certificate says about its expiry date.
Trusted boundary: none
Main exports:
  Reports, performTlsCheck_run, SoundStatus, ReadableExpiry, reports_sound_iff,
  unreadable_expiry_is_valid
-/
import ServersManager.DomainCheck

namespace ServersManager

open Library

/-! ### The check of one certificate -/

/-- The status of a presented certificate, at a time. -/
def presentedStatus (platform : Platform) (certificate : PeerCertificate) (now : Date) :
    SslCertificateStatus :=
  match certificateDate platform certificate.validTo with
  | none => .invalid
  | some validTo => computeSslStatusFromValidTo validTo now

section Run

variable {σ : Type} {machine : Machine Calls JsError σ} {state connected after : σ}

/-- A handshake that completes with a certificate is reported, whatever the certificate
holds. -/
theorem performTlsCheck_run (platform : Platform) {resolvedIp hostname : String}
    {session : TlsSession} {certificate : PeerCertificate} {checkedAt : Date}
    (handshake : machine (.tlsConnect resolvedIp hostname) state = (.ok session, connected))
    (presented : session.certificate = some certificate)
    (clock : machine Call.now connected = (.ok checkedAt, after)) :
    ∃ result ended, (performTlsCheck platform resolvedIp hostname).run machine state =
      (.ok result, ended) ∧ result.status = presentedStatus platform certificate checkedAt := by
  unfold performTlsCheck
  rw [Program.tryCatch_eq, Program.run_tryCatch, Program.bind_eq, Program.run_bind,
    run_request, handshake]
  dsimp only [resume]
  rw [presented]
  simp only [Program.bind_eq, Program.run_bind, Program.pure_eq, computeStatus]
  unfold presentedStatus
  cases certificateDate platform certificate.validTo with
  | none => exact ⟨_, _, rfl, rfl⟩
  | some validTo =>
      simp only [Program.run_bind, now]
      rw [run_request machine Call.now, clock]
      exact ⟨_, _, rfl, rfl⟩

end Run

/-- On some completed handshake the certificate is presented, and the check then made
at this time reports this status. -/
def Reports (platform : Platform) (certificate : PeerCertificate) (now : Date)
    (status : SslCertificateStatus) : Prop :=
  ∃ (σ : Type) (machine : Machine Calls JsError σ) (state connected after ended : σ)
    (resolvedIp hostname : String) (session : TlsSession) (result : TlsCheckResult),
    machine (Call.tlsConnect resolvedIp hostname) state = (.ok session, connected) ∧
      session.certificate = some certificate ∧
      machine Call.now connected = (.ok now, after) ∧
      (performTlsCheck platform resolvedIp hostname).run machine state = (.ok result, ended) ∧
      result.status = status

/-- A peer that presents a certificate, at a time. -/
def presenting (certificate : PeerCertificate) : Surroundings :=
  { Surroundings.quiet with
    session := { certificate := some certificate, authorized := false
                 authorizationError := none } }

theorem reports_iff (platform : Platform) (certificate : PeerCertificate) (now : Date)
    (status : SslCertificateStatus) :
    Reports platform certificate now status ↔
      status = presentedStatus platform certificate now := by
  constructor
  · rintro ⟨σ, machine, state, connected, after, ended, resolvedIp, hostname, session, result,
      handshake, presented, clock, checked, same⟩
    obtain ⟨reported, endedThere, runs, known⟩ :=
      performTlsCheck_run platform handshake presented clock
    rw [checked] at runs
    cases runs
    rw [← same, known]
  · rintro rfl
    have handshake : (presenting certificate).machine (.tlsConnect "" "")
        { (default : Database) with clock := now } =
          (.ok (presenting certificate).session, { (default : Database) with clock := now }) :=
      rfl
    have clock : (presenting certificate).machine Call.now
        { (default : Database) with clock := now } =
          (.ok now, { (default : Database) with clock := now }) := rfl
    obtain ⟨result, ended, runs, known⟩ := performTlsCheck_run platform handshake rfl clock
    exact ⟨_, _, _, _, _, _, _, _, _, _, rfl, rfl, rfl, runs, known⟩

/-! ### What a status promises -/

/-- What each reported status says about the expiry date. -/
structure SoundStatus (platform : Platform) (certificate : PeerCertificate) (now : Date)
    (status : SslCertificateStatus) : Prop where
  valid : status = .valid → ∃ text validTo, certificate.validTo = some text ∧
    platform.parseDate text = some validTo ∧
      now + sslExpiryWarningDays * msPerDay < validTo
  expiringSoon : status = .expiringSoon → ∃ text validTo, certificate.validTo = some text ∧
    platform.parseDate text = some validTo ∧ now ≤ validTo ∧
      validTo ≤ now + sslExpiryWarningDays * msPerDay
  expired : status = .expired → ∃ text validTo, certificate.validTo = some text ∧
    platform.parseDate text = some validTo ∧ validTo < now
  invalid : (∀ text, certificate.validTo = some text → platform.parseDate text = none) →
    status = .invalid

/-- The expiry date is missing, empty, or can be read. -/
def ReadableExpiry (platform : Platform) (certificate : PeerCertificate) : Prop :=
  ∀ text, certificate.validTo = some text → text ≠ "" → (platform.parseDate text).isSome

/-- The first of two statuses comes before the second in a certificate's life. -/
def SslCertificateStatus.Before : SslCertificateStatus → SslCertificateStatus → Prop
  | .valid, .expiringSoon | .valid, .expired | .expiringSoon, .expired => True
  | _, _ => False

/-- A status computed from a date that could be read is right about it. -/
private theorem computed_sound {platform : Platform} {certificate : PeerCertificate}
    {text : String} {validTo : Date} (present : certificate.validTo = some text)
    (read : platform.parseDate text = some validTo) (now : Date) :
    SoundStatus platform certificate now (computeSslStatusFromValidTo (some validTo) now) := by
  unfold computeSslStatusFromValidTo
  dsimp only
  split
  · next early =>
    refine ⟨nofun, nofun, fun _ => ⟨text, validTo, present, read, Int.lt_of_sub_neg early⟩, ?_⟩
    intro unread
    rw [unread text present] at read
    cases read
  · next late =>
    split
    · next soon =>
      refine ⟨nofun, fun _ => ⟨text, validTo, present, read, ?_, ?_⟩, nofun, ?_⟩
      · exact Int.sub_nonneg.mp (Int.not_lt.mp late)
      · exact Int.le_add_of_sub_left_le soon
      · intro unread
        rw [unread text present] at read
        cases read
    · next far =>
      refine ⟨fun _ => ⟨text, validTo, present, read, ?_⟩, nofun, nofun, ?_⟩
      · exact Int.add_lt_of_lt_sub_left (Int.not_le.mp far)
      · intro unread
        rw [unread text present] at read
        cases read

private theorem presentedStatus_sound_iff (platform : Platform) (certificate : PeerCertificate)
    (now : Date) :
    SoundStatus platform certificate now (presentedStatus platform certificate now) ↔
      ReadableExpiry platform certificate := by
  unfold presentedStatus certificateDate
  cases present : certificate.validTo with
  | none =>
      apply iff_of_true
      · exact ⟨nofun, nofun, nofun, fun _ => rfl⟩
      · intro text absent
        rw [present] at absent
        cases absent
  | some text =>
      by_cases empty : text = ""
      · subst empty
        apply iff_of_true
        · exact ⟨nofun, nofun, nofun, fun _ => rfl⟩
        · intro text same nonempty
          rw [present] at same
          exact absurd (Option.some.inj same).symm nonempty
      · simp only [Option.filter_some, decide_not, empty, decide_false, Bool.not_false, if_true,
          Option.map_some]
        cases read : platform.parseDate text with
        | none =>
            apply iff_of_false
            · intro sound
              have unread : ∀ other, certificate.validTo = some other →
                  platform.parseDate other = none := by
                intro other same
                rw [present] at same
                cases same
                exact read
              cases sound.invalid unread
            · intro readable
              have parsed := readable text present empty
              rw [read] at parsed
              cases parsed
        | some validTo =>
            apply iff_of_true
            · exact computed_sound present read now
            · intro other same _
              rw [present] at same
              cases same
              rw [read]
              rfl

/-- As time passes the computed status only moves on. -/
private theorem computed_monotone (validTo : Option Date) {now later : Date}
    (order : now ≤ later) :
    ¬ (computeSslStatusFromValidTo validTo later).Before
      (computeSslStatusFromValidTo validTo now) := by
  cases validTo with
  | none => exact fun absent => absent
  | some validTo =>
      have closer : validTo - later ≤ validTo - now := Int.sub_le_sub_left order validTo
      unfold computeSslStatusFromValidTo
      dsimp only
      by_cases expired : validTo - now < 0
      · rw [if_pos expired, if_pos (Int.lt_of_le_of_lt closer expired)]
        exact fun absent => absent
      · rw [if_neg expired]
        by_cases soon : validTo - now ≤ sslExpiryWarningDays * msPerDay
        · rw [if_pos soon, if_pos (Int.le_trans closer soon)]
          split <;> exact fun absent => absent
        · rw [if_neg soon]
          split
          · exact fun absent => absent
          · split <;> exact fun absent => absent

/-- The reported status is right about the expiry date exactly if the date is missing or
can be read, and it never goes back as time passes. -/
theorem reports_sound_iff (platform : Platform) (certificate : PeerCertificate) (now : Date) :
    ((∀ status, Reports platform certificate now status →
        SoundStatus platform certificate now status) ↔ ReadableExpiry platform certificate) ∧
      ∀ later status statusLater, now ≤ later → Reports platform certificate now status →
        Reports platform certificate later statusLater → ¬ statusLater.Before status := by
  simp only [reports_iff]
  constructor
  · rw [forall_eq]
    exact presentedStatus_sound_iff platform certificate now
  · rintro later _ _ order rfl rfl
    unfold presentedStatus
    cases certificateDate platform certificate.validTo with
    | none => exact fun absent => absent
    | some validTo => exact computed_monotone validTo order

/-- A platform that cannot read this date. -/
def Platform.puzzled : Platform :=
  { Platform.transparent with
    parseDate := fun text => if text = "soon" then none else text.toInt? }

/-- A certificate whose expiry date is no date. -/
def unreadableCertificate : PeerCertificate :=
  { issuer := none
    subject := none
    validFrom := none
    validTo := some "soon" }

/-- It is reported as valid. -/
theorem unreadable_expiry_is_valid :
    Platform.puzzled.parseDate "soon" = none ∧
      Reports .puzzled unreadableCertificate 0 .valid ∧
      ¬ SoundStatus .puzzled unreadableCertificate 0 .valid := by
  have unread : Platform.puzzled.parseDate "soon" = none := rfl
  refine ⟨unread, (reports_iff _ _ _ _).mpr rfl, ?_⟩
  intro sound
  have invalid := sound.invalid fun text same => by
    cases same
    exact unread
  cases invalid

end ServersManager
