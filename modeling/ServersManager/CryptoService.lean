/-
Module: ServersManager.CryptoService
Purpose: The framing of encrypted texts, and the payloads that are taken without a whole
  authentication tag.
Trusted boundary: the cipher is a parameter with its laws
Main exports:
  Aes256Gcm, CryptoService, CryptoService.encrypt, CryptoService.decrypt,
  CryptoService.Sealed, CryptoService.ShortTagged, CryptoService.decrypt_sealed_iff,
  short_tag_accepted
-/
import Mathlib.Data.Bool.AllAny
import ServersManager.Library.Base64
import ServersManager.Library.Utf8
import ServersManager.RollbackAudit

namespace ServersManager

open Library

/-! ### The platform's cipher -/

/-- AES-256-GCM without additional data: the tag has sixteen bytes and is computed from the
ciphertext. -/
structure Aes256Gcm where
  encrypt : (key iv plaintext : List UInt8) → List UInt8
  decrypt : (key iv ciphertext : List UInt8) → List UInt8
  tag : (key iv ciphertext : List UInt8) → List UInt8
  decrypt_encrypt : ∀ key iv plaintext, decrypt key iv (encrypt key iv plaintext) = plaintext
  length_tag : ∀ key iv ciphertext, (tag key iv ciphertext).length = 16

/-- What `createCipheriv` and `createDecipheriv` check. -/
def checkCipherParameters (key iv : List UInt8) : Except JsError Unit := do
  if key.length ≠ 32 then
    throw (.error "Invalid key length")
  if iv = [] then
    throw (.typeError "Invalid initialization vector")

/-- The lengths of tag that GCM allows where none is required. -/
def gcmTagLengths : List Nat := [4, 8, 12, 13, 14, 15, 16]

def setAuthTag (authTag : List UInt8) : Except JsError Unit := do
  if authTag.length ∉ gcmTagLengths then
    throw (.typeError ("Invalid authentication tag length: " ++ toString authTag.length))

/-- `update` and `final`: as many bytes of the tag are compared as were given. -/
def decipherFinal (cipher : Aes256Gcm) (key iv authTag encrypted : List UInt8) :
    Except JsError (List UInt8) := do
  if authTag ≠ (cipher.tag key iv encrypted).take authTag.length then
    throw (.error "Unsupported state or unable to authenticate data")
  return cipher.decrypt key iv encrypted

/-! ### `crypto/crypto.service.ts` -/

def ivLengthBytes : Nat := 12

def authTagLengthBytes : Nat := 16

/-- `Buffer.from(text, 'hex')`. -/
def hexBytes : List Char → List UInt8
  | first :: second :: rest =>
      match Json.hexDigit? first, Json.hexDigit? second with
      | some high, some low => UInt8.ofNat (high * 16 + low) :: hexBytes rest
      | _, _ => []
  | _ => []

/-- The service under a secret that the validation of the environment lets through. -/
structure CryptoService where
  cipher : Aes256Gcm
  sshKeyEncryptionSecret : String
  hex : ∀ c ∈ sshKeyEncryptionSecret.toList, (Json.hexDigit? c).isSome
  length : sshKeyEncryptionSecret.length = 64

namespace CryptoService

def key (service : CryptoService) : List UInt8 :=
  hexBytes service.sshKeyEncryptionSecret.toList

/-- The text that holds a plaintext under an initialization vector. -/
def frame (service : CryptoService) (iv : List UInt8) (plaintext : String) : String :=
  let encrypted := service.cipher.encrypt service.key iv (Utf8.encode plaintext)
  let authTag := service.cipher.tag service.key iv encrypted
  Base64.encode (iv ++ authTag ++ encrypted)

def encrypt (service : CryptoService) (iv : List UInt8) (plaintext : String) :
    Except JsError String := do
  checkCipherParameters service.key iv
  return service.frame iv plaintext

def decrypt (service : CryptoService) (ciphertext : String) : Except JsError String := do
  let payload := Base64.forgivingDecode ciphertext
  let iv := payload.take ivLengthBytes
  let authTag := (payload.drop ivLengthBytes).take authTagLengthBytes
  let encrypted := payload.drop (ivLengthBytes + authTagLengthBytes)
  checkCipherParameters service.key iv
  setAuthTag authTag
  let decrypted ← decipherFinal service.cipher service.key iv authTag encrypted
  return Utf8.decode decrypted

/-- The platform whose cipher is this service's. -/
def platform (service : CryptoService) (others : Platform) : Platform :=
  { others with
    encrypt := service.frame
    decrypt := service.decrypt }

/-! ### Payloads -/

section Payloads

variable (service : CryptoService) (payload : List UInt8)

/-- An initialization vector, the whole tag of the rest, and the rest. -/
def Sealed : Prop :=
  ∃ iv authTag encrypted, payload = iv ++ authTag ++ encrypted ∧ iv.length = 12 ∧
    authTag.length = 16 ∧ authTag = service.cipher.tag service.key iv encrypted

/-- An initialization vector and a beginning of the empty message's tag that has a length
GCM allows. -/
def ShortTagged : Prop :=
  ∃ iv authTag, payload = iv ++ authTag ∧ iv.length = 12 ∧
    authTag.length ∈ [4, 8, 12, 13, 14, 15] ∧ authTag <+: service.cipher.tag service.key iv []

end Payloads

/-! ### What is accepted -/

theorem length_hexBytes {chars : List Char} {count : Nat}
    (hex : ∀ c ∈ chars, (Json.hexDigit? c).isSome) (even : chars.length = 2 * count) :
    (hexBytes chars).length = count := by
  induction count generalizing chars with
  | zero =>
      rw [List.eq_nil_of_length_eq_zero even]
      rfl
  | succ count inductionHypothesis =>
      rcases chars with - | ⟨first, - | ⟨second, rest⟩⟩
      · simp at even
      · simp at even
        omega
      · obtain ⟨high, isHigh⟩ := Option.isSome_iff_exists.mp (hex first (.head _))
        obtain ⟨low, isLow⟩ := Option.isSome_iff_exists.mp (hex second (.tail _ (.head _)))
        have shorter : rest.length = 2 * count := by
          simp only [List.length_cons] at even
          omega
        rw [hexBytes, isHigh, isLow]
        dsimp only
        rw [List.length_cons, inductionHypothesis
          (fun c member => hex c (.tail _ (.tail _ member))) shorter]

section Service

variable (service : CryptoService)

theorem length_key : service.key.length = 32 := by
  apply length_hexBytes service.hex
  rw [String.length_toList, service.length]

theorem checkCipherParameters_key {iv : List UInt8} (present : iv ≠ []) :
    checkCipherParameters service.key iv = .ok () := by
  unfold checkCipherParameters
  rw [if_neg (not_not.mpr service.length_key), if_neg present]
  rfl

theorem setAuthTag_eq_ok {authTag : List UInt8} :
    setAuthTag authTag = .ok () ↔ authTag.length ∈ gcmTagLengths := by
  unfold setAuthTag
  split
  · next excluded =>
    apply iff_of_false
    · intro same
      cases same
    · exact excluded
  · next allowed =>
    exact iff_of_true rfl (not_not.mp allowed)

theorem decipherFinal_eq_ok {cipher : Aes256Gcm}
    {key iv authTag encrypted decrypted : List UInt8} :
    decipherFinal cipher key iv authTag encrypted = .ok decrypted ↔
      authTag <+: cipher.tag key iv encrypted ∧
        decrypted = cipher.decrypt key iv encrypted := by
  rw [List.prefix_iff_eq_take]
  unfold decipherFinal
  split
  · next different =>
    constructor
    · intro same
      cases same
    · intro authentic
      exact absurd authentic.1 different
  · next same =>
    constructor
    · intro decrypts
      cases decrypts
      exact ⟨not_not.mp same, rfl⟩
    · rintro ⟨-, rfl⟩
      rfl

/-- A payload is accepted if the bytes after the twelfth, sixteen at most, are a tag of an
allowed length and the beginning of the right one. -/
theorem decrypt_eq_ok {ciphertext text : String} {payload : List UInt8}
    (decoded : Base64.forgivingDecode ciphertext = payload) :
    service.decrypt ciphertext = .ok text ↔
      ((payload.drop 12).take 16).length ∈ gcmTagLengths ∧
        (payload.drop 12).take 16 <+:
          service.cipher.tag service.key (payload.take 12) (payload.drop 28) ∧
        text = Utf8.decode
          (service.cipher.decrypt service.key (payload.take 12) (payload.drop 28)) := by
  unfold decrypt
  rw [decoded]
  simp only [ivLengthBytes, authTagLengthBytes]
  constructor
  · intro decrypts
    obtain ⟨_, -, decrypts⟩ := bind_eq_ok.mp decrypts
    obtain ⟨_, allowed, decrypts⟩ := bind_eq_ok.mp decrypts
    obtain ⟨decrypted, final, decrypts⟩ := bind_eq_ok.mp decrypts
    obtain ⟨authentic, rfl⟩ := decipherFinal_eq_ok.mp final
    cases decrypts
    exact ⟨setAuthTag_eq_ok.mp allowed, authentic, rfl⟩
  · rintro ⟨allowed, authentic, rfl⟩
    have present : payload.take 12 ≠ [] := by
      intro empty
      have short : payload = [] := by simpa using empty
      rw [short] at allowed
      exact absurd allowed (by decide)
    apply bind_eq_ok.mpr
    refine ⟨(), service.checkCipherParameters_key present, ?_⟩
    apply bind_eq_ok.mpr
    refine ⟨(), setAuthTag_eq_ok.mpr allowed, ?_⟩
    apply bind_eq_ok.mpr
    exact ⟨_, decipherFinal_eq_ok.mpr ⟨authentic, rfl⟩, rfl⟩

/-- A sealed payload is accepted under its tag. -/
theorem decrypt_frame {iv : List UInt8} (length : iv.length = 12) (plaintext : String) :
    service.decrypt (service.frame iv plaintext) = .ok plaintext := by
  have tagLength := service.cipher.length_tag service.key iv
    (service.cipher.encrypt service.key iv (Utf8.encode plaintext))
  apply (service.decrypt_eq_ok (Base64.forgivingDecode_encode _)).mpr
  rw [List.append_assoc, List.take_left' length, List.drop_left' length,
    List.take_left' tagLength, ← List.append_assoc, List.drop_left' (by
      rw [List.length_append, length, tagLength]), service.cipher.decrypt_encrypt]
  refine ⟨?_, List.prefix_refl _, (Utf8.decode_encode plaintext).symm⟩
  rw [tagLength]
  decide

/-- A payload that is accepted is sealed, or its tag is too short. -/
theorem sealed_or_shortTagged {payload : List UInt8}
    (allowed : ((payload.drop 12).take 16).length ∈ gcmTagLengths)
    (authentic : (payload.drop 12).take 16 <+:
      service.cipher.tag service.key (payload.take 12) (payload.drop 28)) :
    service.Sealed payload ∨ service.ShortTagged payload := by
  have long : 4 ≤ ((payload.drop 12).take 16).length := by
    have each : ∀ length ∈ gcmTagLengths, 4 ≤ length := by decide
    exact each _ allowed
  have ivLength : (payload.take 12).length = 12 := by
    rw [List.length_take, List.length_drop] at long
    rw [List.length_take]
    omega
  by_cases whole : ((payload.drop 12).take 16).length = 16
  · left
    refine ⟨_, _, payload.drop 28, ?_, ivLength, whole, ?_⟩
    · have parts : payload.drop 28 = (payload.drop 12).drop 16 := by rw [List.drop_drop]
      rw [parts, List.append_assoc, List.take_append_drop, List.take_append_drop]
    · exact authentic.eq_of_length (whole.trans (service.cipher.length_tag _ _ _).symm)
  · right
    have short : payload.length < 28 := by
      rw [List.length_take, List.length_drop] at whole
      omega
    have rest : (payload.drop 12).take 16 = payload.drop 12 :=
      List.take_of_length_le (by rw [List.length_drop]; omega)
    rw [List.drop_eq_nil_of_le (Nat.le_of_lt short)] at authentic
    refine ⟨_, _, ?_, ivLength, ?_, authentic⟩
    · rw [rest, List.take_append_drop]
    · have each : ∀ length ∈ gcmTagLengths, length ≠ 16 → length ∈ [4, 8, 12, 13, 14, 15] := by
        decide
      exact each _ allowed whole

/-- A payload with a short tag is accepted. -/
theorem decrypt_shortTagged {ciphertext : String}
    (short : service.ShortTagged (Base64.forgivingDecode ciphertext)) :
    ∃ text, service.decrypt ciphertext = .ok text := by
  obtain ⟨iv, authTag, decoded, ivLength, allowed, authentic⟩ := short
  have each : ∀ length ∈ [4, 8, 12, 13, 14, 15], length ∈ gcmTagLengths ∧ length ≤ 16 := by
    decide
  obtain ⟨valid, atMost⟩ := each _ allowed
  refine ⟨_, (service.decrypt_eq_ok decoded).mpr ⟨?_, ?_, rfl⟩⟩
  · rw [List.drop_left' ivLength, List.take_of_length_le atMost]
    exact valid
  · rw [List.drop_left' ivLength, List.take_of_length_le atMost, List.take_left' ivLength,
      List.drop_eq_nil_of_le (by rw [List.length_append]; omega)]
    exact authentic

theorem not_sealed_of_shortTagged {payload : List UInt8}
    (short : service.ShortTagged payload) : ¬ service.Sealed payload := by
  obtain ⟨iv, authTag, rfl, ivLength, allowed, -⟩ := short
  rintro ⟨otherIv, otherTag, encrypted, same, otherLength, tagLength, -⟩
  have each : ∀ length ∈ [4, 8, 12, 13, 14, 15], length < 16 := by decide
  have small := each _ allowed
  have lengths := congrArg List.length same
  simp only [List.length_append] at lengths
  omega

end Service

/-- Every framed text is read back, also where it is the text of a configuration; and what
is accepted is sealed exactly if it is not a payload with a short tag. -/
theorem decrypt_sealed_iff (service : CryptoService) (others : Platform) :
    (∀ (iv : Vector UInt8 12) (plaintext : String), ∃ ciphertext,
      service.encrypt iv.toList plaintext = .ok ciphertext ∧
        service.decrypt ciphertext = .ok plaintext) ∧
    (∀ (iv : Vector UInt8 12) (config : DeploymentConfigBlob) (snapshot : DeploymentSnapshot),
      snapshot.configBlob =
          (service.platform others).encrypt iv.toList (Json.stringify config.toJson) →
        decryptConfig (service.platform others) snapshot = .ok config.toJson) ∧
    (∀ (iv : Vector UInt8 12) (text : String) (config : Json) (rule : AlertRule),
      Json.parse text = some config →
        rule.channelConfigEncrypted = (service.platform others).encrypt iv.toList text →
          parseChannelConfig (service.platform others) rule = .ok config) ∧
    ∀ ciphertext,
      (∀ text, service.decrypt ciphertext = .ok text →
        service.Sealed (Base64.forgivingDecode ciphertext)) ↔
      ¬ service.ShortTagged (Base64.forgivingDecode ciphertext) := by
  have opened : ∀ (iv : Vector UInt8 12) (plaintext : String),
      service.decrypt (service.frame iv.toList plaintext) = .ok plaintext :=
    fun iv plaintext => service.decrypt_frame Vector.length_toList plaintext
  refine ⟨?_, ?_, ?_, ?_⟩
  · intro iv plaintext
    have present : iv.toList ≠ [] := by
      intro empty
      have length : iv.toList.length = 12 := Vector.length_toList
      rw [empty] at length
      cases length
    refine ⟨service.frame iv.toList plaintext, ?_, opened iv plaintext⟩
    exact bind_eq_ok.mpr ⟨(), service.checkCipherParameters_key present, rfl⟩
  · intro iv config snapshot stored
    apply decryptConfig_stored
    rw [stored]
    exact opened iv _
  · intro iv text config rule reads stored
    unfold parseChannelConfig
    rw [stored]
    apply bind_eq_ok.mpr
    refine ⟨text, opened iv text, ?_⟩
    rw [reads]
    rfl
  · intro ciphertext
    constructor
    · intro sealed short
      obtain ⟨text, decrypts⟩ := service.decrypt_shortTagged short
      exact service.not_sealed_of_shortTagged short (sealed text decrypts)
    · intro notShort text decrypts
      obtain ⟨allowed, authentic, -⟩ := (service.decrypt_eq_ok rfl).mp decrypts
      rcases service.sealed_or_shortTagged allowed authentic with isSealed | short
      · exact isSealed
      · exact absurd short notShort

end CryptoService

/-- The cipher under the key and the initialization vector of zeros, on the empty message. -/
def zeroKeyGcm : Aes256Gcm where
  encrypt _ _ plaintext := plaintext
  decrypt _ _ ciphertext := ciphertext
  tag _ _ _ := [0x53, 0x0f, 0x8a, 0xfb, 0xc7, 0x45, 0x36, 0xb9,
    0xa9, 0x63, 0xb4, 0xf1, 0xc4, 0xcb, 0x73, 0x8b]
  decrypt_encrypt _ _ _ := rfl
  length_tag _ _ _ := rfl

def zeroKeyService : CryptoService where
  cipher := zeroKeyGcm
  sshKeyEncryptionSecret := "0000000000000000000000000000000000000000000000000000000000000000"
  hex := List.all_iff_forall_prop.mp (by decide +kernel)
  length := by decide +kernel

/-- An initialization vector and the first four bytes of the empty message's tag are
accepted. -/
theorem short_tag_accepted :
    zeroKeyService.decrypt "AAAAAAAAAAAAAAAAUw+K+w==" = .ok "" ∧
      ¬ zeroKeyService.Sealed (Base64.forgivingDecode "AAAAAAAAAAAAAAAAUw+K+w==") := by
  have decoded : Base64.forgivingDecode "AAAAAAAAAAAAAAAAUw+K+w==" =
      List.replicate 12 0 ++ [0x53, 0x0f, 0x8a, 0xfb] := by
    decide +kernel
  constructor
  · apply (zeroKeyService.decrypt_eq_ok decoded).mpr
    refine ⟨by decide, ?_, ?_⟩
    · exact ⟨(zeroKeyGcm.tag [] [] []).drop 4, rfl⟩
    · exact (Utf8.decode_encode "").symm
  · rw [decoded]
    apply CryptoService.not_sealed_of_shortTagged
    refine ⟨List.replicate 12 0, [0x53, 0x0f, 0x8a, 0xfb], rfl, rfl, by decide, ?_⟩
    exact ⟨(zeroKeyGcm.tag [] [] []).drop 4, rfl⟩

end ServersManager
