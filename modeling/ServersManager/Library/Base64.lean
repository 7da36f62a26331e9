/-
Module: ServersManager.Library.Base64
Purpose: The base64 encoding of a byte sequence, its strict reading and the forgiving
  one of the common decoders.
Trusted boundary: human-reviewed encoding
Main exports:
  Base64.encode, Base64.mem_encode, Base64.decode, Base64.decode_encode,
  Base64.forgivingDecode, Base64.forgivingDecode_encode, Base64.length_encode
-/
import Mathlib.Data.List.GetD

namespace Library

namespace Base64

/-- The digits, by value. -/
def alphabet : List Char :=
  "ABCDEFGHIJKLMNOPQRSTUVWXYZabcdefghijklmnopqrstuvwxyz0123456789+/".toList

def digit (value : Nat) : Char :=
  alphabet.getD value 'A'

/-- Three bytes are four digits; a shorter last group is padded. -/
def encodeChars : List UInt8 → List Char
  | [] => []
  | [a] =>
      [digit (a.toNat / 4), digit (a.toNat % 4 * 16), '=', '=']
  | [a, b] =>
      [digit (a.toNat / 4), digit (a.toNat % 4 * 16 + b.toNat / 16),
        digit (b.toNat % 16 * 4), '=']
  | a :: b :: c :: rest =>
      digit (a.toNat / 4) :: digit (a.toNat % 4 * 16 + b.toNat / 16) ::
        digit (b.toNat % 16 * 4 + c.toNat / 64) :: digit (c.toNat % 64) ::
        encodeChars rest

def encode (bytes : List UInt8) : String :=
  String.ofList (encodeChars bytes)

theorem digit_mem (value : Nat) : digit value ∈ alphabet := by
  rw [digit, List.getD_eq_getElem?_getD]
  cases found : alphabet[value]? with
  | none => decide
  | some c => exact List.mem_of_getElem? found

/-- The characters an encoding is made of. -/
theorem mem_encodeChars {bytes : List UInt8} :
    ∀ c ∈ encodeChars bytes, c ∈ '=' :: alphabet := by
  intro c member
  fun_induction encodeChars bytes with
  | case1 => cases member
  | case2 a =>
      simp only [List.mem_cons, List.not_mem_nil, or_false] at member
      rcases member with rfl | rfl | rfl | rfl
      · exact .tail _ (digit_mem _)
      · exact .tail _ (digit_mem _)
      · exact .head _
      · exact .head _
  | case3 a b =>
      simp only [List.mem_cons, List.not_mem_nil, or_false] at member
      rcases member with rfl | rfl | rfl | rfl
      · exact .tail _ (digit_mem _)
      · exact .tail _ (digit_mem _)
      · exact .tail _ (digit_mem _)
      · exact .head _
  | case4 a b c rest inductionHypothesis =>
      simp only [List.mem_cons] at member
      rcases member with rfl | rfl | rfl | rfl | member
      · exact .tail _ (digit_mem _)
      · exact .tail _ (digit_mem _)
      · exact .tail _ (digit_mem _)
      · exact .tail _ (digit_mem _)
      · exact inductionHypothesis member

/-- An encoding has digits and padding only. -/
theorem mem_encode {bytes : List UInt8} {c : Char}
    (member : c ∈ (encode bytes).toList) : c ∈ '=' :: alphabet := by
  rw [encode, String.toList_ofList] at member
  exact mem_encodeChars c member

/-- The length of an encoding: four digits for every three bytes begun. -/
theorem length_encode (bytes : List UInt8) :
    (encode bytes).length = 4 * ((bytes.length + 2) / 3) := by
  rw [encode, String.length_ofList]
  fun_induction encodeChars bytes with
  | case1 => rfl
  | case2 a => simp
  | case3 a b => simp
  | case4 a b c rest inductionHypothesis =>
      simp only [List.length_cons, inductionHypothesis]
      omega

/-! ### Reading back -/

/-- The value of a digit. -/
def value? (c : Char) : Option Nat :=
  if c ∈ alphabet then some (alphabet.idxOf c) else none

theorem alphabet_eq :
    alphabet = ['A', 'B', 'C', 'D', 'E', 'F', 'G', 'H', 'I', 'J', 'K', 'L', 'M', 'N', 'O', 'P',
      'Q', 'R', 'S', 'T', 'U', 'V', 'W', 'X', 'Y', 'Z', 'a', 'b', 'c', 'd', 'e', 'f',
      'g', 'h', 'i', 'j', 'k', 'l', 'm', 'n', 'o', 'p', 'q', 'r', 's', 't', 'u', 'v',
      'w', 'x', 'y', 'z', '0', '1', '2', '3', '4', '5', '6', '7', '8', '9', '+', '/'] := by
  decide

theorem alphabet_length : alphabet.length = 64 := by
  rw [alphabet_eq]
  rfl

theorem alphabet_nodup : alphabet.Nodup := by
  rw [alphabet_eq]
  decide

/-- A digit is read back. -/
theorem value?_digit {value : Nat} (small : value < 64) :
    value? (digit value) = some value := by
  have inside : value < alphabet.length := by rwa [alphabet_length]
  have same : digit value = alphabet[value] := List.getD_eq_getElem _ _ inside
  rw [value?, if_pos (digit_mem value), same, alphabet_nodup.idxOf_getElem]

theorem digit_ne {c : Char} (absent : c ∉ alphabet) (value : Nat) : digit value ≠ c := by
  rintro rfl
  exact absent (digit_mem value)

theorem digit_ne_padding (value : Nat) : digit value ≠ '=' :=
  digit_ne (by rw [alphabet_eq]; decide) value

/-- The bytes that four digits stand for. -/
def quartet (w x y z : Nat) : List UInt8 :=
  [UInt8.ofNat (w * 4 + x / 16), UInt8.ofNat (x % 16 * 16 + y / 4),
    UInt8.ofNat (y % 4 * 64 + z)]

/-- The strict reading: groups of four digits, padding only at the end, and no bits left
over. -/
def decodeChars : List Char → Option (List UInt8)
  | [] => some []
  | a :: b :: c :: d :: rest => do
      let w ← value? a
      let x ← value? b
      if c = '=' ∧ d = '=' ∧ rest = [] then
        if x % 16 = 0 then some ((quartet w x 0 0).take 1) else none
      else
        let y ← value? c
        if d = '=' ∧ rest = [] then
          if y % 4 = 0 then some ((quartet w x y 0).take 2) else none
        else
          let z ← value? d
          let more ← decodeChars rest
          return quartet w x y z ++ more
  | _ => none

def decode (text : String) : Option (List UInt8) :=
  decodeChars text.toList

/-- The value of a digit of the usual or of the URL alphabet. -/
def forgivingValue? (c : Char) : Option Nat :=
  if c = '-' then some 62 else if c = '_' then some 63 else value? c

/-- The bytes that any number of digits stand for; bits that make no byte are dropped. -/
def bytesOf : List Nat → List UInt8
  | w :: x :: y :: z :: rest => quartet w x y z ++ bytesOf rest
  | [w, x, y] => (quartet w x y 0).take 2
  | [w, x] => (quartet w x 0 0).take 1
  | _ => []

/-- The reading that ends at the first padding character and passes over every character
that is no digit. -/
def forgivingDecode (text : String) : List UInt8 :=
  bytesOf ((text.toList.takeWhile (· ≠ '=')).filterMap forgivingValue?)

theorem quartet_take_one (a : UInt8) :
    (quartet (a.toNat / 4) (a.toNat % 4 * 16) 0 0).take 1 = [a] := by
  have value : a.toNat / 4 * 4 + a.toNat % 4 * 16 / 16 = a.toNat := by omega
  simp only [quartet, List.take_succ_cons, List.take_zero, value, UInt8.ofNat_toNat]

theorem quartet_take_two (a b : UInt8) :
    (quartet (a.toNat / 4) (a.toNat % 4 * 16 + b.toNat / 16) (b.toNat % 16 * 4) 0).take 2 =
      [a, b] := by
  have := b.toNat_lt
  have first : a.toNat / 4 * 4 + (a.toNat % 4 * 16 + b.toNat / 16) / 16 = a.toNat := by omega
  have second : (a.toNat % 4 * 16 + b.toNat / 16) % 16 * 16 + b.toNat % 16 * 4 / 4 =
      b.toNat := by omega
  simp only [quartet, List.take_succ_cons, List.take_zero, first, second, UInt8.ofNat_toNat]

/-- Four digits give the three bytes they were made of. -/
theorem quartet_eq (a b c : UInt8) :
    quartet (a.toNat / 4) (a.toNat % 4 * 16 + b.toNat / 16)
      (b.toNat % 16 * 4 + c.toNat / 64) (c.toNat % 64) = [a, b, c] := by
  have := b.toNat_lt
  have := c.toNat_lt
  have first : a.toNat / 4 * 4 + (a.toNat % 4 * 16 + b.toNat / 16) / 16 = a.toNat := by omega
  have second : (a.toNat % 4 * 16 + b.toNat / 16) % 16 * 16 +
      (b.toNat % 16 * 4 + c.toNat / 64) / 4 = b.toNat := by omega
  have third : (b.toNat % 16 * 4 + c.toNat / 64) % 4 * 64 + c.toNat % 64 = c.toNat := by omega
  simp only [quartet, first, second, third, UInt8.ofNat_toNat]

/-- The round trip. -/
theorem decode_encode (bytes : List UInt8) : decode (encode bytes) = some bytes := by
  rw [decode, encode, String.toList_ofList]
  fun_induction encodeChars bytes with
  | case1 => rfl
  | case2 a =>
      have := a.toNat_lt
      rw [decodeChars, value?_digit (by omega), value?_digit (by omega)]
      have aligned : a.toNat % 4 * 16 % 16 = 0 := by omega
      simp only [Option.bind_eq_bind, Option.bind_some, aligned, and_self, if_true]
      rw [quartet_take_one]
  | case3 a b =>
      have := a.toNat_lt
      have := b.toNat_lt
      rw [decodeChars, value?_digit (by omega), value?_digit (by omega),
        value?_digit (by omega)]
      have aligned : b.toNat % 16 * 4 % 4 = 0 := by omega
      simp only [Option.bind_eq_bind, Option.bind_some, digit_ne_padding, false_and,
        if_false, aligned, and_self, if_true]
      rw [quartet_take_two]
  | case4 a b c rest inductionHypothesis =>
      have := a.toNat_lt
      have := b.toNat_lt
      have := c.toNat_lt
      rw [decodeChars, value?_digit (by omega), value?_digit (by omega),
        value?_digit (by omega), value?_digit (by omega), inductionHypothesis]
      simp only [Option.bind_eq_bind, Option.bind_some, digit_ne_padding, false_and,
        if_false]
      rw [quartet_eq]
      rfl

theorem forgivingValue?_digit {value : Nat} (small : value < 64) :
    forgivingValue? (digit value) = some value := by
  have noMinus : digit value ≠ '-' := digit_ne (by rw [alphabet_eq]; decide) value
  have noLow : digit value ≠ '_' := digit_ne (by rw [alphabet_eq]; decide) value
  rw [forgivingValue?, if_neg noMinus, if_neg noLow, value?_digit small]

/-- A digit read forgivingly. -/
private theorem sextets_cons {value : Nat} (small : value < 64) (chars : List Char) :
    ((digit value :: chars).takeWhile (· ≠ '=')).filterMap forgivingValue? =
      value :: (chars.takeWhile (· ≠ '=')).filterMap forgivingValue? := by
  have isDigit : decide (digit value ≠ '=') = true := decide_eq_true (digit_ne_padding value)
  rw [List.takeWhile_cons, isDigit, if_pos rfl,
    List.filterMap_cons_some (forgivingValue?_digit small)]

private theorem sextets_padding (chars : List Char) :
    (('=' :: chars).takeWhile (· ≠ '=')).filterMap forgivingValue? = [] := by
  simp

/-- A forgiving reader reads it as well. -/
theorem forgivingDecode_encode (bytes : List UInt8) :
    forgivingDecode (encode bytes) = bytes := by
  rw [forgivingDecode, encode, String.toList_ofList]
  fun_induction encodeChars bytes with
  | case1 => rfl
  | case2 a =>
      have := a.toNat_lt
      rw [sextets_cons (by omega), sextets_cons (by omega), sextets_padding]
      exact quartet_take_one a
  | case3 a b =>
      have := a.toNat_lt
      have := b.toNat_lt
      rw [sextets_cons (by omega), sextets_cons (by omega), sextets_cons (by omega),
        sextets_padding]
      exact quartet_take_two a b
  | case4 a b c rest inductionHypothesis =>
      have := a.toNat_lt
      have := b.toNat_lt
      have := c.toNat_lt
      rw [sextets_cons (by omega), sextets_cons (by omega), sextets_cons (by omega),
        sextets_cons (by omega), bytesOf, inductionHypothesis, quartet_eq]
      rfl

end Base64

end Library
