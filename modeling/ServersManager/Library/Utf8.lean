/-
Module: ServersManager.Library.Utf8
Purpose: The UTF-8 bytes of a text and the forgiving reading of bytes as text.
Trusted boundary: human-reviewed encoding
Main exports:
  Utf8.encode, Utf8.decode, Utf8.decode_encode
-/
import Mathlib.Data.List.Basic

namespace Library

namespace Utf8

def encode (text : String) : List UInt8 :=
  text.toUTF8.data.toList

/-! ### Reading -/

def isContinuation (byte : UInt8) : Bool :=
  0x80 ≤ byte && byte ≤ 0xBF

/-- The bytes that may follow a first byte of a sequence of three or four. -/
def secondRange (first : UInt8) : Option (UInt8 × UInt8) :=
  if first = 0xE0 then some (0xA0, 0xBF)
  else if first = 0xED then some (0x80, 0x9F)
  else if 0xE1 ≤ first ∧ first ≤ 0xEF then some (0x80, 0xBF)
  else if first = 0xF0 then some (0x90, 0xBF)
  else if first = 0xF4 then some (0x80, 0x8F)
  else if 0xF1 ≤ first ∧ first ≤ 0xF3 then some (0x80, 0xBF)
  else none

/-- How many bytes one replacement character stands for, at a place where no character
is: the longest part that begins one, or a single byte. -/
def malformedLength : List UInt8 → Nat
  | first :: second :: rest =>
      match secondRange first with
      | none => 1
      | some (lowest, highest) =>
          if second < lowest ∨ highest < second then 1
          else if 0xF0 ≤ first ∧ rest.head?.any isContinuation then 3
          else 2
  | _ => 1

theorem malformedLength_pos (bytes : List UInt8) : 0 < malformedLength bytes := by
  fun_cases malformedLength bytes <;> omega

/-- What is no character is read as replacement characters. -/
def decodeChars : List UInt8 → List Char
  | [] => []
  | first :: rest =>
      match (first :: rest).toByteArray.utf8DecodeChar? 0 with
      | some c => c :: decodeChars ((first :: rest).drop c.utf8Size)
      | none => '\uFFFD' :: decodeChars ((first :: rest).drop (malformedLength (first :: rest)))
termination_by bytes => bytes.length
decreasing_by
  · have := c.utf8Size_pos
    rw [List.length_drop, List.length_cons]
    omega
  · have := malformedLength_pos (first :: rest)
    rw [List.length_drop, List.length_cons]
    omega

def decode (bytes : List UInt8) : String :=
  String.ofList (decodeChars bytes)

/-! ### Encoded texts -/

theorem encode_eq (text : String) : encode text = text.toList.flatMap String.utf8EncodeChar := by
  have same : text.toByteArray = text.toList.utf8Encode := by
    rw [← String.toByteArray_ofList, String.ofList_toList]
  rw [encode, String.toUTF8_eq_toByteArray, same, List.utf8Encode, List.data_toByteArray,
    List.toList_toArray]

/-- Encoded characters are decoded one by one. -/
theorem decodeChars_encoded (chars : List Char) :
    decodeChars (chars.flatMap String.utf8EncodeChar) = chars := by
  induction chars with
  | nil =>
      rw [List.flatMap_nil, decodeChars]
  | cons c chars inductionHypothesis =>
      have read : (String.utf8EncodeChar c ++
          chars.flatMap String.utf8EncodeChar).toByteArray.utf8DecodeChar? 0 = some c := by
        rw [List.toByteArray_append, ByteArray.utf8DecodeChar?_utf8EncodeChar_append]
      have dropped : (String.utf8EncodeChar c ++
          chars.flatMap String.utf8EncodeChar).drop c.utf8Size =
            chars.flatMap String.utf8EncodeChar := by
        rw [← String.length_utf8EncodeChar, List.drop_left]
      rw [List.flatMap_cons]
      cases encoded : String.utf8EncodeChar c ++ chars.flatMap String.utf8EncodeChar with
      | nil => exact absurd (List.append_eq_nil_iff.mp encoded).1 String.utf8EncodeChar_ne_nil
      | cons first rest =>
          rw [encoded] at read dropped
          rw [decodeChars, read]
          dsimp only
          rw [dropped, inductionHypothesis]

/-- The round trip of a text. -/
theorem decode_encode (text : String) : decode (encode text) = text := by
  rw [decode, encode_eq, decodeChars_encoded, String.ofList_toList]

end Utf8

end Library
