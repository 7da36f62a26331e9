/-
Module: ServersManager.Library.Wire
Purpose: Reading a binary format field by field, with big-endian lengths.
Trusted boundary: human-reviewed encoding
Main exports:
  Wire.Reader, Wire.bytes, Wire.uint32, Wire.field, Wire.rest
-/
import Mathlib.Data.List.Basic

namespace Library

namespace Wire

/-- A reader takes what it reads from the front of the input. -/
abbrev Reader := StateT (List UInt8) Option

def bytes (count : Nat) : Reader (List UInt8) :=
  fun input => if count ≤ input.length then some (input.take count, input.drop count) else none

/-- The value of a big-endian number. -/
def bigEndian (digits : List UInt8) : Nat :=
  digits.foldl (fun value digit => value * 256 + digit.toNat) 0

def uint32 : Reader Nat := do
  return bigEndian (← bytes 4)

/-- A field of any length, after its length. -/
def field : Reader (List UInt8) := do
  bytes (← uint32)

/-- All that is left. -/
def rest : Reader (List UInt8) :=
  fun input => some (input, [])

theorem bytes_append {count : Nat} {front : List UInt8} (length : front.length = count)
    (back : List UInt8) : (bytes count).run (front ++ back) = some (front, back) := by
  rw [← length, StateT.run, bytes, if_pos (by simp), List.take_left, List.drop_left]

theorem uint32_append {front : List UInt8} (length : front.length = 4) (back : List UInt8) :
    uint32.run (front ++ back) = some (bigEndian front, back) := by
  rw [uint32, StateT.run_bind, bytes_append length]
  rfl

/-- A field is read by the length in front of it. -/
theorem field_append {front content : List UInt8} (length : front.length = 4)
    (counts : bigEndian front = content.length) (back : List UInt8) :
    field.run (front ++ content ++ back) = some (content, back) := by
  rw [field, StateT.run_bind, List.append_assoc, uint32_append length]
  exact bytes_append counts.symm back

theorem rest_run (input : List UInt8) : rest.run input = some (input, []) :=
  rfl

end Wire

end Library
