/-
Module: ServersManager.Js
Purpose: The errors the backend throws and the built-in operations of JavaScript it
  applies to strings and to parsed JSON, whose types nothing checks at run time.
Trusted boundary: human-reviewed semantics
Main exports:
  JsError, trim, splitLines, includes, lastIndexOf, property, truthy, orElse,
  iterate, entries, templateText, entries_obj, mapM_eq_ok, forall₂_of_mapM
-/
import Mathlib.Algebra.Group.Nat.Defs
import Mathlib.Data.List.Forall2
import Mathlib.Data.List.Infix
import ServersManager.Library.Json

namespace ServersManager

open Library (Json JsonNumber)

/-! ### Errors -/

/-- What the backend throws: the built-in errors, a failed query with its SQLSTATE,
the HTTP exceptions of the framework, the failures of `fetch`: an aborted request, and
an error that wraps its cause; and a failed SSH connection with its level. -/
inductive JsError where
  | error (text : String)
  | typeError (text : String)
  | syntaxError (input : String)
  | queryFailed (code text : String)
  | notFound (text : String)
  | conflict (text : String)
  | badRequest (text : String)
  | abort (text : String)
  | withCause (text cause : String)
  | ssh (text level : String)
deriving Repr, Inhabited, DecidableEq

/-- `error.message`.  The wording of a syntax error is the engine's own; it is kept
apart by the input it is about. -/
def JsError.message : JsError → String
  | .error text => text
  | .typeError text => text
  | .syntaxError input => "Unexpected token in JSON: " ++ input
  | .queryFailed _ text => text
  | .notFound text => text
  | .conflict text => text
  | .badRequest text => text
  | .abort text => text
  | .withCause text _ => text
  | .ssh text _ => text

/-! ### Strings -/

/-- The white space and line terminators that `trim` removes. -/
def isWhiteSpace (c : Char) : Bool :=
  c == '\t' || c == '\n' || c == '\x0b' || c == '\x0c' || c == '\r' || c == ' ' ||
    c == '\u00a0' || c == '\u1680' || ('\u2000' ≤ c && c ≤ '\u200a') ||
    c == '\u2028' || c == '\u2029' || c == '\u202f' || c == '\u205f' ||
    c == '\u3000' || c == '\ufeff'

def trimChars (chars : List Char) : List Char :=
  ((chars.dropWhile isWhiteSpace).reverse.dropWhile isWhiteSpace).reverse

def trim (text : String) : String :=
  String.ofList (trimChars text.toList)

/-- `text.split('\n')`. -/
def splitLines (text : String) : List String :=
  (text.toList.splitOn '\n').map String.ofList

/-- `text.includes(needle)`. -/
def includes (text needle : String) : Bool :=
  decide (needle.toList <:+: text.toList)

/-- A character of one of the texts is a character of the joined text. -/
theorem mem_intercalate {separator text : String} {texts : List String} {c : Char}
    (member : text ∈ texts) (inText : c ∈ text.toList) :
    c ∈ (separator.intercalate texts).toList := by
  induction texts with
  | nil => cases member
  | cons first rest inductionHypothesis =>
      cases rest with
      | nil =>
          cases List.mem_singleton.mp member
          rwa [String.intercalate_singleton]
      | cons next more =>
          rw [String.intercalate_cons_cons, String.toList_append, String.toList_append,
            List.mem_append, List.mem_append]
          rcases List.mem_cons.mp member with rfl | later
          · exact .inl (.inl inText)
          · exact .inr (inductionHypothesis later)

/-- A joined text has no other characters. -/
theorem of_mem_intercalate {separator : String} {texts : List String} {c : Char}
    (member : c ∈ (separator.intercalate texts).toList) :
    c ∈ separator.toList ∨ ∃ text ∈ texts, c ∈ text.toList := by
  induction texts with
  | nil => cases member
  | cons first rest inductionHypothesis =>
      cases rest with
      | nil =>
          rw [String.intercalate_singleton] at member
          exact .inr ⟨first, .head _, member⟩
      | cons next more =>
          rw [String.intercalate_cons_cons, String.toList_append, String.toList_append,
            List.mem_append, List.mem_append] at member
          rcases member with (inFirst | between) | later
          · exact .inr ⟨first, .head _, inFirst⟩
          · exact .inl between
          · rcases inductionHypothesis later with between | ⟨text, textMember, inText⟩
            · exact .inl between
            · exact .inr ⟨text, .tail _ textMember, inText⟩

/-- `xs.lastIndexOf(x)`, with `none` for `-1`. -/
def lastIndexOf {α : Type} (sought : α → Bool) (items : List α) : Option Nat :=
  (items.reverse.findIdx? sought).map fun index => items.length - 1 - index

/-! ### Parsed JSON

A property that an object does not have is `undefined`, written `none`.
-/

/-- `value.key`, for a key that no built-in prototype has. -/
def property (value : Json) (key : String) : Except JsError (Option Json) :=
  match value with
  | .null => .error (.typeError
      ("Cannot read properties of null (reading '" ++ key ++ "')"))
  | .obj members => .ok (members.lookup key)
  | _ => .ok none

/-- `value?.key`. -/
def optionalProperty (value : Option Json) (key : String) : Option Json :=
  match value with
  | some (.obj members) => members.lookup key
  | _ => none

/-- A number that is zero as a double: its nearest double is. -/
def isZero (n : JsonNumber) : Bool :=
  n.mantissa == 0 ||
    (n.exponent < 0 && n.mantissa.natAbs * 2 ^ 1075 ≤ 10 ^ n.exponent.natAbs)

def truthy : Json → Bool
  | .null => false
  | .bool value => value
  | .num n => !isZero n
  | .str text => text != ""
  | .arr _ => true
  | .obj _ => true

/-- `value ?? fallback`. -/
def orElse (value : Option Json) (fallback : Json) : Json :=
  match value with
  | none => fallback
  | some .null => fallback
  | some present => present

/-- `value === text`. -/
def isText (text : String) : Json → Bool
  | .str other => other == text
  | _ => false

/-- `value.includes(needle)`: strings and arrays have the method. -/
def includesText (value : Json) (needle : String) : Except JsError Bool :=
  match value with
  | .str text => .ok (includes text needle)
  | .arr items => .ok (items.any (isText needle))
  | .null => .error (.typeError
      "Cannot read properties of null (reading 'includes')")
  | _ => .error (.typeError "includes is not a function")

/-- What a `for … of` loop visits, its error naming the expression. -/
def iterate (expression : String) : Json → Except JsError (List Json)
  | .arr items => .ok items
  | .str text => .ok (text.toList.map fun c => .str (String.ofList [c]))
  | _ => .error (.typeError (expression ++ " is not iterable"))

/-- A property key that is an array index. -/
def arrayIndex? (key : String) : Option Nat :=
  match key.toNat? with
  | some index =>
      if toString index = key ∧ index < 4294967295 then some index else none
  | none => none

/-- `Object.entries(value)`: array indices in ascending order, then the other keys
in the order of insertion. -/
def entries : Json → List (String × Json)
  | .obj members =>
      (members.filter fun member => (arrayIndex? member.1).isSome).mergeSort
          (fun first second =>
            decide ((arrayIndex? first.1).getD 0 ≤ (arrayIndex? second.1).getD 0)) ++
        members.filter fun member => (arrayIndex? member.1).isNone
  | .arr items => items.mapIdx fun index item => (toString index, item)
  | .str text =>
      text.toList.mapIdx fun index c => (toString index, .str (String.ofList [c]))
  | _ => []

mutual

/-- `String(value)`, as a template literal inserts it.  How the engine writes a
number is a parameter. -/
def templateText (numberText : JsonNumber → String) : Json → Except JsError String
  | .null => .ok "null"
  | .bool true => .ok "true"
  | .bool false => .ok "false"
  | .num n => .ok (numberText n)
  | .str text => .ok text
  | .arr items => (elementTexts numberText items).map (",".intercalate ·)
  | .obj members =>
      -- A parsed `toString` is no function, and `valueOf` gives the object back.
      if (members.lookup "toString").isSome then
        .error (.typeError "Cannot convert object to primitive value")
      else .ok "[object Object]"

/-- The elements of an array as `join` writes them: `null` as nothing. -/
def elementTexts (numberText : JsonNumber → String) :
    List Json → Except JsError (List String)
  | [] => .ok []
  | .null :: items => (elementTexts numberText items).map ("" :: ·)
  | item :: items =>
      (templateText numberText item).bind fun text =>
        (elementTexts numberText items).map (text :: ·)

end

@[simp] theorem templateText_str (numberText : JsonNumber → String)
    (text : String) : templateText numberText (.str text) = .ok text := by
  rw [templateText]

/-- `text.slice(0, units)`, whose positions are those of UTF-16 units.  Half of a
character is a replacement character wherever the text is written. -/
def sliceUnits : Nat → List Char → List Char
  | 0, _ | _, [] => []
  | units + 1, c :: text =>
      if c.toNat < 0x10000 then c :: sliceUnits units text
      else
        match units with
        | 0 => ['\ufffd']
        | units + 1 => c :: sliceUnits units text

/-- A computation that ends well went well in each of its steps. -/
theorem bind_eq_ok {ε α β : Type} {first : Except ε α}
    {next : α → Except ε β} {result : β} :
    first >>= next = .ok result ↔ ∃ value, first = .ok value ∧ next value = .ok result := by
  cases first with
  | error error =>
      constructor
      · intro same
        cases same
      · rintro ⟨value, same, -⟩
        cases same
  | ok value =>
      constructor
      · intro same
        exact ⟨value, rfl, same⟩
      · rintro ⟨_, ⟨⟩, same⟩
        exact same

/-- A traversal whose every step succeeds. -/
theorem mapM_eq_ok {ε α β : Type} {f : α → Except ε β} {items : List α}
    {results : List β}
    (each : List.Forall₂ (fun item result => f item = .ok result) items results) :
    items.mapM f = .ok results := by
  induction each with
  | nil => rfl
  | cons first _ inductionHypothesis =>
      rw [List.mapM_cons, first, inductionHypothesis]
      rfl

/-- A traversal that succeeds has a result of every item. -/
theorem forall₂_of_mapM {ε α β : Type} {f : α → Except ε β} {items : List α}
    {results : List β} (succeeds : items.mapM f = .ok results) :
    List.Forall₂ (fun item result => f item = .ok result) items results := by
  induction items generalizing results with
  | nil =>
      cases succeeds
      exact .nil
  | cons item items inductionHypothesis =>
      rw [List.mapM_cons] at succeeds
      cases first : f item with
      | error error =>
          rw [first] at succeeds
          cases succeeds
      | ok result =>
          rw [first] at succeeds
          cases rest : items.mapM f with
          | error error =>
              rw [rest] at succeeds
              cases succeeds
          | ok others =>
              rw [rest] at succeeds
              cases succeeds
              exact .cons first (inductionHypothesis rest)

theorem exists_of_mapM {ε α β : Type} {f : α → Except ε β} {items : List α}
    {results : List β} (succeeds : items.mapM f = .ok results) {item : α}
    (member : item ∈ items) : ∃ result ∈ results, f item = .ok result := by
  have each := forall₂_of_mapM succeeds
  clear succeeds
  induction each with
  | nil => cases member
  | cons first _ inductionHypothesis =>
      rcases List.mem_cons.mp member with rfl | later
      · exact ⟨_, .head _, first⟩
      · obtain ⟨result, resultMember, computed⟩ := inductionHypothesis later
        exact ⟨result, .tail _ resultMember, computed⟩

end ServersManager
