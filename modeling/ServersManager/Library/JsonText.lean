/-
Module: ServersManager.Library.JsonText
Purpose: The texts of JSON values, and that parsing a text gives the value back.
Trusted boundary: none
Main exports:
  Json.text, Json.stringify, Json.Printable, Json.parse_stringify
-/
import Mathlib.Tactic.IntervalCases
import ServersManager.Library.Json

namespace Library

namespace Json

/-! ### Printing -/

/-- One character of a string literal. -/
def quoteChar (c : Char) : List Char :=
  if c = '"' then ['\\', '"']
  else if c = '\\' then ['\\', '\\']
  else if c = '\x08' then ['\\', 'b']
  else if c = '\x0c' then ['\\', 'f']
  else if c = '\n' then ['\\', 'n']
  else if c = '\r' then ['\\', 'r']
  else if c = '\t' then ['\\', 't']
  else if c.toNat < 0x20 then
    ['\\', 'u', '0', '0', Nat.digitChar (c.toNat / 16),
      Nat.digitChar (c.toNat % 16)]
  else [c]

def quote (text : String) : List Char :=
  '"' :: (text.toList.flatMap quoteChar ++ ['"'])

mutual

/-- The text of a value, without whitespace.  Numbers are printed as they are
represented; the values this development prints hold none. -/
def text : Json → List Char
  | .null => ['n', 'u', 'l', 'l']
  | .bool true => ['t', 'r', 'u', 'e']
  | .bool false => ['f', 'a', 'l', 's', 'e']
  | .num n => (toString n.mantissa ++ "e" ++ toString n.exponent).toList
  | .str s => quote s
  | .arr items => '[' :: (itemsText items ++ [']'])
  | .obj members => '{' :: (membersText members ++ ['}'])

def itemsText : List Json → List Char
  | [] => []
  | item :: items => text item ++ moreItemsText items

def moreItemsText : List Json → List Char
  | [] => []
  | item :: items => ',' :: (text item ++ moreItemsText items)

def membersText : List (String × Json) → List Char
  | [] => []
  | (key, item) :: members =>
      quote key ++ ':' :: (text item ++ moreMembersText members)

def moreMembersText : List (String × Json) → List Char
  | [] => []
  | (key, item) :: members =>
      ',' :: (quote key ++ ':' :: (text item ++ moreMembersText members))

end

/-- `JSON.stringify` without indentation. -/
def stringify (value : Json) : String :=
  String.ofList (text value)

/-! ### String literals read back -/

/-- How the parser itemizes a printed character. -/
def quotedItem (c : Char) : StringItem :=
  if c.toNat < 0x20 ∧ c ≠ '\x08' ∧ c ≠ '\x0c' ∧ c ≠ '\n' ∧ c ≠ '\r' ∧ c ≠ '\t' then
    .unit c.toNat
  else .char c

private theorem hexUnit_control :
    ∀ code < 0x20,
      hexUnit? '0' '0' (Nat.digitChar (code / 16)) (Nat.digitChar (code % 16)) =
        some code := by
  decide

private theorem stringItems_close (rest : List Char) :
    stringItems ('"' :: rest) = some ([], rest) := by
  rw [stringItems.eq_def]
  simp

private theorem stringItems_plain {c : Char} (rest : List Char)
    (quotation : c ≠ '"') (backslash : c ≠ '\\') (printing : ¬ c.toNat < 0x20) :
    stringItems (c :: rest) =
      (stringItems rest).map fun (items, rest) => (.char c :: items, rest) := by
  rw [stringItems.eq_def]
  cases found : stringItems rest <;>
    simp [quotation, backslash, printing, found]

/-- Each printed character is read back as one item. -/
theorem stringItems_quoteChar (c : Char) (rest : List Char) :
    stringItems (quoteChar c ++ rest) =
      (stringItems rest).map fun (items, rest) => (quotedItem c :: items, rest) := by
  by_cases quotation : c = '"'
  · subst quotation
    cases found : stringItems rest <;>
      simp [quoteChar, quotedItem, stringItems, escape?, found]
  by_cases backslash : c = '\\'
  · subst backslash
    cases found : stringItems rest <;>
      simp [quoteChar, quotedItem, stringItems, escape?, found]
  by_cases short : c = '\x08' ∨ c = '\x0c' ∨ c = '\n' ∨ c = '\r' ∨ c = '\t'
  · rcases short with rfl | rfl | rfl | rfl | rfl <;>
      cases found : stringItems rest <;>
        simp [quoteChar, quotedItem, stringItems, escape?, found]
  obtain ⟨notB, notF, notN, notR, notT⟩ :
      c ≠ '\x08' ∧ c ≠ '\x0c' ∧ c ≠ '\n' ∧ c ≠ '\r' ∧ c ≠ '\t' := by
    simpa only [not_or] using short
  by_cases control : c.toNat < 0x20
  · have read := hexUnit_control c.toNat control
    cases found : stringItems rest <;>
      simp [quoteChar, quotedItem, stringItems, quotation, backslash, notB, notF,
        notN, notR, notT, control, read, found]
  · have plain := stringItems_plain rest quotation backslash control
    simpa [quoteChar, quotedItem, quotation, backslash, notB, notF, notN, notR,
      notT, control] using plain

theorem stringItems_quoted (chars rest : List Char) :
    stringItems (chars.flatMap quoteChar ++ '"' :: rest) =
      some (chars.map quotedItem, rest) := by
  induction chars with
  | nil => simpa using stringItems_close rest
  | cons c chars inductionHypothesis =>
      rw [List.flatMap_cons, List.append_assoc, stringItems_quoteChar,
        inductionHypothesis]
      rfl

private theorem assemble_unit {code : Nat} (small : code < 0xD800)
    (items : List StringItem) :
    assemble (.unit code :: items) = Char.ofNat code :: assemble items := by
  have alone : ¬ (0xD800 ≤ code ∧ code < 0xE000) := by omega
  cases items with
  | nil => simp [assemble, unitChar, alone]
  | cons item items =>
      cases item with
      | char c => simp [assemble, unitChar, alone]
      | unit low =>
          have notPair : ¬ ((0xD800 ≤ code ∧ code < 0xDC00) ∧
              0xDC00 ≤ low ∧ low < 0xE000) := by omega
          rw [assemble, if_neg notPair, unitChar, if_neg alone]

theorem assemble_quoted (chars : List Char) :
    assemble (chars.map quotedItem) = chars := by
  induction chars with
  | nil => rfl
  | cons c chars inductionHypothesis =>
      rw [List.map_cons, quotedItem]
      split
      · next control =>
        rw [assemble_unit (by omega), inductionHypothesis, Char.ofNat_toNat]
      · rw [assemble, inductionHypothesis]

theorem string_quoted (text : String) (rest : List Char) :
    string (text.toList.flatMap quoteChar ++ '"' :: rest) =
      some (text, rest) := by
  simp [string, stringItems_quoted, assemble_quoted]

/-! ### Values read back -/

mutual

/-- Values whose text is read back: no numbers, and no key twice. -/
def Printable : Json → Prop
  | .null | .bool _ | .str _ => True
  | .num _ => False
  | .arr items => PrintableItems items
  | .obj members => PrintableMembers members ∧ (members.map Prod.fst).Nodup

def PrintableItems : List Json → Prop
  | [] => True
  | item :: items => Printable item ∧ PrintableItems items

def PrintableMembers : List (String × Json) → Prop
  | [] => True
  | (_, item) :: members => Printable item ∧ PrintableMembers members

end

theorem put_fresh {members : List (String × Json)} {key : String} {item : Json}
    (fresh : key ∉ members.map Prod.fst) :
    put members key item = members ++ [(key, item)] := by
  induction members with
  | nil => rfl
  | cons member members inductionHypothesis =>
      obtain ⟨other, old⟩ := member
      simp only [List.map_cons, List.mem_cons, not_or] at fresh
      rw [put, if_neg (Ne.symm fresh.1), inductionHypothesis fresh.2]
      rfl

/-- Members with distinct keys are the members of their object. -/
theorem collapse_nodup {members : List (String × Json)}
    (distinct : (members.map Prod.fst).Nodup) : collapse members = members := by
  have general : ∀ seen : List (String × Json),
      ((seen ++ members).map Prod.fst).Nodup →
        members.foldl (fun object member => put object member.1 member.2) seen =
          seen ++ members := by
    clear distinct
    induction members with
    | nil => simp
    | cons member members inductionHypothesis =>
        intro seen distinct
        have fresh : member.1 ∉ seen.map Prod.fst := by
          rw [List.map_append, List.nodup_append] at distinct
          exact fun old => distinct.2.2 _ old _ (by simp) rfl
        rw [List.foldl_cons, put_fresh fresh,
          inductionHypothesis _ (by simpa using distinct)]
        simp
  simpa [collapse] using general [] (by simpa using distinct)

/-- A printed value starts with a character that neither whitespace nor a closing
bracket could be. -/
theorem text_head {item : Json} (printable : Printable item) :
    ∃ c rest, text item = c :: rest ∧ isSpace c = false ∧ c ≠ ']' := by
  cases item with
  | null => exact ⟨_, _, rfl, rfl, by decide⟩
  | bool b => cases b <;> exact ⟨_, _, rfl, rfl, by decide⟩
  | num n => exact absurd printable (by simp [Printable])
  | str s => exact ⟨_, _, rfl, rfl, by decide⟩
  | arr items => exact ⟨_, _, rfl, rfl, by decide⟩
  | obj members => exact ⟨_, _, rfl, rfl, by decide⟩

@[simp] theorem skipSpace_cons {c : Char} (rest : List Char)
    (solid : isSpace c = false) : skipSpace (c :: rest) = c :: rest := by
  simp [skipSpace, solid]

private theorem moreItemsText_cons (item : Json) (items : List Json) :
    moreItemsText (item :: items) = ',' :: itemsText (item :: items) := by
  rw [moreItemsText, itemsText]

private theorem moreMembersText_cons (member : String × Json)
    (members : List (String × Json)) :
    moreMembersText (member :: members) =
      ',' :: membersText (member :: members) := by
  obtain ⟨key, item⟩ := member
  rw [moreMembersText, membersText]

private theorem skipSpace_comma (rest : List Char) :
    skipSpace (',' :: rest) = ',' :: rest := skipSpace_cons rest (by decide)

private theorem skipSpace_bracket (rest : List Char) :
    skipSpace (']' :: rest) = ']' :: rest := skipSpace_cons rest (by decide)

private theorem skipSpace_brace (rest : List Char) :
    skipSpace ('}' :: rest) = '}' :: rest := skipSpace_cons rest (by decide)

private theorem skipSpace_quotation (rest : List Char) :
    skipSpace ('"' :: rest) = '"' :: rest := skipSpace_cons rest (by decide)

private theorem skipSpace_colon (rest : List Char) :
    skipSpace (':' :: rest) = ':' :: rest := skipSpace_cons rest (by decide)

/-- A value is read back from its text with this much fuel, whatever follows. -/
private def ReadsValue (fuel : Nat) : Prop :=
  ∀ item rest, Printable item → 2 * (text item).length ≤ fuel →
    value fuel (text item ++ rest) = some (item, rest)

/-- The elements of an array are read back with its closing bracket. -/
private def ReadsElements (fuel : Nat) : Prop :=
  ∀ item items rest, PrintableItems (item :: items) →
    2 * (itemsText (item :: items)).length + 1 ≤ fuel →
      elements fuel (itemsText (item :: items) ++ ']' :: rest) =
        some (item :: items, rest)

/-- The members of an object are read back with its closing brace. -/
private def ReadsMembers (fuel : Nat) : Prop :=
  ∀ member members rest, PrintableMembers (member :: members) →
    2 * (membersText (member :: members)).length + 1 ≤ fuel →
      objectMembers fuel (membersText (member :: members) ++ '}' :: rest) =
        some (member :: members, rest)

private theorem value_array {fuel : Nat} {item : Json} {items : List Json}
    {rest : List Char} (printable : Printable item)
    (read : elements fuel (itemsText (item :: items) ++ ']' :: rest) =
      some (item :: items, rest)) :
    value (fuel + 1) ('[' :: (itemsText (item :: items) ++ ']' :: rest)) =
      some (.arr (item :: items), rest) := by
  obtain ⟨c, tail, head, solid, notBracket⟩ := text_head printable
  have start : itemsText (item :: items) ++ ']' :: rest =
      c :: (tail ++ (moreItemsText items ++ ']' :: rest)) := by
    rw [itemsText, head]
    simp
  rw [start] at read ⊢
  simp only [value, skipSpace_cons _ (show isSpace '[' = false by decide),
    skipSpace_cons _ solid]
  simp [notBracket, read]

private theorem value_object {fuel : Nat} {member : String × Json}
    {members : List (String × Json)} {rest : List Char}
    (distinct : ((member :: members).map Prod.fst).Nodup)
    (read : objectMembers fuel
        (membersText (member :: members) ++ '}' :: rest) =
      some (member :: members, rest)) :
    value (fuel + 1) ('{' :: (membersText (member :: members) ++ '}' :: rest)) =
      some (.obj (member :: members), rest) := by
  obtain ⟨key, item⟩ := member
  have start : membersText ((key, item) :: members) ++ '}' :: rest =
      '"' :: (key.toList.flatMap quoteChar ++ '"' :: ':' ::
        (text item ++ (moreMembersText members ++ '}' :: rest))) := by
    rw [membersText, quote]
    simp
  rw [start] at read ⊢
  simp only [value, skipSpace_cons _ (show isSpace '{' = false by decide),
    skipSpace_quotation]
  simp [read, collapse_nodup distinct]

private theorem reads_value {fuel : Nat} (elementsRead : ReadsElements fuel)
    (membersRead : ReadsMembers fuel) : ReadsValue (fuel + 1) := by
  intro item rest printable enough
  cases item with
  | null =>
      simp [text, value, scalar,
        skipSpace_cons _ (show isSpace 'n' = false by decide)]
  | bool b =>
      cases b
      · simp [text, value, scalar,
          skipSpace_cons _ (show isSpace 'f' = false by decide)]
      · simp [text, value, scalar,
          skipSpace_cons _ (show isSpace 't' = false by decide)]
  | num n => exact absurd printable (by simp [Printable])
  | str s =>
      have start : text (.str s) ++ rest =
          '"' :: (s.toList.flatMap quoteChar ++ '"' :: rest) := by
        simp [text, quote]
      simp only [start, value, skipSpace_quotation]
      simp [string_quoted]
  | arr items =>
      have start : text (.arr items) ++ rest =
          '[' :: (itemsText items ++ ']' :: rest) := by simp [text]
      rw [start]
      cases items with
      | nil =>
          simp [itemsText, value, skipSpace_bracket,
            skipSpace_cons _ (show isSpace '[' = false by decide)]
      | cons item items =>
          refine value_array printable.1 (elementsRead item items rest printable ?_)
          simp only [text, List.length_cons, List.length_append] at enough
          omega
  | obj members =>
      have start : text (.obj members) ++ rest =
          '{' :: (membersText members ++ '}' :: rest) := by simp [text]
      rw [start]
      cases members with
      | nil =>
          simp [membersText, value, skipSpace_brace,
            skipSpace_cons _ (show isSpace '{' = false by decide)]
      | cons member members =>
          refine value_object printable.2
            (membersRead member members rest printable.1 ?_)
          simp only [text, List.length_cons, List.length_append] at enough
          omega

private theorem reads_elements {fuel : Nat} (valueRead : ReadsValue fuel)
    (elementsRead : ReadsElements fuel) : ReadsElements (fuel + 1) := by
  intro item items rest printable enough
  simp only [itemsText, List.length_append] at enough
  have head := valueRead item (moreItemsText items ++ ']' :: rest) printable.1
    (by omega)
  rw [itemsText, List.append_assoc, elements, head]
  cases items with
  | nil => simp [moreItemsText, skipSpace_bracket]
  | cons next items =>
      rw [moreItemsText_cons, List.length_cons] at enough
      have more := elementsRead next items rest printable.2 (by omega)
      simp [moreItemsText_cons, skipSpace_comma, more]

private theorem reads_members {fuel : Nat} (valueRead : ReadsValue fuel)
    (membersRead : ReadsMembers fuel) : ReadsMembers (fuel + 1) := by
  rintro ⟨key, item⟩ members rest printable enough
  simp only [membersText, quote, List.length_append, List.length_cons,
    List.length_nil] at enough
  have head := valueRead item (moreMembersText members ++ '}' :: rest)
    printable.1 (by omega)
  have start : membersText ((key, item) :: members) ++ '}' :: rest =
      '"' :: (key.toList.flatMap quoteChar ++ '"' :: ':' ::
        (text item ++ (moreMembersText members ++ '}' :: rest))) := by
    simp [membersText, quote]
  rw [start, objectMembers, skipSpace_quotation]
  simp only [string_quoted, skipSpace_colon, head]
  cases members with
  | nil => simp [moreMembersText, skipSpace_brace]
  | cons next members =>
      rw [moreMembersText_cons, List.length_cons] at enough
      have more := membersRead next members rest printable.2 (by omega)
      simp [moreMembersText_cons, skipSpace_comma, more]

/-- Enough fuel for the text's length reads everything, by induction on the fuel. -/
private theorem reads (fuel : Nat) :
    ReadsValue fuel ∧ ReadsElements fuel ∧ ReadsMembers fuel := by
  induction fuel with
  | zero =>
      refine ⟨fun item rest printable enough => ?_, fun _ _ _ _ enough => ?_,
        fun _ _ _ _ enough => ?_⟩
      · obtain ⟨c, tail, head, -⟩ := text_head printable
        simp [head] at enough
      · omega
      · omega
  | succ fuel inductionHypothesis =>
      obtain ⟨valueRead, elementsRead, membersRead⟩ := inductionHypothesis
      exact ⟨reads_value elementsRead membersRead,
        reads_elements valueRead elementsRead,
        reads_members valueRead membersRead⟩

/-- Parsing the text of a value gives the value back. -/
theorem parse_stringify {item : Json} (printable : Printable item) :
    parse (stringify item) = some item := by
  have read := (reads (2 * (text item).length + 2)).1 item [] printable (by omega)
  rw [List.append_nil] at read
  simp [parse, stringify, read, skipSpace]

end Json

end Library
