/-
Module: ServersManager.IpAddress
Purpose: The dashboard's check of a host's address, and which addresses it takes.
Trusted boundary: human-reviewed grammar of textual addresses
Main exports:
  isPlausibleIpAddress, Ipv4Text, Ipv6Text, isPlausibleIpAddress_ipv4,
  isPlausibleIpAddress_exact, mapped_address_refused
-/
import Mathlib.Data.Bool.AllAny
import ServersManager.Js
import ServersManager.Library.Patterns

namespace ServersManager

open Library.Patterns

/-! ### `lib/ipAddress.ts` -/

def digitChars : List Char := "0123456789".toList

/-- `25[0-5]|2[0-4]\d|1\d\d|[1-9]?\d`. -/
def octetPattern : RegularExpression Char :=
  word "25".toList * oneOf "012345".toList +
    (word "2".toList * (oneOf "01234".toList * oneOf digitChars) +
      (word "1".toList * (oneOf digitChars * oneOf digitChars) +
        optional (oneOf "123456789".toList) * oneOf digitChars))

def ipv4Pattern : RegularExpression Char :=
  octetPattern * repeated (word ".".toList * octetPattern) 3

def ipv6Chars : List Char := "0123456789abcdefABCDEF:".toList

def ipv6Pattern : RegularExpression Char :=
  oneOrMore (oneOf ipv6Chars)

def isPlausibleIpAddress (value : String) : Bool :=
  let trimmed := trim value
  if trimmed.length = 0 then false
  else if includes trimmed "." then ipv4Pattern.rmatch trimmed.toList
  else includes trimmed ":" && ipv6Pattern.rmatch trimmed.toList

/-! ### Addresses -/

/-- Four numbers below 256 with dots between them, each in decimal and so without a
leading zero. -/
def Ipv4Text (text : String) : Prop :=
  ∃ a b c d : Nat, a < 256 ∧ b < 256 ∧ c < 256 ∧ d < 256 ∧
    text = toString a ++ "." ++ toString b ++ "." ++ toString c ++ "." ++ toString d

/-- One to four hexadecimal digits. -/
structure HexGroup where
  text : String
  short : 1 ≤ text.length ∧ text.length ≤ 4
  digits : ∀ c ∈ text.toList, c ∈ "0123456789abcdefABCDEF".toList

/-- A textual address of RFC 4291: eight groups, or a `::` in place of one or more of
them; the last two may be written as a dotted quad. -/
structure Ipv6Text where
  front : List HexGroup
  back : Option (List HexGroup)
  quad : Option { text : String // Ipv4Text text }
  size :
    match back with
    | none => front.length + (if quad.isSome then 2 else 0) = 8
    | some back => front.length + back.length + (if quad.isSome then 2 else 0) ≤ 7

namespace Ipv6Text

/-- The last groups and the dotted quad, if there is one. -/
def parts (address : Ipv6Text) (groups : List HexGroup) : List String :=
  groups.map HexGroup.text ++ (address.quad.map Subtype.val).toList

def text (address : Ipv6Text) : String :=
  match address.back with
  | none => ":".intercalate (address.parts address.front)
  | some back =>
      ":".intercalate (address.front.map HexGroup.text) ++ "::" ++
        ":".intercalate (address.parts back)

end Ipv6Text

/-! ### Octets -/

private theorem toDigits_one : ∀ k < 10, Nat.toDigits 10 k = [Nat.digitChar k] := by
  decide

private theorem toDigits_two : ∀ j < 10, 0 < j → ∀ k < 10,
    Nat.toDigits 10 (10 * j + k) = [Nat.digitChar j, Nat.digitChar k] := by
  decide

private theorem toDigits_three : ∀ i < 3, 0 < i → ∀ j < 10, ∀ k < 10,
    Nat.toDigits 10 (100 * i + 10 * j + k) =
      [Nat.digitChar i, Nat.digitChar j, Nat.digitChar k] := by
  decide

private theorem mem_digits {c : Char} {class' : List Char} {first count : Nat}
    (same : class' = (List.range' first count).map Nat.digitChar) :
    c ∈ class' ↔ ∃ k, first ≤ k ∧ k < first + count ∧ c = Nat.digitChar k := by
  rw [same, List.mem_map]
  constructor
  · rintro ⟨k, member, rfl⟩
    obtain ⟨lower, upper⟩ := List.mem_range'_1.mp member
    exact ⟨k, lower, upper, rfl⟩
  · rintro ⟨k, lower, upper, rfl⟩
    exact ⟨k, List.mem_range'_1.mpr ⟨lower, upper⟩, rfl⟩

/-- What an octet is matched as, one way of writing it after the other. -/
private theorem rmatch_octetPattern_cases {text : List Char} :
    octetPattern.rmatch text = true ↔
      (∃ k, text = ['2', '5', Nat.digitChar k] ∧ k < 6) ∨
      (∃ j k, text = ['2', Nat.digitChar j, Nat.digitChar k] ∧ j < 5 ∧ k < 10) ∨
      (∃ j k, text = ['1', Nat.digitChar j, Nat.digitChar k] ∧ j < 10 ∧ k < 10) ∨
      (∃ k < 10, text = [Nat.digitChar k]) ∨
      ∃ j, 1 ≤ j ∧ j < 10 ∧ ∃ k, text = [Nat.digitChar j, Nat.digitChar k] ∧ k < 10 := by
  have upToFive : "012345".toList = (List.range' 0 6).map Nat.digitChar := by decide
  have upToFour : "01234".toList = (List.range' 0 5).map Nat.digitChar := by decide
  have fromOne : "123456789".toList = (List.range' 1 9).map Nat.digitChar := by decide
  have all : digitChars = (List.range' 0 10).map Nat.digitChar := by decide
  simp only [octetPattern, RegularExpression.add_rmatch_iff, rmatch_word_mul, rmatch_oneOf_mul,
    rmatch_optional_mul, rmatch_oneOf, mem_digits upToFive, mem_digits upToFour,
    mem_digits fromOne, mem_digits all]
  simp [and_assoc]

/-- The octets are the numbers below 256 in decimal. -/
theorem rmatch_octetPattern {text : List Char} :
    octetPattern.rmatch text = true ↔ ∃ n < 256, text = Nat.toDigits 10 n := by
  rw [rmatch_octetPattern_cases]
  constructor
  · rintro (⟨k, rfl, small⟩ | ⟨j, k, rfl, smallJ, smallK⟩ | ⟨j, k, rfl, smallJ, smallK⟩ |
      ⟨k, small, rfl⟩ | ⟨j, positive, smallJ, k, rfl, smallK⟩)
    · exact ⟨100 * 2 + 10 * 5 + k, by omega,
        (toDigits_three 2 (by omega) (by omega) 5 (by omega) k (by omega)).symm⟩
    · exact ⟨100 * 2 + 10 * j + k, by omega,
        (toDigits_three 2 (by omega) (by omega) j (by omega) k smallK).symm⟩
    · exact ⟨100 * 1 + 10 * j + k, by omega,
        (toDigits_three 1 (by omega) (by omega) j smallJ k smallK).symm⟩
    · exact ⟨k, by omega, (toDigits_one k small).symm⟩
    · exact ⟨10 * j + k, by omega, (toDigits_two j smallJ positive k smallK).symm⟩
  · rintro ⟨n, small, rfl⟩
    by_cases one : n < 10
    · exact .inr (.inr (.inr (.inl ⟨n, one, toDigits_one n one⟩)))
    by_cases two : n < 100
    · refine .inr (.inr (.inr (.inr ⟨n / 10, by omega, by omega, n % 10, ?_, by omega⟩)))
      rw [← toDigits_two (n / 10) (by omega) (by omega) (n % 10) (by omega), Nat.div_add_mod]
    have digits := toDigits_three (n / 100) (by omega) (by omega) (n / 10 % 10) (by omega)
      (n % 10) (by omega)
    have sum : 100 * (n / 100) + 10 * (n / 10 % 10) + n % 10 = n := by omega
    rw [sum] at digits
    by_cases three : n < 200
    · have hundreds : n / 100 = 1 := by omega
      refine .inr (.inr (.inl ⟨n / 10 % 10, n % 10, ?_, by omega, by omega⟩))
      rw [digits, hundreds]
      rfl
    have hundreds : n / 100 = 2 := by omega
    by_cases four : n < 250
    · refine .inr (.inl ⟨n / 10 % 10, n % 10, ?_, by omega, by omega⟩)
      rw [digits, hundreds]
      rfl
    · have tens : n / 10 % 10 = 5 := by omega
      refine .inl ⟨n % 10, ?_, by omega⟩
      rw [digits, hundreds, tens]
      rfl

/-! ### Dotted quads -/

private theorem toList_toString (n : Nat) : (toString n).toList = Nat.toDigits 10 n := by
  rw [Nat.toString_eq_ofList_toDigits, String.toList_ofList]

/-- The pattern matches exactly the dotted quads. -/
theorem rmatch_ipv4Pattern {text : String} :
    ipv4Pattern.rmatch text.toList = true ↔ Ipv4Text text := by
  have dot : ∀ {chars : List Char}, (word ".".toList * octetPattern).rmatch chars = true ↔
      ∃ n < 256, chars = '.' :: Nat.toDigits 10 n := by
    intro chars
    rw [rmatch_word_mul]
    constructor
    · rintro ⟨back, rfl, octet⟩
      obtain ⟨n, small, rfl⟩ := rmatch_octetPattern.mp octet
      exact ⟨n, small, rfl⟩
    · rintro ⟨n, small, rfl⟩
      exact ⟨_, rfl, rmatch_octetPattern.mpr ⟨n, small, rfl⟩⟩
  rw [ipv4Pattern, RegularExpression.mul_rmatch_iff]
  simp only [rmatch_repeated_succ, rmatch_repeated_zero, dot, rmatch_octetPattern]
  constructor
  · rintro ⟨_, _, same, ⟨a, smallA, rfl⟩, _, _, rfl, ⟨b, smallB, rfl⟩, _, _, rfl,
      ⟨c, smallC, rfl⟩, _, _, rfl, ⟨d, smallD, rfl⟩, rfl⟩
    refine ⟨a, b, c, d, smallA, smallB, smallC, smallD, ?_⟩
    apply String.toList_injective
    rw [same]
    simp
  · rintro ⟨a, b, c, d, smallA, smallB, smallC, smallD, rfl⟩
    refine ⟨_, _, ?_, ⟨a, smallA, rfl⟩, _, _, rfl, ⟨b, smallB, rfl⟩, _, _, rfl,
      ⟨c, smallC, rfl⟩, _, _, rfl, ⟨d, smallD, rfl⟩, rfl⟩
    simp

/-- A dotted quad is made of digits and dots. -/
theorem Ipv4Text.chars {text : String} (quad : Ipv4Text text) :
    '.' ∈ text.toList ∧ ∀ c ∈ text.toList, c = '.' ∨ c.isDigit = true := by
  obtain ⟨a, b, c, d, -, -, -, -, rfl⟩ := quad
  have digits : ∀ n : Nat, ∀ x ∈ (toString n).toList, x = '.' ∨ x.isDigit = true := by
    intro n x member
    rw [toList_toString] at member
    exact .inr (Nat.isDigit_of_mem_toDigits (by decide) (by decide) member)
  have dot : ∀ x ∈ ".".toList, x = '.' ∨ x.isDigit = true := by
    intro x member
    exact .inl (by simpa using member)
  constructor
  · simp
  · intro x member
    simp only [String.toList_append, List.mem_append] at member
    rcases member with (((((inA | in1) | inB) | in2) | inC) | in3) | inD
    · exact digits a x inA
    · exact dot x in1
    · exact digits b x inB
    · exact dot x in2
    · exact digits c x inC
    · exact dot x in3
    · exact digits d x inD

/-! ### What the check takes -/

private theorem includes_char {text needle : String} {c : Char} (single : needle.toList = [c]) :
    includes text needle = true ↔ c ∈ text.toList := by
  rw [includes, decide_eq_true_iff, single, List.singleton_infix_iff]

private theorem includes_dot {text : String} : includes text "." = true ↔ '.' ∈ text.toList :=
  includes_char (by simp)

private theorem includes_colon {text : String} :
    includes text ":" = true ↔ ':' ∈ text.toList :=
  includes_char (by simp)

/-- What the check makes of a trimmed text. -/
private theorem isPlausibleIpAddress_iff {value : String} :
    isPlausibleIpAddress value = true ↔
      ('.' ∈ (trim value).toList ∧ Ipv4Text (trim value)) ∨
        '.' ∉ (trim value).toList ∧ ':' ∈ (trim value).toList ∧
          ∀ c ∈ (trim value).toList, c ∈ ipv6Chars := by
  unfold isPlausibleIpAddress
  generalize trim value = trimmed
  dsimp only
  by_cases empty : trimmed.length = 0
  · have none' : trimmed.toList = [] := by
      rwa [← String.length_toList, List.length_eq_zero_iff] at empty
    simp [empty, none']
  · have present : trimmed.toList ≠ [] := by
      intro none'
      apply empty
      rw [← String.length_toList, none']
      rfl
    rw [if_neg empty]
    by_cases dot : '.' ∈ trimmed.toList
    · rw [if_pos (includes_dot.mpr dot), rmatch_ipv4Pattern]
      simp [dot]
    · rw [if_neg (mt includes_dot.mp dot), Bool.and_eq_true, includes_colon, ipv6Pattern,
        rmatch_oneOrMore_oneOf]
      simp [dot, present]

private theorem mem_trimChars {c : Char} {chars : List Char} (member : c ∈ trimChars chars) :
    c ∈ chars := by
  have inner := List.dropWhile_subset _ (List.mem_reverse.mp member)
  exact List.dropWhile_subset _ (List.mem_reverse.mp inner)

/-- Without a colon, exactly the dotted quads are taken. -/
theorem isPlausibleIpAddress_ipv4 {value : String} (noColon : ':' ∉ value.toList) :
    isPlausibleIpAddress value = true ↔ Ipv4Text (trim value) := by
  have trimmed : ':' ∉ (trim value).toList := by
    rw [trim, String.toList_ofList]
    exact fun member => noColon (mem_trimChars member)
  rw [isPlausibleIpAddress_iff]
  constructor
  · rintro (⟨-, quad⟩ | ⟨-, colon, -⟩)
    · exact quad
    · exact absurd colon trimmed
  · intro quad
    exact .inl ⟨quad.chars.1, quad⟩

/-! ### Textual IPv6 addresses -/

private theorem isWhiteSpace_of_isDigit {c : Char} (digit : c.isDigit = true) :
    isWhiteSpace c = false := by
  obtain ⟨lower, upper⟩ : '0' ≤ c ∧ c ≤ '9' := by
    simpa [Char.isDigit, Char.le_def] using digit
  have ne : ∀ d : Char, ¬ ('0' ≤ d ∧ d ≤ '9') → (c == d) = false := by
    intro d outside
    rw [beq_eq_false_iff_ne]
    rintro rfl
    exact outside ⟨lower, upper⟩
  have low : decide ('\u2000' ≤ c) = false := by
    rw [decide_eq_false_iff_not]
    intro high
    exact absurd (Char.le_trans high upper) (by decide)
  simp only [isWhiteSpace, low, Bool.false_and, Bool.or_false, Bool.or_eq_false_iff]
  repeat' apply And.intro
  all_goals exact ne _ (by decide)

private theorem isWhiteSpace_ipv6Chars : ∀ c ∈ ipv6Chars, isWhiteSpace c = false :=
  List.all_iff_forall_prop.mp (by decide)

private theorem dropWhile_eq {chars : List Char}
    (noSpace : ∀ c ∈ chars, isWhiteSpace c = false) :
    chars.dropWhile isWhiteSpace = chars := by
  cases chars with
  | nil => rfl
  | cons first rest =>
      rw [List.dropWhile_cons, if_neg]
      rw [noSpace first (.head _)]
      exact Bool.false_ne_true

private theorem trim_eq {text : String} (noSpace : ∀ c ∈ text.toList, isWhiteSpace c = false) :
    trim text = text := by
  rw [trim, trimChars, dropWhile_eq noSpace, dropWhile_eq, List.reverse_reverse,
    String.ofList_toList]
  intro c member
  exact noSpace c (List.mem_reverse.mp member)

private theorem colon_mem_intercalate {texts : List String} (several : 2 ≤ texts.length) :
    ':' ∈ (":".intercalate texts).toList := by
  match texts, several with
  | first :: second :: rest, _ =>
      rw [String.intercalate_cons_cons]
      simp

namespace Ipv6Text

variable (address : Ipv6Text)

private theorem hexGroup_chars (group : HexGroup) : ∀ c ∈ group.text.toList, c ∈ ipv6Chars := by
  intro c member
  have digit := group.digits c member
  have within : ∀ c ∈ "0123456789abcdefABCDEF".toList, c ∈ ipv6Chars :=
    List.all_iff_forall_prop.mp (by decide)
  exact within c digit

/-- A character of an address is one of the pattern's, or one of the dotted quad. -/
private theorem mem_text {c : Char} (member : c ∈ address.text.toList) :
    c ∈ ipv6Chars ∨ ∃ quad, address.quad = some quad ∧ c ∈ quad.val.toList := by
  have colon : ':' ∈ ipv6Chars := by decide
  have groups : ∀ list : List HexGroup, c ∈ (":".intercalate (list.map HexGroup.text)).toList →
      c ∈ ipv6Chars := by
    intro list inside
    rcases of_mem_intercalate inside with between | ⟨part, partMember, inPart⟩
    · have same : c = ':' := by simpa using between
      exact same ▸ colon
    · obtain ⟨group, -, rfl⟩ := List.mem_map.mp partMember
      exact hexGroup_chars group c inPart
  have ends : ∀ list : List HexGroup, c ∈ (":".intercalate (address.parts list)).toList →
      c ∈ ipv6Chars ∨ ∃ quad, address.quad = some quad ∧ c ∈ quad.val.toList := by
    intro list inside
    rcases of_mem_intercalate inside with between | ⟨part, partMember, inPart⟩
    · have same : c = ':' := by simpa using between
      exact .inl (same ▸ colon)
    · rcases List.mem_append.mp partMember with inGroups | inQuad
      · obtain ⟨group, -, rfl⟩ := List.mem_map.mp inGroups
        exact .inl (hexGroup_chars group c inPart)
      · obtain ⟨quad, present, rfl⟩ := Option.map_eq_some_iff.mp (Option.mem_toList.mp inQuad)
        exact .inr ⟨quad, present, inPart⟩
  unfold text at member
  split at member
  · exact ends _ member
  · rw [String.toList_append, String.toList_append, List.mem_append, List.mem_append] at member
    rcases member with (inFront | colons) | inBack
    · exact .inl (groups _ inFront)
    · have same : c = ':' := by simpa using colons
      exact .inl (same ▸ colon)
    · exact ends _ inBack

private theorem colon_mem_text : ':' ∈ address.text.toList := by
  have size := address.size
  unfold text
  split
  · next whole =>
    rw [whole] at size
    apply colon_mem_intercalate
    rw [parts, List.length_append, List.length_map]
    cases present : address.quad with
    | none =>
        have groups : address.front.length + 0 = 8 := by simpa [present] using size
        omega
    | some quad =>
        have groups : address.front.length + 2 = 8 := by simpa [present] using size
        omega
  · simp

private theorem quad_mem_text {quad : { text : String // Ipv4Text text }}
    (present : address.quad = some quad) {c : Char} (member : c ∈ quad.val.toList) :
    c ∈ address.text.toList := by
  have inParts : ∀ list : List HexGroup, c ∈ (":".intercalate (address.parts list)).toList := by
    intro list
    apply mem_intercalate _ member
    exact List.mem_append_right _ (by simp [present])
  unfold text
  split
  · exact inParts _
  · rw [String.toList_append]
    exact List.mem_append_right _ (inParts _)

end Ipv6Text

/-- Of the textual IPv6 addresses, exactly those without a dotted quad are taken. -/
theorem isPlausibleIpAddress_ipv6 (address : Ipv6Text) :
    isPlausibleIpAddress address.text = true ↔ address.quad = none := by
  have noSpace : ∀ c ∈ address.text.toList, isWhiteSpace c = false := by
    intro c member
    rcases address.mem_text member with plain | ⟨quad, -, inQuad⟩
    · exact isWhiteSpace_ipv6Chars c plain
    · rcases quad.property.chars.2 c inQuad with rfl | digit
      · decide
      · exact isWhiteSpace_of_isDigit digit
  rw [isPlausibleIpAddress_iff, trim_eq noSpace]
  constructor
  · rintro (⟨-, quad⟩ | ⟨noDot, -, -⟩)
    · rcases quad.chars.2 ':' address.colon_mem_text with absurd' | absurd'
      · cases absurd'
      · cases absurd'
    · cases present : address.quad with
      | none => rfl
      | some quad =>
          exact absurd (address.quad_mem_text present quad.property.chars.1) noDot
  · intro none'
    have plain : ∀ c ∈ address.text.toList, c ∈ ipv6Chars := by
      intro c member
      rcases address.mem_text member with plain | ⟨quad, present, -⟩
      · exact plain
      · rw [none'] at present
        cases present
    refine .inr ⟨?_, address.colon_mem_text, plain⟩
    intro dot
    have impossible : '.' ∉ ipv6Chars := by decide
    exact impossible (plain '.' dot)

/-- The check is exact on texts without a colon; of the textual IPv6 addresses it takes
exactly those that do not end in a dotted quad. -/
theorem isPlausibleIpAddress_exact (value : String) (address : Ipv6Text) :
    (':' ∉ value.toList → (isPlausibleIpAddress value = true ↔ Ipv4Text (trim value))) ∧
      (isPlausibleIpAddress address.text = true ↔ address.quad = none) := by
  constructor
  · exact isPlausibleIpAddress_ipv4
  · exact isPlausibleIpAddress_ipv6 address

/-- `::ffff:192.0.2.1`. -/
def mappedAddress : Ipv6Text :=
  { front := []
    back := some [{ text := "ffff", short := by decide
                    digits := List.all_iff_forall_prop.mp (by decide +kernel) }]
    quad := some ⟨"192.0.2.1", 192, 0, 2, 1, by decide⟩
    size := by decide }

/-- An IPv4 address in its IPv6 form is refused. -/
theorem mapped_address_refused :
    mappedAddress.text = "::ffff:192.0.2.1" ∧
      isPlausibleIpAddress mappedAddress.text = false := by
  refine ⟨by decide, ?_⟩
  rw [← Bool.not_eq_true, isPlausibleIpAddress_ipv6]
  exact Option.some_ne_none _

end ServersManager
