/-
Module: ServersManager.Library.ShellWords
Purpose: Which texts the shell reads back as given words: plain words, single-quoted
  words, words joined by blanks.
Trusted boundary: none
Main exports:
  Shell.PlainWord, Shell.IsWord, Shell.IsWord.singleQuoted, Shell.simpleCommand_join
-/
import Mathlib.Data.List.Forall2
import ServersManager.Library.Shell

namespace Library

namespace Shell

/-! ### Literal words -/

@[simp] theorem literal?_literal (text : String) :
    literal? (literal text) = some text := by
  have read : ∀ chars : List Char,
      (chars.map Part.char).mapM char? = some chars := by
    intro chars
    induction chars with
    | nil => rfl
    | cons c chars inductionHypothesis => simp [char?, inductionHypothesis]
  simp [literal?, literal, read]

@[simp] theorem argument?_word_literal (text : String) :
    argument? (.word (literal text)) = some text := by
  simp [argument?]

theorem mapM_argument?_literal (texts : List String) :
    (texts.map fun text => Token.word (literal text)).mapM argument? =
      some texts := by
  induction texts with
  | nil => rfl
  | cons text texts inductionHypothesis => simp [inductionHypothesis]

/-! ### Texts that are read back as one word -/

/-- A character that stands for itself in an unquoted part of a word. -/
def isPlain (c : Char) : Bool :=
  !(isDelimiter c || isExpansion c || c == '\'' || c == '"' || c == '\\' ||
    c == '\x00')

/-- A text that is a word without any quoting. -/
def PlainWord (text : String) : Prop :=
  text ≠ "" ∧ text.toList.head? ≠ some '#' ∧ text.toList.head? ≠ some '~' ∧
    ∀ c ∈ text.toList, isPlain c = true

instance (text : String) : Decidable (PlainWord text) :=
  decidable_of_iff (text ≠ "" ∧ text.toList.head? ≠ some '#' ∧
      text.toList.head? ≠ some '~' ∧ text.toList.all isPlain = true)
    (by rw [PlainWord, List.all_eq_true])

/-- Between blanks, the text is one word with this value. -/
def IsWord (text value : String) : Prop :=
  ∀ tokens, scan ⟨.blank, [], tokens⟩ text.toList =
    some ⟨.word, literal value, tokens⟩

/-- A plain character is none that the shell treats in a special way. -/
theorem isPlain_iff {c : Char} :
    isPlain c = true ↔ isDelimiter c = false ∧ isExpansion c = false ∧
      c ≠ '\'' ∧ c ≠ '"' ∧ c ≠ '\\' ∧ c ≠ '\x00' := by
  simp [isPlain, and_assoc]

/-- Inside a word it is taken as it is. -/
theorem step_word_plain {c : Char} (plain : isPlain c = true) (current : Word)
    (tokens : List Token) :
    step ⟨.word, current, tokens⟩ c =
      some ⟨.word, current ++ [.char c], tokens⟩ := by
  obtain ⟨delimiter, expansion, single, double, backslash, nul⟩ :=
    isPlain_iff.mp plain
  simp [step, unquoted, State.push, delimiter, expansion, single, double,
    backslash, nul]

/-- It begins a word. -/
theorem step_blank_plain {c : Char} (plain : isPlain c = true) (comment : c ≠ '#')
    (tilde : c ≠ '~') (tokens : List Token) :
    step ⟨.blank, [], tokens⟩ c = some ⟨.word, [.char c], tokens⟩ := by
  obtain ⟨delimiter, expansion, single, double, backslash, nul⟩ :=
    isPlain_iff.mp plain
  simp [step, blankStep, unquoted, State.push, delimiter, expansion, single,
    double, backslash, nul, comment, tilde]

/-- So do many of them, by induction. -/
theorem scan_word_plain {chars : List Char}
    (plain : ∀ c ∈ chars, isPlain c = true) (current : Word)
    (tokens : List Token) :
    scan ⟨.word, current, tokens⟩ chars =
      some ⟨.word, current ++ chars.map Part.char, tokens⟩ := by
  induction chars generalizing current with
  | nil => simp
  | cons c chars inductionHypothesis =>
      rw [scan_cons, step_word_plain (plain c (by simp)), Option.bind_some,
        inductionHypothesis (fun d member => plain d (by simp [member]))]
      simp

/-- A plain text is its own word. -/
theorem PlainWord.isWord {text : String} (plain : PlainWord text) :
    IsWord text text := by
  obtain ⟨nonempty, comment, tilde, chars⟩ := plain
  intro tokens
  cases split : text.toList with
  | nil => exact absurd (String.toList_eq_nil_iff.mp split) nonempty
  | cons c rest =>
      rw [split] at comment tilde chars
      rw [scan_cons, step_blank_plain (chars c (by simp)) (by simpa using comment)
        (by simpa using tilde), Option.bind_some,
        scan_word_plain fun d member => chars d (by simp [member])]
      simp [literal, split]

/-! ### Quotations -/

/-- Between double quotes any other character is taken as it is. -/
theorem step_double_other {c : Char} (quotation : c ≠ '"') (backslash : c ≠ '\\')
    (dollar : c ≠ '$') (backquote : c ≠ '`') (nul : c ≠ '\x00')
    (current : Word) (tokens : List Token) :
    step ⟨.double, current, tokens⟩ c =
      some ⟨.double, current ++ [.char c], tokens⟩ := by
  simp [step, State.quoted, quotation, backslash, dollar, backquote, nul]

/-- Characters without a meaning in double quotes stand for themselves there. -/
theorem scan_double {chars : List Char}
    (inert : ∀ c ∈ chars,
      c ≠ '"' ∧ c ≠ '\\' ∧ c ≠ '$' ∧ c ≠ '`' ∧ c ≠ '\x00')
    (current : Word) (tokens : List Token) :
    scan ⟨.double, current, tokens⟩ chars =
      some ⟨.double, current ++ chars.map Part.char, tokens⟩ := by
  induction chars generalizing current with
  | nil => simp
  | cons c chars inductionHypothesis =>
      obtain ⟨quotation, backslash, dollar, backquote, nul⟩ := inert c (by simp)
      rw [scan_cons,
        step_double_other quotation backslash dollar backquote nul,
        Option.bind_some,
        inductionHypothesis (fun d member => inert d (by simp [member]))]
      simp

/-- A character of a single-quoted text: a quote closes the quotation, escapes
itself and opens the next one. -/
def singleQuoteChar (c : Char) : List Char :=
  if c = '\'' then ['\'', '\\', '\'', '\''] else [c]

def singleQuoted (text : String) : String :=
  "'" ++ String.ofList (text.toList.flatMap singleQuoteChar) ++ "'"

/-- A quoted character is read back, a quote among them. -/
theorem scan_singleQuoteChar {c : Char} (nul : c ≠ '\x00') (current : Word)
    (tokens : List Token) :
    scan ⟨.single, current, tokens⟩ (singleQuoteChar c) =
      some ⟨.single, current ++ [.char c], tokens⟩ := by
  by_cases quote : c = '\''
  · subst quote
    rfl
  · simp [singleQuoteChar, quote, step, nul, State.quoted]

/-- So is a quoted text. -/
theorem scan_single {chars : List Char} (nul : '\x00' ∉ chars) (current : Word)
    (tokens : List Token) :
    scan ⟨.single, current, tokens⟩ (chars.flatMap singleQuoteChar) =
      some ⟨.single, current ++ chars.map Part.char, tokens⟩ := by
  induction chars generalizing current with
  | nil => simp
  | cons c chars inductionHypothesis =>
      simp only [List.mem_cons, not_or] at nul
      rw [List.flatMap_cons, scan_append, scan_singleQuoteChar (Ne.symm nul.1),
        Option.bind_some, inductionHypothesis nul.2]
      simp

/-- Characters that do not end a single quotation stand for themselves in it. -/
theorem scan_single_other {chars : List Char}
    (inert : ∀ c ∈ chars, c ≠ '\'' ∧ c ≠ '\x00') (current : Word)
    (tokens : List Token) :
    scan ⟨.single, current, tokens⟩ chars =
      some ⟨.single, current ++ chars.map Part.char, tokens⟩ := by
  have same : chars.flatMap singleQuoteChar = chars := by
    induction chars with
    | nil => rfl
    | cons c chars inductionHypothesis =>
        rw [List.flatMap_cons, inductionHypothesis
          (fun d member => inert d (.tail _ member)), singleQuoteChar,
          if_neg (inert c (.head _)).1, List.singleton_append]
  rw [← same, scan_single (fun member => (inert _ member).2 rfl), same]

/-- A comment goes on to the end of its line. -/
theorem scan_comment {chars : List Char}
    (inert : ∀ c ∈ chars, c ≠ '\n' ∧ c ≠ '\x00') (current : Word)
    (tokens : List Token) :
    scan ⟨.comment, current, tokens⟩ chars = some ⟨.comment, current, tokens⟩ := by
  induction chars with
  | nil => rfl
  | cons c chars inductionHypothesis =>
      obtain ⟨newline, nul⟩ := inert c (.head _)
      have stepped : step ⟨.comment, current, tokens⟩ c =
          some ⟨.comment, current, tokens⟩ := by
        simp [step, newline, nul]
      rw [scan_cons, stepped, Option.bind_some,
        inductionHypothesis fun d member => inert d (.tail _ member)]

/-- A path below the home directory whose characters are plain. -/
theorem scan_homePath {chars : List Char}
    (plain : ∀ c ∈ chars, isPlain c = true) (tokens : List Token) :
    scan ⟨.blank, [], tokens⟩ ('~' :: '/' :: chars) =
      some ⟨.word, .home :: .char '/' :: chars.map Part.char, tokens⟩ := by
  have opened : scan ⟨.blank, [], tokens⟩ ('~' :: '/' :: chars) =
      scan ⟨.word, [.home, .char '/'], tokens⟩ chars := rfl
  rw [opened, scan_word_plain plain]
  rfl

/-- Quoting is inverse to the shell's reading, whatever the text. -/
theorem IsWord.singleQuoted {text : String} (nul : '\x00' ∉ text.toList) :
    IsWord (singleQuoted text) text := by
  intro tokens
  have opened : ∀ rest, scan ⟨.blank, [], tokens⟩ ('\'' :: rest) =
      scan ⟨.single, [], tokens⟩ rest := fun _ => rfl
  have chars : (Shell.singleQuoted text).toList =
      '\'' :: (text.toList.flatMap singleQuoteChar ++ ['\'']) := by
    simp [Shell.singleQuoted]
  rw [chars, opened, scan_append, scan_single nul, Option.bind_some]
  rfl

/-! ### Words joined by blanks -/

/-- A blank ends a word. -/
theorem scan_word_space (current : Word) (tokens : List Token)
    (rest : List Char) :
    scan ⟨.word, current, tokens⟩ (' ' :: rest) =
      scan ⟨.blank, [], tokens ++ [.word current]⟩ rest := rfl

/-- Words that are joined by blanks are read as these words. -/
theorem lex_join {texts values : List String}
    (words : List.Forall₂ IsWord texts values) (nonempty : texts ≠ [])
    (tokens : List Token) :
    (scan ⟨.blank, [], tokens⟩ (" ".intercalate texts).toList).bind finish =
      some (tokens ++ values.map fun value => .word (literal value)) := by
  induction words generalizing tokens with
  | nil => exact absurd rfl nonempty
  | @cons text value texts values head rest inductionHypothesis =>
      cases rest with
      | nil => simp [head tokens, finish]
      | cons next more =>
          rw [String.intercalate_cons_cons, String.append_assoc,
            String.toList_append, scan_append, head tokens, Option.bind_some,
            String.toList_append]
          rw [show " ".toList = [' '] from rfl, List.singleton_append,
            scan_word_space, inductionHypothesis (by simp)]
          simp

/-- A text that is read as literal words only. -/
theorem simpleCommand_of_lex {text name : String} {values : List String}
    (read : lex text =
      some ((name :: values).map fun value => .word (literal value)))
    (command : isCommandName name = true) :
    simpleCommand text = some (name :: values) := by
  simp only [simpleCommand, read, Option.bind_eq_bind, Option.bind_some,
    mapM_argument?_literal, command, if_true]

/-- What is read as a simple command is read as words only. -/
theorem lex_of_simpleCommand {text : String} {arguments : List String}
    (read : simpleCommand text = some arguments) :
    ∃ tokens, lex text = some tokens ∧
      tokens.mapM argument? = some arguments := by
  simp only [simpleCommand, Option.bind_eq_bind, Option.bind_eq_some_iff] at read
  obtain ⟨tokens, lexed, words, wordsRead, checked⟩ := read
  refine ⟨tokens, lexed, ?_⟩
  cases words with
  | nil => cases checked
  | cons name rest =>
      simp only [Option.ite_none_right_eq_some] at checked
      rw [wordsRead, checked.2]

/-- Words joined by blanks are the argument vector of one simple command. -/
theorem simpleCommand_join {text name : String} {texts values : List String}
    (words : List.Forall₂ IsWord (text :: texts) (name :: values))
    (command : isCommandName name = true) :
    simpleCommand (" ".intercalate (text :: texts)) = some (name :: values) := by
  refine simpleCommand_of_lex ?_ command
  simpa [lex, start] using lex_join words (by simp) []

end Shell

end Library
