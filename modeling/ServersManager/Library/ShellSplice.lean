/-
Module: ServersManager.Library.ShellSplice
Purpose: When a text that is spliced into a command without quoting is read back as
  it is: a weight argument over the characters the lexer keeps.
Trusted boundary: none
Main exports:
  Shell.State.weight, Shell.scan_weight_le, Shell.plainWord_of_lossless,
  Shell.inert_of_lossless, Shell.simpleCommand_splice_iff
-/
import Mathlib.Algebra.BigOperators.Group.List.Basic
import Mathlib.Algebra.Ring.Nat
import ServersManager.Library.ShellWords

namespace Library

namespace Shell

/-! ### Weights

A word holds no more characters than the text it was read from, and it holds as many
only if every character of that text stood for itself.
-/

def weight (word : Word) : Nat :=
  (word.filterMap char?).length

def Token.weight : Token → Nat
  | .word parts => Shell.weight parts
  | .op _ => 0

def tokensWeight (tokens : List Token) : Nat :=
  (tokens.map Token.weight).sum

/-- The characters a state holds. -/
def State.held (state : State) : Nat :=
  tokensWeight state.tokens + Shell.weight state.current

/-- The characters a state holds or may still owe: a backslash in double quotes is
itself part of the word if the next character gives it no meaning. -/
def State.weight (state : State) : Nat :=
  state.held + if state.mode = .doubleEscape then 1 else 0

@[simp] theorem weight_nil : weight [] = 0 := rfl

@[simp] theorem weight_home : weight [.home] = 0 := rfl

@[simp] theorem weight_append_char (word : Word) (c : Char) :
    weight (word ++ [.char c]) = weight word + 1 := by
  simp [weight, char?]

@[simp] theorem weight_literal (text : String) :
    weight (literal text) = text.length := by
  have all : char? ∘ Part.char = some := rfl
  rw [weight, literal, List.filterMap_map, all, List.filterMap_some,
    String.length_toList]

@[simp] theorem tokensWeight_append (first second : List Token) :
    tokensWeight (first ++ second) = tokensWeight first + tokensWeight second := by
  simp [tokensWeight]

@[simp] theorem tokensWeight_word (word : Word) :
    tokensWeight [.word word] = weight word := by
  simp [tokensWeight, Token.weight]

@[simp] theorem tokensWeight_op (operator : Operator) :
    tokensWeight [.op operator] = 0 := by
  simp [tokensWeight, Token.weight]

@[simp] theorem tokensWeight_nil : tokensWeight [] = 0 := rfl

private theorem eq_map_char {word : Word} {chars : List Char}
    (read : word.mapM char? = some chars) : word = chars.map Part.char := by
  induction word generalizing chars with
  | nil =>
      cases read
      rfl
  | cons part word inductionHypothesis =>
      cases part with
      | home => simp [char?] at read
      | char c =>
          simp only [List.mapM_cons, char?, Option.bind_eq_bind, Option.bind_some,
            Option.pure_def, Option.bind_eq_some_iff] at read
          obtain ⟨rest, restRead, same⟩ := read
          cases same
          rw [List.map_cons, inductionHypothesis restRead]

/-- A literal word is the word of its text. -/
theorem eq_literal {word : Word} {text : String}
    (read : literal? word = some text) : word = literal text := by
  obtain ⟨chars, charsRead, rfl⟩ := Option.map_eq_some_iff.mp read
  rw [literal, String.toList_ofList, ← eq_map_char charsRead]

/-- A word that is a literal weighs as much as its text is long. -/
theorem weight_of_literal? {word : Word} {text : String}
    (read : literal? word = some text) : weight word = text.length := by
  rw [eq_literal read, weight_literal]

/-! #### A step adds at most the character it reads -/

/-- Ending a word holds nothing more than before. -/
theorem delimit_held {state after : State} {c : Char}
    (stepped : delimit state c = some after) :
    after.held ≤ state.held ∧ after.mode ≠ .doubleEscape := by
  unfold delimit at stepped
  split at stepped
  · cases stepped
    simp [State.held]
  · split at stepped
    · cases stepped
      simp [State.emitOperator, State.held]
    · split at stepped
      · cases stepped
        simp [State.held]
      · cases stepped

/-- Outside quotation marks a character is held at most once, and only if it stands for
itself. -/
theorem unquoted_held {state after : State} {fresh : Bool} {c : Char}
    (stepped : unquoted state fresh c = some after) :
    after.held ≤ state.held + 1 ∧ after.mode ≠ .doubleEscape ∧
      (after.held = state.held + 1 →
        c ≠ '\'' ∧ c ≠ '"' ∧ c ≠ '\\' ∧ isExpansion c = false ∧
          after = state.push c) := by
  unfold unquoted at stepped
  split at stepped
  · cases stepped
    simp [State.held]
  · split at stepped
    · cases stepped
      simp [State.held]
    · split at stepped
      · cases stepped
        simp [State.held]
      · split at stepped
        · cases stepped
        · next single double backslash expansion =>
          cases stepped
          refine ⟨by simp [State.push, State.held]; omega, by simp [State.push],
            fun _ => ⟨single, double, backslash, by simpa using expansion, rfl⟩⟩

/-- So is the first character of a word, which must not be one that begins a comment or a
home path. -/
theorem blankStep_held {state after : State} {c : Char}
    (stepped : blankStep state c = some after) :
    after.held ≤ state.held + 1 ∧ after.mode ≠ .doubleEscape ∧
      (after.held = state.held + 1 →
        isDelimiter c = false ∧ c ≠ '#' ∧ c ≠ '~' ∧
          unquoted state true c = some after) := by
  unfold blankStep at stepped
  split at stepped
  · obtain ⟨held, mode⟩ := delimit_held stepped
    exact ⟨by omega, mode, fun grown => by omega⟩
  · split at stepped
    · cases stepped
      simp [State.held]
    · split at stepped
      · cases stepped
        simp [State.held]
      · next delimiter comment tilde =>
        obtain ⟨held, mode, -⟩ := unquoted_held stepped
        exact ⟨held, mode, fun _ => ⟨by simpa using delimiter, comment, tilde,
          stepped⟩⟩

@[simp] theorem held_emitWord (state : State) : state.emitWord.held = state.held := by
  simp [State.emitWord, State.held]

/-- An operator that is emitted is held no longer. -/
theorem held_emitOperator_le (state : State) (operator : Operator) :
    (state.emitOperator operator).held ≤ state.held := by
  simp [State.emitOperator, State.held]

@[simp] theorem held_push (state : State) (c : Char) :
    (state.push c).held = state.held + 1 := by
  simp [State.push, State.held]
  omega

@[simp] theorem held_quoted (state : State) (c : Char) :
    (state.quoted c).held = state.held + 1 := by
  simp [State.quoted, State.held]
  omega

/-- Except after a backslash in double quotes, what is read weighs what is held. -/
theorem weight_of_mode {state : State} (mode : state.mode ≠ .doubleEscape) :
    state.weight = state.held := by
  simp [State.weight, mode]

/-- Nothing held is without weight. -/
theorem held_le_weight (state : State) : state.held ≤ state.weight := by
  simp [State.weight]

/-- A change of mode alone. -/
@[simp] theorem held_mode (state : State) (mode : Mode) :
    { state with mode := mode }.held = state.held := rfl

private theorem step_word_held {state after : State} {c : Char}
    (stepped : (if isDelimiter c then delimit state.emitWord c
      else unquoted state false c) = some after) :
    after.held ≤ state.held + 1 ∧ after.mode ≠ .doubleEscape := by
  split at stepped
  · obtain ⟨grown, mode⟩ := delimit_held stepped
    rw [held_emitWord] at grown
    exact ⟨by omega, mode⟩
  · obtain ⟨grown, mode, -⟩ := unquoted_held stepped
    exact ⟨grown, mode⟩

private theorem step_tilde_held {state after : State} {c : Char}
    (stepped : (if c = '/' then some ({ state with current := [.home] }.push c)
      else if isDelimiter c then
        delimit { state with current := [.home] }.emitWord c
      else none) = some after) :
    after.held ≤ state.held + 1 ∧ after.mode ≠ .doubleEscape := by
  have home : { state with current := [.home] }.held ≤ state.held := by
    simp [State.held]
  split at stepped
  · cases stepped
    rw [held_push]
    exact ⟨by omega, by simp [State.push]⟩
  · split at stepped
    · obtain ⟨grown, mode⟩ := delimit_held stepped
      rw [held_emitWord] at grown
      exact ⟨by omega, mode⟩
    · cases stepped

private theorem step_operator_held {state after : State} {pending : Operator}
    {c : Char}
    (stepped : (if pending = .less ∧ c = '<' then none
      else
        match operatorExtend pending c with
        | some operator => some { state with mode := .operator operator }
        | none => blankStep (state.emitOperator pending) c) = some after) :
    after.held ≤ state.held + 1 ∧ after.mode ≠ .doubleEscape := by
  split at stepped
  · cases stepped
  · split at stepped
    · cases stepped
      exact ⟨by simp, by simp⟩
    · obtain ⟨grown, mode, -⟩ := blankStep_held stepped
      have emitted := held_emitOperator_le state pending
      exact ⟨by omega, mode⟩

/-- The step lemma: a character adds one to the weight at most. -/
theorem step_weight_le {state after : State} {c : Char}
    (stepped : step state c = some after) : after.weight ≤ state.weight + 1 := by
  have held := held_le_weight state
  have settled : after.held ≤ state.held + 1 ∧ after.mode ≠ .doubleEscape →
      after.weight ≤ state.weight + 1 := by
    rintro ⟨grown, mode⟩
    rw [weight_of_mode mode]
    omega
  unfold step at stepped
  split at stepped
  · cases stepped
  · cases mode : state.mode with
    | blank =>
        simp only [mode] at stepped
        obtain ⟨grown, after, -⟩ := blankStep_held stepped
        exact settled ⟨grown, after⟩
    | word =>
        simp only [mode] at stepped
        exact settled (step_word_held stepped)
    | single =>
        simp only [mode] at stepped
        split at stepped <;> cases stepped
        · exact settled (by simp)
        · exact settled ⟨by simp, by simp [State.quoted, mode]⟩
    | double =>
        simp only [mode] at stepped
        split at stepped
        · cases stepped
          exact settled (by simp)
        · split at stepped
          · cases stepped
            -- the backslash itself is owed from here on
            simp only [State.weight, held_mode, if_true, mode]
            omega
          · split at stepped <;> cases stepped
            exact settled ⟨by simp, by simp [State.quoted, mode]⟩
    | escape fresh =>
        simp only [mode] at stepped
        split at stepped <;> cases stepped
        · exact settled ⟨by simp, by simp; split <;> simp⟩
        · exact settled ⟨by simp, by simp [State.push]⟩
    | doubleEscape =>
        simp only [mode] at stepped
        have owed : state.weight = state.held + 1 := by simp [State.weight, mode]
        split at stepped
        · cases stepped
          exact settled (by simp)
        · split at stepped <;> cases stepped
          · exact settled ⟨by simp, by simp [State.quoted]⟩
          · rewrite [weight_of_mode (by simp [State.quoted]), held_quoted, held_quoted,
              held_mode, owed]
            exact Nat.le_refl _
    | comment =>
        simp only [mode] at stepped
        split at stepped <;> cases stepped
        · have emitted := held_emitOperator_le state .newline
          exact settled ⟨by omega, by simp [State.emitOperator]⟩
        · omega
    | tilde =>
        simp only [mode] at stepped
        exact settled (step_tilde_held stepped)
    | operator pending =>
        simp only [mode] at stepped
        exact settled (step_operator_held stepped)

/-- The run lemma: a text weighs no more than it is long. -/
theorem scan_weight_le {state after : State} {input : List Char}
    (scanned : scan state input = some after) :
    after.weight ≤ state.weight + input.length := by
  induction input generalizing state with
  | nil =>
      cases scanned
      omega
  | cons c input inductionHypothesis =>
      obtain ⟨middle, stepped, rest⟩ := Option.bind_eq_some_iff.mp scanned
      have first := step_weight_le stepped
      have others := inductionHypothesis rest
      simp only [List.length_cons]
      omega

/-- A stretch without a loss has none in its first step, and none in the rest. -/
theorem lossless_cons {state after : State} {c : Char} {input : List Char}
    (scanned : scan state (c :: input) = some after)
    (lossless : after.weight = state.weight + (c :: input).length) :
    ∃ middle, step state c = some middle ∧ middle.weight = state.weight + 1 ∧
      scan middle input = some after ∧
      after.weight = middle.weight + input.length := by
  obtain ⟨middle, stepped, rest⟩ := Option.bind_eq_some_iff.mp scanned
  have first := step_weight_le stepped
  have others := scan_weight_le rest
  simp only [List.length_cons] at lossless
  exact ⟨middle, stepped, by omega, rest, by omega⟩

/-- The end of the input adds nothing. -/
theorem finish_weight_le {state : State} {tokens : List Token}
    (finished : finish state = some tokens) :
    tokensWeight tokens ≤ state.weight := by
  unfold finish at finished
  split at finished <;> cases finished <;>
    simp only [State.weight, State.held, tokensWeight_append, tokensWeight_word,
      tokensWeight_op, weight_home] <;>
    omega

/-! #### Stretches without a loss -/

/-- In a word, only a plain character adds its full weight, and it is appended. -/
theorem step_word_lossless {current : Word} {tokens : List Token} {after : State}
    {c : Char} (stepped : step ⟨.word, current, tokens⟩ c = some after)
    (lossless : after.weight = State.weight ⟨.word, current, tokens⟩ + 1) :
    isPlain c = true ∧ after = ⟨.word, current ++ [.char c], tokens⟩ := by
  have base : State.weight ⟨.word, current, tokens⟩ =
      State.held ⟨.word, current, tokens⟩ := weight_of_mode (by simp)
  rw [base] at lossless
  unfold step at stepped
  split at stepped
  · cases stepped
  · next nul =>
    simp only at stepped
    split at stepped
    · obtain ⟨grown, mode⟩ := delimit_held stepped
      rw [held_emitWord] at grown
      rw [weight_of_mode mode] at lossless
      omega
    · next delimiter =>
      obtain ⟨-, mode, plain⟩ := unquoted_held stepped
      rw [weight_of_mode mode] at lossless
      obtain ⟨single, double, backslash, expansion, rfl⟩ := plain lossless
      exact ⟨isPlain_iff.mpr ⟨by simpa using delimiter, expansion, single, double,
        backslash, nul⟩, rfl⟩

/-- Between words, only a plain character that may begin a word does. -/
theorem step_blank_lossless {tokens : List Token} {after : State} {c : Char}
    (stepped : step ⟨.blank, [], tokens⟩ c = some after)
    (lossless : after.weight = State.weight ⟨.blank, [], tokens⟩ + 1) :
    isPlain c = true ∧ c ≠ '#' ∧ c ≠ '~' ∧ after = ⟨.word, [.char c], tokens⟩ := by
  have base : State.weight ⟨.blank, [], tokens⟩ =
      State.held ⟨.blank, [], tokens⟩ := weight_of_mode (by simp)
  rw [base] at lossless
  unfold step at stepped
  split at stepped
  · cases stepped
  · next nul =>
    obtain ⟨-, mode, started⟩ := blankStep_held stepped
    rw [weight_of_mode mode] at lossless
    obtain ⟨delimiter, comment, tilde, read⟩ := started lossless
    obtain ⟨-, -, plain⟩ := unquoted_held read
    obtain ⟨single, double, backslash, expansion, rfl⟩ := plain lossless
    exact ⟨isPlain_iff.mpr ⟨delimiter, expansion, single, double, backslash, nul⟩,
      comment, tilde, rfl⟩

/-- In double quotes, only a character that stands for itself there does. -/
theorem step_double_lossless {current : Word} {tokens : List Token} {after : State}
    {c : Char} (stepped : step ⟨.double, current, tokens⟩ c = some after)
    (backslash : c ≠ '\\')
    (lossless : after.weight = State.weight ⟨.double, current, tokens⟩ + 1) :
    c ≠ '"' ∧ c ≠ '$' ∧ c ≠ '`' ∧ c ≠ '\x00' ∧
      after = ⟨.double, current ++ [.char c], tokens⟩ := by
  have base : State.weight ⟨.double, current, tokens⟩ =
      State.held ⟨.double, current, tokens⟩ := weight_of_mode (by simp)
  rw [base] at lossless
  unfold step at stepped
  split at stepped
  · cases stepped
  · next nul =>
    simp only at stepped
    split at stepped
    · cases stepped
      rw [weight_of_mode (by simp)] at lossless
      simp [State.held] at lossless
    · next quotation =>
      split at stepped
      · cases stepped
      · next expansion =>
        cases stepped
        rw [not_or] at expansion
        exact ⟨quotation, expansion.1, expansion.2, nul, rfl⟩

/-- A text of which nothing is lost in a word consists of plain characters. -/
theorem plain_of_lossless {chars : List Char} {current : Word}
    {tokens : List Token} {after : State}
    (scanned : scan ⟨.word, current, tokens⟩ chars = some after)
    (lossless : after.weight =
      State.weight ⟨.word, current, tokens⟩ + chars.length) :
    ∀ c ∈ chars, isPlain c = true := by
  induction chars generalizing current with
  | nil => simp
  | cons c chars inductionHypothesis =>
      obtain ⟨middle, stepped, first, rest, others⟩ := lossless_cons scanned lossless
      obtain ⟨plain, rfl⟩ := step_word_lossless stepped first
      intro d member
      rcases List.mem_cons.mp member with rfl | member
      · exact plain
      · exact inductionHypothesis rest others d member

/-- A stretch that starts between words and loses no character is a plain word. -/
theorem plainWord_of_lossless {text : String} {tokens : List Token} {after : State}
    (nonempty : text ≠ "")
    (scanned : scan ⟨.blank, [], tokens⟩ text.toList = some after)
    (lossless : after.weight =
      State.weight ⟨.blank, [], tokens⟩ + text.toList.length) :
    PlainWord text := by
  cases split : text.toList with
  | nil => exact absurd (String.toList_eq_nil_iff.mp split) nonempty
  | cons c chars =>
      rw [split] at scanned lossless
      obtain ⟨middle, stepped, first, rest, others⟩ := lossless_cons scanned lossless
      obtain ⟨plain, comment, tilde, rfl⟩ := step_blank_lossless stepped first
      refine ⟨nonempty, by simpa [split], by simpa [split], fun d member => ?_⟩
      rw [split] at member
      rcases List.mem_cons.mp member with rfl | member
      · exact plain
      · exact plain_of_lossless rest others d member

/-- In double quotes, a stretch without a backslash that loses no character holds
none that has a meaning there. -/
theorem inert_of_lossless {chars : List Char} {current : Word}
    {tokens : List Token} {after : State} (backslash : '\\' ∉ chars)
    (scanned : scan ⟨.double, current, tokens⟩ chars = some after)
    (lossless : after.weight =
      State.weight ⟨.double, current, tokens⟩ + chars.length) :
    ∀ c ∈ chars, c ≠ '"' ∧ c ≠ '$' ∧ c ≠ '`' ∧ c ≠ '\x00' := by
  induction chars generalizing current with
  | nil => simp
  | cons c chars inductionHypothesis =>
      simp only [List.mem_cons, not_or] at backslash
      obtain ⟨middle, stepped, first, rest, others⟩ := lossless_cons scanned lossless
      obtain ⟨quotation, dollar, backquote, nul, rfl⟩ :=
        step_double_lossless stepped (Ne.symm backslash.1) first
      intro d member
      rcases List.mem_cons.mp member with rfl | member
      · exact ⟨quotation, dollar, backquote, nul⟩
      · exact inductionHypothesis backslash.2 rest others d member

/-! ### A text spliced in after complete words -/

/-- The end of a word leaves the tokens before it. -/
theorem delimit_tokens {state after : State} {c : Char}
    (stepped : delimit state c = some after) : state.tokens <+: after.tokens := by
  unfold delimit at stepped
  split at stepped
  · cases stepped
    exact List.prefix_rfl
  · split at stepped
    · cases stepped
      exact List.prefix_append _ _
    · split at stepped <;> cases stepped
      exact List.prefix_rfl

/-- A character outside quotation marks leaves the tokens before it. -/
theorem unquoted_tokens {state after : State} {fresh : Bool} {c : Char}
    (stepped : unquoted state fresh c = some after) :
    state.tokens <+: after.tokens := by
  unfold unquoted at stepped
  repeat' split at stepped
  all_goals cases stepped
  all_goals exact List.prefix_rfl

/-- A character between words leaves the tokens before it. -/
theorem blankStep_tokens {state after : State} {c : Char}
    (stepped : blankStep state c = some after) : state.tokens <+: after.tokens := by
  unfold blankStep at stepped
  split at stepped
  · exact delimit_tokens stepped
  · split at stepped
    · cases stepped
      exact List.prefix_rfl
    · split at stepped
      · cases stepped
        exact List.prefix_rfl
      · exact unquoted_tokens stepped

/-- The lexer never takes a token back. -/
theorem step_tokens {state after : State} {c : Char}
    (stepped : step state c = some after) : state.tokens <+: after.tokens := by
  have emitted : ∀ middle : State, state.emitWord.tokens <+: middle.tokens →
      state.tokens <+: middle.tokens :=
    fun middle => (List.prefix_append _ _).trans
  unfold step at stepped
  split at stepped
  · cases stepped
  · split at stepped
    · exact blankStep_tokens stepped
    · split at stepped
      · exact emitted after (delimit_tokens stepped)
      · exact unquoted_tokens stepped
    · split at stepped <;> cases stepped <;> exact List.prefix_rfl
    · split at stepped
      · cases stepped
        exact List.prefix_rfl
      · split at stepped
        · cases stepped
          exact List.prefix_rfl
        · split at stepped <;> cases stepped
          exact List.prefix_rfl
    · split at stepped <;> cases stepped <;> exact List.prefix_rfl
    · simp only at stepped
      split at stepped
      · cases stepped
        exact List.prefix_rfl
      · split at stepped <;> cases stepped <;> exact List.prefix_rfl
    · split at stepped <;> cases stepped
      · exact List.prefix_append _ _
      · exact List.prefix_rfl
    · simp only at stepped
      split at stepped
      · cases stepped
        exact List.prefix_rfl
      · split at stepped
        · exact (List.prefix_append _ _).trans (delimit_tokens stepped)
        · cases stepped
    · split at stepped
      · cases stepped
      · split at stepped
        · cases stepped
          exact List.prefix_rfl
        · exact (List.prefix_append _ _).trans (blankStep_tokens stepped)

/-- What has been emitted stays in front, however much is read after it. -/
theorem scan_tokens {state after : State} {input : List Char}
    (scanned : scan state input = some after) : state.tokens <+: after.tokens := by
  induction input generalizing state with
  | nil =>
      cases scanned
      exact List.prefix_rfl
  | cons c input inductionHypothesis =>
      obtain ⟨middle, stepped, rest⟩ := Option.bind_eq_some_iff.mp scanned
      exact (step_tokens stepped).trans (inductionHypothesis rest)

/-- The end of the input leaves the tokens before it. -/
theorem finish_tokens {state : State} {tokens : List Token}
    (finished : finish state = some tokens) : state.tokens <+: tokens := by
  unfold finish at finished
  split at finished <;> cases finished
  · exact List.prefix_rfl
  · exact List.prefix_rfl
  all_goals exact List.prefix_append _ _

/-- If a text spliced in after some words makes itself the last word, it is plain. -/
theorem plainWord_of_spliced {text : String} {before added : List Token}
    {word : Word}
    (lexed : (scan ⟨.blank, [], before⟩ text.toList).bind finish =
      some (before ++ added ++ [.word word]))
    (last : literal? word = some text) : PlainWord text := by
  obtain ⟨after, scanned, finished⟩ := Option.bind_eq_some_iff.mp lexed
  have nonempty : text ≠ "" := fun empty => by
    subst empty
    cases scanned
    have length := congrArg List.length (Option.some.inj finished)
    simp at length
  refine plainWord_of_lossless nonempty scanned ?_
  have upper := scan_weight_le scanned
  have lower := finish_weight_le finished
  have wordWeight := weight_of_literal? last
  simp only [tokensWeight_append, tokensWeight_word] at lower
  have base : State.weight ⟨.blank, [], before⟩ = tokensWeight before := by
    simp [State.weight, State.held]
  rw [base] at upper ⊢
  rw [← String.length_toList] at wordWeight
  omega

/-- Words that are joined and followed by a space are read as these words. -/
theorem scan_join_space {texts values : List String}
    (words : List.Forall₂ IsWord texts values) (nonempty : texts ≠ [])
    (tokens : List Token) :
    scan ⟨.blank, [], tokens⟩ (" ".intercalate texts ++ " ").toList =
      some ⟨.blank, [],
        tokens ++ values.map fun value => .word (literal value)⟩ := by
  induction words generalizing tokens with
  | nil => exact absurd rfl nonempty
  | @cons text value texts values head rest inductionHypothesis =>
      cases rest with
      | nil =>
          rw [String.toList_append, show (" ".intercalate [text]) = text by simp,
            scan_append, head tokens, Option.bind_some]
          rfl
      | cons next more =>
          rw [String.intercalate_cons_cons, String.append_assoc,
            String.append_assoc, String.toList_append, scan_append, head tokens,
            Option.bind_some, String.toList_append]
          rw [show " ".toList = [' '] from rfl, List.singleton_append,
            scan_word_space, inductionHypothesis (by simp)]
          simp

private theorem last_of_mapM {tokens : List Token} {token : Token}
    {arguments : List String} {text : String}
    (read : (tokens ++ [token]).mapM argument? = some arguments)
    (last : arguments.getLast? = some text) : argument? token = some text := by
  simp only [List.mapM_append, List.mapM_cons, List.mapM_nil, Option.bind_eq_bind,
    Option.pure_def, Option.bind_eq_some_iff] at read
  obtain ⟨front, -, back, ⟨word, wordRead, rest, noRest, backIs⟩, all⟩ := read
  cases noRest
  cases backIs
  cases all
  rw [List.getLast?_append, List.getLast?_singleton, Option.some_or] at last
  rw [wordRead, last]

/-- A text spliced in behind plain words is the last argument of one simple command
exactly if it is a plain word. -/
theorem simpleCommand_splice_iff {name : String} {texts : List String}
    (plain : ∀ text ∈ name :: texts, PlainWord text)
    (command : isCommandName name = true) (id : String) :
    (∃ arguments,
      simpleCommand (" ".intercalate (name :: texts) ++ " " ++ id) =
          some arguments ∧
        arguments.getLast? = some id) ↔
      PlainWord id := by
  have words : List.Forall₂ IsWord (name :: texts) (name :: texts) :=
    List.forall₂_same.mpr fun text member => (plain text member).isWord
  have prefixRead := scan_join_space words (by simp) []
  have split : lex (" ".intercalate (name :: texts) ++ " " ++ id) =
      (scan ⟨.blank, [], (name :: texts).map fun value => .word (literal value)⟩
        id.toList).bind finish := by
    rw [lex, String.toList_append, scan_append, start, prefixRead, Option.bind_some,
      List.nil_append]
  constructor
  · rintro ⟨arguments, parsed, last⟩
    obtain ⟨tokens, lexed, read⟩ := lex_of_simpleCommand parsed
    rw [split] at lexed
    obtain ⟨after, scanned, finished⟩ := Option.bind_eq_some_iff.mp lexed
    obtain ⟨added, rfl⟩ := (scan_tokens scanned).trans (finish_tokens finished)
    rcases List.eq_nil_or_concat added with rfl | ⟨added, token, rfl⟩
    · -- nothing was added: the text is one of the plain words before it
      rw [List.append_nil, mapM_argument?_literal] at read
      cases read
      exact plain id (List.mem_of_getLast? last)
    · rw [List.concat_eq_append, ← List.append_assoc] at read lexed
      have wordRead := last_of_mapM read last
      cases token with
      | op operator => cases wordRead
      | word parts => exact plainWord_of_spliced lexed wordRead
  · intro idPlain
    have last : ((name :: texts) ++ [id]).getLast? = some id := List.getLast?_concat
    refine ⟨name :: (texts ++ [id]), simpleCommand_of_lex ?_ command, last⟩
    rw [split, idPlain.isWord, Option.bind_some, finish]
    simp

/-! ### Weights of command lists -/

def Command.weight (command : Command) : Nat :=
  (command.words.map Shell.weight).sum + (command.appends.map Shell.weight).sum

def commandsWeight (commands : List Command) : Nat :=
  (commands.map Command.weight).sum

/-- Parsing keeps every character of the words. -/
theorem andListFrom_weight {tokens : List Token} {command : Command}
    {parsed : List Command} (parses : andListFrom command tokens = some parsed) :
    commandsWeight parsed = command.weight + tokensWeight tokens := by
  fun_induction andListFrom command tokens generalizing parsed with
  | case1 | case3 | case7 => cases parses
  | case2 command _ =>
      cases parses
      simp [commandsWeight]
  | case4 command tokens _ inductionHypothesis =>
      obtain ⟨rest, restParses, rfl⟩ := Option.map_eq_some_iff.mp parses
      have others := inductionHypothesis restParses
      simp only [commandsWeight, tokensWeight, Command.weight, Token.weight,
        List.map_cons, List.sum_cons, List.map_nil, List.sum_nil] at others ⊢
      omega
  | case5 command file tokens inductionHypothesis =>
      have others := inductionHypothesis parses
      simp only [tokensWeight, Command.weight, Token.weight, List.map_cons,
        List.sum_cons, List.map_append, List.sum_append, List.map_nil,
        List.sum_nil] at others ⊢
      omega
  | case6 command word tokens inductionHypothesis =>
      have others := inductionHypothesis parses
      simp only [tokensWeight, Command.weight, Token.weight, List.map_cons,
        List.sum_cons, List.map_append, List.sum_append, List.map_nil,
        List.sum_nil] at others ⊢
      omega

/-! ### Escapes come from backslashes -/

/-- The lexer has just read a backslash that escapes. -/
def Mode.isEscape : Mode → Bool
  | .escape _ | .doubleEscape => true
  | _ => false

/-- The end of a word is not inside an escape. -/
theorem delimit_isEscape {state after : State} {c : Char}
    (stepped : delimit state c = some after) : after.mode.isEscape = false := by
  unfold delimit at stepped
  repeat' split at stepped
  all_goals cases stepped
  all_goals rfl

/-- Without a backslash no escape begins outside quotation marks. -/
theorem unquoted_isEscape {state after : State} {fresh : Bool} {c : Char}
    (backslash : c ≠ '\\') (stepped : unquoted state fresh c = some after) :
    after.mode.isEscape = false := by
  unfold unquoted at stepped
  simp only [backslash, if_false] at stepped
  repeat' split at stepped
  all_goals cases stepped
  all_goals rfl

/-- Without a backslash no escape begins between words. -/
theorem blankStep_isEscape {state after : State} {c : Char}
    (backslash : c ≠ '\\') (stepped : blankStep state c = some after) :
    after.mode.isEscape = false := by
  unfold blankStep at stepped
  split at stepped
  · exact delimit_isEscape stepped
  · split at stepped
    · cases stepped
      rfl
    · split at stepped
      · cases stepped
        rfl
      · exact unquoted_isEscape backslash stepped

/-- Without a backslash no character begins an escape. -/
theorem step_isEscape {state after : State} {c : Char} (backslash : c ≠ '\\')
    (stepped : step state c = some after) : after.mode.isEscape = false := by
  unfold step at stepped
  split at stepped
  · cases stepped
  · cases mode : state.mode with
    | blank =>
        simp only [mode] at stepped
        exact blankStep_isEscape backslash stepped
    | word =>
        simp only [mode] at stepped
        split at stepped
        · exact delimit_isEscape stepped
        · exact unquoted_isEscape backslash stepped
    | operator pending =>
        simp only [mode] at stepped
        split at stepped
        · cases stepped
        · split at stepped
          · cases stepped
            rfl
          · exact blankStep_isEscape backslash stepped
    | tilde =>
        simp only [mode] at stepped
        split at stepped
        · cases stepped
          rfl
        · split at stepped
          · exact delimit_isEscape stepped
          · cases stepped
    | single | double | escape fresh | doubleEscape | comment =>
        simp only [mode, backslash] at stepped
        repeat' split at stepped
        all_goals cases stepped
        all_goals first | rfl | simp [State.quoted, mode, Mode.isEscape]

/-- A text without backslashes leaves no escape open. -/
theorem scan_isEscape {state after : State} {input : List Char}
    (backslash : '\\' ∉ input) (start : state.mode.isEscape = false)
    (scanned : scan state input = some after) : after.mode.isEscape = false := by
  induction input generalizing state with
  | nil =>
      cases scanned
      exact start
  | cons c input inductionHypothesis =>
      simp only [List.mem_cons, not_or] at backslash
      obtain ⟨middle, stepped, rest⟩ := Option.bind_eq_some_iff.mp scanned
      exact inductionHypothesis backslash.2
        (step_isEscape (Ne.symm backslash.1) stepped) rest

end Shell

end Library
