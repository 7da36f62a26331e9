/-
Module: ServersManager.Bootstrap
Purpose: The public key line of a host and the command that installs it.
Trusted boundary: none
Main exports:
  buildOpenSshPublicKey, HostName, hostPublicKey, buildBootstrapCommand,
  InstallsKey, installsKey_bootstrap_iff
-/
import Mathlib.Data.Bool.AllAny
import ServersManager.Library.Base64
import ServersManager.Library.ShellSplice

namespace ServersManager

open Library
open Library.Shell

/-! ### `hosts/ssh-keypair.util.ts` -/

def uint32BE (value : Nat) : List UInt8 :=
  [UInt8.ofNat (value / 16777216), UInt8.ofNat (value / 65536),
    UInt8.ofNat (value / 256), UInt8.ofNat value]

def sshString (value : List UInt8) : List UInt8 :=
  uint32BE value.length ++ value

def buildOpenSshPublicKey (publicKeyRaw : List UInt8) (comment : String) : String :=
  let keyType := "ssh-ed25519".toUTF8.data.toList
  let blob := sshString keyType ++ sshString publicKeyRaw
  "ssh-ed25519 " ++ Base64.encode blob ++ " " ++ comment

/-! ### `hosts/dto/create-host.dto.ts`, `HostsService.create` -/

/-- A name the request validation lets through. -/
structure HostName where
  text : String
  minLength : 1 ≤ text.length
  maxLength : text.length ≤ 255

/-- The `sshPublicKey` of a host created under a name: the name is the comment. -/
def hostPublicKey (publicKeyRaw : List UInt8) (name : HostName) : String :=
  buildOpenSshPublicKey publicKeyRaw name.text

/-! ### `hosts/bootstrap-command.util.ts` -/

def buildBootstrapCommand (publicKey : String) : String :=
  "mkdir -p ~/.ssh && chmod 700 ~/.ssh && " ++
    ("echo \"" ++ publicKey ++ "\" >> ~/.ssh/authorized_keys && ") ++
    "chmod 600 ~/.ssh/authorized_keys"

/-! ### What the command does -/

/-- A path below the home directory. -/
def homePath (path : String) : Word :=
  .home :: literal path

def authorizedKeys : Word := homePath "/.ssh/authorized_keys"

/-- The commands that install a key. -/
def bootstrapCommands (key : String) : List Command :=
  [{ words := [literal "mkdir", literal "-p", homePath "/.ssh"], appends := [] },
    { words := [literal "chmod", literal "700", homePath "/.ssh"], appends := [] },
    { words := [literal "echo", literal key], appends := [authorizedKeys] },
    { words := [literal "chmod", literal "600", authorizedKeys], appends := [] }]

/-- What follows the first field of a line. -/
def afterField (line : List Char) : List Char :=
  (line.dropWhile (· != ' ')).drop 1

/-- The comment of a public key line: what follows the key type and the key. -/
def keyComment (line : String) : String :=
  String.ofList (afterField (afterField line.toList))

/-- A command runs just the commands that install `key`, what it appends is the one
line `key`, and that line's comment is `comment`. -/
structure InstallsKey (command key comment : String) : Prop where
  parses : commands command = some (bootstrapCommands key)
  appends : echoOutput [key] = some (key ++ "\n")
  oneLine : '\n' ∉ key.toList
  intact : keyComment key = comment

/-- A character that keeps its meaning in double quotes, or that an input line cannot
hold. -/
def isActive (c : Char) : Bool :=
  c == '"' || c == '$' || c == '`' || c == '\\' || c == '\n' || c == '\x00'

/-! ### Around the key -/

private def opening : String :=
  "mkdir -p ~/.ssh && chmod 700 ~/.ssh && " ++ "echo \""

private def closing : String :=
  " >> " ++ ("~/.ssh/authorized_keys" ++ (" && " ++
    ((" ".intercalate ["chmod", "600"] ++ " ") ++ "~/.ssh/authorized_keys")))

private def openingTokens : List Token :=
  [.word (literal "mkdir"), .word (literal "-p"), .word (homePath "/.ssh"),
    .op .andIf, .word (literal "chmod"), .word (literal "700"),
    .word (homePath "/.ssh"), .op .andIf, .word (literal "echo")]

private def closingTokens : List Token :=
  [.op .append, .word authorizedKeys, .op .andIf, .word (literal "chmod"),
    .word (literal "600"), .word authorizedKeys]

private theorem closing_eq :
    "\" >> ~/.ssh/authorized_keys && " ++ "chmod 600 ~/.ssh/authorized_keys" =
      "\"" ++ closing := by
  decide

-- about any pieces: unifying string literals is slow
private theorem around_key {first second third fourth back : String} (key : String)
    (same : third ++ fourth = back) :
    first ++ (second ++ key ++ third) ++ fourth =
      first ++ second ++ (key ++ back) := by
  rw [← same]
  simp only [String.append_assoc]

private theorem buildBootstrapCommand_eq (key : String) :
    buildBootstrapCommand key = opening ++ (key ++ ("\"" ++ closing)) :=
  around_key key closing_eq

private theorem scan_opening :
    scan start opening.toList = some ⟨.double, [], openingTokens⟩ := by
  decide

private theorem lex_bootstrap (key : String) :
    lex (buildBootstrapCommand key) =
      (scan ⟨.double, [], openingTokens⟩ key.toList).bind fun state =>
        (scan state ('"' :: closing.toList)).bind finish := by
  rw [lex, buildBootstrapCommand_eq, String.toList_append, scan_append,
    scan_opening, Option.bind_some, String.toList_append, scan_append,
    Option.bind_assoc, String.toList_append]
  rfl

private theorem scan_authorizedKeys (tokens : List Token) :
    scan ⟨.blank, [], tokens⟩ "~/.ssh/authorized_keys".toList =
      some ⟨.word, authorizedKeys, tokens⟩ := by
  have path : "~/.ssh/authorized_keys" = "~/" ++ ".ssh/authorized_keys" := by
    decide
  rw [path, String.toList_append]
  exact scan_homePath (List.all_iff_forall_prop.mp (by decide)) tokens

/-- In double quotes, the rest of the command is read as intended. -/
private theorem scan_closing (current : Word) (tokens : List Token) :
    (scan ⟨.double, current, tokens⟩ ('"' :: closing.toList)).bind finish =
      some (tokens ++ .word current :: closingTokens) := by
  have append : scan ⟨.word, current, tokens⟩ " >> ".toList =
      some ⟨.blank, [], tokens ++ [.word current] ++ [.op .append]⟩ := rfl
  have andIf : ∀ before, scan ⟨.word, authorizedKeys, before⟩ " && ".toList =
      some ⟨.blank, [], before ++ [.word authorizedKeys] ++ [.op .andIf]⟩ :=
    fun before => rfl
  have chmod : List.Forall₂ IsWord ["chmod", "600"] ["chmod", "600"] :=
    List.forall₂_same.mpr fun text member =>
      (show ∀ text ∈ ["chmod", "600"], PlainWord text by decide) text member
        |>.isWord
  have quotation : step ⟨.double, current, tokens⟩ '"' =
      some ⟨.word, current, tokens⟩ := rfl
  rw [scan_cons, quotation, Option.bind_some, closing, String.toList_append,
    scan_append, append, Option.bind_some, String.toList_append, scan_append,
    scan_authorizedKeys, Option.bind_some, String.toList_append, scan_append, andIf,
    Option.bind_some, String.toList_append, scan_append,
    scan_join_space chmod (by simp), Option.bind_some, scan_authorizedKeys,
    Option.bind_some, finish]
  simp [closingTokens]

private theorem andListFrom_bootstrap (key : String) :
    andListFrom ⟨[], []⟩ (openingTokens ++ .word (literal key) :: closingTokens) =
      some (bootstrapCommands key) := rfl

/-! ### Names that keep their meaning -/

/-- The part of the key line before the name. -/
private def keyPrefix (publicKeyRaw : List UInt8) : String :=
  buildOpenSshPublicKey publicKeyRaw ""

private theorem hostPublicKey_eq (publicKeyRaw : List UInt8) (name : HostName) :
    hostPublicKey publicKeyRaw name = keyPrefix publicKeyRaw ++ name.text := by
  simp [hostPublicKey, keyPrefix, buildOpenSshPublicKey, String.append_assoc]

private theorem isActive_eq_false_iff {c : Char} :
    isActive c = false ↔
      c ≠ '"' ∧ c ≠ '$' ∧ c ≠ '`' ∧ c ≠ '\\' ∧ c ≠ '\n' ∧ c ≠ '\x00' := by
  simp [isActive, and_assoc]

private theorem keyPrefix_inactive (publicKeyRaw : List UInt8) :
    ∀ c ∈ (keyPrefix publicKeyRaw).toList, isActive c = false := by
  have digits : ∀ c ∈ '=' :: Base64.alphabet, isActive c = false :=
    List.all_iff_forall_prop.mp (by decide)
  have type : ∀ c ∈ "ssh-ed25519 ".toList, isActive c = false :=
    List.all_iff_forall_prop.mp (by decide)
  have space : ∀ c ∈ " ".toList, isActive c = false :=
    List.all_iff_forall_prop.mp (by decide)
  intro c member
  simp only [keyPrefix, buildOpenSshPublicKey, String.append_empty,
    String.toList_append, List.mem_append] at member
  rcases member with (member | member) | member
  · exact type c member
  · exact digits c (Base64.mem_encode member)
  · exact space c member

private theorem hostPublicKey_inactive {publicKeyRaw : List UInt8} {name : HostName}
    (inactive : ∀ c ∈ name.text.toList, isActive c = false) :
    ∀ c ∈ (hostPublicKey publicKeyRaw name).toList, isActive c = false := by
  intro c member
  rw [hostPublicKey_eq, String.toList_append, List.mem_append] at member
  rcases member with member | member
  · exact keyPrefix_inactive publicKeyRaw c member
  · exact inactive c member

private theorem scan_inactive {chars : List Char}
    (inactive : ∀ c ∈ chars, isActive c = false) (current : Word)
    (tokens : List Token) :
    scan ⟨.double, current, tokens⟩ chars =
      some ⟨.double, current ++ chars.map Part.char, tokens⟩ := by
  refine scan_double (fun c member => ?_) current tokens
  obtain ⟨quotation, dollar, backquote, backslash, -, nul⟩ :=
    isActive_eq_false_iff.mp (inactive c member)
  exact ⟨quotation, backslash, dollar, backquote, nul⟩

private theorem commands_bootstrap {key : String}
    (inactive : ∀ c ∈ key.toList, isActive c = false) :
    commands (buildBootstrapCommand key) = some (bootstrapCommands key) := by
  rw [commands, lex_bootstrap, scan_inactive inactive, Option.bind_some,
    scan_closing, Option.bind_some]
  exact andListFrom_bootstrap key

private theorem afterField_append {chars rest : List Char}
    (noSpace : ' ' ∉ chars) : afterField (chars ++ ' ' :: rest) = rest := by
  have skipped : (chars ++ ' ' :: rest).dropWhile (· != ' ') = ' ' :: rest := by
    induction chars with
    | nil => rfl
    | cons c chars inductionHypothesis =>
        simp only [List.mem_cons, not_or] at noSpace
        have differs : (c != ' ') = true := by simpa using Ne.symm noSpace.1
        rw [List.cons_append, List.dropWhile_cons, if_pos differs,
          inductionHypothesis noSpace.2]
  rw [afterField, skipped, List.drop_one, List.tail_cons]

/-- The host name is the comment of its key line. -/
theorem keyComment_hostPublicKey (publicKeyRaw : List UInt8) (name : HostName) :
    keyComment (hostPublicKey publicKeyRaw name) = name.text := by
  have type : "ssh-ed25519 ".toList = "ssh-ed25519".toList ++ [' '] := by
    decide
  have typeField : ' ' ∉ "ssh-ed25519".toList := by decide
  have digits : ' ' ∉ '=' :: Base64.alphabet := by decide
  simp only [keyComment, hostPublicKey, buildOpenSshPublicKey, String.toList_append,
    type, List.append_assoc]
  rw [show " ".toList = [' '] from rfl, List.singleton_append, List.singleton_append,
    afterField_append typeField,
    afterField_append fun member => digits (Base64.mem_encode member),
    String.ofList_toList]

private theorem echoOutput_key {publicKeyRaw : List UInt8} {name : HostName}
    (backslash : '\\' ∉ (hostPublicKey publicKeyRaw name).toList) :
    echoOutput [hostPublicKey publicKeyRaw name] =
      some (hostPublicKey publicKeyRaw name ++ "\n") := by
  have option : hostPublicKey publicKeyRaw name ≠ "-n" := fun same => by
    have length := congrArg String.length same
    simp only [hostPublicKey, buildOpenSshPublicKey, String.length_append] at length
    have type : "ssh-ed25519 ".length = 12 := by decide
    have short : "-n".length = 2 := by decide
    omega
  simp [echoOutput, option, backslash]

/-! ### Names that do not -/

private theorem closing_inert : ∀ c ∈ closing.toList,
    c ≠ '"' ∧ c ≠ '\\' ∧ c ≠ '$' ∧ c ≠ '`' ∧ c ≠ '\x00' ∧ c ≠ '\'' ∧ c ≠ '\n' :=
  List.all_iff_forall_prop.mp (by decide)

/-- A quotation that the rest of the command opens is never closed. -/
private theorem scan_closing_open (current : Word) (tokens : List Token) :
    (scan ⟨.double, current, tokens⟩ closing.toList).bind finish = none := by
  rw [scan_double fun c member => by
    obtain ⟨quotation, backslash, dollar, backquote, nul, -⟩ := closing_inert c member
    exact ⟨quotation, backslash, dollar, backquote, nul⟩]
  rfl

/-- The rest of the command is read as intended after a stretch that leaves the
quotation open, and adds nothing, if it is read at all, after any other. -/
private theorem scan_closing_weight {state : State} {tokens : List Token}
    (noEscape : state.mode.isEscape = false)
    (read : (scan state ('"' :: closing.toList)).bind finish = some tokens) :
    state.mode = .double ∨ tokensWeight tokens ≤ state.weight := by
  obtain ⟨mode, current, before⟩ := state
  cases mode with
  | double => exact .inl rfl
  | escape fresh => cases noEscape
  | doubleEscape => cases noEscape
  | tilde => cases read
  | blank =>
      have opened : step ⟨.blank, current, before⟩ '"' =
          some ⟨.double, current, before⟩ := rfl
      rw [scan_cons, opened, Option.bind_some, scan_closing_open] at read
      cases read
  | word =>
      have opened : step ⟨.word, current, before⟩ '"' =
          some ⟨.double, current, before⟩ := rfl
      rw [scan_cons, opened, Option.bind_some, scan_closing_open] at read
      cases read
  | operator pending =>
      have opened : step ⟨.operator pending, current, before⟩ '"' =
          some ⟨.double, [], before ++ [.op pending]⟩ := by
        cases pending <;> rfl
      rw [scan_cons, opened, Option.bind_some, scan_closing_open] at read
      cases read
  | single =>
      rw [scan_single_other fun c member => by
        rcases List.mem_cons.mp member with rfl | member
        · decide
        · exact ⟨(closing_inert c member).2.2.2.2.2.1,
            (closing_inert c member).2.2.2.2.1⟩] at read
      cases read
  | comment =>
      rw [scan_comment fun c member => by
        rcases List.mem_cons.mp member with rfl | member
        · decide
        · exact ⟨(closing_inert c member).2.2.2.2.2.2,
            (closing_inert c member).2.2.2.2.1⟩, Option.bind_some] at read
      exact .inr (finish_weight_le read)

/-- If the operand of `echo` is the whole key, no character of the name was lost. -/
private theorem name_inert {publicKeyRaw : List UInt8} {name : HostName}
    (parses : commands (buildBootstrapCommand (hostPublicKey publicKeyRaw name)) =
      some (bootstrapCommands (hostPublicKey publicKeyRaw name)))
    (backslash : '\\' ∉ name.text.toList) :
    ∀ c ∈ name.text.toList, c ≠ '"' ∧ c ≠ '$' ∧ c ≠ '`' ∧ c ≠ '\x00' := by
  obtain ⟨tokens, lexed, listed⟩ := Option.bind_eq_some_iff.mp parses
  have total : tokensWeight tokens = tokensWeight
      (openingTokens ++ .word (literal (hostPublicKey publicKeyRaw name)) ::
        closingTokens) := by
    have read := andListFrom_weight listed
    rw [andListFrom_weight (andListFrom_bootstrap _)] at read
    omega
  rw [lex_bootstrap, hostPublicKey_eq, String.toList_append, scan_append,
    scan_inactive (keyPrefix_inactive publicKeyRaw), Option.bind_some,
    List.nil_append] at lexed
  obtain ⟨middle, scanned, rest⟩ := Option.bind_eq_some_iff.mp lexed
  have noEscape := scan_isEscape backslash rfl scanned
  have upper := scan_weight_le scanned
  refine inert_of_lossless backslash scanned ?_
  have prefixWeight : State.weight
      ⟨.double, (keyPrefix publicKeyRaw).toList.map Part.char, openingTokens⟩ =
        tokensWeight openingTokens + (keyPrefix publicKeyRaw).length := by
    simp only [State.weight, State.held, reduceCtorEq, if_false, Nat.add_zero]
    exact congrArg _ (weight_literal (keyPrefix publicKeyRaw))
  have closes : 0 < tokensWeight closingTokens := by decide
  have cons : ∀ key, tokensWeight (.word (literal key) :: closingTokens) =
      key.length + tokensWeight closingTokens := fun key => by
    rw [← List.singleton_append, tokensWeight_append, tokensWeight_word,
      weight_literal]
  rw [tokensWeight_append, cons, hostPublicKey_eq, String.length_append] at total
  rw [prefixWeight] at upper ⊢
  rw [String.length_toList] at upper ⊢
  rcases scan_closing_weight noEscape rest with double | bounded
  · obtain ⟨mode, current, before⟩ := middle
    cases double
    rw [scan_closing] at rest
    cases rest
    have split : tokensWeight (before ++ .word current :: closingTokens) =
        State.weight ⟨.double, current, before⟩ + tokensWeight closingTokens := by
      rw [tokensWeight_append, ← List.singleton_append, tokensWeight_append,
        tokensWeight_word]
      simp only [State.weight, State.held, reduceCtorEq, if_false]
      omega
    omega
  · omega

/-- The command is safe, and the host name survives in it, exactly for names without
a character that is active in double quotes or ends a line. -/
theorem installsKey_bootstrap_iff (publicKeyRaw : List UInt8) (name : HostName) :
    InstallsKey (buildBootstrapCommand (hostPublicKey publicKeyRaw name))
        (hostPublicKey publicKeyRaw name) name.text ↔
      ∀ c ∈ name.text.toList, isActive c = false := by
  have nameInKey : ∀ c ∈ name.text.toList,
      c ∈ (hostPublicKey publicKeyRaw name).toList := fun c member => by
    rw [hostPublicKey_eq, String.toList_append, List.mem_append]
    exact .inr member
  constructor
  · intro installs c member
    have backslash : '\\' ∉ name.text.toList := fun present => by
      have specified := installs.appends
      simp only [echoOutput, List.head?_cons, Option.some.injEq, List.any_cons,
        List.any_nil, Bool.or_false, List.contains_iff_mem,
        Option.ite_none_left_eq_some, not_or] at specified
      exact specified.1.2 (nameInKey _ present)
    obtain ⟨quotation, dollar, backquote, nul⟩ :=
      name_inert installs.parses backslash c member
    refine isActive_eq_false_iff.mpr
      ⟨quotation, dollar, backquote, fun same => ?_, fun same => ?_, nul⟩
    · exact backslash (same ▸ member)
    · exact installs.oneLine (same ▸ nameInKey c member)
  · intro inactive
    have keyInactive : ∀ c ∈ (hostPublicKey publicKeyRaw name).toList,
        isActive c = false := hostPublicKey_inactive inactive
    refine ⟨commands_bootstrap keyInactive, ?_, fun newline => ?_,
      keyComment_hostPublicKey publicKeyRaw name⟩
    · exact echoOutput_key fun backslash =>
        (isActive_eq_false_iff.mp (keyInactive _ backslash)).2.2.2.1 rfl
    · exact (isActive_eq_false_iff.mp (keyInactive _ newline)).2.2.2.2.1 rfl

/-- A name that the request validation accepts. -/
def rebootingName : HostName where
  text := "web\" && reboot && echo \"01"
  minLength := by decide +kernel
  maxLength := by decide +kernel

/-- A host name with quotation marks in it runs a command of its own. -/
theorem bootstrap_runs_rebootingName :
    ((commands (buildBootstrapCommand
        (hostPublicKey (List.replicate 32 0) rebootingName))).bind
          fun parsed => parsed[3]?) =
        some { words := [literal "reboot"], appends := [] } ∧
      ¬ InstallsKey
        (buildBootstrapCommand (hostPublicKey (List.replicate 32 0) rebootingName))
        (hostPublicKey (List.replicate 32 0) rebootingName) rebootingName.text := by
  have reboots : ((commands (buildBootstrapCommand
      (hostPublicKey (List.replicate 32 0) rebootingName))).bind
        fun parsed => parsed[3]?) =
      some { words := [literal "reboot"], appends := [] } := by decide +kernel
  refine ⟨reboots, fun installs => ?_⟩
  rw [installs.parses, Option.bind_some] at reboots
  have other : (literal "chmod" :: [literal "600", authorizedKeys]) =
      [literal "reboot"] := congrArg Command.words (Option.some.inj reboots)
  cases other

end ServersManager
