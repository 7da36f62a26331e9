/-
Module: ServersManager.ContainerCommands
Purpose: What the shell makes of the commands that name a container by its id.
Trusted boundary: none
Main exports:
  LastArgument, containerCommands, lastArgument_iff, containerCommands_safe_iff,
  hostile_id_runs_command
-/
import ServersManager.DockerListing
import ServersManager.Library.ShellSplice
import ServersManager.Rollback
import ServersManager.ServicesSync

namespace ServersManager

open Library (Json)
open Library.Shell

/-- The text is exactly one simple command, and its last argument is `value`. -/
def LastArgument (text value : String) : Prop :=
  ∃ arguments, simpleCommand text = some arguments ∧ arguments.getLast? = some value

/-! ### What the driver stores -/

mutual

/-- An element of an array literal: anything but `null` and arrays is in quotation
marks. -/
def literalElement (quoted : Json → String) : Json → String
  | .null => "NULL"
  | .arr items => "\x7b" ++ ",".intercalate (literalElements quoted items) ++ "\x7d"
  | value => "\"" ++ quoted value ++ "\""

def literalElements (quoted : Json → String) : List Json → List String
  | [] => []
  | item :: items => literalElement quoted item :: literalElements quoted items

end

/-- What the database driver stores in a text column for a value that is no string:
numbers and truth values as a template writes them, arrays as array literals, and
objects as JSON. -/
structure DriverTexts (platform : Platform) : Prop where
  num : ∀ n, platform.columnText (.num n) = platform.numberText n
  bool : ∀ value, platform.columnText (.bool value) = toString value
  arr : ∃ quoted, ∀ items,
    platform.columnText (.arr items) = literalElement quoted (.arr items)
  obj : ∀ members, ∃ inner, platform.columnText (.obj members) = "\x7b" ++ inner ++ "\x7d" ∧
    (members = [] ∨ '"' ∈ inner.toList)

/-- A value that is neither an array nor an object. -/
def IsScalar : Json → Prop
  | .arr _ | .obj _ => False
  | _ => True

/-! ### The commands -/

/-- The commands built from a listed container and the id stored for it; none is built
from an id that has no text. -/
def containerCommands (platform : Platform) (container : DockerPsContainer) :
    List String :=
  (inspectCommand platform container).toOption.toList ++
    [stopCommand (platform.columnText container.id),
      rmCommand (platform.columnText container.id)]

private theorem plain_words : ∀ text ∈ ["docker", "inspect", "stop", "rm"],
    PlainWord text := by decide

/-- `docker <verb> <id>`, for any of the verbs. -/
theorem lastArgument_iff {verb : String} (known : verb ∈ ["inspect", "stop", "rm"])
    (id : String) : LastArgument (" ".intercalate ["docker", verb] ++ " " ++ id) id ↔
      PlainWord id :=
  simpleCommand_splice_iff (fun text member => by
    rcases List.mem_cons.mp member with rfl | member
    · exact plain_words _ (by simp)
    · rw [List.mem_singleton] at member
      subst member
      exact plain_words _ (List.mem_cons_of_mem _ known)) (by decide) id

theorem lastArgument_stopCommand_iff (id : String) :
    LastArgument (stopCommand id) id ↔ PlainWord id := by
  have words : "docker stop " = " ".intercalate ["docker", "stop"] ++ " " := by
    decide
  rw [stopCommand, words]
  exact lastArgument_iff (by simp) id

theorem lastArgument_rmCommand_iff (id : String) :
    LastArgument (rmCommand id) id ↔ PlainWord id := by
  have words : "docker rm " = " ".intercalate ["docker", "rm"] ++ " " := by
    decide
  rw [rmCommand, words]
  exact lastArgument_iff (by simp) id

theorem lastArgument_inspect_iff (id : String) :
    LastArgument ("docker inspect " ++ id) id ↔ PlainWord id := by
  have words : "docker inspect " = " ".intercalate ["docker", "inspect"] ++ " " := by
    decide
  rw [words]
  exact lastArgument_iff (by simp) id

/-! ### Ids that are no strings -/

section Texts

variable {platform : Platform} {quoted : Json → String} {id : Json}

mutual

/-- Without a quotation mark in its literal, an array has nothing but commas for a
text. -/
theorem templateText_of_plain {items : List Json}
    (plain : '"' ∉ (literalElement quoted (.arr items)).toList) :
    ∃ text, templateText platform.numberText (.arr items) = .ok text ∧
      ∀ c ∈ text.toList, c = ',' := by
  have elements : ∀ element ∈ literalElements quoted items, '"' ∉ element.toList := by
    intro element member inElement
    apply plain
    rw [literalElement, String.toList_append, String.toList_append, List.mem_append,
      List.mem_append]
    exact .inl (.inr (mem_intercalate member inElement))
  obtain ⟨texts, read, commas⟩ := elementTexts_of_plain elements
  refine ⟨",".intercalate texts, by rw [templateText, read]; rfl, ?_⟩
  intro c member
  rcases of_mem_intercalate member with between | ⟨text, textMember, inText⟩
  · simpa using between
  · exact commas text textMember c inText

theorem elementTexts_of_plain {items : List Json}
    (plain : ∀ element ∈ literalElements quoted items, '"' ∉ element.toList) :
    ∃ texts, elementTexts platform.numberText items = .ok texts ∧
      ∀ text ∈ texts, ∀ c ∈ text.toList, c = ',' := by
  cases items with
  | nil => exact ⟨[], rfl, nofun⟩
  | cons item items =>
      rw [literalElements, List.forall_mem_cons] at plain
      obtain ⟨texts, read, commas⟩ := elementTexts_of_plain plain.2
      cases item with
      | null =>
          refine ⟨"" :: texts, by rw [elementTexts, read]; rfl, ?_⟩
          exact List.forall_mem_cons.mpr ⟨nofun, commas⟩
      | arr inner =>
          obtain ⟨text, written, ofText⟩ := templateText_of_plain plain.1
          refine ⟨text :: texts, by rw [elementTexts, written, read]; rfl; nofun, ?_⟩
          exact List.forall_mem_cons.mpr ⟨ofText, commas⟩
      | _ =>
          refine (plain.1 ?_).elim
          rw [literalElement, String.toList_append, List.mem_append]
          exacts [.inl (by simp), nofun, nofun]

end

private theorem plainWord_chars {text : String} (plain : PlainWord text) :
    '"' ∉ text.toList := by
  intro member
  have isPlainQuote := plain.2.2.2 '"' member
  revert isPlainQuote
  decide

theorem LastArgument.unique {command first second : String}
    (ofFirst : LastArgument command first) (ofSecond : LastArgument command second) :
    first = second := by
  obtain ⟨arguments, reads, last⟩ := ofFirst
  obtain ⟨others, readsOthers, lastOthers⟩ := ofSecond
  cases reads.symm.trans readsOthers
  exact Option.some.inj (last.symm.trans lastOthers)

/-- No text that starts with a brace is the last argument of a command that ends in
another word. -/
private theorem not_lastArgument_brace {command word inner : String} {c : Char}
    {rest : List Char} (ends : LastArgument command word)
    (starts : word.toList = c :: rest) (other : c ≠ '\x7b') :
    ¬ LastArgument command ("\x7b" ++ inner ++ "\x7d") := by
  intro braced
  have same := congrArg String.toList (ends.unique braced)
  rw [starts, String.toList_append, String.toList_append] at same
  exact other (List.cons.inj same).1

/-- An array whose literal is a plain word leaves `docker inspect` without the id. -/
theorem inspect_of_arr (platform : Platform) {items : List Json}
    (plain : PlainWord (literalElement quoted (.arr items))) :
    ∃ text, templateText platform.numberText (.arr items) = .ok text ∧
      ¬ LastArgument ("docker inspect " ++ text) (literalElement quoted (.arr items)) := by
  obtain ⟨text, read, commas⟩ :
      ∃ text, templateText platform.numberText (.arr items) = .ok text ∧
        ∀ c ∈ text.toList, c = ',' :=
    templateText_of_plain (plainWord_chars plain)
  refine ⟨text, read, ?_⟩
  rw [literalElement]
  cases chars : text.toList with
  | nil =>
      obtain rfl : text = "" := String.toList_eq_nil_iff.mp chars
      exact not_lastArgument_brace ⟨["docker", "inspect"], by decide, rfl⟩
        (show "inspect".toList = _ from rfl) (by decide)
  | cons c rest =>
      have isComma : c = ',' := commas c (chars ▸ .head _)
      subst isComma
      have isPlain : PlainWord text := by
        refine ⟨fun empty => ?_, by simp [chars], by simp [chars], fun c member => ?_⟩
        · simp [empty] at chars
        · rw [commas c member]
          decide
      exact not_lastArgument_brace ((lastArgument_inspect_iff text).mpr isPlain)
        chars (by decide)

/-- A plain word that `docker inspect` is given as it is stored was no array or
object. -/
theorem isScalar_of_inspect (texts : DriverTexts platform)
    (plain : PlainWord (platform.columnText id))
    (inspects : ∀ text, templateText platform.numberText id = .ok text →
      LastArgument ("docker inspect " ++ text) (platform.columnText id)) :
    IsScalar id := by
  cases id with
  | arr items =>
      obtain ⟨quoted, stored⟩ := texts.arr
      rw [stored] at plain inspects
      obtain ⟨text, read, unsafeWord⟩ := inspect_of_arr platform plain
      exact unsafeWord (inspects text read)
  | obj members =>
      obtain ⟨inner, stored, empty | quote⟩ := texts.obj members
      · -- The brackets of the inserted text are a pattern to the shell.
        have noCommand : simpleCommand ("docker inspect " ++ "[object Object]") = none := by
          decide
        obtain ⟨arguments, reads, -⟩ := inspects "[object Object]" (by
          subst empty
          rw [templateText]
          rfl)
        cases noCommand.symm.trans reads
      · rw [stored] at plain
        refine absurd ?_ (plainWord_chars plain)
        simp [quote]
  | _ => trivial

/-- Any other value is inserted as it is stored. -/
theorem templateText_of_scalar (texts : DriverTexts platform) (scalar : IsScalar id)
    (nonNull : id ≠ .null) :
    templateText platform.numberText id = .ok (platform.columnText id) := by
  cases id with
  | null => exact absurd rfl nonNull
  | bool value =>
      rw [texts.bool]
      cases value <;> rw [templateText] <;> rfl
  | num n => rw [templateText, texts.num]
  | str text => rw [templateText_str, platform.columnText_str]
  | arr items => exact scalar.elim
  | obj members => exact scalar.elim

end Texts

/-- No listed container is without an id. -/
theorem id_ne_null {stdout : String} {listing : DockerPsParseResult}
    (parses : parseDockerPsOutput stdout = .ok listing) {container : DockerPsContainer}
    (listed : container ∈ listing.containers) : container.id ≠ .null := by
  obtain ⟨line, -, reads⟩ := mem_parseDockerPsOutput parses container listed
  intro isNull
  have present := truthy_of_parseLine reads
  rw [isNull] at present
  cases present

/-- All commands that are built from a listed id are safe exactly if the id is no array
or object and is stored as a plain word. -/
theorem containerCommands_safe_iff (platform : Platform) (texts : DriverTexts platform)
    {stdout : String} {listing : DockerPsParseResult}
    (parses : parseDockerPsOutput stdout = .ok listing) {container : DockerPsContainer}
    (listed : container ∈ listing.containers) :
    (∀ command ∈ containerCommands platform container,
        LastArgument command (platform.columnText container.id)) ↔
      IsScalar container.id ∧ PlainWord (platform.columnText container.id) := by
  constructor
  · intro safe
    have plain : PlainWord (platform.columnText container.id) :=
      (lastArgument_stopCommand_iff _).mp (safe _ (by simp [containerCommands]))
    exact ⟨isScalar_of_inspect texts plain fun text read =>
      safe _ (by simp [containerCommands, inspectCommand, read, Except.map,
        Except.toOption]), plain⟩
  · rintro ⟨scalar, plain⟩ command member
    rw [containerCommands, List.mem_append, List.mem_pair] at member
    rcases member with built | rfl | rfl
    · rw [inspectCommand,
        templateText_of_scalar texts scalar (id_ne_null parses listed)] at built
      simp only [Except.map, Except.toOption, Option.toList, List.mem_singleton] at built
      subst built
      exact (lastArgument_inspect_iff _).mpr plain
    · exact (lastArgument_stopCommand_iff _).mpr plain
    · exact (lastArgument_rmCommand_iff _).mpr plain

/-- What the driver writes for a value that is no array. -/
def plainText : Json → String
  | .str text => text
  | .num n => toString n.mantissa
  | .bool value => toString value
  | value => Json.stringify value

/-- Inside the quotation marks of an array literal. -/
def quotedText (value : Json) : String :=
  String.ofList ((plainText value).toList.flatMap fun c =>
    if c = '"' ∨ c = '\\' then ['\\', c] else [c])

def Platform.driver : Platform :=
  { Platform.transparent with
    columnText := fun value =>
      match value with
      | .arr items => literalElement quotedText (.arr items)
      | value => plainText value
    columnText_str := fun _ => rfl }

theorem Platform.driver_texts : DriverTexts driver where
  num _ := rfl
  bool _ := rfl
  arr := ⟨quotedText, fun _ => rfl⟩
  obj members := by
    refine ⟨String.ofList (Json.membersText members), ?_, ?_⟩
    · apply String.toList_inj.mp
      simp [driver, plainText, Json.stringify, Json.text]
    · cases members with
      | nil => exact .inl rfl
      | cons member members => exact .inr (by simp [Json.membersText, Json.quote])

/-- An id as docker makes them. -/
def shortIdRow : PsRow :=
  { id := "4f2a9c1d7be0"
    image := "nginx:1.25"
    names := "web"
    ports := "80/tcp"
    status := "Up 2 hours" }

theorem containerCommands_safe_shortId :
    parseDockerPsOutput (psOutput [shortIdRow]) =
        .ok { containers := [shortIdRow.toContainer], skippedLines := 0 } ∧
      ∀ command ∈ containerCommands Platform.driver shortIdRow.toContainer,
        LastArgument command "4f2a9c1d7be0" := by
  have parses : parseDockerPsOutput (psOutput [shortIdRow]) =
      .ok { containers := [shortIdRow.toContainer], skippedLines := 0 } :=
    parseDockerPsOutput_psOutput fun row member => by
      rw [List.mem_singleton] at member
      subst member
      exact ⟨by decide, by decide, by decide, by decide⟩
  exact ⟨parses, (containerCommands_safe_iff Platform.driver Platform.driver_texts parses
    (.head _)).mpr ⟨trivial, by decide⟩⟩

/-- A listing that docker would not print, but a hostile host can. -/
def hostileRow : PsRow :=
  { id := "4f2a && reboot"
    image := "nginx:1.25"
    names := "web"
    ports := ""
    status := "Up 2 hours" }

/-- Its container is accepted and stored, and stopping it runs another command. -/
theorem hostile_id_runs_command :
    parseDockerPsOutput (psOutput [hostileRow]) =
        .ok { containers := [hostileRow.toContainer], skippedLines := 0 } ∧
      commands (stopCommand
          (Platform.transparent.columnText hostileRow.toContainer.id)) =
        some [⟨[literal "docker", literal "stop", literal "4f2a"], []⟩,
          ⟨[literal "reboot"], []⟩] ∧
      ¬ LastArgument (stopCommand
          (Platform.transparent.columnText hostileRow.toContainer.id))
        (Platform.transparent.columnText hostileRow.toContainer.id) := by
  refine ⟨parseDockerPsOutput_psOutput fun row member => ?_, by decide +kernel, ?_⟩
  · rw [List.mem_singleton] at member
    subst member
    exact ⟨by decide, by decide, by decide, by decide⟩
  · rw [lastArgument_stopCommand_iff]
    decide +kernel

end ServersManager
