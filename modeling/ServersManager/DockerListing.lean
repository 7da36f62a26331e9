/-
Module: ServersManager.DockerListing
Purpose: The listing that `docker ps -a --format '{{json .}}'` prints, and that the
  backend reads it back container by container.
Trusted boundary: human-reviewed output format of a foreign program
Main exports:
  PsRow, psOutput, parseLine_row, parseDockerPsOutput_psOutput, TextualLine,
  textualLine_psOutput, parseDockerPsOutput_textual
-/
import ServersManager.DockerPs
import ServersManager.Library.JsonText

namespace ServersManager

open Library (Json)

/-- The fields of a listed container that the backend reads. -/
structure PsRow where
  id : String
  image : String
  names : String
  ports : String
  status : String
deriving Repr, Inhabited, DecidableEq

def PsRow.toJson (row : PsRow) : Json :=
  .obj [("ID", .str row.id), ("Image", .str row.image), ("Names", .str row.names),
    ("Ports", .str row.ports), ("Status", .str row.status)]

/-- One object a line. -/
def psOutput (rows : List PsRow) : String :=
  String.ofList (rows.flatMap fun row => Json.text row.toJson ++ ['\n'])

/-- Every listed container has an id, a name, an image and a status. -/
structure PsRow.Complete (row : PsRow) : Prop where
  id : row.id ≠ ""
  image : row.image ≠ ""
  names : row.names ≠ ""
  status : row.status ≠ ""

/-- What the parser makes of a row. -/
def PsRow.toContainer (row : PsRow) : DockerPsContainer :=
  { id := .str row.id
    names := .str row.names
    image := .str row.image
    status := .str row.status
    ports := .str row.ports }

theorem PsRow.printable (row : PsRow) : Json.Printable row.toJson := by
  simp [PsRow.toJson, Json.Printable, Json.PrintableMembers]

private theorem required_text {text : String} (nonempty : text ≠ "") :
    required (some (.str text)) = some (.str text) := by
  simp [required, truthy, nonempty]

/-- A complete row is read back as it was printed. -/
theorem parseLine_row {row : PsRow} (complete : row.Complete) :
    parseLine (Json.stringify row.toJson) = .ok (some row.toContainer) := by
  have id : property row.toJson "ID" = .ok (some (.str row.id)) := rfl
  have image : property row.toJson "Image" = .ok (some (.str row.image)) := rfl
  have names : property row.toJson "Names" = .ok (some (.str row.names)) := rfl
  have ports : property row.toJson "Ports" = .ok (some (.str row.ports)) := rfl
  have status : property row.toJson "Status" = .ok (some (.str row.status)) := rfl
  simp only [parseLine, Json.parse_stringify row.printable, id, image, names, ports,
    status, bind, Except.bind, required_text complete.id, required_text complete.image,
    required_text complete.names, required_text complete.status]
  rfl

/-! ### Lines -/

private theorem newline_not_mem_quoteChar (c : Char) : '\n' ∉ Json.quoteChar c := by
  have digits : ∀ n < 16, '\n' ≠ Nat.digitChar n := by decide
  unfold Json.quoteChar
  split
  · decide
  split
  · decide
  split
  · decide
  split
  · decide
  split
  · decide
  · next newline =>
    split
    · decide
    split
    · decide
    split
    · next control =>
      have high := digits (c.toNat / 16) (by omega)
      have low := digits (c.toNat % 16) (by omega)
      simp [high, low]
    · simpa using Ne.symm newline

private theorem newline_not_mem_quote (text : String) : '\n' ∉ Json.quote text := by
  simp only [Json.quote, List.mem_cons, List.mem_append, List.mem_flatMap,
    List.not_mem_nil, or_false, not_or, not_exists, not_and]
  exact ⟨by decide, fun c _ => newline_not_mem_quoteChar c, by decide⟩

/-- JSON text escapes a newline, so a row stays on its line. -/
private theorem newline_not_mem_row (row : PsRow) :
    '\n' ∉ Json.text row.toJson := by
  simp [PsRow.toJson, Json.text, Json.membersText, Json.moreMembersText,
    newline_not_mem_quote]

private theorem trimChars_row (row : PsRow) :
    trimChars (Json.text row.toJson) = Json.text row.toJson := by
  have shape : ∃ middle, Json.text row.toJson = '{' :: (middle ++ ['}']) :=
    ⟨_, rfl⟩
  obtain ⟨middle, same⟩ := shape
  rw [same, trimChars, List.dropWhile_cons, if_neg (by decide), List.reverse_cons,
    List.reverse_append]
  simp only [List.reverse_cons, List.reverse_nil, List.nil_append, List.cons_append]
  rw [List.dropWhile_cons, if_neg (by decide)]
  simp

private theorem splitOn_rows (rows : List PsRow) :
    (rows.flatMap fun row => Json.text row.toJson ++ ['\n']).splitOn '\n' =
      rows.map (fun row => Json.text row.toJson) ++ [[]] := by
  induction rows with
  | nil => rfl
  | cons row rows inductionHypothesis =>
      rw [List.flatMap_cons, List.append_assoc, List.singleton_append,
        List.splitOn_append_cons_self_of_not_mem (newline_not_mem_row row),
        inductionHypothesis]
      rfl

/-- The lines of a listing are its rows. -/
theorem nonBlankLines_psOutput (rows : List PsRow) :
    nonBlankLines (psOutput rows) =
      rows.map fun row => Json.stringify row.toJson := by
  have trimmed : ∀ row : PsRow, trim (Json.stringify row.toJson) =
      Json.stringify row.toJson := fun row => by
    rw [trim, Json.stringify, String.toList_ofList, trimChars_row]
  have nonempty : ∀ row : PsRow, 0 < (Json.stringify row.toJson).length := by
    intro row
    have shape : Json.text row.toJson = '{' :: _ := rfl
    rw [Json.stringify, String.length_ofList, shape]
    exact Nat.succ_pos _
  have blank : trim (String.ofList []) = "" := rfl
  have lines : (splitLines (psOutput rows)).map trim =
      (rows.map fun row => Json.stringify row.toJson) ++ [""] := by
    rw [splitLines, psOutput, String.toList_ofList, splitOn_rows, List.map_append,
      List.map_append, List.map_map, List.map_map, List.map_singleton,
      List.map_singleton, blank]
    exact congrArg (· ++ [""]) (List.map_congr_left fun row _ => trimmed row)
  have kept : (rows.map fun row => Json.stringify row.toJson).filter
      (fun line => line.length > 0) = rows.map fun row => Json.stringify row.toJson := by
    apply List.filter_eq_self.mpr
    intro line member
    obtain ⟨row, -, rfl⟩ := List.mem_map.mp member
    simpa using nonempty row
  rw [nonBlankLines, lines, List.filter_append, kept]
  simp

/-- The round trip: a listing of complete rows is read as these rows, and no line is
skipped. -/
theorem parseDockerPsOutput_psOutput {rows : List PsRow}
    (complete : ∀ row ∈ rows, row.Complete) :
    parseDockerPsOutput (psOutput rows) =
      .ok { containers := rows.map PsRow.toContainer, skippedLines := 0 } := by
  have folded : ∀ before, (rows.map fun row => Json.stringify row.toJson).foldlM
      addLine { containers := before, skippedLines := 0 } =
        .ok { containers := before ++ rows.map PsRow.toContainer
              skippedLines := 0 } := by
    induction rows with
    | nil => simp [pure, Except.pure]
    | cons row rows inductionHypothesis =>
        intro before
        have rest := inductionHypothesis fun other member =>
          complete other (.tail _ member)
        rw [List.map_cons, List.foldlM_cons]
        simp only [addLine, parseLine_row (complete row (.head _)), bind, Except.bind,
          pure, Except.pure]
        rw [rest]
        simp
  rw [parseDockerPsOutput, nonBlankLines_psOutput, folded]
  rfl

/-! ### Listings of textual fields -/

/-- A line that is no JSON, or an object whose fields, those that are there, are
strings. -/
def TextualLine (line : String) : Prop :=
  ∀ parsed, Json.parse line = some parsed →
    ∃ members, parsed = .obj members ∧
      ∀ key ∈ ["ID", "Names", "Image", "Status", "Ports"],
        ∀ value, members.lookup key = some value → ∃ text, value = .str text

/-- What `docker ps` prints is textual. -/
theorem textualLine_psOutput (rows : List PsRow) :
    ∀ line ∈ nonBlankLines (psOutput rows), TextualLine line := by
  intro line member parsed read
  rw [nonBlankLines_psOutput] at member
  obtain ⟨row, -, rfl⟩ := List.mem_map.mp member
  rw [Json.parse_stringify row.printable] at read
  cases read
  refine ⟨_, rfl, ?_⟩
  intro key keyMember value found
  simp only [List.mem_cons, List.not_mem_nil, or_false] at keyMember
  rcases keyMember with rfl | rfl | rfl | rfl | rfl <;>
    exact ⟨_, (Option.some.inj found).symm⟩

/-- A textual line is skipped or read as the container of some row. -/
theorem parseLine_textual {line : String} (textual : TextualLine line) :
    parseLine line = .ok none ∨
      ∃ row : PsRow, parseLine line = .ok (some row.toContainer) := by
  cases read : Json.parse line with
  | none =>
      left
      simp only [parseLine, read]
  | some parsed =>
      obtain ⟨members, rfl, texts⟩ := textual parsed read
      have text : ∀ key ∈ ["ID", "Names", "Image", "Status", "Ports"],
          required (members.lookup key) = none ∨
            ∃ text, required (members.lookup key) = some (.str text) := by
        intro key member
        cases found : required (members.lookup key) with
        | none => exact .inl rfl
        | some value =>
            obtain ⟨present, -⟩ := Option.filter_eq_some_iff.mp found
            obtain ⟨text, rfl⟩ := texts key member value present
            exact .inr ⟨text, rfl⟩
      have ports : ∃ text, orElse (members.lookup "Ports") (.str "") = .str text := by
        cases found : members.lookup "Ports" with
        | none => exact ⟨"", rfl⟩
        | some value =>
            obtain ⟨text, rfl⟩ := texts "Ports" (by simp) value found
            exact ⟨text, rfl⟩
      obtain ⟨portsText, samePorts⟩ := ports
      simp only [parseLine, read, property, bind, Except.bind, samePorts]
      rcases text "ID" (by simp) with noId | ⟨id, sameId⟩
      · simp [noId, pure, Except.pure]
      rcases text "Names" (by simp) with noNames | ⟨names, sameNames⟩
      · simp [noNames, pure, Except.pure]
      rcases text "Image" (by simp) with noImage | ⟨image, sameImage⟩
      · simp [noImage, pure, Except.pure]
      rcases text "Status" (by simp) with noStatus | ⟨status, sameStatus⟩
      · simp [noStatus, pure, Except.pure]
      right
      rw [sameId, sameNames, sameImage, sameStatus]
      exact ⟨{ id := id, image := image, names := names, ports := portsText
               status := status }, rfl⟩

/-- So a textual listing is a listing of rows, some of its lines skipped. -/
theorem parseDockerPsOutput_textual {stdout : String}
    (textual : ∀ line ∈ nonBlankLines stdout, TextualLine line) :
    ∃ (rows : List PsRow) (skippedLines : Nat), parseDockerPsOutput stdout =
      .ok { containers := rows.map PsRow.toContainer, skippedLines := skippedLines } := by
  have folded : ∀ (lines : List String), (∀ line ∈ lines, TextualLine line) →
      ∀ (rows : List PsRow) (skipped : Nat),
        ∃ (rowsAfter : List PsRow) (skippedAfter : Nat),
          lines.foldlM addLine
              { containers := rows.map PsRow.toContainer, skippedLines := skipped } =
            .ok { containers := rowsAfter.map PsRow.toContainer
                  skippedLines := skippedAfter } := by
    intro lines
    induction lines with
    | nil => exact fun _ rows skipped => ⟨rows, skipped, rfl⟩
    | cons line lines inductionHypothesis =>
        intro textualLines rows skipped
        have rest := inductionHypothesis fun other member =>
          textualLines other (.tail _ member)
        rw [List.foldlM_cons]
        rcases parseLine_textual (textualLines line (.head _)) with
          skips | ⟨row, parses⟩
        · simp only [addLine, skips, bind, Except.bind, pure, Except.pure]
          exact rest rows (skipped + 1)
        · simp only [addLine, parses, bind, Except.bind, pure, Except.pure]
          have appended : rows.map PsRow.toContainer ++ [row.toContainer] =
              (rows ++ [row]).map PsRow.toContainer := by simp
          rw [appended]
          exact rest (rows ++ [row]) skipped
  exact folded _ textual [] 0

/-! ### A container that has been recreated -/

def recreatedRow : PsRow :=
  { id := "9c1d"
    image := "nginx:1.27"
    names := "web"
    ports := ""
    status := "Up 2 minutes" }

theorem recreatedRow_complete : ∀ row ∈ [recreatedRow], row.Complete := by
  intro row member
  rw [List.mem_singleton.mp member]
  exact ⟨by decide, by decide, by decide, by decide⟩

end ServersManager
