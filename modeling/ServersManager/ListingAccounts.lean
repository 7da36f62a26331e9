/-
Module: ServersManager.ListingAccounts
Purpose: That every line of a `docker ps` listing is accounted for on its own, and the
  lines for which it is not.
Trusted boundary: none
Main exports:
  SoundLine, soundLine_iff, parseDockerPsOutput_eq, ReadApart, readApart_iff,
  null_line_discards_listing
-/
import ServersManager.DockerListing

namespace ServersManager

open Library (Json)

/-! ### Line by line -/

/-- What the lines read amount to. -/
def tally (results : List (Option DockerPsContainer)) : DockerPsParseResult :=
  { containers := results.filterMap fun result => result
    skippedLines := results.countP Option.isNone }

theorem tally_append (first second : List (Option DockerPsContainer)) :
    tally (first ++ second) =
      { containers := (tally first).containers ++ (tally second).containers
        skippedLines := (tally first).skippedLines + (tally second).skippedLines } := by
  simp [tally]

/-- A line is a container or a skipped line. -/
theorem tally_length (results : List (Option DockerPsContainer)) :
    (tally results).containers.length + (tally results).skippedLines = results.length := by
  induction results with
  | nil => rfl
  | cons result results inductionHypothesis =>
      simp only [tally] at inductionHypothesis ⊢
      cases result with
      | none =>
          simp only [List.filterMap_cons, List.countP_cons, Option.isNone_none,
            if_true, List.length_cons]
          omega
      | some container =>
          simp only [List.filterMap_cons, List.countP_cons, Option.isNone_some,
            Bool.false_eq_true, if_false, List.length_cons]
          omega

private theorem foldlM_addLine_eq (lines : List String) :
    ∀ before : DockerPsParseResult, lines.foldlM addLine before =
      (lines.mapM parseLine).map fun results =>
        { containers := before.containers ++ (tally results).containers
          skippedLines := before.skippedLines + (tally results).skippedLines } := by
  induction lines with
  | nil =>
      intro before
      simp [tally, pure, Except.pure, Except.map]
  | cons line lines inductionHypothesis =>
      intro before
      rw [List.foldlM_cons, List.mapM_cons]
      cases parsed : parseLine line with
      | error error => simp [addLine, parsed, bind, Except.bind, Except.map]
      | ok found =>
          cases rest : lines.mapM parseLine with
          | error error =>
              cases found <;>
                simp [addLine, parsed, inductionHypothesis, rest, bind, Except.bind, pure,
                  Except.pure, Except.map]
          | ok results =>
              cases found with
              | none =>
                  simp [addLine, parsed, inductionHypothesis, rest, bind, Except.bind, pure,
                    Except.pure, Except.map, tally]
                  omega
              | some container =>
                  simp [addLine, parsed, inductionHypothesis, rest, bind, Except.bind, pure,
                    Except.pure, Except.map, tally]

/-- The loop reads each line on its own; the first line that throws ends it. -/
theorem parseDockerPsOutput_eq (stdout : String) :
    parseDockerPsOutput stdout = ((nonBlankLines stdout).mapM parseLine).map tally := by
  rw [parseDockerPsOutput, foldlM_addLine_eq]
  simp

/-- The lines of two outputs with a newline between them. -/
theorem nonBlankLines_append (first second : String) :
    nonBlankLines (first ++ "\n" ++ second) = nonBlankLines first ++ nonBlankLines second := by
  have chars : (first ++ "\n" ++ second).toList = first.toList ++ '\n' :: second.toList := by
    simp
  simp only [nonBlankLines, splitLines, chars, List.splitOn_append_cons_self, List.map_append,
    List.filter_append]

/-! ### Sound lines -/

/-- The properties without which a line is skipped. -/
def requiredKeys : List String :=
  ["ID", "Names", "Image", "Status"]

/-- A line that is not `null` and, where it is an object with the required properties,
has strings in them and no ports but a string. -/
def SoundLine (line : String) : Prop :=
  ∀ parsed, Json.parse line = some parsed → parsed ≠ .null ∧
    ∀ members, parsed = .obj members →
      (∀ key ∈ requiredKeys, ∃ value, members.lookup key = some value ∧ truthy value = true) →
        (∀ key ∈ requiredKeys, ∃ text, members.lookup key = some (.str text)) ∧
          ∀ value, members.lookup "Ports" = some value →
            value = .null ∨ ∃ text, value = .str text

/-- A container whose fields are strings, the required ones not empty. -/
def DockerPsContainer.Textual (container : DockerPsContainer) : Prop :=
  ∃ row : PsRow, row.Complete ∧ container = row.toContainer

/-- The line is read without an error, into a container of strings if into any. -/
def ReadSoundly (line : String) : Prop :=
  ∃ result, parseLine line = .ok result ∧
    ∀ container, result = some container → container.Textual

private theorem required_eq_some {value : Option Json} {found : Json} :
    required value = some found ↔ value = some found ∧ truthy found = true :=
  Option.filter_eq_some_iff

private theorem str_of_truthy {value : Json} (present : truthy value = true)
    (textual : ∃ text, value = .str text) : ∃ text, text ≠ "" ∧ value = .str text := by
  obtain ⟨text, rfl⟩ := textual
  exact ⟨text, by simpa [truthy] using present, rfl⟩

private theorem orElse_eq_str {value : Option Json} :
    (∃ text, orElse value (.str "") = .str text) ↔
      ∀ found, value = some found → found = .null ∨ ∃ text, found = .str text := by
  constructor
  · rintro ⟨text, same⟩ found rfl
    cases found with
    | null => exact .inl rfl
    | _ => exact .inr ⟨text, same⟩
  · intro textual
    cases value with
    | none => exact ⟨"", rfl⟩
    | some found =>
        rcases textual found rfl with rfl | ⟨text, rfl⟩
        · exact ⟨"", rfl⟩
        · exact ⟨text, rfl⟩

/-- What an object is read as. -/
private theorem parseLine_obj {line : String} {members : List (String × Json)}
    (read : Json.parse line = some (.obj members)) :
    (parseLine line = .ok none ∧ ∃ key ∈ requiredKeys, required (members.lookup key) = none) ∨
      ∃ id names image status,
        required (members.lookup "ID") = some id ∧
        required (members.lookup "Names") = some names ∧
        required (members.lookup "Image") = some image ∧
        required (members.lookup "Status") = some status ∧
        parseLine line = .ok (some
          { id := id, names := names, image := image, status := status
            ports := orElse (members.lookup "Ports") (.str "") }) := by
  simp only [parseLine, read, property, bind, Except.bind, pure, Except.pure]
  cases hasId : required (members.lookup "ID") with
  | none => exact .inl ⟨rfl, "ID", by simp [requiredKeys], hasId⟩
  | some id =>
      cases hasNames : required (members.lookup "Names") with
      | none => exact .inl ⟨rfl, "Names", by simp [requiredKeys], hasNames⟩
      | some names =>
          cases hasImage : required (members.lookup "Image") with
          | none => exact .inl ⟨rfl, "Image", by simp [requiredKeys], hasImage⟩
          | some image =>
              cases hasStatus : required (members.lookup "Status") with
              | none => exact .inl ⟨rfl, "Status", by simp [requiredKeys], hasStatus⟩
              | some status => exact .inr ⟨id, names, image, status, rfl, rfl, rfl, rfl, rfl⟩

private theorem soundLine_obj {line : String} {members : List (String × Json)}
    (read : Json.parse line = some (.obj members)) : SoundLine line ↔ ReadSoundly line := by
  rcases parseLine_obj read with ⟨parses, key, member, missing⟩ |
    ⟨id, names, image, status, hasId, hasNames, hasImage, hasStatus, parses⟩
  · apply iff_of_true
    · intro parsed same
      rw [read] at same
      cases same
      refine ⟨nofun, ?_⟩
      rintro _ ⟨⟩ present
      obtain ⟨value, found, isTruthy⟩ := present key member
      rw [required_eq_some.mpr ⟨found, isTruthy⟩] at missing
      cases missing
    · refine ⟨none, parses, ?_⟩
      intro container absent
      cases absent
  · rw [required_eq_some] at hasId hasNames hasImage hasStatus
    have textOf : ∀ {key : String} {value : Json}, members.lookup key = some value →
        (∃ text, members.lookup key = some (.str text)) → ∃ text, value = .str text := by
      rintro key value found ⟨text, same⟩
      exact ⟨text, Option.some.inj (found.symm.trans same)⟩
    constructor
    · intro sound
      obtain ⟨texts, ports⟩ := (sound _ read).2 members rfl (by
        intro key member
        simp only [requiredKeys, List.mem_cons, List.not_mem_nil, or_false] at member
        rcases member with rfl | rfl | rfl | rfl
        · exact ⟨id, hasId⟩
        · exact ⟨names, hasNames⟩
        · exact ⟨image, hasImage⟩
        · exact ⟨status, hasStatus⟩)
      obtain ⟨idText, idPresent, rfl⟩ :=
        str_of_truthy hasId.2 (textOf hasId.1 (texts "ID" (by simp [requiredKeys])))
      obtain ⟨namesText, namesPresent, rfl⟩ :=
        str_of_truthy hasNames.2 (textOf hasNames.1 (texts "Names" (by simp [requiredKeys])))
      obtain ⟨imageText, imagePresent, rfl⟩ :=
        str_of_truthy hasImage.2 (textOf hasImage.1 (texts "Image" (by simp [requiredKeys])))
      obtain ⟨statusText, statusPresent, rfl⟩ :=
        str_of_truthy hasStatus.2 (textOf hasStatus.1 (texts "Status" (by simp [requiredKeys])))
      obtain ⟨portsText, samePorts⟩ := orElse_eq_str.mpr ports
      refine ⟨_, parses, ?_⟩
      rintro _ ⟨⟩
      rw [samePorts]
      exact ⟨{ id := idText, image := imageText, names := namesText, ports := portsText
               status := statusText },
        ⟨idPresent, imagePresent, namesPresent, statusPresent⟩, rfl⟩
    · rintro ⟨result, parsesTo, textual⟩ parsed same
      rw [read] at same
      cases same
      rw [parses] at parsesTo
      cases parsesTo
      obtain ⟨row, -, container⟩ := textual _ rfl
      simp only [PsRow.toContainer, DockerPsContainer.mk.injEq] at container
      obtain ⟨sameId, sameNames, sameImage, sameStatus, samePorts⟩ := container
      refine ⟨nofun, ?_⟩
      rintro _ ⟨⟩ -
      constructor
      · intro key member
        simp only [requiredKeys, List.mem_cons, List.not_mem_nil, or_false] at member
        rcases member with rfl | rfl | rfl | rfl
        · exact ⟨row.id, by rw [hasId.1, sameId]⟩
        · exact ⟨row.names, by rw [hasNames.1, sameNames]⟩
        · exact ⟨row.image, by rw [hasImage.1, sameImage]⟩
        · exact ⟨row.status, by rw [hasStatus.1, sameStatus]⟩
      · exact orElse_eq_str.mp ⟨row.ports, samePorts⟩

/-- A line is read soundly exactly if it is sound. -/
theorem soundLine_iff (line : String) : SoundLine line ↔ ReadSoundly line := by
  cases read : Json.parse line with
  | none =>
      apply iff_of_true
      · intro parsed absent
        rw [read] at absent
        cases absent
      · refine ⟨none, by simp only [parseLine, read], ?_⟩
        intro container absent
        cases absent
  | some parsed =>
      cases parsed with
      | null =>
          apply iff_of_false
          · intro sound
            exact (sound _ read).1 rfl
          · rintro ⟨result, parses, -⟩
            simp [parseLine, read, property, bind, Except.bind] at parses
      | obj members => exact soundLine_obj read
      | _ =>
          apply iff_of_true
          · intro parsed same
            rw [read] at same
            cases same
            constructor
            · intro absent
              cases absent
            · intro members absent
              cases absent
          · refine ⟨none, ?_, ?_⟩
            · simp only [parseLine, read, property, bind, Except.bind, pure, Except.pure]
              rfl
            · intro container absent
              cases absent

/-! ### Listings -/

/-- Every line of an output is a container of strings or has been skipped. -/
structure Accounted (stdout : String) (result : DockerPsParseResult) : Prop where
  lines : result.containers.length + result.skippedLines = (nonBlankLines stdout).length
  textual : ∀ container ∈ result.containers, container.Textual

/-- Two outputs are read, with all their lines accounted for, and with a newline between
them they are read as the two. -/
def ReadApart (first second : String) : Prop :=
  ∃ front back, parseDockerPsOutput first = .ok front ∧ Accounted first front ∧
    parseDockerPsOutput second = .ok back ∧ Accounted second back ∧
    parseDockerPsOutput (first ++ "\n" ++ second) =
      .ok { containers := front.containers ++ back.containers
            skippedLines := front.skippedLines + back.skippedLines }

/-- An output is read with all its lines accounted for exactly if they are sound. -/
theorem accounted_iff (stdout : String) :
    (∃ result, parseDockerPsOutput stdout = .ok result ∧ Accounted stdout result) ↔
      ∀ line ∈ nonBlankLines stdout, SoundLine line := by
  rw [parseDockerPsOutput_eq]
  constructor
  · rintro ⟨result, parses, accounted⟩ line member
    cases read : (nonBlankLines stdout).mapM parseLine with
    | error error =>
        rw [read] at parses
        cases parses
    | ok results =>
        rw [read] at parses
        cases parses
        obtain ⟨found, foundMember, reads⟩ := exists_of_mapM read member
        refine (soundLine_iff line).mpr ⟨found, reads, ?_⟩
        rintro container rfl
        exact accounted.textual container (List.mem_filterMap.mpr ⟨_, foundMember, rfl⟩)
  · intro sound
    have reads : ∀ lines : List String, (∀ line ∈ lines, SoundLine line) →
        ∃ results, List.Forall₂ (fun line result => parseLine line = .ok result) lines results ∧
          ∀ container, some container ∈ results → container.Textual := by
      intro lines soundLines
      induction lines with
      | nil => exact ⟨[], .nil, nofun⟩
      | cons line lines inductionHypothesis =>
          obtain ⟨result, parses, textual⟩ :=
            (soundLine_iff line).mp (soundLines line (.head _))
          obtain ⟨results, rest, textuals⟩ :=
            inductionHypothesis fun other member => soundLines other (.tail _ member)
          refine ⟨result :: results, .cons parses rest, ?_⟩
          intro container member
          rcases List.mem_cons.mp member with same | later
          · exact textual container same.symm
          · exact textuals container later
    obtain ⟨results, parses, textual⟩ := reads _ sound
    refine ⟨tally results, by rw [mapM_eq_ok parses]; rfl, ?_, ?_⟩
    · rw [tally_length, parses.length_eq]
    · intro container member
      obtain ⟨found, foundMember, rfl⟩ := List.mem_filterMap.mp member
      exact textual container foundMember

/-- A pair of outputs is read apart exactly if all their lines are sound. -/
theorem readApart_iff (first second : String) :
    ReadApart first second ↔
      ∀ line ∈ nonBlankLines first ++ nonBlankLines second, SoundLine line := by
  have appended : ∀ front back, parseDockerPsOutput first = .ok front →
      parseDockerPsOutput second = .ok back →
      parseDockerPsOutput (first ++ "\n" ++ second) =
        .ok { containers := front.containers ++ back.containers
              skippedLines := front.skippedLines + back.skippedLines } := by
    intro front back
    simp only [parseDockerPsOutput_eq, nonBlankLines_append, List.mapM_append]
    cases (nonBlankLines first).mapM parseLine with
    | error error =>
        intro absent
        cases absent
    | ok fronts =>
        cases (nonBlankLines second).mapM parseLine with
        | error error =>
            intro _ absent
            cases absent
        | ok backs =>
            rintro ⟨⟩ ⟨⟩
            exact congrArg Except.ok (tally_append fronts backs)
  constructor
  · rintro ⟨front, back, parsesFront, accountedFront, parsesBack, accountedBack, -⟩ line member
    rcases List.mem_append.mp member with inFirst | inSecond
    · exact (accounted_iff first).mp ⟨front, parsesFront, accountedFront⟩ line inFirst
    · exact (accounted_iff second).mp ⟨back, parsesBack, accountedBack⟩ line inSecond
  · intro sound
    obtain ⟨front, parsesFront, accountedFront⟩ := (accounted_iff first).mpr fun line member =>
      sound line (List.mem_append_left _ member)
    obtain ⟨back, parsesBack, accountedBack⟩ := (accounted_iff second).mpr fun line member =>
      sound line (List.mem_append_right _ member)
    exact ⟨front, back, parsesFront, accountedFront, parsesBack, accountedBack,
      appended front back parsesFront parsesBack⟩

/-- A complete line of a listing. -/
def completeLine : String :=
  "\x7b\"ID\":\"4f2a\",\"Names\":\"web\",\"Image\":\"nginx\",\"Status\":\"Up\"\x7d"

/-- The line `null` throws, and takes the container of the line before it along. -/
theorem null_line_discards_listing :
    (parseDockerPsOutput completeLine).isOk = true ∧
      (parseDockerPsOutput (completeLine ++ "\n" ++ "null")).isOk = false ∧
      ¬ ReadApart completeLine "null" := by
  refine ⟨by decide +kernel, by decide +kernel, ?_⟩
  rintro ⟨front, back, -, -, parses, -⟩
  have thrown : (parseDockerPsOutput "null").isOk = false := by decide +kernel
  rw [parses] at thrown
  cases thrown

end ServersManager
