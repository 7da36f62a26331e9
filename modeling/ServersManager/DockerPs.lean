/-
Module: ServersManager.DockerPs
Purpose: The listing of a host's containers: `docker ps` output, container statuses,
  image references.
Trusted boundary: none
Main exports:
  DockerPsContainer, parseLine, parseDockerPsOutput, splitImageAndTag,
  ServiceStatus, classifyContainerStatus, SshCommandResult, isDockerMissing
-/
import ServersManager.Js

namespace ServersManager

open Library (Json JsonNumber)

/-! ### `services/docker-ps-parser.ts` -/

/-- A parsed line.  The declared field types are strings; the code takes any JSON
value that is truthy. -/
structure DockerPsContainer where
  id : Json
  names : Json
  image : Json
  status : Json
  ports : Json
deriving Repr, Inhabited

structure DockerPsParseResult where
  containers : List DockerPsContainer
  skippedLines : Nat
deriving Repr, Inhabited

/-- A property that the guard `!parsed.key` lets through. -/
def required (value : Option Json) : Option Json :=
  value.filter truthy

def parseLine (line : String) : Except JsError (Option DockerPsContainer) :=
  match Json.parse line with
  | none => .ok none
  | some parsed => do
      let id ← property parsed "ID"
      let names ← property parsed "Names"
      let image ← property parsed "Image"
      let status ← property parsed "Status"
      let ports ← property parsed "Ports"
      match required id, required names, required image, required status with
      | some id, some names, some image, some status =>
          pure (some
            { id := id
              names := names
              image := image
              status := status
              ports := orElse ports (.str "") })
      | _, _, _, _ => pure none

/-- The loop body of `parseDockerPsOutput`. -/
def addLine (result : DockerPsParseResult) (line : String) :
    Except JsError DockerPsParseResult := do
  match ← parseLine line with
  | some container =>
      pure { result with containers := result.containers ++ [container] }
  | none => pure { result with skippedLines := result.skippedLines + 1 }

def nonBlankLines (stdout : String) : List String :=
  ((splitLines stdout).map trim).filter fun line => line.length > 0

def parseDockerPsOutput (stdout : String) : Except JsError DockerPsParseResult :=
  (nonBlankLines stdout).foldlM addLine { containers := [], skippedLines := 0 }

/-- The part of `splitImageAndTag` that strings and arrays share, as both have the
methods it calls: the position of the colon after the last slash, if the reference
holds no `@`. -/
def tagColon {α : Type} (isAt isSlash isColon : α → Bool) (raw : List α) :
    Option Nat :=
  if raw.any isAt then none
  else
    let segmentStart :=
      match lastIndexOf isSlash raw with
      | some lastSlash => lastSlash + 1
      | none => 0
    (lastIndexOf isColon (raw.drop segmentStart)).map (segmentStart + ·)

structure ImageAndTag where
  image : String
  tag : Option String
deriving Repr, Inhabited, DecidableEq

def splitImageAndTag (rawImage : String) : ImageAndTag :=
  match tagColon (· == '@') (· == '/') (· == ':') rawImage.toList with
  | none => { image := rawImage, tag := none }
  | some colon =>
      { image := String.ofList (rawImage.toList.take colon)
        tag := some (String.ofList (rawImage.toList.drop (colon + 1))) }

/-- `splitImageAndTag` applied to a value that only claims to be a string. -/
def splitImageAndTagValue (rawImage : Json) : Except JsError (Json × Option Json) :=
  match rawImage with
  | .str text =>
      let split := splitImageAndTag text
      .ok (.str split.image, split.tag.map .str)
  | .arr items =>
      match tagColon (isText "@") (isText "/") (isText ":") items with
      | none => .ok (.arr items, none)
      | some colon =>
          .ok (.arr (items.take colon), some (.arr (items.drop (colon + 1))))
  | value =>
      if truthy value then .error (.typeError "rawImage.includes is not a function")
      else .ok (orElse (some value) (.str ""), none)

/-! ### `services/container-status-classifier.ts` -/

inductive ServiceStatus where
  | unknown
  | running
  | unhealthy
  | stopped
  | crashLoop
deriving Repr, Inhabited, DecidableEq

def ServiceStatus.text : ServiceStatus → String
  | .unknown => "unknown"
  | .running => "running"
  | .unhealthy => "unhealthy"
  | .stopped => "stopped"
  | .crashLoop => "crash_loop"

def classifyContainerStatus (rawStatus : Json) : Except JsError ServiceStatus := do
  let status := orElse (some rawStatus) (.str "")
  if ← includesText status "Restarting" then
    return .crashLoop
  if ← includesText status "Up" then
    if ← includesText status "(unhealthy)" then
      return .unhealthy
    return .running
  if ← includesText status "Exited" then
    return .stopped
  -- The text of the warning is made here; how it writes a number does not matter.
  let _ ← templateText (fun _ => "") rawStatus
  return .unknown

/-! ### `common/utils/docker.util.ts` -/

/-- What one remote command did; `exitCode` is `none` when it was killed by a
signal. -/
structure SshCommandResult where
  command : String
  stdout : String
  stderr : String
  exitCode : Option Int
deriving Repr, Inhabited, DecidableEq

def dockerNotInstalledMarkers : List String :=
  ["command not found", "not recognized", "no such file"]

/-- Lower-casing is that of ASCII: no other character becomes one of the letters the
markers are made of, except a dotted capital `I`, which leaves its dot behind. -/
def isDockerMissing (result : SshCommandResult) : Bool :=
  if result.exitCode = some 0 then false
  else
    let combined := (result.stdout ++ " " ++ result.stderr).toLower
    dockerNotInstalledMarkers.any fun marker => includes combined marker

/-! ### What a parsed listing consists of -/

/-- No listed container has a falsy id. -/
theorem truthy_of_parseLine {line : String} {container : DockerPsContainer}
    (parses : parseLine line = .ok (some container)) : truthy container.id = true := by
  unfold parseLine at parses
  split at parses
  · cases parses
  · next parsed read =>
    cases parsed with
    | null => cases parses
    | _ =>
      simp only [property, bind, Except.bind, pure, Except.pure] at parses
      split at parses
      · next hasId _ _ _ =>
        cases parses
        exact (Option.filter_eq_some_iff.mp hasId).2
      · cases parses

private theorem foldlM_addLine {lines : List String}
    {start result : DockerPsParseResult}
    (parses : lines.foldlM addLine start = .ok result) :
    ∀ container ∈ result.containers, container ∈ start.containers ∨
      ∃ line ∈ lines, parseLine line = .ok (some container) := by
  induction lines generalizing start with
  | nil =>
      cases parses
      exact fun container member => .inl member
  | cons line lines inductionHypothesis =>
      intro container member
      rw [List.foldlM_cons] at parses
      cases parsed : parseLine line with
      | error error =>
          simp [addLine, parsed, bind, Except.bind] at parses
      | ok found =>
          cases found with
          | none =>
              simp only [addLine, parsed, bind, Except.bind, pure, Except.pure]
                at parses
              rcases inductionHypothesis parses container member with
                old | ⟨other, otherMember, reads⟩
              · exact .inl old
              · exact .inr ⟨other, .tail _ otherMember, reads⟩
          | some first =>
              simp only [addLine, parsed, bind, Except.bind, pure, Except.pure]
                at parses
              rcases inductionHypothesis parses container member with
                old | ⟨other, otherMember, reads⟩
              · rcases List.mem_append.mp old with older | same
                · exact .inl older
                · rw [List.mem_singleton] at same
                  subst same
                  exact .inr ⟨line, .head _, parsed⟩
              · exact .inr ⟨other, .tail _ otherMember, reads⟩

/-- Every container of a listing comes from one of its lines. -/
theorem mem_parseDockerPsOutput {stdout : String} {result : DockerPsParseResult}
    (parses : parseDockerPsOutput stdout = .ok result) :
    ∀ container ∈ result.containers, ∃ line ∈ nonBlankLines stdout,
      parseLine line = .ok (some container) := by
  intro container member
  rcases foldlM_addLine parses container member with absent | found
  · cases absent
  · exact found

end ServersManager
