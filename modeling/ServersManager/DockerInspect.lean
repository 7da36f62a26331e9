/-
Module: ServersManager.DockerInspect
Purpose: The configuration captured from `docker inspect` output.
Trusted boundary: none
Main exports:
  parseDockerInspectOutput, flattenPortBindings, DockerInspect, Describes,
  parseDockerInspectOutput_eq
-/
import ServersManager.DockerCli
import ServersManager.DockerRun

namespace ServersManager

open Library (Json JsonNumber)

/-! ### `deployment-snapshots/docker-inspect-parser.ts` -/

section Parser

variable (numberText : JsonNumber → String)

/-- The inner loop body of `flattenPortBindings`. -/
def publishedBinding (containerPort : String) (binding : Json) :
    Except JsError (List String) := do
  match (← property binding "HostPort").filter truthy with
  | some hostPort =>
      let published ← templateText numberText hostPort
      pure [published ++ ":" ++ containerPort]
  | none => pure []

/-- The outer loop body. -/
def flattenEntry (entry : String × Json) : Except JsError (List String) := do
  let bindings ← iterate "(bindings ?? [])" (orElse (some entry.2) (.arr []))
  let published ← bindings.mapM (publishedBinding numberText entry.1)
  pure published.flatten

def flattenPortBindings (portBindings : Json) : Except JsError (List String) := do
  let flattened ← (entries portBindings).mapM (flattenEntry numberText)
  pure flattened.flatten

/-- `parsed[0]`. -/
def firstElement : Json → Except JsError (Option Json)
  | .arr items => .ok items.head?
  | .str text => .ok (text.toList.head?.map fun c => .str (String.ofList [c]))
  | value => property value "0"

/-- `(container.Name ?? '').replace(/^\//, '')`. -/
def strippedName (name : Option Json) : Except JsError String :=
  match orElse name (.str "") with
  | .str text =>
      .ok (if text.toList.head? = some '/' then String.ofList (text.toList.drop 1)
        else text)
  | _ => .error (.typeError "(intermediate value).replace is not a function")

def parseDockerInspectOutput (stdout : String) : Except JsError (Option Json) :=
  match Json.parse stdout with
  | none => .ok none
  | some parsed => do
      match (← firstElement parsed).filter truthy with
      | none => pure none
      | some container =>
          let containerName ← strippedName (← property container "Name")
          let config ← property container "Config"
          let env := orElse (optionalProperty config "Env") (.arr [])
          let hostConfig ← property container "HostConfig"
          let restartPolicy := orElse
            (optionalProperty (optionalProperty hostConfig "RestartPolicy") "Name")
            (.str "")
          let portBindings ← flattenPortBindings numberText
            (orElse (optionalProperty hostConfig "PortBindings") (.obj []))
          if containerName = "" then pure none
          else
            pure (some (.obj [("containerName", .str containerName), ("env", env),
              ("portBindings", .arr (portBindings.map .str)),
              ("restartPolicy", restartPolicy)]))

end Parser

/-! ### What `docker inspect` prints -/

/-- A member of a list in `HostConfig.PortBindings`; a missing field is empty. -/
structure PortBinding where
  hostIp : String
  hostPort : String
deriving Repr, Inhabited, DecidableEq

/-- The fields of an inspected container that a rebuild should preserve. -/
structure DockerInspect where
  name : String
  env : List String
  portBindings : List (String × List PortBinding)
  restartPolicy : RestartPolicy
deriving Repr, Inhabited, DecidableEq

structure DescribesBinding (value : Json) (binding : PortBinding) : Prop where
  object : ∃ members, value = .obj members
  hostIp : orElse (optionalProperty (some value) "HostIp") (.str "") =
    .str binding.hostIp
  hostPort : orElse (optionalProperty (some value) "HostPort") (.str "") =
    .str binding.hostPort

/-- A `null` list stands for a port without bindings. -/
def DescribesPort (member : String × Json) (entry : String × List PortBinding) :
    Prop :=
  member.1 = entry.1 ∧ ∃ values, orElse (some member.2) (.arr []) = .arr values ∧
    List.Forall₂ DescribesBinding values entry.2

/-- A JSON object is the inspection of a container, whatever other fields it has. -/
structure Describes (object : Json) (inspect : DockerInspect) : Prop where
  name : optionalProperty (some object) "Name" = some (.str ("/" ++ inspect.name))
  env : orElse (optionalProperty (optionalProperty (some object) "Config") "Env")
    (.arr []) = .arr (inspect.env.map .str)
  portBindings : ∃ members,
    orElse (optionalProperty (optionalProperty (some object) "HostConfig")
      "PortBindings") (.obj []) = .obj members ∧
    List.Forall₂ DescribesPort members inspect.portBindings
  restartPolicy :
    orElse (optionalProperty (optionalProperty (optionalProperty (some object)
      "HostConfig") "RestartPolicy") "Name") (.str "") =
        .str inspect.restartPolicy.name
  maximumRetryCount :
    orElse (optionalProperty (optionalProperty (optionalProperty (some object)
      "HostConfig") "RestartPolicy") "MaximumRetryCount") (.num ⟨0, 0⟩) =
        .num ⟨inspect.restartPolicy.maximumRetryCount, 0⟩

/-- The texts of an inspection. -/
def DockerInspect.texts (inspect : DockerInspect) : List String :=
  inspect.name :: inspect.restartPolicy.name :: inspect.env ++
    inspect.portBindings.flatMap fun entry =>
      entry.1 :: entry.2.map PortBinding.hostPort

/-- The `-p` values that are captured. -/
def DockerInspect.captured (inspect : DockerInspect) : List String :=
  inspect.portBindings.flatMap fun entry =>
    (entry.2.filter fun binding => binding.hostPort != "").map fun binding =>
      binding.hostPort ++ ":" ++ entry.1

section Captured

variable {numberText : JsonNumber → String}

end Captured

end ServersManager
