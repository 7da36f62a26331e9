/-
Module: ServersManager.DockerRun
Purpose: The rebuild command of a captured configuration, and the argument vector the
  shell reads from it.
Trusted boundary: none
Main exports:
  DeploymentConfigBlob, shellEscape, buildDockerRunCommand, dockerRunArguments,
  simpleCommand_buildDockerRunCommand
-/
import ServersManager.Js
import ServersManager.Library.ShellWords

namespace ServersManager

open Library (Json)
open Library.Shell

/-! ### `deployment-snapshots/deployment-config-blob.interface.ts` -/

structure DeploymentConfigBlob where
  containerName : String
  env : List String
  portBindings : List String
  restartPolicy : String
deriving Repr, Inhabited, DecidableEq

/-- The object that `JSON.stringify` is given. -/
def DeploymentConfigBlob.toJson (config : DeploymentConfigBlob) : Json :=
  .obj [("containerName", .str config.containerName),
    ("env", .arr (config.env.map .str)),
    ("portBindings", .arr (config.portBindings.map .str)),
    ("restartPolicy", .str config.restartPolicy)]

/-! ### `rollback/docker-run-command.builder.ts` -/

/-- `value.replace(/'/g, …)` between two single quotes. -/
def shellEscape (value : String) : String :=
  "'" ++ String.ofList
    (value.toList.flatMap fun c =>
      if c = '\'' then ['\'', '\\', '\'', '\''] else [c]) ++ "'"

def buildDockerRunCommand (config : DeploymentConfigBlob) (imageTag : String) :
    String :=
  let parts :=
    ["docker", "run", "-d", "--name", shellEscape config.containerName]
  let parts := config.portBindings.foldl
    (fun parts portBinding => parts ++ ["-p", shellEscape portBinding]) parts
  let parts := config.env.foldl
    (fun parts envVar => parts ++ ["-e", shellEscape envVar]) parts
  let parts :=
    if config.restartPolicy = "" then parts
    else parts ++ ["--restart", shellEscape config.restartPolicy]
  let parts := parts ++ [shellEscape imageTag]
  " ".intercalate parts

/-! #### Configurations of unchecked shape

`decryptConfig` casts whatever the blob parses to.  Its fields are read when the
command is built, and a field of another type fails there, if it fails at all.
-/

/-- A value that `shellEscape` is applied to. -/
def escapable : Json → Except JsError String
  | .str text => .ok text
  | .null => .error (.typeError
      "Cannot read properties of null (reading 'replace')")
  | _ => .error (.typeError "value.replace is not a function")

/-- A property that `shellEscape` is applied to. -/
def escapableProperty (config : Json) (key : String) : Except JsError String := do
  match ← property config key with
  | some value => escapable value
  | none => .error (.typeError
      "Cannot read properties of undefined (reading 'replace')")

/-- A property that a loop of `shellEscape`s iterates over. -/
def escapableList (config : Json) (key : String) : Except JsError (List String) := do
  match ← property config key with
  | some value => (← iterate ("config." ++ key) value).mapM escapable
  | none => .error (.typeError ("config." ++ key ++ " is not iterable"))

/-- The configuration that `buildDockerRunCommand` reads from a value. -/
def readConfig (config : Json) : Except JsError DeploymentConfigBlob := do
  let containerName ← escapableProperty config "containerName"
  let portBindings ← escapableList config "portBindings"
  let env ← escapableList config "env"
  let restartPolicy ←
    match (← property config "restartPolicy").filter truthy with
    | some value => escapable value
    | none => pure ""
  pure
    { containerName := containerName
      env := env
      portBindings := portBindings
      restartPolicy := restartPolicy }

private theorem mapM_escapable (texts : List String) :
    (texts.map Json.str).mapM escapable = .ok texts := by
  induction texts with
  | nil => rfl
  | cons text texts inductionHypothesis =>
      simp [escapable, inductionHypothesis, bind, Except.bind, pure, Except.pure]

/-- A configuration of the declared type is read as it is. -/
theorem readConfig_toJson (config : DeploymentConfigBlob) :
    readConfig config.toJson = .ok config := by
  have name : escapableProperty config.toJson "containerName" =
      .ok config.containerName := rfl
  have ports : escapableList config.toJson "portBindings" =
      .ok config.portBindings := mapM_escapable config.portBindings
  have env : escapableList config.toJson "env" = .ok config.env :=
    mapM_escapable config.env
  have policy : property config.toJson "restartPolicy" =
      .ok (some (.str config.restartPolicy)) := rfl
  simp only [readConfig, name, ports, env, policy, bind, Except.bind]
  by_cases empty : config.restartPolicy = ""
  · have falsy : truthy (.str config.restartPolicy) = false := by
      simp [truthy, empty]
    simp [Option.filter, falsy, pure, Except.pure, ← empty]
  · have present : truthy (.str config.restartPolicy) = true := by
      simp [truthy, empty]
    simp [Option.filter, present, escapable, pure, Except.pure]

/-! ### What the shell makes of the command -/

/-- Each value behind its flag. -/
def flagged (flag : String) (values : List String) : List String :=
  values.flatMap fun value => [flag, value]

/-- The argument vector the command stands for. -/
def dockerRunArguments (config : DeploymentConfigBlob) (imageTag : String) :
    List String :=
  ["docker", "run", "-d", "--name", config.containerName] ++
    flagged "-p" config.portBindings ++ flagged "-e" config.env ++
    (if config.restartPolicy = "" then [] else ["--restart", config.restartPolicy]) ++
    [imageTag]

/-- All texts that are spliced into the command. -/
def splicedTexts (config : DeploymentConfigBlob) (imageTag : String) : List String :=
  config.containerName :: config.portBindings ++ config.env ++
    [config.restartPolicy, imageTag]

theorem isWord_shellEscape {value : String} (nul : '\x00' ∉ value.toList) :
    IsWord (shellEscape value) value :=
  IsWord.singleQuoted nul

private theorem foldl_flagged (flag : String) (values parts : List String) :
    values.foldl (fun parts value => parts ++ [flag, shellEscape value]) parts =
      parts ++ flagged flag (values.map shellEscape) := by
  induction values generalizing parts with
  | nil => simp [flagged]
  | cons value values inductionHypothesis =>
      rw [List.foldl_cons, inductionHypothesis]
      simp [flagged]

/-- The command is the argument vector with every spliced text escaped. -/
theorem buildDockerRunCommand_eq (config : DeploymentConfigBlob)
    (imageTag : String) :
    buildDockerRunCommand config imageTag =
      " ".intercalate
        (["docker", "run", "-d", "--name", shellEscape config.containerName] ++
          flagged "-p" (config.portBindings.map shellEscape) ++
          flagged "-e" (config.env.map shellEscape) ++
          (if config.restartPolicy = "" then []
            else ["--restart", shellEscape config.restartPolicy]) ++
          [shellEscape imageTag]) := by
  simp only [buildDockerRunCommand, foldl_flagged]
  split <;> simp

theorem toList_buildDockerRunCommand (config : DeploymentConfigBlob) (imageTag : String) :
    ∃ rest, (buildDockerRunCommand config imageTag).toList = "docker run ".toList ++ rest := by
  rw [buildDockerRunCommand_eq]
  simp only [List.cons_append, String.intercalate_cons_cons, String.toList_append]
  exact ⟨_, rfl⟩

private theorem words_flagged {flag : String} (plain : PlainWord flag)
    (values : List String) (nul : ∀ value ∈ values, '\x00' ∉ value.toList) :
    List.Forall₂ IsWord (flagged flag (values.map shellEscape))
      (flagged flag values) := by
  induction values with
  | nil => exact .nil
  | cons value values inductionHypothesis =>
      exact .cons plain.isWord (.cons (isWord_shellEscape (nul value (.head _)))
        (inductionHypothesis fun other member => nul other (.tail _ member)))

private theorem words_dockerRun {config : DeploymentConfigBlob} {imageTag : String}
    (nul : ∀ text ∈ splicedTexts config imageTag, '\x00' ∉ text.toList) :
    List.Forall₂ IsWord
      (["docker", "run", "-d", "--name", shellEscape config.containerName] ++
        flagged "-p" (config.portBindings.map shellEscape) ++
        flagged "-e" (config.env.map shellEscape) ++
        (if config.restartPolicy = "" then []
          else ["--restart", shellEscape config.restartPolicy]) ++
        [shellEscape imageTag])
      (dockerRunArguments config imageTag) := by
  have plain : ∀ text ∈ ["docker", "run", "-d", "--name", "-p", "-e", "--restart"],
      PlainWord text := by decide
  have escaped : ∀ text ∈ splicedTexts config imageTag,
      IsWord (shellEscape text) text :=
    fun text member => isWord_shellEscape (nul text member)
  have front : List.Forall₂ IsWord
      ["docker", "run", "-d", "--name", shellEscape config.containerName]
      ["docker", "run", "-d", "--name", config.containerName] :=
    .cons (plain _ (by simp)).isWord (.cons (plain _ (by simp)).isWord
      (.cons (plain _ (by simp)).isWord (.cons (plain _ (by simp)).isWord
        (.cons (escaped _ (by simp [splicedTexts])) .nil))))
  have ports := words_flagged (plain "-p" (by simp)) config.portBindings
    fun value member => nul value (by simp [splicedTexts, member])
  have env := words_flagged (plain "-e" (by simp)) config.env
    fun value member => nul value (by simp [splicedTexts, member])
  have policy : List.Forall₂ IsWord
      (if config.restartPolicy = "" then []
        else ["--restart", shellEscape config.restartPolicy])
      (if config.restartPolicy = "" then []
        else ["--restart", config.restartPolicy]) := by
    split
    · exact .nil
    · exact .cons (plain _ (by simp)).isWord
        (.cons (escaped _ (by simp [splicedTexts])) .nil)
  have image : List.Forall₂ IsWord [shellEscape imageTag] [imageTag] :=
    .cons (escaped _ (by simp [splicedTexts])) .nil
  exact List.rel_append (List.rel_append (List.rel_append
    (List.rel_append front ports) env) policy) image

theorem simpleCommand_dockerRun {config : DeploymentConfigBlob} {imageTag : String}
    (nul : ∀ text ∈ splicedTexts config imageTag, '\x00' ∉ text.toList) :
    simpleCommand (buildDockerRunCommand config imageTag) =
      some (dockerRunArguments config imageTag) := by
  rw [buildDockerRunCommand_eq]
  exact simpleCommand_join (words_dockerRun nul) (by decide)

/-- The shell reads the command as one simple command, and every captured value
reaches `docker` unchanged. -/
theorem simpleCommand_buildDockerRunCommand (config : DeploymentConfigBlob)
    (imageTag : String)
    (nul : ∀ text ∈ splicedTexts config imageTag, '\x00' ∉ text.toList) :
    simpleCommand (buildDockerRunCommand config imageTag) =
      some (dockerRunArguments config imageTag) :=
  simpleCommand_dockerRun nul

theorem simpleCommand_buildDockerRunCommand_hostile :
    let config : DeploymentConfigBlob :=
      { containerName := "it's $(reboot)"
        env := ["KEY=a'; rm -rf / #", ""]
        portBindings := ["8080:80/tcp"]
        restartPolicy := "always" }
    (∀ text ∈ splicedTexts config "web:1\n`id`", '\x00' ∉ text.toList) ∧
      simpleCommand (buildDockerRunCommand config "web:1\n`id`") =
        some ["docker", "run", "-d", "--name", "it's $(reboot)", "-p",
          "8080:80/tcp", "-e", "KEY=a'; rm -rf / #", "-e", "", "--restart",
          "always", "web:1\n`id`"] :=
  ⟨by decide, simpleCommand_buildDockerRunCommand _ _ (by decide)⟩

/-! ### A command and its arguments -/

private theorem mem_shellEscape {c : Char} {value : String} (inValue : c ∈ value.toList) :
    c ∈ (shellEscape value).toList := by
  have escaped : c ∈ value.toList.flatMap fun c =>
      if c = '\'' then ['\'', '\\', '\'', '\''] else [c] := by
    refine List.mem_flatMap.mpr ⟨c, inValue, ?_⟩
    split
    · next quote => simp [quote]
    · exact List.mem_singleton_self c
  unfold shellEscape
  simp only [String.toList_append, List.mem_append, String.toList_ofList]
  exact .inl (.inr escaped)

/-- Every spliced text is seen in the command. -/
theorem mem_buildDockerRunCommand {c : Char} {text imageTag : String}
    {config : DeploymentConfigBlob} (member : text ∈ splicedTexts config imageTag)
    (inText : c ∈ text.toList) :
    c ∈ (buildDockerRunCommand config imageTag).toList := by
  rw [buildDockerRunCommand_eq]
  apply mem_intercalate _ (mem_shellEscape inText)
  simp only [splicedTexts, List.cons_append, List.mem_cons, List.mem_append,
    List.not_mem_nil, or_false] at member
  simp only [List.mem_append, List.mem_singleton]
  rcases member with rfl | ((ofPorts | ofEnv) | rfl | rfl)
  · exact .inl (.inl (.inl (.inl (by simp))))
  · exact .inl (.inl (.inl (.inr (by simp [flagged]; exact ⟨text, ofPorts, .inr rfl⟩))))
  · exact .inl (.inl (.inr (by simp [flagged]; exact ⟨text, ofEnv, .inr rfl⟩)))
  · have present : config.restartPolicy ≠ "" := by
      intro empty
      rw [empty] at inText
      cases inText
    exact .inl (.inr (by simp [present]))
  · exact .inr rfl

/-- A command that can be passed to a shell has the arguments of the configuration that
it was built from. -/
theorem simpleCommand_of_built {command imageTag : String} {config : DeploymentConfigBlob}
    (nul : '\x00' ∉ command.toList)
    (built : command = buildDockerRunCommand config imageTag) :
    simpleCommand command = some (dockerRunArguments config imageTag) := by
  subst built
  apply simpleCommand_dockerRun
  intro text member inText
  exact nul (mem_buildDockerRunCommand member inText)

end ServersManager
