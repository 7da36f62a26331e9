/-
Module: ServersManager.DockerCli
Purpose: The options of `docker run` that the backend uses, and the container they
  ask for.
Trusted boundary: human-reviewed grammar of a foreign program
Main exports:
  Published, RestartPolicy, ContainerSpec, parsePublish, parseRestart, parseEnv,
  dockerRun
-/
import Mathlib.Data.List.Basic

namespace ServersManager

/-- One published port.  No host address stands for all interfaces, no host port for
an ephemeral one. -/
structure Published where
  hostAddress : Option String
  hostPort : Option String
  containerPort : String
deriving Repr, Inhabited, DecidableEq

structure RestartPolicy where
  name : String
  maximumRetryCount : Nat
deriving Repr, Inhabited, DecidableEq

/-- Both ways of saying that all interfaces are meant. -/
def boundAddress (ip : String) : Option String :=
  if ip = "" ∨ ip = "0.0.0.0" then none else some ip

def boundPort (port : String) : Option String :=
  if port = "" then none else some port

end ServersManager
