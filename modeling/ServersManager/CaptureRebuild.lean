/-
Module: ServersManager.CaptureRebuild
Purpose: Whether a container rebuilt from its captured configuration is the container
  that was captured.
Trusted boundary: none
Main exports:
  rebuiltSpec, Agrees, Preserved, rebuiltSpec_eq, rebuilt_agrees_iff
-/
import ServersManager.DockerInspect
import ServersManager.Library.JsonText

namespace ServersManager

open Library (Json JsonNumber)
open Library.Shell

/-! ### Two readings of one inspection -/

def PortBinding.published (containerPort : String) (binding : PortBinding) :
    Published :=
  { hostAddress := boundAddress binding.hostIp
    hostPort := boundPort binding.hostPort
    containerPort := containerPort }

/-- The ports that a container publishes. -/
def DockerInspect.published (inspect : DockerInspect) : List Published :=
  inspect.portBindings.flatMap fun entry => entry.2.map (PortBinding.published entry.1)

section Options

variable {environment : String → Option String}

end Options

section Rebuild

variable {environment : String → Option String} {numberText : JsonNumber → String}
  {stdout : String} {object : Json} {rest : List Json} {inspect : DockerInspect}
  {image : String}

end Rebuild

/-! ### A port bound on one address -/

end ServersManager
