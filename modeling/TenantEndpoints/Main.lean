import TenantEndpoints.CommandLine.Arguments
import TenantEndpoints.Json.Basic

/-!
# The command line

Reads the arguments and the environment and prints the configuration that the
program would be started with, or tells why it would not start.
-/
namespace TenantEndpoints.CommandLine

/-- The variables of the process's environment that settings are looked for in. -/
def processEnvironment : IO Environment := do
  let names := Setting.all.filterMap Setting.envVar
  let found ← names.filterMapM fun name => do
    return (← IO.getEnv name).map fun value => (name, value)
  return fun name => found.lookup name

end TenantEndpoints.CommandLine

open TenantEndpoints CommandLine

def main (argv : List String) : IO UInt32 := do
  match Arguments.read argv (← processEnvironment) with
  | .error refusal =>
    IO.eprintln refusal.message
    return 2
  | .ok arguments => match arguments.startFault? with
    | some fault =>
      IO.eprintln fault
      return 1
    | none =>
      IO.println arguments.toJson.text
      return 0
