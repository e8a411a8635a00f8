import Stencil.CommandLine.Run
import Stencil.CommandLine.YamlFile

/-! The program: reads what its arguments name, runs, writes and exits. -/

namespace Stencil.CommandLine

/-- The files that a command reads, by their normal names. -/
def Command.paths : Command → List String
  | functions => []
  | check template => templatePaths template
  | render job => templatePaths job.template ++ (job.data.map normalPath).toList
  | report job => templatePaths job.template ++ (job.data.map normalPath).toList
where
  templatePaths (argument : String) : List String :=
    match argument.toList with
    | '@' :: name => [normalPath (String.ofList name)]
    | _ => []

/-- The command reads its template from standard input. -/
def Command.readsInput : Command → Bool
  | functions => false
  | check template => template == "-"
  | render job => job.template == "-"
  | report job => job.template == "-"

def look (path : String) : IO Content := do
  try
    let bytes ← IO.FS.readBinFile path
    return .bytes bytes.toList
  catch error =>
    match error with
    | .noFileOrDirectory .. => return .missing
    | _ => return .directory

end Stencil.CommandLine

open Stencil.CommandLine in
def main (arguments : List String) : IO UInt32 := do
  let command? := (Request.read arguments).toOption.map (·.command)
  let paths := (command?.map Command.paths).getD []
  let contents ← paths.mapM fun path => do return (path, ← look path)
  let input ← if command?.any Command.readsInput then do (← IO.getStdin).readToEnd else pure ""
  let debug ← IO.getEnv "HAFR_DEBUG"
  let seen : Surroundings :=
    ⟨fun path => (contents.lookup path).getD .missing, input, debug.any (· != ""), loadYaml,
      fun _ => none⟩
  let outcome := run seen arguments
  IO.print outcome.output
  IO.eprint outcome.messages
  return outcome.status.toUInt32
