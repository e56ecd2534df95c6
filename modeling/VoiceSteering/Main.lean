/-
# The command line

Reads the arguments, lets the command act on a host that has the configuration file it names, and
puts out what it says.
-/
import VoiceSteering.Command.Execute

open VoiceSteering

/-- A host that has the configuration file of a command, if there is one. -/
def hostFor (args : List String) : IO Host := do
  let config? := match Command.read args with
    | .ok (.run config _ _ _) => some config
    | .ok (.checkConfig config) => some config
    | _ => none
  match config? with
  | none => return {}
  | some path =>
    try
      let content ← IO.FS.readBinFile path
      return { files := FileTree.plant {} path (.file content.toList) }
    catch _ => return {}

def main (args : List String) : IO UInt32 := do
  let (ending, _) := Command.execute args (← hostFor args)
  IO.print ending.output
  IO.eprint ending.errors
  return ending.exitCode.toUInt32
