import SealGate.Shell.Program
import SealGate.Shell.Usage

/-! The command line program. It reads its arguments and environment and, if a console is asked for,
carries out the commands on standard input until it ends. This build has no network: no origin can
be reached and nobody can connect, and settings last as long as the run. -/

namespace SealGate.Shell

/-- Writes the lines of the console that have not been written yet. -/
def writeLines (output : IO.FS.Stream) (program : Program) : IO Program := do
  let (lines, program) := program.output
  for line in lines do
    output.putStrLn line
  output.flush
  return program

partial def converse (input output : IO.FS.Stream) (program : Program) : IO Unit := do
  let program ← writeLines output program
  let line ← input.getLine
  if line.isEmpty then return
  converse input output (program.type line)

/-- The values of the variables that options may come from. -/
def readEnvironment : IO Environment := do
  let listen ← IO.getEnv listenVariable
  let origin ← IO.getEnv originVariable
  let dataDirectory ← IO.getEnv dataDirectoryVariable
  return fun name =>
    if name = listenVariable then listen
    else if name = originVariable then origin
    else if name = dataDirectoryVariable then dataDirectory
    else none

def run (args : List String) : IO UInt32 := do
  let env ← readEnvironment
  match Config.parse args env with
  | .error stop =>
    let output ← if stop.exitCode = 0 then IO.getStdout else IO.getStderr
    for line in stop.explain env do
      output.putStrLn line
    return stop.exitCode
  | .ok config =>
    let program := Program.start config (.unreachable config.origin) (.ofFile .missing)
    if config.console then converse (← IO.getStdin) (← IO.getStdout) program
    return Program.exitCode

end SealGate.Shell

def main (args : List String) : IO UInt32 := SealGate.Shell.run args
