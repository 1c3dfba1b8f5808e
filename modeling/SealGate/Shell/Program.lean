import SealGate.Gateway.Dispatch
import SealGate.Shell.Arguments
import SealGate.Shell.Console

/-! A run of the gateway. At the start the stored flag is restored, then the switch to enable is
followed, and only then is the console attached; so the console hears nothing of what came before
it. Typed lines are commands, and what the console hears is written line by line. -/

namespace SealGate.Shell

open Session

structure Program where
  gateway : Gateway
  console : Option Console

namespace Program

/-- Attaches the console, which lets it ask for the theme and the flag. -/
def openConsole (program : Program) : Program :=
  let (console, bus) := Console.attach [] program.gateway.bus
  let (console, bus) := console.announce bus
  ⟨{ program.gateway with bus := bus }.settle Gateway.readerEngine, some console⟩

def start (config : Config) (link : Origin.Link) (settings : Settings) : Program :=
  let gateway := Gateway.start link (fun _ => none) settings
  let gateway := if config.enable then (gateway.setEnabled Gateway.readerEngine true).2 else gateway
  let program : Program := ⟨gateway, none⟩
  if config.console then program.openConsole else program

/-- Carries out what is typed on the console. -/
def type (text : String) (program : Program) : Program :=
  match program.console with
  | none => program
  | some console =>
    let (console, bus) := console.readAll text.toList program.gateway.bus
    ⟨{ program.gateway with bus := bus }.settle Gateway.readerEngine, some console⟩

/-- The lines that the console has written since they were last asked for. -/
def output (program : Program) : List String × Program :=
  match program.console with
  | none => ([], program)
  | some console =>
    let (console, bus) := console.writeAll program.gateway.bus
    ((Console.lines console.output).map String.ofList,
      ⟨{ program.gateway with bus := bus }, some { console with output := [] }⟩)

/-- Ends the input of the console; the gateway goes on. -/
def closeConsole (program : Program) : Program :=
  match program.console with
  | none => program
  | some console =>
    let (console, bus) := console.readLine program.gateway.bus
    ⟨{ program.gateway with bus := bus }, some console⟩

/-- Answers a request over HTTP. -/
def answer (request : Http.Request) (program : Program) :
    Option (Http.Response Gateway.BodyFault) × Program :=
  let (response, gateway) := program.gateway.answer request
  (response, { program with gateway := gateway })

/-- The exit code of a run that ends on request. -/
def exitCode : UInt32 := 0

end Program

end SealGate.Shell
