import SealGate.Json.Parser
import SealGate.Json.Printer
import SealGate.Session.Bus
import SealGate.Text.Blank
import SealGate.Text.Split

/-! The console: a consumer that tells that it has come, and then reads one command per line and
writes one notification per line. Lines that are blank or spell no command are skipped. No written
notification holds a line break. The console quits at the end of its input, or when nobody takes its
commands any more. -/

namespace SealGate.Shell

open Text Session

structure Console where
  /-- The consumer that the console is. -/
  id : Nat
  isOpen : Bool
  /-- The lines that have not been read yet. -/
  input : List (List Char)
  /-- What has been written. -/
  output : List Char

namespace Console

/-- The lines of a text; what follows the last line break is a line unless it is empty. -/
def lines (text : List Char) : List (List Char) :=
  match text with
  | [] => []
  | c :: rest =>
    if c = '\n' then [] :: lines rest
    else match lines rest with
      | [] => [[c]]
      | line :: behind => (c :: line) :: behind

/-- The command that a line spells. -/
def command? (line : List Char) : Option Command :=
  (Json.Node.parseChars? (trim line)).bind Command.ofNode?

/-- What is written of a notification. -/
def written (notification : Notification) : List Char := notification.toNode.renderChars ++ ['\n']

def quit (console : Console) (bus : Bus) : Console × Bus :=
  ({ console with isOpen := false }, bus.detach console.id)

/-- Queues a command, or quits if the queue is closed. -/
def send (command : Command) (console : Console) (bus : Bus) : Console × Bus :=
  match bus.send console.id command with
  | (true, bus) => (console, bus)
  | (false, bus) => console.quit bus

/-- A new consumer for a console. -/
def attach (input : List (List Char)) (bus : Bus) : Console × Bus :=
  let (id, bus) := bus.attach
  (⟨id, true, input, []⟩, bus)

/-- Tells that the console has come. -/
def announce (console : Console) (bus : Bus) : Console × Bus := console.send .connected bus

/-- Reads the next line, or quits if the input has ended. -/
def readLine (console : Console) (bus : Bus) : Console × Bus :=
  if console.isOpen then
    match console.input with
    | [] => console.quit bus
    | line :: rest =>
      let console := { console with input := rest }
      match command? line with
      | none => (console, bus)
      | some command => console.send command bus
  else (console, bus)

/-- Writes the notification that has waited longest, if one waits. -/
def writeNext (console : Console) (bus : Bus) : Console × Bus :=
  if console.isOpen then
    let (notification, bus) := bus.receive console.id
    ({ console with output := console.output ++ notification.elim [] written }, bus)
  else (console, bus)

/-- Reads all that is typed. -/
def readAll (text : List Char) (console : Console) (bus : Bus) : Console × Bus :=
  let console := { console with input := console.input ++ lines text }
  console.input.foldl (fun (console, bus) _ => console.readLine bus) (console, bus)

/-- Writes all that waits. -/
def writeAll (console : Console) (bus : Bus) : Console × Bus :=
  let waiting := ((bus.box? console.id).map Mailbox.waiting).getD []
  waiting.foldl (fun (console, bus) _ => console.writeNext bus) (console, bus)

end Console

end SealGate.Shell
