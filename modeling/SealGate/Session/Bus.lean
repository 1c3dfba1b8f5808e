import SealGate.Session.Message

/-! The bus between the gateway and its consumers. Every consumer has a mailbox of its own, which
keeps what was delivered in order and how much of it has been read; a detached consumer gets nothing
more. Commands of all consumers wait in one queue, each with the id of its sender, until the queue
is closed. Ids count from one and are never given twice. -/

namespace SealGate.Session

structure Mailbox where
  attached : Bool
  delivered : List Notification
  /-- How many notifications have been read. -/
  read : Nat

namespace Mailbox

def empty : Mailbox := ⟨true, [], 0⟩

def deliver (box : Mailbox) (notification : Notification) : Mailbox :=
  if box.attached then { box with delivered := box.delivered ++ [notification] } else box

def waiting (box : Mailbox) : List Notification := box.delivered.drop box.read

def markRead (box : Mailbox) : Mailbox := { box with read := box.delivered.length }

/-- Reads one notification more, if one waits. -/
def markNext (box : Mailbox) : Mailbox :=
  { box with read := min (box.read + 1) box.delivered.length }

end Mailbox

/-- A command and the id of the consumer that sent it. -/
structure Envelope where
  sender : Nat
  command : Command
  deriving DecidableEq

def Envelope.describe (envelope : Envelope) : String :=
  "Envelope \x7b from: " ++ Text.Decimal.render envelope.sender ++ ", command: " ++
    envelope.command.describe ++ " \x7d"

structure Bus where
  /-- The mailbox of consumer `n` stands at place `n - 1`. -/
  boxes : List Mailbox
  queue : List Envelope
  closed : Bool

namespace Bus

def empty : Bus := ⟨[], [], false⟩

/-- The mailbox of a consumer. -/
def box? (bus : Bus) (id : Nat) : Option Mailbox := if id = 0 then none else bus.boxes[id - 1]?

def isAttached (bus : Bus) (id : Nat) : Bool := (bus.box? id).any Mailbox.attached

/-- Changes the mailbox of a consumer. -/
def update (bus : Bus) (id : Nat) (change : Mailbox → Mailbox) : Bus :=
  if id = 0 then bus else { bus with boxes := bus.boxes.modify (id - 1) change }

/-- A new consumer and its id. -/
def attach (bus : Bus) : Nat × Bus :=
  (bus.boxes.length + 1, { bus with boxes := bus.boxes ++ [Mailbox.empty] })

def detach (bus : Bus) (id : Nat) : Bus := bus.update id fun box => { box with attached := false }

/-- Delivers to every attached consumer. -/
def broadcast (bus : Bus) (notification : Notification) : Bus :=
  { bus with boxes := bus.boxes.map (·.deliver notification) }

/-- Delivers to one consumer; tells whether it is attached. -/
def post (bus : Bus) (id : Nat) (notification : Notification) : Bool × Bus :=
  (bus.isAttached id, bus.update id (·.deliver notification))

/-- Queues a command; tells whether the queue is open. -/
def send (bus : Bus) (sender : Nat) (command : Command) : Bool × Bus :=
  if bus.closed then (false, bus)
  else (true, { bus with queue := bus.queue ++ [⟨sender, command⟩] })

/-- Takes the command that has waited longest. -/
def next? (bus : Bus) : Option Envelope × Bus :=
  match bus.queue with
  | [] => (none, bus)
  | envelope :: rest => (some envelope, { bus with queue := rest })

/-- Closes the queue and drops what waits in it. -/
def close (bus : Bus) : Bus := { bus with queue := [], closed := true }

/-- The notifications that a consumer has not read yet, which it reads by this. -/
def drain (bus : Bus) (id : Nat) : List Notification × Bus :=
  (((bus.box? id).map Mailbox.waiting).getD [], bus.update id Mailbox.markRead)

/-- The first notification that a consumer has not read yet, which it reads by this. -/
def receive (bus : Bus) (id : Nat) : Option Notification × Bus :=
  ((bus.box? id).bind fun box => box.waiting.head?, bus.update id Mailbox.markNext)

end Bus

end SealGate.Session
