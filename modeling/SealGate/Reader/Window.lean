import SealGate.Vault.Packet

/-! Opening packets as they come. Chunks of stored bytes, cut anywhere, are put together to packets;
each packet is opened when it is complete, and what it gives to the wanted piece of the plaintext is
handed out at once. No more than one packet is held. -/

namespace SealGate.Reader

open Vault

/-- The start of a packet, its last byte first. -/
structure Buffer where
  reversed : Bytes
  length : Nat

namespace Buffer

def empty : Buffer := ⟨[], 0⟩

def push (buffer : Buffer) (b : UInt8) : Buffer := ⟨b :: buffer.reversed, buffer.length + 1⟩

def bytes (buffer : Buffer) : Bytes := buffer.reversed.reverse

/-- Adds a chunk: the packets that become complete, and the start of the next one. -/
def feed (buffer : Buffer) : Bytes → List Bytes × Buffer
  | [] => ([], buffer)
  | b :: chunk =>
    if buffer.length + 1 = storedPacketSize then
      let (packets, rest) := feed empty chunk
      ((buffer.push b).bytes :: packets, rest)
    else feed (buffer.push b) chunk

end Buffer

/-- The packets in a run of chunks behind a buffer, up to the first failure. Only the last packet
may be short, and a packet that a failure cuts off is lost. -/
def packets (buffer : Buffer) : List (Except Error Bytes) → List (Except Error Bytes)
  | [] => if buffer.length = 0 then [] else [.ok buffer.bytes]
  | .error error :: _ => [.error error]
  | .ok chunk :: rest =>
    let (complete, buffer) := buffer.feed chunk
    complete.map .ok ++ packets buffer rest

/-- A piece of the plaintext of a run of packets: how much to skip, and how much to hand out, which
is all that comes if no length is given. -/
structure Window where
  /-- The sequence number of the first packet. -/
  first : Nat
  skip : Nat
  length : Option Nat
  deriving DecidableEq

/-- What a packet's plaintext gives to a window. -/
def clip (skip : Nat) (remaining : Option Nat) (plain : Bytes) : Bytes :=
  match remaining with
  | some count => (plain.drop skip).take count
  | none => plain.drop skip

/-- The clipped plaintexts of packets, empty ones left out, until the window is full or something
fails. -/
def openPackets (key : Cipher.Key) : (sequence skip : Nat) → (remaining : Option Nat) →
    List (Except Error Bytes) → List (Except Error Bytes)
  | _, _, some 0, _ => []
  | _, _, some _, [] => [.error (.corrupted .objectEnded)]
  | _, _, none, [] => []
  | _, _, _, .error error :: _ => [.error error]
  | sequence, skip, remaining, .ok stored :: rest =>
    match Packet.decode stored key sequence with
    | .error error => [.error error]
    | .ok plain =>
      let piece := clip skip remaining plain
      let behind := openPackets key (sequence + 1) (skip - plain.length)
        (remaining.map (· - piece.length)) rest
      if piece = [] then behind else .ok piece :: behind

/-- The wanted piece of a run of stored chunks. -/
def Window.read (window : Window) (key : Cipher.Key) (chunks : List (Except Error Bytes)) :
    List (Except Error Bytes) :=
  openPackets key window.first window.skip window.length (packets .empty chunks)

end SealGate.Reader
