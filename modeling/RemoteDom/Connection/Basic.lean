import RemoteDom.Connection.Streams
import RemoteDom.Wire.Incoming
import RemoteDom.Wire.Request

/-! One connection that many callers share. Each command has a number and a slot; the answer goes to the
slot of its number. The steps of the callers and of the connection itself are functions of the state, so
that they can follow one another in any order. -/

namespace RemoteDom

structure Slot where
  id : Nat
  method : String
  session : SessionId
deriving DecidableEq, Repr

inductive Outgoing where
  | frame (id : Nat) (text : String)
  | shutdown
deriving DecidableEq, Repr

structure Connection where
  nextId : Nat
  /-- Set once the connection has stopped. -/
  closed : Bool
  /-- Whether frames can still be queued. -/
  accepting : Bool
  queue : List Outgoing
  slots : List Slot
  /-- Answers that their callers have not taken yet. -/
  answers : List (Nat × Except Error Json)
  streams : Streams

namespace Connection

def fresh : Connection := ⟨1, false, true, [], [], [], .empty⟩

def pendingCount (connection : Connection) : Nat := connection.slots.length

/-! The steps of a caller. -/

def allocate (connection : Connection) : Nat × Connection :=
  (connection.nextId, { connection with nextId := connection.nextId + 1 })

def reserve (connection : Connection) (slot : Slot) : Connection :=
  { connection with slots := connection.slots ++ [slot] }

def enqueue (connection : Connection) (outgoing : Outgoing) : Option Connection :=
  if connection.accepting then some { connection with queue := connection.queue ++ [outgoing] }
  else none

/-- Gives the slot up; an answer that comes later is discarded. -/
def abandon (connection : Connection) (id : Nat) : Connection :=
  { connection with
    slots := connection.slots.filter fun slot => slot.id != id
    answers := connection.answers.filter fun answer => answer.1 != id }

/-- Sends a command: gives the number under which its answer is to be expected. -/
def send (connection : Connection) (session : SessionId) (command : Command) :
    Except Error Nat × Connection :=
  if connection.closed then (.error .connectionClosed, connection)
  else
    let (id, connection) := connection.allocate
    let reserved := connection.reserve ⟨id, command.method, session⟩
    match reserved.enqueue (.frame id (Request.text ⟨id, session, command⟩)) with
    | some queued => (.ok id, queued)
    | none => (.error .connectionClosed, reserved.abandon id)

def answer? (connection : Connection) (id : Nat) : Option (Except Error Json) :=
  connection.answers.lookup id

/-! The steps of the connection. -/

def slot? (connection : Connection) (id : Nat) : Option Slot :=
  connection.slots.find? fun slot => slot.id == id

/-- Empties a slot with what its caller is to get; without a slot nothing happens. -/
def resolve (connection : Connection) (id : Nat) (answer : Slot → Except Error Json) : Connection :=
  match connection.slot? id with
  | some slot =>
      { connection with
        slots := connection.slots.filter fun slot => slot.id != id
        answers := connection.answers ++ [(id, answer slot)] }
  | none => connection

/-- Handles a text frame. A frame that cannot be read but names a command is that command's answer. -/
def receive (connection : Connection) (text : String) : Connection :=
  match Incoming.read text with
  | .ok (.response response) =>
      connection.resolve response.id fun slot => response.outcome slot.method slot.session
  | .ok (.event event) => { connection with streams := (connection.streams.dispatch event).2 }
  | .error error =>
      match Incoming.responseId? text with
      | some id => connection.resolve id fun _ => .error error
      | none => connection

def dequeue (connection : Connection) : Option (Outgoing × Connection) :=
  match connection.queue with
  | [] => none
  | outgoing :: rest => some (outgoing, { connection with queue := rest })

def failWrite (connection : Connection) (id : Nat) (reason : String) : Connection :=
  connection.resolve id fun _ => .error (.connection reason)

/-! What the connection does, in this order, when it stops. -/

def markClosed (connection : Connection) : Connection := { connection with closed := true }

def closeQueue (connection : Connection) : Connection :=
  { connection with accepting := false, queue := [] }

def failPending (connection : Connection) : Connection :=
  { connection with
    slots := []
    answers := connection.answers ++ connection.slots.map fun slot => (slot.id, .error .connectionClosed) }

def endStreams (connection : Connection) : Connection :=
  { connection with streams := connection.streams.close }

def stop (connection : Connection) : Connection :=
  connection.markClosed.closeQueue.failPending.endStreams

end Connection

end RemoteDom
