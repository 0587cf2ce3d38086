import RemoteDom.Wire.Event

/-! Streams of events. A stream receives the events of one method, of one session or of all, from its
start until it is dropped or the connection ends. -/

namespace RemoteDom

structure Stream where
  id : Nat
  method : String
  /-- The only session whose events are received, if there is one. -/
  session : Option SessionId
  /-- Events that were received and not yet taken, the oldest first. -/
  received : List Event
  /-- Whether events may still come. -/
  live : Bool
deriving DecidableEq, Repr

namespace Stream

def wants (stream : Stream) (event : Event) : Bool :=
  stream.method == event.method && stream.session.all fun session => session == event.session

def receives (stream : Stream) (event : Event) : Bool := stream.live && stream.wants event

def push (stream : Stream) (event : Event) : Stream :=
  if stream.receives event then { stream with received := stream.received ++ [event] } else stream

end Stream

structure Streams where
  nextId : Nat
  held : List Stream
  ended : Bool
deriving DecidableEq, Repr

namespace Streams

def empty : Streams := ⟨1, [], false⟩

/-- Starts a stream; after the end it is one that has ended already. -/
def subscribe (streams : Streams) (method : String) (session : Option SessionId) : Nat × Streams :=
  (streams.nextId,
    { streams with
      nextId := streams.nextId + 1
      held := streams.held ++ [⟨streams.nextId, method, session, [], !streams.ended⟩] })

/-- Hands an event to every stream that receives it, and tells how many do. -/
def dispatch (streams : Streams) (event : Event) : Nat × Streams :=
  (streams.held.countP (Stream.receives · event),
    { streams with held := streams.held.map (Stream.push · event) })

def get? (streams : Streams) (id : Nat) : Option Stream :=
  streams.held.find? fun stream => stream.id == id

def drop (streams : Streams) (id : Nat) : Streams :=
  { streams with held := streams.held.filter fun stream => stream.id != id }

/-- Ends all streams; what they hold can still be taken. -/
def close (streams : Streams) : Streams :=
  { streams with
    ended := true
    held := streams.held.map fun stream => { stream with live := false } }

inductive Taken where
  | event (event : Event)
  | pending
  | ended
deriving DecidableEq, Repr

def take (streams : Streams) (id : Nat) : Taken × Streams :=
  match streams.get? id with
  | none => (.ended, streams)
  | some stream =>
      match stream.received with
      | oldest :: rest =>
          (.event oldest,
            { streams with
              held := streams.held.map fun other =>
                if other.id = id then { other with received := rest } else other })
      | [] => (if stream.live then .pending else .ended, streams)

end Streams

end RemoteDom
