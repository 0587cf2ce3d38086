import RemoteDom.Connection.Basic

/-! The traffic on a shared connection: any number of calls and the connection's own loop, whose steps follow
one another in any order. A move that is not possible where it is made changes nothing. -/

namespace RemoteDom

inductive Phase where
  /-- Before it was asked whether the connection is closed. -/
  | entering
  | admitted
  | numbered (id : Nat)
  | reserved (id : Nat)
  /-- The frame is queued; the answer is waited for until the deadline. -/
  | waiting (id deadline : Nat)
  /-- The answer was looked for in vain; the deadline is looked at next. -/
  | watching (id deadline : Nat)
  /-- The outcome is certain, the slot is not yet given up. -/
  | leaving (id : Nat) (outcome : Except Error Json)
  | finished (id : Option Nat) (outcome : Except Error Json)
  /-- The caller went away. -/
  | dropped (id : Option Nat)

namespace Phase

def id? : Phase → Option Nat
  | .entering | .admitted => none
  | .numbered id | .reserved id | .waiting id _ | .watching id _ | .leaving id _ => some id
  | .finished id _ | .dropped id => id

/-- The number under which the call may still have a slot or an answer. -/
def holds? : Phase → Option Nat
  | .reserved id | .waiting id _ | .watching id _ | .leaving id _ => some id
  | _ => none

/-- The number under which the call must have a slot or an answer. -/
def awaits? : Phase → Option Nat
  | .reserved id | .waiting id _ | .watching id _ => some id
  | _ => none

def outcome? : Phase → Option (Option Nat × Except Error Json)
  | .leaving id outcome => some (some id, outcome)
  | .finished id outcome => some (id, outcome)
  | _ => none

def isOver : Phase → Bool
  | .finished _ _ | .dropped _ => true
  | _ => false

theorem id?_of_holds? {phase : Phase} {id : Nat} (holds : phase.holds? = some id) : phase.id? = some id := by
  cases phase <;> first | exact holds | cases holds

theorem holds?_of_awaits? {phase : Phase} {id : Nat} (awaits : phase.awaits? = some id) :
    phase.holds? = some id := by
  cases phase <;> first | exact awaits | cases awaits

theorem holds?_of_isOver {phase : Phase} (ended : phase.isOver = true) : phase.holds? = none := by
  cases phase <;> first | rfl | cases ended

end Phase

/-- A command that is sent, and how long its answer is waited for. -/
structure Call where
  session : SessionId
  command : Command
  limit : Nat
  phase : Phase

inductive CallMove where
  | proceed
  | drop
deriving DecidableEq, Repr

namespace Call

def slot (call : Call) (id : Nat) : Slot := ⟨id, call.command.method, call.session⟩

def frame (call : Call) (id : Nat) : Outgoing := .frame id (Request.text ⟨id, call.session, call.command⟩)

def lateness (call : Call) (id : Nat) : Except Error Json :=
  .error (.requestTimeout id call.command.method call.limit)

def proceed (call : Call) (now : Nat) (connection : Connection) : Phase × Connection :=
  match call.phase with
  | .entering =>
      (if connection.closed then .finished none (.error .connectionClosed) else .admitted, connection)
  | .admitted => (.numbered connection.allocate.1, connection.allocate.2)
  | .numbered id => (.reserved id, connection.reserve (call.slot id))
  | .reserved id =>
      match connection.enqueue (call.frame id) with
      | some queued => (.waiting id (now + call.limit), queued)
      | none => (.leaving id (.error .connectionClosed), connection)
  | .waiting id deadline =>
      match connection.answer? id with
      | some outcome => (.leaving id outcome, connection)
      | none => (.watching id deadline, connection)
  | .watching id deadline =>
      (if deadline ≤ now then .leaving id (call.lateness id) else .waiting id deadline, connection)
  | .leaving id outcome => (.finished (some id) outcome, connection.abandon id)
  | phase => (phase, connection)

/-- A caller that goes away gives up its slot, if it has one. -/
def drop (call : Call) (connection : Connection) : Phase × Connection :=
  match call.phase with
  | .entering | .admitted => (.dropped none, connection)
  | .numbered id => (.dropped (some id), connection)
  | .reserved id | .waiting id _ | .watching id _ => (.dropped (some id), connection.abandon id)
  | phase => (phase, connection)

def move (call : Call) (now : Nat) (connection : Connection) : CallMove → Phase × Connection
  | .proceed => call.proceed now connection
  | .drop => call.drop connection

def advance (call : Call) (now : Nat) (connection : Connection) : Nat → Call × Connection
  | 0 => (call, connection)
  | steps + 1 =>
      let (phase, connection) := call.proceed now connection
      { call with phase }.advance now connection steps

/-- A call whose frame is queued at once waits for the answer to it. -/
theorem advance_of_send {call : Call} {now id : Nat} {connection queued : Connection}
    (entering : call.phase = .entering)
    (sent : connection.send call.session call.command = (.ok id, queued)) :
    call.advance now connection 4 = ({ call with phase := .waiting id (now + call.limit) }, queued) := by
  unfold Connection.send at sent
  cases closed : connection.closed with
  | true => simp [closed] at sent
  | false =>
      simp only [closed, Bool.false_eq_true, if_false] at sent
      split at sent
      next later enqueued =>
        obtain ⟨same, rfl⟩ := Prod.mk.inj sent
        obtain rfl := Except.ok.inj same
        simp [advance, proceed, entering, closed, slot, frame, enqueued]
      next => cases sent

/-- A call that cannot be sent ends with the same error, and nothing of it is left. -/
theorem advance_of_send_error {call : Call} {now : Nat} {connection after : Connection} {error : Error}
    (entering : call.phase = .entering)
    (sent : connection.send call.session call.command = (.error error, after)) :
    ∃ given, call.advance now connection 5 =
      ({ call with phase := .finished given (.error error) }, after) := by
  unfold Connection.send at sent
  cases closed : connection.closed with
  | true =>
      simp only [closed, if_true, Prod.mk.injEq, Except.error.injEq] at sent
      obtain ⟨rfl, rfl⟩ := sent
      exact ⟨none, by simp [advance, proceed, entering, closed]⟩
  | false =>
      simp only [closed, Bool.false_eq_true, if_false] at sent
      split at sent
      next => cases sent
      next unqueued =>
        obtain ⟨same, rfl⟩ := Prod.mk.inj sent
        obtain rfl := Except.error.inj same
        exact ⟨some connection.allocate.1, by simp [advance, proceed, entering, closed, slot, frame, unqueued]⟩

end Call

inductive Stride (now : Nat) (connection : Connection) (call : Call) : Phase → Connection → Prop
  | idle : Stride now connection call call.phase connection
  | refused (phase : call.phase = .entering) (closed : connection.closed = true) :
      Stride now connection call (.finished none (.error .connectionClosed)) connection
  | admitted (phase : call.phase = .entering) (closed : connection.closed = false) :
      Stride now connection call .admitted connection
  | numbered (phase : call.phase = .admitted) :
      Stride now connection call (.numbered connection.nextId) connection.allocate.2
  | reserved {id : Nat} (phase : call.phase = .numbered id) :
      Stride now connection call (.reserved id) (connection.reserve (call.slot id))
  | queued {id : Nat} (phase : call.phase = .reserved id) (accepting : connection.accepting = true) :
      Stride now connection call (.waiting id (now + call.limit))
        { connection with queue := connection.queue ++ [call.frame id] }
  | unqueued {id : Nat} (phase : call.phase = .reserved id) (accepting : connection.accepting = false) :
      Stride now connection call (.leaving id (.error .connectionClosed)) connection
  | answered {id deadline : Nat} {outcome : Except Error Json} (phase : call.phase = .waiting id deadline)
      (answer : connection.answer? id = some outcome) :
      Stride now connection call (.leaving id outcome) connection
  | unanswered {id deadline : Nat} (phase : call.phase = .waiting id deadline)
      (answer : connection.answer? id = none) :
      Stride now connection call (.watching id deadline) connection
  | late {id deadline : Nat} (phase : call.phase = .watching id deadline) (passed : deadline ≤ now) :
      Stride now connection call (.leaving id (call.lateness id)) connection
  | early {id deadline : Nat} (phase : call.phase = .watching id deadline) (ahead : now < deadline) :
      Stride now connection call (.waiting id deadline) connection
  | finished {id : Nat} {outcome : Except Error Json} (phase : call.phase = .leaving id outcome) :
      Stride now connection call (.finished (some id) outcome) (connection.abandon id)
  | droppedFirst (phase : call.phase = .entering ∨ call.phase = .admitted) :
      Stride now connection call (.dropped none) connection
  | droppedNumbered {id : Nat} (phase : call.phase = .numbered id) :
      Stride now connection call (.dropped (some id)) connection
  | droppedAwaiting {id : Nat} (awaits : call.phase.awaits? = some id) :
      Stride now connection call (.dropped (some id)) (connection.abandon id)

theorem Call.stride_proceed (call : Call) (now : Nat) (connection : Connection) :
    Stride now connection call (call.proceed now connection).1 (call.proceed now connection).2 := by
  obtain ⟨session, command, limit, phase⟩ := call
  cases phase with
  | entering =>
      cases closed : connection.closed with
      | true => simpa [proceed, closed] using Stride.refused rfl closed
      | false => simpa [proceed, closed] using Stride.admitted rfl closed
  | admitted => exact .numbered rfl
  | numbered id => exact .reserved rfl
  | reserved id =>
      cases accepting : connection.accepting with
      | true => simpa [proceed, Connection.enqueue, accepting] using Stride.queued rfl accepting
      | false => simpa [proceed, Connection.enqueue, accepting] using Stride.unqueued rfl accepting
  | waiting id deadline =>
      cases answer : connection.answer? id with
      | some outcome => simpa [proceed, answer] using Stride.answered rfl answer
      | none => simpa [proceed, answer] using Stride.unanswered rfl answer
  | watching id deadline =>
      by_cases passed : deadline ≤ now
      · simpa [proceed, passed] using Stride.late rfl passed
      · simpa [proceed, passed] using Stride.early rfl (Nat.lt_of_not_le passed)
  | leaving id outcome => exact .finished rfl
  | finished | dropped => exact .idle

private theorem Call.stride_drop (call : Call) (now : Nat) (connection : Connection) :
    Stride now connection call (call.drop connection).1 (call.drop connection).2 := by
  obtain ⟨session, command, limit, phase⟩ := call
  cases phase with
  | entering => exact .droppedFirst (.inl rfl)
  | admitted => exact .droppedFirst (.inr rfl)
  | numbered id => exact .droppedNumbered rfl
  | reserved | waiting | watching => exact .droppedAwaiting rfl
  | leaving | finished | dropped => exact .idle

theorem Call.stride_move (call : Call) (now : Nat) (connection : Connection) (own : CallMove) :
    Stride now connection call (call.move now connection own).1 (call.move now connection own).2 := by
  cases own with
  | proceed => exact call.stride_proceed now connection
  | drop => exact call.stride_drop now connection

inductive Loop where
  | listening
  /-- A frame was taken from the queue and is being written. -/
  | writing (id : Nat)
  /-- It has come out of its loop; its four last steps follow. -/
  | left
  | marked
  | shut
  | drained
  | gone
deriving DecidableEq, Repr

/-- The steps of the connection's own loop. It leaves when the socket is closed, fails or ends, or when nobody
can send any more. -/
inductive LoopMove where
  | receive (text : String)
  | beginWrite
  | endWrite
  | failWrite (reason : String)
  | leave
  | exit
deriving DecidableEq, Repr

namespace Loop

def hasLeft : Loop → Bool
  | .listening | .writing _ => false
  | _ => true

def isMarked : Loop → Bool
  | .marked | .shut | .drained | .gone => true
  | _ => false

def isShut : Loop → Bool
  | .shut | .drained | .gone => true
  | _ => false

def isDrained : Loop → Bool
  | .drained | .gone => true
  | _ => false

def move (loop : Loop) (connection : Connection) (step : LoopMove) : Loop × Connection :=
  match loop, step with
  | .listening, .receive text => (.listening, connection.receive text)
  | .listening, .beginWrite =>
      match connection.dequeue with
      | some (.frame id _, rest) => (.writing id, rest)
      | some (.shutdown, rest) => (.left, rest)
      | none => (.listening, connection)
  | .listening, .leave => (.left, connection)
  | .writing _, .endWrite => (.listening, connection)
  | .writing id, .failWrite reason => (.left, connection.failWrite id reason)
  | .left, .exit => (.marked, connection.markClosed)
  | .marked, .exit => (.shut, connection.closeQueue)
  | .shut, .exit => (.drained, connection.failPending)
  | .drained, .exit => (.gone, connection.endStreams)
  | _, _ => (loop, connection)

end Loop

inductive Move where
  | start (session : SessionId) (command : Command) (limit : Nat)
  | call (place : Nat) (step : CallMove)
  | loop (step : LoopMove)
  /-- Someone asks the connection to stop. -/
  | shutdown
  | subscribe (method : String) (session : Option SessionId)
  | takeEvent (stream : Nat)
  | dropStream (stream : Nat)
  | pass (milliseconds : Nat)
deriving DecidableEq, Repr

structure Traffic where
  connection : Connection
  calls : List Call
  loop : Loop
  now : Nat

namespace Traffic

def opening : Traffic := ⟨.fresh, [], .listening, 0⟩

def withStreams (traffic : Traffic) (streams : Streams) : Traffic :=
  { traffic with connection := { traffic.connection with streams } }

def step (traffic : Traffic) : Move → Traffic
  | .start session command limit =>
      { traffic with calls := traffic.calls ++ [⟨session, command, limit, .entering⟩] }
  | .call place own =>
      match traffic.calls[place]? with
      | some call =>
          let (phase, connection) := call.move traffic.now traffic.connection own
          { traffic with connection, calls := traffic.calls.set place { call with phase } }
      | none => traffic
  | .loop own =>
      let (loop, connection) := traffic.loop.move traffic.connection own
      { traffic with connection, loop }
  | .shutdown =>
      { traffic with connection := (traffic.connection.enqueue .shutdown).getD traffic.connection }
  | .subscribe method session =>
      traffic.withStreams (traffic.connection.streams.subscribe method session).2
  | .takeEvent stream => traffic.withStreams (traffic.connection.streams.take stream).2
  | .dropStream stream => traffic.withStreams (traffic.connection.streams.drop stream)
  | .pass milliseconds => { traffic with now := traffic.now + milliseconds }

def runFrom (traffic : Traffic) (moves : List Move) : Traffic := moves.foldl step traffic

def run (moves : List Move) : Traffic := opening.runFrom moves

@[simp]
theorem runFrom_nil (traffic : Traffic) : traffic.runFrom [] = traffic := rfl

@[simp]
theorem runFrom_cons (traffic : Traffic) (move : Move) (rest : List Move) :
    traffic.runFrom (move :: rest) = (traffic.step move).runFrom rest := rfl

@[simp]
theorem run_nil : run [] = opening := rfl

theorem run_append (moves more : List Move) : run (moves ++ more) = (run moves).runFrom more :=
  List.foldl_append

/-- The last steps of the loop, taken together, are what a connection does that stops. -/
theorem runFrom_exits {traffic : Traffic} (left : traffic.loop = .left) :
    traffic.runFrom (List.replicate 4 (.loop .exit)) =
      { traffic with connection := traffic.connection.stop, loop := .gone } := by
  obtain ⟨connection, calls, loop, now⟩ := traffic
  subst left
  rfl

theorem run_snoc (moves : List Move) (move : Move) : run (moves ++ [move]) = (run moves).step move :=
  run_append moves [move]

end Traffic

end RemoteDom
