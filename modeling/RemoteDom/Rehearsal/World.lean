import RemoteDom.Rehearsal.Perform

/-! The world of a rehearsal: tasks that take turns on a stage, in a time that passes only when nobody has
anything to do. Whoever is woken first runs first, and each runs until it has to wait; tasks that one task
starts side by side, and the one who waits for their end, come before the others. Timers go off by their
time and, of those for one moment, in the order in which they were set. -/

namespace RemoteDom.Rehearsal

inductive Runner where
  /-- Writes what is queued and handles what arrives at the client. -/
  | connection
  | browser
  /-- Forgets the sessions that the browser says are gone. -/
  | watcher
  /-- A frame that the browser sends later. -/
  | delivery (id : Nat)
  | task (id : Nat)
deriving DecidableEq, Repr

/-- What a task that does not run waits for. -/
inductive Waiting where
  | answer (command deadline limit : Nat)
  | time (goal : Nat) (until? : Option Nat)
  | attachTurn
  | place (ticket : Nat) (until? : Option Nat)
  | task (id : Nat)
deriving DecidableEq, Repr

inductive Progress where
  /-- The task runs or is about to; what it waited for last is kept. -/
  | going (waiting : Option Waiting) (rest : Acting Shown)
  | finished (shown : Shown)
  | cancelled

structure Task where
  id : Nat
  owner : Option Nat
  progress : Progress
  /-- Set when the task is to end at its next turn. -/
  aborting : Bool
  /-- How often the task holds the client. -/
  holds : Nat
  /-- Its tickets for the turnstile of tasks, the latest first. -/
  tickets : List Nat

structure Timer where
  time : Nat
  runner : Runner
deriving DecidableEq, Repr

structure World where
  stage : Stage
  now : Nat
  tasks : List Task
  /-- Those who are to run, the next one first. -/
  ready : List Runner
  /-- Timers in the order in which they go off. -/
  timers : List Timer
  /-- Frames to be sent later, with the time after which each is sent once its timer is set; zero if it
  is set. -/
  deliveries : List (Nat × Nat × Packet)
  /-- The next number for a task, a ticket or a delivery. -/
  nextId : Nat

def Task.fresh (id : Nat) (owner : Option Nat) (program : Acting Shown) : Task :=
  ⟨id, owner, .going none program, false, 0, []⟩

namespace World

def task? (world : World) (id : Nat) : Option Task := world.tasks.find? fun task => task.id == id

def changeTask (world : World) (id : Nat) (change : Task → Task) : World :=
  { world with tasks := world.tasks.map fun task => if task.id = id then change task else task }

def setProgress (world : World) (id : Nat) (progress : Progress) : World :=
  world.changeTask id fun task => { task with progress }

def wake (world : World) (runner : Runner) : World :=
  if world.ready.contains runner then world else { world with ready := world.ready ++ [runner] }

def wakeFirst (world : World) (runner : Runner) : World :=
  { world with ready := runner :: world.ready.erase runner }

/-- Sets a timer behind those that go off at the same time. -/
def setTimer (world : World) (time : Nat) (runner : Runner) : World :=
  { world with
    timers := world.timers.takeWhile (fun timer => timer.time ≤ time) ++ ⟨time, runner⟩
      :: world.timers.dropWhile (fun timer => timer.time ≤ time) }

def cancelTimers (world : World) (runner : Runner) : World :=
  { world with timers := world.timers.filter fun timer => timer.runner != runner }

def isOver (world : World) (id : Nat) : Bool :=
  match world.task? id with
  | some task =>
      match task.progress with
      | .going _ _ => false
      | _ => true
  | none => true

/-- Whether the connection is still of use to someone: the client is there, or one of its objects, or a task
is in the midst of using it. -/
def isUsed (world : World) : Bool :=
  world.stage.clientHeld || !world.stage.objects.isEmpty || world.tasks.any fun task => 0 < task.holds

/-- Whether what a task waits for has come. The time is left to its timer. -/
def hasCome (world : World) (id : Nat) : Waiting → Bool
  | .answer command _ _ => (world.stage.connection.answer? command).isSome
  | .time _ _ => false
  | .attachTurn => world.stage.attachTurn.hasNewsFor id
  | .place ticket _ => world.stage.places.hasNewsFor ticket
  | .task other => world.isOver other

def taskIsDue (world : World) (task : Task) : Bool :=
  match task.progress with
  | .going (some waiting) _ => world.hasCome task.id waiting
  | _ => false

def streamHasNews (stage : Stage) (id : Nat) : Bool :=
  match (stage.connection.streams.take id).1 with
  | .pending => false
  | _ => true

def isDue (world : World) : Runner → Bool
  | .connection =>
      world.stage.connected
        && (!world.stage.toClient.isEmpty || !world.stage.connection.queue.isEmpty
          || !world.isUsed)
  | .browser => world.stage.browsing && !world.stage.toBrowser.isEmpty
  | .watcher =>
      match world.stage.watched with
      | some (gone, destroyed) =>
          streamHasNews world.stage gone || streamHasNews world.stage destroyed
      | none => false
  | .delivery _ => false
  | .task id => (world.task? id).any world.taskIsDue

/-- Wakes all who have something to do, except the one who is running. -/
def notify (world : World) (running : Runner) : World :=
  let runners := [Runner.connection, .browser, .watcher] ++ world.tasks.map fun task => .task task.id
  runners.foldl (fun world runner =>
    if runner ≠ running && world.isDue runner then world.wake runner else world) world

/-! The connection. -/

/-- Handles one frame that has arrived or writes one that is queued. -/
def connectionStep (world : World) : World :=
  let stage := world.stage
  let stop (stage : Stage) : Stage :=
    { stage with connection := stage.connection.stop, connected := false, toClient := [] }
  let stage :=
    match stage.toClient with
    | .text text :: rest =>
        { stage with toClient := rest, connection := stage.connection.receive text }
    | .ignored :: rest => { stage with toClient := rest }
    | .ping :: rest => if stage.writable then { stage with toClient := rest } else stop stage
    | .close :: _ | .loss :: _ => stop stage
    | [] =>
        match stage.connection.dequeue with
        | some (.frame id text, connection) =>
            if stage.writable then
              { stage with connection, toBrowser := stage.toBrowser ++ [text] }
            else
              stop { stage with connection := connection.failWrite id "IO error: write refused" }
        | some (.shutdown, connection) => stop { stage with connection }
        | none => stop stage
  { world with stage }

def runConnection : Nat → World → World
  | 0, world => world
  | fuel + 1, world =>
      if world.isDue .connection then
        runConnection fuel ((connectionStep world).notify .connection)
      else world

/-! The browser. -/

/-- Sends a packet to the client, or stops if the socket goes with it. -/
def sendPacket (world : World) (packet : Packet) : World :=
  let browsing := world.stage.browsing && packet != .loss
  { world with
    stage := { world.stage.addPacket packet with browsing } }

def browserStep (world : World) : World :=
  match world.stage.toBrowser with
  | [] => world
  | text :: rest =>
      let request := (Json.read? text).getD .null
      let (turn, rules) := answer request world.stage.rules
      let stage := { world.stage with toBrowser := rest, rules, sent := request :: world.stage.sent }
      let world := turn.before.foldl (fun world frame => sendPacket world (.text frame))
        { world with stage }
      match turn.reply.packet? ((request.get? "id").getD .null) with
      | none => world
      | some packet =>
          if turn.pause = 0 then sendPacket world packet
          else
            let delayed : World :=
              { world with
                deliveries := (world.nextId, turn.pause, packet) :: world.deliveries
                nextId := world.nextId + 1 }
            delayed.wake (.delivery world.nextId)

def runBrowser : Nat → World → World
  | 0, world => world
  | fuel + 1, world =>
      if world.isDue .browser then runBrowser fuel ((browserStep world).notify .browser) else world

/-- Sets the timer of a frame that is sent later, or sends it when the timer has gone off. -/
def runDelivery (world : World) (id : Nat) : World :=
  match world.deliveries.lookup id with
  | none => world
  | some (delay, packet) =>
      let others := world.deliveries.filter fun delivery => delivery.1 != id
      if delay = 0 then
        if world.stage.browsing then sendPacket { world with deliveries := others } packet
        else { world with deliveries := others }
      else
        let waiting : World := { world with deliveries := (id, 0, packet) :: others }
        waiting.setTimer (world.now + delay) (.delivery id)

/-! The watcher. -/

def applyNotice (table : SessionTable) : Notice → SessionTable
  | .detached session _ => table.forget session
  | .destroyed target => table.forgetTarget target
  | _ => table

/-- Takes one event from the first of the watched streams that has one, or stops when one has ended. -/
def watcherStep (stage : Stage) : Stage :=
  match stage.watched with
  | none => stage
  | some (gone, destroyed) =>
      let after (event : Event) (streams : Streams) : Stage :=
        { setStreams stage streams with table := applyNotice stage.table event.notice }
      match stage.connection.streams.take gone with
      | (.event event, streams) => after event streams
      | (_, _) =>
          match stage.connection.streams.take destroyed with
          | (.event event, streams) => after event streams
          | (_, _) => { stage with watched := none }

def runWatcher : Nat → World → World
  | 0, world => world
  | fuel + 1, world =>
      if world.isDue .watcher then
        runWatcher fuel (({ world with stage := watcherStep world.stage } : World).notify .watcher)
      else world

/-! Tasks. -/

/-- How an attempt to act ends: with an answer, or with something to wait for. -/
inductive Attempt (α : Type) where
  | answered (answer : α) (world : World)
  | blocked (waiting : Waiting) (world : World)

def onStage (world : World) (stage : Stage) : World := { world with stage }

/-- Asks whether the answer to a command has come or its deadline has passed. -/
def awaitAnswer (world : World) (command deadline limit : Nat) (method : String) :
    Attempt (Except Error Json) :=
  let connection := world.stage.connection
  let given := world.onStage { world.stage with connection := connection.abandon command }
  match connection.answer? command with
  | some answer => .answered answer given
  | none =>
      if deadline ≤ world.now then .answered (.error (.requestTimeout command method limit)) given
      else .blocked (.answer command deadline limit) world

/-- Sends a command, or asks again for its answer. -/
def attemptSend (world : World) (self : Nat) (waiting : Option Waiting) (session : SessionId)
    (command : Command) (limit : Nat) : Attempt (Except Error Json) :=
  match waiting with
  | some (.answer id deadline limit) => world.awaitAnswer id deadline limit command.method
  | _ =>
      let (sent, connection) := world.stage.connection.send session command
      let world := (world.onStage { world.stage with connection }).notify (.task self)
      match sent with
      | .error error => .answered (.error error) world
      | .ok id =>
          match world.awaitAnswer id (world.now + limit) limit command.method with
          | .blocked waiting world =>
              .blocked waiting (world.setTimer (world.now + limit) (.task self))
          | answered => answered

/-- Lets time pass up to a goal; gives up at the moment given if the goal is later. -/
def attemptPause (world : World) (self : Nat) (waiting : Option Waiting) (milliseconds : Nat)
    (until? : Option Nat) : Attempt Bool :=
  let first := waiting.isNone
  let (goal, until?) :=
    match waiting with
    | some (.time goal until?) => (goal, until?)
    | _ => (world.now + milliseconds, until?)
  if goal ≤ world.now then .answered true world
  else
    match until? with
    | none =>
        .blocked (.time goal none) (if first then world.setTimer goal (.task self) else world)
    | some moment =>
        if moment ≤ world.now then .answered false world
        else
          .blocked (.time goal until?)
            (if first then world.setTimer (min goal moment) (.task self) else world)

def takeTicket (world : World) (self : Nat) : Nat × World :=
  let numbered : World := { world with nextId := world.nextId + 1 }
  (world.nextId,
    numbered.changeTask self fun task => { task with tickets := world.nextId :: task.tickets })

/-- Leaves the turnstile, or the line before it, and gives the ticket back. -/
def returnTicket (self : Nat) (world : World) (ticket : Nat) : World :=
  let left := world.onStage { world.stage with places := world.stage.places.leave ticket }
  (left.changeTask self fun task => { task with tickets := task.tickets.erase ticket }).notify
    (.task self)

/-- Tries to pass a turnstile; gives up at the moment given. -/
def attemptEnter (world : World) (self : Nat) (waiting : Option Waiting) (until? : Option Nat) :
    Attempt Entry :=
  let first := waiting.isNone
  let (ticket, world) :=
    match waiting with
    | some (.place ticket _) => (ticket, world)
    | _ => world.takeTicket self
  let (reply, places) :=
    if first then world.stage.places.arrive ticket else world.stage.places.ask ticket
  let world := world.onStage { world.stage with places }
  match reply with
  | .admitted => .answered (.admitted ticket) world
  | .refused => .answered .refused (world.returnTicket self ticket)
  | .wait =>
      match until? with
      | none => .blocked (.place ticket none) world
      | some moment =>
          if moment ≤ world.now then .answered .gaveUp (world.returnTicket self ticket)
          else
            .blocked (.place ticket until?)
              (if first then world.setTimer moment (.task self) else world)

def attemptAttachTurn (world : World) (self : Nat) (waiting : Option Waiting) : Attempt Unit :=
  let (reply, attachTurn) :=
    if waiting.isNone then world.stage.attachTurn.arrive self else world.stage.attachTurn.ask self
  let world := world.onStage { world.stage with attachTurn }
  match reply with
  | .wait => .blocked .attachTurn world
  | _ => .answered () world

def attemptClient (world : World) (self : Nat) (waiting : Option Waiting) :
    (act : Act) → Attempt act.Answer
  | .now => .answered world.now world
  | .sleep milliseconds =>
      match world.attemptPause self waiting milliseconds none with
      | .answered _ world => .answered () world
      | .blocked waiting world => .blocked waiting world
  | .request session command =>
      world.attemptSend self waiting session command world.stage.setting.deadline
  | .session id => .answered (world.stage.table.session? id) world
  | .sessionForTarget target => .answered (world.stage.table.forTarget? target) world
  | .enterAttach => world.attemptAttachTurn self waiting
  | .leaveAttach =>
      .answered () ((world.onStage
        { world.stage with attachTurn := world.stage.attachTurn.leave self }).notify (.task self))
  | .store session =>
      .answered () (world.onStage { world.stage with table := world.stage.table.store session })
  | .assign target id =>
      .answered () (world.onStage { world.stage with table := world.stage.table.assign target id })
  | .forget id =>
      .answered () (world.onStage { world.stage with table := world.stage.table.forget id })
  | .newMemo =>
      .answered (Memo.mk world.stage.nextMemo)
        (world.onStage { world.stage with nextMemo := world.stage.nextMemo + 1 })
  | .recall memo => .answered (world.stage.memos.lookup memo) world
  | .note memo backend =>
      .answered () (world.onStage
        { world.stage with memos := world.stage.memos ++ [(memo, backend)] })

def addTask (world : World) (owner : Option Nat) (program : Acting Shown) : Nat × World :=
  (world.nextId,
    { world with
      nextId := world.nextId + 1
      tasks := world.tasks ++ [.fresh world.nextId owner program] })

/-- Starts a task that is to run after all who are ready. -/
def startTask (world : World) (program : Acting Shown) : Nat × World :=
  let (id, world) := world.addTask none program
  (id, world.wake (.task id))

/-- Starts tasks that are to run in order before all who are ready. -/
def spreadTasks (owner : Nat) : List (Acting Shown) → World → List Nat × World
  | [], world => ([], world)
  | program :: rest, world =>
      let (id, world) := world.addTask (some owner) program
      let (ids, world) := spreadTasks owner rest world
      (id :: ids, world.wakeFirst (.task id))

def attempt (world : World) (self : Nat) (waiting : Option Waiting) :
    (act : StageAct) → Attempt act.Answer
  | .client act => world.attemptClient self waiting act
  | .send session command deadline =>
      world.attemptSend self waiting session command (deadline.getD world.stage.setting.deadline)
  | .change effect =>
      let (value, stage) := effect world.stage
      .answered value ((world.onStage stage).notify (.task self))
  | .enter until? => world.attemptEnter self waiting until?
  | .leave ticket => .answered () (world.returnTicket self ticket)
  | .hold => .answered () (world.changeTask self fun task => { task with holds := task.holds + 1 })
  | .letGo =>
      .answered ()
        ((world.changeTask self fun task => { task with holds := task.holds - 1 }).notify
          (.task self))
  | .pause milliseconds until? => world.attemptPause self waiting milliseconds until?
  | .spawn step =>
      let (id, world) := world.startTask (perform step)
      .answered id world
  | .spread steps =>
      let (ids, world) := spreadTasks self (steps.map perform) world
      .answered ids world
  | .join other =>
      match (world.task? other).map Task.progress with
      | some (.going _ _) => .blocked (.task other) world
      | some (.finished shown) => .answered (some shown) world
      | _ => .answered none world
  | .abort other =>
      if world.isOver other then .answered () world
      else
        let marked := world.changeTask other fun task => { task with aborting := true }
        .answered () (marked.wake (.task other))

/-- Ends a task. If its owner waits for it, the owner is next. -/
def finish (world : World) (self : Nat) (shown : Shown) : World :=
  let world := world.setProgress self (.finished shown)
  let world :=
    match (world.task? self).bind Task.owner with
    | some owner => if world.isDue (.task owner) then world.wakeFirst (.task owner) else world
    | none => world
  world.notify (.task self)

def proceed (self : Nat) (waiting : Option Waiting) : Acting Shown → World → World
  | .done shown, world => world.finish self shown
  | .act act next, world =>
      match world.attempt self waiting act with
      | .blocked waiting world => world.setProgress self (.going (some waiting) (.act act next))
      | .answered answer world =>
          proceed self none (next answer)
            (if waiting.isSome then world.cancelTimers (.task self) else world)

/-- Gives up what a task waits for and what it has, the latest first. -/
def release (world : World) (task : Task) (waiting : Option Waiting) : World :=
  let connection :=
    match waiting with
    | some (.answer command _ _) => world.stage.connection.abandon command
    | _ => world.stage.connection
  let attachTurn := world.stage.attachTurn.leave task.id
  let world := (world.onStage { world.stage with connection, attachTurn }).cancelTimers (.task task.id)
  (task.tickets.foldl (returnTicket task.id) world).changeTask task.id fun task =>
    { task with holds := 0 }

/-- Ends a task, after the tasks that it owns. -/
def cancel : Nat → Nat → World → World
  | 0, _, world => world
  | depth + 1, id, world =>
      match world.task? id with
      | none => world
      | some task =>
          match task.progress with
          | .going waiting _ =>
              let owned := (world.tasks.filter fun task => task.owner == some id).map Task.id
              let world := owned.foldl (fun world child => cancel depth child world) world
              ((world.release task waiting).setProgress id .cancelled).notify (.task id)
          | _ => world

def runTask (world : World) (id : Nat) : World :=
  match world.task? id with
  | none => world
  | some task =>
      match task.progress with
      | .going waiting rest =>
          if task.aborting then cancel world.tasks.length id world else proceed id waiting rest world
      | _ => world

/-! Time. -/

/-- More turns than any runner takes without waiting. -/
def turnFuel : Nat := 1 <<< 40

def runRunner (world : World) : Runner → World
  | .connection => runConnection turnFuel world
  | .browser => runBrowser turnFuel world
  | .watcher => runWatcher turnFuel world
  | .delivery id => (runDelivery world id).notify (.delivery id)
  | .task id => runTask world id

/-- Lets the first who is ready run, or moves on to the next timers; gives nothing when neither is left. -/
def advance (world : World) : Option World :=
  match world.ready with
  | runner :: ready => some (runRunner { world with ready } runner)
  | [] =>
      match world.timers with
      | [] => none
      | first :: _ =>
          let due := world.timers.takeWhile fun timer => timer.time ≤ first.time
          let timers := world.timers.dropWhile fun timer => timer.time ≤ first.time
          some (due.foldl (fun world timer => world.wake timer.runner)
            { world with now := max world.now first.time, timers })

/-- Goes on until the task is over. -/
def runUntilOver (id : Nat) : Nat → World → World
  | 0, world => world
  | fuel + 1, world =>
      if world.isOver id then world
      else
        match world.advance with
        | some world => runUntilOver id fuel world
        | none => world

/-- A world at time zero in which one task is ready to run. -/
def start (stage : Stage) (program : Acting Shown) : World where
  stage := stage
  now := 0
  tasks := [.fresh 0 none program]
  ready := [.task 0]
  timers := []
  deliveries := []
  nextId := 1

end World

/-- The reports on the steps of a rehearsal. -/
def reports (setting : Setting) (rules : List Rule) (steps : List Step) : List Report :=
  let world := World.start (.opening setting rules (max setting.places 1)) (rehearse steps)
  (world.runUntilOver 0 World.turnFuel).stage.reports.reverse

end RemoteDom.Rehearsal
