import RemoteDom.Proofs.Program.Weaving
import Mathlib.Logic.Relation

/-! What the tasks of a world share and how each of them stands, apart from who runs when. All that a world does to
it is one of a few shifts. -/

namespace RemoteDom

namespace Rehearsal

/-- The command whose answer is waited for. -/
def Waiting.command? : Waiting → Option Nat
  | .answer id _ _ => some id
  | _ => none

/-- How a task stands. Only one runs at a time. -/
inductive Standing where
  | ready (program : Acting Shown)
  | running (program : Acting Shown)
  | blocked (waiting : Waiting) (program : Acting Shown)
  | over

namespace Standing

/-- A task that runs, or asks again for what it waits for. -/
def going : Option Waiting → Acting Shown → Standing
  | none, program => .running program
  | some waiting, program => .blocked waiting program

def program? : Standing → Option (Acting Shown)
  | .ready program | .running program | .blocked _ program => some program
  | .over => none

/-- The task is to go on, but does not run. -/
def rests : Standing → Bool
  | .ready _ | .blocked _ _ => true
  | _ => false

/-- The connection once the task does not wait any more. -/
def released (connection : Connection) : Standing → Connection
  | .blocked (.answer command _ _) _ => connection.abandon command
  | _ => connection

@[simp]
theorem program?_going (waiting : Option Waiting) (program : Acting Shown) :
    (going waiting program).program? = some program := by
  cases waiting <;> rfl

end Standing

def Progress.standing : Progress → Standing
  | .going none program => .ready program
  | .going (some waiting) program => .blocked waiting program
  | .finished _ | .cancelled => .over

/-- What tasks share, and how each of them stands. -/
structure Scene where
  connection : Connection
  connected : Bool
  now : Nat
  table : SessionTable
  attachTurn : Turnstile
  places : Turnstile
  /-- All tasks, each with its owner. -/
  kin : List (Nat × Option Nat)
  standing : Nat → Standing
  nextId : Nat

/-- What a program may do at once to the connection and to the turnstile of tasks. -/
inductive Touch (connection : Connection) (places : Turnstile) : Connection → Turnstile → Prop
  | subscribed (method : String) (session : Option SessionId) :
      Touch connection places { connection with streams := (connection.streams.subscribe method session).2 } places
  | took (stream : Nat) :
      Touch connection places { connection with streams := (connection.streams.take stream).2 } places
  | dropped (stream : Nat) :
      Touch connection places { connection with streams := connection.streams.drop stream } places
  | shutDown : Touch connection places ((connection.enqueue .shutdown).getD connection) places
  | closed : Touch connection places connection places.close

abbrev Touches : Connection × Turnstile → Connection × Turnstile → Prop :=
  Relation.ReflTransGen fun before after => Touch before.1 before.2 after.1 after.2

/-- The sessions and the turn to attach are left alone, and the rest is only touched. -/
structure Stage.Tame (before after : Stage) : Prop where
  table : after.table = before.table
  attachTurn : after.attachTurn = before.attachTurn
  connected : after.connected = before.connected
  touches : Touches (before.connection, before.places) (after.connection, after.places)

def StageAct.Tame : StageAct → Prop
  | .change effect => ∀ stage, Stage.Tame stage (effect stage).2
  | _ => True

/-- The act neither sends a command nor concerns the sessions. -/
def StageAct.isApart : StageAct → Bool
  | .client (.request _ _) | .send _ _ _ => false
  | .client act => !act.aboutSessions
  | _ => true

/-- The program sends a command next, and goes on with what comes of it. -/
inductive Sends (session : SessionId) (command : Command) :
    Acting Shown → (Except Error Json → Acting Shown) → Prop
  | request (next : Except Error Json → Acting Shown) :
      Sends session command (.act (.client (.request session command)) next) next
  | send (deadline : Option Nat) (next : Except Error Json → Acting Shown) :
      Sends session command (.act (.send session command deadline) next) next

/-- The state in which a connection stops: as it is, or after the request to stop, or after a frame that could not be
written. -/
inductive Parting (connection : Connection) : Connection → Prop
  | plain : Parting connection connection
  | asked {later : Connection} (next : connection.dequeue = some (.shutdown, later)) : Parting connection later
  | failed {id : Nat} {text : String} {later : Connection} (reason : String)
      (next : connection.dequeue = some (.frame id text, later)) : Parting connection (later.failWrite id reason)

namespace Scene

def put (scene : Scene) (id : Nat) (standing : Standing) : Scene :=
  { scene with standing := fun other => if other = id then standing else scene.standing other }

def sessions (scene : Scene) : Sessions := ⟨scene.table, scene.attachTurn, []⟩

end Scene

/-- All that can happen to what tasks share and to how they stand. -/
inductive Shift (scene : Scene) : Scene → Prop
  | received (connected : scene.connected = true) (text : String) :
      Shift scene { scene with connection := scene.connection.receive text }
  | wrote (connected : scene.connected = true) {id : Nat} {text : String} {later : Connection}
      (next : scene.connection.dequeue = some (.frame id text, later)) :
      Shift scene { scene with connection := later }
  | stopped (connected : scene.connected = true) {last : Connection} (parting : Parting scene.connection last) :
      Shift scene { scene with connection := last.stop, connected := false }
  | heeded {stream : Nat} {event : Event} {streams : Streams}
      (taken : scene.connection.streams.take stream = (.event event, streams)) :
      Shift scene { scene with
        connection := { scene.connection with streams }
        table := World.applyNotice scene.table event.notice }
  | touched {connection : Connection} {places : Turnstile}
      (touch : Touch scene.connection scene.places connection places) :
      Shift scene { scene with connection, places }
  | passed {time : Nat} (later : scene.now ≤ time) : Shift scene { scene with now := time }
  | numbered : Shift scene { scene with nextId := scene.nextId + 1 }
  | arrived :
      Shift scene { scene with places := (scene.places.arrive scene.nextId).2, nextId := scene.nextId + 1 }
  | asked (ticket : Nat) : Shift scene { scene with places := (scene.places.ask ticket).2 }
  | left (ticket : Nat) : Shift scene { scene with places := scene.places.leave ticket }
  | started {owner : Option Nat} (older : ∀ id ∈ owner, id < scene.nextId)
      (new : scene.standing scene.nextId = .over) (step : Step) :
      Shift scene { scene.put scene.nextId (.ready (perform step)) with
        kin := scene.kin ++ [(scene.nextId, owner)], nextId := scene.nextId + 1 }
  | begun {self : Nat} {program : Acting Shown} (stands : scene.standing self = .ready program) :
      Shift scene (scene.put self (.running program))
  | went {self : Nat} {waiting : Option Waiting} {act : StageAct} {next : act.Answer → Acting Shown}
      (stands : scene.standing self = .going waiting (.act act next)) (apart : act.isApart = true)
      (answer : act.Answer) : Shift scene (scene.put self (.running (next answer)))
  | rested {self : Nat} {waiting : Option Waiting} {act : StageAct} {next : act.Answer → Acting Shown}
      (stands : scene.standing self = .going waiting (.act act next)) (apart : act.isApart = true)
      {goal : Waiting} (idle : goal.command? = none) :
      Shift scene (scene.put self (.blocked goal (.act act next)))
  | sent {self : Nat} {waiting : Option Waiting} {program : Acting Shown} {next : Except Error Json → Acting Shown}
      {session : SessionId} {command : Command} (stands : scene.standing self = .going waiting program)
      (sends : Sends session command program next) (limit : Nat) {id : Nat} {later : Connection}
      (queued : scene.connection.send session command = (.ok id, later)) :
      Shift scene { scene.put self (.blocked (.answer id (scene.now + limit) limit) program) with connection := later }
  | unsent {self : Nat} {waiting : Option Waiting} {program : Acting Shown} {next : Except Error Json → Acting Shown}
      {session : SessionId} {command : Command} (stands : scene.standing self = .going waiting program)
      (sends : Sends session command program next) (limit : Nat) {error : Error} {later : Connection}
      (refused : scene.connection.send session command = (.error error, later)) :
      Shift scene { scene.put self (.running (next (.error error))) with connection := later }
  | answered {self id deadline limit : Nat} {program : Acting Shown} {next : Except Error Json → Acting Shown}
      {session : SessionId} {command : Command}
      (stands : scene.standing self = .blocked (.answer id deadline limit) program)
      (sends : Sends session command program next) {outcome : Except Error Json}
      (answer : scene.connection.answer? id = some outcome) :
      Shift scene { scene.put self (.running (next outcome)) with connection := scene.connection.abandon id }
  | late {self id deadline limit : Nat} {program : Acting Shown} {next : Except Error Json → Acting Shown}
      {session : SessionId} {command : Command}
      (stands : scene.standing self = .blocked (.answer id deadline limit) program)
      (sends : Sends session command program next) (nothing : scene.connection.answer? id = none)
      (past : deadline ≤ scene.now) :
      Shift scene { scene.put self (.running (next (.error (.requestTimeout id command.method limit)))) with
        connection := scene.connection.abandon id }
  | minded {self : Nat} {waiting : Option Waiting} {act : Act} {next : act.Answer → Acting Shown}
      (stands : scene.standing self = .going waiting (.act (.client act) next)) (about : act.aboutSessions = true)
      {answer : act.Answer} {later : Sessions}
      (tried : scene.sessions.attempt self waiting.isSome act = (some answer, later)) :
      Shift scene { scene.put self (.running (next answer)) with table := later.table, attachTurn := later.turn }
  | queued {self : Nat} {waiting : Option Waiting} {act : Act} {next : act.Answer → Acting Shown}
      (stands : scene.standing self = .going waiting (.act (.client act) next)) (about : act.aboutSessions = true)
      {later : Sessions} (tried : scene.sessions.attempt self waiting.isSome act = (none, later)) :
      Shift scene { scene.put self (.blocked .attachTurn (.act (.client act) next)) with
        table := later.table, attachTurn := later.turn }
  | finished {self : Nat} {waiting : Option Waiting} {shown : Shown}
      (stands : scene.standing self = .going waiting (.done shown)) :
      Shift scene (scene.put self .over)
  | cancelled {self : Nat} (rests : (scene.standing self).rests = true) :
      Shift scene { scene.put self .over with
        connection := (scene.standing self).released scene.connection
        attachTurn := scene.attachTurn.leave self }

abbrev Course : Scene → Scene → Prop := Relation.ReflTransGen Shift

namespace World

def kin (world : World) : List (Nat × Option Nat) := world.tasks.map fun task => (task.id, task.owner)

def standing (world : World) (id : Nat) : Standing :=
  ((world.task? id).map fun task => task.progress.standing).getD .over

def scene (world : World) : Scene where
  connection := world.stage.connection
  connected := world.stage.connected
  now := world.now
  table := world.stage.table
  attachTurn := world.stage.attachTurn
  places := world.stage.places
  kin := world.kin
  standing := world.standing
  nextId := world.nextId

end World

namespace Scene

/-- Numbers are new when they are given out, so a task is younger than its owner, and all programs are tame. -/
structure Orderly (scene : Scene) : Prop where
  younger : ∀ id owner, (id, owner) ∈ scene.kin → id < scene.nextId ∧ ∀ older ∈ owner, older < id
  tame : ∀ id program, (scene.standing id).program? = some program → program.Every StageAct.Tame

variable {scene : Scene} {self : Nat} {standing other : Standing}

@[simp]
theorem standing_put : (scene.put self standing).standing self = standing := if_pos rfl

@[simp]
theorem put_put : (scene.put self standing).put self other = scene.put self other := by
  simp only [put, mk.injEq, true_and, and_true]
  funext id
  split <;> rfl

theorem put_comm {first second : Nat} (apart : first ≠ second) :
    (scene.put first standing).put second other = (scene.put second other).put first standing := by
  simp only [put, mk.injEq, true_and, and_true]
  funext id
  by_cases is : id = second
  · simp [is, apart.symm]
  · simp [is]

theorem put_of_standing (stands : scene.standing self = standing) : scene.put self standing = scene := by
  have same : (fun id => if id = self then standing else scene.standing id) = scene.standing := by
    funext id
    split
    next is => rw [is, stands]
    next => rfl
  simp only [put, same]

end Scene

namespace World

variable {world : World}

/-! Who runs when is no matter for the scene. -/

@[simp]
theorem scene_wake (world : World) (runner : Runner) : (world.wake runner).scene = world.scene := by
  unfold wake
  split <;> rfl

@[simp]
theorem scene_wakeFirst (world : World) (runner : Runner) : (world.wakeFirst runner).scene = world.scene := rfl

@[simp]
theorem scene_setTimer (world : World) (time : Nat) (runner : Runner) :
    (world.setTimer time runner).scene = world.scene := rfl

@[simp]
theorem scene_cancelTimers (world : World) (runner : Runner) : (world.cancelTimers runner).scene = world.scene := rfl

@[simp]
theorem scene_notify (world : World) (running : Runner) : (world.notify running).scene = world.scene := by
  unfold notify
  generalize [Runner.connection, .browser, .watcher] ++ world.tasks.map (fun task => .task task.id) = runners
  induction runners generalizing world with
  | nil => rfl
  | cons runner runners ih =>
      rw [List.foldl_cons, ih]
      split
      · exact world.scene_wake runner
      · rfl

private theorem task?_changeTask (world : World) (id other : Nat) {change : Task → Task}
    (same : ∀ task, (change task).id = task.id) :
    (world.changeTask id change).task? other =
      (world.task? other).map fun task => if task.id = id then change task else task := by
  have sought : ((fun task => task.id == other) ∘ fun task => if task.id = id then change task else task) =
      fun task : Task => task.id == other := by
    funext task
    rw [Function.comp_apply]
    split
    · rw [same]
    · rfl
  unfold changeTask task?
  rw [List.find?_map, sought]

theorem id_of_task? {id : Nat} {task : Task} (found : world.task? id = some task) : task.id = id := by
  simpa using List.find?_some found

theorem mem_kin_of_task? {id : Nat} {task : Task} (found : world.task? id = some task) :
    (id, task.owner) ∈ world.kin :=
  List.mem_map.mpr ⟨task, List.mem_of_find?_eq_some found, by rw [id_of_task? found]⟩

theorem standing_of_task? {id : Nat} {task : Task} (found : world.task? id = some task) :
    world.standing id = task.progress.standing := by
  simp [World.standing, found]

@[simp]
theorem scene_changeTask (world : World) (id : Nat) {change : Task → Task}
    (same : ∀ task, ((change task).id, (change task).owner, (change task).progress) =
      (task.id, task.owner, task.progress)) :
    (world.changeTask id change).scene = world.scene := by
  have parts (task : Task) := Prod.mk.inj (same task)
  have kin : (world.changeTask id change).kin = world.kin := by
    unfold kin changeTask
    rw [List.map_map]
    refine List.map_congr_left fun task _ => ?_
    show ((if task.id = id then change task else task).id, (if task.id = id then change task else task).owner) = _
    split
    · rw [(parts task).1, (Prod.mk.inj (parts task).2).1]
    · rfl
  have standing : (world.changeTask id change).standing = world.standing := by
    funext other
    unfold World.standing
    rw [task?_changeTask _ _ _ fun task => (parts task).1, Option.map_map]
    congr 2
    funext task
    show (if task.id = id then change task else task).progress.standing = _
    split
    · rw [(Prod.mk.inj (parts task).2).2]
    · rfl
  unfold scene
  rw [kin, standing]
  rfl

theorem scene_setProgress {id : Nat} {owner : Option Nat} (known : (id, owner) ∈ world.kin) (progress : Progress) :
    (world.setProgress id progress).scene = world.scene.put id progress.standing := by
  obtain ⟨task, member, same⟩ := List.mem_map.mp known
  obtain ⟨found, there⟩ : ∃ found, world.task? id = some found :=
    Option.isSome_iff_exists.mp (List.find?_isSome.mpr ⟨task, member, by simp [(Prod.mk.inj same).1]⟩)
  have kin : (world.setProgress id progress).kin = world.kin := by
    unfold kin setProgress changeTask
    rw [List.map_map]
    refine List.map_congr_left fun task _ => ?_
    show ((if task.id = id then { task with progress } else task).id,
      (if task.id = id then { task with progress } else task).owner) = _
    split <;> rfl
  have standing : (world.setProgress id progress).standing = (world.scene.put id progress.standing).standing := by
    funext other
    unfold World.standing setProgress
    rw [task?_changeTask world id other (fun _ => rfl : ∀ task : Task, ({ task with progress } : Task).id = task.id)]
    show _ = if other = id then progress.standing else world.standing other
    split
    next is => simp [is, there, id_of_task? there]
    next apart =>
      unfold World.standing
      cases seen : world.task? other with
      | none => rfl
      | some task =>
          have away : task.id ≠ id := id_of_task? seen ▸ apart
          simp [away]
  unfold scene
  rw [kin, standing]
  rfl

end World

end Rehearsal

end RemoteDom
