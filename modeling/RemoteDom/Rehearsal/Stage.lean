import RemoteDom.Connection.Basic
import RemoteDom.Rehearsal.Shown
import RemoteDom.Rehearsal.Step
import RemoteDom.Turnstile

/-! The stage of a rehearsal: the state of the client, of its connection and of the browser, and the acts
that tasks perform on it. -/

namespace RemoteDom.Rehearsal

structure Setting where
  /-- How long a command may take, in milliseconds. -/
  deadline : Nat
  patience : Patience
  /-- How many tasks may run at once. -/
  places : Nat
deriving DecidableEq, Repr

structure Stage where
  setting : Setting
  connection : Connection
  /-- Whether the connection still reads and writes. -/
  connected : Bool
  /-- Whether what the connection writes reaches the browser. -/
  writable : Bool
  table : SessionTable
  attachTurn : Turnstile
  places : Turnstile
  memos : List (Memo × BackendId)
  nextMemo : Nat
  rules : List Rule
  /-- Requests on their way to the browser. -/
  toBrowser : List String
  /-- Whether the browser still reads and writes. -/
  browsing : Bool
  toClient : List Packet
  /-- Requests that reached the browser since the last report. -/
  sent : List Json
  /-- The streams that tell of sessions and targets that go. -/
  watched : Option (Nat × Nat)
  clientHeld : Bool
  objects : List (String × Object)
  streams : List (String × Nat)
  tasks : List (String × Nat)
  reports : List Report

namespace Stage

/-- The stage before the first step, with the client's own two streams. -/
def opening (setting : Setting) (rules : List Rule) (places : Nat) : Stage :=
  let (gone, streams) := Streams.empty.subscribe Event.detachedMethod none
  let (destroyed, streams) := streams.subscribe Event.destroyedMethod none
  { setting, rules
    connection := { Connection.fresh with streams }
    connected := true
    writable := true
    table := .empty
    attachTurn := .ofPlaces 1
    places := .ofPlaces places
    memos := []
    nextMemo := 0
    toBrowser := []
    browsing := true
    toClient := []
    sent := []
    watched := some (gone, destroyed)
    clientHeld := true
    objects := []
    streams := []
    tasks := []
    reports := [] }

def ownPage (stage : Stage) : Page :=
  ⟨{ session := .topLevel, patience := stage.setting.patience }, none⟩

/-- The object of that name; `page` is the client's own page. -/
def object? (stage : Stage) (name : String) : Option Object :=
  if name = "page" then if stage.clientHeld then some (.page stage.ownPage) else none
  else stage.objects.lookup name

def keep (stage : Stage) (name : String) (object : Object) : Stage :=
  { stage with objects := (name, object) :: stage.objects }

def keepAll (stage : Stage) (name : String) (objects : List Object) : Stage :=
  objects.zipIdx.foldl (fun stage entry => stage.keep (name ++ toString entry.2) entry.1) stage

def addPacket (stage : Stage) (packet : Packet) : Stage :=
  { stage with toClient := stage.toClient ++ [packet] }

/-- Pending commands, sessions and whether the connection is closed; nothing without a client. -/
def state (stage : Stage) : Option (Nat × Nat × Bool) :=
  if stage.clientHeld then
    some (stage.connection.pendingCount, stage.table.size, stage.connection.closed)
  else none

def report (stage : Stage) (result : Shown) (time : Nat) : Stage :=
  { stage with
    sent := []
    reports := ⟨result, time, stage.sent.reverse, stage.state⟩ :: stage.reports }

end Stage

inductive Entry where
  /-- Let in with a ticket, which is given back by leaving. -/
  | admitted (ticket : Nat)
  | refused
  | gaveUp
deriving DecidableEq, Repr

inductive StageAct : Type 1 where
  | client (act : Act)
  /-- Sends a command with a deadline of its own or the usual one. -/
  | send (session : SessionId) (command : Command) (deadline : Option Nat)
  /-- Changes the stage at once. -/
  | change {α : Type} (effect : Stage → α × Stage)
  /-- Waits for a place, but not beyond the moment given. -/
  | enter (until? : Option Nat)
  | leave (ticket : Nat)
  /-- Makes use of the client, which keeps the connection open, until it is let go as often. -/
  | hold
  | letGo
  /-- Lets time pass, but not beyond the moment given. -/
  | pause (milliseconds : Nat) (until? : Option Nat)
  /-- Starts a step as a task of its own, which waits for its turn. -/
  | spawn (step : Step)
  /-- Starts steps side by side as tasks that end with the one who starts them. They are next, in order. -/
  | spread (steps : List Step)
  | join (task : Nat)
  | abort (task : Nat)

abbrev StageAct.Answer : StageAct → Type
  | .client act => act.Answer
  | .send _ _ _ => Except Error Json
  | @StageAct.change α _ => α
  | .enter _ => Entry
  | .leave _ => Unit
  | .hold | .letGo => Unit
  | .pause _ _ => Bool
  | .spawn _ => Nat
  | .spread _ => List Nat
  | .join _ => Option Shown
  | .abort _ => Unit

abbrev Acting := Program StageAct.Answer

namespace Acting

def change {α : Type} (effect : Stage → α × Stage) : Acting α := .act (.change effect) .done

def modify (effect : Stage → Stage) : Acting Unit := change fun stage => ((), effect stage)

def read {α : Type} (view : Stage → α) : Acting α := change fun stage => (view stage, stage)

def now : Acting Nat := .act (.client .now) .done

/-- Holds the client while something is done. -/
def holding {α : Type} (acting : Acting α) : Acting α := do
  .act .hold fun _ => .done ()
  let value ← acting
  .act .letGo fun _ => .done value

def sleep (milliseconds : Nat) : Acting Unit :=
  .act (.pause milliseconds none) fun _ => .done ()

def browse {α : Type} (operation : Browsing α) : Acting (Except Error α) :=
  operation.run.within .client fun _ answer => answer

end Acting

end RemoteDom.Rehearsal
