import RemoteDom.Client.Sessions
import RemoteDom.Rehearsal.World

/-! Callers that attach and detach side by side. Each runs the program of its call, one act at a time, and between
two acts of one all others may act, answers may come, callers may be abandoned while they wait, and the browser may
say that sessions are gone. -/

namespace RemoteDom

inductive Errand where
  | attach (target : TargetId) (parent : SessionId)
  | detach (id : SessionId)
deriving DecidableEq, Repr

/-- The program of a call. An attach gives a session. -/
def Errand.program : Errand → ClientProgram (Except Error (Option Session))
  | .attach target parent => (some <$> Browsing.attach target parent).run
  | .detach id => ((fun _ => none) <$> Browsing.detach id).run

structure Caller where
  errand : Errand
  /-- What is left of its program. -/
  rest : ClientProgram (Except Error (Option Session))
  /-- It stands in line, or its request is under way. -/
  waits : Bool
  /-- It was abandoned. -/
  gone : Bool

/-- The sessions of a client, the turn to attach, and all who ever called, each known by its place. -/
structure Sessions where
  table : SessionTable
  turn : Turnstile
  callers : List Caller

inductive SessionMove where
  | call (errand : Errand)
  /-- The caller tries its next act. -/
  | proceed (place : Nat)
  /-- The request of the caller comes to an end: with an answer, with a refusal, or without either in time. -/
  | answer (place : Nat) (outcome : Except Error Json)
  | abandon (place : Nat)
  /-- An event is heard, perhaps that a session or a target is gone. -/
  | event (event : Event)

namespace Sessions

def opening : Sessions := ⟨.empty, .ofPlaces 1, []⟩

/-- Tries an act of the caller of that place; there is no answer as long as it has to wait. -/
def attempt (sessions : Sessions) (place : Nat) (waits : Bool) : (act : Act) → Option act.Answer × Sessions
  | .session id => (some (sessions.table.session? id), sessions)
  | .sessionForTarget target => (some (sessions.table.forTarget? target), sessions)
  | .enterAttach =>
      let (reply, turn) := if waits then sessions.turn.ask place else sessions.turn.arrive place
      (if reply = .wait then none else some (), { sessions with turn })
  | .leaveAttach => (some (), { sessions with turn := sessions.turn.leave place })
  | .store session => (some (), { sessions with table := sessions.table.store session })
  | .assign target id => (some (), { sessions with table := sessions.table.assign target id })
  | .forget id => (some (), { sessions with table := sessions.table.forget id })
  | _ => (none, sessions)

/-- The caller of that place unless it was abandoned. -/
def live? (sessions : Sessions) (place : Nat) : Option Caller :=
  sessions.callers[place]?.filter fun caller => !caller.gone

def put (sessions : Sessions) (place : Nat) (caller : Caller) : Sessions :=
  { sessions with callers := sessions.callers.set place caller }

def step (sessions : Sessions) : SessionMove → Sessions
  | .call errand => { sessions with callers := sessions.callers ++ [⟨errand, errand.program, false, false⟩] }
  | .proceed place =>
      match sessions.live? place with
      | some ⟨errand, .act act next, waits, _⟩ =>
          match sessions.attempt place waits act with
          | (some answer, later) => later.put place ⟨errand, next answer, false, false⟩
          | (none, later) => later.put place ⟨errand, .act act next, true, false⟩
      | _ => sessions
  | .answer place outcome =>
      match sessions.live? place with
      | some ⟨errand, .act (.request _ _) next, true, _⟩ => sessions.put place ⟨errand, next outcome, false, false⟩
      | _ => sessions
  | .abandon place =>
      match sessions.live? place with
      | some ⟨errand, rest, true, _⟩ =>
          ({ sessions with turn := sessions.turn.leave place }).put place ⟨errand, rest, true, true⟩
      | _ => sessions
  | .event event => { sessions with table := Rehearsal.World.applyNotice sessions.table event.notice }

def runFrom (sessions : Sessions) (moves : List SessionMove) : Sessions := moves.foldl step sessions

def run (moves : List SessionMove) : Sessions := opening.runFrom moves

@[simp]
theorem runFrom_nil (sessions : Sessions) : sessions.runFrom [] = sessions := rfl

@[simp]
theorem runFrom_cons (sessions : Sessions) (move : SessionMove) (moves : List SessionMove) :
    sessions.runFrom (move :: moves) = (sessions.step move).runFrom moves := rfl

theorem runFrom_append (sessions : Sessions) (first second : List SessionMove) :
    sessions.runFrom (first ++ second) = (sessions.runFrom first).runFrom second := List.foldl_append

theorem run_append (first second : List SessionMove) : run (first ++ second) = (run first).runFrom second :=
  opening.runFrom_append first second

end Sessions

/-! The acts are those of tasks in a rehearsal. -/

namespace Rehearsal.World

/-- The answer if there is one, and the world after the attempt. -/
def Attempt.outcome {α : Type} : Attempt α → Option α × World
  | .answered answer world => (some answer, world)
  | .blocked _ world => (none, world)

theorem wake_stage (world : World) (runner : Runner) : (world.wake runner).stage = world.stage := by
  unfold wake
  split <;> rfl

theorem notify_stage (world : World) (running : Runner) : (world.notify running).stage = world.stage := by
  unfold notify
  generalize [Runner.connection, .browser, .watcher] ++ world.tasks.map (fun task => .task task.id) = runners
  induction runners generalizing world with
  | nil => rfl
  | cons runner runners ih =>
      rw [List.foldl_cons, ih]
      split
      · exact world.wake_stage runner
      · rfl

end Rehearsal.World

/-- The act concerns the table of sessions or the turn to attach. -/
def Act.aboutSessions : Act → Bool
  | .session _ | .sessionForTarget _ | .enterAttach | .leaveAttach | .store _ | .assign .. | .forget _ =>
      true
  | _ => false

/-- A task that tries such an act is answered as a caller is, and leaves table and turn as a caller does. -/
theorem Sessions.attempt_eq_attemptClient (world : Rehearsal.World) (self : Nat)
    (waiting : Option Rehearsal.Waiting) (callers : List Caller) {act : Act} (about : act.aboutSessions = true) :
    let seen := (world.attemptClient self waiting act).outcome
    let tried := (⟨world.stage.table, world.stage.attachTurn, callers⟩ : Sessions).attempt self waiting.isSome act
    seen.1 = tried.1 ∧ seen.2.stage.table = tried.2.table ∧ seen.2.stage.attachTurn = tried.2.turn := by
  cases act with
  | session | sessionForTarget | store | assign | forget => exact ⟨rfl, rfl, rfl⟩
  | leaveAttach =>
      refine ⟨rfl, ?_⟩
      simp only [Rehearsal.World.attemptClient, Rehearsal.World.Attempt.outcome, Rehearsal.World.notify_stage]
      exact ⟨rfl, rfl⟩
  | enterAttach =>
      simp only [attempt, Rehearsal.World.attemptClient, Rehearsal.World.attemptAttachTurn]
      cases waiting with
      | none =>
          simp only [Option.isNone_none, Option.isSome_none, if_true, Bool.false_eq_true, if_false]
          generalize world.stage.attachTurn.arrive self = arrived
          obtain ⟨reply, turn⟩ := arrived
          cases reply <;> exact ⟨rfl, rfl, rfl⟩
      | some waiting =>
          simp only [Option.isNone_some, Option.isSome_some, if_true, Bool.false_eq_true, if_false]
          generalize world.stage.attachTurn.ask self = asked
          obtain ⟨reply, turn⟩ := asked
          cases reply <;> exact ⟨rfl, rfl, rfl⟩
  | _ => cases about

end RemoteDom
