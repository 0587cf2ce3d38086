import RemoteDom.Error
import RemoteDom.Polling
import RemoteDom.Program
import RemoteDom.Session.Table
import RemoteDom.Wire.Command

/-! What the operations of a client ask of their surroundings, one act at a time: answers of the browser,
the time, and what the client remembers. -/

namespace RemoteDom

/-- A note on which one element keeps the name of its node. -/
structure Memo where
  number : Nat
deriving DecidableEq, Repr

inductive Act where
  | now
  | sleep (milliseconds : Nat)
  /-- Sends a command to a session and waits for its answer. -/
  | request (session : SessionId) (command : Command)
  | session (id : SessionId)
  | sessionForTarget (target : TargetId)
  /-- Waits for the turn to attach a target; one caller at a time has it. -/
  | enterAttach
  | leaveAttach
  | store (session : Session)
  | assign (target : TargetId) (id : SessionId)
  | forget (id : SessionId)
  | newMemo
  | recall (memo : Memo)
  /-- Notes the name of a node unless one is noted already. -/
  | note (memo : Memo) (backend : BackendId)
deriving DecidableEq, Repr

abbrev Act.Answer : Act → Type
  | .now => Nat
  | .sleep _ => Unit
  | .request _ _ => Except Error Json
  | .session _ => Option Session
  | .sessionForTarget _ => Option Session
  | .enterAttach => Unit
  | .leaveAttach => Unit
  | .store _ => Unit
  | .assign _ _ => Unit
  | .forget _ => Unit
  | .newMemo => Memo
  | .recall _ => Option BackendId
  | .note _ _ => Unit

abbrev ClientProgram := Program Act.Answer

instance : Clock ClientProgram where
  now := .act .now .done
  sleep time := .act (.sleep time) .done

abbrev Browsing := ExceptT Error ClientProgram

namespace Browsing

def ask (act : Act) : Browsing act.Answer := ExceptT.lift (.act act .done)

def execute (session : SessionId) (command : Command) : Browsing Json :=
  ExceptT.mk (.act (.request session command) .done)

def expect {α : Type} : Option α → Browsing α
  | some value => pure value
  | none => throw .json

def call {α : Type} (session : SessionId) (command : Command) (read : Json → Option α) :
    Browsing α := do
  expect (read (← execute session command))

/-- Reports refusals that say a node is gone as the end of the reference that was used. -/
def about {α : Type} (reference : NodeRef) (operation : Browsing α) : Browsing α :=
  ExceptT.adapt (Error.toStale reference) operation

end Browsing

end RemoteDom
