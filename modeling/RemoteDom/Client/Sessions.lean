import RemoteDom.Client.Act
import RemoteDom.Wire.Target

/-! Attaching to targets and detaching from them. -/

namespace RemoteDom.Browsing

/-- Attaches to the target unless that has happened in the meantime. The session is stored first and the target
assigned to it after that, so that others may act in between. -/
def attachInTurn (target : TargetId) (parent : SessionId) : Browsing Session := do
  match ← ask (.sessionForTarget target) with
  | some session => pure session
  | none =>
      let id ← call parent (.attachToTarget target true) SessionId.ofAttached?
      let session : Session := ⟨id, some target, some parent⟩
      ask (.store session)
      ask (.assign target id)
      pure session

/-- The session of a target, attached through `parent` if there is none yet. Callers take turns, so that a
target is attached once. -/
def attach (target : TargetId) (parent : SessionId) : Browsing Session := do
  match ← ask (.sessionForTarget target) with
  | some session => pure session
  | none =>
      ask .enterAttach
      let outcome ← ExceptT.lift (attachInTurn target parent).run
      ask .leaveAttach
      ExceptT.mk (pure outcome)

/-- Detaches a session through its parent. The session is forgotten whatever the browser answers. -/
def detach (id : SessionId) : Browsing Unit := do
  let known ← ask (.session id)
  let parent := (known.bind Session.parent).getD .topLevel
  let outcome ← ExceptT.lift (execute parent (.detachFromTarget id)).run
  ask (.forget id)
  let _ ← ExceptT.mk (pure outcome)

def targets : Browsing (List TargetInfo) := call .topLevel .getTargets TargetInfo.listOfJson?

end RemoteDom.Browsing
