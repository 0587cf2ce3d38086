/-! The names by which sessions, targets, frames, objects and nodes are known. Each kind is a type of its
own, so that one is never used for another. -/

namespace RemoteDom

/-- A session on the connection; the one without a name is the top-level session. -/
structure SessionId where
  text : String
deriving DecidableEq, Repr, Inhabited, BEq, Hashable

instance : LawfulBEq SessionId where
  eq_of_beq {first second} same := by
    cases first
    cases second
    simpa [BEq.beq, instBEqSessionId.beq] using same
  rfl {session} := by simp [BEq.beq, instBEqSessionId.beq]

namespace SessionId

def topLevel : SessionId := ⟨""⟩

def isTopLevel (session : SessionId) : Bool := session.text.isEmpty

def display (session : SessionId) : String :=
  if session.isTopLevel then "<top-level>" else session.text

end SessionId

/-- A client, which has a connection and a table of sessions of its own. -/
structure ClientId where
  number : Nat
deriving DecidableEq, Repr, Inhabited

/-- A tab, a worker or a frame with a process of its own. -/
structure TargetId where
  text : String
deriving DecidableEq, Repr, Inhabited

structure FrameId where
  text : String
deriving DecidableEq, Repr, Inhabited

/-- The target of a frame with a process of its own has the name of the frame. -/
def FrameId.target (frame : FrameId) : TargetId := ⟨frame.text⟩

/-- A script object of one execution context. -/
structure Handle where
  text : String
deriving DecidableEq, Repr, Inhabited

/-- A node of the browser's own tree. -/
structure BackendId where
  number : Int
deriving DecidableEq, Repr, Inhabited

/-- Either name of a node. -/
inductive NodeRef where
  | backend (id : BackendId)
  | object (handle : Handle)
deriving DecidableEq, Repr

def NodeRef.display : NodeRef → String
  | .backend id => "backendNodeId=" ++ toString id.number
  | .object handle => "objectId=" ++ handle.text

end RemoteDom
