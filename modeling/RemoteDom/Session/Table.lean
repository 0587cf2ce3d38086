import RemoteDom.Identity

/-! The table of attached sessions. A session is known by its own name and, through its target, by the
name of the target. Forgetting a session forgets all that were attached through it. -/

namespace RemoteDom

structure Session where
  id : SessionId
  /-- The target that the session speaks to; the top-level session speaks to none. -/
  target : Option TargetId
  /-- The session through which this one was attached. -/
  parent : Option SessionId
deriving DecidableEq, Repr

namespace Session

def topLevel : Session := ⟨.topLevel, none, none⟩

def isTopLevel (session : Session) : Bool := session.id.isTopLevel

end Session

structure SessionTable where
  stored : List Session
  targets : List (TargetId × SessionId)
deriving DecidableEq, Repr

namespace SessionTable

def empty : SessionTable := ⟨[], []⟩

def size (table : SessionTable) : Nat := table.stored.length

def stored? (table : SessionTable) (id : SessionId) : Option Session :=
  table.stored.find? fun session => session.id == id

/-- The session of that name; the top-level session is always there. -/
def session? (table : SessionTable) (id : SessionId) : Option Session :=
  if id.isTopLevel then some .topLevel else table.stored? id

def forTarget? (table : SessionTable) (target : TargetId) : Option Session :=
  (table.targets.lookup target).bind table.stored?

/-- Stores a session under its name, in place of what was there. -/
def store (table : SessionTable) (session : Session) : SessionTable :=
  { table with stored := session :: table.stored.filter fun other => other.id != session.id }

/-- Assigns a target to the session of that name, whether it is stored or not. -/
def assign (table : SessionTable) (target : TargetId) (id : SessionId) : SessionTable :=
  { table with targets := (target, id) :: table.targets.filter fun entry => entry.1 != target }

/-- The sessions that were attached through the session of that name. -/
def attachedThrough (id : SessionId) (stored : List Session) : List Session :=
  stored.filter fun session => session.parent == some id

/-- The sessions that were not. -/
def attachedElsewhere (id : SessionId) (stored : List Session) : List Session :=
  stored.filter fun session => !(session.parent == some id)

theorem length_attached (id : SessionId) (stored : List Session) :
    (attachedThrough id stored).length + (attachedElsewhere id stored).length = stored.length := by
  induction stored with
  | nil => rfl
  | cons session rest ih =>
      simp only [attachedThrough, attachedElsewhere, List.filter_cons] at ih ⊢
      cases session.parent == some id <;> simp <;> omega

/-- The sessions that stay when those in line go, and all that were attached through them. -/
def survivors : List SessionId → List Session → List Session
  | [], stored => stored
  | id :: line, stored =>
      survivors ((attachedThrough id stored).map Session.id ++ line) (attachedElsewhere id stored)
termination_by line stored => line.length + stored.length
decreasing_by
  have parts := length_attached id stored
  simp only [List.length_append, List.length_map, List.length_cons]
  omega

/-- Forgets a session and all that were attached through it, with their targets. -/
def forget (table : SessionTable) (id : SessionId) : SessionTable :=
  let remaining := survivors [id] (table.stored.filter fun session => session.id != id)
  let gone := table.stored.filter fun session => !remaining.contains session
  { stored := remaining
    targets := table.targets.filter fun entry => !gone.any fun session => session.target == some entry.1 }

/-- Forgets the session of a target that is no more. -/
def forgetTarget (table : SessionTable) (target : TargetId) : SessionTable :=
  match table.targets.lookup target with
  | some id => table.forget id
  | none => table

end SessionTable

end RemoteDom
