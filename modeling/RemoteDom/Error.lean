import RemoteDom.Identity
import RemoteDom.Text.Search

/-! What can go wrong, with the session, node or frame that is concerned. -/

namespace RemoteDom

inductive Error where
  /-- The options of a client are unusable. -/
  | configuration (message : String)
  | connection (message : String)
  | connectionTimeout (milliseconds : Nat)
  /-- The connection went away before the answer came. -/
  | connectionClosed
  /-- The browser refused a command. -/
  | protocol (code : Int) (message method : String) (session : SessionId)
  | malformed (message : String)
  /-- A frame names a command but is no answer to it. -/
  | unreadableResponse (command : Nat)
  /-- A node or object no longer exists. -/
  | stale (reference : NodeRef) (session : SessionId) (message : String)
  /-- The scope cannot evaluate expressions of the dialect. -/
  | capability (dialect scope : String)
  | elementNotFound (selector : String) (session : SessionId)
  | shadowRootNotFound (host : NodeRef)
  | frameNotFound (owner : NodeRef) (frame : Option FrameId)
  /-- A script threw. -/
  | script (message : String)
  /-- What was waited for did not happen in time. -/
  | timeout (operation : String) (milliseconds : Nat)
  /-- A command was not answered in time. -/
  | requestTimeout (command : Nat) (method : String) (milliseconds : Nat)
  | io
  | json
  | webSocket
deriving DecidableEq, Repr

namespace Error

/-- The text of an error; errors of the outside world have none of their own. -/
def message? : Error → Option String
  | .configuration message => some ("Configuration error: " ++ message)
  | .connection message => some ("Connection failed: " ++ message)
  | .connectionTimeout ms => some s!"Connection timeout after {ms}ms"
  | .connectionClosed => some "Connection closed"
  | .protocol code message method session =>
      some s!"Protocol error {code} in {method} (session {session.display}): {message}"
  | .malformed message => some ("Malformed message: " ++ message)
  | .unreadableResponse command => some s!"Malformed message: unreadable response {command}"
  | .stale reference session message =>
      some s!"Stale reference {reference.display} in session {session.display}: {message}"
  | .capability dialect scope => some s!"{dialect} selectors are not supported by {scope} scopes"
  | .elementNotFound selector session =>
      some s!"Element not found: selector={selector}, session={session.display}"
  | .shadowRootNotFound host => some ("Shadow root not found on " ++ host.display)
  | .frameNotFound owner frame =>
      let shown := (frame.map FrameId.text).getD "-"
      some s!"Frame not found for {owner.display} (frame {shown})"
  | .script message => some ("Script error: " ++ message)
  | .timeout operation ms => some s!"Timeout after {ms}ms: {operation}"
  | .requestTimeout command method ms =>
      some s!"Command {command} ({method}) timed out after {ms}ms"
  | .io | .json | .webSocket => none

/-- The messages by which a browser says that a node, object or context is gone. -/
def staleMessages : List String :=
  ["Could not find node with given id",
   "No node with given id found",
   "Could not find object with given id",
   "Cannot find context with specified id",
   "Node with given id does not belong to the document",
   "No node found for given backend id",
   "Node is detached from document",
   "Inspected target navigated or closed"]

def isStaleMessage (message : String) : Bool :=
  staleMessages.any fun known => Text.contains message known

/-- Turns a refusal that says the node is gone into an error about the reference that was used. -/
def toStale (reference : NodeRef) : Error → Error
  | .protocol code message method session =>
      if isStaleMessage message then .stale reference session message
      else .protocol code message method session
  | other => other

def isTimeout : Error → Bool
  | .connectionTimeout _ | .timeout _ _ | .requestTimeout _ _ _ => true
  | _ => false

def isConnection : Error → Bool
  | .connection _ | .connectionTimeout _ | .connectionClosed | .webSocket => true
  | _ => false

def isStale : Error → Bool
  | .stale _ _ _ => true
  | _ => false

def isSessionNotFound : Error → Bool
  | .protocol code message _ _ =>
      code == -32001 || Text.contains message "Session with given id not found"
  | _ => false

def isNotFound : Error → Bool
  | .elementNotFound _ _ | .shadowRootNotFound _ | .frameNotFound _ _ => true
  | _ => false

def isCapability : Error → Bool
  | .capability _ _ => true
  | _ => false

def isRecoverable (error : Error) : Bool := error.isTimeout || error.isStale

theorem toStale_protocol (reference : NodeRef) (code : Int) (message method : String)
    (session : SessionId) (known : isStaleMessage message = true) :
    toStale reference (.protocol code message method session) = .stale reference session message := by
  simp [toStale, known]

end Error

end RemoteDom
