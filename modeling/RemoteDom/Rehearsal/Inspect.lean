import RemoteDom.Rehearsal.Shown

/-! The texts by which objects are inspected: the name of a kind and the most telling of its fields. -/

namespace RemoteDom.Rehearsal

/-- A kind with its fields; two points stand for fields that are left out. -/
def braced (kind : String) (fields : List (String × String)) (complete : Bool) : String :=
  let shown := fields.map fun field => field.1 ++ ": " ++ field.2
  let all := if complete then shown else shown ++ [".."]
  kind ++ " \x7b " ++ ", ".intercalate all ++ " \x7d"

def wrapped (kind text : String) : String := kind ++ "(\"" ++ text ++ "\")"

def inspectSession (session : SessionId) : String := wrapped "SessionId" session.text

def inspectHandle (handle : Handle) : String := wrapped "RemoteObjectId" handle.text

def inspectMode : ShadowMode → String
  | .opened => "Open"
  | .closed => "Closed"
  | .userAgent => "UserAgent"

def inspectExtent : Extent → String
  | .document => "Document"
  | .node handle => braced "Node" [("object_id", inspectHandle handle)] true
  | .shadow handle mode =>
      braced "Shadow" [("object_id", inspectHandle handle), ("mode", inspectMode mode)] true

def inspectScope (scope : Scope) : String :=
  braced "Scope"
    [("kind", inspectExtent scope.extent), ("session_id", inspectSession scope.context.session)] true

def inspectContext (context : Context) : String :=
  braced "RoutingContext" [("session_id", inspectSession context.session)] false

def inspectTarget : Option TargetId → String
  | some target => "Some(" ++ wrapped "TargetId" target.text ++ ")"
  | none => "None"

def inspectObject : Object → String
  | .page page =>
      braced "Page"
        [("session_id", inspectSession page.context.session), ("target_id", inspectTarget page.target)]
        false
  | .element element =>
      braced "Element"
        [("object_id", inspectHandle element.handle),
          ("session_id", inspectSession element.context.session)] false
  | .root root =>
      braced "ShadowRoot"
        [("object_id", inspectHandle root.handle), ("mode", inspectMode root.mode),
          ("backend_node_id", "BackendNodeId(" ++ toString root.backend.number ++ ")"),
          ("host", inspectHandle root.host.handle)] true
  | .scope scope => inspectScope scope

def inspectConnection (pending : Nat) (closed : Bool) : String :=
  braced "Connection"
    [("pending", toString pending), ("closed", if closed then "true" else "false")] false

def inspectSessions (sessions : Nat) (connection : String) : String :=
  braced "SessionRouter" [("sessions", toString sessions), ("connection", connection)] true

def inspectClient (sessions places : Nat) : String :=
  braced "Client" [("sessions", toString sessions), ("max_concurrency", toString places)] false

/-- Streams differ in their method; their numbers are left open. -/
def inspectStream (method : String) : String :=
  braced "EventStream" [("id", "#"), ("method", "\"" ++ method ++ "\"")] false

end RemoteDom.Rehearsal
