import RemoteDom.Dom.Basic
import RemoteDom.Wire.RemoteObject

/-! Describing nodes, and turning the browser's own names of nodes into handles. -/

namespace RemoteDom

namespace Context

/-- Describes a node to some depth, shadow roots and frames included. -/
def describe (context : Context) (reference : NodeRef) (depth : Int) : Browsing Node :=
  let command : Command :=
    match reference with
    | .object handle => .describeNode (some handle) none depth true
    | .backend id => .describeNode none (some id) depth true
  Browsing.about reference (Browsing.call context.session command Node.ofDescribed?)

def resolve (context : Context) (backend : BackendId) : Browsing Handle := do
  let object ← Browsing.about (.backend backend)
    (Browsing.call context.session (.resolveNode backend) RemoteObject.ofResolved?)
  match object.handle with
  | some handle => pure handle
  | none =>
      throw (.stale (.backend backend) context.session "resolveNode returned no object handle")

end Context

namespace Element

/-- Describes the element and notes the name of its node. -/
def describe (element : Element) : Browsing Node := do
  let node ← element.context.describe element.reference 1
  if let some backend := node.backend then
    Browsing.ask (.note element.memo backend)
  pure node

/-- The browser's own name of the element, from the note if it is there. -/
def backendId (element : Element) : Browsing BackendId := do
  match ← Browsing.ask (.recall element.memo) with
  | some backend => pure backend
  | none =>
      match (← element.describe).backend with
      | some backend => pure backend
      | none =>
          throw (.malformed
            ("describeNode returned no backendNodeId for " ++ element.reference.display))

end Element

end RemoteDom
