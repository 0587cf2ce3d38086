import RemoteDom.Identity
import RemoteDom.Text.Ascii
import RemoteDom.Wire.Fields

/-! Descriptions of nodes, with the shadow roots, children and frame documents below them. -/

namespace RemoteDom

inductive ShadowMode where
  | opened
  | closed
  /-- The root belongs to the browser itself. -/
  | userAgent
deriving DecidableEq, Repr

namespace ShadowMode

def wireName : ShadowMode → String
  | .opened => "open"
  | .closed => "closed"
  | .userAgent => "user-agent"

def ofWireName? : String → Option ShadowMode
  | "open" => some .opened
  | "closed" => some .closed
  | "user-agent" => some .userAgent
  | _ => none

theorem ofWireName?_wireName (mode : ShadowMode) : ofWireName? mode.wireName = some mode := by
  cases mode <;> rfl

def ofJson? : Json → Option ShadowMode := Wire.choice ofWireName?

end ShadowMode

structure Node where
  nodeId : Int
  backend : Option BackendId
  nodeType : Int
  nodeName : String
  localName : String
  /-- Names and values in turn. -/
  attributes : List String
  shadowRoots : List Node
  /-- Set if the node is itself a shadow root. -/
  shadowMode : Option ShadowMode
  /-- Set if the node owns a frame. -/
  frame : Option FrameId
  /-- The document of a frame that lives in the same process. -/
  contentDocument : Option Node
  children : List Node
  documentUrl : Option String
deriving Inhabited, Repr

namespace Node

/-- The items two by two; a last one without a partner is left out. -/
def pairs : List String → List (String × String)
  | name :: value :: rest => (name, value) :: pairs rest
  | _ => []

def attributePairs (node : Node) : List (String × String) := pairs node.attributes

def attribute? (node : Node) (name : String) : Option String := node.attributePairs.lookup name

def ownsFrame (node : Node) : Bool :=
  let name := node.nodeName.toList
  Text.equalsIgnoringCase name "iframe".toList || Text.equalsIgnoringCase name "frame".toList

/-- The members of a description, given how the nodes below it are read. -/
def fields (below : Json → Option Node) : Wire.FieldReader Node := do
  let nodeId ← Wire.defaulted "nodeId" 0 Wire.signed
  let backend ← Wire.optional "backendNodeId" Wire.signed
  let nodeType ← Wire.defaulted "nodeType" 0 Wire.signed
  let nodeName ← Wire.defaulted "nodeName" "" Wire.string
  let localName ← Wire.defaulted "localName" "" Wire.string
  let attributes ← Wire.defaulted "attributes" [] (Wire.list Wire.string)
  let shadowRoots ← Wire.defaulted "shadowRoots" [] (Wire.list below)
  let shadowMode ← Wire.optional "shadowRootType" ShadowMode.ofJson?
  let frame ← Wire.optional "frameId" Wire.string
  let contentDocument ← Wire.optional "contentDocument" below
  let children ← Wire.defaulted "children" [] (Wire.list below)
  let documentUrl ← Wire.optional "documentURL" Wire.string
  return {
    nodeId, nodeType, nodeName, localName, attributes, shadowRoots, shadowMode
    contentDocument, children, documentUrl
    backend := backend.map BackendId.mk
    frame := frame.map FrameId.mk }

/-- Reads a description whose values are nested at most that deep. -/
def ofJsonWithin : Nat → Json → Option Node
  | 0, _ => none
  | depth + 1, value => Wire.record (fields (ofJsonWithin depth)) value

def ofJson? (value : Json) : Option Node := ofJsonWithin value.height value

/-- The node in the answer to a request for its description. -/
def ofDescribed? : Json → Option Node := Wire.sole "node" ofJson?

end Node

end RemoteDom
