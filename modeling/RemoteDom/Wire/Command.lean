import RemoteDom.Identity
import RemoteDom.Json.Basic

/-! The commands that a browser is sent, and how they are written. Members are listed in the order in which they are
written; as a value an object has them in the order of their names. -/

namespace RemoteDom

/-- An argument of a function call: a value or an object, or else both members or neither. -/
inductive Argument where
  | value (value : Json)
  | handle (handle : Handle)
  | both (value : Json) (handle : Handle)
  | neither
deriving DecidableEq, Repr

/-- An argument as the object that its members are gathered to. -/
def Argument.gathered (gather : List (String × Json) → Json) : Argument → Json
  | .value json => gather [("value", json)]
  | .handle object => gather [("objectId", .string object.text)]
  | .both json object => gather [("value", json), ("objectId", .string object.text)]
  | .neither => gather []

inductive MouseAction where
  | moved
  | pressed
  | released
deriving DecidableEq, Repr

def MouseAction.wireName : MouseAction → String
  | .moved => "mouseMoved"
  | .pressed => "mousePressed"
  | .released => "mouseReleased"

/-- Every action that is not known by its name is a movement. -/
def MouseAction.ofWireName : String → MouseAction
  | "mousePressed" => .pressed
  | "mouseReleased" => .released
  | _ => .moved

inductive MouseButton where
  | none
  | left
  | middle
  | right
deriving DecidableEq, Repr

def MouseButton.wireName : MouseButton → String
  | .none => "none"
  | .left => "left"
  | .middle => "middle"
  | .right => "right"

/-- Every button that is not known by its name is the left one. -/
def MouseButton.ofWireName : String → MouseButton
  | "none" => .none
  | "middle" => .middle
  | "right" => .right
  | _ => .left

inductive Command where
  | describeNode (object : Option Handle) (backend : Option BackendId) (depth : Int) (pierce : Bool)
  | resolveNode (backend : BackendId)
  | getMarkup (object : Option Handle) (backend : Option BackendId)
  | getBoxModel (object : Handle)
  | scrollIntoView (object : Handle)
  | evaluate (expression : String) (byValue awaitPromise : Bool)
  | callFunctionOn (function : String) (object : Handle) (arguments : List Argument)
      (byValue awaitPromise : Bool)
  | getProperties (object : Handle) (ownOnly : Bool)
  | releaseObject (object : Handle)
  | getTargets
  | attachToTarget (target : TargetId) (flatten : Bool)
  | detachFromTarget (session : SessionId)
  | setDiscoverTargets (discover : Bool)
  | dispatchMouseEvent (action : MouseAction) (x y : Binary64) (button : MouseButton)
      (clickCount : Int)
  /-- Any other command, its parameters sent as they are. -/
  | raw (method : String) (params : Json)
deriving DecidableEq, Repr

namespace Command

/-- The name by which errors and refusals tell of a command. -/
def method : Command → String
  | .describeNode .. => "DOM.describeNode"
  | .resolveNode .. => "DOM.resolveNode"
  | .getMarkup .. => "DOM.getOuterHTML"
  | .getBoxModel .. => "DOM.getBoxModel"
  | .scrollIntoView .. => "DOM.scrollIntoViewIfNeeded"
  | .evaluate .. => "Runtime.evaluate"
  | .callFunctionOn .. => "Runtime.callFunctionOn"
  | .getProperties .. => "Runtime.getProperties"
  | .releaseObject .. => "Runtime.releaseObject"
  | .getTargets => "Target.getTargets"
  | .attachToTarget .. => "Target.attachToTarget"
  | .detachFromTarget .. => "Target.detachFromTarget"
  | .setDiscoverTargets .. => "Target.setDiscoverTargets"
  | .dispatchMouseEvent .. => "Input.dispatchMouseEvent"
  | .raw method _ => method

/-- The name under which a command is written. -/
def tag : Command → String
  | .describeNode .. => "DOM.describeNode"
  | .resolveNode .. => "DOM.resolveNode"
  | .getMarkup .. => "DOM.getOuterHTML"
  | .getBoxModel .. => "DOM.getBoxModel"
  | .scrollIntoView .. => "DOM.scrollIntoViewIfNeeded"
  | .evaluate .. => "Runtime.evaluate"
  | .callFunctionOn .. => "Runtime.callFunctionOn"
  | .getProperties .. => "Runtime.getProperties"
  | .releaseObject .. => "Runtime.releaseObject"
  | .getTargets => "Target.getTargets"
  | .attachToTarget .. => "Target.attachToTarget"
  | .detachFromTarget .. => "Target.detachFromTarget"
  | .setDiscoverTargets .. => "Target.setDiscoverTargets"
  | .dispatchMouseEvent .. => "Input.dispatchMouseEvent"
  | .raw method _ => method

theorem tag_eq_method (command : Command) : command.tag = command.method := by cases command <;> rfl

/-- The member of an option that is set. -/
def memberOf {α : Type} (name : String) (write : α → Json) : Option α → List (String × Json)
  | some value => [(name, write value)]
  | none => []

def handleMember (handle : Handle) : String × Json := ("objectId", .string handle.text)

/-- Numbers that are not finite cannot be written. -/
def coordinate (x : Binary64) : Json := if x.isFinite then .real x else .null

/-- How a node is named, by either kind of reference or by none. -/
def referenceMembers (object : Option Handle) (backend : Option BackendId) : List (String × Json) :=
  memberOf "objectId" (fun handle => .string handle.text) object
    ++ memberOf "backendNodeId" (fun id => .integer id.number) backend

/-- The parameters of a command, their members gathered to objects; one that takes none has no such member. -/
def paramsBy (gather : List (String × Json) → Json) : Command → Option Json
  | .describeNode object backend depth pierce =>
      some <| gather <| referenceMembers object backend
        ++ [("depth", .integer depth), ("pierce", .bool pierce)]
  | .resolveNode backend => some <| gather [("backendNodeId", .integer backend.number)]
  | .getMarkup object backend => some <| gather <| referenceMembers object backend
  | .getBoxModel object => some <| gather [handleMember object]
  | .scrollIntoView object => some <| gather [handleMember object]
  | .evaluate expression byValue awaitPromise =>
      some <| gather
        [("expression", .string expression), ("returnByValue", .bool byValue),
          ("awaitPromise", .bool awaitPromise)]
  | .callFunctionOn function object arguments byValue awaitPromise =>
      some <| gather <|
        [("functionDeclaration", .string function), handleMember object]
        ++ (if arguments.isEmpty then [] else [("arguments", .array (arguments.map (Argument.gathered gather)))])
        ++ [("returnByValue", .bool byValue), ("awaitPromise", .bool awaitPromise)]
  | .getProperties object ownOnly =>
      some <| gather [handleMember object, ("ownProperties", .bool ownOnly)]
  | .releaseObject object => some <| gather [handleMember object]
  | .getTargets => none
  | .attachToTarget target flatten =>
      some <| gather [("targetId", .string target.text), ("flatten", .bool flatten)]
  | .detachFromTarget session => some <| gather [("sessionId", .string session.text)]
  | .setDiscoverTargets discover => some <| gather [("discover", .bool discover)]
  | .dispatchMouseEvent action x y button clickCount =>
      some <| gather
        [("type", .string action.wireName), ("x", coordinate x), ("y", coordinate y),
          ("button", .string button.wireName), ("clickCount", .integer clickCount)]
  | .raw _ params => some params

def params? (command : Command) : Option Json := command.paramsBy .ofMembers

end Command

end RemoteDom
