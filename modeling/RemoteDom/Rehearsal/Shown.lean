import RemoteDom.Connection.Streams
import RemoteDom.Dom.Basic
import RemoteDom.Wire.Geometry

/-! What the steps of a rehearsal show. -/

namespace RemoteDom.Rehearsal

/-- Something that a step made and that later steps can refer to. -/
inductive Object where
  | page (page : Page)
  | element (element : Element)
  | root (root : ShadowRoot)
  | scope (scope : Scope)
deriving DecidableEq, Repr

namespace Object

def toScope : Object → Scope
  | .page it => it.scope
  | .element it => it.scope
  | .root it => it.scope
  | .scope it => it

def context (object : Object) : Context := object.toScope.context

/-- The element that is meant; a shadow root stands for its host. -/
def element? : Object → Option Element
  | .element it => some it
  | .root it => some it.host
  | _ => none

end Object

inductive Shown where
  | done
  | absent (name : String)
  | failure (error : Error)
  | object (object : Object)
  | session (session : Option Session)
  | value (value : Json)
  | number (number : Int)
  | flag (flag : Bool)
  | word (text : String)
  | pairs (pairs : List (String × String))
  | node (node : Node)
  | boxModel (model : BoxModel)
  | rect (rect : Rect)
  | targets (targets : List TargetInfo)
  | patience (patience : Patience)
  | limits (places free deadline configured : Nat)
  /-- How many places were free when the task began, and what it showed. -/
  | ran (free : Nat) (shown : Shown)
  | list (items : List Shown)
  /-- When a visitor began and how many places were then free, when its visit ended and how, unless it gave
  up. -/
  | visited (began : Option (Nat × Nat)) (ended : Nat) (result : Option Shown)
  | event (event : Event)
  | drained (events : List Event) (ended : Bool)
  | order (later same : Bool)
  | sameness (context scope : Bool) (element : Option Bool)
  | inspected (object scope context : String)
  | inspectedClient (client sessions connection : String)
deriving Inhabited, Repr

/-- What is seen after a step: its result, the time it took, the requests that reached the browser, and the
pending commands, the sessions and whether the connection is closed. -/
structure Report where
  result : Shown
  time : Nat
  sent : List Json
  state : Option (Nat × Nat × Bool)
deriving Repr

end RemoteDom.Rehearsal
