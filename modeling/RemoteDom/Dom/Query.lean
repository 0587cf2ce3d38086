import RemoteDom.Dom.Frame
import RemoteDom.Dom.Script

/-! Finding the elements that a locator names. A locator that crosses frames is followed frame by frame. -/

namespace RemoteDom

namespace Property

/-- The place in a list that the name of a property stands for: decimal digits, behind a plus sign or not,
within sixty-four bits. -/
def index? (property : Property) : Option Nat :=
  let written := property.name.toList
  let digits := if written.head? = some '+' then written.tail else written
  if digits.isEmpty || !digits.all Char.isDigit then none
  else
    let value := digits.foldl (fun value digit => value * 10 + (digit.toNat - 48)) 0
    if value < 1 <<< 64 then some value else none

def item? (property : Property) : Option (Nat × Handle) := do
  let place ← property.index?
  let handle ← property.value.bind RemoteObject.presentHandle?
  return (place, handle)

/-- The objects in a list, by increasing place. -/
def items (properties : List Property) : List Handle :=
  ((properties.filterMap item?).mergeSort fun first second => first.1 ≤ second.1).map Prod.snd

end Property

namespace Scope

/-- The script that finds matches of an expression in the scope, and the command that runs it. -/
def matching (scope : Scope) (dialect : Dialect) (all : Bool) (expression : String) : Command :=
  match scope.extent with
  | .document => .evaluate (Script.inDocument dialect all expression) false false
  | .node handle =>
      let expression := if dialect = .xpath then Locator.relativeTo expression else expression
      .callFunctionOn (Script.belowNode dialect all) handle [.value (.string expression)] false false
  | .shadow handle _ =>
      .callFunctionOn (Script.belowNode dialect all) handle [.value (.string expression)] false false

/-- Runs a command on behalf of the scope; refusals concern the node that the scope is below. -/
def evaluate (scope : Scope) (command : Command) : Browsing Evaluation :=
  let outcome := Browsing.call scope.context.session command Evaluation.ofJson?
  match scope.extent.handle? with
  | some handle => Browsing.about (.object handle) outcome
  | none => outcome

/-- The elements of a list that a script gave. The list is given back once they are taken out of it, and
nothing depends on whether the browser accepts that. -/
def takeItems (context : Context) (list : Handle) : Browsing (List Element) := do
  let properties ← Browsing.about (.object list)
    (Browsing.call context.session (.getProperties list true) Property.listOfJson?)
  let _ ← ExceptT.lift (Browsing.execute context.session (.releaseObject list)).run
  (Property.items properties).mapM fun handle => Element.make handle context

def queryHere (scope : Scope) (locator : Locator) (all : Bool) : Browsing (List Element) := do
  ExceptT.mk (pure (scope.check locator.dialect))
  let evaluation ← scope.evaluate (scope.matching locator.dialect all locator.expression)
  match evaluation.exception with
  | some exception => throw (.script exception.message)
  | none =>
      match evaluation.result.presentHandle? with
      | none => pure []
      | some handle =>
          if all then takeItems scope.context handle
          else return [← Element.make handle scope.context]

/-- Follows locators from frame to frame; all but the last find the frame to enter. -/
def queryThrough (scope : Scope) (all : Bool) : List Locator → Browsing (List Element)
  | [] => pure []
  | [last] => scope.queryHere last all
  | frame :: further => do
      match ← scope.queryHere frame false with
      | [] => pure []
      | owner :: _ => queryThrough (← owner.contentScope) all further

def query (scope : Scope) (locator : Locator) (all : Bool) : Browsing (List Element) := do
  ExceptT.mk (pure (scope.check locator.dialect))
  scope.queryThrough all locator.segments

def find (scope : Scope) (locator : Locator) : Browsing Element := do
  match ← scope.query locator false with
  | element :: _ => pure element
  | [] => throw (.elementNotFound locator.display scope.context.session)

def findAll (scope : Scope) (locator : Locator) : Browsing (List Element) := scope.query locator true

def waitFor (scope : Scope) (locator : Locator) (patience : Patience) : Browsing Element :=
  pollOrFail ("wait for " ++ locator.display) patience do
    return (← scope.query locator false).head?

end Scope

end RemoteDom
