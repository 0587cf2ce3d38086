import RemoteDom.Dom.Query
import RemoteDom.Text.Lower
import RemoteDom.Wire.Geometry

/-! What one can read from elements and do to them. -/

namespace RemoteDom

namespace Element

def execute (element : Element) (command : Command) : Browsing Json :=
  Browsing.about element.reference (Browsing.execute element.context.session command)

def call {α : Type} (element : Element) (command : Command) (read : Json → Option α) :
    Browsing α := do
  Browsing.expect (read (← element.execute command))

/-- The name of the element, in small letters. -/
def tagName (element : Element) : Browsing String := do
  let node ← element.describe
  return Text.toLowercase (if node.localName.isEmpty then node.nodeName else node.localName)

def attributes (element : Element) : Browsing (List (String × String)) :=
  return (← element.describe).attributePairs

def attribute? (element : Element) (name : String) : Browsing (Option String) :=
  return (← element.describe).attribute? name

def isFrame (element : Element) : Browsing Bool := return (← element.describe).ownsFrame

def text (element : Element) : Browsing String := do
  let evaluation ← element.call
    (.callFunctionOn Script.textContent element.handle [] true false) Evaluation.ofJson?
  match evaluation.exception with
  | some exception => throw (.script exception.message)
  | none => return (evaluation.result.value.bind Json.asString?).getD ""

def markup? : Json → Option String := Wire.sole "outerHtml" Wire.string

def outerMarkup (element : Element) : Browsing String :=
  element.call (.getMarkup (some element.handle) none) markup?

def boxModel (element : Element) : Browsing BoxModel :=
  element.call (.getBoxModel element.handle) BoxModel.ofAnswer?

def boundingBox (element : Element) : Browsing Rect := do
  match (← element.boxModel).border.bounds? with
  | some rect => pure rect
  | none => throw (.malformed ("empty border quad for " ++ element.reference.display))

def scrollIntoView (element : Element) : Browsing Unit := do
  let _ ← element.execute (.scrollIntoView element.handle)

/-- Scrolls the element into view and clicks on the centre of its content. -/
def click (element : Element) (button : MouseButton) : Browsing Unit := do
  element.scrollIntoView
  match (← element.boxModel).content.center? with
  | none => throw (.malformed ("empty content quad for " ++ element.reference.display))
  | some (x, y) =>
      let _ ← element.execute (.dispatchMouseEvent .moved x y .none 0)
      let _ ← element.execute (.dispatchMouseEvent .pressed x y button 1)
      let _ ← element.execute (.dispatchMouseEvent .released x y button 1)

/-- Resolves the shadow roots in a description, those without a name left out. A root that does not say its
mode is open. -/
def resolveRoots (host : Element) : List Node → Browsing (List ShadowRoot)
  | [] => pure []
  | described :: rest => do
      match described.backend with
      | none => host.resolveRoots rest
      | some backend =>
          let handle ← host.context.resolve backend
          let roots ← host.resolveRoots rest
          return ⟨handle, described.shadowMode.getD .opened, backend, host⟩ :: roots

def shadowRoots (element : Element) : Browsing (List ShadowRoot) := do
  element.resolveRoots (← element.context.describe element.reference 1).shadowRoots

def firstRoot (element : Element) (wanted : ShadowRoot → Bool) : Browsing ShadowRoot := do
  match (← element.shadowRoots).find? wanted with
  | some root => pure root
  | none => throw (.shadowRootNotFound element.reference)

/-- The first shadow root that does not belong to the browser itself. -/
def shadowRoot (element : Element) : Browsing ShadowRoot :=
  element.firstRoot fun root => !root.isUserAgent

def userAgentShadowRoot (element : Element) : Browsing ShadowRoot :=
  element.firstRoot ShadowRoot.isUserAgent

/-- The shadow root if there is one; any other failure than its absence stays a failure. -/
def shadowRoot? (element : Element) : Browsing (Option ShadowRoot) :=
  tryCatch (some <$> element.shadowRoot) fun
    | .shadowRootNotFound _ => pure none
    | error => throw error

def waitForShadowRoot (element : Element) (patience : Patience) : Browsing ShadowRoot :=
  pollOrFail ("wait for shadow root on " ++ element.reference.display) patience
    element.shadowRoot?

end Element

namespace ShadowRoot

def innerMarkup (root : ShadowRoot) : Browsing String :=
  Browsing.about (.object root.handle)
    (Browsing.call root.context.session (.getMarkup (some root.handle) none) Element.markup?)

end ShadowRoot

namespace Page

/-- The value of an expression; a promise is awaited. -/
def evaluate (page : Page) (expression : String) : Browsing Json := do
  let evaluation ← Browsing.call page.context.session (.evaluate expression true true)
    Evaluation.ofJson?
  match evaluation.exception with
  | some exception => throw (.script exception.message)
  | none => return evaluation.result.value.getD .null

def document (page : Page) : Browsing Element := do
  match ← Element.documentHandle? page.context.session with
  | some handle => Element.make handle page.context
  | none => throw (.script "document evaluated to a primitive")

def attach (target : TargetId) (patience : Patience) : Browsing Page := do
  let session ← Browsing.attach target .topLevel
  return ⟨{ session := session.id, patience }, some target⟩

end Page

end RemoteDom
