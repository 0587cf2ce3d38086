import RemoteDom.Client.Act
import RemoteDom.Selector.Locator
import RemoteDom.Wire.Node

/-! Pages, elements and shadow roots, and the scopes in which one can search. Each carries the context that
its commands are sent in. -/

namespace RemoteDom

/-- The session that commands go to, the patience for what is slow to come, and the client whose connection
and sessions are used. -/
structure Context where
  session : SessionId
  patience : Patience
  client : ClientId := ⟨0⟩
deriving DecidableEq, Repr

namespace Context

def inSession (context : Context) (session : SessionId) : Context := { context with session }

end Context

/-- The part of a page that a search covers. -/
inductive Extent where
  | document
  | node (handle : Handle)
  | shadow (handle : Handle) (mode : ShadowMode)
deriving DecidableEq, Repr

namespace Extent

def name : Extent → String
  | .document => "document"
  | .node _ => "node"
  | .shadow _ _ => "shadow"

def handle? : Extent → Option Handle
  | .document => none
  | .node handle => some handle
  | .shadow handle _ => some handle

/-- Below a shadow root XPath is not evaluated. -/
def supports : Extent → Dialect → Bool
  | .shadow _ _, .xpath => false
  | _, _ => true

end Extent

structure Scope where
  extent : Extent
  context : Context
deriving DecidableEq, Repr

namespace Scope

def document (context : Context) : Scope := ⟨.document, context⟩

def node (context : Context) (handle : Handle) : Scope := ⟨.node handle, context⟩

def check (scope : Scope) (dialect : Dialect) : Except Error Unit :=
  if scope.extent.supports dialect then .ok ()
  else .error (.capability dialect.name scope.extent.name)

end Scope

structure Element where
  handle : Handle
  context : Context
  memo : Memo
deriving DecidableEq, Repr

namespace Element

def reference (element : Element) : NodeRef := .object element.handle

def scope (element : Element) : Scope := .node element.context element.handle

def make (handle : Handle) (context : Context) : Browsing Element :=
  return ⟨handle, context, ← Browsing.ask .newMemo⟩

end Element

structure ShadowRoot where
  handle : Handle
  mode : ShadowMode
  backend : BackendId
  host : Element
deriving DecidableEq, Repr

namespace ShadowRoot

def context (root : ShadowRoot) : Context := root.host.context

def scope (root : ShadowRoot) : Scope := ⟨.shadow root.handle root.mode, root.context⟩

def isUserAgent (root : ShadowRoot) : Bool := root.mode == .userAgent

end ShadowRoot

structure Page where
  context : Context
  target : Option TargetId
deriving DecidableEq, Repr

namespace Page

def scope (page : Page) : Scope := .document page.context

end Page

end RemoteDom
