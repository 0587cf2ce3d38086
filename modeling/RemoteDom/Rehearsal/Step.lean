import RemoteDom.Dom.Basic
import RemoteDom.Rehearsal.Browser

/-! The steps of a rehearsal: what a client, its objects and the browser are made to do. -/

namespace RemoteDom.Rehearsal

inductive Request where
  | query (locator : Locator) (all : Bool)
  | find (locator : Locator)
  | waitFor (locator : Locator) (patience : Option Patience)
  | check (locator : Locator)
  | scope
  | itself
  | patience
  | inSession (session : SessionId)
  | execute (command : Command)
  | resolve (backend : BackendId)
  | describeReference (reference : NodeRef) (depth : Int)
  | inspect
  | evaluate (expression : String)
  | document
  | innerMarkup
  | describe
  | backendId
  | tagName
  | text
  | outerMarkup
  | attributes
  | attribute (name : String)
  | isFrame
  | boxModel
  | boundingBox
  | scroll
  | click (button : MouseButton)
  | shadowRoots
  | shadowRoot
  | userAgentShadowRoot
  | waitForShadowRoot (patience : Option Patience)
  | contentScope
  | host
deriving DecidableEq, Repr

inductive ClientRequest where
  | targets
  | attachPage (target : TargetId)
  | attach (target : TargetId) (parent : SessionId)
  | detach (session : SessionId)
  | session (session : SessionId)
  | sessionForTarget (target : TargetId)
  | defaultSession
  /-- Sends a command, with a deadline of its own or with that of the connection. -/
  | send (session : SessionId) (command : Command) (deadline : Option Nat)
  | limits
  | close
  | shutdown
  | inspect
  | subscribe (method : String) (session : Option SessionId)
deriving DecidableEq, Repr

inductive StreamRequest where
  | next
  | drain
  | drop
  | inspect
deriving DecidableEq, Repr

inductive Step where
  /-- Asks an object and keeps what it makes under a name. -/
  | object (receiver : String) (request : Request) (keep : Option String)
  | client (request : ClientRequest) (keep : Option String)
  | stream (name : String) (request : StreamRequest)
  /-- Which of two streams was started later. -/
  | newer (first second : String)
  /-- Whether two objects are the same. -/
  | same (first second : String)
  /-- Does a step when there is a place for one more task. -/
  | run (step : Step)
  /-- Does steps side by side. -/
  | all (steps : List Step)
  | start (step : Step) (name : String)
  | join (name : String)
  | abort (name : String)
  | emit (packet : Packet)
  | breakWrites
  | sleep (milliseconds : Nat)
  | dropClient
deriving Inhabited, Repr

end RemoteDom.Rehearsal
