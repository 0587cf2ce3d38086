import RemoteDom.Client.Sessions
import RemoteDom.Dom.Description

/-! Entering frames. A frame in the same process is entered through the description of its owner; any
other frame is a target of its own, with a session of its own. -/

namespace RemoteDom.Element

/-- The session of the target of a frame, attached from the owner's session if need be. -/
def frameSession (owner : Element) (frame : FrameId) : Browsing Session := do
  match ← Browsing.ask (.sessionForTarget frame.target) with
  | some session => pure session
  | none =>
      let targets ← Browsing.targets
      if targets.any fun info => info.id == frame.target && info.isFrame then
        Browsing.attach frame.target owner.context.session
      else throw (.frameNotFound owner.reference (some frame))

def documentHandle? (session : SessionId) : Browsing (Option Handle) := do
  let evaluation ← Browsing.call session (.evaluate "document" false false) Evaluation.ofJson?
  match evaluation.exception with
  | some exception => throw (.script exception.message)
  | none => pure evaluation.result.handle

/-- The scope inside a frame, in the session that the frame's document lives in. -/
def contentScope (owner : Element) : Browsing Scope := do
  let node ← owner.describe
  let missing : Error := .frameNotFound owner.reference node.frame
  if !node.ownsFrame then throw missing
  else
    match node.contentDocument with
    | some document =>
        match document.backend with
        | some backend => return .node owner.context (← owner.context.resolve backend)
        | none => throw missing
    | none =>
        match node.frame with
        | none => throw missing
        | some frame =>
            let session ← owner.frameSession frame
            let inside := owner.context.inSession session.id
            match ← documentHandle? inside.session with
            | some handle => pure (.node inside handle)
            | none => throw missing

end RemoteDom.Element
