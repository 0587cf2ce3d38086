import RemoteDom.Error
import RemoteDom.Json.Reader
import RemoteDom.Json.Writer
import RemoteDom.Wire.Event

/-! Frames from the browser: answers to commands, and events. -/

namespace RemoteDom

/-- How the browser says that it refuses a command. -/
structure Refusal where
  code : Int
  message : String
  detail : Option Json
deriving DecidableEq, Repr

namespace Refusal

def ofJson? : Json → Option Refusal := Wire.record do
  let code ← Wire.required "code" Wire.signed
  let message ← Wire.required "message" Wire.string
  let detail ← Wire.omissible "data" some
  return ⟨code, message, detail⟩

def describe (refusal : Refusal) : String :=
  match refusal.detail with
  | none | some .null | some (.string "") => refusal.message
  | some (.string detail) => refusal.message ++ " (" ++ detail ++ ")"
  | some detail => refusal.message ++ " (" ++ detail.compact ++ ")"

end Refusal

structure Response where
  id : Nat
  result : Option Json
  refusal : Option Refusal
  session : SessionId
deriving DecidableEq, Repr

namespace Response

def ofJson? : Json → Option Response := Wire.record do
  let id ← Wire.required "id" Wire.unsigned
  let result ← Wire.omissible "result" some
  let refusal ← Wire.omissible "error" Refusal.ofJson?
  let session ← Wire.defaulted "sessionId" "" Wire.string
  return ⟨id, result, refusal, ⟨session⟩⟩

/-- What the response means to the one who sent that method to that session. -/
def outcome (response : Response) (method : String) (session : SessionId) : Except Error Json :=
  match response.refusal with
  | none => .ok (response.result.getD .null)
  | some refusal => .error (.protocol refusal.code refusal.describe method session)

end Response

inductive Incoming where
  | response (response : Response)
  | event (event : Event)
deriving DecidableEq, Repr

namespace Incoming

/-- A frame with an identifier is a response; one without but with a method is an event. -/
def read (text : String) : Except Error Incoming :=
  match Json.read? text with
  | none => .error .json
  | some frame =>
      match frame.get? "id" with
      | some id =>
          match Response.ofJson? frame with
          | some answer => .ok (.response answer)
          | none =>
              match id.asUnsigned? with
              | some id => .error (.unreadableResponse id)
              | none => .error .json
      | none =>
          match frame.get? "method" with
          | some _ =>
              match Event.ofJson? frame with
              | some happening => .ok (.event happening)
              | none => .error .json
          | none => .error (.malformed "frame has neither id nor method")

/-- The identifier of a frame alone, whatever else it holds. -/
def responseId? (text : String) : Option Nat :=
  (Json.read? text).bind fun frame => (frame.get? "id").bind Json.asUnsigned?

end Incoming

end RemoteDom
