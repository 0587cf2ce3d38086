import RemoteDom.Json.Writer
import RemoteDom.Wire.Command

/-! Request frames: a command with the number under which its answer is expected and the session that it
goes to. -/

namespace RemoteDom

structure Request where
  id : Nat
  session : SessionId
  command : Command
deriving DecidableEq, Repr

namespace Request

/-- A frame as the object that its members are gathered to. The top-level session is not named. -/
def gathered (gather : List (String × Json) → Json) (request : Request) : Json :=
  gather <|
    [("id", .integer request.id)]
    ++ (if request.session.isTopLevel then [] else [("sessionId", .string request.session.text)])
    ++ [("method", .string request.command.tag)]
    ++ Command.memberOf "params" (fun params => params) (request.command.paramsBy gather)

def toJson (request : Request) : Json := request.gathered .ofMembers

/-- The text of a frame has its members in the order in which they are listed. -/
def text (request : Request) : String := (request.gathered .object).compact

end Request

end RemoteDom
