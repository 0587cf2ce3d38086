import RemoteDom.Identity
import RemoteDom.Wire.Fields

/-! What the browser says about the targets that it holds. -/

namespace RemoteDom

structure TargetInfo where
  id : TargetId
  type : String
  title : String
  url : String
  attached : Bool
  opener : Option TargetId
deriving DecidableEq, Repr

namespace TargetInfo

/-- What is assumed of a target that is not described. -/
def unspecified : TargetInfo := ⟨⟨""⟩, "", "", "", false, none⟩

def ofJson? : Json → Option TargetInfo := Wire.record do
  let id ← Wire.defaulted "targetId" "" Wire.string
  let type ← Wire.defaulted "type" "" Wire.string
  let title ← Wire.defaulted "title" "" Wire.string
  let url ← Wire.defaulted "url" "" Wire.string
  let attached ← Wire.defaulted "attached" false Wire.boolean
  let opener ← Wire.omissible "openerId" Wire.string
  return ⟨⟨id⟩, type, title, url, attached, opener.map TargetId.mk⟩

def listOfJson? : Json → Option (List TargetInfo) :=
  Wire.record (Wire.defaulted "targetInfos" [] (Wire.list ofJson?))

/-- A frame with a process of its own. -/
def isFrame (info : TargetInfo) : Bool := info.type == "iframe"

end TargetInfo

/-- The session in the answer to an attach. -/
def SessionId.ofAttached? (answer : Json) : Option SessionId :=
  (Wire.sole "sessionId" Wire.string answer).map SessionId.mk

end RemoteDom
