import RemoteDom.Wire.Target

/-! Events, and the notices about sessions and targets that some of them are. -/

namespace RemoteDom

structure Event where
  method : String
  params : Json
  session : SessionId
deriving DecidableEq, Repr

/-- What an event says about sessions and targets. -/
inductive Notice where
  | attached (session : SessionId) (target : TargetInfo)
  | detached (session : SessionId) (target : Option TargetId)
  | destroyed (target : TargetId)
  | other
deriving DecidableEq, Repr

namespace Event

def ofJson? : Json → Option Event := Wire.record do
  let method ← Wire.required "method" Wire.string
  let params ← Wire.defaulted "params" Json.null some
  let session ← Wire.defaulted "sessionId" "" Wire.string
  return ⟨method, params, ⟨session⟩⟩

/-- The method up to the first point. -/
def domain (event : Event) : String :=
  String.ofList (event.method.toList.takeWhile (· != '.'))

/-- The method between the first point and the second. -/
def name (event : Event) : String :=
  String.ofList (((event.method.toList.dropWhile (· != '.')).drop 1).takeWhile (· != '.'))

/-- The text of a parameter, empty if there is none. -/
def textParam (event : Event) (name : String) : String :=
  ((event.params.get? name).bind Json.asString?).getD ""

def detachedMethod : String := "Target.detachedFromTarget"

def destroyedMethod : String := "Target.targetDestroyed"

def notice (event : Event) : Notice :=
  if event.method = "Target.attachedToTarget" then
    .attached ⟨event.textParam "sessionId"⟩
      (((event.params.get? "targetInfo").bind TargetInfo.ofJson?).getD .unspecified)
  else if event.method = detachedMethod then
    .detached ⟨event.textParam "sessionId"⟩
      (((event.params.get? "targetId").bind Json.asString?).map TargetId.mk)
  else if event.method = destroyedMethod then .destroyed ⟨event.textParam "targetId"⟩
  else .other

end Event

end RemoteDom
