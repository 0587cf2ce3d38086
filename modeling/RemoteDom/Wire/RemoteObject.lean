import RemoteDom.Identity
import RemoteDom.Wire.Fields

/-! What scripts answer: values, handles of objects, and the exceptions that they throw. -/

namespace RemoteDom

structure RemoteObject where
  type : String
  subtype : Option String
  className : Option String
  value : Option Json
  /-- Set for all but primitive values. -/
  handle : Option Handle
  description : Option String
deriving DecidableEq, Repr

namespace RemoteObject

/-- What is assumed of a result that is missing. -/
def unspecified : RemoteObject := ⟨"", none, none, none, none, none⟩

instance : Inhabited RemoteObject := ⟨unspecified⟩

def isNullish (object : RemoteObject) : Bool :=
  object.type == "undefined" || object.subtype == some "null"

def presentHandle? (object : RemoteObject) : Option Handle :=
  if object.isNullish then none else object.handle

def ofJson? : Json → Option RemoteObject := Wire.record do
  let type ← Wire.defaulted "type" "" Wire.string
  let subtype ← Wire.optional "subtype" Wire.string
  let className ← Wire.optional "className" Wire.string
  let value ← Wire.optional "value" some
  let handle ← Wire.optional "objectId" Wire.string
  let description ← Wire.optional "description" Wire.string
  return ⟨type, subtype, className, value, handle.map Handle.mk, description⟩

/-- The object that a node was resolved to. -/
def ofResolved? : Json → Option RemoteObject := Wire.sole "object" ofJson?

end RemoteObject

structure Exception where
  text : String
  thrown : Option RemoteObject
  line : Int
  column : Int
deriving DecidableEq, Repr

namespace Exception

def message (exception : Exception) : String :=
  (exception.thrown.bind RemoteObject.description).getD exception.text

def ofJson? : Json → Option Exception := Wire.record do
  let text ← Wire.defaulted "text" "" Wire.string
  let thrown ← Wire.optional "exception" RemoteObject.ofJson?
  let line ← Wire.defaulted "lineNumber" 0 Wire.signed
  let column ← Wire.defaulted "columnNumber" 0 Wire.signed
  return ⟨text, thrown, line, column⟩

end Exception

/-- The outcome of a script. -/
structure Evaluation where
  result : RemoteObject
  exception : Option Exception
deriving DecidableEq, Repr

def Evaluation.ofJson? : Json → Option Evaluation := Wire.record do
  let result ← Wire.defaulted "result" RemoteObject.unspecified RemoteObject.ofJson?
  let exception ← Wire.optional "exceptionDetails" Exception.ofJson?
  return ⟨result, exception⟩

structure Property where
  name : String
  value : Option RemoteObject
  enumerable : Bool
deriving DecidableEq, Repr

namespace Property

def ofJson? : Json → Option Property := Wire.record do
  let name ← Wire.required "name" Wire.string
  let value ← Wire.optional "value" RemoteObject.ofJson?
  let enumerable ← Wire.defaulted "enumerable" false Wire.boolean
  return ⟨name, value, enumerable⟩

def listOfJson? : Json → Option (List Property) :=
  Wire.record (Wire.defaulted "result" [] (Wire.list ofJson?))

end Property

end RemoteDom
