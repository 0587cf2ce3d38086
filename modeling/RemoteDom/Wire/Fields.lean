import RemoteDom.Json.Basic

/-! Reading values of the wire. A record is an object with its members in any order, others beside them
ignored, or an array of exactly its members in their own order. A reader gives nothing if the value has
the wrong shape. -/

namespace RemoteDom.Wire

variable {α : Type}

def string : Json → Option String
  | .string value => some value
  | _ => none

def boolean : Json → Option Bool
  | .bool value => some value
  | _ => none

def signed : Json → Option Int
  | .integer value =>
      if -9223372036854775808 ≤ value ∧ value ≤ 9223372036854775807 then some value else none
  | _ => none

def unsigned (value : Json) : Option Nat := value.asUnsigned?

/-- Any number; an integer stands for the nearest binary64 number. -/
def number : Json → Option Binary64
  | .integer value => some (.ofInt value)
  | .real value => some value
  | _ => none

def list (read : Json → Option α) : Json → Option (List α)
  | .array items => items.mapM read
  | _ => none

/-- Null stands for nothing. -/
def nullable (read : Json → Option α) : Json → Option (Option α)
  | .null => some none
  | value => (read value).map some

/-- One name out of several, either bare or as the only member of an object, with the value null. -/
def choice (ofName : String → Option α) : Json → Option α
  | .string name => ofName name
  | .object [(name, .null)] => ofName name
  | _ => none

/-- The members of a record that are still to be read. -/
inductive Fields where
  | named (members : List (String × Json))
  | listed (items : List Json)

/-- Reads the members of a record one after another. -/
abbrev FieldReader := StateT Fields Option

namespace Fields

/-- The next member: by its name in an object, by its place in an array. -/
def next (name : String) : Fields → Option Json × Fields
  | .named members => (members.lookup name, .named members)
  | .listed [] => (none, .listed [])
  | .listed (item :: rest) => (some item, .listed rest)

end Fields

def required (name : String) (read : Json → Option α) : FieldReader α := fun fields =>
  match fields.next name with
  | (some value, rest) => (read value).map fun x => (x, rest)
  | (none, _) => none

/-- A member that must be there and names one thing out of several; in an array it stands bare. -/
def requiredChoice (name : String) (ofName : String → Option α) : FieldReader α
  | .named members => required name (choice ofName) (.named members)
  | .listed items => required name (fun value => (string value).bind ofName) (.listed items)

/-- A member that may be missing. Null is a value like any other. -/
def defaulted (name : String) (default : α) (read : Json → Option α) : FieldReader α := fun fields =>
  match fields.next name with
  | (some value, rest) => (read value).map fun x => (x, rest)
  | (none, rest) => some (default, rest)

/-- A member that may be missing or null; in an array its place must be taken. -/
def optional (name : String) (read : Json → Option α) : FieldReader (Option α) := fun fields =>
  match fields, fields.next name with
  | _, (some value, rest) => (nullable read value).map fun x => (x, rest)
  | .named _, (none, rest) => some (none, rest)
  | .listed _, (none, _) => none

/-- A member that may be missing or null, also in an array. -/
def omissible (name : String) (read : Json → Option α) : FieldReader (Option α) :=
  defaulted name none (nullable read)

/-- A record; an array must not have more items than the record has members. -/
def record (members : FieldReader α) : Json → Option α
  | .object written => (members (.named written)).map Prod.fst
  | .array items =>
      match members (.listed items) with
      | some (value, .listed []) => some value
      | _ => none
  | _ => none

/-- A record of which one member alone is read. -/
def sole (name : String) (read : Json → Option α) : Json → Option α := record (required name read)

end RemoteDom.Wire
