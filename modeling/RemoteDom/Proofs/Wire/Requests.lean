import RemoteDom.Proofs.Wire.Legibility
import RemoteDom.Wire.Fields

/-! Reading request frames. A frame has its identifier, its method and, unless there are none, its parameters and its
session, each under its own name. From the parameters of a command the command itself can be read again, so that two
requests with one frame are the same request. -/

namespace RemoteDom

variable {α : Type}

namespace Json

private theorem lookup_foldl_putMember (name : String) (members sorted : List (String × Json)) :
    (members.foldl (fun sorted member => putMember member.1 member.2 sorted) sorted).lookup name =
      (members.reverse.lookup name).or (sorted.lookup name) := by
  induction members generalizing sorted with
  | nil => rfl
  | cons member rest ih =>
      obtain ⟨other, value⟩ := member
      rw [List.foldl_cons, ih, List.reverse_cons, List.lookup_append, Option.or_assoc]
      by_cases same : name = other
      · subst same
        rw [lookup_putMember_self]
        simp
      · have apart : (name == other) = false := by simp [same]
        rw [lookup_putMember_ne same]
        simp [List.lookup_cons, apart]

private theorem get?_ofMembers (name : String) (members : List (String × Json)) :
    (ofMembers members).get? name = members.reverse.lookup name := by
  rw [ofMembers, get?, lookup_foldl_putMember, List.lookup_nil, Option.or_none]

end Json

namespace Wire

/-- A member that must be there. -/
def member (name : String) (read : Json → Option α) (params : Json) : Option α := (params.get? name).bind read

/-- A member that may be left out. Null does not stand for nothing. -/
def possible (name : String) (read : Json → Option α) (params : Json) : Option (Option α) :=
  match params.get? name with
  | none => some none
  | some value => (read value).map some

def handle (value : Json) : Option Handle := (string value).map Handle.mk

def integer : Json → Option Int
  | .integer value => some value
  | _ => none

def backend (value : Json) : Option BackendId := (integer value).map BackendId.mk

def real : Json → Option Binary64
  | .real value => some value
  | _ => none

def argument (value : Json) : Option Argument := do
  match value.get? "value", ← possible "objectId" handle value with
  | some plain, some object => some (.both plain object)
  | some plain, none => some (.value plain)
  | none, some object => some (.handle object)
  | none, none => some .neither

@[simp]
theorem member_ofMembers (name : String) (read : Json → Option α) (members : List (String × Json)) :
    member name read (.ofMembers members) = (members.reverse.lookup name).bind read := by
  rw [member, Json.get?_ofMembers]

@[simp]
theorem possible_ofMembers (name : String) (read : Json → Option α) (members : List (String × Json)) :
    possible name read (.ofMembers members) =
      match members.reverse.lookup name with
      | none => some none
      | some value => (read value).map some := by
  rw [possible, Json.get?_ofMembers]

@[simp]
theorem string_string (value : String) : string (.string value) = some value := rfl

@[simp]
theorem boolean_bool (value : Bool) : boolean (.bool value) = some value := rfl

@[simp]
theorem integer_integer (value : Int) : integer (.integer value) = some value := rfl

@[simp]
theorem real_real (value : Binary64) : real (.real value) = some value := rfl

@[simp]
theorem handle_string (object : Handle) : handle (.string object.text) = some object := rfl

@[simp]
theorem backend_integer (id : BackendId) : backend (.integer id.number) = some id := rfl

@[simp]
theorem argument_gathered (written : Argument) : argument (written.gathered .ofMembers) = some written := by
  cases written <;> simp [argument, Argument.gathered, Json.get?_ofMembers, List.lookup_cons]

@[simp]
theorem list_argument (arguments : List Argument) :
    list argument (.array (arguments.map (Argument.gathered .ofMembers))) = some arguments := by
  induction arguments with
  | nil => rfl
  | cons first rest ih =>
      rw [list] at ih ⊢
      simp [List.mapM_cons, ih]

end Wire

@[simp]
theorem MouseAction.ofWireName_wireName (action : MouseAction) : ofWireName action.wireName = action := by
  cases action <;> rfl

@[simp]
theorem MouseButton.ofWireName_wireName (button : MouseButton) : ofWireName button.wireName = button := by
  cases button <;> rfl

namespace Command

def isTyped : Command → Bool
  | .raw _ _ => false
  | _ => true

def isFinite : Command → Bool
  | .dispatchMouseEvent _ x y _ _ => x.isFinite && y.isFinite
  | _ => true

open Wire in
/-- The command of a method that is known, each of its parameters read under its own name. -/
def ofWire? (method : String) : Option Json → Option Command
  | none => if method = "Target.getTargets" then some .getTargets else none
  | some params =>
      match method with
      | "DOM.describeNode" => do
          return .describeNode (← possible "objectId" handle params) (← possible "backendNodeId" backend params)
            (← member "depth" integer params) (← member "pierce" boolean params)
      | "DOM.resolveNode" => return .resolveNode (← member "backendNodeId" backend params)
      | "DOM.getOuterHTML" => do
          return .getMarkup (← possible "objectId" handle params) (← possible "backendNodeId" backend params)
      | "DOM.getBoxModel" => return .getBoxModel (← member "objectId" handle params)
      | "DOM.scrollIntoViewIfNeeded" => return .scrollIntoView (← member "objectId" handle params)
      | "Runtime.evaluate" => do
          return .evaluate (← member "expression" string params) (← member "returnByValue" boolean params)
            (← member "awaitPromise" boolean params)
      | "Runtime.callFunctionOn" => do
          return .callFunctionOn (← member "functionDeclaration" string params) (← member "objectId" handle params)
            ((← possible "arguments" (list argument) params).getD []) (← member "returnByValue" boolean params)
            (← member "awaitPromise" boolean params)
      | "Runtime.getProperties" => do
          return .getProperties (← member "objectId" handle params) (← member "ownProperties" boolean params)
      | "Runtime.releaseObject" => return .releaseObject (← member "objectId" handle params)
      | "Target.attachToTarget" => do
          return .attachToTarget ⟨← member "targetId" string params⟩ (← member "flatten" boolean params)
      | "Target.detachFromTarget" => return .detachFromTarget ⟨← member "sessionId" string params⟩
      | "Target.setDiscoverTargets" => return .setDiscoverTargets (← member "discover" boolean params)
      | "Input.dispatchMouseEvent" => do
          return .dispatchMouseEvent (.ofWireName (← member "type" string params)) (← member "x" real params)
            (← member "y" real params) (.ofWireName (← member "button" string params))
            (← member "clickCount" integer params)
      | _ => none

private theorem ofWire?_params? {command : Command} (typed : command.isTyped = true)
    (finite : command.isFinite = true) :
    ofWire? command.method command.params? = some command := by
  cases command with
  | describeNode object backend =>
      cases object <;> cases backend <;>
        simp [ofWire?, method, params?, paramsBy, referenceMembers, memberOf, List.lookup_cons]
  | getMarkup object backend =>
      cases object <;> cases backend <;>
        simp [ofWire?, method, params?, paramsBy, referenceMembers, memberOf, List.lookup_cons]
  | callFunctionOn function object arguments =>
      cases arguments with
      | nil => simp [ofWire?, method, params?, paramsBy, handleMember, List.lookup_cons]
      | cons first rest =>
          have listed := Wire.list_argument (first :: rest)
          rw [List.map_cons] at listed
          simp [ofWire?, method, params?, paramsBy, handleMember, List.lookup_cons, listed]
  | dispatchMouseEvent action x y =>
      obtain ⟨left, top⟩ := Bool.and_eq_true_iff.mp finite
      simp [ofWire?, method, params?, paramsBy, coordinate, left, top, List.lookup_cons]
  | getTargets => rfl
  | raw => cases typed
  | _ => simp [ofWire?, method, params?, paramsBy, handleMember, List.lookup_cons]

private theorem params?_eq_none_iff (command : Command) : command.params? = none ↔ command = .getTargets := by
  cases command <;> simp [params?, paramsBy]

end Command

namespace Request

open Wire in
def partsOf? (frame : Json) : Option (Nat × SessionId × String × Option Json) := do
  return ((← member "id" integer frame).toNat, ⟨(← possible "sessionId" string frame).getD ""⟩,
    ← member "method" string frame, ← possible "params" some frame)

private theorem partsOf?_toJson (request : Request) :
    partsOf? request.toJson = some (request.id, request.session, request.command.method, request.command.params?) := by
  obtain ⟨id, ⟨session⟩, command⟩ := request
  unfold Command.params?
  by_cases top : session = ""
  · cases given : command.paramsBy .ofMembers <;>
      simp [partsOf?, toJson, gathered, SessionId.isTopLevel, top, given, Command.memberOf, Command.tag_eq_method,
        List.lookup_cons]
  · cases given : command.paramsBy .ofMembers <;>
      simp [partsOf?, toJson, gathered, SessionId.isTopLevel, top, given, Command.memberOf, Command.tag_eq_method,
        List.lookup_cons]

theorem exists_members (request : Request) :
    ∃ members, request.toJson = .object members ∧
      members.map Prod.fst =
        ["id", "method"] ++ (if request.command = .getTargets then [] else ["params"]) ++
          if request.session.isTopLevel then [] else ["sessionId"] := by
  have behindId : ¬ "method" < "id" ∧ ¬ "params" < "id" ∧ ¬ "sessionId" < "id" := by decide
  have method : "method" < "sessionId" ∧ ¬ "params" < "method" := by decide
  have params : "params" < "sessionId" := by decide
  refine ⟨_, rfl, ?_⟩
  simp only [← request.command.params?_eq_none_iff, Command.params?]
  cases request.command.paramsBy .ofMembers <;> cases request.session.isTopLevel <;>
    simp only [Command.memberOf, Json.putMember, behindId, method, params, List.foldl_cons, List.foldl_nil,
      List.cons_append, List.nil_append, List.append_nil, List.map_cons, List.map_nil, String.reduceEq, reduceCtorEq,
      reduceIte, Bool.false_eq_true]

private theorem Legible.toJson_eq {request other : Request} (legible : request.Legible) (also : other.Legible)
    (same : request.text = other.text) : request.toJson = other.toJson := by
  unfold Legible at legible also
  rw [same, also] at legible
  exact (Option.some.inj legible).symm

/-- A frame has exactly its own members, from which all of the request can be read, and no other request has the same
frame. -/
theorem recovered_of_legible {request : Request} (legible : request.Legible) :
    (∃ members, Json.read? request.text = some (.object members) ∧
      members.map Prod.fst =
        ["id", "method"] ++ (if request.command = .getTargets then [] else ["params"]) ++
          (if request.session.isTopLevel then [] else ["sessionId"]) ∧
      partsOf? (.object members) =
        some (request.id, request.session, request.command.method, request.command.params?)) ∧
      (request.command.isTyped = true → request.command.isFinite = true →
        Command.ofWire? request.command.method request.command.params? = some request.command) ∧
      ∀ other : Request, other.Legible → request.text = other.text →
        (request.id, request.session, request.command.method, request.command.params?) =
          (other.id, other.session, other.command.method, other.command.params?) ∧
        (request.command.isTyped = true → request.command.isFinite = true → other.command.isTyped = true →
          other.command.isFinite = true → request = other) := by
  refine ⟨?_, Command.ofWire?_params?, fun other also same => ?_⟩
  · obtain ⟨members, written, names⟩ := request.exists_members
    exact ⟨members, written ▸ legible, names, written ▸ request.partsOf?_toJson⟩
  · have parts := request.partsOf?_toJson.symm.trans
      ((congrArg partsOf? (legible.toJson_eq also same)).trans other.partsOf?_toJson)
    refine ⟨Option.some.inj parts, fun typed finite known limited => ?_⟩
    simp only [Option.some.injEq, Prod.mk.injEq] at parts
    obtain ⟨ids, sessions, methods, params⟩ := parts
    have read := Command.ofWire?_params? typed finite
    rw [methods, params, Command.ofWire?_params? known limited] at read
    cases request
    cases other
    simp_all

/-- A call with a null argument, which is a member, and an object that both its text and its session have quotes in. -/
theorem recovered_of_legible_nullArgument :
    Legible ⟨7, ⟨"S\"1"⟩, .callFunctionOn "function(a, b) \x7b\x7d" ⟨"o\n1"⟩ [.value .null, .handle ⟨"h"⟩] false true⟩ ∧
      Command.ofWire? "Runtime.callFunctionOn" (some (.object
          [("arguments", .array [.object [("value", .null)], .object [("objectId", .string "h")]]),
            ("awaitPromise", .bool true), ("functionDeclaration", .string "function(a, b) \x7b\x7d"),
            ("objectId", .string "o\n1"), ("returnByValue", .bool false)])) =
        some (.callFunctionOn "function(a, b) \x7b\x7d" ⟨"o\n1"⟩ [.value .null, .handle ⟨"h"⟩] false true) :=
  have legible : Legible ⟨7, ⟨"S\"1"⟩, .callFunctionOn "function(a, b) \x7b\x7d" ⟨"o\n1"⟩
      [.value .null, .handle ⟨"h"⟩] false true⟩ :=
    InRange.legible ⟨by decide, by simp [Command.InRange, Argument.InRange, Json.Held, Json.Kept, Json.height]⟩
  ⟨legible, (recovered_of_legible legible).2.1 rfl rfl⟩

end Request

end RemoteDom
