import RemoteDom.Proofs.Json.RoundTrip
import RemoteDom.Wire.Request

/-! Which request frames are read as they were written: all whose numbers are in range, and whose values that others
made are held by their texts and do not nest too deep. A frame is written with its members in the order in which they
are declared and read with them in the order of their names. -/

namespace RemoteDom

namespace Json

/-- A value that its text holds and that nests so deep at most. -/
def Held (levels : Nat) (value : Json) : Prop := value.Kept ∧ value.height ≤ levels

/-- A value that is read from its text and that nests so deep at most. -/
def Fits (levels : Nat) (value : Json) : Prop := value.Readable ∧ value.height ≤ levels

variable {levels : Nat}

theorem Held.fits {value : Json} (held : Held levels value) : Fits levels value :=
  ⟨Kept.readable value held.1, held.2⟩

theorem Held.sorted_eq {value : Json} (held : Held levels value) : value.sorted = value :=
  Kept.sorted_eq value held.1

@[simp]
theorem fits_null : Fits levels .null := ⟨trivial, Nat.zero_le _⟩

@[simp]
theorem fits_bool (value : Bool) : Fits levels (.bool value) := ⟨trivial, Nat.zero_le _⟩

@[simp]
theorem fits_string (text : String) : Fits levels (.string text) := ⟨trivial, Nat.zero_le _⟩

private theorem fits_integer {n : Int} (kept : Decimal.Kept n) : Fits levels (.integer n) := ⟨kept, Nat.zero_le _⟩

private theorem fits_real {x : Binary64} (kept : KeptReal x) : Fits levels (.real x) := ⟨kept, Nat.zero_le _⟩

private theorem fits_array {items : List Json} (each : ∀ item ∈ items, Fits levels item) :
    Fits (levels + 1) (.array items) := by
  have all : ReadableItems items ∧ heightOfItems items ≤ levels := by
    induction items with
    | nil => exact ⟨trivial, Nat.zero_le _⟩
    | cons item rest ih =>
        obtain ⟨⟨plain, shallow⟩, later⟩ := List.forall_mem_cons.mp each
        obtain ⟨others, shallows⟩ := ih later
        exact ⟨⟨plain, others⟩, Nat.max_le.mpr ⟨shallow, shallows⟩⟩
  exact ⟨all.1, Nat.succ_le_succ all.2⟩

private theorem fits_object {members : List (String × Json)} (each : ∀ member ∈ members, Fits levels member.2) :
    Fits (levels + 1) (.object members) := by
  have all : ReadableMembers members ∧ heightOfMembers members ≤ levels := by
    induction members with
    | nil => exact ⟨trivial, Nat.zero_le _⟩
    | cons member rest ih =>
        obtain ⟨⟨plain, shallow⟩, later⟩ := List.forall_mem_cons.mp each
        obtain ⟨others, shallows⟩ := ih later
        exact ⟨⟨plain, others⟩, Nat.max_le.mpr ⟨shallow, shallows⟩⟩
  exact ⟨all.1, Nat.succ_le_succ all.2⟩

private theorem sortedItems_eq_map (items : List Json) : sortedItems items = items.map sorted := by
  induction items with
  | nil => rfl
  | cons item rest ih => rw [sortedItems, ih, List.map_cons]

private theorem sortedMembers_eq_map (members : List (String × Json)) :
    sortedMembers members = members.map fun member => (member.1, member.2.sorted) := by
  induction members with
  | nil => rfl
  | cons member rest ih => rw [sortedMembers, ih, List.map_cons]

@[simp]
theorem sorted_null : Json.null.sorted = .null := rfl

@[simp]
theorem sorted_bool (value : Bool) : (Json.bool value).sorted = .bool value := rfl

@[simp]
theorem sorted_integer (value : Int) : (Json.integer value).sorted = .integer value := rfl

@[simp]
theorem sorted_real (value : Binary64) : (Json.real value).sorted = .real value := rfl

@[simp]
theorem sorted_string (text : String) : (Json.string text).sorted = .string text := rfl

@[simp]
theorem sorted_array (items : List Json) : (Json.array items).sorted = .array (items.map sorted) := by
  rw [sorted, sortedItems_eq_map]

@[simp]
theorem sorted_object (members : List (String × Json)) :
    (Json.object members).sorted = .ofMembers (members.map fun member => (member.1, member.2.sorted)) := by
  rw [sorted, sortedMembers_eq_map]

end Json

open Json (Held Fits)

namespace Argument

/-- What is passed as a value is held. -/
def InRange : Argument → Prop
  | .value plain => Held 123 plain
  | .both plain _ => Held 123 plain
  | .handle _ => True
  | .neither => True

theorem InRange.fits {argument : Argument} (within : argument.InRange) : Fits 124 (argument.gathered .object) := by
  cases argument with
  | value plain =>
      have held : Held 123 plain := within
      exact Json.fits_object (by simpa using held.fits)
  | handle handle => exact Json.fits_object (by simp)
  | both plain handle =>
      have held : Held 123 plain := within
      exact Json.fits_object (by simpa using held.fits)
  | neither => exact Json.fits_object nofun

private theorem InRange.sorted_gathered {argument : Argument} (within : argument.InRange) :
    (argument.gathered .object).sorted = argument.gathered .ofMembers := by
  cases argument with
  | value plain | both plain handle =>
      have held : Held 123 plain := within
      simp [gathered, held.sorted_eq]
  | handle | neither => simp [gathered]

end Argument

namespace Command

/-- The numbers of a command are in range, and what others put into it is held. -/
def InRange : Command → Prop
  | .describeNode _ backend depth _ => (∀ id ∈ backend, Json.Decimal.Kept id.number) ∧ Json.Decimal.Kept depth
  | .resolveNode backend => Json.Decimal.Kept backend.number
  | .getMarkup _ backend => ∀ id ∈ backend, Json.Decimal.Kept id.number
  | .callFunctionOn _ _ arguments _ _ => ∀ argument ∈ arguments, argument.InRange
  | .dispatchMouseEvent _ x y _ clickCount =>
      (x.isFinite = true → Json.KeptReal x) ∧ (y.isFinite = true → Json.KeptReal y) ∧ Json.Decimal.Kept clickCount
  | .raw _ params => Held 126 params
  | _ => True

private theorem fits_coordinate {x : Binary64} (kept : x.isFinite = true → Json.KeptReal x) :
    Fits 125 (coordinate x) := by
  unfold coordinate
  split
  next finite => exact Json.fits_real (kept finite)
  next => exact Json.fits_null

@[simp]
theorem sorted_coordinate (x : Binary64) : (coordinate x).sorted = coordinate x := by
  unfold coordinate
  split <;> rfl

private theorem fits_referenceMembers (object : Option Handle) {backend : Option BackendId}
    (kept : ∀ id ∈ backend, Json.Decimal.Kept id.number) :
    ∀ member ∈ referenceMembers object backend, Fits 125 member.2 := by
  cases object <;> cases backend <;> simp [referenceMembers, memberOf, Json.fits_integer, kept]

theorem InRange.fits {command : Command} (within : command.InRange) :
    ∀ params ∈ command.paramsBy .object, Fits 126 params := by
  intro params given
  cases command with
  | describeNode object backend depth pierce =>
      cases given
      refine Json.fits_object (List.forall_mem_append.mpr ⟨fits_referenceMembers object within.1, ?_⟩)
      simp [Json.fits_integer within.2]
  | resolveNode backend =>
      cases given
      exact Json.fits_object (by simp [Json.fits_integer within])
  | getMarkup object backend =>
      cases given
      exact Json.fits_object (fits_referenceMembers object within)
  | callFunctionOn function object arguments byValue awaitPromise =>
      cases given
      have passed : Fits 125 (.array (arguments.map (Argument.gathered .object))) := by
        refine Json.fits_array fun item inside => ?_
        obtain ⟨argument, among, rfl⟩ := List.mem_map.mp inside
        exact (within argument among).fits
      refine Json.fits_object ?_
      split <;> simp [handleMember, passed]
  | dispatchMouseEvent action x y button clickCount =>
      cases given
      exact Json.fits_object (by
        simp [fits_coordinate within.1, fits_coordinate within.2.1, Json.fits_integer within.2.2])
  | raw method params =>
      cases given
      exact Held.fits within
  | getTargets => cases given
  | _ =>
      cases given
      exact Json.fits_object (by simp [handleMember])

/-- The parameters that are read are those that were written, in the order of their names. -/
private theorem InRange.sorted_params {command : Command} (within : command.InRange) :
    (command.paramsBy .object).map Json.sorted = command.params? := by
  cases command with
  | describeNode object backend | getMarkup object backend =>
      cases object <;> cases backend <;> simp [params?, paramsBy, referenceMembers, memberOf]
  | callFunctionOn function object arguments =>
      have passed : arguments.map (Json.sorted ∘ Argument.gathered .object) =
          arguments.map (Argument.gathered .ofMembers) :=
        List.map_congr_left fun argument among => (within argument among).sorted_gathered
      cases given : arguments.isEmpty <;> simp [params?, paramsBy, handleMember, given, passed]
  | raw method params => simp [params?, paramsBy, Held.sorted_eq within]
  | _ => simp [params?, paramsBy, handleMember]

end Command

namespace Request

/-- A request that a client can make and a browser can read. -/
def InRange (request : Request) : Prop := request.id < 18446744073709551616 ∧ request.command.InRange

/-- The frame is read as it was written. -/
def Legible (request : Request) : Prop := Json.read? request.text = some request.toJson

theorem InRange.fits {request : Request} (within : request.InRange) : Fits 127 (request.gathered .object) := by
  refine Json.fits_object ?_
  have small : request.id < 18446744073709551616 := within.1
  have number : Fits 126 (.integer request.id) := Json.fits_integer ⟨by omega, by omega⟩
  cases given : request.command.paramsBy .object with
  | none => cases request.session.isTopLevel <;> simp [Command.memberOf, number]
  | some params =>
      have fits : Fits 126 params := within.2.fits params given
      cases request.session.isTopLevel <;> simp [Command.memberOf, number, fits]

private theorem InRange.sorted_gathered {request : Request} (within : request.InRange) :
    (request.gathered .object).sorted = request.toJson := by
  have params := within.2.sorted_params
  unfold Command.params? at params
  unfold toJson gathered
  rw [← params]
  cases request.command.paramsBy .object <;> cases request.session.isTopLevel <;> simp [Command.memberOf]

theorem InRange.legible {request : Request} (within : request.InRange) : request.Legible :=
  (Json.read?_compact within.fits.1 within.fits.2).trans (congrArg some within.sorted_gathered)

example : Request.text ⟨7, ⟨"S"⟩, .getProperties ⟨"list"⟩ true⟩ =
    "\x7b\"id\":7,\"sessionId\":\"S\",\"method\":\"Runtime.getProperties\"," ++
      "\"params\":\x7b\"objectId\":\"list\",\"ownProperties\":true\x7d\x7d" := by decide +kernel

end Request

end RemoteDom
