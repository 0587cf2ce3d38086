import RemoteDom.Proofs.Wire.Records
import RemoteDom.Wire.Node

/-! What descriptions of nodes say. A description is read as exactly the node that it says, with all that is below it,
and a value is rejected exactly if it is unfit for a description, be it only somewhere deep inside. -/

namespace RemoteDom

namespace ShadowMode

/-- How a mode is named: bare, or as the only member of an object. -/
inductive Named : ShadowMode → Json → Prop
  | bare (mode : ShadowMode) : Named mode (.string mode.wireName)
  | keyed (mode : ShadowMode) : Named mode (.object [(mode.wireName, .null)])

private theorem ofWireName?_eq_some_iff {name : String} {mode : ShadowMode} :
    ofWireName? name = some mode ↔ mode.wireName = name := by
  refine ⟨fun named => ?_, fun same => same ▸ ofWireName?_wireName mode⟩
  unfold ofWireName? at named
  split at named <;> cases named <;> rfl

private theorem ofJson?_eq_some_iff {json : Json} {mode : ShadowMode} : ofJson? json = some mode ↔ mode.Named json := by
  constructor
  · intro named
    unfold ofJson? Wire.choice at named
    split at named
    · exact ofWireName?_eq_some_iff.mp named ▸ .bare mode
    · exact ofWireName?_eq_some_iff.mp named ▸ .keyed mode
    · cases named
  · rintro (_ | _)
    · exact ofWireName?_wireName mode
    · exact ofWireName?_wireName mode

end ShadowMode

namespace Node

inductive Kind where
  | integer
  | text
  | mode
  | node
  | list (items : Kind)

structure Entry where
  name : String
  /-- Whether null stands for nothing. -/
  nullable : Bool
  kind : Kind

def entries : List Entry :=
  [⟨"nodeId", false, .integer⟩, ⟨"backendNodeId", true, .integer⟩, ⟨"nodeType", false, .integer⟩,
    ⟨"nodeName", false, .text⟩, ⟨"localName", false, .text⟩, ⟨"attributes", false, .list .text⟩,
    ⟨"shadowRoots", false, .list .node⟩, ⟨"shadowRootType", true, .mode⟩, ⟨"frameId", true, .text⟩,
    ⟨"contentDocument", true, .node⟩, ⟨"children", false, .list .node⟩, ⟨"documentURL", true, .text⟩]

def memberNames : List String := entries.map Entry.name

/-- The members of a record by their names: in an object each has its name, in an array its place. -/
def membersOf? : Json → Option (String → Option Json)
  | .object members => some fun name => members.lookup name
  | .array items => if items.length = memberNames.length then some fun name => items[memberNames.idxOf name]? else none
  | _ => none

/-- What the members of a description say, given what the descriptions of the nodes below it say. -/
inductive Members (below : Node → Json → Prop) : Node → (String → Option Json) → Prop
  | say {nodeId nodeType : Int} {backend : Option BackendId} {nodeName localName : String} {attributes : List String}
      {shadowRoots children : List Node} {shadowMode : Option ShadowMode} {frame : Option FrameId}
      {contentDocument : Option Node} {documentUrl : Option String} {member : String → Option Json}
      (isNodeId : Wire.Defaulted 0 Wire.Integer nodeId (member "nodeId"))
      (isBackend : Wire.Possible (fun backend => Wire.Integer backend.number) backend (member "backendNodeId"))
      (isNodeType : Wire.Defaulted 0 Wire.Integer nodeType (member "nodeType"))
      (isNodeName : Wire.Defaulted "" Wire.Text nodeName (member "nodeName"))
      (isLocalName : Wire.Defaulted "" Wire.Text localName (member "localName"))
      (areAttributes : Wire.Defaulted [] (Wire.Listed Wire.Text) attributes (member "attributes"))
      (areShadowRoots : Wire.Defaulted [] (Wire.Listed below) shadowRoots (member "shadowRoots"))
      (isShadowMode : Wire.Possible ShadowMode.Named shadowMode (member "shadowRootType"))
      (isFrame : Wire.Possible (fun frame => Wire.Text frame.text) frame (member "frameId"))
      (isContentDocument : Wire.Possible below contentDocument (member "contentDocument"))
      (areChildren : Wire.Defaulted [] (Wire.Listed below) children (member "children"))
      (isDocumentUrl : Wire.Possible Wire.Text documentUrl (member "documentURL")) :
      Members below ⟨nodeId, backend, nodeType, nodeName, localName, attributes, shadowRoots, shadowMode, frame,
        contentDocument, children, documentUrl⟩ member

/-- What a description says. Other members beside those that have a meaning say nothing. -/
inductive WrittenAs : Node → Json → Prop
  | record {node : Node} {json : Json} {member : String → Option Json} (members : membersOf? json = some member)
      (say : Members WrittenAs node member) : WrittenAs node json

/-! How a description is read. -/

private theorem members_iff {below : Node → Json → Prop} {node : Node} {member : String → Option Json} :
    Members below node member ↔
      ∃ nodeId, Wire.Defaulted 0 Wire.Integer nodeId (member "nodeId") ∧
      ∃ backend, Wire.Possible Wire.Integer backend (member "backendNodeId") ∧
      ∃ nodeType, Wire.Defaulted 0 Wire.Integer nodeType (member "nodeType") ∧
      ∃ nodeName, Wire.Defaulted "" Wire.Text nodeName (member "nodeName") ∧
      ∃ localName, Wire.Defaulted "" Wire.Text localName (member "localName") ∧
      ∃ attributes, Wire.Defaulted [] (Wire.Listed Wire.Text) attributes (member "attributes") ∧
      ∃ shadowRoots, Wire.Defaulted [] (Wire.Listed below) shadowRoots (member "shadowRoots") ∧
      ∃ shadowMode, Wire.Possible ShadowMode.Named shadowMode (member "shadowRootType") ∧
      ∃ frame, Wire.Possible Wire.Text frame (member "frameId") ∧
      ∃ contentDocument, Wire.Possible below contentDocument (member "contentDocument") ∧
      ∃ children, Wire.Defaulted [] (Wire.Listed below) children (member "children") ∧
      ∃ documentUrl, Wire.Possible Wire.Text documentUrl (member "documentURL") ∧
        (⟨nodeId, backend.map BackendId.mk, nodeType, nodeName, localName, attributes, shadowRoots, shadowMode,
          frame.map FrameId.mk, contentDocument, children, documentUrl⟩ : Node) = node := by
  constructor
  · rintro ⟨isNodeId, isBackend, isNodeType, isNodeName, isLocalName, areAttributes, areShadowRoots, isShadowMode,
      isFrame, isContentDocument, areChildren, isDocumentUrl⟩
    refine ⟨_, isNodeId, _, isBackend.map fun _ _ is => is, _, isNodeType, _, isNodeName, _, isLocalName, _,
      areAttributes, _, areShadowRoots, _, isShadowMode, _, isFrame.map fun _ _ is => is, _, isContentDocument, _,
      areChildren, _, isDocumentUrl, ?_⟩
    simp only [Option.map_map, Function.comp_def, Option.map_id']
  · rintro ⟨nodeId, isNodeId, backend, isBackend, nodeType, isNodeType, nodeName, isNodeName, localName, isLocalName,
      attributes, areAttributes, shadowRoots, areShadowRoots, shadowMode, isShadowMode, frame, isFrame, contentDocument,
      isContentDocument, children, areChildren, documentUrl, isDocumentUrl, rfl⟩
    exact .say isNodeId (isBackend.map fun _ _ is => is) isNodeType isNodeName isLocalName areAttributes areShadowRoots
      isShadowMode (isFrame.map fun _ _ is => is) isContentDocument areChildren isDocumentUrl

private theorem pure_eq_some_iff {node other : Node} {fields rest : Wire.Fields} :
    (pure node : Wire.FieldReader Node) fields = some (other, rest) ↔ node = other ∧ fields = rest := by
  show some (node, fields) = some (other, rest) ↔ _
  rw [Option.some_inj, Prod.mk.injEq]

variable {read : Json → Option Node} {node : Node}

private theorem fields_named {members : List (String × Json)} {rest : Wire.Fields} :
    fields read (.named members) = some (node, rest) ↔
      Members (fun node json => read json = some node) node (fun name => members.lookup name) ∧
        .named members = rest := by
  simp only [fields, Wire.bind_defaulted_named, Wire.bind_optional_named, Wire.signed_eq_some_iff,
    Wire.string_eq_some_iff, Wire.list_eq_some_iff, ShadowMode.ofJson?_eq_some_iff, pure_eq_some_iff, members_iff,
    ← exists_and_right, and_assoc]

/-- An array must have all places, for the last one must be taken even if there is nothing to say. -/
private theorem fields_listed {items : List Json} {rest : Wire.Fields} :
    fields read (.listed items) = some (node, rest) ↔
      12 ≤ items.length ∧ (Members (fun node json => read json = some node) node fun name =>
        items[memberNames.idxOf name]?) ∧ .listed (items.drop 12) = rest := by
  rw [show fields read (.listed items) = fields read (.listed (items.drop 0)) from rfl]
  by_cases long : 12 ≤ items.length
  · have within (place : Nat) (early : place < 12) : place < items.length := Nat.lt_of_lt_of_le early long
    simp only [fields, Wire.bind_defaulted_listed, Wire.bind_optional_listed, Wire.signed_eq_some_iff,
      Wire.string_eq_some_iff, Wire.list_eq_some_iff, ShadowMode.ofJson?_eq_some_iff, pure_eq_some_iff, members_iff,
      ← exists_and_right, and_assoc, Nat.reduceAdd, within, long, Nat.reduceLT, true_and]
    rfl
  · have short : ¬11 < items.length := by omega
    simp only [fields, Wire.bind_defaulted_listed, Wire.bind_optional_listed, short, Nat.reduceAdd, long, and_false,
      false_and, exists_false]

private theorem record_fields {json : Json} :
    Wire.record (fields read) json = some node ↔
      ∃ member, membersOf? json = some member ∧ Members (fun node json => read json = some node) node member := by
  cases json with
  | object members =>
      rw [Wire.record_object_eq_some_iff]
      simp only [fields_named, exists_and_left, exists_eq', and_true]
      exact ⟨fun say => ⟨_, rfl, say⟩, fun ⟨_, same, say⟩ => Option.some.inj same ▸ say⟩
  | array items =>
      rw [Wire.record_array_eq_some_iff, fields_listed]
      constructor
      · rintro ⟨long, say, short⟩
        have all : items.length = 12 := Nat.le_antisymm (List.drop_eq_nil_iff.mp (Wire.Fields.listed.inj short)) long
        exact ⟨_, if_pos all, say⟩
      · rintro ⟨member, members, say⟩
        obtain ⟨all, ⟨⟩⟩ := Option.ite_none_right_eq_some.mp members
        exact ⟨Nat.le_of_eq all.symm, say, congrArg Wire.Fields.listed (List.drop_eq_nil_iff.mpr (Nat.le_of_eq all))⟩
  | _ => exact ⟨nofun, nofun⟩

/-! Depth. -/

private theorem height_lt_of_membersOf? {json value : Json} {member : String → Option Json} {name : String}
    (members : membersOf? json = some member) (given : member name = some value) : value.height < json.height := by
  cases json with
  | object written =>
      cases members
      exact Nat.lt_succ_of_le (Json.height_le_of_lookup given)
  | array items =>
      obtain ⟨-, ⟨⟩⟩ := Option.ite_none_right_eq_some.mp members
      exact Nat.lt_succ_of_le (Json.height_le_of_mem_items (List.mem_of_getElem? given))
  | _ => cases members

theorem Members.imp {below other : Node → Json → Prop} {depth : Nat} {member : String → Option Json}
    (say : Members below node member) (low : ∀ name json, member name = some json → json.height ≤ depth)
    (implies : ∀ node json, json.height ≤ depth → below node json → other node json) : Members other node member := by
  have inList (name : String) (nodes : List Node) (json : Json) (given : member name = some json)
      (listed : Wire.Listed below nodes json) : Wire.Listed other nodes json :=
    listed.imp fun node item lower => implies node item (Nat.le_of_lt (Nat.lt_of_lt_of_le lower (low name json given)))
  cases say with
  | say isNodeId isBackend isNodeType isNodeName isLocalName areAttributes areShadowRoots isShadowMode isFrame
      isContentDocument areChildren isDocumentUrl =>
    exact .say isNodeId isBackend isNodeType isNodeName isLocalName areAttributes (areShadowRoots.imp (inList _))
      isShadowMode isFrame (isContentDocument.imp fun node json given => implies node json (low _ json given))
      (areChildren.imp (inList _)) isDocumentUrl

/-- A reader that goes deep enough reads what a description says. The induction is on the depth; what is below a
description is less deep. -/
private theorem ofJsonWithin_eq_some_iff {depth : Nat} {json : Json} (within : json.height ≤ depth) :
    ofJsonWithin depth json = some node ↔ node.WrittenAs json := by
  induction depth generalizing node json with
  | zero =>
      -- A value without depth is no record.
      have plain : membersOf? json = none := by
        cases json with
        | object | array => cases within
        | _ => rfl
      refine ⟨nofun, fun ⟨members, _⟩ => ?_⟩
      rw [plain] at members
      cases members
  | succ depth ih =>
      have low {member : String → Option Json} (members : membersOf? json = some member) (name : String) (value : Json)
          (given : member name = some value) : value.height ≤ depth :=
        Nat.le_of_lt_succ (Nat.lt_of_lt_of_le (height_lt_of_membersOf? members given) within)
      rw [ofJsonWithin, record_fields]
      constructor
      · rintro ⟨member, members, say⟩
        exact .record members (say.imp (low members) fun node json deep => (ih deep).mp)
      · rintro ⟨members, say⟩
        exact ⟨_, members, say.imp (low members) fun node json deep => (ih deep).mpr⟩

/-! What is unfit for a description. -/

/-- Whether a value is of a kind, given which values describe nodes. -/
def Kind.Fits (below : Json → Prop) : Kind → Json → Prop
  | .integer, json => ∃ number, Wire.Integer number json
  | .text, json => ∃ text, Wire.Text text json
  | .mode, json => ∃ mode : ShadowMode, mode.Named json
  | .node, json => below json
  | .list kind, json => ∃ items, json = .array items ∧ ∀ item ∈ items, kind.Fits below item

/-- Whether a member may be missing or have that value. -/
def Entry.Allows (below : Json → Prop) (entry : Entry) (given : Option Json) : Prop :=
  ∀ json, given = some json → (entry.nullable = true → json ≠ .null) → entry.kind.Fits below json

section Domain

variable {below : Json → Prop} {α : Type} {default : α} {written : α → Json → Prop} {name : String} {kind : Kind}
  {given : Option Json}

private theorem allows_defaulted (default : α) (fits : ∀ json, kind.Fits below json ↔ ∃ value, written value json) :
    Entry.Allows below ⟨name, false, kind⟩ given ↔ ∃ value, Wire.Defaulted default written value given := by
  rw [Wire.exists_defaulted_iff]
  exact forall₂_congr fun json _ => (forall_prop_of_true nofun).trans (fits json)

private theorem allows_possible (fits : ∀ json, kind.Fits below json ↔ ∃ value, written value json) :
    Entry.Allows below ⟨name, true, kind⟩ given ↔ ∃ value, Wire.Possible written value given := by
  rw [Wire.exists_possible_iff]
  exact forall₂_congr fun json _ => imp_congr (forall_prop_of_true rfl) (fits json)

private theorem fits_list_iff (fits : ∀ json, kind.Fits below json ↔ ∃ value, written value json) (json : Json) :
    (Kind.list kind).Fits below json ↔ ∃ values, Wire.Listed written values json := by
  rw [Wire.exists_listed_iff]
  exact exists_congr fun items => and_congr_right' (forall₂_congr fun item _ => fits item)

end Domain

private theorem exists_members_iff {below : Node → Json → Prop} {member : String → Option Json} :
    (∃ node, Members below node member) ↔
      ∀ entry ∈ entries, entry.Allows (fun json => ∃ node, below node json) (member entry.name) := by
  have integer (json : Json) : Kind.integer.Fits (fun json => ∃ node, below node json) json ↔
    ∃ number, Wire.Integer number json := Iff.rfl
  have text (json : Json) : Kind.text.Fits (fun json => ∃ node, below node json) json ↔
    ∃ text, Wire.Text text json := Iff.rfl
  have mode (json : Json) : Kind.mode.Fits (fun json => ∃ node, below node json) json ↔
    ∃ mode : ShadowMode, mode.Named json := Iff.rfl
  have node (json : Json) : Kind.node.Fits (fun json => ∃ node, below node json) json ↔
    ∃ node, below node json := Iff.rfl
  simp only [entries, List.forall_mem_cons, allows_defaulted (0 : Int) integer, allows_possible integer,
    allows_defaulted "" text, allows_possible text, allows_possible mode, allows_possible node,
    allows_defaulted [] (fits_list_iff text), allows_defaulted [] (fits_list_iff node), members_iff]
  constructor
  · rintro ⟨_, _, isNodeId, _, isBackend, _, isNodeType, _, isNodeName, _, isLocalName, _, areAttributes, _,
      areShadowRoots, _, isShadowMode, _, isFrame, _, isContentDocument, _, areChildren, _, isDocumentUrl, -⟩
    exact ⟨⟨_, isNodeId⟩, ⟨_, isBackend⟩, ⟨_, isNodeType⟩, ⟨_, isNodeName⟩, ⟨_, isLocalName⟩, ⟨_, areAttributes⟩,
      ⟨_, areShadowRoots⟩, ⟨_, isShadowMode⟩, ⟨_, isFrame⟩, ⟨_, isContentDocument⟩, ⟨_, areChildren⟩,
      ⟨_, isDocumentUrl⟩, List.forall_mem_nil _⟩
  · rintro ⟨⟨_, isNodeId⟩, ⟨_, isBackend⟩, ⟨_, isNodeType⟩, ⟨_, isNodeName⟩, ⟨_, isLocalName⟩, ⟨_, areAttributes⟩,
      ⟨_, areShadowRoots⟩, ⟨_, isShadowMode⟩, ⟨_, isFrame⟩, ⟨_, isContentDocument⟩, ⟨_, areChildren⟩,
      ⟨_, isDocumentUrl⟩, -⟩
    exact ⟨_, _, isNodeId, _, isBackend, _, isNodeType, _, isNodeName, _, isLocalName, _, areAttributes, _,
      areShadowRoots, _, isShadowMode, _, isFrame, _, isContentDocument, _, areChildren, _, isDocumentUrl, rfl⟩

/-- What makes a value unfit for its kind. -/
inductive Unfit : Kind → Json → Prop
  | integer {json : Json} (none : ∀ number, ¬Wire.Integer number json) : Unfit .integer json
  | text {json : Json} (none : ∀ text, ¬Wire.Text text json) : Unfit .text json
  | mode {json : Json} (none : ∀ mode : ShadowMode, ¬mode.Named json) : Unfit .mode json
  | single {kind : Kind} {json : Json} (none : ∀ items, json ≠ .array items) : Unfit (.list kind) json
  | item {kind : Kind} {item : Json} {items : List Json} (member : item ∈ items) (unfit : Unfit kind item) :
      Unfit (.list kind) (.array items)
  | plain {json : Json} (none : membersOf? json = none) : Unfit .node json
  | member {json value : Json} {member : String → Option Json} {entry : Entry} (members : membersOf? json = some member)
      (known : entry ∈ entries) (given : member entry.name = some value)
      (present : entry.nullable = true → value ≠ .null) (unfit : Unfit entry.kind value) : Unfit .node json

/-- The induction is on the way down to the value that is unfit. -/
private theorem not_fits_of_unfit {kind : Kind} {json : Json} (unfit : Unfit kind json) :
    ¬kind.Fits (fun json => ∃ node : Node, node.WrittenAs json) json := by
  induction unfit with
  | integer none => exact fun ⟨number, is⟩ => none number is
  | text none => exact fun ⟨text, is⟩ => none text is
  | mode none => exact fun ⟨mode, is⟩ => none mode is
  | single none => exact fun ⟨items, same, _⟩ => none items same
  | item member _ ih =>
      rintro ⟨items, ⟨⟩, all⟩
      exact ih (all _ member)
  | plain none =>
      rintro ⟨node, ⟨members, _⟩⟩
      rw [none] at members
      cases members
  | member members known given present _ ih =>
      rintro ⟨node, ⟨same, say⟩⟩
      rw [members] at same
      cases same
      exact ih (exists_members_iff.mp ⟨node, say⟩ _ known _ given present)

/-- The induction is on the depth of the value: the items of a list and the members of a description are less deep. -/
private theorem fits_or_unfit (kind : Kind) (json : Json) :
    kind.Fits (fun json => ∃ node : Node, node.WrittenAs json) json ∨ Unfit kind json := by
  induction deep : json.height using Nat.strongRecOn generalizing kind json with
  | ind depth ih =>
    subst deep
    cases kind with
    | integer => exact (Classical.em _).imp_right fun misfit => .integer (not_exists.mp misfit)
    | text => exact (Classical.em _).imp_right fun misfit => .text (not_exists.mp misfit)
    | mode => exact (Classical.em _).imp_right fun misfit => .mode (not_exists.mp misfit)
    | list kind =>
        cases json with
        | array items =>
            refine (Classical.em _).imp_right fun misfit => ?_
            have some : ¬∀ item ∈ items, kind.Fits (fun json => ∃ node : Node, node.WrittenAs json) item :=
              fun all => misfit ⟨items, rfl, all⟩
            simp only [not_forall] at some
            obtain ⟨item, member, wrong⟩ := some
            have lower : item.height < (Json.array items).height :=
              Nat.lt_succ_of_le (Json.height_le_of_mem_items member)
            exact .item member ((ih _ lower kind item rfl).resolve_left wrong)
        | _ => exact .inr (.single nofun)
    | node =>
        cases members : membersOf? json with
        | none => exact .inr (.plain members)
        | some member =>
            refine (Classical.em _).imp_right fun misfit => ?_
            have some : ¬∀ entry ∈ entries,
                entry.Allows (fun json => ∃ node : Node, node.WrittenAs json) (member entry.name) := by
              intro all
              obtain ⟨node, say⟩ := exists_members_iff.mpr all
              exact misfit ⟨node, .record members say⟩
            simp only [Entry.Allows, not_forall] at some
            obtain ⟨entry, known, value, given, present, wrong⟩ := some
            have lower := height_lt_of_membersOf? members given
            exact .member members known given present ((ih _ lower entry.kind value rfl).resolve_left wrong)

private theorem unfit_iff {kind : Kind} {json : Json} :
    Unfit kind json ↔ ¬kind.Fits (fun json => ∃ node : Node, node.WrittenAs json) json :=
  ⟨not_fits_of_unfit, (fits_or_unfit kind json).resolve_left⟩

private theorem unfit_null (kind : Kind) : Unfit kind .null := by
  cases kind with
  | integer => exact .integer nofun
  | text => exact .text nofun
  | mode => exact .mode nofun
  | node => exact .plain rfl
  | list kind => exact .single nofun

private theorem unfit_real (number : Binary64) : Unfit .integer (.real number) := .integer nofun

private theorem unfit_integer_iff (number : Int) :
    Unfit .integer (.integer number) ↔ number < -9223372036854775808 ∨ 9223372036854775808 ≤ number := by
  rw [unfit_iff]
  constructor
  · refine fun misfit => Decidable.byContradiction fun within => misfit ⟨number, .fits ?_ ?_⟩
    · omega
    · omega
  · rintro outside ⟨_, ⟨lower, upper⟩⟩
    omega

private theorem unfit_mode_iff (name : String) : Unfit .mode (.string name) ↔ ∀ mode :
    ShadowMode, mode.wireName ≠ name := by
  rw [unfit_iff]
  constructor
  · rintro misfit mode rfl
    exact misfit ⟨mode, .bare mode⟩
  · rintro unknown ⟨mode, named⟩
    cases named
    exact unknown mode rfl

/-- A description is read as exactly the node that it says, at any depth, and one that says none is rejected. It says
none exactly if some value in it is unfit: null where it does not stand for nothing, a fraction or an integer
outside of sixty-four bits, a mode that nobody knows, or a value of another kind. -/
theorem read_exactly :
    (∀ json node, ofJson? json = some node ↔ node.WrittenAs json) ∧
      (∀ json, ofJson? json = none ↔ Unfit .node json) ∧
      (∀ kind, Unfit kind .null) ∧ (∀ number, Unfit .integer (.real number)) ∧
      (∀ number, Unfit .integer (.integer number) ↔ number < -9223372036854775808 ∨ 9223372036854775808 ≤ number) ∧
      ∀ name, Unfit .mode (.string name) ↔ ∀ mode : ShadowMode, mode.wireName ≠ name := by
  have reads (json : Json) (node : Node) : ofJson? json = some node ↔ node.WrittenAs json :=
    ofJsonWithin_eq_some_iff (Nat.le_refl _)
  refine ⟨reads, fun json => ?_, unfit_null, unfit_real, unfit_integer_iff, unfit_mode_iff⟩
  rw [unfit_iff, Option.eq_none_iff_forall_ne_some, Kind.Fits, not_exists]
  exact forall_congr' fun node => not_congr (reads json node)

/-- A shadow root two levels down keeps its mode, whatever else is said on the way. -/
example :
    (ofJson? (.object [("children", .array [.object [("nodeName", .string "DIV"), ("shadowRoots", .array
      [.object [("shadowRootType", .string "closed")]]), ("unknown", .null)]])])).map
        (fun node => node.children.map fun child => (child.nodeName, child.shadowRoots.map shadowMode)) =
      some [("DIV", [some .closed])] := rfl

/-- A mode as an object, and a description as an array, are read as what they stand for. -/
theorem other_forms_accepted :
    (ofJson? (.object [("shadowRootType", .object [("open", .null)])])).map shadowMode = some (some .opened) ∧
      ((ofJson? (.object [("contentDocument", .array [.integer 0, .integer 5, .integer 9, .string "#document",
        .string "", .array [], .array [], .null, .null, .null, .array [], .null])])).bind contentDocument).map backend =
        some (some ⟨5⟩) :=
  ⟨rfl, rfl⟩

end Node

end RemoteDom
