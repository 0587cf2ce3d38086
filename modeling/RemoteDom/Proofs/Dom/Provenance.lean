import RemoteDom.Dom.Element
import RemoteDom.Proofs.Program.Heeding

/-! Where the names of objects and nodes come from. An answer of the browser delivers names in the session
that was asked, and a command is routed if its own session delivered all that it names. -/

namespace RemoteDom

namespace Json

def reference? (name : String) : Json → Option NodeRef
  | .string text => if name = "objectId" then some (.object ⟨text⟩) else none
  | .integer number => if name = "backendNodeId" then some (.backend ⟨number⟩) else none
  | _ => none

mutual

def references : Json → List NodeRef
  | .array items => referencesOfItems items
  | .object members => referencesOfMembers members
  | _ => []

def referencesOfItems : List Json → List NodeRef
  | [] => []
  | item :: rest => item.references ++ referencesOfItems rest

def referencesOfMembers : List (String × Json) → List NodeRef
  | [] => []
  | (name, value) :: rest => (reference? name value).toList ++ value.references ++ referencesOfMembers rest

end

private theorem mem_references_putMember {reference : NodeRef} {name : String} {value : Json}
    {members : List (String × Json)}
    (named : reference ∈ referencesOfMembers (putMember name value members)) :
    reference ∈ referencesOfMembers [(name, value)] ∨ reference ∈ referencesOfMembers members := by
  induction members with
  | nil => exact .inl named
  | cons member rest ih =>
      obtain ⟨other, held⟩ := member
      unfold putMember at named
      split at named
      next =>
        simp only [referencesOfMembers, List.append_nil, List.mem_append] at named ⊢
        exact named.imp_right .inr
      next =>
        split at named
        · simp only [referencesOfMembers, List.append_nil, List.mem_append] at named ⊢
          exact named
        · simp only [referencesOfMembers, List.append_nil, List.mem_append] at named ih ⊢
          rcases named with first | later
          · exact .inr (.inl first)
          · exact (ih later).imp_right .inr

private theorem mem_references_foldl {reference : NodeRef} {members sorted : List (String × Json)}
    (named : reference ∈ referencesOfMembers
      (members.foldl (fun sorted member => putMember member.1 member.2 sorted) sorted)) :
    reference ∈ referencesOfMembers members ∨ reference ∈ referencesOfMembers sorted := by
  induction members generalizing sorted with
  | nil => exact .inr named
  | cons member rest ih =>
      simp only [referencesOfMembers, List.mem_append]
      rcases ih named with later | put
      · exact .inl (.inr later)
      · refine (mem_references_putMember put).imp_left fun own => ?_
        exact .inl (by simpa [referencesOfMembers] using own)

private theorem mem_references_ofMembers {reference : NodeRef} {members : List (String × Json)}
    (named : reference ∈ (ofMembers members).references) : reference ∈ referencesOfMembers members := by
  rcases mem_references_foldl named with inside | nothing
  · exact inside
  · cases nothing

@[simp]
theorem referencesOfMembers_append (first second : List (String × Json)) :
    referencesOfMembers (first ++ second) = referencesOfMembers first ++ referencesOfMembers second := by
  induction first with
  | nil => rfl
  | cons member rest ih => simp [referencesOfMembers, ih]

end Json

namespace Argument

def references : Argument → List NodeRef
  | .value json => json.references
  | .handle object => [.object object]
  | .both json object => .object object :: json.references
  | .neither => []

end Argument

namespace Command

def references : Command → List NodeRef
  | .describeNode object backend _ _ | .getMarkup object backend =>
      object.toList.map .object ++ backend.toList.map .backend
  | .resolveNode backend => [.backend backend]
  | .callFunctionOn _ object arguments _ _ => .object object :: arguments.flatMap Argument.references
  | .getBoxModel object | .scrollIntoView object | .getProperties object _ | .releaseObject object =>
      [.object object]
  | .evaluate .. | .getTargets | .attachToTarget .. | .detachFromTarget _ | .setDiscoverTargets _
  | .dispatchMouseEvent .. => []
  | .raw _ params => params.references

def named (command : Command) : List NodeRef :=
  match command.params? with
  | some params => params.references
  | none => []

private theorem references_arguments (arguments : List Argument) :
    Json.referencesOfItems (arguments.map (Argument.gathered .ofMembers)) =
      arguments.flatMap Argument.references := by
  have order : "objectId" < "value" := by decide
  induction arguments with
  | nil => rfl
  | cons argument rest ih =>
      have first : (argument.gathered .ofMembers).references = argument.references := by
        cases argument with
        | handle | neither => rfl
        | value json | both json =>
            cases json <;> simp [Argument.gathered, Argument.references, Json.references, Json.referencesOfMembers,
              Json.reference?, Json.ofMembers, Json.putMember, order]
      rw [List.map_cons, Json.referencesOfItems, ih, List.flatMap_cons, first]

private theorem references_referenceMembers (object : Option Handle) (backend : Option BackendId) :
    Json.referencesOfMembers (referenceMembers object backend) =
      object.toList.map .object ++ backend.toList.map .backend := by
  cases object <;> cases backend <;> rfl

private theorem coordinate_cases (x : Binary64) : coordinate x = .null ∨ coordinate x = .real x := by
  unfold coordinate
  split
  · exact .inr rfl
  · exact .inl rfl

theorem references_of_named {command : Command} {reference : NodeRef} (inside : reference ∈ command.named) :
    reference ∈ command.references := by
  cases command with
  | getTargets | raw => exact inside
  | describeNode | getMarkup =>
      have among := Json.mem_references_ofMembers inside
      simpa [references, references_referenceMembers, Json.referencesOfMembers, Json.reference?,
        Json.references] using among
  | dispatchMouseEvent action x y button clickCount =>
      have among := Json.mem_references_ofMembers inside
      rcases coordinate_cases x with left | left <;> rcases coordinate_cases y with top | top <;>
        simp [left, top, Json.referencesOfMembers, Json.reference?, Json.references] at among
  | callFunctionOn function object arguments byValue awaitPromise =>
      have among := Json.mem_references_ofMembers inside
      by_cases none : arguments = []
      · simpa [none, references, handleMember, Json.referencesOfMembers, Json.reference?,
          Json.references] using among
      · simpa [none, references, handleMember, references_arguments, Json.referencesOfMembers,
          Json.reference?, Json.references] using among
  | resolveNode | getBoxModel | scrollIntoView | getProperties | releaseObject =>
      have among := Json.mem_references_ofMembers inside
      simpa [references, handleMember, Json.referencesOfMembers, Json.reference?,
        Json.references] using among
  | evaluate | attachToTarget | detachFromTarget | setDiscoverTargets =>
      have among := Json.mem_references_ofMembers inside
      simp [Json.referencesOfMembers, Json.reference?, Json.references] at among

end Command

/-- The browser's names of a described node, of its shadow roots and of the document in it. -/
def Node.backends (node : Node) : List BackendId :=
  node.backend.toList ++ node.shadowRoots.filterMap Node.backend
    ++ (node.contentDocument.bind Node.backend).toList

/-- The nodes and objects that an answer to a command tells of. -/
def Command.delivered (command : Command) (answer : Json) : List NodeRef :=
  match command with
  | .describeNode .. => ((Node.ofDescribed? answer).map Node.backends).getD [] |>.map .backend
  | .resolveNode _ => ((RemoteObject.ofResolved? answer).bind RemoteObject.handle).toList.map .object
  | .evaluate .. | .callFunctionOn .. =>
      ((Evaluation.ofJson? answer).bind fun evaluation => evaluation.result.handle).toList.map .object
  | .getProperties .. =>
      ((Property.listOfJson? answer).getD []).filterMap fun property =>
        (property.value.bind RemoteObject.handle).map .object
  | _ => []

/-- The nodes and objects of which one learns, each with the session that was asked. -/
def Happening.delivered : Happening → List (SessionId × NodeRef)
  | ⟨.request session command, .ok answer⟩ => (command.delivered answer).map fun name => (session, name)
  | _ => []

/-- Among what happened is an answer in the session that told of the node or object. -/
def Delivered (past : List Happening) (session : SessionId) (reference : NodeRef) : Prop :=
  ∃ happening ∈ past, (session, reference) ∈ happening.delivered

theorem Delivered.mono {past later : List Happening} {session : SessionId} {reference : NodeRef}
    (known : Delivered past session reference) (longer : past <+: later) :
    Delivered later session reference := by
  obtain ⟨happening, member, names⟩ := known
  exact ⟨happening, longer.subset member, names⟩

theorem delivered_append {command : Command} {answer : Json} {reference : NodeRef}
    (names : reference ∈ command.delivered answer) (past : List Happening) (session : SessionId) :
    Delivered (past ++ [⟨.request session command, .ok answer⟩]) session reference :=
  ⟨⟨.request session command, .ok answer⟩, by simp, by simpa [Happening.delivered] using names⟩

/-- A command goes to a session that delivered all that its parameters name. -/
def Routed (past : List Happening) : Act → Prop
  | .request session command => ∀ reference ∈ command.named, Delivered past session reference
  | _ => True

theorem routed_timely : Timely Routed := ⟨fun _ => trivial, fun _ _ => trivial⟩

end RemoteDom
