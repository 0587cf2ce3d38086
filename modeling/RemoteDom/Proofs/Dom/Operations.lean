import RemoteDom.Proofs.Dom.Handles
import RemoteDom.Rehearsal.Shown
import Mathlib.Data.List.Induction

/-! Operations one after another, on the page of the client, on pages of targets and on what earlier
operations gave. Every command that names a node or an object goes to the session that delivered it. -/

namespace RemoteDom

open Rehearsal (Object)

inductive Operation where
  | query (locator : Locator) (all : Bool)
  | find (locator : Locator)
  | waitFor (locator : Locator) (patience : Patience)
  | scope
  | host
  | describe
  | backendId
  | tagName
  | attributes
  | attributeOf (name : String)
  | isFrame
  | text
  | outerMarkup
  | boxModel
  | boundingBox
  | scrollIntoView
  | click (button : MouseButton)
  | shadowRoots
  | shadowRoot
  | userAgentShadowRoot
  | shadowRootIfAny
  | waitForShadowRoot (patience : Patience)
  | contentScope
  | innerMarkup
  | evaluate (expression : String)
  | document
deriving DecidableEq, Repr

namespace Operation

def mute {α : Type} (operation : Browsing α) : Browsing (List Object) := do
  let _ ← operation
  pure []

def onElement (element : Element) : Operation → Browsing (List Object)
  | .host => pure [.element element]
  | .describe => mute element.describe
  | .backendId => mute element.backendId
  | .tagName => mute element.tagName
  | .attributes => mute element.attributes
  | .attributeOf name => mute (element.attribute? name)
  | .isFrame => mute element.isFrame
  | .text => mute element.text
  | .outerMarkup => mute element.outerMarkup
  | .boxModel => mute element.boxModel
  | .boundingBox => mute element.boundingBox
  | .scrollIntoView => mute element.scrollIntoView
  | .click button => mute (element.click button)
  | .shadowRoots => List.map Object.root <$> element.shadowRoots
  | .shadowRoot => (fun root => [.root root]) <$> element.shadowRoot
  | .userAgentShadowRoot => (fun root => [.root root]) <$> element.userAgentShadowRoot
  | .shadowRootIfAny => (fun found => found.toList.map Object.root) <$> element.shadowRoot?
  | .waitForShadowRoot patience => (fun root => [.root root]) <$> element.waitForShadowRoot patience
  | .contentScope => (fun scope => [.scope scope]) <$> element.contentScope
  | _ => pure []

/-- What an object does when it is asked. A shadow root stands for its host where it can do nothing
itself. -/
def on (object : Object) (operation : Operation) : Browsing (List Object) :=
  match operation, object with
  | .query locator all, _ => List.map Object.element <$> object.toScope.query locator all
  | .find locator, _ => (fun element => [.element element]) <$> object.toScope.find locator
  | .waitFor locator patience, _ =>
      (fun element => [.element element]) <$> object.toScope.waitFor locator patience
  | .scope, _ => pure [.scope object.toScope]
  | .innerMarkup, .root root => mute root.innerMarkup
  | .evaluate expression, .page page => mute (page.evaluate expression)
  | .document, .page page => (fun element => [.element element]) <$> page.document
  | other, _ =>
      match object.element? with
      | some element => onElement element other
      | none => pure []

end Operation

/-- The session of the object delivered what it is known by. -/
def Rehearsal.Object.Known (past : List Happening) : Object → Prop
  | .page _ => True
  | .element it => it.Known past
  | .root it => it.Known past
  | .scope it => it.Known past

section Known

variable {past : List Happening} {object : Object}

private theorem known_toScope (known : object.Known past) : object.toScope.Known past := by
  cases object with
  | page page => intro handle same; cases same
  | element element => intro handle same; exact Option.some.inj same ▸ known
  | root root => intro handle same; exact Option.some.inj same ▸ known.handle
  | scope scope => exact known

private theorem known_element? (known : object.Known past) {element : Element}
    (meant : object.element? = some element) : element.Known past := by
  cases object with
  | page page => cases meant
  | element other => exact Option.some.inj meant ▸ known
  | root root => exact Option.some.inj meant ▸ known.host
  | scope scope => cases meant

def AllKnown (later : List Happening) (objects : List Object) : Prop :=
  ∀ object ∈ objects, object.Known later

private theorem allKnown_sole (known : object.Known past) : AllKnown past [object] :=
  List.forall_mem_singleton.mpr known

section Each

variable {α : Type} {safe : List Happening → Act → Prop} {fine : List Happening → Object → Prop}

theorem heeds_mute {operation : Browsing α} (heeds : Heeds safe (fun _ _ => True) operation past) :
    Heeds safe (fun later objects => ∀ object ∈ objects, fine later object) (Operation.mute operation) past :=
  heeds.bind fun _ _ _ _ => heeds_pure (by simp)

theorem heeds_sole {operation : Browsing α} {good : List Happening → α → Prop} {make : α → Object}
    (heeds : Heeds safe good operation past) (made : ∀ value later, good later value → fine later (make value)) :
    Heeds safe (fun later objects => ∀ object ∈ objects, fine later object)
      ((fun value => [make value]) <$> operation) past :=
  heeds.map _ fun value later _ held => List.forall_mem_singleton.mpr (made value later held)

theorem heeds_each {operation : Browsing (List α)} {good : List Happening → α → Prop} {make : α → Object}
    (heeds : Heeds safe (fun later values => ∀ value ∈ values, good later value) operation past)
    (made : ∀ value later, good later value → fine later (make value)) :
    Heeds safe (fun later objects => ∀ object ∈ objects, fine later object)
      (List.map make <$> operation) past := by
  refine heeds.map _ fun values later _ held object member => ?_
  obtain ⟨value, inside, rfl⟩ := List.mem_map.mp member
  exact made value later (held value inside)

theorem heeds_any {operation : Browsing (Option α)} {good : List Happening → α → Prop} {make : α → Object}
    (heeds : Heeds safe (fun later found => ∀ value, found = some value → good later value) operation past)
    (made : ∀ value later, good later value → fine later (make value)) :
    Heeds safe (fun later objects => ∀ object ∈ objects, fine later object)
      ((fun found => found.toList.map make) <$> operation) past := by
  refine heeds.map _ fun found later _ held object member => ?_
  obtain ⟨value, inside, rfl⟩ := List.mem_map.mp member
  exact made value later (held value (Option.mem_toList.mp inside))

end Each

private theorem heeds_onElement {element : Element} (known : element.Known past) (operation : Operation) :
    Heeds Routed AllKnown (operation.onElement element) past := by
  have nothing : Heeds Routed AllKnown (pure []) past := heeds_pure (by simp [AllKnown])
  cases operation with
  | host => exact heeds_pure (allKnown_sole known)
  | describe => exact heeds_mute ((Element.heeds_describe known).weaken fun _ _ _ _ => trivial)
  | backendId => exact heeds_mute (Element.heeds_backendId known)
  | tagName => exact heeds_mute (Element.heeds_described known _)
  | attributes => exact heeds_mute (Element.heeds_described known _)
  | attributeOf name => exact heeds_mute (Element.heeds_described known _)
  | isFrame => exact heeds_mute (Element.heeds_described known _)
  | text => exact heeds_mute (Element.heeds_text known)
  | outerMarkup => exact heeds_mute (Element.heeds_outerMarkup known)
  | boxModel => exact heeds_mute (Element.heeds_boxModel known)
  | boundingBox => exact heeds_mute (Element.heeds_boundingBox known)
  | scrollIntoView => exact heeds_mute (Element.heeds_scrollIntoView known)
  | click button => exact heeds_mute (Element.heeds_click known button)
  | shadowRoots => exact heeds_each (Element.heeds_shadowRoots known) fun _ _ held => held
  | shadowRoot => exact heeds_sole (Element.heeds_firstRoot known _) fun _ _ held => held
  | userAgentShadowRoot => exact heeds_sole (Element.heeds_firstRoot known _) fun _ _ held => held
  | shadowRootIfAny => exact heeds_any (Element.heeds_shadowRoot? known) fun _ _ held => held
  | waitForShadowRoot patience =>
      exact heeds_sole (Element.heeds_waitForShadowRoot known patience) fun _ _ held => held
  | contentScope => exact heeds_sole (Element.heeds_contentScope known) fun _ _ held => held
  | query | find | waitFor | scope | innerMarkup | evaluate | document => exact nothing

private theorem heeds_on (known : object.Known past) (operation : Operation) :
    Heeds Routed AllKnown (operation.on object) past := by
  have scope := known_toScope known
  unfold Operation.on
  split
  next locator all => exact heeds_each (Scope.heeds_query scope locator all) fun _ _ held => held
  next locator => exact heeds_sole (Scope.heeds_find scope locator) fun _ _ held => held
  next locator patience => exact heeds_sole (Scope.heeds_waitFor scope locator patience) fun _ _ held => held
  next => exact heeds_pure (allKnown_sole scope)
  next root => exact heeds_mute (ShadowRoot.heeds_innerMarkup known)
  next expression page => exact heeds_mute (Page.heeds_evaluate page expression)
  next page => exact heeds_sole (Page.heeds_document page) fun _ _ held => held
  next =>
    split
    next element meant => exact heeds_onElement (known_element? known meant) operation
    next => exact heeds_pure (by simp [AllKnown])

end Known

inductive Use where
  | attachPage (target : TargetId)
  | ask (receiver : Nat) (operation : Operation)
deriving DecidableEq, Repr

structure Kept where
  object : Object
  lineage : List Happening

structure Performed where
  lineage : List Happening
  own : List Happening

/-- How far a client has come: all that happened, the objects that it has and what it performed. -/
structure Course where
  patience : Patience
  past : List Happening
  kept : List Kept
  performed : List Performed

namespace Course

def opening (patience : Patience) : Course :=
  ⟨patience, [], [⟨.page ⟨{ session := .topLevel, patience }, none⟩, []⟩], []⟩

/-- What led to the receiver of a use, and the operation. A receiver that does not exist does nothing. -/
def begin (course : Course) : Use → List Happening × Browsing (List Object)
  | .attachPage target => ([], (fun page => [.page page]) <$> Page.attach target course.patience)
  | .ask receiver operation =>
      match course.kept[receiver]? with
      | some kept => (kept.lineage, operation.on kept.object)
      | none => ([], pure [])

def next (surroundings : Surroundings) (course : Course) (use : Use) : Course :=
  let (lineage, operation) := course.begin use
  let (outcome, journal) := ClientProgram.perform surroundings operation.run course.past
  let own := journal.drop course.past.length
  let objects := outcome.toOption.getD []
  { course with
    past := journal
    kept := course.kept ++ objects.map fun object => ⟨object, lineage ++ own⟩
    performed := course.performed ++ [⟨lineage, own⟩] }

def run (surroundings : Surroundings) (patience : Patience) (uses : List Use) : Course :=
  uses.foldl (next surroundings) (opening patience)

/-- An operation that came after some others: what led to its receiver happened during those, and each of
its commands goes to a session that delivered all that the command names, in what led to the receiver or
earlier in the operation. -/
structure Faithful (earlier : List Performed) (performed : Performed) : Prop where
  causal : ∀ happening ∈ performed.lineage, happening ∈ earlier.flatMap Performed.own
  routed : ∀ before happening after, performed.own = before ++ happening :: after →
    Routed (performed.lineage ++ before) happening.act

/-- What holds all along: the journal is what happened during the operations, every object is known from
what led to it, and all operations were faithful. -/
structure Sound (course : Course) : Prop where
  complete : course.past = course.performed.flatMap Performed.own
  known : ∀ kept ∈ course.kept, kept.object.Known kept.lineage ∧
    ∀ happening ∈ kept.lineage, happening ∈ course.past
  faithful : ∀ earlier performed later, course.performed = earlier ++ performed :: later →
    Faithful earlier performed

private theorem sound_opening (patience : Patience) : Sound (opening patience) where
  complete := rfl
  known := by
    intro kept member
    obtain rfl := List.mem_singleton.mp member
    exact ⟨trivial, by simp⟩
  faithful := by
    intro earlier performed later parts
    simp [opening] at parts

private theorem heeds_begin {course : Course} (sound : Sound course) (use : Use) :
    Heeds Routed AllKnown (course.begin use).2 (course.begin use).1 ∧
      ∀ happening ∈ (course.begin use).1, happening ∈ course.past := by
  cases use with
  | attachPage target =>
      exact ⟨heeds_sole (Page.heeds_attach target course.patience) fun _ _ _ => trivial, by simp [begin]⟩
  | ask receiver operation =>
      simp only [begin]
      split
      next kept found =>
        have known := sound.known kept (List.mem_of_getElem? found)
        exact ⟨heeds_on known.1 operation, known.2⟩
      next => exact ⟨heeds_pure (by simp [AllKnown]), by simp⟩

private theorem sound_next {course : Course} (sound : Sound course) (surroundings : Surroundings) (use : Use) :
    Sound (course.next surroundings use) := by
  obtain ⟨heeds, among⟩ := heeds_begin sound use
  unfold next
  generalize course.begin use = begun at heeds among
  obtain ⟨lineage, operation⟩ := begun
  obtain ⟨own, journal, held, routed⟩ := heeds.of_perform surroundings course.past
  simp only [journal, List.drop_left]
  generalize (ClientProgram.perform surroundings operation.run course.past).1 = outcome at held
  constructor
  · simp [sound.complete]
  · intro kept member
    rcases List.mem_append.mp member with old | fresh
    · exact ⟨(sound.known kept old).1, fun happening inside =>
        List.mem_append_left own ((sound.known kept old).2 happening inside)⟩
    · obtain ⟨object, made, rfl⟩ := List.mem_map.mp fresh
      refine ⟨?_, fun happening inside => ?_⟩
      · cases outcome with
        | error error => cases made
        | ok objects => exact held objects rfl object made
      · exact List.mem_append.mpr ((List.mem_append.mp inside).imp_left (among happening))
  · intro earlier performed later parts
    rcases List.eq_nil_or_concat later with rfl | ⟨others, last, rfl⟩
    · obtain rfl : course.performed = earlier := List.append_inj_left' parts rfl
      obtain rfl := (List.cons.inj (List.append_cancel_left parts)).1
      exact ⟨fun happening inside => sound.complete ▸ among happening inside, routed⟩
    · have shape : course.performed ++ [⟨lineage, own⟩] = (earlier ++ performed :: others) ++ [last] := by
        simpa using parts
      have old := List.append_inj_left' shape rfl
      exact sound.faithful earlier performed others old

private theorem sound_run (surroundings : Surroundings) (patience : Patience) (uses : List Use) :
    Sound (run surroundings patience uses) := by
  unfold run
  induction uses using List.reverseRecOn with
  | nil => exact sound_opening patience
  | append_singleton uses use ih =>
      rw [List.foldl_append]
      exact sound_next ih surroundings use

/-- Whatever the browser answers and whatever a client does with the objects that it was given, all that
happens, happens during its operations. What led to the receiver of an operation happened earlier. Each
command that an operation sends goes to a session in which an answer told of every object and node that the
command names, and that answer came earlier in the operation or led to its receiver. So what only the session
of a frame told of goes to no other session. -/
theorem performed_routed (surroundings : Surroundings) (patience : Patience) (uses : List Use) :
    (run surroundings patience uses).past =
        (run surroundings patience uses).performed.flatMap Performed.own ∧
      ∀ earlier performed later,
        (run surroundings patience uses).performed = earlier ++ performed :: later →
        (∀ happening ∈ performed.lineage, happening ∈ earlier.flatMap Performed.own) ∧
        ∀ before session command answer after,
          performed.own = before ++ ⟨.request session command, answer⟩ :: after →
          ∀ reference ∈ command.named, Delivered (performed.lineage ++ before) session reference := by
  have sound := sound_run surroundings patience uses
  refine ⟨sound.complete, fun earlier performed later parts => ?_⟩
  have faithful := sound.faithful earlier performed later parts
  refine ⟨faithful.causal, ?_⟩
  intro before session command answer after sent
  exact faithful.routed before ⟨.request session command, answer⟩ after sent

end Course

end RemoteDom
