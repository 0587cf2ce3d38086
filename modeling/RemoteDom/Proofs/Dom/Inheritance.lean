import RemoteDom.Proofs.Dom.FrameEntry
import RemoteDom.Proofs.Dom.Operations

/-! What objects inherit from the objects that they were found through. The session changes where a frame has a
process of its own. The client and its patience stay. -/

namespace RemoteDom

open Rehearsal (Object)

variable {past : List Happening}

def unguarded : List Happening → Act → Prop := fun _ _ => True

private theorem unguarded_timely : Timely unguarded := ⟨fun _ => trivial, fun _ _ => trivial⟩

private theorem heeds_unguarded {α : Type} (operation : Browsing α) :
    Heeds unguarded (fun _ _ => True) operation past := by
  unfold Heeds
  generalize operation.run = program
  induction program generalizing past with
  | done outcome => exact fun _ _ => trivial
  | act act next ih => exact ⟨trivial, fun answer => ih answer⟩

private theorem heeds_after {α β : Type} {operation : Browsing α} {next : α → Browsing β}
    {good : List Happening → β → Prop}
    (onward : ∀ value later, Heeds unguarded good (next value) later) :
    Heeds unguarded good (operation >>= next) past :=
  (heeds_unguarded operation).andThen fun value later _ => onward value later

namespace Context

/-- The same client with the same patience, perhaps in another session. -/
structure Akin (context other : Context) : Prop where
  client : context.client = other.client
  patience : context.patience = other.patience

theorem Akin.refl (context : Context) : context.Akin context := ⟨rfl, rfl⟩

theorem Akin.of_eq {context other : Context} (same : context = other) : context.Akin other := same ▸ .refl _

theorem Akin.trans {first second third : Context} (near : first.Akin second) (far : second.Akin third) :
    first.Akin third :=
  ⟨near.client.trans far.client, near.patience.trans far.patience⟩

private theorem akin_inSession (context : Context) (session : SessionId) : (context.inSession session).Akin context :=
  ⟨rfl, rfl⟩

end Context

namespace Element

private theorem inherits_make (handle : Handle) (context : Context) :
    Heeds unguarded (fun _ element => element.context = context) (make handle context) past :=
  heeds_after fun _ _ => heeds_pure rfl

private theorem akin_of_frameEntry {owner : Element} {own : List Happening} {scope : Scope}
    (entry : FrameEntry owner own (.ok scope)) : scope.context.Akin owner.context := by
  obtain ⟨handle, node, -, told, -⟩ := entry.gives scope rfl
  cases inside : node.contentDocument with
  | some document => exact .of_eq ((entry.sameProcess node document told inside).1 scope rfl)
  | none =>
      obtain ⟨frame, id, -, -, there⟩ := entry.ownProcess node scope told inside rfl
      exact there ▸ owner.context.akin_inSession id

private theorem inherits_contentScope (owner : Element) :
    Heeds unguarded (fun _ scope => scope.context.Akin owner.context) owner.contentScope past :=
  owner.leaves_contentScope.heeds (fun _ _ entered => akin_of_frameEntry entered.frameEntry) past

private theorem inherits_resolveRoots (host : Element) (described : List Node) :
    Heeds unguarded (fun _ roots => ∀ root ∈ roots, root.host = host) (host.resolveRoots described) past := by
  induction described generalizing past with
  | nil => exact heeds_pure (by simp)
  | cons node rest ih =>
      unfold resolveRoots
      split
      · exact ih
      · refine heeds_after fun handle later => ih.bind fun roots further _ held => ?_
        exact heeds_pure (List.forall_mem_cons.mpr ⟨rfl, held⟩)

private theorem inherits_shadowRoots (host : Element) :
    Heeds unguarded (fun _ roots => ∀ root ∈ roots, root.host = host) host.shadowRoots past :=
  heeds_after fun node _ => host.inherits_resolveRoots node.shadowRoots

private theorem inherits_firstRoot (host : Element) (wanted : ShadowRoot → Bool) :
    Heeds unguarded (fun _ root => root.host = host) (host.firstRoot wanted) past := by
  refine (host.inherits_shadowRoots).bind fun roots later _ held => ?_
  split
  next root first => exact heeds_pure (held root (List.mem_of_find?_eq_some first))
  next => exact heeds_throw _

private theorem inherits_shadowRoot? (host : Element) :
    Heeds unguarded (fun _ found => ∀ root, found = some root → root.host = host) host.shadowRoot? past := by
  refine Heeds.tryCatch ?_ fun error later _ => ?_
  · refine (host.inherits_firstRoot _).map some fun root later _ held other same => ?_
    exact Option.some.inj same ▸ held
  · split
    · exact heeds_pure (by simp)
    · exact heeds_throw _

private theorem inherits_waitForShadowRoot (host : Element) (patience : Patience) :
    Heeds unguarded (fun _ root => root.host = host) (host.waitForShadowRoot patience) past :=
  heeds_pollOrFail unguarded_timely fun _ _ => host.inherits_shadowRoot?

end Element

namespace Scope

variable (scope : Scope)

private theorem inherits_takeItems (context : Context) (list : Handle) :
    Heeds unguarded (fun _ elements => ∀ element ∈ elements, element.context = context)
      (takeItems context list) past :=
  heeds_after fun _ _ => heeds_after fun _ _ =>
    heeds_mapM (fun _ _ _ _ same => same) fun handle _ _ _ => Element.inherits_make handle context

private theorem inherits_queryHere (locator : Locator) (all : Bool) :
    Heeds unguarded (fun _ elements => ∀ element ∈ elements, element.context = scope.context)
      (scope.queryHere locator all) past := by
  refine heeds_after fun _ _ => heeds_after fun evaluation later => ?_
  split
  · exact heeds_throw _
  · split
    · exact heeds_pure (by simp)
    next handle _ =>
      split
      · exact inherits_takeItems scope.context handle
      · refine (Element.inherits_make handle scope.context).bind fun element _ _ same => ?_
        exact heeds_pure (List.forall_mem_singleton.mpr same)

private theorem inherits_queryThrough (all : Bool) (segments : List Locator) :
    Heeds unguarded (fun _ elements => ∀ element ∈ elements, element.context.Akin scope.context)
      (scope.queryThrough all segments) past := by
  induction segments generalizing scope past with
  | nil => exact heeds_pure (by simp)
  | cons segment rest ih =>
      cases rest with
      | nil =>
          refine (scope.inherits_queryHere segment all).weaken fun elements _ _ held element member => ?_
          exact .of_eq (held element member)
      | cons next further =>
          refine (scope.inherits_queryHere segment false).bind fun found later _ held => ?_
          cases found with
          | nil => exact heeds_pure (by simp)
          | cons owner others =>
              refine owner.inherits_contentScope.bind fun inside _ _ near => ?_
              have own := held owner List.mem_cons_self
              exact (ih inside).weaken fun elements _ _ far element member =>
                ((far element member).trans near).trans (.of_eq own)

private theorem inherits_query (locator : Locator) (all : Bool) :
    Heeds unguarded (fun _ elements => ∀ element ∈ elements, element.context.Akin scope.context)
      (scope.query locator all) past :=
  heeds_after fun _ _ => scope.inherits_queryThrough all locator.segments

private theorem inherits_find (locator : Locator) :
    Heeds unguarded (fun _ element => element.context.Akin scope.context) (scope.find locator) past := by
  refine (scope.inherits_query locator false).bind fun found later _ held => ?_
  cases found with
  | nil => exact heeds_throw _
  | cons element others => exact heeds_pure (held element List.mem_cons_self)

private theorem inherits_waitFor (locator : Locator) (patience : Patience) :
    Heeds unguarded (fun _ element => element.context.Akin scope.context) (scope.waitFor locator patience) past := by
  refine heeds_pollOrFail unguarded_timely fun later longer => ?_
  refine (scope.inherits_query locator false).bind fun found further _ held => ?_
  exact heeds_pure fun element first => held element (List.mem_of_mem_head? first)

end Scope

private theorem Page.inherits_document (page : Page) :
    Heeds unguarded (fun _ element => element.context = page.context) page.document past := by
  refine heeds_after fun found later => ?_
  split
  next handle => exact Element.inherits_make handle page.context
  next => exact heeds_throw _

section Object

variable {object : Object} {element : Element}

private theorem context_element? (meant : object.element? = some element) : element.context = object.context := by
  cases object with
  | page | scope => cases meant
  | element | root => exact Option.some.inj meant ▸ rfl

private theorem akin_root {root : ShadowRoot} (hosted : root.host = element) :
    (Object.root root).context.Akin element.context :=
  .of_eq (congrArg Element.context hosted)

private theorem inherits_onElement (element : Element) (operation : Operation) :
    Heeds unguarded (fun _ objects => ∀ object ∈ objects, object.context.Akin element.context)
      (operation.onElement element) past := by
  cases operation with
  | host => exact heeds_pure (List.forall_mem_singleton.mpr (.refl _))
  | shadowRoots => exact heeds_each element.inherits_shadowRoots fun _ _ => akin_root
  | shadowRoot | userAgentShadowRoot => exact heeds_sole (element.inherits_firstRoot _) fun _ _ => akin_root
  | shadowRootIfAny => exact heeds_any element.inherits_shadowRoot? fun _ _ => akin_root
  | waitForShadowRoot patience => exact heeds_sole (element.inherits_waitForShadowRoot patience) fun _ _ => akin_root
  | contentScope => exact heeds_sole element.inherits_contentScope fun _ _ near => near
  | query | find | waitFor | scope | innerMarkup | evaluate | document => exact heeds_pure (by simp)
  | _ => exact heeds_mute (heeds_unguarded _)

private theorem inherits_on (object : Object) (operation : Operation) :
    Heeds unguarded (fun _ objects => ∀ given ∈ objects, given.context.Akin object.context)
      (operation.on object) past := by
  unfold Operation.on
  split
  next locator all => exact heeds_each (object.toScope.inherits_query locator all) fun _ _ near => near
  next locator => exact heeds_sole (object.toScope.inherits_find locator) fun _ _ near => near
  next locator patience => exact heeds_sole (object.toScope.inherits_waitFor locator patience) fun _ _ near => near
  next => exact heeds_pure (List.forall_mem_singleton.mpr (.refl _))
  next => exact heeds_mute (heeds_unguarded _)
  next => exact heeds_mute (heeds_unguarded _)
  next page => exact heeds_sole page.inherits_document fun _ _ same => .of_eq same
  next =>
    split
    next element meant =>
      exact context_element? meant ▸ inherits_onElement element operation
    next => exact heeds_pure (by simp)

end Object

/-- An object is derived from another by operations on objects that are, whatever happened before each of them
and however the surroundings answer during it. -/
inductive Derived (first : Object) : Object → Prop
  | itself : Derived first first
  | given {object other : Object} {objects : List Object} (derived : Derived first object) (operation : Operation)
      (surroundings : Surroundings) (past : List Happening)
      (gave : (ClientProgram.perform surroundings (operation.on object).run past).1 = .ok objects)
      (among : other ∈ objects) : Derived first other

private theorem Derived.akin {first object : Object} (derived : Derived first object) :
    object.context.Akin first.context := by
  induction derived with
  | itself => exact .refl _
  | @given object other objects _ operation surroundings past gave among ih =>
      have inherits : Heeds unguarded _ _ past := inherits_on object operation
      obtain ⟨own, -, held, -⟩ := inherits.of_perform surroundings past
      exact (held objects gave other among).trans ih

/-- Whatever the browser answers and whatever a table of sessions knows, an entry into a frame does what it may
and must do. All objects that operations derive from a page, in whatever number, use the client of the page
and have its patience. -/
theorem frameEntry_and_derived_context :
    (∀ (surroundings : Surroundings) (owner : Element) (past : List Happening),
      ∃ own, (ClientProgram.perform surroundings owner.contentScope.run past).2 = past ++ own ∧
        FrameEntry owner own (ClientProgram.perform surroundings owner.contentScope.run past).1) ∧
      ∀ (page : Page) (object : Object), Derived (.page page) object →
        object.context.client = page.context.client ∧ object.context.patience = page.context.patience := by
  constructor
  · intro surroundings owner past
    obtain ⟨own, journal, entered⟩ := owner.leaves_contentScope.perform surroundings past
    exact ⟨own, journal, entered.frameEntry⟩
  · intro page object derived
    exact ⟨derived.akin.client, derived.akin.patience⟩

end RemoteDom
