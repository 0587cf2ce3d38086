import RemoteDom.Proofs.Dom.Operations
import RemoteDom.Proofs.Program.Surfacing
import RemoteDom.Proofs.Session.Attaching
import RemoteDom.Wire.Incoming

/-! The end of nodes. Whatever an operation is about, as soon as the browser says that a node or object it names is
gone, the operation ends and says so of that very reference. -/

namespace RemoteDom

open Rehearsal (Object)

namespace Context

variable (context : Context)

private theorem surfaces_describe (reference : NodeRef) (depth : Int) :
    Surfaces (context.describe reference depth) := by
  cases reference with
  | object handle => exact surfaces_about (relays_call _) rfl
  | backend id => exact surfaces_about (relays_call _) rfl

private theorem surfaces_resolve (backend : BackendId) : Surfaces (context.resolve backend) := by
  refine Surfaces.bind (surfaces_about (relays_call _) rfl) fun object => ?_
  cases object.handle with
  | none => exact surfaces_throw _
  | some handle => exact surfaces_pure handle

end Context

namespace Browsing

private theorem quiet_attach (target : TargetId) (parent : SessionId) : Quiet (attach target parent) := by
  apply (leaves_attach target parent).weaken
  intro own outcome attached happening member error ends
  cases ends with
  | refused gone named matters =>
      obtain ⟨-, rfl⟩ := attached.requested member
      exact absurd (Command.references_of_named named) List.not_mem_nil

private theorem quiet_targets : Quiet targets := quiet_of_relays (relays_call _) (harmless_of_nameless rfl)

end Browsing

namespace Element

private theorem surfaces_make (handle : Handle) (context : Context) : Surfaces (make handle context) :=
  Surfaces.bind (surfaces_ask .newMemo nofun) fun _ => surfaces_pure _

private theorem surfaces_documentHandle? (session : SessionId) : Surfaces (documentHandle? session) := by
  refine ((quiet_of_relays (relays_call _) (harmless_of_nameless rfl)).surfaces).bind fun evaluation => ?_
  cases evaluation.exception with
  | some exception => exact surfaces_throw _
  | none => exact surfaces_pure _

variable (element : Element)

private theorem surfaces_describe : Surfaces element.describe := by
  refine (element.context.surfaces_describe element.reference 1).bind fun node => ?_
  cases node.backend with
  | none => exact surfaces_pure node
  | some backend => exact Surfaces.bind (surfaces_ask (.note _ _) nofun) fun _ => surfaces_pure node

private theorem surfaces_described {α : Type} (read : Node → α) : Surfaces (return read (← element.describe)) :=
  element.surfaces_describe.bind fun _ => surfaces_pure _

private theorem surfaces_backendId : Surfaces element.backendId := by
  refine Surfaces.bind (surfaces_ask (.recall _) nofun) fun noted => ?_
  cases noted with
  | some backend => exact surfaces_pure backend
  | none =>
      refine element.surfaces_describe.bind fun node => ?_
      cases node.backend with
      | none => exact surfaces_throw _
      | some backend => exact surfaces_pure backend

private theorem surfaces_execute {command : Command} (sole : command.references = [element.reference]) :
    Surfaces (element.execute command) := surfaces_about relays_execute sole

private theorem surfaces_mouse (action : MouseAction) (x y : Binary64) (button : MouseButton) (count : Int) :
    Surfaces (element.execute (.dispatchMouseEvent action x y button count)) :=
  ((quiet_of_relays relays_execute (harmless_of_nameless rfl)).about _).surfaces

private theorem surfaces_call {α : Type} {command : Command} (read : Json → Option α)
    (sole : command.references = [element.reference]) : Surfaces (element.call command read) := by
  refine (element.surfaces_execute sole).bind fun answer => ?_
  cases read answer with
  | none => exact surfaces_throw _
  | some value => exact surfaces_pure value

private theorem surfaces_text : Surfaces element.text := by
  refine (element.surfaces_call _ rfl).bind fun evaluation => ?_
  cases evaluation.exception with
  | some exception => exact surfaces_throw _
  | none => exact surfaces_pure _

private theorem surfaces_boxModel : Surfaces element.boxModel := element.surfaces_call _ rfl

private theorem surfaces_boundingBox : Surfaces element.boundingBox := by
  refine element.surfaces_boxModel.bind fun model => ?_
  cases model.border.bounds? with
  | none => exact surfaces_throw _
  | some rect => exact surfaces_pure rect

private theorem surfaces_scrollIntoView : Surfaces element.scrollIntoView :=
  (element.surfaces_execute rfl).bind fun _ => surfaces_pure ()

private theorem surfaces_click (button : MouseButton) : Surfaces (element.click button) := by
  refine element.surfaces_scrollIntoView.bind fun _ => element.surfaces_boxModel.bind fun model => ?_
  cases model.content.center? with
  | none => exact surfaces_throw _
  | some centre =>
      exact (element.surfaces_mouse _ _ _ _ _).bind fun _ => (element.surfaces_mouse _ _ _ _ _).bind fun _ =>
        (element.surfaces_mouse _ _ _ _ _).bind fun _ => surfaces_pure ()

private theorem surfaces_resolveRoots (described : List Node) : Surfaces (element.resolveRoots described) := by
  induction described with
  | nil => exact surfaces_pure []
  | cons node rest ih =>
      unfold resolveRoots
      split
      · exact ih
      · exact (element.context.surfaces_resolve _).bind fun handle => ih.bind fun roots => surfaces_pure _

private theorem surfaces_shadowRoots : Surfaces element.shadowRoots :=
  (element.context.surfaces_describe element.reference 1).bind fun node =>
    element.surfaces_resolveRoots node.shadowRoots

private theorem surfaces_firstRoot (wanted : ShadowRoot → Bool) : Surfaces (element.firstRoot wanted) := by
  refine element.surfaces_shadowRoots.bind fun roots => ?_
  split
  · exact surfaces_pure _
  · exact surfaces_throw _

private theorem surfaces_shadowRoot? : Surfaces element.shadowRoot? := by
  apply Surfaces.tryCatch ((element.surfaces_firstRoot _).map some)
  · intro error
    split
    · exact surfaces_pure none
    · exact surfaces_throw _
  · intro error stale
    cases error with
    | stale reference session message => rfl
    | _ => cases stale

private theorem surfaces_waitForShadowRoot (patience : Patience) : Surfaces (element.waitForShadowRoot patience) :=
  surfaces_pollOrFail element.surfaces_shadowRoot? _ patience

private theorem surfaces_frameSession (frame : FrameId) : Surfaces (element.frameSession frame) := by
  refine Surfaces.bind (surfaces_ask (.sessionForTarget _) nofun) fun known => ?_
  cases known with
  | some session => exact surfaces_pure session
  | none =>
      refine Browsing.quiet_targets.surfaces.bind fun targets => ?_
      split
      · exact (Browsing.quiet_attach _ _).surfaces
      · exact surfaces_throw _

private theorem surfaces_contentScope : Surfaces element.contentScope := by
  refine element.surfaces_describe.bind fun node => ?_
  split
  · exact surfaces_throw _
  split
  · split
    · exact (element.context.surfaces_resolve _).bind fun handle => surfaces_pure _
    · exact surfaces_throw _
  · split
    · exact surfaces_throw _
    · refine (element.surfaces_frameSession _).bind fun session => (surfaces_documentHandle? _).bind fun found => ?_
      cases found with
      | none => exact surfaces_throw _
      | some handle => exact surfaces_pure _

end Element

namespace Scope

private theorem references_matching (scope : Scope) (dialect : Dialect) (all : Bool) (expression : String) :
    (scope.matching dialect all expression).references = (scope.extent.handle?.map NodeRef.object).toList := by
  unfold matching
  split
  next document => simp [document, Extent.handle?, Command.references]
  next handle node => simp [node, Extent.handle?, Command.references, Argument.references, Json.references]
  next handle mode shadow => simp [shadow, Extent.handle?, Command.references, Argument.references, Json.references]

private theorem surfaces_evaluate (scope : Scope) (dialect : Dialect) (all : Bool) (expression : String) :
    Surfaces (scope.evaluate (scope.matching dialect all expression)) := by
  have names := scope.references_matching dialect all expression
  unfold evaluate
  split
  next handle below =>
    rw [below] at names
    exact surfaces_about (relays_call _) names
  next everywhere =>
    rw [everywhere] at names
    exact (quiet_of_relays (relays_call _) (harmless_of_nameless names)).surfaces

private theorem surfaces_takeItems (context : Context) (list : Handle) : Surfaces (takeItems context list) :=
  have released : Quiet (Browsing.execute context.session (.releaseObject list)) :=
    quiet_of_relays relays_execute harmless_release
  (surfaces_about (relays_call _) rfl).bind fun _ => surfaces_after_lift released fun _ =>
    surfaces_mapM fun handle => Element.surfaces_make handle context

variable (scope : Scope)

private theorem surfaces_queryHere (locator : Locator) (all : Bool) : Surfaces (scope.queryHere locator all) := by
  refine Surfaces.bind (surfaces_outcome _) fun _ => (scope.surfaces_evaluate _ _ _).bind fun evaluation => ?_
  split
  · exact surfaces_throw _
  split
  · exact surfaces_pure []
  · split
    · exact surfaces_takeItems _ _
    · exact (Element.surfaces_make _ _).bind fun _ => surfaces_pure _

private theorem surfaces_queryThrough (all : Bool) (segments : List Locator) :
    Surfaces (scope.queryThrough all segments) := by
  induction segments generalizing scope with
  | nil => exact surfaces_pure []
  | cons segment rest ih =>
      cases rest with
      | nil => exact scope.surfaces_queryHere segment all
      | cons next further =>
          refine (scope.surfaces_queryHere segment false).bind fun found => ?_
          cases found with
          | nil => exact surfaces_pure []
          | cons owner others => exact owner.surfaces_contentScope.bind fun inside => ih inside

private theorem surfaces_query (locator : Locator) (all : Bool) : Surfaces (scope.query locator all) :=
  Surfaces.bind (surfaces_outcome _) fun _ => scope.surfaces_queryThrough all locator.segments

private theorem surfaces_find (locator : Locator) : Surfaces (scope.find locator) := by
  refine (scope.surfaces_query locator false).bind fun found => ?_
  cases found with
  | nil => exact surfaces_throw _
  | cons element others => exact surfaces_pure element

private theorem surfaces_waitFor (locator : Locator) (patience : Patience) :
    Surfaces (scope.waitFor locator patience) :=
  surfaces_pollOrFail ((scope.surfaces_query locator false).bind fun found => surfaces_pure found.head?) _ patience

end Scope

private theorem ShadowRoot.surfaces_innerMarkup (root : ShadowRoot) : Surfaces root.innerMarkup :=
  surfaces_about (relays_call _) rfl

namespace Page

private theorem surfaces_evaluate (page : Page) (expression : String) : Surfaces (page.evaluate expression) := by
  refine ((quiet_of_relays (relays_call _) (harmless_of_nameless rfl)).surfaces).bind fun evaluation => ?_
  cases evaluation.exception with
  | some exception => exact surfaces_throw _
  | none => exact surfaces_pure _

private theorem surfaces_document (page : Page) : Surfaces page.document := by
  refine (Element.surfaces_documentHandle? page.context.session).bind fun found => ?_
  cases found with
  | none => exact surfaces_throw _
  | some handle => exact Element.surfaces_make handle page.context

end Page

namespace Operation

private theorem surfaces_mute {α : Type} {operation : Browsing α} (surfaces : Surfaces operation) :
    Surfaces (mute operation) := surfaces.bind fun _ => surfaces_pure []

private theorem surfaces_onElement (element : Element) (operation : Operation) :
    Surfaces (operation.onElement element) := by
  cases operation with
  | host => exact surfaces_pure _
  | describe => exact surfaces_mute element.surfaces_describe
  | backendId => exact surfaces_mute element.surfaces_backendId
  | tagName | attributes | attributeOf | isFrame => exact surfaces_mute (element.surfaces_described _)
  | text => exact surfaces_mute element.surfaces_text
  | outerMarkup => exact surfaces_mute (element.surfaces_call _ rfl)
  | boxModel => exact surfaces_mute element.surfaces_boxModel
  | boundingBox => exact surfaces_mute element.surfaces_boundingBox
  | scrollIntoView => exact surfaces_mute element.surfaces_scrollIntoView
  | click button => exact surfaces_mute (element.surfaces_click button)
  | shadowRoots => exact element.surfaces_shadowRoots.map _
  | shadowRoot | userAgentShadowRoot => exact (element.surfaces_firstRoot _).map _
  | shadowRootIfAny => exact element.surfaces_shadowRoot?.map _
  | waitForShadowRoot patience => exact (element.surfaces_waitForShadowRoot patience).map _
  | contentScope => exact element.surfaces_contentScope.map _
  | query | find | waitFor | scope | innerMarkup | evaluate | document => exact surfaces_pure []

/-- Every operation of every object surfaces the end of nodes. -/
private theorem surfaces_on (object : Object) (operation : Operation) : Surfaces (operation.on object) := by
  unfold Operation.on
  split
  next locator all => exact (object.toScope.surfaces_query locator all).map _
  next locator => exact (object.toScope.surfaces_find locator).map _
  next locator patience => exact (object.toScope.surfaces_waitFor locator patience).map _
  next => exact surfaces_pure _
  next root => exact surfaces_mute root.surfaces_innerMarkup
  next expression page => exact surfaces_mute (page.surfaces_evaluate expression)
  next page => exact page.surfaces_document.map _
  next =>
    split
    · exact surfaces_onElement _ operation
    · exact surfaces_pure []

end Operation

private theorem isStaleMessage_describe {refusal : Refusal} (stale : Error.isStaleMessage refusal.message = true) :
    Error.isStaleMessage refusal.describe = true := by
  have behind (detail : String) : Error.isStaleMessage (refusal.message ++ detail) = true := by
    obtain ⟨known, member, inside⟩ := List.any_eq_true.mp stale
    refine List.any_eq_true.mpr ⟨known, member, ?_⟩
    obtain ⟨before, after, parts⟩ := Text.occurs_iff.mp inside
    exact Text.occurs_iff.mpr ⟨before, after ++ detail.toList, by simp [parts]⟩
  unfold Refusal.describe
  split
  · exact stale
  · exact stale
  · exact stale
  · simpa only [String.append_assoc] using behind _
  · simpa only [String.append_assoc] using behind _

/-- Whatever an operation is asked of an object and however the browser answers, if the browser refuses a command
that names a node or object, other than to take back a handle, with one of the messages that say it is gone, then
the operation is over: nothing is asked any more, and the outcome is that this very reference is stale in the session
that was asked, with the browser's message. -/
theorem staleness_surfaced (surroundings : Surroundings) (object : Object) (operation : Operation)
    (past : List Happening) :
    ∃ own, (ClientProgram.perform surroundings (operation.on object).run past).2 = past ++ own ∧
      ∀ before session command (response : Response) (refusal : Refusal) reference after,
        own = before ++ ⟨.request session command, response.outcome command.method session⟩ :: after →
        response.refusal = some refusal →
        (Error.isStaleMessage refusal.message = true ∨ Error.isStaleMessage refusal.describe = true) →
        reference ∈ command.named → (∀ handle, command ≠ .releaseObject handle) →
        after = [] ∧ (ClientProgram.perform surroundings (operation.on object).run past).1 =
          .error (.stale reference session refusal.describe) := by
  obtain ⟨own, journal, surfaced⟩ := (operation.surfaces_on object).perform surroundings past
  refine ⟨own, journal, ?_⟩
  intro before session command response refusal reference after parts refused stale named matters
  have gone := stale.elim isStaleMessage_describe id
  have answer : response.outcome command.method session =
      .error (.protocol refusal.code refusal.describe command.method session) := by
    rw [Response.outcome, refused]
  rw [answer] at parts
  exact surfaced before _ after _ parts (.refused gone named matters)

end RemoteDom
