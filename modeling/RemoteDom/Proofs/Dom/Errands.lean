import RemoteDom.Dom.Element
import RemoteDom.Proofs.Program.Weaving

/-! Operations attach and detach by whole errands: nothing else that they do touches the sessions. -/

namespace RemoteDom

open Browsing (Woven woven_pure woven_throw woven_outcome woven_ask woven_execute woven_expect woven_call woven_mapM
  woven_pollOrFail)

namespace Browsing

/-- An operation that is an errand but for what it gives. -/
private theorem woven_of_errand {α : Type} {operation : Browsing α} (errand : Errand) {change : α → Option Session}
    (same : errand.program = (change <$> operation).run) (back : Except Error (Option Session) → Except Error α)
    (undo : ∀ outcome : Except Error α, back (change <$> outcome) = outcome) : Woven operation := by
  have whole : operation.run = errand.program >>= fun outcome => .done (back outcome) := by
    rw [same, ExceptT.run_map, map_eq_pure_bind, bind_assoc]
    conv => lhs; rw [← Program.bind_done operation.run]
    refine congrArg (operation.run >>= ·) (funext fun outcome => ?_)
    exact congrArg Program.done (undo outcome).symm
  unfold Woven
  rw [whole]
  exact .piece errand fun _ => .done _

theorem woven_attach (target : TargetId) (parent : SessionId) : Woven (attach target parent) := by
  refine woven_of_errand (.attach target parent) rfl
    (fun outcome => outcome.bind fun found => found.elim (.error .json) .ok) fun outcome => ?_
  cases outcome <;> rfl

theorem woven_detach (id : SessionId) : Woven (detach id) := by
  refine woven_of_errand (.detach id) rfl (fun outcome => outcome.map fun _ => ()) fun outcome => ?_
  cases outcome <;> rfl

theorem woven_targets : Woven targets := woven_call _ _ _

end Browsing

namespace Context

theorem woven_describe (context : Context) (reference : NodeRef) (depth : Int) :
    Woven (context.describe reference depth) := (woven_call _ _ _).about _

theorem woven_resolve (context : Context) (backend : BackendId) : Woven (context.resolve backend) := by
  refine ((woven_call _ _ _).about _).bind fun object => ?_
  split
  · exact woven_pure _
  · exact woven_throw _

end Context

namespace Element

variable (element : Element)

private theorem woven_make (handle : Handle) (context : Context) : Woven (make handle context) :=
  (woven_ask rfl).bind fun _ => woven_pure _

private theorem woven_execute (command : Command) : Woven (element.execute command) :=
  (Browsing.woven_execute _ _).about _

private theorem woven_call {α : Type} (command : Command) (read : Json → Option α) :
    Woven (element.call command read) :=
  (element.woven_execute command).bind fun _ => woven_expect _

theorem woven_describe : Woven element.describe := by
  refine (element.context.woven_describe element.reference 1).bind fun node => ?_
  split
  next backend _ =>
    exact (woven_ask rfl : Woven (Browsing.ask (.note element.memo backend))).bind fun _ => woven_pure node
  next => exact woven_pure node

theorem woven_backendId : Woven element.backendId := by
  refine (woven_ask rfl).bind fun noted => ?_
  split
  · exact woven_pure _
  · refine element.woven_describe.bind fun node => ?_
    split
    · exact woven_pure _
    · exact woven_throw _

private theorem woven_frameSession (frame : FrameId) : Woven (element.frameSession frame) := by
  refine (woven_ask rfl).bind fun known => ?_
  split
  · exact woven_pure _
  · refine Browsing.woven_targets.bind fun targets => ?_
    split
    · exact Browsing.woven_attach _ _
    · exact woven_throw _

private theorem woven_documentHandle? (session : SessionId) : Woven (documentHandle? session) := by
  refine (Browsing.woven_call _ _ _).bind fun evaluation => ?_
  split
  · exact woven_throw _
  · exact woven_pure _

theorem woven_contentScope : Woven element.contentScope := by
  refine element.woven_describe.bind fun node => ?_
  simp only
  split
  · exact woven_throw _
  split
  · split
    · exact (Context.woven_resolve _ _).bind fun _ => woven_pure _
    · exact woven_throw _
  · split
    · exact woven_throw _
    · refine (element.woven_frameSession _).bind fun session => ?_
      refine (woven_documentHandle? _).bind fun found => ?_
      split
      · exact woven_pure _
      · exact woven_throw _

end Element

namespace Scope

variable (scope : Scope)

private theorem woven_evaluate (command : Command) : Woven (scope.evaluate command) := by
  unfold evaluate
  simp only
  split
  · exact (woven_call _ _ _).about _
  · exact woven_call _ _ _

private theorem woven_takeItems (context : Context) (list : Handle) : Woven (takeItems context list) :=
  ((woven_call _ _ _).about _).bind fun _ => (woven_execute _ _).lift fun _ =>
    woven_mapM fun handle => Element.woven_make handle context

private theorem woven_queryHere (locator : Locator) (all : Bool) : Woven (scope.queryHere locator all) := by
  refine (woven_outcome _).bind fun _ => (scope.woven_evaluate _).bind fun evaluation => ?_
  split
  · exact woven_throw _
  · split
    · exact woven_pure _
    · split
      · exact woven_takeItems _ _
      · exact (Element.woven_make _ _).bind fun _ => woven_pure _

private theorem woven_queryThrough (all : Bool) (segments : List Locator) :
    Woven (scope.queryThrough all segments) := by
  induction segments generalizing scope with
  | nil => exact woven_pure _
  | cons segment rest ih =>
      cases rest with
      | nil => exact scope.woven_queryHere segment all
      | cons next further =>
          refine (scope.woven_queryHere segment false).bind fun found => ?_
          cases found with
          | nil => exact woven_pure _
          | cons owner others => exact owner.woven_contentScope.bind fun inside => ih inside

theorem woven_query (locator : Locator) (all : Bool) : Woven (scope.query locator all) :=
  (woven_outcome _).bind fun _ => scope.woven_queryThrough all locator.segments

theorem woven_find (locator : Locator) : Woven (scope.find locator) := by
  refine (scope.woven_query locator false).bind fun found => ?_
  cases found with
  | nil => exact woven_throw _
  | cons element others => exact woven_pure _

theorem woven_waitFor (locator : Locator) (patience : Patience) : Woven (scope.waitFor locator patience) :=
  woven_pollOrFail ((scope.woven_query locator false).bind fun _ => woven_pure _) _ _

end Scope

namespace Element

variable (element : Element)

theorem woven_described {α : Type} (read : Node → α) : Woven (return read (← element.describe)) :=
  element.woven_describe.bind fun _ => woven_pure _

theorem woven_text : Woven element.text := by
  refine (element.woven_call _ _).bind fun evaluation => ?_
  split
  · exact woven_throw _
  · exact woven_pure _

theorem woven_outerMarkup : Woven element.outerMarkup := element.woven_call _ _

theorem woven_boxModel : Woven element.boxModel := element.woven_call _ _

theorem woven_boundingBox : Woven element.boundingBox := by
  refine element.woven_boxModel.bind fun model => ?_
  split
  · exact woven_pure _
  · exact woven_throw _

theorem woven_scrollIntoView : Woven element.scrollIntoView := (element.woven_execute _).bind fun _ => woven_pure _

theorem woven_click (button : MouseButton) : Woven (element.click button) := by
  refine element.woven_scrollIntoView.bind fun _ => element.woven_boxModel.bind fun model => ?_
  split
  · exact woven_throw _
  · refine (element.woven_execute _).bind fun _ => (element.woven_execute _).bind fun _ => ?_
    exact (element.woven_execute _).bind fun _ => woven_pure _

private theorem woven_resolveRoots (described : List Node) : Woven (element.resolveRoots described) := by
  induction described with
  | nil => exact woven_pure _
  | cons node rest ih =>
      unfold resolveRoots
      split
      · exact ih
      · exact (Context.woven_resolve _ _).bind fun _ => ih.bind fun _ => woven_pure _

theorem woven_shadowRoots : Woven element.shadowRoots :=
  (Context.woven_describe _ _ _).bind fun _ => element.woven_resolveRoots _

theorem woven_firstRoot (wanted : ShadowRoot → Bool) : Woven (element.firstRoot wanted) := by
  refine element.woven_shadowRoots.bind fun roots => ?_
  split
  · exact woven_pure _
  · exact woven_throw _

theorem woven_waitForShadowRoot (patience : Patience) : Woven (element.waitForShadowRoot patience) := by
  refine woven_pollOrFail (((element.woven_firstRoot _).map some).tryCatch fun error => ?_) _ _
  split
  · exact woven_pure _
  · exact woven_throw _

end Element

theorem ShadowRoot.woven_innerMarkup (root : ShadowRoot) : Woven root.innerMarkup := (woven_call _ _ _).about _

namespace Page

theorem woven_evaluate (page : Page) (expression : String) : Woven (page.evaluate expression) := by
  refine (woven_call _ _ _).bind fun evaluation => ?_
  split
  · exact woven_throw _
  · exact woven_pure _

theorem woven_document (page : Page) : Woven page.document := by
  refine (Element.woven_documentHandle? _).bind fun found => ?_
  split
  · exact Element.woven_make _ _
  · exact woven_throw _

theorem woven_attach (target : TargetId) (patience : Patience) : Woven (attach target patience) :=
  (Browsing.woven_attach _ _).bind fun _ => woven_pure _

end Page

end RemoteDom
