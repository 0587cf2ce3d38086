import RemoteDom.Dom.Query
import RemoteDom.Proofs.Connection.Correlation
import RemoteDom.Proofs.Program.Blame
import RemoteDom.Proofs.Selector.Segments

/-! Where XPath is not evaluated. Whether a scope can follow a locator is decided before anything is asked, and
once that is settled it does not come up again, in whatever frames the search ends. -/

namespace RemoteDom

open ClientProgram (Leaves perform)

/-- What a query fails with of its own accord where its dialect is supported. -/
inductive QueryFault : Error → Prop
  | json : QueryFault .json
  | script (message : String) : QueryFault (.script message)
  | stale (reference : NodeRef) (session : SessionId) (message : String) :
      QueryFault (.stale reference session message)
  | frameNotFound (owner : NodeRef) (frame : Option FrameId) : QueryFault (.frameNotFound owner frame)

private theorem yields_callAbout {α : Type} {session : SessionId} {command : Command} {read : Json → Option α}
    (reference : NodeRef) :
    Yields (fun _ => True) QueryFault (Browsing.about reference (Browsing.call session command read)) :=
  (yields_call .json).about fun session message => .stale reference session message

namespace Context

variable (context : Context)

theorem yields_describe (reference : NodeRef) (depth : Int) :
    Yields (fun _ => True) QueryFault (context.describe reference depth) := yields_callAbout reference

theorem yields_resolve (backend : BackendId) : Yields (fun _ => True) QueryFault (context.resolve backend) := by
  apply (yields_callAbout (.backend backend)).bind
  intro object _
  cases object.handle with
  | none => exact yields_throw (.stale _ _ _)
  | some handle => exact yields_pure trivial

end Context

namespace Browsing

private theorem yields_attachInTurn (target : TargetId) (parent : SessionId) :
    Yields (fun _ => True) QueryFault (attachInTurn target parent) := by
  apply (yields_ask (.sessionForTarget target)).bind
  intro known _
  cases known with
  | some session => exact yields_pure trivial
  | none =>
      apply (yields_call .json).bind
      intro id _
      apply (yields_ask (.store _)).bind
      intro _ _
      exact (yields_ask (.assign _ _)).bind fun _ _ => yields_pure trivial

private theorem yields_attach (target : TargetId) (parent : SessionId) :
    Yields (fun _ => True) QueryFault (attach target parent) := by
  apply (yields_ask (.sessionForTarget target)).bind
  intro known _
  cases known with
  | some session => exact yields_pure trivial
  | none =>
      apply (yields_ask .enterAttach).bind
      intro _ _
      apply (yields_attachInTurn target parent).lift
      intro outcome
      apply (yields_ask .leaveAttach).bind
      intro _ _
      exact yields_outcome fun error is => .inr is

end Browsing

namespace Element

private theorem yields_make (handle : Handle) (context : Context) (fault : Error → Prop) :
    Yields (fun _ => True) fault (make handle context) :=
  (yields_ask .newMemo).bind fun _ _ => yields_pure trivial

private theorem yields_documentHandle? (session : SessionId) :
    Yields (fun _ => True) QueryFault (documentHandle? session) := by
  apply (yields_call .json).bind
  intro evaluation _
  cases evaluation.exception with
  | some exception => exact yields_throw (.script _)
  | none => exact yields_pure trivial

variable (element : Element)

theorem yields_describe : Yields (fun _ => True) QueryFault element.describe := by
  apply (element.context.yields_describe element.reference 1).bind
  intro node _
  cases node.backend with
  | none => exact yields_pure trivial
  | some backend => exact (yields_ask (.note _ _)).bind fun _ _ => yields_pure trivial

private theorem yields_frameSession (frame : FrameId) :
    Yields (fun _ => True) QueryFault (element.frameSession frame) := by
  apply (yields_ask (.sessionForTarget _)).bind
  intro known _
  cases known with
  | some session => exact yields_pure trivial
  | none =>
      apply (yields_call .json).bind
      intro targets _
      split
      · exact Browsing.yields_attach _ _
      · exact yields_throw (.frameNotFound _ _)

private theorem yields_contentScope :
    Yields (fun scope => ∃ handle, scope.extent = .node handle) QueryFault element.contentScope := by
  apply element.yields_describe.bind
  intro node _
  split
  · exact yields_throw (.frameNotFound _ _)
  split
  · split
    · exact (element.context.yields_resolve _).bind fun handle _ => yields_pure ⟨handle, rfl⟩
    · exact yields_throw (.frameNotFound _ _)
  · split
    · exact yields_throw (.frameNotFound _ _)
    · apply (element.yields_frameSession _).bind
      intro session _
      apply (yields_documentHandle? _).bind
      intro found _
      cases found with
      | none => exact yields_throw (.frameNotFound _ _)
      | some handle => exact yields_pure ⟨handle, rfl⟩

end Element

private theorem Extent.supports_node (handle : Handle) (dialect : Dialect) : (node handle).supports dialect = true := by
  cases dialect <;> rfl

private theorem Extent.supports_eq_false_iff {extent : Extent} {dialect : Dialect} :
    extent.supports dialect = false ↔ (∃ handle mode, extent = .shadow handle mode) ∧ dialect = .xpath := by
  cases extent <;> cases dialect <;> simp [supports]

namespace Scope

variable (scope : Scope)

theorem check_of_supports {dialect : Dialect} (supported : scope.extent.supports dialect = true) :
    scope.check dialect = .ok () := if_pos supported

theorem check_of_unsupported {dialect : Dialect} (missing : scope.extent.supports dialect = false) :
    scope.check dialect = .error (.capability dialect.name scope.extent.name) := by
  simp [check, missing]

private theorem yields_evaluate (command : Command) : Yields (fun _ => True) QueryFault (scope.evaluate command) := by
  unfold evaluate
  split
  · exact yields_callAbout _
  · exact yields_call .json

private theorem yields_takeItems (context : Context) (list : Handle) :
    Yields (fun _ => True) QueryFault (takeItems context list) := by
  apply (yields_callAbout (.object list)).bind
  intro properties _
  apply (yields_execute context.session (.releaseObject list)).lift
  intro outcome
  exact yields_mapM fun handle => Element.yields_make handle context _

private theorem yields_queryHere {locator : Locator} (supported : scope.extent.supports locator.dialect = true)
    (all : Bool) :
    Yields (fun _ => True) QueryFault (scope.queryHere locator all) := by
  unfold queryHere
  rw [scope.check_of_supports supported]
  apply Yields.bind (yields_outcome nofun)
  intro _ _
  apply (scope.yields_evaluate _).bind
  intro evaluation _
  split
  · exact yields_throw (.script _)
  split
  · exact yields_pure trivial
  · split
    · exact yields_takeItems _ _
    · exact (Element.yields_make _ _ _).bind fun _ _ => yields_pure trivial

private theorem yields_queryThrough {segments : List Locator} {dialect : Dialect}
    (supported : scope.extent.supports dialect = true) (alike : ∀ segment ∈ segments, segment.dialect = dialect)
    (all : Bool) : Yields (fun _ => True) QueryFault (scope.queryThrough all segments) := by
  induction segments generalizing scope with
  | nil => exact yields_pure trivial
  | cons segment rest ih =>
      have here : scope.extent.supports segment.dialect = true := by
        rwa [alike segment List.mem_cons_self]
      cases rest with
      | nil => exact scope.yields_queryHere here all
      | cons next further =>
          apply (scope.yields_queryHere here false).bind
          intro found _
          cases found with
          | nil => exact yields_pure trivial
          | cons owner others =>
              apply owner.yields_contentScope.bind
              rintro inside ⟨handle, below⟩
              apply ih inside
              · rw [below]
                exact Extent.supports_node handle dialect
              · exact fun other member => alike other (List.mem_cons_of_mem segment member)

theorem yields_query {locator : Locator} (supported : scope.extent.supports locator.dialect = true) (all : Bool) :
    Yields (fun _ => True) QueryFault (scope.query locator all) := by
  unfold query
  rw [scope.check_of_supports supported]
  apply Yields.bind (yields_outcome nofun)
  intro _ _
  exact scope.yields_queryThrough supported (fun _ => Locator.dialect_of_mem_segments) all

theorem query_of_unsupported {locator : Locator} (missing : scope.extent.supports locator.dialect = false)
    (all : Bool) :
    scope.query locator all = throw (.capability locator.dialect.name scope.extent.name) := by
  unfold query
  rw [scope.check_of_unsupported missing]
  rfl

end Scope

private theorem Patience.looks_ne_zero (patience : Patience) : patience.looks ≠ 0 := by
  unfold looks
  split
  · decide
  · exact Nat.succ_ne_zero _

inductive Search where
  | query (all : Bool)
  | find
  | findAll
  | waitFor (patience : Patience)

namespace Search

abbrev Found : Search → Type
  | .query _ | .findAll => List Element
  | .find | .waitFor _ => Element

def on (scope : Scope) (locator : Locator) : (search : Search) → Browsing search.Found
  | .query all => scope.query locator all
  | .find => scope.find locator
  | .findAll => scope.findAll locator
  | .waitFor patience => scope.waitFor locator patience

inductive Fault : Error → Prop
  | query {error : Error} (is : QueryFault error) : Fault error
  | elementNotFound (selector : String) (session : SessionId) : Fault (.elementNotFound selector session)
  | timeout (operation : String) (milliseconds : Nat) : Fault (.timeout operation milliseconds)

private theorem not_capability_of_fault {error : Error} (is : Fault error) : error.isCapability = false := by
  cases is with
  | query is => cases is <;> rfl
  | elementNotFound | timeout => rfl

variable (search : Search) {scope : Scope} {locator : Locator}

private theorem yields_on (supported : scope.extent.supports locator.dialect = true) :
    Yields (fun _ => True) Fault (search.on scope locator) := by
  have queried (all : Bool) : Yields (fun _ => True) Fault (scope.query locator all) :=
    (scope.yields_query supported all).weaken (fun _ _ => trivial) fun _ is => .query is
  cases search with
  | query all => exact queried all
  | findAll => exact queried true
  | find =>
      apply (queried false).bind
      intro found _
      cases found with
      | nil => exact yields_throw (.elementNotFound _ _)
      | cons element others => exact yields_pure trivial
  | waitFor patience =>
      have look : Yields (fun _ => True) Fault (do return (← scope.query locator false).head?) :=
        (queried false).bind fun found _ => yields_pure trivial
      exact yields_pollOrFail look (.timeout _ _)

/-- It failed for want of the capability, and looked at the clock at most. -/
def RefusedAtOnce {α : Type} (scope : Scope) (dialect : Dialect) (own : List Happening) (outcome : Except Error α) :
    Prop :=
  outcome = .error (.capability dialect.name scope.extent.name) ∧ ∀ happening ∈ own, happening.act = .now

private theorem refusedAtOnce_throw {α : Type} {scope : Scope} {dialect : Dialect} :
    Leaves (RefusedAtOnce scope dialect)
      (throw (.capability dialect.name scope.extent.name) : Browsing α).run :=
  ⟨rfl, List.forall_mem_nil _⟩

private theorem refused_on (missing : scope.extent.supports locator.dialect = false) :
    Leaves (RefusedAtOnce scope locator.dialect) (search.on scope locator).run := by
  have refused := scope.query_of_unsupported missing
  cases search with
  | query all =>
      simp only [on, refused]
      exact refusedAtOnce_throw
  | findAll =>
      simp only [on, Scope.findAll, refused]
      exact refusedAtOnce_throw
  | find =>
      simp only [on, Scope.find, refused]
      exact refusedAtOnce_throw
  | waitFor patience =>
      have first := patience.looks_ne_zero
      simp only [on, Scope.waitFor, pollOrFail, poll, refused]
      generalize patience.looks = looks at first
      cases looks with
      | zero => exact absurd rfl first
      | succ looks => exact fun time => ⟨rfl, List.forall_mem_singleton.mpr rfl⟩

end Search

/-- Whether a search failed for want of a capability, and what it did in that case. -/
structure Judged {α : Type} (scope : Scope) (locator : Locator) (own : List Happening) (outcome : Except Error α) :
    Prop where
  said : (∃ error, outcome = .error error ∧ error.isCapability = true) ↔
    (∃ handle mode, scope.extent = .shadow handle mode) ∧ locator.dialect = .xpath
  named : (∃ handle mode, scope.extent = .shadow handle mode) ∧ locator.dialect = .xpath →
    outcome = .error (.capability "XPath" "shadow")
  atOnce : (∃ handle mode, scope.extent = .shadow handle mode) ∧ locator.dialect = .xpath →
    ∀ happening ∈ own, happening.act = .now

theorem carried_of_served {α : Type} {surroundings : Surroundings} {program : ClientProgram α}
    {past own : List Happening}
    (served : ∀ past session command, CallEnd session command (surroundings past (.request session command)))
    (journal : (perform surroundings program past).2 = past ++ own) (error : Error) (told : Told own error) :
    error.isCarried = true := by
  obtain ⟨session, command, member⟩ := told
  obtain ⟨same, written, answered⟩ := ClientProgram.answers_of_perform surroundings program past
  obtain rfl := List.append_cancel_left (journal.symm.trans written)
  obtain ⟨before, answer⟩ := answered _ member
  have ended := served before session command
  rw [← answer] at ended
  exact isCarried_of_callEnd ended

section Judged

variable {α : Type} {scope : Scope} {locator : Locator} {own : List Happening} {outcome : Except Error α}

theorem Search.RefusedAtOnce.judged (refused : RefusedAtOnce scope locator.dialect own outcome)
    (missing : scope.extent.supports locator.dialect = false) : Judged scope locator own outcome := by
  have below := Extent.supports_eq_false_iff.mp missing
  have named : outcome = .error (.capability "XPath" "shadow") := by
    obtain ⟨⟨handle, mode, shadow⟩, xpath⟩ := below
    rw [refused.1, xpath, shadow]
    rfl
  exact ⟨⟨fun _ => below, fun _ => ⟨_, named, rfl⟩⟩, fun _ => named, fun _ => refused.2⟩

/-- No request ends with a capability that is missing, so where the dialect is supported no search does. -/
theorem Yielded.judged {good : α → Prop} (yielded : Yielded good Search.Fault own outcome)
    (supported : scope.extent.supports locator.dialect = true)
    (carried : ∀ error, Told own error → error.isCarried = true) : Judged scope locator own outcome := by
  have fits : ¬((∃ handle mode, scope.extent = .shadow handle mode) ∧ locator.dialect = .xpath) := by
    rw [← Extent.supports_eq_false_iff, supported]
    decide
  refine ⟨⟨fun missing => ?_, fun below => absurd below fits⟩, fun below => absurd below fits,
    fun below => absurd below fits⟩
  obtain ⟨error, rfl, capability⟩ := missing
  have other : error.isCapability = false := by
    cases yielded with
    | fault is => exact Search.not_capability_of_fault is
    | told told => exact Error.not_capability_of_carried (carried error told)
  rw [other] at capability
  cases capability

end Judged

/-- If requests end as calls on a connection do, then a search fails for want of a capability if and only if it is
for XPath below a shadow root. In that case it asks the browser nothing and does not sleep. -/
theorem capability_judged_locally {surroundings : Surroundings}
    (served : ∀ past session command, CallEnd session command (surroundings past (.request session command)))
    (search : Search) (scope : Scope) (locator : Locator) (past : List Happening) :
    ∃ own, (perform surroundings (search.on scope locator).run past).2 = past ++ own ∧
      Judged scope locator own (perform surroundings (search.on scope locator).run past).1 := by
  cases supported : scope.extent.supports locator.dialect with
  | false =>
      obtain ⟨own, journal, refused⟩ := (search.refused_on supported).perform surroundings past
      exact ⟨own, journal, refused.judged supported⟩
  | true =>
      obtain ⟨own, journal, yielded⟩ := (search.yields_on supported).perform surroundings past
      exact ⟨own, journal, yielded.judged supported (carried_of_served served journal)⟩

def offline : Surroundings := fun _ act =>
  match act with
  | .request _ _ => .error .connectionClosed
  | .session _ | .sessionForTarget _ | .recall _ => none
  | .newMemo => ⟨0⟩
  | .now => (0 : Nat)
  | .sleep _ | .enterAttach | .leaveAttach | .store _ | .assign _ _ | .forget _ | .note _ _ => ()

private theorem callEnd_closed (session : SessionId) (command : Command) :
    CallEnd session command (.error .connectionClosed) :=
  ⟨[.loop .leave, .loop .exit, .start session command 0, .call 0 .proceed], 0,
    ⟨session, command, 0, .finished none (.error .connectionClosed)⟩, none, rfl, rfl, rfl, rfl⟩

def closedRoot : Scope := ⟨.shadow ⟨"R"⟩ .closed, ⟨⟨"S"⟩, .usual, ⟨0⟩⟩⟩

/-- Without a connection a wait for a link below a shadow root still fails for want of the capability. -/
theorem capability_judged_locally_offline :
    (∀ past session command, CallEnd session command (offline past (.request session command))) ∧
      ∃ own, (perform offline ((Search.waitFor .usual).on closedRoot (.xpath "//a")).run []).2 = [] ++ own ∧
        Judged closedRoot (.xpath "//a") own
          (perform offline ((Search.waitFor .usual).on closedRoot (.xpath "//a")).run []).1 :=
  have served : ∀ past session command, CallEnd session command (offline past (.request session command)) :=
    fun _ => callEnd_closed
  ⟨served, capability_judged_locally served (.waitFor .usual) _ _ []⟩

end RemoteDom
