import RemoteDom.Proofs.Dom.FrameEntry
import RemoteDom.Proofs.Dom.Searches
import RemoteDom.Proofs.Program.Runs

/-! Enumerations. A script that looks for all matches gives a list, which is an object of the browser. Nothing that
looks for the first match, and nothing that enters a frame, has to do with lists. -/

namespace RemoteDom

open ClientProgram (Leaves)

/-- The command looks for all matches of some expression in some part of a page. -/
def Command.Enumerates (command : Command) : Prop :=
  ∃ dialect expression extent, Seeks dialect true expression extent command

def listIn? (answer : Json) : Option Handle := do
  let evaluation ← Evaluation.ofJson? answer
  if evaluation.exception.isSome then none else evaluation.result.presentHandle?

/-- The browser answers that it found all matches of something, and gives the list of them. -/
inductive Happening.Lists : Happening → SessionId → Handle → Prop
  | found {session : SessionId} {command : Command} {answer : Json} {list : Handle} (enumerates : command.Enumerates)
      (given : listIn? answer = some list) : Lists ⟨.request session command, .ok answer⟩ session list

def Act.takenApart? : Act → Option Handle
  | .request _ (.getProperties list _) => some list
  | _ => none

def Act.givenBack? : Act → Option (SessionId × Handle)
  | .request place (.releaseObject list) => some (place, list)
  | _ => none

theorem asIs_of_scripted {session : SessionId} {command : Command} (scripted : command.scriptless = false) :
    (Act.request session command).takenApart? = none ∧ (Act.request session command).givenBack? = none := by
  cases command <;> first | exact ⟨rfl, rfl⟩ | cases scripted

/-! Scripts for the first match are no scripts for all matches. -/

namespace Script

private theorem head?_asExpression (selector : String) (dialect : Dialect) (all : Bool) :
    (asExpression (search "document" "document" selector dialect all) dialect all).toList.head? =
      some (if all then (if dialect = .css then 'A' else '(') else 'd') := by
  have front : (aroundLiteral dialect all).1.toList.head? =
      some (if all then (if dialect = .css then 'A' else '(') else 'd') := by
    unfold aroundLiteral
    cases dialect <;> cases all <;> simp
  rw [← around_eq, String.toList_append, String.toList_append, List.append_assoc, List.head?_append, front]
  rfl

private theorem asFunction_ne (dialect other : Dialect) :
    asFunction (search "doc" "this" (parameter dialect) dialect false) dialect false ≠
      asFunction (search "doc" "this" (parameter other) other true) other true := by
  cases dialect <;> cases other <;> decide +kernel

end Script

private theorem Seeks.cases_command {dialect : Dialect} {all : Bool} {expression : String} {extent : Extent}
    {command : Command}
    (seeks : Seeks dialect all expression extent command) :
    (∃ selector, command =
        .evaluate (Script.asExpression (Script.search "document" "document" selector dialect all) dialect all)
          false false) ∨
      ∃ handle arguments, command =
        .callFunctionOn
          (Script.asFunction (Script.search "doc" "this" (Script.parameter dialect) dialect all) dialect all)
          handle arguments false false := by
  cases seeks with
  | document parts around => exact .inl ⟨_, by rw [parts, around]⟩
  | node handle same => exact .inr ⟨handle, _, by rw [same]⟩
  | shadow handle mode same => exact .inr ⟨handle, _, by rw [same]⟩

theorem Seeks.not_enumerates {dialect : Dialect} {expression : String} {extent : Extent} {command : Command}
    (seeks : Seeks dialect false expression extent command) : ¬command.Enumerates := by
  rintro ⟨other, another, place, also⟩
  obtain ⟨selector, rfl⟩ | ⟨handle, arguments, rfl⟩ := seeks.cases_command
  · obtain ⟨selector', same⟩ | ⟨_, _, same⟩ := also.cases_command
    · have scripts := (Command.evaluate.inj same).1
      have heads := congrArg (fun script => script.toList.head?) scripts
      simp only [Script.head?_asExpression] at heads
      cases other <;> cases heads
    · cases same
  · obtain ⟨selector, same⟩ | ⟨_, _, same⟩ := also.cases_command
    · cases same
    · exact Script.asFunction_ne dialect other (Command.callFunctionOn.inj same).1

private theorem not_enumerates_document : ¬(Command.evaluate "document" false false).Enumerates := by
  rintro ⟨dialect, expression, extent, seeks⟩
  obtain ⟨selector, same⟩ | ⟨_, _, same⟩ := seeks.cases_command
  · have heads := congrArg (fun script => script.toList.head?) (Command.evaluate.inj same).1
    simp only [Script.head?_asExpression] at heads
    cases dialect <;> simp at heads
  · cases same

theorem Seeks.scripted {dialect : Dialect} {all : Bool} {expression : String} {extent : Extent} {command : Command}
    (seeks : Seeks dialect all expression extent command) : command.scriptless = false := by
  cases seeks <;> rfl

theorem Command.Enumerates.scripted {command : Command} (enumerates : command.Enumerates) :
    command.scriptless = false := by
  obtain ⟨dialect, expression, extent, seeks⟩ := enumerates
  exact seeks.scripted

structure Act.Listless (act : Act) : Prop where
  whole : act.takenApart? = none
  kept : act.givenBack? = none
  single : ∀ session command, act = .request session command → ¬command.Enumerates

theorem listless_own {act : Act} (own : ∀ session command, act ≠ .request session command) : act.Listless := by
  refine ⟨?_, ?_, fun session command same => absurd same (own session command)⟩
  · cases act with
    | request session command => exact absurd rfl (own session command)
    | _ => rfl
  · cases act with
    | request session command => exact absurd rfl (own session command)
    | _ => rfl

private theorem listless_scriptless {session : SessionId} {command : Command} (scriptless : command.scriptless = true)
    (whole : (Act.request session command).takenApart? = none)
    (kept : (Act.request session command).givenBack? = none) :
    (Act.request session command).Listless := by
  refine ⟨whole, kept, fun _ _ same enumerates => ?_⟩
  obtain ⟨rfl, rfl⟩ := Act.request.inj same
  rw [enumerates.scripted] at scriptless
  cases scriptless

/-! To enter a frame has nothing to do with lists. -/

/-- The commands that it takes to enter a frame. -/
inductive Command.Enters : Command → Prop
  | describe (handle : Handle) : Enters (.describeNode (some handle) none 1 true)
  | resolve (backend : BackendId) : Enters (.resolveNode backend)
  | targets : Enters .getTargets
  | attach (target : TargetId) : Enters (.attachToTarget target true)
  | document : Enters (.evaluate "document" false false)

section Requested

variable {owner : Element} {own : List Happening} {session : SessionId} {command : Command}
  {answer : Except Error Json}

theorem Described.requested {outcome : Except Error Node} (described : Described owner own outcome)
    (member : ⟨.request session command, answer⟩ ∈ own) : command.Enters := by
  cases described with
  | told reply node notes readable silent =>
      rcases List.mem_cons.mp member with first | noted
      · cases first
        exact .describe owner.handle
      · obtain ⟨backend, other⟩ := silent _ noted
        cases other
  | unread =>
      cases List.mem_singleton.mp member
      exact .describe owner.handle

theorem Sought.requested {frame : FrameId} {outcome : Except Error Session} (sought : Sought owner frame own outcome)
    (member : ⟨.request session command, answer⟩ ∈ own) : command.Enters := by
  cases sought with
  | held => simp at member
  | unread | unlisted =>
      obtain ⟨⟨-, rfl⟩, -⟩ := by simpa using member
      exact .targets
  | listed _ _ _ _ attached =>
      rcases List.mem_cons.mp member with other | later
      · cases other
      rcases List.mem_cons.mp later with first | inside
      · cases first
        exact .targets
      · obtain ⟨-, rfl⟩ := attached.requested inside
        exact .attach frame.target

theorem Asked.requested {α : Type} {place : SessionId} {asked : Command} {read : Json → Option α}
    {outcome : Except Error α} (once : Asked place asked read own outcome)
    (member : ⟨.request session command, answer⟩ ∈ own) : command = asked := by
  obtain ⟨reply, rfl, -⟩ := once.answered
  cases List.mem_singleton.mp member
  rfl

theorem Passage.requested {node : Node} {outcome : Except Error Scope} (passage : Passage owner node own outcome)
    (member : ⟨.request session command, answer⟩ ∈ own) : command.Enters := by
  cases passage with
  | closed => cases member
  | sameProcess _ _ _ asked => exact asked.requested member ▸ .resolve _
  | unfound _ _ _ sought => exact sought.requested member
  | ownProcess _ _ _ sought asked =>
      rcases List.mem_append.mp member with early | late
      · exact sought.requested early
      · exact asked.requested late ▸ .document

theorem Entered.requested {outcome : Except Error Scope} (entered : Entered owner own outcome)
    (member : ⟨.request session command, answer⟩ ∈ own) : command.Enters := by
  cases entered with
  | undescribed described => exact described.requested member
  | described described passage =>
      rcases List.mem_append.mp member with early | late
      · exact described.requested early
      · exact passage.requested late

end Requested

theorem Command.Enters.listless {command : Command} (enters : command.Enters) (session : SessionId) :
    (Act.request session command).Listless := by
  cases enters with
  | document =>
      refine ⟨rfl, rfl, fun _ _ same => ?_⟩
      obtain ⟨-, rfl⟩ := Act.request.inj same
      exact not_enumerates_document
  | _ => exact listless_scriptless rfl rfl rfl

theorem Element.listless_contentScope (owner : Element) :
    Leaves (fun own _ => ∀ happening ∈ own, happening.act.Listless) owner.contentScope.run := by
  refine owner.leaves_contentScope.weaken fun own outcome entered => ?_
  rintro ⟨act, answer⟩ member
  cases act with
  | request session command => exact (entered.requested member).listless session
  | _ => exact listless_own nofun

end RemoteDom
