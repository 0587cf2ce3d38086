import RemoteDom.Dom.Frame
import RemoteDom.Proofs.Session.Attaching

/-! Entering frames. All ways in which an entry can go are listed with what happens on each, and what an entry
may do and must do is read off from them. -/

namespace RemoteDom

open ClientProgram (Leaves)

def ListsFrame (infos : List TargetInfo) (target : TargetId) : Prop :=
  ∃ info ∈ infos, info.id = target ∧ info.type = "iframe"

private theorem listsFrame_iff (infos : List TargetInfo) (target : TargetId) :
    (infos.any fun info => info.id == target && info.isFrame) = true ↔ ListsFrame infos target := by
  simp [ListsFrame, TargetInfo.isFrame]

/-- All that can happen while an element is described. If its node has a name, that is noted. -/
inductive Described (element : Element) : List Happening → Except Error Node → Prop
  | told (answer : Json) (node : Node) (notes : List Happening) (readable : Node.ofDescribed? answer = some node)
      (silent : ∀ happening ∈ notes, ∃ backend, happening = ⟨.note element.memo backend, ()⟩) :
      Described element
        (⟨.request element.context.session (.describeNode (some element.handle) none 1 true), .ok answer⟩ :: notes)
        (.ok node)
  | unread (answer : Except Error Json) (error : Error) (unreadable : answer.toOption.bind Node.ofDescribed? = none) :
      Described element
        [⟨.request element.context.session (.describeNode (some element.handle) none 1 true), answer⟩] (.error error)

/-- All that can happen while the session of a frame is looked for. -/
inductive Sought (owner : Element) (frame : FrameId) : List Happening → Except Error Session → Prop
  | held (session : Session) :
      Sought owner frame [⟨.sessionForTarget frame.target, some session⟩] (.ok session)
  | unread (answer : Except Error Json) (error : Error)
      (unreadable : answer.toOption.bind TargetInfo.listOfJson? = none) :
      Sought owner frame
        [⟨.sessionForTarget frame.target, none⟩, ⟨.request .topLevel .getTargets, answer⟩] (.error error)
  | unlisted (answer : Json) (infos : List TargetInfo) (readable : TargetInfo.listOfJson? answer = some infos)
      (unlisted : ¬ ListsFrame infos frame.target) :
      Sought owner frame
        [⟨.sessionForTarget frame.target, none⟩, ⟨.request .topLevel .getTargets, .ok answer⟩]
        (.error (.frameNotFound owner.reference (some frame)))
  | listed {own : List Happening} {outcome : Except Error Session} (answer : Json) (infos : List TargetInfo)
      (readable : TargetInfo.listOfJson? answer = some infos) (listed : ListsFrame infos frame.target)
      (attached : Attached frame.target owner.context.session own outcome) :
      Sought owner frame
        (⟨.sessionForTarget frame.target, none⟩ :: ⟨.request .topLevel .getTargets, .ok answer⟩ :: own) outcome

/-- What is known of a node that cannot be entered whatever its targets are. -/
inductive Node.Closed (node : Node) : Prop
  | frameless (other : node.ownsFrame = false)
  | unnamed (document : Node) (inside : node.contentDocument = some document) (nameless : document.backend = none)
  | missing (inside : node.contentDocument = none) (nameless : node.frame = none)

def nodeIn? (answer : Json) : Option Handle := (RemoteObject.ofResolved? answer).bind RemoteObject.handle

def documentIn? (answer : Json) : Option (Option Handle) := do
  let evaluation ← Evaluation.ofJson? answer
  if evaluation.exception.isSome then none else some evaluation.result.handle

inductive Passage (owner : Element) (node : Node) : List Happening → Except Error Scope → Prop
  | closed (closed : node.Closed) : Passage owner node [] (.error (.frameNotFound owner.reference node.frame))
  | sameProcess {document : Node} {backend : BackendId} {own : List Happening} {resolved : Except Error Handle}
      (owns : node.ownsFrame) (inside : node.contentDocument = some document)
      (named : document.backend = some backend)
      (asked : Asked owner.context.session (.resolveNode backend) nodeIn? own resolved) :
      Passage owner node own (resolved.map (.node owner.context))
  | unfound {own : List Happening} {frame : FrameId} {error : Error} (owns : node.ownsFrame)
      (outside : node.contentDocument = none) (named : node.frame = some frame)
      (sought : Sought owner frame own (.error error)) :
      Passage owner node own (.error error)
  | ownProcess {own more : List Happening} {frame : FrameId} {session : Session}
      {found : Except Error (Option Handle)} (owns : node.ownsFrame) (outside : node.contentDocument = none)
      (named : node.frame = some frame) (sought : Sought owner frame own (.ok session))
      (asked : Asked session.id (.evaluate "document" false false) documentIn? more found) :
      Passage owner node (own ++ more) (found.bind fun
        | some handle => .ok (.node (owner.context.inSession session.id) handle)
        | none => .error (.frameNotFound owner.reference node.frame))

inductive Entered (owner : Element) : List Happening → Except Error Scope → Prop
  | undescribed {own : List Happening} {error : Error} (described : Described owner own (.error error)) :
      Entered owner own (.error error)
  | described {opening own : List Happening} {node : Node} {outcome : Except Error Scope}
      (described : Described owner opening (.ok node)) (passage : Passage owner node own outcome) :
      Entered owner (opening ++ own) outcome

namespace Asked

variable {α : Type} {session : SessionId} {command : Command} {read : Json → Option α} {own : List Happening}
  {outcome : Except Error α}

theorem answered (asked : Asked session command read own outcome) :
    ∃ answer, own = [⟨.request session command, answer⟩] ∧
      ∀ value, answer.toOption.bind read = some value → outcome = .ok value := by
  cases asked with
  | told answer value readable => exact ⟨.ok answer, rfl, by simp [Except.toOption, readable]⟩
  | unread answer error unreadable => exact ⟨answer, rfl, by simp [unreadable]⟩

end Asked

private theorem leaves_resolve (context : Context) (backend : BackendId) :
    Leaves (Asked context.session (.resolveNode backend) nodeIn?) (context.resolve backend).run := by
  refine leaves_bind (leaves_about (leaves_call context.session (.resolveNode backend) RemoteObject.ofResolved?)
    (.backend backend)) ?_ ?_
  · rintro own error (_ | ⟨answer, error, unreadable⟩)
    refine .unread answer error ?_
    cases answer <;> simp_all [nodeIn?, Except.toOption]
  · rintro own object (⟨answer, object, readable⟩ | _)
    cases found : object.handle with
    | some handle => exact .told answer handle (by simp [nodeIn?, readable, found])
    | none => exact .unread (.ok answer) _ (by simp [nodeIn?, Except.toOption, readable, found])

namespace Element

private theorem leaves_documentHandle? (session : SessionId) :
    Leaves (Asked session (.evaluate "document" false false) documentIn?) (documentHandle? session).run := by
  refine leaves_bind (leaves_call session (.evaluate "document" false false) Evaluation.ofJson?) ?_ ?_
  · rintro own error (_ | ⟨answer, error, unreadable⟩)
    refine .unread answer error ?_
    cases answer <;> simp_all [documentIn?, Except.toOption]
  · rintro own evaluation (⟨answer, evaluation, readable⟩ | _)
    cases thrown : evaluation.exception with
    | some exception => exact .unread (.ok answer) _ (by simp [documentIn?, Except.toOption, readable, thrown])
    | none => exact .told answer evaluation.result.handle (by simp [documentIn?, readable, thrown])

private theorem leaves_describe (element : Element) : Leaves (Described element) element.describe.run := by
  refine leaves_bind (leaves_about (leaves_call element.context.session
    (.describeNode (some element.handle) none 1 true) Node.ofDescribed?) element.reference) ?_ ?_
  · rintro own error (_ | ⟨answer, error, unreadable⟩)
    exact .unread answer error unreadable
  · rintro own node (⟨answer, node, readable⟩ | _)
    cases node.backend with
    | none => exact .told answer node [] readable (by simp)
    | some backend => exact fun noted => .told answer node [_] readable (by simp)

private theorem leaves_frameSession (owner : Element) (frame : FrameId) :
    Leaves (Sought owner frame) (owner.frameSession frame).run := by
  intro known
  cases known with
  | some session => exact .held session
  | none =>
      refine leaves_bind (leaves_call .topLevel .getTargets TargetInfo.listOfJson?) ?_ ?_
      · rintro own error (_ | ⟨answer, error, unreadable⟩)
        exact .unread answer error unreadable
      · rintro own infos (⟨answer, infos, readable⟩ | _)
        split
        next listed =>
          exact (leaves_attach frame.target owner.context.session).weaken fun own outcome attached =>
            .listed answer infos readable ((listsFrame_iff infos frame.target).mp listed) attached
        next unlisted =>
          exact .unlisted answer infos readable fun listed =>
            unlisted ((listsFrame_iff infos frame.target).mpr listed)

theorem leaves_contentScope (owner : Element) : Leaves (Entered owner) owner.contentScope.run := by
  refine leaves_bind owner.leaves_describe (fun own error described => .undescribed described) ?_
  intro opening node described
  refine Leaves.weaken (?_ : Leaves (Passage owner node) _) fun own outcome passage => .described described passage
  split
  next other => exact .closed (.frameless (by simpa using other))
  next own =>
    have owns : node.ownsFrame := by simpa using own
    split
    next document inside =>
      split
      next backend named =>
        refine leaves_bind (leaves_resolve owner.context backend) ?_ ?_
        · exact fun own error asked => .sameProcess owns inside named asked
        · intro own handle asked
          show Passage owner node (own ++ []) _
          rw [List.append_nil]
          exact .sameProcess owns inside named asked
      next nameless => exact .closed (.unnamed document inside nameless)
    next outside =>
      split
      next nameless => exact .closed (.missing outside nameless)
      next frame named =>
        refine leaves_bind (owner.leaves_frameSession frame) ?_ ?_
        · exact fun own error sought => .unfound owns outside named sought
        · intro own session sought
          refine leaves_bind (leaves_documentHandle? session.id) ?_ ?_
          · exact fun more error asked => .ownProcess owns outside named sought asked
          · intro more found asked
            cases found with
            | none =>
                show Passage owner node (own ++ (more ++ [])) _
                rw [List.append_nil]
                exact .ownProcess owns outside named sought asked
            | some handle =>
                show Passage owner node (own ++ (more ++ [])) _
                rw [List.append_nil]
                exact .ownProcess owns outside named sought asked

end Element

/-- The first thing that happens is that the element is described, in its own session, as that node. -/
def Element.Told (element : Element) (own : List Happening) (node : Node) : Prop :=
  ∃ answer rest, Node.ofDescribed? answer = some node ∧ own =
    ⟨.request element.context.session (.describeNode (some element.handle) none 1 true), .ok answer⟩ :: rest

def Act.ConcernsTargets : Act → Prop
  | .request _ command => "Target.".toList <+: command.method.toList
  | _ => False

/-- What has happened when the browser is asked to attach to the target of a frame: the table was asked for
its session and had none, the browser listed the target among the frames, and it was not yet asked to
attach. -/
structure Warranted (before : List Happening) (target : TargetId) : Prop where
  sought : ⟨.sessionForTarget target, none⟩ ∈ before
  unknown : ∀ known, ⟨.sessionForTarget target, known⟩ ∈ before → known = none
  listed : ∃ answer infos, ⟨.request .topLevel .getTargets, .ok answer⟩ ∈ before ∧
    TargetInfo.listOfJson? answer = some infos ∧ ListsFrame infos target
  first : ∀ happening ∈ before, ¬ happening.act.Attaches

/-- A described node that is no way into a frame: by itself, or because the browser does not list the target
of its frame. -/
inductive Impassable (own : List Happening) (node : Node) : Prop
  | closed (closed : node.Closed)
  | unlisted (frame : FrameId) (outside : node.contentDocument = none) (named : node.frame = some frame)
      (answer : Json) (infos : List TargetInfo) (asked : ⟨.request .topLevel .getTargets, .ok answer⟩ ∈ own)
      (readable : TargetInfo.listOfJson? answer = some infos) (unlisted : ¬ ListsFrame infos frame.target)

/-- What an entry may do and must do, in terms of all that happened during it. A document in the description of the
owner is entered where the owner lives, any other frame in the session that is found for its target. An attach goes
through the owner's session, to that target, for good reason; and where there is no way in, the error names the owner
and the frame. -/
structure FrameEntry (owner : Element) (own : List Happening) (outcome : Except Error Scope) : Prop where
  opens : ∃ answer rest, own =
    ⟨.request owner.context.session (.describeNode (some owner.handle) none 1 true), answer⟩ :: rest
  gives : ∀ scope, outcome = .ok scope →
    ∃ handle node, scope.extent = .node handle ∧ owner.Told own node ∧ node.ownsFrame
  sameProcess : ∀ node document, owner.Told own node → node.contentDocument = some document →
    (∀ scope, outcome = .ok scope → scope.context = owner.context) ∧
      ∀ happening ∈ own, ¬ happening.act.ConcernsTargets
  entersDocument : ∀ node document backend, owner.Told own node → node.ownsFrame →
    node.contentDocument = some document → document.backend = some backend →
    ∃ answer, ⟨.request owner.context.session (.resolveNode backend), answer⟩ ∈ own ∧
      ∀ handle, answer.toOption.bind nodeIn? = some handle → outcome = .ok (.node owner.context handle)
  ownProcess : ∀ node scope, owner.Told own node → node.contentDocument = none → outcome = .ok scope →
    ∃ frame id, node.frame = some frame ∧ Found frame.target owner.context.session own id ∧
      scope.context = owner.context.inSession id
  entersSession : ∀ node frame id, owner.Told own node → node.ownsFrame → node.contentDocument = none →
    node.frame = some frame → Found frame.target owner.context.session own id →
    ∃ answer, ⟨.request id (.evaluate "document" false false), answer⟩ ∈ own ∧
      ∀ handle, answer.toOption.bind documentIn? = some (some handle) →
        outcome = .ok (.node (owner.context.inSession id) handle)
  seeks : ∀ node frame, owner.Told own node → node.ownsFrame → node.contentDocument = none →
    node.frame = some frame → ∃ known, ⟨.sessionForTarget frame.target, known⟩ ∈ own ∧
      (known = none → ∃ answer, ⟨.request .topLevel .getTargets, answer⟩ ∈ own)
  attaches : ∀ before session target flatten answer after,
    own = before ++ ⟨.request session (.attachToTarget target flatten), answer⟩ :: after →
      session = owner.context.session ∧ Warranted before target ∧
        ∃ node frame, owner.Told own node ∧ node.contentDocument = none ∧ node.frame = some frame ∧
          target = frame.target
  refuses : ∀ node, owner.Told own node → Impassable own node →
    outcome = .error (.frameNotFound owner.reference node.frame) ∧ ∀ happening ∈ own, ¬ happening.act.Attaches

namespace Described

variable {element : Element} {opening : List Happening} {outcome : Except Error Node}

private theorem opens (described : Described element opening outcome) (rest : List Happening) :
    ∃ answer others, opening ++ rest =
      ⟨.request element.context.session (.describeNode (some element.handle) none 1 true), answer⟩ :: others := by
  cases described with
  | told answer => exact ⟨.ok answer, _, rfl⟩
  | unread answer => exact ⟨answer, _, rfl⟩

private theorem told_iff (described : Described element opening outcome) (rest : List Happening) (node : Node) :
    element.Told (opening ++ rest) node ↔ outcome = .ok node := by
  constructor
  · rintro ⟨answer, others, readable, same⟩
    cases described with
    | told other found =>
        obtain ⟨rfl, -⟩ : other = answer ∧ _ := by simpa using same
        simp_all
    | unread other error unreadable =>
        obtain ⟨rfl, -⟩ : other = .ok answer ∧ _ := by simpa using same
        simp_all [Except.toOption]
  · rintro rfl
    cases described with
    | told answer node notes readable => exact ⟨answer, notes ++ rest, readable, rfl⟩

theorem quiet (described : Described element opening outcome) :
    ∀ happening ∈ opening, ¬ happening.act.ConcernsTargets ∧ ¬ happening.act.Attaches ∧
      ∀ target, happening.act ≠ .sessionForTarget target := by
  have request : ¬ Act.ConcernsTargets
      (.request element.context.session (.describeNode (some element.handle) none 1 true)) := by
    simp [Act.ConcernsTargets, Command.method]
  cases described with
  | told answer node notes readable silent =>
      refine List.forall_mem_cons.mpr ⟨⟨request, id, by simp⟩, ?_⟩
      intro happening member
      obtain ⟨backend, rfl⟩ := silent happening member
      exact ⟨id, id, by simp⟩
  | unread => exact List.forall_mem_singleton.mpr ⟨request, id, by simp⟩

end Described

namespace Sought

variable {owner : Element} {frame : FrameId} {own : List Happening} {outcome : Except Error Session}

theorem seeks (sought : Sought owner frame own outcome) :
    ∃ known, ⟨.sessionForTarget frame.target, known⟩ ∈ own ∧
      (known = none → ∃ answer, ⟨.request .topLevel .getTargets, answer⟩ ∈ own) := by
  cases sought with
  | held session => exact ⟨some session, by simp⟩
  | unread answer => exact ⟨none, by simp⟩
  | unlisted answer => exact ⟨none, by simp, fun _ => ⟨.ok answer, by simp⟩⟩
  | listed answer => exact ⟨none, by simp, fun _ => ⟨.ok answer, by simp⟩⟩

theorem found_iff (sought : Sought owner frame own outcome) (id : SessionId) :
    Found frame.target owner.context.session own id ↔ ∃ session, outcome = .ok session ∧ session.id = id := by
  cases sought with
  | held session => simp [Found, Act.Attaches]
  | unread | unlisted => simp [Found, Act.Attaches]
  | listed answer infos readable listed attached =>
      rw [← attached.found_iff]
      simp [Found, Act.Attaches]

/-- Where the browser is asked to attach, that happens once and for good reason. -/
theorem quiet_or_split (sought : Sought owner frame own outcome) :
    (∀ happening ∈ own, ¬ happening.act.Attaches) ∨
      ∃ before answer after, Warranted before frame.target ∧ (∀ happening ∈ after, ¬ happening.act.Attaches) ∧
        own = before ++ ⟨.request owner.context.session (.attachToTarget frame.target true), answer⟩ :: after := by
  cases sought with
  | held | unread | unlisted => exact .inl (by simp [Act.Attaches])
  | listed reply infos readable listed attached =>
      refine attached.quiet_or_split.imp (by simp [Act.Attaches]) ?_
      rintro ⟨answer, after, late, rfl⟩
      refine ⟨⟨.sessionForTarget frame.target, none⟩ :: ⟨.request .topLevel .getTargets, .ok reply⟩ :: _, answer,
        after, ⟨by simp, ?_, ⟨reply, infos, by simp, readable, listed⟩, by simp [Act.Attaches]⟩, late, rfl⟩
      intro known member
      simpa using member

/-- What the browser lists is asked for once, and to list the target is the only way on. -/
theorem refuses (sought : Sought owner frame own outcome) {answer : Json} {infos : List TargetInfo}
    (asked : ⟨.request .topLevel .getTargets, .ok answer⟩ ∈ own)
    (readable : TargetInfo.listOfJson? answer = some infos) (unlisted : ¬ ListsFrame infos frame.target) :
    outcome = .error (.frameNotFound owner.reference (some frame)) ∧
      ∀ happening ∈ own, ¬ happening.act.Attaches := by
  cases sought with
  | held => simp at asked
  | unread other error unreadable =>
      obtain rfl : .ok answer = other := by simpa using asked
      simp_all [Except.toOption]
  | unlisted => exact ⟨rfl, by simp [Act.Attaches]⟩
  | listed reply others read listed attached =>
      rcases List.mem_cons.mp asked with other | later
      · cases other
      · rcases List.mem_cons.mp later with same | inside
        · obtain rfl : answer = reply := by simpa using same
          exact absurd (Option.some.inj (read.symm.trans readable) ▸ listed) unlisted
        · cases (attached.requested inside).2

end Sought

namespace Node.Closed

variable {node : Node}

private theorem not_inside (closed : node.Closed) (owns : node.ownsFrame) {document : Node}
    (inside : node.contentDocument = some document) {backend : BackendId} (named : document.backend = some backend) :
    False := by
  cases closed with
  | frameless other => cases owns.symm.trans other
  | unnamed within same nameless =>
      obtain rfl := Option.some.inj (inside.symm.trans same)
      cases named.symm.trans nameless
  | missing outside => cases inside.symm.trans outside

private theorem not_outside (closed : node.Closed) (owns : node.ownsFrame) (outside : node.contentDocument = none)
    {frame : FrameId} (named : node.frame = some frame) : False := by
  cases closed with
  | frameless other => cases owns.symm.trans other
  | unnamed within same => cases outside.symm.trans same
  | missing _ nameless => cases named.symm.trans nameless

end Node.Closed

namespace Passage

variable {owner : Element} {node : Node} {own : List Happening} {outcome : Except Error Scope}

theorem gives (passage : Passage owner node own outcome) {scope : Scope} (same : outcome = .ok scope) :
    node.ownsFrame ∧ ∃ handle, scope.extent = .node handle := by
  cases passage with
  | closed | unfound => cases same
  | @sameProcess _ _ _ resolved owns =>
      cases resolved with
      | error error => cases same
      | ok handle => exact ⟨owns, handle, Except.ok.inj same ▸ rfl⟩
  | @ownProcess _ _ _ _ found owns =>
      cases found with
      | error error => cases same
      | ok document =>
          cases document with
          | none => cases same
          | some handle => exact ⟨owns, handle, Except.ok.inj same ▸ rfl⟩

private theorem sameProcess_of_document (passage : Passage owner node own outcome) {document : Node}
    (inside : node.contentDocument = some document) :
    (∀ scope, outcome = .ok scope → scope.context = owner.context) ∧
      ∀ happening ∈ own, ¬ happening.act.ConcernsTargets := by
  cases passage with
  | closed => simp
  | @sameProcess _ _ _ resolved owns within named asked =>
      obtain ⟨answer, rfl, -⟩ := asked.answered
      refine ⟨fun scope same => ?_, by simp [Act.ConcernsTargets, Command.method]⟩
      cases resolved with
      | error error => cases same
      | ok handle => exact Except.ok.inj same ▸ rfl
  | unfound owns outside | ownProcess owns outside => simp [outside] at inside

private theorem entersDocument (passage : Passage owner node own outcome) (owns : node.ownsFrame) {document : Node}
    (inside : node.contentDocument = some document) {backend : BackendId} (named : document.backend = some backend) :
    ∃ answer, ⟨.request owner.context.session (.resolveNode backend), answer⟩ ∈ own ∧
      ∀ handle, answer.toOption.bind nodeIn? = some handle → outcome = .ok (.node owner.context handle) := by
  cases passage with
  | closed closed => exact (closed.not_inside owns inside named).elim
  | sameProcess _ within other asked =>
      obtain rfl := Option.some.inj (within.symm.trans inside)
      obtain rfl := Option.some.inj (other.symm.trans named)
      obtain ⟨answer, rfl, enough⟩ := asked.answered
      refine ⟨answer, List.mem_singleton_self _, fun handle readable => ?_⟩
      rw [enough handle readable]
      rfl
  | unfound _ outside | ownProcess _ outside => simp [outside] at inside

private theorem ownProcess_of_no_document (passage : Passage owner node own outcome)
    (outside : node.contentDocument = none)
    {scope : Scope} (same : outcome = .ok scope) :
    ∃ frame id, node.frame = some frame ∧ Found frame.target owner.context.session own id ∧
      scope.context = owner.context.inSession id := by
  cases passage with
  | closed | unfound => cases same
  | sameProcess owns inside => simp [outside] at inside
  | @ownProcess own more frame session found owns outside named sought asked =>
      refine ⟨frame, session.id, named, ?_, ?_⟩
      · obtain ⟨answer, rfl, -⟩ := asked.answered
        have inside := (sought.found_iff session.id).mpr ⟨session, rfl, rfl⟩
        simpa [Found, or_imp, forall_and, Act.Attaches] using inside
      · cases found with
        | error error => cases same
        | ok document =>
            cases document with
            | none => cases same
            | some handle => exact Except.ok.inj same ▸ rfl

private theorem entersSession (passage : Passage owner node own outcome) (owns : node.ownsFrame)
    (outside : node.contentDocument = none) {frame : FrameId} (named : node.frame = some frame) {id : SessionId}
    (found : Found frame.target owner.context.session own id) :
    ∃ answer, ⟨.request id (.evaluate "document" false false), answer⟩ ∈ own ∧
      ∀ handle, answer.toOption.bind documentIn? = some (some handle) →
        outcome = .ok (.node (owner.context.inSession id) handle) := by
  cases passage with
  | closed closed => exact (closed.not_outside owns outside named).elim
  | sameProcess _ inside => simp [outside] at inside
  | unfound _ _ other sought =>
      obtain rfl := Option.some.inj (other.symm.trans named)
      obtain ⟨session, given, -⟩ := (sought.found_iff id).mp found
      cases given
  | ownProcess _ _ other sought asked =>
      obtain rfl := Option.some.inj (other.symm.trans named)
      obtain ⟨answer, rfl, enough⟩ := asked.answered
      obtain ⟨session, given, rfl⟩ := (sought.found_iff id).mp
        (by simpa [Found, or_imp, forall_and, Act.Attaches] using found)
      cases given
      refine ⟨answer, by simp, fun handle readable => ?_⟩
      rw [enough (some handle) readable]
      rfl

theorem seeks (passage : Passage owner node own outcome) (owns : node.ownsFrame)
    (outside : node.contentDocument = none) {frame : FrameId} (named : node.frame = some frame) :
    ∃ known, ⟨.sessionForTarget frame.target, known⟩ ∈ own ∧
      (known = none → ∃ answer, ⟨.request .topLevel .getTargets, answer⟩ ∈ own) := by
  cases passage with
  | closed closed => exact (closed.not_outside owns outside named).elim
  | sameProcess _ inside => simp [outside] at inside
  | unfound _ _ other sought =>
      obtain rfl := Option.some.inj (other.symm.trans named)
      exact sought.seeks
  | ownProcess _ _ other sought =>
      obtain rfl := Option.some.inj (other.symm.trans named)
      obtain ⟨known, asked, further⟩ := sought.seeks
      refine ⟨known, by simp [asked], fun none => ?_⟩
      obtain ⟨answer, listed⟩ := further none
      exact ⟨answer, by simp [listed]⟩

theorem quiet_or_split (passage : Passage owner node own outcome) :
    (∀ happening ∈ own, ¬ happening.act.Attaches) ∨
      ∃ frame before answer after, node.contentDocument = none ∧ node.frame = some frame ∧
        Warranted before frame.target ∧ (∀ happening ∈ after, ¬ happening.act.Attaches) ∧
        own = before ++ ⟨.request owner.context.session (.attachToTarget frame.target true), answer⟩ :: after := by
  cases passage with
  | closed => exact .inl (by simp)
  | sameProcess _ _ _ asked =>
      obtain ⟨answer, rfl, -⟩ := asked.answered
      exact .inl (by simp [Act.Attaches])
  | unfound _ outside named sought =>
      refine sought.quiet_or_split.imp id ?_
      rintro ⟨before, answer, after, warranted, late, rfl⟩
      exact ⟨_, before, answer, after, outside, named, warranted, late, rfl⟩
  | @ownProcess own more frame session found _ outside named sought asked =>
      obtain ⟨reply, rfl, -⟩ := asked.answered
      refine sought.quiet_or_split.imp (by simp [or_imp, forall_and, Act.Attaches]) ?_
      rintro ⟨before, answer, after, warranted, late, rfl⟩
      refine ⟨frame, before, answer, after ++ [⟨.request session.id (.evaluate "document" false false), reply⟩],
        outside, named, warranted, ?_, by simp⟩
      simpa [or_imp, forall_and, Act.Attaches] using late

theorem refuses (passage : Passage owner node own outcome) (impassable : Impassable own node) :
    outcome = .error (.frameNotFound owner.reference node.frame) ∧
      ∀ happening ∈ own, ¬ happening.act.Attaches := by
  cases passage with
  | closed => exact ⟨rfl, by simp⟩
  | sameProcess owns inside named =>
      rcases impassable with ⟨closed⟩ | ⟨frame, outside, _⟩
      · exact (closed.not_inside owns inside named).elim
      · simp [outside] at inside
  | unfound owns outside named sought =>
      rcases impassable with ⟨closed⟩ | ⟨frame, _, other, answer, infos, asked, readable, unlisted⟩
      · exact (closed.not_outside owns outside named).elim
      · obtain rfl := Option.some.inj (other.symm.trans named)
        obtain ⟨same, quiet⟩ := sought.refuses asked readable unlisted
        cases same
        exact ⟨by rw [named], quiet⟩
  | ownProcess owns outside named sought document =>
      obtain ⟨reply, rfl, -⟩ := document.answered
      rcases impassable with ⟨closed⟩ | ⟨frame, _, other, answer, infos, asked, readable, unlisted⟩
      · exact (closed.not_outside owns outside named).elim
      · obtain rfl := Option.some.inj (other.symm.trans named)
        cases (sought.refuses (by simpa using asked) readable unlisted).1

end Passage

theorem before_eq_of_sole {α : Type} {property : α → Prop} {front back before after : List α} {sole other : α}
    (early : ∀ item ∈ front, ¬ property item) (late : ∀ item ∈ back, ¬ property item)
    (split : front ++ sole :: back = before ++ other :: after) (found : property other) :
    front = before ∧ sole = other := by
  induction front generalizing before with
  | nil =>
      cases before with
      | nil => exact ⟨rfl, (List.cons.inj split).1⟩
      | cons item before =>
          have among : other ∈ back := by simp [(List.cons.inj split).2]
          exact absurd found (late other among)
  | cons item front ih =>
      cases before with
      | nil => exact absurd ((List.cons.inj split).1 ▸ found) (early item List.mem_cons_self)
      | cons first before =>
          obtain ⟨rfl, rest⟩ := List.cons.inj split
          have ⟨same, equal⟩ := ih (fun item member => early item (List.mem_cons_of_mem _ member)) rest
          exact ⟨by rw [same], equal⟩

/-- Nothing of what happened has to do with the sessions of targets. -/
def Aside (happenings : List Happening) : Prop :=
  ∀ happening ∈ happenings, ¬ happening.act.Attaches ∧ ∀ target, happening.act ≠ .sessionForTarget target

/-- What happened aside takes nothing away from what warrants an attach. -/
theorem Warranted.after {before opening : List Happening} {target : TargetId} (warranted : Warranted before target)
    (aside : Aside opening) : Warranted (opening ++ before) target where
  sought := List.mem_append_right _ warranted.sought
  unknown := by
    intro known member
    rcases List.mem_append.mp member with early | late
    · exact absurd rfl ((aside _ early).2 target)
    · exact warranted.unknown known late
  listed := by
    obtain ⟨answer, infos, member, rest⟩ := warranted.listed
    exact ⟨answer, infos, List.mem_append_right _ member, rest⟩
  first := by
    intro happening member
    rcases List.mem_append.mp member with early | late
    · exact (aside happening early).1
    · exact warranted.first happening late

private theorem found_after {own opening : List Happening} {target : TargetId} {parent id : SessionId}
    (aside : Aside opening) : Found target parent (opening ++ own) id ↔ Found target parent own id := by
  have known (session : Option Session) : ⟨.sessionForTarget target, session⟩ ∉ opening :=
    fun member => (aside _ member).2 target rfl
  have given (answer : Except Error Json) : ⟨.request parent (.attachToTarget target true), answer⟩ ∉ opening :=
    fun member => (aside _ member).1 trivial
  have still : ∀ happening ∈ opening, ¬ happening.act.Attaches := fun happening member => (aside happening member).1
  simp only [Found, List.mem_append, known, given, false_or, or_imp, forall_and]
  simp only [eq_true still, true_and]

namespace Entered

variable {owner : Element} {own : List Happening} {outcome : Except Error Scope}

private theorem frameEntry_of_undescribed {error : Error} (described : Described owner own (.error error)) :
    FrameEntry owner own (.error error) := by
  have untold (node : Node) : ¬ owner.Told own node := by
    intro told
    cases (described.told_iff [] node).mp (own.append_nil.symm ▸ told)
  exact {
    opens := by simpa using described.opens []
    gives := by simp
    sameProcess := fun node _ told => absurd told (untold node)
    entersDocument := fun node _ _ told => absurd told (untold node)
    ownProcess := by simp
    entersSession := fun node _ _ told => absurd told (untold node)
    seeks := fun node _ told => absurd told (untold node)
    attaches := by
      rintro before session target flatten answer after rfl
      exact ((described.quiet _ (List.mem_append_right before List.mem_cons_self)).2.1 trivial).elim
    refuses := fun node told => absurd told (untold node) }

private theorem frameEntry_of_passage {opening : List Happening} {node : Node}
    (described : Described owner opening (.ok node)) (passage : Passage owner node own outcome) :
    FrameEntry owner (opening ++ own) outcome := by
  have quiet := described.quiet
  have aside : Aside opening := fun happening member => (quiet happening member).2
  have told_iff (other : Node) : owner.Told (opening ++ own) other ↔ node = other := by
    simpa using described.told_iff own other
  have told := (told_iff node).mpr rfl
  have still {happenings : List Happening} (still : ∀ happening ∈ happenings, ¬ happening.act.Attaches) :
      ∀ happening ∈ opening ++ happenings, ¬ happening.act.Attaches := by
    intro happening member
    rcases List.mem_append.mp member with early | late
    · exact (quiet happening early).2.1
    · exact still happening late
  constructor
  case opens => exact described.opens own
  case gives =>
    intro scope same
    obtain ⟨owns, handle, below⟩ := passage.gives same
    exact ⟨handle, node, below, told, owns⟩
  case sameProcess =>
    intro other document isTold inside
    obtain rfl := (told_iff other).mp isTold
    obtain ⟨there, silent⟩ := passage.sameProcess_of_document inside
    refine ⟨there, fun happening member => ?_⟩
    rcases List.mem_append.mp member with early | late
    · exact (quiet happening early).1
    · exact silent happening late
  case entersDocument =>
    intro other document backend isTold owns inside named
    obtain rfl := (told_iff other).mp isTold
    obtain ⟨answer, asked, enough⟩ := passage.entersDocument owns inside named
    exact ⟨answer, List.mem_append_right _ asked, enough⟩
  case ownProcess =>
    intro other scope isTold outside same
    obtain rfl := (told_iff other).mp isTold
    obtain ⟨frame, id, named, found, there⟩ := passage.ownProcess_of_no_document outside same
    exact ⟨frame, id, named, (found_after aside).mpr found, there⟩
  case entersSession =>
    intro other frame id isTold owns outside named found
    obtain rfl := (told_iff other).mp isTold
    obtain ⟨answer, asked, enough⟩ := passage.entersSession owns outside named ((found_after aside).mp found)
    exact ⟨answer, List.mem_append_right _ asked, enough⟩
  case seeks =>
    intro other frame isTold owns outside named
    obtain rfl := (told_iff other).mp isTold
    obtain ⟨known, asked, further⟩ := passage.seeks owns outside named
    refine ⟨known, List.mem_append_right _ asked, fun none => ?_⟩
    obtain ⟨answer, listed⟩ := further none
    exact ⟨answer, List.mem_append_right _ listed⟩
  case attaches =>
    intro before session target flatten answer after split
    rcases passage.quiet_or_split with unasked | ⟨frame, early, reply, late, outside, named, warranted, rest, rfl⟩
    · have silent := still unasked
      rw [split] at silent
      exact (silent _ (List.mem_append_right before List.mem_cons_self) trivial).elim
    · have warranted := warranted.after aside
      rw [← List.append_assoc] at split
      obtain ⟨rfl, same⟩ := before_eq_of_sole warranted.first rest split trivial
      cases same
      exact ⟨rfl, warranted, node, frame, told, outside, named, rfl⟩
  case refuses =>
    intro other isTold impassable
    obtain rfl := (told_iff other).mp isTold
    have within : Impassable own node := by
      rcases impassable with closed | ⟨frame, outside, named, answer, infos, asked, readable, unlisted⟩
      · exact .closed closed
      · rcases List.mem_append.mp asked with early | late
        · exact absurd (by simp [Act.ConcernsTargets, Command.method]) (quiet _ early).1
        · exact .unlisted frame outside named answer infos late readable unlisted
    obtain ⟨refused, unasked⟩ := passage.refuses within
    exact ⟨refused, still unasked⟩

theorem frameEntry (entered : Entered owner own outcome) : FrameEntry owner own outcome := by
  cases entered with
  | undescribed described => exact frameEntry_of_undescribed described
  | described described passage => exact frameEntry_of_passage described passage

end Entered

end RemoteDom
