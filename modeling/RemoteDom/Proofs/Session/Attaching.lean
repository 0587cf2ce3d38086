import RemoteDom.Client.Sessions
import RemoteDom.Proofs.Program.Traces

/-! All that can happen while a client attaches to a target. The table of sessions is asked before the turn and
again in the turn, and only if it knows no session either time is the browser asked. -/

namespace RemoteDom

open ClientProgram (Leaves)

variable {target : TargetId} {parent : SessionId}

inductive AttachedInTurn (target : TargetId) (parent : SessionId) : List Happening → Except Error Session → Prop
  | held (session : Session) :
      AttachedInTurn target parent [⟨.sessionForTarget target, some session⟩] (.ok session)
  | refused (answer : Except Error Json) (error : Error)
      (unreadable : answer.toOption.bind SessionId.ofAttached? = none) :
      AttachedInTurn target parent
        [⟨.sessionForTarget target, none⟩, ⟨.request parent (.attachToTarget target true), answer⟩] (.error error)
  | obtained (answer : Json) (id : SessionId) (readable : SessionId.ofAttached? answer = some id) :
      AttachedInTurn target parent
        [⟨.sessionForTarget target, none⟩, ⟨.request parent (.attachToTarget target true), .ok answer⟩,
          ⟨.store ⟨id, some target, some parent⟩, ()⟩, ⟨.assign target id, ()⟩]
        (.ok ⟨id, some target, some parent⟩)

/-- What happens from the call on, and how it ends. -/
inductive Attached (target : TargetId) (parent : SessionId) : List Happening → Except Error Session → Prop
  | held (session : Session) : Attached target parent [⟨.sessionForTarget target, some session⟩] (.ok session)
  | inTurn {own : List Happening} {outcome : Except Error Session}
      (inside : AttachedInTurn target parent own outcome) :
      Attached target parent
        (⟨.sessionForTarget target, none⟩ :: ⟨.enterAttach, ()⟩ :: own ++ [⟨.leaveAttach, ()⟩]) outcome

private theorem leaves_attachInTurn (target : TargetId) (parent : SessionId) :
    Leaves (AttachedInTurn target parent) (Browsing.attachInTurn target parent).run := by
  intro known
  cases known with
  | some session => exact .held session
  | none =>
      refine leaves_bind (leaves_call parent (.attachToTarget target true) SessionId.ofAttached?) ?_ ?_
      · rintro own error (_ | ⟨answer, error, unreadable⟩)
        exact .refused answer error unreadable
      · rintro own id (⟨answer, id, readable⟩ | _) stored assigned
        exact .obtained answer id readable

theorem leaves_attach (target : TargetId) (parent : SessionId) :
    Leaves (Attached target parent) (Browsing.attach target parent).run := by
  intro known
  cases known with
  | some session => exact .held session
  | none =>
      intro entered
      exact leaves_lift (leaves_attachInTurn target parent) fun own outcome inside left => .inTurn inside

def Act.Attaches : Act → Prop
  | .request _ (.attachToTarget ..) => True
  | _ => False

/-- The browser is asked once at most, and not before the table was found without a session twice. -/
theorem Attached.quiet_or_split {own : List Happening} {outcome : Except Error Session}
    (attached : Attached target parent own outcome) :
    (∀ happening ∈ own, ¬ happening.act.Attaches) ∨
      ∃ answer after, (∀ happening ∈ after, ¬ happening.act.Attaches) ∧
        own = [⟨.sessionForTarget target, none⟩, ⟨.enterAttach, ()⟩, ⟨.sessionForTarget target, none⟩] ++
          ⟨.request parent (.attachToTarget target true), answer⟩ :: after := by
  rcases attached with session | @⟨own, outcome, session | ⟨answer, error, unreadable⟩ | ⟨answer, id, readable⟩⟩
  · exact .inl (by simp [Act.Attaches])
  · exact .inl (by simp [Act.Attaches])
  · exact .inr ⟨answer, [⟨.leaveAttach, ()⟩], by simp [Act.Attaches], rfl⟩
  · refine .inr ⟨.ok answer, [⟨.store ⟨id, some target, some parent⟩, ()⟩, ⟨.assign target id, ()⟩,
      ⟨.leaveAttach, ()⟩], by simp [Act.Attaches], rfl⟩

theorem Attached.requested {own : List Happening} {outcome : Except Error Session}
    (attached : Attached target parent own outcome) {session : SessionId} {command : Command}
    {answer : Except Error Json} (member : ⟨.request session command, answer⟩ ∈ own) :
    session = parent ∧ command = .attachToTarget target true := by
  rcases attached with known | @⟨own, outcome, known | ⟨answer, error, unreadable⟩ | ⟨answer, id, readable⟩⟩ <;>
    simp_all

/-- The session that the table knew for the target, or that the browser gave for it. -/
def Found (target : TargetId) (parent : SessionId) (own : List Happening) (id : SessionId) : Prop :=
  (∃ session, session.id = id ∧ ⟨.sessionForTarget target, some session⟩ ∈ own ∧
      ∀ happening ∈ own, ¬ happening.act.Attaches) ∨
    ∃ answer, ⟨.request parent (.attachToTarget target true), .ok answer⟩ ∈ own ∧
      SessionId.ofAttached? answer = some id

theorem Attached.found_iff {own : List Happening} {outcome : Except Error Session}
    (attached : Attached target parent own outcome) (id : SessionId) :
    Found target parent own id ↔ ∃ session, outcome = .ok session ∧ session.id = id := by
  rcases attached with session | @⟨own, outcome, session | ⟨answer, error, unreadable⟩ | ⟨answer, given, readable⟩⟩
  · simp [Found, Act.Attaches]
  · simp [Found, Act.Attaches]
  · cases answer <;> simp_all [Found, Act.Attaches, Except.toOption]
  · simp [Found, Act.Attaches, readable]

end RemoteDom
