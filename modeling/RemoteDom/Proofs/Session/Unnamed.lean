import RemoteDom.Proofs.Session.Cascade

/-! What one event takes from the table. The session that it names goes with all that were attached through it, and
nothing else. An event that names nothing is taken to give the empty name. The top-level session has that name, so that
such an event does nothing only to a table in which nobody was attached through the top-level session. -/

namespace RemoteDom

open Rehearsal.World (applyNotice)
open Cascade (Leaves)

namespace SessionTable

variable {table : SessionTable} {id : SessionId}

/-- No session has the name, and none was attached through it. -/
def Unrelated (table : SessionTable) (id : SessionId) : Prop :=
  ∀ session ∈ table.stored, session.id ≠ id ∧ session.parent ≠ some id

private theorem Unrelated.eq_of_doomed (unrelated : table.Unrelated id) {name : SessionId}
    (doomed : Doomed table.stored [id] name) : name = id := by
  induction doomed with
  | named given => exact List.mem_singleton.mp given
  | through member attached above ih =>
      subst ih
      exact absurd attached (unrelated _ member).2

private theorem forget_eq_self_iff (distinct : table.Distinct) : table.forget id = table ↔ table.Unrelated id := by
  rw [forget_eq_without distinct]
  constructor
  · intro same session member
    have stays : ¬Doomed table.stored [id] session.id := by
      rw [← same] at member
      exact (mem_without.mp member).2
    refine ⟨fun named => stays (.named (List.mem_singleton.mpr named)), fun attached => stays ?_⟩
    exact .through member attached (.named (List.mem_singleton_self id))
  · intro unrelated
    have stays (session : Session) (member : session ∈ table.stored) : ¬Doomed table.stored [id] session.id :=
      fun doomed => (unrelated session member).1 (unrelated.eq_of_doomed doomed)
    apply congrArg₂ SessionTable.mk
    · exact List.filter_eq_self.mpr fun session member => by simpa using stays session member
    · exact List.filter_eq_self.mpr fun entry _ => by
        simpa using fun session member doomed => absurd doomed (stays session member)

private theorem applyNotice_eq_self_iff (distinct : table.Distinct) (notice : Notice) :
    applyNotice table notice = table ↔ ∀ id ∈ notice.gone? table, table.Unrelated id := by
  rw [applyNotice_eq_without distinct]
  cases notice.gone? table with
  | none => simp [without_nil]
  | some id => simp [← forget_eq_without distinct, forget_eq_self_iff distinct]

private theorem leaves_applyNotice (distinct : table.Distinct) {notice : Notice} (gone : notice.gone? table = some id) :
    Leaves table id (applyNotice table notice) := by
  have same : applyNotice table notice = table.forget id := by
    rw [applyNotice_eq_without distinct, gone, forget_eq_without distinct]
    rfl
  rw [same]
  exact Cascade.leaves_forget distinct id

end SessionTable

namespace Event

/-- The text that an event has under a name. There is none if the parameters are no object, if they have no such member,
or if it is no text. -/
def text? (event : Event) (name : String) : Option String := (event.params.get? name).bind Json.asString?

private theorem gone?_detached {event : Event} (told : event.method = detachedMethod) (table : SessionTable) :
    event.notice.gone? table = some ⟨(event.text? "sessionId").getD ""⟩ := by
  have other : detachedMethod ≠ "Target.attachedToTarget" := by decide
  rw [notice, told, if_neg other, if_pos rfl]
  rfl

private theorem gone?_destroyed {event : Event} (told : event.method = destroyedMethod) (table : SessionTable) :
    event.notice.gone? table = table.targets.lookup ⟨(event.text? "targetId").getD ""⟩ := by
  have other : destroyedMethod ≠ "Target.attachedToTarget" := by decide
  have apart : destroyedMethod ≠ detachedMethod := by decide
  rw [notice, told, if_neg other, if_neg apart, if_pos rfl]
  rfl

private theorem gone?_other {event : Event} (attached : event.method ≠ detachedMethod)
    (kept : event.method ≠ destroyedMethod)
    (table : SessionTable) : event.notice.gone? table = none := by
  rw [notice, if_neg attached, if_neg kept]
  split <;> rfl

/-- What is left of a table when an event was heard. A detachment takes the session that it names, with all that were
attached through it, and the end of a target the session of that target. Where no name can be read, the top-level
session is meant, or the target without a name. -/
structure Effect (table : SessionTable) (event : Event) (left : SessionTable) : Prop where
  detached : event.method = detachedMethod → ∀ name, event.text? "sessionId" = some name → Leaves table ⟨name⟩ left
  destroyed : event.method = destroyedMethod → ∀ name, event.text? "targetId" = some name →
    ∀ id, table.targets.lookup ⟨name⟩ = some id → Leaves table id left
  unattached : event.method = destroyedMethod → ∀ name, event.text? "targetId" = some name →
    table.targets.lookup ⟨name⟩ = none → left = table
  nameless : event.method = detachedMethod → event.text? "sessionId" = none →
    Leaves table .topLevel left ∧ (left = table ↔ table.Unrelated .topLevel)
  targetless : event.method = destroyedMethod → event.text? "targetId" = none →
    (∀ id, table.targets.lookup ⟨""⟩ = some id → Leaves table id left) ∧
      (left = table ↔ ∀ id, table.targets.lookup ⟨""⟩ = some id → table.Unrelated id)
  other : event.method ≠ detachedMethod → event.method ≠ destroyedMethod → left = table

/-- An event that names a session or a target takes that session, with all that were attached through it, and nothing
else. One that names nothing does nothing exactly if nobody has the empty name or was attached through whoever has
it. -/
theorem effect_exact {table : SessionTable} (distinct : table.Distinct) (event : Event) :
    Effect table event (applyNotice table event.notice) := by
  have unchanged := SessionTable.applyNotice_eq_self_iff distinct event.notice
  have leaves (id : SessionId) (gone : event.notice.gone? table = some id) :
      Leaves table id (applyNotice table event.notice) := SessionTable.leaves_applyNotice distinct gone
  constructor
  case detached =>
    intro told name named
    apply leaves
    rw [gone?_detached told, named]
    rfl
  case destroyed =>
    intro told name named id attached
    apply leaves
    rw [gone?_destroyed told, named]
    exact attached
  case unattached =>
    intro told name named free
    rw [unchanged, gone?_destroyed told, named, Option.getD_some, free]
    exact nofun
  case nameless =>
    intro told missing
    have gone : event.notice.gone? table = some .topLevel := by
      rw [gone?_detached told, missing]
      rfl
    rw [unchanged, gone]
    exact ⟨leaves .topLevel gone, by simp⟩
  case targetless =>
    intro told missing
    have gone : event.notice.gone? table = table.targets.lookup ⟨""⟩ := by
      rw [gone?_destroyed told, missing]
      rfl
    rw [unchanged, gone]
    exact ⟨fun id attached => leaves id (gone.trans attached), Iff.rfl⟩
  case other =>
    intro attached kept
    rw [unchanged, gone?_other attached kept]
    exact nofun

def middleDetached : Event := ⟨detachedMethod, .object [("sessionId", .string "B")], .topLevel⟩

def listedDestroyed : Event := ⟨destroyedMethod, .object [("targetId", .array [.string "tab"])], .topLevel⟩

/-- Of three sessions one above the other the middle one takes the innermost with it and leaves the outermost. Where a
list has the place of the name, nothing goes. -/
theorem effect_exact_threeDeep :
    threeDeep.Distinct ∧
      Effect threeDeep middleDetached
        ⟨[⟨⟨"A"⟩, some ⟨"tab"⟩, some .topLevel⟩, ⟨⟨"D"⟩, some ⟨"worker"⟩, some .topLevel⟩],
          [(⟨"tab"⟩, ⟨"A"⟩), (⟨"worker"⟩, ⟨"D"⟩)]⟩ ∧
      Effect threeDeep listedDestroyed threeDeep := by
  have distinct : threeDeep.Distinct := consistent_threeDeep.distinct
  have named := effect_exact distinct middleDetached
  have nameless := effect_exact distinct listedDestroyed
  have left : applyNotice threeDeep middleDetached.notice =
      ⟨[⟨⟨"A"⟩, some ⟨"tab"⟩, some .topLevel⟩, ⟨⟨"D"⟩, some ⟨"worker"⟩, some .topLevel⟩],
        [(⟨"tab"⟩, ⟨"A"⟩), (⟨"worker"⟩, ⟨"D"⟩)]⟩ := by decide +kernel
  have same : applyNotice threeDeep listedDestroyed.notice = threeDeep := by decide +kernel
  rw [left] at named
  rw [same] at nameless
  exact ⟨distinct, named, nameless⟩

/-- A session that was attached through the top-level session is forgotten when one hears of a detachment that does not
say what was detached. -/
theorem nameless_detachment_forgets :
    text? ⟨detachedMethod, .object [], .topLevel⟩ "sessionId" = none ∧
      applyNotice (SessionTable.empty.insert ⟨⟨"S1"⟩, some ⟨"T1"⟩, some .topLevel⟩ ⟨"T1"⟩)
        (notice ⟨detachedMethod, .object [], .topLevel⟩) = .empty :=
  ⟨rfl, by decide +kernel⟩

end Event

end RemoteDom
