import RemoteDom.Proofs.Session.Order

/-! What goes when sessions go. A session takes with it all that were attached through it, however deep, and what
several events take together does not depend on which of them is heard first. -/

namespace RemoteDom

/-- The names that go with those given: these themselves, and those of the sessions attached through one that goes. -/
inductive Doomed (stored : List Session) (names : List SessionId) : SessionId → Prop where
  | named {id : SessionId} (given : id ∈ names) : Doomed stored names id
  | through {session : Session} {parent : SessionId} (member : session ∈ stored)
      (attached : session.parent = some parent) (above : Doomed stored names parent) : Doomed stored names session.id

namespace Doomed

variable {stored fewer : List Session} {names more : List SessionId} {id : SessionId}

private theorem not_nil : ¬Doomed stored [] id := by
  intro doomed
  induction doomed with
  | named given => cases given
  | through member attached above ih => exact ih

theorem mono (doomed : Doomed fewer names id) (inside : fewer ⊆ stored) : Doomed stored names id := by
  induction doomed with
  | named given => exact .named given
  | through member attached above ih => exact .through (inside member) attached ih

theorem trans (doomed : Doomed stored names id) (go : ∀ name ∈ names, Doomed stored more name) :
    Doomed stored more id := by
  induction doomed with
  | named given => exact go _ given
  | through member attached above ih => exact .through member attached ih

private theorem append_left (doomed : Doomed stored names id) : Doomed stored (names ++ more) id :=
  doomed.trans fun _ given => .named (List.mem_append_left more given)

private theorem append_right (doomed : Doomed stored more id) : Doomed stored (names ++ more) id :=
  doomed.trans fun _ given => .named (List.mem_append_right names given)

/-- With one name goes what goes with the names attached through it, once these are told apart from the others. -/
private theorem cons_iff {line : List SessionId} {parent : SessionId} :
    Doomed stored (id :: line) parent ↔ parent = id ∨
      Doomed (SessionTable.attachedElsewhere id stored)
        ((SessionTable.attachedThrough id stored).map Session.id ++ line) parent := by
  constructor
  · intro doomed
    induction doomed with
    | named given =>
        rcases List.mem_cons.mp given with same | given
        · exact .inl same
        · exact .inr (.named (List.mem_append_right _ given))
    | @through session above member attached _ ih =>
        right
        by_cases here : session.parent = some id
        · have child : session ∈ SessionTable.attachedThrough id stored :=
            List.mem_filter.mpr ⟨member, by simpa using here⟩
          exact .named (List.mem_append_left _ (List.mem_map_of_mem child))
        · rcases ih with rfl | elsewhere
          · exact absurd attached here
          · exact .through (List.mem_filter.mpr ⟨member, by simpa using here⟩) attached elsewhere
  · rintro (rfl | elsewhere)
    · exact .named List.mem_cons_self
    · refine (elsewhere.mono (List.filter_subset_self _)).trans fun name given => ?_
      rcases List.mem_append.mp given with child | given
      · obtain ⟨session, member, rfl⟩ := List.mem_map.mp child
        obtain ⟨member, attached⟩ := List.mem_filter.mp member
        exact .through member (by simpa using attached) (.named List.mem_cons_self)
      · exact .named (List.mem_cons_of_mem id given)

end Doomed

namespace SessionTable

variable {table : SessionTable} {names more : List SessionId}

open scoped Classical in
/-- The table without the sessions that go with the names, and without the names of their targets. -/
noncomputable def without (table : SessionTable) (names : List SessionId) : SessionTable where
  stored := table.stored.filter fun session => ¬Doomed table.stored names session.id
  targets := table.targets.filter fun entry =>
    ∀ session ∈ table.stored, Doomed table.stored names session.id → session.target ≠ some entry.1

theorem mem_without {session : Session} :
    session ∈ (table.without names).stored ↔ session ∈ table.stored ∧ ¬Doomed table.stored names session.id := by
  simp [without]

theorem without_nil : table.without [] = table := by
  simp [without, Doomed.not_nil]

private theorem without_congr (same : ∀ id, Doomed table.stored names id ↔ Doomed table.stored more id) :
    table.without names = table.without more := by
  have both : Doomed table.stored names = Doomed table.stored more := funext fun id => propext (same id)
  unfold without
  rw [both]

private theorem doomed_append {id : SessionId} : Doomed table.stored (names ++ more) id ↔
    Doomed table.stored names id ∨ Doomed (table.without names).stored more id := by
  constructor
  · intro doomed
    induction doomed with
    | named given => exact (List.mem_append.mp given).imp .named .named
    | @through session parent member attached _ ih =>
        by_cases first : Doomed table.stored names session.id
        · exact .inl first
        · rcases ih with above | above
          · exact absurd (.through member attached above) first
          · exact .inr (.through (mem_without.mpr ⟨member, first⟩) attached above)
  · rintro (first | second)
    · exact first.append_left
    · exact (second.mono fun _ member => (mem_without.mp member).1).append_right

open scoped Classical in
private theorem without_without : (table.without names).without more = table.without (names ++ more) := by
  apply congrArg₂ SessionTable.mk
  · refine (List.filter_filter ..).trans (List.filter_congr fun session _ => ?_)
    rw [← Bool.decide_and, decide_eq_decide, doomed_append, not_or, and_comm]
  · refine (List.filter_filter ..).trans (List.filter_congr fun entry _ => ?_)
    rw [← Bool.decide_and, decide_eq_decide]
    constructor
    · rintro ⟨second, first⟩ session member doomed
      by_cases gone : Doomed table.stored names session.id
      · exact first session member gone
      · exact second session (mem_without.mpr ⟨member, gone⟩) ((doomed_append.mp doomed).resolve_left gone)
    · intro both
      exact ⟨fun session member doomed => both session (mem_without.mp member).1 (doomed_append.mpr (.inr doomed)),
        fun session member doomed => both session member doomed.append_left⟩

open scoped Classical in
/-- Those stay whose way up meets none of the names in line. -/
private theorem survivors_eq_filter (line : List SessionId) (stored : List Session) :
    survivors line stored =
      stored.filter fun session => ∀ parent ∈ session.parent, ¬Doomed stored line parent := by
  induction line, stored using survivors.induct with
  | case1 stored => simp [survivors, Doomed.not_nil]
  | case2 id line stored ih =>
      rw [survivors, ih]
      refine (List.filter_filter ..).trans (List.filter_congr fun session _ => Bool.eq_iff_iff.mpr ?_)
      simp only [Bool.and_eq_true, decide_eq_true_eq, Bool.not_eq_true', beq_eq_false_iff_ne, Doomed.cons_iff, not_or,
        Option.mem_def]
      constructor
      · rintro ⟨free, apart⟩ parent attached
        exact ⟨fun same => apart (same ▸ attached), free parent attached⟩
      · intro free
        exact ⟨fun parent attached => (free parent attached).2, fun attached => (free id attached).1 rfl⟩

private theorem Distinct.doomed_iff (distinct : table.Distinct) {session : Session} (member : session ∈ table.stored) :
    Doomed table.stored names session.id ↔
      session.id ∈ names ∨ ∃ parent, session.parent = some parent ∧ Doomed table.stored names parent := by
  constructor
  · generalize same : session.id = id
    rintro (given | ⟨other, attached, above⟩)
    · exact .inl given
    · rw [distinct.eq_of_id member other same]
      exact .inr ⟨_, attached, above⟩
  · rintro (given | ⟨parent, attached, above⟩)
    · exact .named given
    · exact .through member attached above

/-- To forget a session is to go without all that its name dooms. -/
theorem forget_eq_without (distinct : table.Distinct) (id : SessionId) : table.forget id = table.without [id] := by
  -- whether the session of that name is left out before or as one of the doomed makes no difference to the others
  have others (name : SessionId) :
      Doomed (table.stored.filter fun session => session.id != id) [id] name ↔ Doomed table.stored [id] name := by
    refine ⟨fun doomed => doomed.mono (List.filter_subset_self _), fun doomed => ?_⟩
    induction doomed with
    | named given => exact .named given
    | @through session parent member attached _ ih =>
        by_cases same : session.id = id
        · exact .named (by simpa using same)
        · exact .through (List.mem_filter.mpr ⟨member, by simpa using same⟩) attached ih
  have stored : (table.forget id).stored = (table.without [id]).stored := by
    simp only [forget, survivors_eq_filter, without, List.filter_filter, others]
    refine List.filter_congr fun session member => Bool.eq_iff_iff.mpr ?_
    simp only [Bool.and_eq_true, decide_eq_true_eq, bne_iff_ne, distinct.doomed_iff member, List.mem_singleton,
      Option.mem_def]
    grind
  refine congrArg₂ SessionTable.mk stored (List.filter_congr fun entry _ => Bool.eq_iff_iff.mpr ?_)
  change (!(table.stored.filter fun session => !(table.forget id).stored.contains session).any _) = true ↔ _
  rw [stored]
  simp +contextual [mem_without]

private theorem lookup_without {target : TargetId} {id : SessionId} :
    (table.without names).targets.lookup target = some id ↔ table.targets.lookup target = some id ∧
      ∀ session ∈ table.stored, Doomed table.stored names session.id → session.target ≠ some target := by
  classical
  have sifted := lookup_filter (fun name => decide (∀ session ∈ table.stored,
    Doomed table.stored names session.id → session.target ≠ some name)) table.targets target
  rw [without, sifted]
  simp [and_comm]

end SessionTable

open SessionTable Rehearsal.World

variable {table : SessionTable}

/-- The session that a notice says is gone: one of that name, or the one that the target has in the table. -/
def Notice.gone? (table : SessionTable) : Notice → Option SessionId
  | .detached session _ => some session
  | .destroyed target => table.targets.lookup target
  | .attached .. | .other => none

theorem applyNotice_eq_without (distinct : table.Distinct) (notice : Notice) :
    applyNotice table notice = table.without (notice.gone? table).toList := by
  cases notice with
  | detached session target => exact forget_eq_without distinct session
  | destroyed target =>
      simp only [applyNotice, forgetTarget, Notice.gone?]
      cases table.targets.lookup target with
      | none => exact without_nil.symm
      | some id => exact forget_eq_without distinct id
  | attached | other => exact without_nil.symm

def goneAmong (table : SessionTable) (events : List Event) : List SessionId :=
  events.flatMap fun event => (event.notice.gone? table).toList

private theorem mem_goneAmong {events : List Event} {id : SessionId} :
    id ∈ goneAmong table events ↔ ∃ event ∈ events, event.notice.gone? table = some id := by
  simp [goneAmong]

/-- A notice names the same session in a table of fewer, unless that session has gone with them. -/
private theorem gone?_without (consistent : table.Consistent) {names : List SessionId} {notice : Notice}
    {id : SessionId}
    (told : notice.gone? table = some id) :
    notice.gone? (table.without names) = some id ∨ Doomed table.stored names id := by
  cases notice with
  | detached session target => exact .inl told
  | destroyed target =>
      by_cases lost : Doomed table.stored names id
      · exact .inr lost
      · refine .inl (lookup_without.mpr ⟨told, fun session member doomed aims => lost ?_⟩)
        -- the target has one session, so it would be the one that is lost
        obtain ⟨other, stored, rfl, aimed⟩ := (consistent.inverse target id).mp told
        have one := consistent.forTarget?_eq_some_iff.mpr ⟨member, aims⟩
        rw [consistent.forTarget?_eq_some_iff.mpr ⟨stored, aimed⟩] at one
        exact Option.some.inj one ▸ doomed
  | attached | other => cases told

private theorem gone?_of_without {names : List SessionId} {notice : Notice} {id : SessionId}
    (told : notice.gone? (table.without names) = some id) : notice.gone? table = some id := by
  cases notice with
  | detached session target => exact told
  | destroyed target => exact (lookup_without.mp told).1
  | attached | other => cases told

private theorem doomed_goneAmong_without (consistent : table.Consistent) (names : List SessionId) (events : List Event)
    (id : SessionId) :
    Doomed table.stored (names ++ goneAmong (table.without names) events) id ↔
      Doomed table.stored (names ++ goneAmong table events) id := by
  constructor
  · intro doomed
    refine doomed.trans fun name given => .named (List.mem_append.mpr ((List.mem_append.mp given).imp_right ?_))
    intro among
    obtain ⟨event, heard, told⟩ := mem_goneAmong.mp among
    exact mem_goneAmong.mpr ⟨event, heard, gone?_of_without told⟩
  · intro doomed
    refine doomed.trans fun name given => ?_
    rcases List.mem_append.mp given with before | among
    · exact .named (List.mem_append_left _ before)
    · obtain ⟨event, heard, told⟩ := mem_goneAmong.mp among
      obtain same | lost : event.notice.gone? (table.without names) = some name ∨ Doomed table.stored names name :=
        gone?_without consistent told
      · exact .named (List.mem_append_right _ (mem_goneAmong.mpr ⟨event, heard, same⟩))
      · exact lost.append_left

def SessionTable.hearing (table : SessionTable) (events : List Event) : SessionTable :=
  events.foldl (fun table event => applyNotice table event.notice) table

private theorem consistent_applyNotice (consistent : table.Consistent) (notice : Notice) :
    (applyNotice table notice).Consistent := by
  rcases applyNotice_cases table notice with same | ⟨id, same⟩
  · rwa [same]
  · rw [same]
    exact consistent.forget id

private theorem hearing_eq_without (consistent : table.Consistent) (events : List Event) :
    table.hearing events = table.without (goneAmong table events) := by
  induction events generalizing table with
  | nil => exact without_nil.symm
  | cons event rest ih =>
      have first := applyNotice_eq_without consistent.distinct event.notice
      have remains := first ▸ consistent_applyNotice consistent event.notice
      calc table.hearing (event :: rest)
          = (table.without (event.notice.gone? table).toList).hearing rest := by rw [← first]; rfl
        _ = table.without ((event.notice.gone? table).toList ++
              goneAmong (table.without (event.notice.gone? table).toList) rest) := by rw [ih remains, without_without]
        _ = table.without (goneAmong table (event :: rest)) :=
            without_congr (doomed_goneAmong_without consistent _ rest)

/-- The order in which events are heard makes no difference: what is left is the table less the sessions that they
say are gone, as the table names these, and less all that were attached through them. -/
theorem lifecycle_in_any_order (consistent : table.Consistent) (events : List Event) :
    ∀ order, order.Perm events → table.hearing order = table.without (goneAmong table events) := by
  intro order same
  rw [hearing_eq_without consistent]
  refine without_congr fun id => ⟨fun doomed => ?_, fun doomed => ?_⟩
  · exact doomed.trans fun name given => .named ((same.flatMap_right _).mem_iff.mp given)
  · exact doomed.trans fun name given => .named ((same.flatMap_right _).mem_iff.mpr given)

/-- Three sessions attached one through the other, and one beside them. -/
def threeDeep : SessionTable :=
  (((SessionTable.empty.insert ⟨⟨"D"⟩, some ⟨"worker"⟩, some .topLevel⟩ ⟨"worker"⟩).insert
    ⟨⟨"A"⟩, some ⟨"tab"⟩, some .topLevel⟩ ⟨"tab"⟩).insert
    ⟨⟨"B"⟩, some ⟨"frame"⟩, some ⟨"A"⟩⟩ ⟨"frame"⟩).insert
    ⟨⟨"C"⟩, some ⟨"popup"⟩, some ⟨"B"⟩⟩ ⟨"popup"⟩

theorem consistent_threeDeep : threeDeep.Consistent :=
  (((consistent_empty.insert rfl (by decide) (by decide)).insert rfl (by decide) (by decide)).insert
    rfl (by decide) (by decide)).insert rfl (by decide) (by decide)

def brokenChain : List Event :=
  [⟨Event.detachedMethod, .object [("sessionId", .string "B")], .topLevel⟩,
    ⟨Event.destroyedMethod, .object [("targetId", .string "popup")], .topLevel⟩,
    ⟨Event.destroyedMethod, .object [("targetId", .string "tab")], .topLevel⟩]

theorem lifecycle_in_any_order_threeDeep : threeDeep.Consistent ∧ brokenChain.reverse.Perm brokenChain ∧
    threeDeep.hearing brokenChain.reverse = threeDeep.without (goneAmong threeDeep brokenChain) ∧
    goneAmong threeDeep brokenChain = [⟨"B"⟩, ⟨"C"⟩, ⟨"A"⟩] ∧
    threeDeep.hearing brokenChain.reverse = ⟨[⟨⟨"D"⟩, some ⟨"worker"⟩, some .topLevel⟩], [(⟨"worker"⟩, ⟨"D"⟩)]⟩ := by
  refine ⟨consistent_threeDeep, List.reverse_perm _,
    lifecycle_in_any_order consistent_threeDeep brokenChain _ (List.reverse_perm _), by decide, by decide +kernel⟩

end RemoteDom
