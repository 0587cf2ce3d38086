import Mathlib.Data.List.Nodup
import Mathlib.Data.List.Perm.Subperm
import RemoteDom.Session.Table

/-! Laws of the table of sessions. What is stored and what is forgotten is the same under the names of sessions
and under the names of targets. -/

namespace RemoteDom

theorem lookup_filter {α β : Type} [BEq α] [LawfulBEq α] (keep : α → Bool) (entries : List (α × β)) (name : α) :
    (entries.filter fun entry => keep entry.1).lookup name = if keep name then entries.lookup name else none := by
  induction entries with
  | nil => cases keep name <;> rfl
  | cons entry rest ih =>
      obtain ⟨other, value⟩ := entry
      by_cases same : name = other
      · subst same
        cases kept : keep name with
        | true => simp [kept]
        | false => simpa [kept] using ih
      · have apart : (name == other) = false := by simpa using same
        cases kept : keep other <;> simp [kept, List.lookup_cons, apart, ih]

namespace SessionTable

variable {table : SessionTable} {session : Session} {target : TargetId} {id : SessionId}

/-- No two sessions are stored under one name. -/
def Distinct (table : SessionTable) : Prop := (table.stored.map Session.id).Nodup

theorem Distinct.eq_of_id (distinct : table.Distinct) {other : Session} (first : session ∈ table.stored)
    (second : other ∈ table.stored) (same : session.id = other.id) : session = other :=
  List.inj_on_of_nodup_map distinct first second same

theorem Distinct.stored?_eq_some_iff (distinct : table.Distinct) :
    table.stored? id = some session ↔ session ∈ table.stored ∧ session.id = id := by
  constructor
  · intro found
    exact ⟨List.mem_of_find?_eq_some found, by simpa using List.find?_some found⟩
  · rintro ⟨member, rfl⟩
    obtain ⟨other, found⟩ : ∃ other, table.stored? session.id = some other := by
      rw [← Option.isSome_iff_exists, stored?, List.find?_isSome]
      exact ⟨session, member, by simp⟩
    have same : other.id = session.id := by simpa using List.find?_some found
    rw [found, distinct.eq_of_id (List.mem_of_find?_eq_some found) member same]

theorem stored?_eq_none_iff : table.stored? id = none ↔ ∀ session ∈ table.stored, session.id ≠ id := by
  simp [stored?]

theorem distinct_empty : empty.Distinct := List.nodup_nil

@[simp]
theorem targets_store (table : SessionTable) (session : Session) : (table.store session).targets = table.targets := rfl

@[simp]
theorem stored_assign (table : SessionTable) (target : TargetId) (id : SessionId) :
    (table.assign target id).stored = table.stored := rfl

@[simp]
theorem stored?_assign (table : SessionTable) (target : TargetId) (id name : SessionId) :
    (table.assign target id).stored? name = table.stored? name := rfl

theorem distinct_store (distinct : table.Distinct) : (table.store session).Distinct := by
  refine List.nodup_cons.mpr ⟨by simp, ?_⟩
  exact distinct.sublist (List.filter_sublist.map _)

theorem lookup_assign (table : SessionTable) (target : TargetId) (id : SessionId) (other : TargetId) :
    (table.assign target id).targets.lookup other =
      if other = target then some id else table.targets.lookup other := by
  by_cases same : other = target
  · simp [assign, same]
  · have sifted := lookup_filter (fun name => name != target) table.targets other
    simp only [bne_iff_ne.mpr same, if_true] at sifted
    have apart : (other == target) = false := by simpa using same
    rw [if_neg same, assign, List.lookup_cons, apart]
    exact sifted

theorem stored?_store (table : SessionTable) (session : Session) (id : SessionId) :
    (table.store session).stored? id = if id = session.id then some session else table.stored? id := by
  by_cases same : id = session.id
  · simp [store, stored?, same]
  · have apart : (session.id == id) = false := by simpa using Ne.symm same
    rw [if_neg same, store, stored?, List.find?_cons, apart, stored?]
    simp only [List.find?_filter]
    congr 1
    funext other
    by_cases hit : other.id = id <;> simp [hit, same]

private theorem stored_store_of_new (new : ∀ other ∈ table.stored, other.id ≠ session.id) :
    (table.store session).stored = session :: table.stored :=
  congrArg (session :: ·) (List.filter_eq_self.mpr fun other member => by simpa using new other member)

theorem forTarget?_assign (table : SessionTable) (target : TargetId) (id : SessionId) (other : TargetId) :
    (table.assign target id).forTarget? other =
      if other = target then table.stored? id else table.forTarget? other := by
  rw [forTarget?, lookup_assign]
  split <;> rfl

private theorem survivors_sublist (line : List SessionId) (stored : List Session) :
    (survivors line stored).Sublist stored := by
  induction line, stored using survivors.induct with
  | case1 stored => simp [survivors]
  | case2 stored id line ih =>
      rw [survivors]
      exact ih.trans List.filter_sublist

theorem forget_sublist (table : SessionTable) (id : SessionId) :
    ((table.forget id).stored).Sublist table.stored :=
  (survivors_sublist _ _).trans List.filter_sublist

theorem distinct_forget (distinct : table.Distinct) (id : SessionId) : (table.forget id).Distinct :=
  distinct.sublist ((forget_sublist table id).map _)

/-- The names of the targets of forgotten sessions are forgotten with them. -/
theorem lookup_forget (table : SessionTable) (id : SessionId) (target : TargetId) :
    (table.forget id).targets.lookup target =
      if ∃ session ∈ table.stored, session ∉ (table.forget id).stored ∧ session.target = some target then none
      else table.targets.lookup target := by
  let gone := table.stored.filter fun session => !(table.forget id).stored.contains session
  have sifted := lookup_filter (fun name => !gone.any fun session => session.target == some name) table.targets target
  refine sifted.trans ?_
  have told : (gone.any fun session => session.target == some target) = true ↔
      ∃ session ∈ table.stored, session ∉ (table.forget id).stored ∧ session.target = some target := by
    simp [gone]
  by_cases some : ∃ session ∈ table.stored, session ∉ (table.forget id).stored ∧ session.target = some target
  · rw [if_pos some, told.mpr some]
    rfl
  · rw [if_neg some, Bool.eq_false_iff.mpr (mt told.mp some)]
    rfl

private theorem forTarget?_forget (none : table.forTarget? target = none) (id : SessionId) :
    (table.forget id).forTarget? target = Option.none := by
  simp only [forTarget?, lookup_forget, Option.bind_eq_none_iff] at none ⊢
  intro name found
  split at found
  · cases found
  · rw [stored?_eq_none_iff]
    intro session member
    exact stored?_eq_none_iff.mp (none name found) session ((forget_sublist table id).subset member)

private theorem Distinct.stored?_of_forget (distinct : table.Distinct) {name : SessionId}
    (found : (table.forget name).stored? id = some session) : table.stored? id = some session := by
  obtain ⟨member, same⟩ := (distinct_forget distinct name).stored?_eq_some_iff.mp found
  exact distinct.stored?_eq_some_iff.mpr ⟨(forget_sublist table name).subset member, same⟩

theorem lookup_of_forget {name : SessionId} (known : (table.forget name).targets.lookup target = some id) :
    table.targets.lookup target = some id := by
  rw [lookup_forget] at known
  split at known
  · cases known
  · exact known

section Lost

variable {later : SessionTable} (lost : later = table ∨ ∃ name, later = table.forget name)

include lost

theorem forTarget?_of_lost (none : table.forTarget? target = none) : later.forTarget? target = Option.none := by
  rcases lost with rfl | ⟨name, rfl⟩
  · exact none
  · exact forTarget?_forget none name

theorem stored_of_lost : later.stored ⊆ table.stored := by
  rcases lost with rfl | ⟨name, rfl⟩
  · exact List.Subset.refl _
  · exact (forget_sublist table name).subset

theorem lookup_of_lost (known : later.targets.lookup target = some id) : table.targets.lookup target = some id := by
  rcases lost with rfl | ⟨name, rfl⟩
  · exact known
  · exact lookup_of_forget known

theorem Distinct.stored?_of_lost (distinct : table.Distinct) (found : later.stored? id = some session) :
    table.stored? id = some session := by
  rcases lost with rfl | ⟨name, rfl⟩
  · exact found
  · exact distinct.stored?_of_forget found

end Lost

/-- The target has no session, or one of that name. -/
def NoOther (table : SessionTable) (target : TargetId) (id : SessionId) : Prop :=
  table.forTarget? target = none ∨ table.targets.lookup target = some id

theorem NoOther.store (none : table.forTarget? target = none) : (table.store session).NoOther target session.id := by
  cases found : table.targets.lookup target with
  | none => exact .inl (by simp [forTarget?, found])
  | some id =>
      by_cases same : id = session.id
      · exact .inr (found.trans (congrArg some same))
      · refine .inl ?_
        simpa [forTarget?, found, stored?_store, same] using none

theorem NoOther.of_lost (noOther : table.NoOther target id) {later : SessionTable}
    (lost : later = table ∨ ∃ name, later = table.forget name) : later.NoOther target id := by
  rcases lost with rfl | ⟨name, rfl⟩
  · exact noOther
  · rcases noOther with none | known
    · exact .inl (forTarget?_forget none name)
    · simp only [NoOther, forTarget?, lookup_forget, known]
      split
      · exact .inl rfl
      · exact .inr rfl

theorem forgetTarget_cases (table : SessionTable) (target : TargetId) :
    table.forgetTarget target = table ∨ ∃ id, table.forgetTarget target = table.forget id := by
  unfold forgetTarget
  split
  next id _ => exact .inr ⟨id, rfl⟩
  next => exact .inl rfl

theorem forget_eq_of_subset (distinct : table.Distinct)
    (stay : ∀ name ∈ table.stored.map Session.id, name ∈ (table.forget id).stored.map Session.id) :
    table.forget id = table := by
  have same : (table.forget id).stored = table.stored := by
    apply (forget_sublist table id).eq_of_length_le
    simpa using (List.subperm_of_subset distinct stay).length_le
  have names : (table.forget id).targets = table.targets := by
    have all : ∀ session ∈ table.stored, session ∈ (table.forget id).stored := fun _ member => same ▸ member
    simp only [forget] at all ⊢
    apply List.filter_eq_self.mpr
    intro entry _
    simpa using fun session member gone => absurd (all session member) gone
  cases table
  cases found : forget _ id
  simp_all

/-- A name that a target is assigned to is that of a session of the target, if it has one, and no other target is
assigned to it. -/
structure Sound (table : SessionTable) : Prop where
  aims : ∀ target id session, table.targets.lookup target = some id → table.stored? id = some session →
    session.target = some target
  apart : ∀ first second id, table.targets.lookup first = some id → table.targets.lookup second = some id →
    first = second

/-- The table does not mention the name. -/
structure Lacks (table : SessionTable) (id : SessionId) : Prop where
  stored : ∀ session ∈ table.stored, session.id ≠ id
  targets : ∀ target, table.targets.lookup target ≠ some id

theorem sound_empty : empty.Sound := ⟨by simp [empty], by simp [empty]⟩

theorem Sound.store (sound : table.Sound) (new : ∀ target, table.targets.lookup target ≠ some session.id) :
    (table.store session).Sound where
  aims := by
    intro target id other known found
    rw [stored?_store] at found
    split at found
    next same => exact absurd (same ▸ known) (new target)
    next => exact sound.aims target id other known found
  apart := sound.apart

theorem Sound.assign (sound : table.Sound) (new : ∀ other, table.targets.lookup other ≠ some id)
    (aims : ∀ session, table.stored? id = some session → session.target = some target) :
    (table.assign target id).Sound where
  aims := by
    intro other name session known found
    rw [lookup_assign] at known
    split at known
    next same =>
      cases known
      exact same ▸ aims session found
    next => exact sound.aims other name session known found
  apart := by
    intro first second name one two
    rw [lookup_assign] at one two
    split at one <;> split at two
    next same other => exact same.trans other.symm
    next =>
      cases one
      exact absurd two (new second)
    next =>
      cases two
      exact absurd one (new first)
    next => exact sound.apart first second name one two

theorem Sound.of_lost (sound : table.Sound) (distinct : table.Distinct) {later : SessionTable}
    (lost : later = table ∨ ∃ name, later = table.forget name) : later.Sound where
  aims := fun target id session known found =>
    sound.aims target id session (lookup_of_lost lost known) (distinct.stored?_of_lost lost found)
  apart := fun first second id one two =>
    sound.apart first second id (lookup_of_lost lost one) (lookup_of_lost lost two)

theorem Sound.forTarget?_aims (sound : table.Sound) (known : table.forTarget? target = some session) :
    session.target = some target := by
  obtain ⟨id, told, found⟩ := Option.bind_eq_some_iff.mp known
  exact sound.aims target id session told found

theorem Lacks.of_lost (lacks : table.Lacks id) {later : SessionTable}
    (lost : later = table ∨ ∃ name, later = table.forget name) : later.Lacks id where
  stored := fun session member => lacks.stored session (stored_of_lost lost member)
  targets := fun target known => lacks.targets target (lookup_of_lost lost known)

/-- Both maps tell of the same sessions: a target has a session exactly if one is stored that says so. -/
structure Consistent (table : SessionTable) : Prop where
  distinct : table.Distinct
  inverse : ∀ target id, table.targets.lookup target = some id ↔
    ∃ session ∈ table.stored, session.id = id ∧ session.target = some target

theorem consistent_empty : empty.Consistent := ⟨distinct_empty, by simp [empty]⟩

theorem Consistent.forTarget?_eq_some_iff (consistent : table.Consistent) :
    table.forTarget? target = some session ↔ session ∈ table.stored ∧ session.target = some target := by
  simp only [forTarget?, Option.bind_eq_some_iff, consistent.inverse, consistent.distinct.stored?_eq_some_iff]
  constructor
  · rintro ⟨id, ⟨other, first, rfl, aims⟩, member, same⟩
    rw [consistent.distinct.eq_of_id member first same]
    exact ⟨first, aims⟩
  · rintro ⟨member, aims⟩
    exact ⟨session.id, ⟨session, member, rfl, aims⟩, member, rfl⟩

def insert (table : SessionTable) (session : Session) (target : TargetId) : SessionTable :=
  (table.store session).assign target session.id

theorem Consistent.insert (consistent : table.Consistent) (aims : session.target = some target)
    (new : ∀ other ∈ table.stored, other.id ≠ session.id) (free : table.forTarget? target = none) :
    (table.insert session target).Consistent where
  distinct := distinct_store consistent.distinct
  inverse := by
    intro name id
    simp only [SessionTable.insert, lookup_assign, targets_store, stored_assign, stored_store_of_new new, List.mem_cons]
    split
    next same =>
      subst same
      have lone : ∀ other ∈ table.stored, other.target ≠ some name := fun other member aimed =>
        Option.some_ne_none other (consistent.forTarget?_eq_some_iff.mpr ⟨member, aimed⟩ ▸ free)
      constructor
      · intro told
        exact ⟨session, .inl rfl, Option.some.inj told, aims⟩
      · rintro ⟨other, rfl | member, rfl, aimed⟩
        · rfl
        · exact absurd aimed (lone other member)
    next apart =>
      rw [consistent.inverse]
      constructor
      · rintro ⟨other, member, told⟩
        exact ⟨other, .inr member, told⟩
      · rintro ⟨other, rfl | member, told, aimed⟩
        · exact absurd (Option.some.inj (aimed.symm.trans aims)) apart
        · exact ⟨other, member, told, aimed⟩

theorem Consistent.forget (consistent : table.Consistent) (id : SessionId) : (table.forget id).Consistent where
  distinct := distinct_forget consistent.distinct id
  inverse := by
    intro name other
    have stays := (forget_sublist table id).subset
    rw [lookup_forget]
    split
    next gone =>
      obtain ⟨session, member, lost, aims⟩ := gone
      simp only [reduceCtorEq, false_iff]
      rintro ⟨remaining, stayed, -, aimed⟩
      -- both sessions would be the one of that target
      have one := consistent.forTarget?_eq_some_iff.mpr ⟨member, aims⟩
      rw [consistent.forTarget?_eq_some_iff.mpr ⟨stays stayed, aimed⟩] at one
      exact lost (Option.some.inj one ▸ stayed)
    next kept =>
      rw [consistent.inverse]
      constructor
      · rintro ⟨session, member, told, aims⟩
        by_contra lost
        exact kept ⟨session, member, fun stayed => lost ⟨session, stayed, told, aims⟩, aims⟩
      · rintro ⟨session, member, told⟩
        exact ⟨session, stays member, told⟩

end SessionTable

end RemoteDom
