import Mathlib.Logic.Relation
import RemoteDom.Proofs.Session.Forgetting

/-! Forgetting one name after the other. The names that are to go stand in line, and the sessions attached through
one that goes come into line, in any order. No name is looked at twice, whatever the parents of the sessions are, and
what is left at the end is the table without all sessions from which a chain of parents leads to the first name. -/

namespace RemoteDom

def AttachedTo (stored : List Session) (name parent : SessionId) : Prop :=
  ∃ session ∈ stored, session.id = name ∧ session.parent = some parent

/-- What goes with a name are the sessions from which a chain of parents leads to it. -/
private theorem doomed_iff_reflTransGen {stored : List Session} {name root : SessionId} :
    Doomed stored [root] name ↔ Relation.ReflTransGen (AttachedTo stored) name root := by
  constructor
  · intro doomed
    induction doomed with
    | named given => rw [List.mem_singleton.mp given]
    | through member attached above ih => exact .head ⟨_, member, rfl, attached⟩ ih
  · intro chain
    induction chain using Relation.ReflTransGen.head_induction_on with
    | refl => exact .named (List.mem_singleton.mpr rfl)
    | head link chain ih =>
        obtain ⟨session, member, rfl, attached⟩ := link
        exact .through member attached ih

namespace SessionTable

variable {table : SessionTable} {names : List SessionId} {id : SessionId}

def remove (table : SessionTable) (id : SessionId) : SessionTable where
  stored := table.stored.filter fun session => session.id != id
  targets :=
    match (table.stored? id).bind Session.target with
    | some target => table.targets.filter fun entry => entry.1 != target
    | none => table.targets

def less (table : SessionTable) (names : List SessionId) : SessionTable where
  stored := table.stored.filter fun session => session.id ∉ names
  targets := table.targets.filter fun entry =>
    ∀ session ∈ table.stored, session.id ∈ names → session.target ≠ some entry.1

private theorem mem_less {session : Session} :
    session ∈ (table.less names).stored ↔ session ∈ table.stored ∧ session.id ∉ names := by
  simp [less]

private theorem less_nil : table.less [] = table := by
  simp [less]

theorem Distinct.less (distinct : table.Distinct) (names : List SessionId) : (table.less names).Distinct :=
  distinct.sublist (List.filter_sublist.map _)

private theorem remove_less (distinct : table.Distinct) (fresh : id ∉ names) :
    (table.less names).remove id = table.less (id :: names) := by
  refine congrArg₂ SessionTable.mk ?_ ?_
  · refine (List.filter_filter ..).trans (List.filter_congr fun session _ => Bool.eq_iff_iff.mpr ?_)
    simp
  · have only {session : Session} (member : session ∈ table.stored) (same : session.id = id) :
        (table.less names).stored? id = some session :=
      (distinct.less names).stored?_eq_some_iff.mpr ⟨mem_less.mpr ⟨member, same ▸ fresh⟩, same⟩
    cases aimed : ((table.less names).stored? id).bind Session.target with
    | none =>
        refine List.filter_congr fun entry _ => Bool.eq_iff_iff.mpr ?_
        simp only [decide_eq_true_eq, List.mem_cons]
        refine ⟨fun kept session member gone => ?_, fun kept session member gone => kept session member (.inr gone)⟩
        rcases gone with same | gone
        · rw [only member same] at aimed
          exact fun aims => nomatch aimed.symm.trans aims
        · exact kept session member gone
    | some target =>
        obtain ⟨session, found, aims⟩ := Option.bind_eq_some_iff.mp aimed
        obtain ⟨member, same⟩ := (distinct.less names).stored?_eq_some_iff.mp found
        refine (List.filter_filter ..).trans (List.filter_congr fun entry _ => Bool.eq_iff_iff.mpr ?_)
        simp only [Bool.and_eq_true, bne_iff_ne, decide_eq_true_eq, List.mem_cons]
        constructor
        · rintro ⟨apart, kept⟩ other inside (named | gone)
          · rw [only inside named] at found
            rw [Option.some.inj found, aims]
            exact fun same => apart (Option.some.inj same).symm
          · exact kept other inside gone
        · intro kept
          refine ⟨fun hit => ?_, fun other inside gone => kept other inside (.inr gone)⟩
          exact kept session (mem_less.mp member).1 (.inl same) (hit ▸ aims)

private theorem less_eq_without {root : SessionId}
    (all : ∀ session ∈ table.stored, session.id ∈ names ↔ Doomed table.stored [root] session.id) :
    table.less names = table.without [root] := by
  refine congrArg₂ SessionTable.mk (List.filter_congr fun session member => Bool.eq_iff_iff.mpr ?_)
    (List.filter_congr fun entry _ => Bool.eq_iff_iff.mpr ?_)
  · simp [all session member]
  · simp only [decide_eq_true_eq]
    exact forall₂_congr fun session member => imp_congr_left (all session member)

end SessionTable

open SessionTable

/-- The names that are still to be looked at, and the table so far. -/
structure Cascade where
  line : List SessionId
  table : SessionTable

namespace Cascade

/-- What comes of forgetting a name, with the names that were looked at, the latest first. A name that is looked at is
taken out of the table, and the sessions left in it that were attached through that name come into line. The
order in which these are found is not known. -/
inductive Reached (root : SessionId) (table : SessionTable) : List SessionId → Cascade → Prop
  | begun : Reached root table [] ⟨[root], table⟩
  | look {looked line fresh : List SessionId} {id : SessionId} {rest : SessionTable}
      (before : Reached root table looked ⟨id :: line, rest⟩)
      (found : fresh.Perm ((attachedThrough id (rest.remove id).stored).map Session.id)) :
      Reached root table (id :: looked) ⟨fresh ++ line, rest.remove id⟩

variable {root : SessionId} {table : SessionTable} {looked : List SessionId} {state : Cascade}

/-- Each name comes into line once: only behind the parent of its one session, which is looked at once. -/
structure Underway (root : SessionId) (table : SessionTable) (looked : List SessionId) (state : Cascade) : Prop where
  once : (looked ++ state.line).Nodup
  left : state.table = table.less looked
  first : looked = [] ∧ state.line = [root] ∨ root ∈ looked
  origin : ∀ name ∈ looked ++ state.line, name = root ∨ ∃ parent ∈ looked, AttachedTo table.stored name parent
  closed : ∀ session ∈ table.stored, ∀ parent ∈ looked, session.parent = some parent →
    session.id ∈ looked ++ state.line
  doomed : ∀ name ∈ looked ++ state.line, Doomed table.stored [root] name

private theorem underway_begun : Underway root table [] ⟨[root], table⟩ where
  once := List.nodup_singleton root
  left := less_nil.symm
  first := .inl ⟨rfl, rfl⟩
  origin := fun _ member => .inl (List.mem_singleton.mp member)
  closed := fun _ _ _ none => nomatch none
  doomed := fun _ member => .named member

private theorem mem_found {id : SessionId} {fresh : List SessionId}
    (found : fresh.Perm ((attachedThrough id (table.less (id :: looked)).stored).map Session.id)) {name : SessionId} :
    name ∈ fresh ↔ name ∉ id :: looked ∧ AttachedTo table.stored name id := by
  rw [found.mem_iff]
  simp only [attachedThrough, AttachedTo, List.mem_map, List.mem_filter, mem_less, beq_iff_eq]
  constructor
  · rintro ⟨session, ⟨⟨member, there⟩, attached⟩, rfl⟩
    exact ⟨there, session, member, rfl, attached⟩
  · rintro ⟨there, session, member, rfl, attached⟩
    exact ⟨session, ⟨⟨member, there⟩, attached⟩, rfl⟩

/-- A name that is found stands in line nowhere yet: it would stand there for another parent. -/
private theorem Underway.not_mem_line (distinct : table.Distinct) {id name : SessionId} {line : List SessionId}
    {rest : SessionTable} (underway : Underway root table looked ⟨id :: line, rest⟩) (there : name ∉ id :: looked)
    (attached : AttachedTo table.stored name id) : name ∉ line := by
  intro waiting
  obtain ⟨session, member, rfl, parent⟩ := attached
  have unseen : id ∉ looked := fun again => List.disjoint_of_nodup_append underway.once again List.mem_cons_self
  rcases underway.origin session.id (by simp [waiting]) with same | ⟨other, seen, first, inside, named, through⟩
  · rcases underway.first with ⟨-, begun⟩ | gone
    · rw [(List.cons.inj begun).2] at waiting
      cases waiting
    · exact there (List.mem_cons_of_mem id (same ▸ gone))
  · obtain rfl := distinct.eq_of_id inside member named
    exact unseen (Option.some.inj (through.symm.trans parent) ▸ seen)

theorem Underway.look (distinct : table.Distinct) {id : SessionId} {line fresh : List SessionId} {rest : SessionTable}
    (underway : Underway root table looked ⟨id :: line, rest⟩)
    (found : fresh.Perm ((attachedThrough id (rest.remove id).stored).map Session.id)) :
    Underway root table (id :: looked) ⟨fresh ++ line, rest.remove id⟩ := by
  have before : rest = table.less looked := underway.left
  have once : (looked ++ id :: line).Nodup := underway.once
  have apart : (id :: looked).Disjoint line ∧ (id :: looked).Nodup ∧ line.Nodup := by
    have moved := (List.perm_middle.nodup_iff.mp once : (id :: (looked ++ line)).Nodup)
    rw [← List.cons_append] at moved
    exact ⟨List.disjoint_of_nodup_append moved, moved.of_append_left, moved.of_append_right⟩
  have left : rest.remove id = table.less (id :: looked) := by
    rw [before, remove_less distinct (List.nodup_cons.mp apart.2.1).1]
  rw [left] at found ⊢
  have split {name : SessionId} : name ∈ (id :: looked) ++ (fresh ++ line) ↔
      name ∈ looked ++ id :: line ∨ name ∈ fresh := by
    simp only [List.mem_append, List.mem_cons]
    tauto
  constructor
  case left => rfl
  case once =>
    have lone : fresh.Nodup := found.nodup_iff.mpr ((distinct.less _).sublist (List.filter_sublist.map _))
    refine apart.2.1.append (lone.append apart.2.2 fun name fresh waiting => ?_) fun name seen later => ?_
    · obtain ⟨there, attached⟩ := (mem_found found).mp fresh
      exact underway.not_mem_line distinct there attached waiting
    · rcases List.mem_append.mp later with fresh | waiting
      · exact ((mem_found found).mp fresh).1 seen
      · exact apart.1 seen waiting
  case first =>
    rcases underway.first with ⟨-, begun⟩ | seen
    · exact .inr ((List.cons.inj begun).1 ▸ List.mem_cons_self)
    · exact .inr (List.mem_cons_of_mem id seen)
  case origin =>
    intro name member
    rcases split.mp member with old | fresh
    · exact (underway.origin name old).imp_right fun ⟨parent, seen, attached⟩ =>
        ⟨parent, List.mem_cons_of_mem id seen, attached⟩
    · exact .inr ⟨id, List.mem_cons_self, ((mem_found found).mp fresh).2⟩
  case closed =>
    intro session member parent seen attached
    rcases List.mem_cons.mp seen with rfl | seen
    · by_cases gone : session.id ∈ parent :: looked
      · exact List.mem_append_left _ gone
      · exact split.mpr (.inr ((mem_found found).mpr ⟨gone, session, member, rfl, attached⟩))
    · exact split.mpr (.inl (underway.closed session member parent seen attached))
  case doomed =>
    intro name member
    rcases split.mp member with old | fresh
    · exact underway.doomed name old
    · obtain ⟨session, stored, rfl, attached⟩ := ((mem_found found).mp fresh).2
      exact .through stored attached (underway.doomed id (by simp))

private theorem underway_reached (distinct : table.Distinct) (reached : Reached root table looked state) :
    Underway root table looked state := by
  induction reached with
  | begun => exact underway_begun
  | look before found ih => exact ih.look distinct found

theorem Underway.length_le (underway : Underway root table looked state) :
    looked.length + state.line.length ≤ table.size + 1 := by
  have inside : looked ++ state.line ⊆ root :: table.stored.map Session.id := by
    intro name member
    rcases underway.origin name member with rfl | ⟨parent, -, session, stored, rfl, -⟩
    · exact List.mem_cons_self
    · exact List.mem_cons_of_mem _ (List.mem_map_of_mem stored)
  have fewer := (List.subperm_of_subset underway.once inside).length_le
  simpa [size] using fewer

private theorem Underway.table_of_ended (distinct : table.Distinct) (underway : Underway root table looked state)
    (ended : state.line = []) : state.table = table.forget root := by
  have first : root ∈ looked := by
    rcases underway.first with ⟨-, begun⟩ | seen
    · simp [ended] at begun
    · exact seen
  have all (name : SessionId) (doomed : Doomed table.stored [root] name) : name ∈ looked := by
    induction doomed with
    | named given => exact List.mem_singleton.mp given ▸ first
    | through member attached above ih => simpa [ended] using underway.closed _ member _ ih attached
  rw [underway.left, forget_eq_without distinct]
  exact less_eq_without fun session member =>
    ⟨fun seen => underway.doomed session.id (List.mem_append_left _ seen), all session.id⟩

/-- However far it has gone, the line comes to its end. -/
private theorem exists_ended (distinct : table.Distinct) {looked line : List SessionId} {rest : SessionTable}
    (reached : Reached root table looked ⟨line, rest⟩) :
    ∃ further, Reached root table (further ++ looked) ⟨[], table.forget root⟩ := by
  have underway := underway_reached distinct reached
  match line with
  | [] =>
      have same : rest = table.forget root := underway.table_of_ended distinct rfl
      exact ⟨[], same ▸ reached⟩
  | id :: line =>
      have within : looked.length + (line.length + 1) ≤ table.size + 1 := underway.length_le
      obtain ⟨further, ended⟩ := exists_ended distinct (reached.look (.refl _))
      exact ⟨further ++ [id], by simpa using ended⟩
termination_by table.size + 1 - looked.length
decreasing_by
  simp_wf
  omega

/-- A table is left of another when a name was forgotten: no session has this name or a chain of parents that leads
to it, all others are there as they were, and of the targets those have gone that belonged to a session that went. -/
structure Leaves (table : SessionTable) (root : SessionId) (left : SessionTable) : Prop where
  stored : ∀ session, session ∈ left.stored ↔ session ∈ table.stored ∧ session.id ≠ root ∧
    ¬Relation.TransGen (AttachedTo table.stored) session.id root
  targets : ∀ target, left.targets.lookup target =
    if ∃ session ∈ table.stored, session ∉ left.stored ∧ session.target = some target then none
    else table.targets.lookup target
  entries : table.Consistent → ∀ target id, left.targets.lookup target = some id ↔
    table.targets.lookup target = some id ∧ ∃ session ∈ left.stored, session.id = id

theorem leaves_forget (distinct : table.Distinct) (root : SessionId) : Leaves table root (table.forget root) where
  stored := by
    intro session
    rw [forget_eq_without distinct, mem_without, doomed_iff_reflTransGen, Relation.reflTransGen_iff_eq_or_transGen,
      not_or, ne_comm]
  targets := lookup_forget table root
  entries := by
    intro consistent target id
    have same (session : Session) (member : session ∈ (table.forget root).stored) : session ∈ table.stored :=
      (forget_sublist table root).subset member
    rw [(consistent.forget root).inverse, consistent.inverse]
    constructor
    · rintro ⟨session, member, named, aims⟩
      exact ⟨⟨session, same session member, named, aims⟩, session, member, named⟩
    · rintro ⟨⟨session, member, named, aims⟩, other, stays, alike⟩
      obtain rfl := distinct.eq_of_id member (same other stays) (named.trans alike.symm)
      exact ⟨session, stays, named, aims⟩

/-- To forget a name is to look at each name at most once and at no more than one more than there are sessions. However
it goes, it comes to an end, and what it leaves is the table without the sessions of that name and those from which
a chain of parents leads to it. -/
theorem forget_exact (distinct : table.Distinct) (root : SessionId) :
    Leaves table root (table.forget root) ∧ ∀ looked state, Reached root table looked state →
      looked.Nodup ∧ looked.length ≤ table.size + 1 ∧ (state.line = [] → state.table = table.forget root) ∧
        ∃ further, Reached root table (further ++ looked) ⟨[], table.forget root⟩ := by
  refine ⟨leaves_forget distinct root, fun looked state reached => ?_⟩
  have underway := underway_reached distinct reached
  exact ⟨underway.once.of_append_left, Nat.le_of_add_right_le underway.length_le,
    underway.table_of_ended distinct, exists_ended distinct reached⟩

/-- Two sessions attached through each other, one below them, one attached through itself, and one whose parent is not
stored. -/
def knotted : SessionTable where
  stored := [⟨⟨"A"⟩, some ⟨"tab"⟩, some ⟨"B"⟩⟩, ⟨⟨"B"⟩, some ⟨"frame"⟩, some ⟨"A"⟩⟩,
    ⟨⟨"C"⟩, some ⟨"popup"⟩, some ⟨"B"⟩⟩, ⟨⟨"D"⟩, some ⟨"worker"⟩, some ⟨"D"⟩⟩, ⟨⟨"E"⟩, some ⟨"page"⟩, some ⟨"F"⟩⟩]
  targets := [(⟨"tab"⟩, ⟨"A"⟩), (⟨"frame"⟩, ⟨"B"⟩), (⟨"popup"⟩, ⟨"C"⟩), (⟨"worker"⟩, ⟨"D"⟩), (⟨"page"⟩, ⟨"E"⟩)]

/-- With one of the two the other goes, and what is below; all other sessions stay. -/
theorem forget_exact_knotted : knotted.Distinct ∧ Leaves knotted ⟨"A"⟩ (knotted.forget ⟨"A"⟩) ∧
    (∃ looked, looked.Nodup ∧ looked.length ≤ 6 ∧ Reached ⟨"A"⟩ knotted looked ⟨[], knotted.forget ⟨"A"⟩⟩) ∧
    (knotted.forget ⟨"A"⟩).stored.map Session.id = [⟨"D"⟩, ⟨"E"⟩] ∧
    (knotted.forget ⟨"A"⟩).targets = [(⟨"worker"⟩, ⟨"D"⟩), (⟨"page"⟩, ⟨"E"⟩)] := by
  have distinct : knotted.Distinct := show (knotted.stored.map Session.id).Nodup by decide
  obtain ⟨leaves, all⟩ := forget_exact distinct ⟨"A"⟩
  obtain ⟨further, ended⟩ := (all [] _ .begun).2.2.2
  rw [List.append_nil] at ended
  obtain ⟨once, within, -⟩ := all further _ ended
  exact ⟨distinct, leaves, ⟨further, once, within, ended⟩, by decide +kernel, by decide +kernel⟩

end Cascade

end RemoteDom
