import Mathlib.Data.List.Induction
import RemoteDom.Proofs.Session.Sources

/-! How the two maps of the table correspond. A caller stores its session first and assigns the target to it after
that, and others may forget the session in between: then the target is left with the name of no session. But for such
targets, and for those of callers who stand between the two acts, the maps are inverse to each other. -/

namespace RemoteDom.Sessions

variable {sessions : Sessions} {granted : List SessionId} {moves more earlier later : List SessionMove}
  {target : TargetId} {id : SessionId}

/-- What can be said of the table of a client and of all who attach: a session is stored under its own name, no name has
two sessions, a target has a name exactly if the session of that name has the target, the session of a target has the
target, and so has the one that an attach to it gives, two targets have two sessions, and no target has a name whose
session is forgotten. -/
structure Mutual (sessions : Sessions) : Prop where
  own : ∀ id session, sessions.table.stored? id = some session → session.id = id
  distinct : (sessions.table.stored.map Session.id).Nodup
  inverse : ∀ target id, sessions.table.targets.lookup target = some id ↔
    ∃ session, sessions.table.stored? id = some session ∧ session.target = some target
  aims : ∀ target session, sessions.table.forTarget? target = some session → session.target = some target
  attached : ∀ place caller target parent result, sessions.live? place = some caller →
    caller.errand = .attach target parent → caller.rest = .done (.ok result) →
    ∃ session, result = some session ∧ session.target = some target
  apart : ∀ first second id, sessions.table.targets.lookup first = some id →
    sessions.table.targets.lookup second = some id → first = second
  remembered : ∀ target id, sessions.table.targets.lookup target = some id → (sessions.table.stored? id).isSome

/-- In the run a caller stored the session of that name and assigned the target to it, and in between the session was
forgotten. -/
def Torn (moves : List SessionMove) (target : TargetId) (id : SessionId) : Prop :=
  ∃ first place middle later session, moves = first ++ .proceed place :: middle ++ .proceed place :: later ∧
    (run first).stores? (.proceed place) = some session ∧ session.target = some target ∧ session.id = id ∧
    (run (first ++ .proceed place :: middle)).assigns? (.proceed place) = some (target, id) ∧
    (run (first ++ .proceed place :: middle)).table.stored? id = none

theorem Torn.append (torn : Torn moves target id) (more : List SessionMove) : Torn (moves ++ more) target id := by
  obtain ⟨first, place, middle, later, session, rfl, rest⟩ := torn
  exact ⟨first, place, middle, later ++ more, session, by simp, rest⟩

/-- Whoever is about to assign a target to a session has stored it. -/
private theorem stored_before {place : Nat} {caller : Caller} (live : (run moves).live? place = some caller)
    (assigning : caller.rest.assigning? = some (target, id)) :
    ∃ first middle session, moves = first ++ .proceed place :: middle ∧
      (run first).stores? (.proceed place) = some session ∧ session.target = some target ∧ session.id = id := by
  induction moves using List.reverseRecOn generalizing caller with
  | nil => cases live
  | append_singleton moves move ih =>
      rw [run_append] at live
      rcases (orderly_run moves).origin_of_assigning live assigning with stays | ⟨rfl, session, stores, aims, same⟩
      · obtain ⟨first, middle, session, rfl, rest⟩ := ih stays assigning
        exact ⟨first, middle ++ [move], session, by simp, rest⟩
      · exact ⟨moves, [], session, rfl, stores, aims, same⟩

theorem Faithful.unowed (faithful : Faithful granted sessions)
    (known : sessions.table.targets.lookup target = some id) : id ∉ sessions.owed := by
  intro owed
  obtain ⟨place, caller, session, live, storing, rfl⟩ := mem_owed.mp owed
  exact (faithful.storing place caller session live storing).2.targets target known

private theorem Faithful.not_between (faithful : Faithful granted sessions)
    (known : sessions.table.targets.lookup target = some id) (other : TargetId) : ¬sessions.Between other id := by
  rintro ⟨place, caller, live, assigning⟩
  exact (faithful.assigning place caller other id live assigning).2.1 target known

/-- Once the session of a target is missing, it is missing for good. -/
theorem Faithful.bygone (faithful : Faithful granted sessions)
    (known : sessions.table.targets.lookup target = some id) (missing : sessions.table.stored? id = none) :
    sessions.Bygone id :=
  ⟨SessionTable.stored?_eq_none_iff.mp missing, faithful.unowed known⟩

private theorem bygone_append (fresh : Fresh opening (earlier ++ later))
    (known : (run earlier).table.targets.lookup target = some id) (missing : (run earlier).table.stored? id = none) :
    (run (earlier ++ later)).Bygone id := by
  have faithful := faithful_run fresh.of_append
  exact (faithful.bygone known missing).run_append fresh (faithful.named target id known)

theorem Faithful.attached (faithful : Faithful granted sessions) (place : Nat) (caller : Caller) (target : TargetId)
    (parent : SessionId) (result : Option Session) (live : sessions.live? place = some caller)
    (errand : caller.errand = .attach target parent) (done : caller.rest = .done (.ok result)) :
    ∃ session, result = some session ∧ session.target = some target :=
  faithful.settled place caller target parent result live errand (by rw [done]; rfl)

private theorem table_of_assigns {move : SessionMove} (assigns : sessions.assigns? move = some (target, id)) :
    (sessions.step move).table = sessions.table.assign target id := by
  obtain ⟨place, ⟨errand, rest, waits, gone⟩, rfl, live, assigning⟩ := assigns?_eq_some_iff.mp assigns
  obtain ⟨next, rfl⟩ : ∃ next, rest = .act (.assign target id) next := by
    unfold ClientProgram.assigning? at assigning
    split at assigning
    next _ _ next same =>
      cases assigning
      exact ⟨next, same⟩
    next => cases assigning
  simp only [step, live, attempt, put]

/-- A session that was forgotten before its target was assigned never comes back. -/
theorem Torn.bygone (torn : Torn moves target id) (fresh : Fresh opening moves) : (run moves).Bygone id := by
  obtain ⟨first, place, middle, later, session, rfl, -, -, -, assigns, missing⟩ := torn
  have table : (run (first ++ .proceed place :: middle ++ [.proceed place])).table =
      (run (first ++ .proceed place :: middle)).table.assign target id := by
    rw [run_append]
    exact table_of_assigns assigns
  have known : (run (first ++ .proceed place :: middle ++ [.proceed place])).table.targets.lookup target = some id := by
    rw [table, SessionTable.lookup_assign, if_pos rfl]
  rw [List.append_cons _ _ later] at fresh ⊢
  exact bygone_append fresh known (by rw [table]; exact missing)

theorem Torn.missing (torn : Torn moves target id) (fresh : Fresh opening moves) :
    (run moves).table.stored? id = none :=
  SessionTable.stored?_eq_none_iff.mpr (torn.bygone fresh).absent

/-- A target has a name without a session because the session was forgotten before the target was assigned to it. -/
private theorem torn_of_missing (fresh : Fresh opening moves)
    (known : (run moves).table.targets.lookup target = some id)
    (missing : (run moves).table.stored? id = none) : Torn moves target id := by
  induction moves using List.reverseRecOn with
  | nil => cases known
  | append_singleton moves move ih =>
      have orderly := orderly_run moves
      have faithful := faithful_run fresh.of_append
      rw [run_append] at known missing
      change ((run moves).step move).table.targets.lookup target = some id at known
      change ((run moves).step move).table.stored? id = none at missing
      have before (known : (run moves).table.targets.lookup target = some id)
          (missing : (run moves).table.stored? id = none) : Torn (moves ++ [move]) target id :=
        (ih fresh.of_append known missing).append [move]
      rcases orderly.table_cases move with
        (same | ⟨name, same⟩) | ⟨session, -, same⟩ | ⟨other, name, assigns, same⟩ <;> rw [same] at known missing
      · exact before known missing
      · have told := SessionTable.lookup_of_forget known
        cases found : (run moves).table.stored? id with
        | none => exact before told found
        | some session =>
            -- it is forgotten now, and its target with it
            obtain ⟨member, same⟩ := orderly.distinct.stored?_eq_some_iff.mp found
            have gone : session ∉ ((run moves).table.forget name).stored := fun stays =>
              SessionTable.stored?_eq_none_iff.mp missing session stays same
            have aims := faithful.sound.aims target id session told found
            rw [SessionTable.lookup_forget, if_pos ⟨session, member, gone, aims⟩] at known
            cases known
      · rw [SessionTable.stored?_store] at missing
        split at missing
        · cases missing
        · exact before known missing
      · rw [SessionTable.lookup_assign] at known
        split at known
        next aimed =>
          subst aimed
          cases known
          obtain ⟨place, caller, rfl, live, assigning⟩ := assigns?_eq_some_iff.mp assigns
          obtain ⟨first, middle, session, rfl, stores, aims, named⟩ := stored_before live assigning
          exact ⟨first, place, middle, [], session, rfl, stores, aims, named, assigns, missing⟩
        next => exact before known missing

private theorem stored?_unique (fresh : Fresh opening (earlier ++ later)) {session other : Session}
    (first : (run earlier).table.stored? id = some session)
    (second : (run (earlier ++ later)).table.stored? id = some other) : session = other := by
  obtain ⟨inside, rfl⟩ := (orderly_run earlier).distinct.stored?_eq_some_iff.mp first
  obtain ⟨within, same⟩ := (orderly_run (earlier ++ later)).distinct.stored?_eq_some_iff.mp second
  obtain ⟨grant, member, rfl⟩ := (sourced_run earlier).stored session inside
  obtain ⟨again, among, rfl⟩ := (sourced_run (earlier ++ later)).stored other within
  have whole : grant ∈ opening.grants (earlier ++ later) := by
    rw [grants_append]
    exact List.mem_append_left _ member
  exact congrArg Grant.session (List.inj_on_of_nodup_map fresh whole among same.symm)

/-- Whoever looks up the name of a target, and the session of that name later, is answered as if it had looked for both
at one time in between. -/
private theorem looked_at_once (fresh : Fresh opening (earlier ++ later)) (target : TargetId) :
    ∃ middle rest, later = middle ++ rest ∧
      ((run earlier).table.targets.lookup target).bind (run (earlier ++ later)).table.stored? =
        (run (earlier ++ middle)).table.forTarget? target := by
  induction later generalizing earlier with
  | nil => exact ⟨[], [], rfl, by simp [SessionTable.forTarget?]⟩
  | cons move later ih =>
      have after : run (earlier ++ [move]) = (run earlier).step move := run_append earlier [move]
      by_cases same : (run (earlier ++ [move])).table.targets.lookup target =
          (run earlier).table.targets.lookup target
      · rw [List.append_cons earlier move later] at fresh ⊢
        obtain ⟨middle, rest, rfl, answered⟩ := ih fresh
        rw [same] at answered
        exact ⟨move :: middle, rest, rfl, by rw [List.append_cons earlier move middle, answered]⟩
      · cases told : (run earlier).table.targets.lookup target with
        | none => exact ⟨[], move :: later, rfl, by simp [SessionTable.forTarget?, told]⟩
        | some id =>
            simp only [Option.bind_some]
            cases found : (run (earlier ++ move :: later)).table.stored? id with
            | some session =>
                refine ⟨[], move :: later, rfl, ?_⟩
                cases before : (run earlier).table.stored? id with
                | none =>
                    have missing := (bygone_append fresh told before).absent
                    exact absurd (SessionTable.stored?_eq_none_iff.mpr missing) (by simp [found])
                | some known =>
                    obtain rfl := stored?_unique fresh before found
                    simp [SessionTable.forTarget?, told, before]
            | none =>
                rw [after] at same
                rcases (orderly_run earlier).table_cases move with
                  (still | ⟨name, lost⟩) | ⟨session, -, stored⟩ | ⟨other, name, assigns, assigned⟩
                · exact absurd (by rw [still]) same
                · refine ⟨[move], later, rfl, ?_⟩
                  rw [lost, SessionTable.lookup_forget] at same
                  rw [after, lost, SessionTable.forTarget?, SessionTable.lookup_forget]
                  split at same
                  next gone => simp [gone]
                  next => exact absurd rfl same
                · exact absurd (by rw [stored]; rfl) same
                · rw [assigned, SessionTable.lookup_assign] at same
                  split at same
                  next aimed =>
                    subst aimed
                    obtain ⟨place, caller, -, live, assigning⟩ := assigns?_eq_some_iff.mp assigns
                    rcases ((orderly_run earlier).of_assigning live assigning).2.2 with none | known
                    · exact ⟨[], move :: later, rfl, by simpa using none.symm⟩
                    · exact absurd known.symm same
                  next => exact absurd rfl same

/-- How the two maps correspond after a run. -/
structure Correspondence (moves : List SessionMove) : Prop where
  own : ∀ id session, (run moves).table.stored? id = some session → session.id = id
  distinct : ((run moves).table.stored.map Session.id).Nodup
  aims : ∀ target session, (run moves).table.forTarget? target = some session → session.target = some target
  attached : ∀ place caller target parent result, (run moves).live? place = some caller →
    caller.errand = .attach target parent → caller.rest = .done (.ok result) →
    ∃ session, result = some session ∧ session.target = some target
  apart : ∀ first second id, (run moves).table.targets.lookup first = some id →
    (run moves).table.targets.lookup second = some id → first = second
  -- the two looks of one who asks for the session of a target may be apart
  looked : ∀ earlier later target, moves = earlier ++ later → ∃ middle rest, later = middle ++ rest ∧
    ((run earlier).table.targets.lookup target).bind (run moves).table.stored? =
      (run (earlier ++ middle)).table.forTarget? target
  inverse : ∀ target id, (run moves).table.targets.lookup target = some id ∧ ¬Torn moves target id ↔
    (∃ session, (run moves).table.stored? id = some session ∧ session.target = some target) ∧
      ¬(run moves).Between target id
  torn : ∀ target id, Torn moves target id → (run moves).table.stored? id = none
  -- one that is said to be gone, and is stored and assigned by then, is forgotten for good
  forgotten : ∀ first event later grant, moves = first ++ .event event :: later → grant ∈ opening.grants first →
    event.notice.Revokes grant → grant.id ∉ (run first).missed event.notice →
    (run moves).table.stored? grant.id = none ∧
      ∀ target, (run moves).table.targets.lookup target = some grant.id → Torn moves target grant.id
  mutual_iff : (run moves).Mutual ↔
    (∀ target id, (run moves).Between target id → (run moves).table.stored? id = none) ∧
      ∀ target id, (run moves).table.targets.lookup target = some id → ¬Torn moves target id

/-- A target has the name of a session that is not torn exactly if the session has the target and its caller is done
with both acts. -/
private theorem inverse_run (fresh : Fresh opening moves) (target : TargetId) (id : SessionId) :
    (run moves).table.targets.lookup target = some id ∧ ¬Torn moves target id ↔
      (∃ session, (run moves).table.stored? id = some session ∧ session.target = some target) ∧
        ¬(run moves).Between target id := by
  have faithful := faithful_run fresh
  have orderly := orderly_run moves
  constructor
  · rintro ⟨known, whole⟩
    refine ⟨?_, faithful.not_between known target⟩
    cases found : (run moves).table.stored? id with
    | none => exact absurd (torn_of_missing fresh known found) whole
    | some session => exact ⟨session, rfl, faithful.sound.aims target id session known found⟩
  · rintro ⟨⟨session, found, aims⟩, apart⟩
    obtain ⟨member, rfl⟩ := orderly.distinct.stored?_eq_some_iff.mp found
    refine ⟨(faithful.assigned session member target aims).resolve_right apart, fun torn => ?_⟩
    exact (torn.bygone fresh).absent session member rfl

/-- The maps are inverse to each other exactly if nobody stands between its two acts with the session still stored, and
no target is torn. -/
private theorem mutual_run_iff (fresh : Fresh opening moves) : (run moves).Mutual ↔
    (∀ target id, (run moves).Between target id → (run moves).table.stored? id = none) ∧
      ∀ target id, (run moves).table.targets.lookup target = some id → ¬Torn moves target id := by
  have faithful := faithful_run fresh
  have orderly := orderly_run moves
  have inverse := inverse_run fresh
  constructor
  · intro matched
    refine ⟨fun target id between => ?_, fun target id known torn => ?_⟩
    · obtain ⟨place, caller, live, assigning⟩ := between
      obtain ⟨-, new, aims⟩ := faithful.assigning place caller target id live assigning
      by_contra some
      obtain ⟨session, found⟩ := Option.ne_none_iff_exists'.mp some
      exact new target ((matched.inverse target id).mpr ⟨session, found, aims session found⟩)
    · have still := matched.remembered target id known
      simp [torn.missing fresh] at still
  · rintro ⟨done, whole⟩
    have both (target : TargetId) (id : SessionId) : (run moves).table.targets.lookup target = some id ↔
        ∃ session, (run moves).table.stored? id = some session ∧ session.target = some target := by
      constructor
      · exact fun known => ((inverse target id).mp ⟨known, whole target id known⟩).1
      · rintro ⟨session, found, aims⟩
        have apart : ¬(run moves).Between target id := fun between => by
          cases found.symm.trans (done target id between)
        exact ((inverse target id).mpr ⟨⟨session, found, aims⟩, apart⟩).1
    exact {
      own := fun id session found => (orderly.distinct.stored?_eq_some_iff.mp found).2
      distinct := orderly.distinct
      inverse := both
      aims := fun target session => faithful.sound.forTarget?_aims
      attached := faithful.attached
      apart := faithful.sound.apart
      remembered := fun target id known => by
        obtain ⟨session, found, -⟩ := (both target id).mp known
        exact found ▸ rfl }

/-- Whatever callers attach and detach, in whatever order they act and are answered, and whatever the browser says
is gone, between any two acts: if it grants no name twice, the two maps of the table correspond. -/
theorem correspondence_run (moves : List SessionMove) (fresh : Fresh opening moves) : Correspondence moves := by
  have faithful := faithful_run fresh
  have orderly := orderly_run moves
  exact {
    own := fun id session found => (orderly.distinct.stored?_eq_some_iff.mp found).2
    distinct := orderly.distinct
    aims := fun target session => faithful.sound.forTarget?_aims
    attached := faithful.attached
    apart := faithful.sound.apart
    looked := by
      rintro earlier later target rfl
      exact looked_at_once fresh target
    inverse := inverse_run fresh
    torn := fun target id torn => torn.missing fresh
    forgotten := by
      rintro first event later grant rfl member revokes met
      have gone := SessionTable.stored?_eq_none_iff.mpr (bygone_run fresh member revokes met).absent
      exact ⟨gone, fun target known => torn_of_missing fresh known gone⟩
    mutual_iff := mutual_run_iff fresh }

/-- Two attach to one target at once; the first asks the browser, and the second is given what the first was. -/
def twoAtOnce : List SessionMove :=
  let first : Errand := .attach ⟨"F1"⟩ .topLevel
  let granted : Json := .object [("sessionId", .string "S0")]
  [.call first, .proceed 0, .proceed 0, .call first, .proceed 1, .proceed 1, .proceed 0, .proceed 0,
    .answer 0 (.ok granted), .proceed 0, .proceed 0, .proceed 0, .proceed 1, .proceed 1, .proceed 1]

theorem correspondence_run_twoAtOnce :
    Fresh opening twoAtOnce ∧ (opening.grants twoAtOnce).length = 1 ∧
      (run twoAtOnce).table.stored? ⟨"S0"⟩ = some ⟨⟨"S0"⟩, some ⟨"F1"⟩, some .topLevel⟩ ∧
      (run twoAtOnce).table.targets.lookup ⟨"F1"⟩ = some ⟨"S0"⟩ ∧ Correspondence twoAtOnce :=
  ⟨by decide, by decide, by decide, by decide, correspondence_run twoAtOnce (by decide)⟩

def attachGranted : List SessionMove :=
  [.call (.attach ⟨"T1"⟩ .topLevel), .proceed 0, .proceed 0, .proceed 0, .proceed 0,
    .answer 0 (.ok (.object [("sessionId", .string "S1")]))]

def grantedGone : Event :=
  ⟨Event.detachedMethod, .object [("sessionId", .string "S1"), ("targetId", .string "T1")], .topLevel⟩

/-- The session is forgotten between the two acts of its caller. -/
def tornAttach : List SessionMove :=
  attachGranted ++ [.proceed 0, .event grantedGone, .proceed 0, .proceed 0]

/-- The session is forgotten before the first of them. -/
def lateAttach : List SessionMove :=
  attachGranted ++ [.event grantedGone, .proceed 0, .proceed 0, .proceed 0]

/-- In the end nobody is busy. In the one run the target has the name of a session that is not stored, in the other
it has a session that was said to be gone. -/
theorem maps_torn_apart :
    let session : Session := ⟨⟨"S1"⟩, some ⟨"T1"⟩, some .topLevel⟩
    let torn := run tornAttach
    let late := run lateAttach
    Fresh opening tornAttach ∧ Fresh opening lateAttach ∧
      ⟨0, ⟨"T1"⟩, .topLevel, ⟨"S1"⟩⟩ ∈ opening.grants attachGranted ∧
      grantedGone.notice = .detached ⟨"S1"⟩ (some ⟨"T1"⟩) ∧
      torn.turn.inside = [] ∧ torn.halfway = [] ∧ torn.table = ⟨[], [(⟨"T1"⟩, ⟨"S1"⟩)]⟩ ∧ ¬torn.Mutual ∧
      late.turn.inside = [] ∧ late.halfway = [] ∧ late.table.forTarget? ⟨"T1"⟩ = some session := by
  have table : (run tornAttach).table = ⟨[], [(⟨"T1"⟩, ⟨"S1"⟩)]⟩ := by decide +kernel
  refine ⟨by decide, by decide, by decide, by decide, by decide, by decide, table, fun matched => ?_, by decide,
    by decide, by decide⟩
  have still := matched.remembered ⟨"T1"⟩ ⟨"S1"⟩ (by rw [table]; rfl)
  rw [table] at still
  cases still

end RemoteDom.Sessions
