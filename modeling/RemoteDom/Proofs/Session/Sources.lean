import RemoteDom.Proofs.Session.Consistency
import RemoteDom.Proofs.Session.Forgetting

/-! Where the sessions in the table come from. Each was granted to a caller and stored by it, so that a session whose
grant is over and done with never comes back once it is forgotten. -/

namespace RemoteDom

/-- The notice says that the session of the grant is gone, or its target. -/
def Notice.Revokes (grant : Grant) : Notice → Prop
  | .detached session _ => session = grant.id
  | .destroyed target => target = grant.target
  | .attached .. | .other => False

namespace Sessions

variable {sessions : Sessions} {move : SessionMove} {granted : List Grant} {id : SessionId}

def readings {α : Type} (sessions : Sessions) (read : ClientProgram (Except Error (Option Session)) → Option α) :
    List α :=
  sessions.callers.filterMap fun caller => if caller.gone then none else read caller.rest

private theorem mem_readings {α : Type} {read : ClientProgram (Except Error (Option Session)) → Option α} {value : α} :
    value ∈ sessions.readings read ↔
      ∃ place caller, sessions.live? place = some caller ∧ read caller.rest = some value := by
  rw [readings, List.mem_filterMap]
  constructor
  · rintro ⟨caller, member, told⟩
    obtain ⟨place, found⟩ := List.mem_iff_getElem?.mp member
    split at told
    next => cases told
    next stays => exact ⟨place, caller, by simp [live?, found, stays], told⟩
  · rintro ⟨place, caller, live, told⟩
    obtain ⟨found, stays, -⟩ := lt_of_live? live
    exact ⟨caller, List.mem_of_getElem? found, by simp [stays, told]⟩

/-- The names of the sessions that were granted to callers who have yet to store them. -/
def owed (sessions : Sessions) : List SessionId := sessions.readings fun rest => rest.storing?.map Session.id

/-- The names of the sessions whose callers have yet to assign a target to them. -/
def halfway (sessions : Sessions) : List SessionId := sessions.readings fun rest => rest.assigning?.map Prod.snd

/-- The names of the sessions that a notice misses: those yet to be stored, and if it tells of a target, those to
which it is yet to be assigned. -/
def missed (sessions : Sessions) : Notice → List SessionId
  | .destroyed _ => sessions.owed ++ sessions.halfway
  | _ => sessions.owed

theorem mem_owed : id ∈ sessions.owed ↔ ∃ place caller session,
    sessions.live? place = some caller ∧ caller.rest.storing? = some session ∧ session.id = id := by
  simp [owed, mem_readings]

private theorem mem_halfway : id ∈ sessions.halfway ↔ ∃ target, sessions.Between target id := by
  simp only [halfway, mem_readings, Option.map_eq_some_iff, Prod.exists, Between]
  constructor
  · rintro ⟨place, caller, live, target, _, assigning, rfl⟩
    exact ⟨target, place, caller, live, assigning⟩
  · rintro ⟨target, place, caller, live, assigning⟩
    exact ⟨place, caller, live, target, id, assigning, rfl⟩

/-- Whatever is stored, or is about to be, was granted. -/
structure Sourced (granted : List Grant) (sessions : Sessions) : Prop where
  stored : ∀ session ∈ sessions.table.stored, ∃ grant ∈ granted, grant.session = session
  storing : ∀ place caller session, sessions.live? place = some caller →
    caller.rest.storing? = some session → ∃ grant ∈ granted, grant.session = session

private theorem sourced_opening : Sourced [] opening where
  stored := by simp [opening, SessionTable.empty]
  storing := by simp [opening, live?]

theorem Sourced.step (sourced : Sourced granted sessions) (orderly : sessions.Orderly) (move : SessionMove) :
    Sourced (granted ++ (sessions.grant? move).toList) (sessions.step move) where
  stored := by
    intro session member
    rcases orderly.origin_of_stored member with old | ⟨place, caller, live, storing⟩
    · obtain ⟨grant, inside, same⟩ := sourced.stored session old
      exact ⟨grant, List.mem_append_left _ inside, same⟩
    · obtain ⟨grant, inside, same⟩ := sourced.storing place caller session live storing
      exact ⟨grant, List.mem_append_left _ inside, same⟩
  storing := by
    intro place caller session live storing
    rcases orderly.origin_of_storing live storing with stays | ⟨grant, granting, same⟩
    · obtain ⟨grant, inside, same⟩ := sourced.storing place caller session stays storing
      exact ⟨grant, List.mem_append_left _ inside, same⟩
    · exact ⟨grant, List.mem_append_right _ (by simp [granting]), same⟩

theorem Sourced.runFrom (sourced : Sourced granted sessions) (orderly : sessions.Orderly) (moves : List SessionMove) :
    Sourced (granted ++ sessions.grants moves) (sessions.runFrom moves) := by
  induction moves generalizing sessions granted with
  | nil => simpa using sourced
  | cons move moves ih =>
      rw [grants_cons, ← List.append_assoc]
      exact ih (sourced.step orderly move) (orderly.step move)

theorem sourced_run (moves : List SessionMove) : Sourced (opening.grants moves) (run moves) :=
  sourced_opening.runFrom orderly_opening moves

/-- The session is not in the table, and nobody is about to store it. -/
structure Bygone (sessions : Sessions) (id : SessionId) : Prop where
  absent : ∀ session ∈ sessions.table.stored, session.id ≠ id
  unowed : id ∉ sessions.owed

theorem Bygone.step (bygone : sessions.Bygone id) (orderly : sessions.Orderly) (move : SessionMove)
    (new : ∀ grant, sessions.grant? move = some grant → grant.id ≠ id) : (sessions.step move).Bygone id where
  absent := by
    intro session member same
    rcases orderly.origin_of_stored member with old | ⟨place, caller, live, storing⟩
    · exact bygone.absent session old same
    · exact bygone.unowed (mem_owed.mpr ⟨place, caller, session, live, storing, same⟩)
  unowed := by
    intro member
    obtain ⟨place, caller, session, live, storing, same⟩ := mem_owed.mp member
    rcases orderly.origin_of_storing live storing with stays | ⟨grant, granting, rfl⟩
    · exact bygone.unowed (mem_owed.mpr ⟨place, caller, session, stays, storing, same⟩)
    · exact new grant granting same

theorem Bygone.runFrom (bygone : sessions.Bygone id) (orderly : sessions.Orderly) (moves : List SessionMove)
    (new : ∀ grant ∈ sessions.grants moves, grant.id ≠ id) : (sessions.runFrom moves).Bygone id := by
  induction moves generalizing sessions with
  | nil => exact bygone
  | cons move moves ih =>
      simp only [grants_cons, List.mem_append, Option.mem_toList, or_imp, forall_and] at new
      exact ih (bygone.step orderly move new.1) (orderly.step move) new.2

theorem grants_append (sessions : Sessions) (first second : List SessionMove) :
    sessions.grants (first ++ second) = sessions.grants first ++ (sessions.runFrom first).grants second := by
  induction first generalizing sessions with
  | nil => rfl
  | cons move moves ih => simp only [List.cons_append, grants_cons, ih, List.append_assoc, runFrom_cons]

theorem Fresh.of_append {first later : List SessionMove} (fresh : Fresh opening (first ++ later)) :
    Fresh opening first := by
  rw [Fresh, grants_append, List.map_append] at fresh
  exact (List.nodup_append'.mp fresh).1

theorem Bygone.run_append {first later : List SessionMove} (bygone : (run first).Bygone id)
    (fresh : Fresh opening (first ++ later)) (granted : id ∈ (opening.grants first).map Grant.id) :
    (run (first ++ later)).Bygone id := by
  rw [Fresh, grants_append, List.map_append] at fresh
  obtain ⟨-, -, apart⟩ := List.nodup_append'.mp fresh
  rw [Sessions.run_append]
  exact bygone.runFrom (orderly_run first) later fun grant member same =>
    apart granted (List.mem_map.mpr ⟨grant, member, same⟩)

/-- A notice that revokes a grant makes the session bygone, unless it misses the session. -/
private theorem Sourced.bygone_of_notice (sourced : Sourced granted sessions) (orderly : sessions.Orderly)
    (faithful : Faithful (granted.map Grant.id) sessions) (fresh : (granted.map Grant.id).Nodup) {grant : Grant}
    (member : grant ∈ granted) (event : Event) (revokes : event.notice.Revokes grant)
    (met : grant.id ∉ sessions.missed event.notice) : (sessions.step (.event event)).Bygone grant.id where
  absent := by
    intro session stays same
    change session ∈ (Rehearsal.World.applyNotice sessions.table event.notice).stored at stays
    rw [applyNotice_eq_without orderly.distinct, SessionTable.mem_without] at stays
    obtain ⟨stored, free⟩ := stays
    refine free (.named ?_)
    obtain ⟨source, among, rfl⟩ := sourced.stored session stored
    obtain rfl := List.inj_on_of_nodup_map fresh among member same
    cases notice : event.notice with
    | detached gone target =>
        obtain rfl : gone = source.id := by simpa [notice, Notice.Revokes] using revokes
        simp [Notice.gone?, Grant.session, Session.attached]
    | destroyed target =>
        obtain rfl : target = source.target := by simpa [notice, Notice.Revokes] using revokes
        have known : sessions.table.targets.lookup source.target = some source.id := by
          rcases faithful.assigned _ stored source.target rfl with known | between
          · exact known
          · have halfway : source.id ∈ sessions.halfway := mem_halfway.mpr ⟨_, between⟩
            exact absurd (by simp [notice, missed, halfway]) met
        simp [Notice.gone?, known, Grant.session, Session.attached]
    | attached | other => simp [notice, Notice.Revokes] at revokes
  unowed := by
    intro owed
    refine met ?_
    cases event.notice with
    | destroyed target => exact List.mem_append_left _ owed
    | detached | attached | other => exact owed

/-- After an event that revokes a grant and does not miss its session, the session is bygone for good, if no name is
granted twice. -/
theorem bygone_run {first later : List SessionMove} {event : Event} {grant : Grant}
    (fresh : Fresh opening (first ++ .event event :: later)) (member : grant ∈ opening.grants first)
    (revokes : event.notice.Revokes grant) (met : grant.id ∉ (run first).missed event.notice) :
    (run (first ++ .event event :: later)).Bygone grant.id := by
  have before : Fresh opening first := fresh.of_append
  have bygone := (sourced_run first).bygone_of_notice (orderly_run first) (faithful_run before) before member event
    revokes met
  rw [show first ++ .event event :: later = (first ++ [.event event]) ++ later by simp] at fresh ⊢
  refine Bygone.run_append (by rwa [Sessions.run_append]) fresh (List.mem_map_of_mem ?_)
  rw [grants_append]
  exact List.mem_append_left _ member

end Sessions

end RemoteDom
