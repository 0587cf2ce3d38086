import RemoteDom.Proofs.Session.Grants

/-! What a move does to one caller. It leaves the caller as it is, abandons it, or is a move of the caller itself. -/

namespace RemoteDom

def SessionMove.place? : SessionMove → Option Nat
  | .proceed place | .answer place _ | .abandon place => some place
  | .call _ | .event _ => none

section Pace

variable {table later : SessionTable} {turn after : Turnstile} {place : Nat} {errand : Errand} {waits waits' : Bool}
  {phase phase' : CallPhase errand} {move : SessionMove}

theorem Pace.place? (pace : Pace table turn place waits phase move later after waits' phase') :
    move.place? = some place := by
  cases pace <;> rfl

theorem Pace.settled (pace : Pace table turn place waits phase move later after waits' phase')
    {outcome : Except Error (Option Session)} (settled : phase.settled? = some outcome) :
    phase'.settled? = some outcome := by
  cases pace with
  | left | assigned => exact settled
  | _ => cases settled

theorem Pace.of_storing (pace : Pace table turn place waits phase move later after waits' phase')
    {session : Session} (storing : phase.storing? = some session) :
    later = table.store session ∧ ∃ target, session.target = some target ∧
      phase'.assigning? = some (target, session.id) ∧ phase'.settled? = some (.ok (some session)) := by
  cases pace with
  | stored =>
      cases storing
      exact ⟨rfl, _, rfl, rfl, rfl⟩
  | _ => cases storing

theorem Pace.of_assigning (pace : Pace table turn place waits phase move later after waits' phase')
    {target : TargetId} {id : SessionId} (assigning : phase.assigning? = some (target, id)) :
    later = table.assign target id := by
  cases pace with
  | assigned =>
      cases assigning
      rfl
  | _ => cases assigning

end Pace

namespace Sessions

variable {sessions later : Sessions} {move : SessionMove} {place : Nat} {caller : Caller}

/-- The caller of a place made the move, from one phase of its call to the next. -/
inductive Paced (sessions later : Sessions) (move : SessionMove) (place : Nat) (before : Caller) : Caller → Prop
  | intro {phase after : CallPhase before.errand} {rest : ClientProgram (Except Error (Option Session))}
      {waits : Bool} (runs : phase.Runs before.rest)
      (placed : phase.Placed sessions.table sessions.turn place before.waits)
      (pace : Pace sessions.table sessions.turn place before.waits phase move later.table later.turn waits after)
      (onward : after.Runs rest) : Paced sessions later move place before ⟨before.errand, rest, waits, false⟩

theorem Stride.origin (stride : Stride sessions move later) (live : later.live? place = some caller) :
    sessions.live? place = some caller ∨
      (∃ errand, move = .call errand ∧ caller = ⟨errand, errand.program, false, false⟩) ∨
      ∃ before, sessions.live? place = some before ∧ Paced sessions later move place before caller := by
  cases stride with
  | idle | heard => exact .inl live
  | called errand =>
      rw [live?_call] at live
      split at live
      · exact .inr (.inl ⟨errand, rfl, (Option.some.inj live).symm⟩)
      · exact .inl live
  | abandoned gone =>
      rw [live?_set gone] at live
      split at live
      · cases live
      · exact .inl live
  | paced found runs placed pace onward =>
      rw [live?_set found] at live
      split at live
      next same =>
        subst same
        cases Option.some.inj live
        exact .inr (.inr ⟨_, found, .intro runs placed pace onward⟩)
      next => exact .inl live

/-- A live caller is there afterwards as it is, is abandoned while it waits, or has made the move. -/
theorem Stride.fate (stride : Stride sessions move later) (live : sessions.live? place = some caller) :
    later.live? place = some caller ∨ (move = .abandon place ∧ caller.waits = true) ∨
      ∃ after, later.live? place = some after ∧ Paced sessions later move place caller after := by
  cases stride with
  | idle | heard => exact .inl live
  | called errand =>
      have apart : place ≠ sessions.callers.length := Nat.ne_of_lt (lt_of_live? live).2.2
      exact .inl (by rw [live?_call, if_neg apart, live])
  | @abandoned other _ found waits =>
      by_cases same : place = other
      · subst same
        cases Option.some.inj (live.symm.trans found)
        exact .inr (.inl ⟨rfl, waits⟩)
      · exact .inl (by rw [live?_set found, if_neg same, live])
  | @paced other _ _ _ _ _ _ _ _ found runs placed pace onward =>
      by_cases same : place = other
      · subst same
        cases Option.some.inj (live.symm.trans found)
        exact .inr (.inr ⟨_, by rw [live?_set found, if_pos rfl]; rfl, .intro runs placed pace onward⟩)
      · exact .inl (by rw [live?_set found, if_neg same, live])

theorem Stride.live?_of_apart (stride : Stride sessions move later) (apart : move.place? ≠ some place)
    (live : sessions.live? place = some caller) : later.live? place = some caller := by
  rcases stride.fate live with stays | ⟨rfl, -⟩ | ⟨after, -, ⟨runs, placed, pace, onward⟩⟩
  · exact stays
  · exact absurd rfl apart
  · exact absurd pace.place? apart

theorem Orderly.of_storing (orderly : sessions.Orderly) (live : sessions.live? place = some caller)
    {session : Session} (storing : caller.rest.storing? = some session) :
    place ∈ sessions.turn.inside ∧ caller.waits = false ∧
      ∃ target, session.target = some target ∧ sessions.table.forTarget? target = none := by
  obtain ⟨phase, runs, placed⟩ := orderly.placed place caller live
  exact placed.of_storing (runs.storing?.symm.trans storing)

theorem Orderly.of_assigning (orderly : sessions.Orderly) (live : sessions.live? place = some caller)
    {target : TargetId} {id : SessionId} (assigning : caller.rest.assigning? = some (target, id)) :
    place ∈ sessions.turn.inside ∧ caller.waits = false ∧ sessions.table.NoOther target id := by
  obtain ⟨phase, runs, placed⟩ := orderly.placed place caller live
  exact placed.of_assigning (runs.assigning?.symm.trans assigning)

theorem Orderly.of_asks (orderly : sessions.Orderly) (live : sessions.live? place = some caller)
    {parent : SessionId} {target : TargetId} (asks : caller.rest.asks? = some (parent, target)) :
    place ∈ sessions.turn.inside ∧ sessions.table.forTarget? target = none := by
  obtain ⟨phase, runs, placed⟩ := orderly.placed place caller live
  exact placed.of_asks (runs.asks?.symm.trans asks)

theorem Orderly.rest_of_asks (orderly : sessions.Orderly) (live : sessions.live? place = some caller)
    {parent : SessionId} {target : TargetId} (asks : caller.rest.asks? = some (parent, target)) :
    ∃ next, caller =
        ⟨.attach target parent, .act (.request parent (.attachToTarget target true)) next, caller.waits, false⟩ ∧
      ∀ outcome, (CallPhase.answered outcome : CallPhase (.attach target parent)).Runs (next outcome) := by
  obtain ⟨phase, runs, -⟩ := orderly.placed place caller live
  have stays := (lt_of_live? live).2.1
  obtain ⟨errand, rest, waits, gone⟩ := caller
  obtain rfl : gone = false := stays
  have asking := runs.asks?.symm.trans asks
  cases phase with
  | asking =>
      cases asking
      obtain ⟨next, rfl, onward⟩ := runs.of_step rfl
      exact ⟨next, rfl, onward⟩
  | _ => cases asking

theorem Orderly.answered (orderly : sessions.Orderly) (live : sessions.live? place = some caller)
    (waits : caller.waits = true) {parent : SessionId} {target : TargetId}
    (asks : caller.rest.asks? = some (parent, target)) (outcome : Except Error Json) :
    ∃ rest, (sessions.step (.answer place outcome)).live? place = some ⟨.attach target parent, rest, false, false⟩ ∧
      (CallPhase.answered outcome : CallPhase (.attach target parent)).Runs rest := by
  obtain ⟨next, same, onward⟩ := orderly.rest_of_asks live asks
  rw [same, waits] at live
  refine ⟨next outcome, ?_, onward outcome⟩
  simp only [Sessions.step, live]
  exact (live?_set live _ _ _ place).trans (if_pos rfl)

def stores? (sessions : Sessions) : SessionMove → Option Session
  | .proceed place => (sessions.live? place).bind fun caller => caller.rest.storing?
  | _ => none

def assigns? (sessions : Sessions) : SessionMove → Option (TargetId × SessionId)
  | .proceed place => (sessions.live? place).bind fun caller => caller.rest.assigning?
  | _ => none

private theorem stores?_eq_some_iff {session : Session} :
    sessions.stores? move = some session ↔ ∃ place caller, move = .proceed place ∧
      sessions.live? place = some caller ∧ caller.rest.storing? = some session := by
  cases move <;> simp [stores?, Option.bind_eq_some_iff]

theorem assigns?_eq_some_iff {target : TargetId} {id : SessionId} :
    sessions.assigns? move = some (target, id) ↔ ∃ place caller, move = .proceed place ∧
      sessions.live? place = some caller ∧ caller.rest.assigning? = some (target, id) := by
  cases move <;> simp [assigns?, Option.bind_eq_some_iff]

/-- A move changes the table only to forget, to store a session or to assign a target. -/
theorem Orderly.table_cases (orderly : sessions.Orderly) (move : SessionMove) :
    ((sessions.step move).table = sessions.table ∨ ∃ id, (sessions.step move).table = sessions.table.forget id) ∨
      (∃ session, sessions.stores? move = some session ∧
        (sessions.step move).table = sessions.table.store session) ∨
      ∃ target id, sessions.assigns? move = some (target, id) ∧
        (sessions.step move).table = sessions.table.assign target id := by
  have stride := orderly.stride move
  generalize sessions.step move = later at stride
  cases stride with
  | idle | called | abandoned => exact .inl (.inl rfl)
  | heard event => exact .inl (applyNotice_cases sessions.table event.notice)
  | paced live runs placed pace onward =>
      rcases pace.table_cases with lost | ⟨session, rfl, storing, same⟩ | ⟨target, id, rfl, assigning, same⟩
      · exact .inl lost
      · exact .inr (.inl ⟨session, by simp [stores?, live, runs.storing?, storing], same⟩)
      · exact .inr (.inr ⟨target, id, by simp [assigns?, live, runs.assigning?, assigning], same⟩)

theorem Orderly.origin_of_stored (orderly : sessions.Orderly) {session : Session}
    (member : session ∈ (sessions.step move).table.stored) :
    session ∈ sessions.table.stored ∨ ∃ place caller,
      sessions.live? place = some caller ∧ caller.rest.storing? = some session := by
  rcases orderly.table_cases move with lost | ⟨new, stores, same⟩ | ⟨target, id, -, same⟩
  · exact .inl (SessionTable.stored_of_lost lost member)
  · rw [same] at member
    rcases List.mem_cons.mp member with rfl | old
    · obtain ⟨place, caller, -, live, storing⟩ := stores?_eq_some_iff.mp stores
      exact .inr ⟨place, caller, live, storing⟩
    · exact .inl (List.mem_of_mem_filter old)
  · rw [same] at member
    exact .inl member

theorem Orderly.origin_of_storing (orderly : sessions.Orderly) {session : Session}
    (live : (sessions.step move).live? place = some caller) (storing : caller.rest.storing? = some session) :
    sessions.live? place = some caller ∨ ∃ grant, sessions.grant? move = some grant ∧ grant.session = session := by
  rcases (orderly.stride move).origin live with
    stays | ⟨errand, -, rfl⟩ | ⟨before, found, ⟨runs, placed, pace, onward⟩⟩
  · exact .inl stays
  · have none := (CallPhase.runs_opening errand).storing?
    cases errand <;> cases none.symm.trans storing
  · obtain ⟨target, parent, answer, id, rfl, waits, asks, read, rfl, -⟩ :=
      pace.granted_of_storing (onward.storing?.symm.trans storing)
    have flight := flight?_eq_some_iff.mpr ⟨before, found, waits, runs.asks?.trans asks⟩
    exact .inr ⟨⟨place, target, parent, id⟩, grant?_eq_some_iff.mpr ⟨answer, rfl, flight, read⟩, rfl⟩

theorem Orderly.origin_of_assigning (orderly : sessions.Orderly) {target : TargetId} {id : SessionId}
    (live : (sessions.step move).live? place = some caller)
    (assigning : caller.rest.assigning? = some (target, id)) :
    sessions.live? place = some caller ∨ move = .proceed place ∧ ∃ session, sessions.stores? move = some session ∧
      session.target = some target ∧ session.id = id := by
  rcases (orderly.stride move).origin live with
    stays | ⟨errand, -, rfl⟩ | ⟨before, found, ⟨runs, placed, pace, onward⟩⟩
  · exact .inl stays
  · have none := (CallPhase.runs_opening errand).assigning?
    cases errand <;> cases none.symm.trans assigning
  · obtain ⟨session, rfl, storing, aims, same, -⟩ :=
      pace.stored_of_assigning (onward.assigning?.symm.trans assigning)
    exact .inr ⟨rfl, session, stores?_eq_some_iff.mpr ⟨place, before, rfl, found, runs.storing?.trans storing⟩,
      aims, same⟩

end Sessions

end RemoteDom
