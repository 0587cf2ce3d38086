import RemoteDom.Proofs.Session.Order

/-! What callers are given. An attach that succeeds gives the session that the table knew, or the one that the browser
granted in answer to the request of that very call, and only such a grant is stored. -/

namespace RemoteDom

namespace ClientProgram

variable (rest : ClientProgram (Except Error (Option Session)))

/-- How the call ends, if nothing is left to do but to assign the target and to leave. -/
def settled? : ClientProgram (Except Error (Option Session)) → Option (Except Error (Option Session))
  | .done outcome => some outcome
  | .act .leaveAttach next => settled? (next ())
  | .act (.assign _ _) next => settled? (next ())
  | _ => none

def storing? : Option Session :=
  match rest with
  | .act (.store session) _ => some session
  | _ => none

def assigning? : Option (TargetId × SessionId) :=
  match rest with
  | .act (.assign target id) _ => some (target, id)
  | _ => none

/-- The session in which the browser is to be asked next to attach, and the target. -/
def asks? : Option (SessionId × TargetId) :=
  match rest with
  | .act (.request parent (.attachToTarget target _)) _ => some (parent, target)
  | _ => none

end ClientProgram

namespace CallPhase

variable {errand : Errand}

def settled? : CallPhase errand → Option (Except Error (Option Session))
  | finished outcome => some outcome
  | leaving outcome => some (outcome.map some)
  | @assigning target parent id => some (.ok (some (.attached target parent id)))
  | _ => none

def storing? : CallPhase errand → Option Session
  | @storing target parent id => some (.attached target parent id)
  | _ => none

def assigning? : CallPhase errand → Option (TargetId × SessionId)
  | @assigning target _ id => some (target, id)
  | _ => none

def asks? : CallPhase errand → Option (SessionId × TargetId)
  | @asking target parent => some (parent, target)
  | _ => none

theorem asks?_ne_of_storing (phase : CallPhase errand) {session : Session} {target : TargetId} {parent : SessionId}
    (storing : phase.storing? = some session) : phase.asks? ≠ some (parent, target) := by
  cases phase with
  | storing => rintro ⟨⟩
  | _ => cases storing

theorem asks?_ne_of_assigning (phase : CallPhase errand) {id parent : SessionId} {target name : TargetId}
    (assigning : phase.assigning? = some (target, id)) : phase.asks? ≠ some (parent, name) := by
  cases phase with
  | assigning => rintro ⟨⟩
  | _ => cases assigning

theorem storing?_ne_of_assigning (phase : CallPhase errand) {id : SessionId} {target : TargetId} {session : Session}
    (assigning : phase.assigning? = some (target, id)) : phase.storing? ≠ some session := by
  cases phase with
  | assigning => rintro ⟨⟩
  | _ => cases assigning

variable {rest : ClientProgram (Except Error (Option Session))} {phase : CallPhase errand}

theorem Placed.of_storing {table : SessionTable} {turn : Turnstile} {place : Nat} {waits : Bool}
    (placed : phase.Placed table turn place waits) {session : Session} (storing : phase.storing? = some session) :
    place ∈ turn.inside ∧ waits = false ∧
      ∃ target, session.target = some target ∧ table.forTarget? target = none := by
  cases phase with
  | @storing target parent id =>
      cases storing
      exact ⟨placed.1, placed.2.1, target, rfl, placed.2.2⟩
  | _ => cases storing

theorem Placed.of_assigning {table : SessionTable} {turn : Turnstile} {place : Nat} {waits : Bool}
    (placed : phase.Placed table turn place waits) {target : TargetId} {id : SessionId}
    (assigning : phase.assigning? = some (target, id)) :
    place ∈ turn.inside ∧ waits = false ∧ table.NoOther target id := by
  cases phase with
  | assigning =>
      cases assigning
      exact placed
  | _ => cases assigning

theorem Placed.of_asks {table : SessionTable} {turn : Turnstile} {place : Nat} {waits : Bool}
    (placed : phase.Placed table turn place waits) {parent : SessionId} {target : TargetId}
    (asks : phase.asks? = some (parent, target)) : place ∈ turn.inside ∧ table.forTarget? target = none := by
  cases phase with
  | asking =>
      cases asks
      exact placed
  | _ => cases asks

theorem Runs.settled? (runs : phase.Runs rest) : rest.settled? = phase.settled? := by
  cases phase with
  | finished => obtain rfl := runs.of_finished; rfl
  | leaving =>
      obtain ⟨next, rfl, done⟩ := runs.of_leaving
      simp [ClientProgram.settled?, done, CallPhase.settled?]
  | assigning id =>
      obtain ⟨next, rfl, onward⟩ := runs.of_step rfl
      obtain ⟨last, same, done⟩ := (onward ()).of_leaving
      simp [ClientProgram.settled?, same, done, CallPhase.settled?, Except.map]
  | _ =>
      obtain ⟨next, rfl, -⟩ := runs.of_step rfl
      rfl

theorem Runs.storing? (runs : phase.Runs rest) : rest.storing? = phase.storing? := by
  cases phase with
  | finished => obtain rfl := runs.of_finished; rfl
  | _ =>
      obtain ⟨next, rfl, -⟩ := runs.of_step rfl
      rfl

theorem Runs.assigning? (runs : phase.Runs rest) : rest.assigning? = phase.assigning? := by
  cases phase with
  | finished => obtain rfl := runs.of_finished; rfl
  | _ =>
      obtain ⟨next, rfl, -⟩ := runs.of_step rfl
      rfl

theorem Runs.asks? (runs : phase.Runs rest) : rest.asks? = phase.asks? := by
  cases phase with
  | finished => obtain rfl := runs.of_finished; rfl
  | _ =>
      obtain ⟨next, rfl, -⟩ := runs.of_step rfl
      rfl

end CallPhase

namespace Pace

variable {table later : SessionTable} {turn after : Turnstile} {place : Nat} {errand : Errand} {waits waits' : Bool}
  {phase phase' : CallPhase errand} {move : SessionMove}

theorem table_cases (pace : Pace table turn place waits phase move later after waits' phase') :
    (later = table ∨ ∃ id, later = table.forget id) ∨
      (∃ session, move = .proceed place ∧ phase.storing? = some session ∧ later = table.store session) ∨
      ∃ target id, move = .proceed place ∧ phase.assigning? = some (target, id) ∧ later = table.assign target id := by
  cases pace with
  | stored id => exact .inr (.inl ⟨_, rfl, rfl, rfl⟩)
  | assigned id => exact .inr (.inr ⟨_, _, rfl, rfl, rfl⟩)
  | forgot => exact .inl (.inr ⟨_, rfl⟩)
  | _ => exact .inl (.inl rfl)

theorem granted_of_storing (pace : Pace table turn place waits phase move later after waits' phase')
    {session : Session} (storing : phase'.storing? = some session) :
    ∃ target parent answer id, move = .answer place (.ok answer) ∧ waits = true ∧
      phase.asks? = some (parent, target) ∧ SessionId.ofAttached? answer = some id ∧
      session = .attached target parent id ∧ later = table := by
  cases pace with
  | @answered target parent outcome =>
      rcases CallPhase.answered_cases target parent outcome with ⟨answer, id, rfl, read, same⟩ | ⟨error, -, same⟩
      · rw [same] at storing
        cases storing
        exact ⟨target, parent, answer, id, rfl, rfl, rfl, read, rfl, rfl⟩
      · rw [same] at storing
        cases storing
  | _ => cases storing

theorem stored_of_assigning (pace : Pace table turn place waits phase move later after waits' phase')
    {target : TargetId} {id : SessionId} (assigning : phase'.assigning? = some (target, id)) :
    ∃ session, move = .proceed place ∧ phase.storing? = some session ∧ session.target = some target ∧
      session.id = id ∧ later = table.store session := by
  cases pace with
  | stored id =>
      cases assigning
      exact ⟨_, rfl, rfl, rfl, rfl, rfl⟩
  | @answered target parent outcome =>
      rcases CallPhase.answered_cases target parent outcome with ⟨_, _, -, -, same⟩ | ⟨_, -, same⟩ <;>
        · rw [same] at assigning
          cases assigning
  | _ => cases assigning

theorem given_of_settled {target : TargetId} {parent : SessionId}
    {phase phase' : CallPhase (.attach target parent)}
    (pace : Pace table turn place waits phase move later after waits' phase') {result : Option Session}
    (settled : phase'.settled? = some (.ok result)) :
    phase.settled? = some (.ok result) ∨
      ∃ session, result = some session ∧
        (table.forTarget? target = some session ∨ phase.storing? = some session ∧ session.target = some target) := by
  cases pace with
  | found session known | foundAgain session known =>
      cases settled
      exact .inr ⟨session, rfl, .inl known⟩
  | answered outcome =>
      rcases CallPhase.answered_cases target parent outcome with ⟨answer, id, -, -, same⟩ | ⟨error, -, same⟩ <;>
        · rw [same] at settled
          cases settled
  | stored id =>
      cases settled
      exact .inr ⟨_, rfl, .inr ⟨rfl, rfl⟩⟩
  | assigned | left => exact .inl settled
  | missed | entered | queued | missedAgain | asked => cases settled

end Pace

/-- A session that the browser granted to the caller of a place, in answer to its request. -/
structure Grant where
  place : Nat
  target : TargetId
  parent : SessionId
  id : SessionId
deriving DecidableEq, Repr

def Grant.session (grant : Grant) : Session := .attached grant.target grant.parent grant.id

namespace Sessions

/-- The request to attach that is under way while its caller waits for it: the session in which the browser was
asked, and the target. -/
def flight? (sessions : Sessions) (place : Nat) : Option (SessionId × TargetId) :=
  ((sessions.live? place).filter Caller.waits).bind fun caller => caller.rest.asks?

/-- The grant that a move is, if the caller still waits for it. -/
def grant? (sessions : Sessions) : SessionMove → Option Grant
  | .answer place (.ok answer) => do
      let (parent, target) ← sessions.flight? place
      let id ← SessionId.ofAttached? answer
      return ⟨place, target, parent, id⟩
  | _ => none

def grants (sessions : Sessions) : List SessionMove → List Grant
  | [] => []
  | move :: moves => (sessions.grant? move).toList ++ (sessions.step move).grants moves

@[simp]
theorem grants_nil (sessions : Sessions) : sessions.grants [] = [] := rfl

@[simp]
theorem grants_cons (sessions : Sessions) (move : SessionMove) (moves : List SessionMove) :
    sessions.grants (move :: moves) = (sessions.grant? move).toList ++ (sessions.step move).grants moves := rfl

variable {sessions : Sessions}

theorem flight?_eq_some_iff {place : Nat} {parent : SessionId} {target : TargetId} :
    sessions.flight? place = some (parent, target) ↔
      ∃ caller, sessions.live? place = some caller ∧ caller.waits = true ∧
        caller.rest.asks? = some (parent, target) := by
  simp [flight?, Option.bind_eq_some_iff, Option.filter_eq_some_iff, and_assoc]

theorem grant?_eq_some_iff {move : SessionMove} {grant : Grant} :
    sessions.grant? move = some grant ↔
      ∃ answer, move = .answer grant.place (.ok answer) ∧
        sessions.flight? grant.place = some (grant.parent, grant.target) ∧
        SessionId.ofAttached? answer = some grant.id := by
  obtain ⟨place, target, parent, id⟩ := grant
  constructor
  · intro granted
    unfold grant? at granted
    split at granted
    next place' answer =>
      simp only [Option.bind_eq_bind, Option.bind_eq_some_iff] at granted
      obtain ⟨⟨parent', target'⟩, flight, id', read, same⟩ := granted
      cases same
      exact ⟨answer, rfl, flight, read⟩
    next => cases granted
  · rintro ⟨answer, rfl, flight, read⟩
    simp [grant?, flight, read]

end Sessions

end RemoteDom
