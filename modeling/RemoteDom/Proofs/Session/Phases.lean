import RemoteDom.Proofs.Session.Callers
import RemoteDom.Proofs.Session.Table
import RemoteDom.Proofs.Session.Turn

/-! The phases of a call. An attach looks for a session, takes its turn, looks again, asks the browser, stores what
it is given, assigns the target to it and leaves; a detach recalls the parent, asks the browser and forgets. All that
a move of callers can do is listed by phases. -/

namespace RemoteDom

inductive CallPhase : Errand → Type where
  | looking {target : TargetId} {parent : SessionId} : CallPhase (.attach target parent)
  | entering {target : TargetId} {parent : SessionId} : CallPhase (.attach target parent)
  | lookingAgain {target : TargetId} {parent : SessionId} : CallPhase (.attach target parent)
  | asking {target : TargetId} {parent : SessionId} : CallPhase (.attach target parent)
  | storing {target : TargetId} {parent : SessionId} (id : SessionId) : CallPhase (.attach target parent)
  | assigning {target : TargetId} {parent : SessionId} (id : SessionId) : CallPhase (.attach target parent)
  | leaving {target : TargetId} {parent : SessionId} (outcome : Except Error Session) :
      CallPhase (.attach target parent)
  | recalling {id : SessionId} : CallPhase (.detach id)
  | detaching {id : SessionId} (parent : SessionId) : CallPhase (.detach id)
  | forgetting {id : SessionId} (outcome : Except Error (Option Session)) : CallPhase (.detach id)
  | finished {errand : Errand} (outcome : Except Error (Option Session)) : CallPhase errand

def Session.attached (target : TargetId) (parent id : SessionId) : Session := ⟨id, some target, some parent⟩

namespace CallPhase

variable {errand : Errand}

def opening : (errand : Errand) → CallPhase errand
  | .attach _ _ => .looking
  | .detach _ => .recalling

/-- What the end of a request to attach leads to. -/
def answered {target : TargetId} {parent : SessionId} : Except Error Json → CallPhase (.attach target parent)
  | .error error => .leaving (.error error)
  | .ok answer =>
      match SessionId.ofAttached? answer with
      | some id => .storing id
      | none => .leaving (.error .json)

theorem answered_cases (target : TargetId) (parent : SessionId) (outcome : Except Error Json) :
    (∃ answer id, outcome = .ok answer ∧ SessionId.ofAttached? answer = some id ∧
        (answered outcome : CallPhase (.attach target parent)) = .storing id) ∨
      ∃ error, outcome.toOption.bind SessionId.ofAttached? = none ∧
        (answered outcome : CallPhase (.attach target parent)) = .leaving (.error error) := by
  cases outcome with
  | error error => exact .inr ⟨error, rfl, rfl⟩
  | ok answer =>
      cases found : SessionId.ofAttached? answer with
      | some id => exact .inl ⟨answer, id, rfl, found, by simp [answered, found]⟩
      | none => exact .inr ⟨.json, by simp [Except.toOption, found], by simp [answered, found]⟩

/-- The next act, and the phase that each answer leads to. -/
def step : CallPhase errand → Option ((act : Act) × (act.Answer → CallPhase errand))
  | @looking target parent => some ⟨.sessionForTarget target, fun
      | some session => .finished (.ok (some session))
      | none => .entering⟩
  | entering => some ⟨.enterAttach, fun _ => .lookingAgain⟩
  | @lookingAgain target parent => some ⟨.sessionForTarget target, fun
      | some session => .leaving (.ok session)
      | none => .asking⟩
  | @asking target parent => some ⟨.request parent (.attachToTarget target true), answered⟩
  | @storing target parent id => some ⟨.store (.attached target parent id), fun _ => .assigning id⟩
  | @assigning target parent id => some ⟨.assign target id, fun _ => .leaving (.ok (.attached target parent id))⟩
  | leaving outcome => some ⟨.leaveAttach, fun _ => .finished (outcome.map some)⟩
  | @recalling id => some ⟨.session id, fun known => .detaching ((known.bind Session.parent).getD .topLevel)⟩
  | @detaching id parent => some ⟨.request parent (.detachFromTarget id),
      fun outcome => .forgetting (outcome.map fun _ => none)⟩
  | @forgetting id outcome => some ⟨.forget id, fun _ => .finished outcome⟩
  | finished _ => none

/-- A program goes on from the phase: act by act it does what the phases do. -/
inductive Runs : CallPhase errand → ClientProgram (Except Error (Option Session)) → Prop
  | done (outcome : Except Error (Option Session)) : Runs (finished outcome) (.done outcome)
  | acts {phase : CallPhase errand} {act : Act} {after : act.Answer → CallPhase errand}
      {next : act.Answer → ClientProgram (Except Error (Option Session))} (step : phase.step = some ⟨act, after⟩)
      (onward : ∀ answer, Runs (after answer) (next answer)) : Runs phase (.act act next)

variable {rest : ClientProgram (Except Error (Option Session))}

theorem Runs.of_step {phase : CallPhase errand} {act : Act} {after : act.Answer → CallPhase errand}
    (runs : phase.Runs rest) (step : phase.step = some ⟨act, after⟩) :
    ∃ next, rest = .act act next ∧ ∀ answer, (after answer).Runs (next answer) := by
  cases runs with
  | done => cases step
  | @acts _ _ _ next other onward =>
      cases other.symm.trans step
      exact ⟨next, rfl, onward⟩

theorem Runs.of_finished {outcome : Except Error (Option Session)}
    (runs : (finished outcome : CallPhase errand).Runs rest) :
    rest = .done outcome := by
  cases runs with
  | done => rfl
  | acts step => cases step

theorem Runs.of_leaving {target : TargetId} {parent : SessionId} {outcome : Except Error Session}
    (runs : (leaving outcome : CallPhase (.attach target parent)).Runs rest) :
    ∃ next, rest = .act .leaveAttach next ∧ next () = .done (outcome.map some) := by
  obtain ⟨next, same, onward⟩ := runs.of_step rfl
  exact ⟨next, same, (onward ()).of_finished⟩

private theorem runs_leaving {target : TargetId} {parent : SessionId} (outcome : Except Error Session) :
    (leaving outcome : CallPhase (.attach target parent)).Runs
      (.act .leaveAttach fun _ => .done (outcome.map some)) :=
  .acts rfl fun _ => .done _

/-- The phases are those of the programs that clients run. -/
theorem runs_opening (errand : Errand) : (opening errand).Runs errand.program := by
  cases errand with
  | attach target parent =>
      refine .acts rfl fun known => ?_
      cases known with
      | some session => exact .done _
      | none =>
          refine .acts rfl fun _ => .acts rfl fun known => ?_
          cases known with
          | some session => exact runs_leaving (.ok session)
          | none =>
              refine .acts rfl fun answer => ?_
              cases answer with
              | error error => exact runs_leaving (.error error)
              | ok answer =>
                  dsimp only [answered, Program.bind, ExceptT.bindCont]
                  generalize SessionId.ofAttached? answer = found
                  cases found with
                  | some id => exact .acts rfl fun _ => .acts rfl fun _ => runs_leaving _
                  | none => exact runs_leaving (.error .json)
  | detach id =>
      refine .acts rfl fun known => .acts rfl fun outcome => .acts rfl fun _ => ?_
      cases outcome <;> exact .done _

end CallPhase

/-- Where a caller stands in each phase, and what it may rely on. -/
def CallPhase.Placed (table : SessionTable) (turn : Turnstile) (place : Nat) (waits : Bool) {errand : Errand} :
    CallPhase errand → Prop
  | looking | recalling | forgetting _ | finished _ => turn.Outside place ∧ waits = false
  | detaching _ => turn.Outside place
  | entering => if waits then place ∈ turn.inside ∨ place ∈ turn.line else turn.Outside place
  | lookingAgain => place ∈ turn.inside ∧ waits = false
  | @asking target _ => place ∈ turn.inside ∧ table.forTarget? target = none
  | @storing target _ _ => place ∈ turn.inside ∧ waits = false ∧ table.forTarget? target = none
  | @assigning target _ id => place ∈ turn.inside ∧ waits = false ∧ table.NoOther target id
  | @leaving target _ outcome =>
      place ∈ turn.inside ∧ waits = false ∧ ∀ error, outcome = .error error → table.forTarget? target = none

/-- What a caller at a place does in one move, by phases: what becomes of the table, of the turn, of whether it
waits, and of its phase. -/
inductive Pace (table : SessionTable) (turn : Turnstile) (place : Nat) : {errand : Errand} → Bool → CallPhase errand →
    SessionMove → SessionTable → Turnstile → Bool → CallPhase errand → Prop
  | found {target : TargetId} {parent : SessionId} {waits : Bool} (session : Session)
      (known : table.forTarget? target = some session) :
      Pace table turn place waits (.looking : CallPhase (.attach target parent)) (.proceed place) table turn false
        (.finished (.ok (some session)))
  | missed {target : TargetId} {parent : SessionId} {waits : Bool} (unknown : table.forTarget? target = none) :
      Pace table turn place waits (.looking : CallPhase (.attach target parent)) (.proceed place) table turn false
        .entering
  | entered {target : TargetId} {parent : SessionId} {waits : Bool} {reply : Turnstile.Reply} {later : Turnstile}
      (enters : (if waits then turn.ask place else turn.arrive place) = (reply, later)) (heard : reply ≠ .wait) :
      Pace table turn place waits (.entering : CallPhase (.attach target parent)) (.proceed place) table later false
        .lookingAgain
  | queued {target : TargetId} {parent : SessionId} {waits : Bool} {later : Turnstile}
      (enters : (if waits then turn.ask place else turn.arrive place) = (.wait, later)) :
      Pace table turn place waits (.entering : CallPhase (.attach target parent)) (.proceed place) table later true
        .entering
  | foundAgain {target : TargetId} {parent : SessionId} {waits : Bool} (session : Session)
      (known : table.forTarget? target = some session) :
      Pace table turn place waits (.lookingAgain : CallPhase (.attach target parent)) (.proceed place) table turn
        false (.leaving (.ok session))
  | missedAgain {target : TargetId} {parent : SessionId} {waits : Bool} (unknown : table.forTarget? target = none) :
      Pace table turn place waits (.lookingAgain : CallPhase (.attach target parent)) (.proceed place) table turn
        false .asking
  | asked {target : TargetId} {parent : SessionId} {waits : Bool} :
      Pace table turn place waits (.asking : CallPhase (.attach target parent)) (.proceed place) table turn true
        .asking
  | answered {target : TargetId} {parent : SessionId} (outcome : Except Error Json) :
      Pace table turn place true (.asking : CallPhase (.attach target parent)) (.answer place outcome) table turn
        false (.answered outcome)
  | stored {target : TargetId} {parent : SessionId} {waits : Bool} (id : SessionId) :
      Pace table turn place waits (.storing id : CallPhase (.attach target parent)) (.proceed place)
        (table.store (.attached target parent id)) turn false (.assigning id)
  | assigned {target : TargetId} {parent : SessionId} {waits : Bool} (id : SessionId) :
      Pace table turn place waits (.assigning id : CallPhase (.attach target parent)) (.proceed place)
        (table.assign target id) turn false (.leaving (.ok (.attached target parent id)))
  | left {target : TargetId} {parent : SessionId} {waits : Bool} (outcome : Except Error Session) :
      Pace table turn place waits (.leaving outcome : CallPhase (.attach target parent)) (.proceed place) table
        (turn.leave place) false (.finished (outcome.map some))
  | recalled {id : SessionId} {waits : Bool} :
      Pace table turn place waits (.recalling : CallPhase (.detach id)) (.proceed place) table turn false
        (.detaching (((table.session? id).bind Session.parent).getD .topLevel))
  | toldToDetach {id parent : SessionId} {waits : Bool} :
      Pace table turn place waits (.detaching parent : CallPhase (.detach id)) (.proceed place) table turn true
        (.detaching parent)
  | detached {id parent : SessionId} (outcome : Except Error Json) :
      Pace table turn place true (.detaching parent : CallPhase (.detach id)) (.answer place outcome) table turn false
        (.forgetting (outcome.map fun _ => none))
  | forgot {id : SessionId} {waits : Bool} (outcome : Except Error (Option Session)) :
      Pace table turn place waits (.forgetting outcome : CallPhase (.detach id)) (.proceed place) (table.forget id)
        turn false (.finished outcome)

namespace Sessions

/-- All that a move can do. -/
inductive Stride (sessions : Sessions) : SessionMove → Sessions → Prop
  | idle (move : SessionMove) : Stride sessions move sessions
  | called (errand : Errand) :
      Stride sessions (.call errand)
        { sessions with callers := sessions.callers ++ [⟨errand, errand.program, false, false⟩] }
  | heard (event : Event) :
      Stride sessions (.event event)
        { sessions with table := Rehearsal.World.applyNotice sessions.table event.notice }
  | abandoned {place : Nat} {caller : Caller} (live : sessions.live? place = some caller)
      (waits : caller.waits = true) :
      Stride sessions (.abandon place)
        ⟨sessions.table, sessions.turn.leave place,
          sessions.callers.set place ⟨caller.errand, caller.rest, true, true⟩⟩
  | paced {place : Nat} {caller : Caller} {move : SessionMove} {table : SessionTable} {turn : Turnstile}
      {waits : Bool} {phase after : CallPhase caller.errand} {rest : ClientProgram (Except Error (Option Session))}
      (live : sessions.live? place = some caller) (runs : phase.Runs caller.rest)
      (placed : phase.Placed sessions.table sessions.turn place caller.waits)
      (pace : Pace sessions.table sessions.turn place caller.waits phase move table turn waits after)
      (onward : after.Runs rest) :
      Stride sessions move ⟨table, turn, sessions.callers.set place ⟨caller.errand, rest, waits, false⟩⟩

variable {sessions : Sessions} {place : Nat} {caller : Caller}

/-- A caller in a phase makes a move of that phase, or none if its call is over or it waits for an answer. -/
theorem stride_proceed (live : sessions.live? place = some caller) {phase : CallPhase caller.errand}
    (runs : phase.Runs caller.rest) (placed : phase.Placed sessions.table sessions.turn place caller.waits) :
    Stride sessions (.proceed place) (sessions.step (.proceed place)) := by
  obtain ⟨errand, rest, waits, gone⟩ := caller
  have looked := runs
  simp only [step, live]
  cases phase with
  | finished outcome =>
      obtain rfl := runs.of_finished
      exact .idle _
  | @looking target parent =>
      obtain ⟨next, rfl, onward⟩ := runs.of_step rfl
      cases known : sessions.table.forTarget? target with
      | some session =>
          simp only [attempt, known]
          exact .paced live looked placed (.found session known) (onward (some session))
      | none =>
          simp only [attempt, known]
          exact .paced live looked placed (.missed known) (onward none)
  | entering =>
      obtain ⟨next, rfl, onward⟩ := runs.of_step rfl
      simp only [attempt]
      generalize enters : (if waits then sessions.turn.ask place else sessions.turn.arrive place) = entry
      obtain ⟨reply, later⟩ := entry
      by_cases stands : reply = .wait
      · subst stands
        exact .paced live looked placed (.queued enters) looked
      · simp only [if_neg stands]
        exact .paced live looked placed (.entered enters stands) (onward ())
  | @lookingAgain target parent =>
      obtain ⟨next, rfl, onward⟩ := runs.of_step rfl
      cases known : sessions.table.forTarget? target with
      | some session =>
          simp only [attempt, known]
          exact .paced live looked placed (.foundAgain session known) (onward (some session))
      | none =>
          simp only [attempt, known]
          exact .paced live looked placed (.missedAgain known) (onward none)
  | asking =>
      obtain ⟨next, rfl, onward⟩ := runs.of_step rfl
      exact .paced live looked placed .asked looked
  | storing id =>
      obtain ⟨next, rfl, onward⟩ := runs.of_step rfl
      exact .paced live looked placed (.stored id) (onward ())
  | assigning id =>
      obtain ⟨next, rfl, onward⟩ := runs.of_step rfl
      exact .paced live looked placed (.assigned id) (onward ())
  | leaving outcome =>
      obtain ⟨next, rfl, onward⟩ := runs.of_step rfl
      exact .paced live looked placed (.left outcome) (onward ())
  | recalling =>
      obtain ⟨next, rfl, onward⟩ := runs.of_step rfl
      exact .paced live looked placed .recalled (onward _)
  | detaching parent =>
      obtain ⟨next, rfl, onward⟩ := runs.of_step rfl
      exact .paced live looked placed .toldToDetach looked
  | forgetting outcome =>
      obtain ⟨next, rfl, onward⟩ := runs.of_step rfl
      exact .paced live looked placed (.forgot outcome) (onward ())

private theorem stride_answer (live : sessions.live? place = some caller) {phase : CallPhase caller.errand}
    (runs : phase.Runs caller.rest) (placed : phase.Placed sessions.table sessions.turn place caller.waits)
    (outcome : Except Error Json) :
    Stride sessions (.answer place outcome) (sessions.step (.answer place outcome)) := by
  obtain ⟨errand, rest, waits, gone⟩ := caller
  have looked := runs
  cases waits with
  | false =>
      have still : sessions.step (.answer place outcome) = sessions := by simp only [step, live]
      rw [still]
      exact .idle _
  | true =>
      simp only [step, live]
      cases phase with
      | finished => obtain rfl := runs.of_finished; exact .idle _
      | asking =>
          obtain ⟨next, rfl, onward⟩ := runs.of_step rfl
          exact .paced live looked placed (.answered outcome) (onward outcome)
      | detaching parent =>
          obtain ⟨next, rfl, onward⟩ := runs.of_step rfl
          exact .paced live looked placed (.detached outcome) (onward outcome)
      | looking | entering | lookingAgain | storing | assigning | leaving | recalling | forgetting =>
          obtain ⟨next, rfl, onward⟩ := runs.of_step rfl
          exact .idle _

theorem stride_step (sessions : Sessions) (move : SessionMove)
    (placed : ∀ place caller, sessions.live? place = some caller →
      ∃ phase : CallPhase caller.errand, phase.Runs caller.rest ∧
        phase.Placed sessions.table sessions.turn place caller.waits) :
    Stride sessions move (sessions.step move) := by
  cases move with
  | call errand => exact .called errand
  | event event => exact .heard event
  | proceed place =>
      cases live : sessions.live? place with
      | none => simpa only [step, live] using .idle _
      | some caller =>
          obtain ⟨phase, runs, placed⟩ := placed place caller live
          exact stride_proceed live runs placed
  | answer place outcome =>
      cases live : sessions.live? place with
      | none => simpa only [step, live] using .idle _
      | some caller =>
          obtain ⟨phase, runs, placed⟩ := placed place caller live
          exact stride_answer live runs placed outcome
  | abandon place =>
      cases live : sessions.live? place with
      | none => simpa only [step, live] using .idle _
      | some caller =>
          obtain ⟨errand, rest, waits, gone⟩ := caller
          cases waits with
          | false => simpa only [step, live] using .idle _
          | true => simpa only [step, live, put] using .abandoned live rfl

end Sessions

end RemoteDom
