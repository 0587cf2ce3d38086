import RemoteDom.Proofs.Connection.Ledger
import RemoteDom.Proofs.Rehearsal.Turns

/-! The commands of a rehearsal are calls of one traffic: whatever tasks, watcher and browser do, a run of the traffic
leads to the connection that they share, and every task that waits for an answer is a call that waits for it. -/

namespace RemoteDom

namespace Call

variable {call : Call} {now id deadline : Nat} {connection : Connection}

private theorem id_of_send {session : SessionId} {command : Command} {queued : Connection}
    (sent : connection.send session command = (.ok id, queued)) : id = connection.nextId := by
  unfold Connection.send at sent
  split at sent
  · cases sent
  · simp only at sent
    split at sent
    · exact (Except.ok.inj (Prod.mk.inj sent).1).symm
    · cases sent

/-- A call that finds its answer gives it, and one that is late gives up. Either way nothing of it is left. -/
private theorem advance_of_answer {outcome : Except Error Json} (waiting : call.phase = .waiting id deadline)
    (answer : connection.answer? id = some outcome) :
    call.advance now connection 2 = ({ call with phase := .finished (some id) outcome }, connection.abandon id) := by
  simp [advance, proceed, waiting, answer]

private theorem advance_of_late (waiting : call.phase = .waiting id deadline) (nothing : connection.answer? id = none)
    (past : deadline ≤ now) :
    call.advance now connection 3 =
      ({ call with phase := .finished (some id) (call.lateness id) }, connection.abandon id) := by
  simp [advance, proceed, waiting, nothing, past, lateness]

end Call

namespace Traffic

variable {traffic : Traffic} {place : Nat} {call : Call}

private theorem runFrom_advance (found : traffic.calls[place]? = some call) (count : Nat) :
    traffic.runFrom (List.replicate count (.call place .proceed)) = { traffic with
      connection := (call.advance traffic.now traffic.connection count).2
      calls := traffic.calls.set place (call.advance traffic.now traffic.connection count).1 } := by
  induction count generalizing traffic call with
  | zero =>
      obtain ⟨inside, is⟩ := List.getElem?_eq_some_iff.mp found
      simp [Call.advance, ← is]
  | succ count ih =>
      have next : traffic.step (.call place .proceed) = { traffic with
          connection := (call.proceed traffic.now traffic.connection).2
          calls := traffic.calls.set place
            { call with phase := (call.proceed traffic.now traffic.connection).1 } } := by
        simp only [step, found]
        rfl
      rw [List.replicate_succ, runFrom_cons, next, ih (getElem?_moved found)]
      simp only [List.set_set]
      rfl

end Traffic

namespace Rehearsal

/-- The command whose answer a task waits for. -/
def Standing.command? : Standing → Option Nat
  | .blocked goal _ => goal.command?
  | _ => none

private theorem Standing.of_command? {standing : Standing} {id : Nat} (waits : standing.command? = some id) :
    ∃ deadline limit program, standing = .blocked (.answer id deadline limit) program := by
  cases standing with
  | blocked goal program =>
      cases goal with
      | answer id deadline limit =>
          obtain rfl := Option.some.inj waits
          exact ⟨deadline, limit, program, rfl⟩
      | time | attachTurn | place | task => cases waits
  | _ => cases waits

private theorem Standing.released_of_command? {standing : Standing} (none : standing.command? = none)
    (connection : Connection) : standing.released connection = connection := by
  unfold released
  split
  · cases none
  · rfl

structure Carried (scene : Scene) (traffic : Traffic) : Prop where
  connection : traffic.connection = scene.connection
  now : traffic.now = scene.now
  loop : traffic.loop = if scene.connected then .listening else .gone
  waits : ∀ {self id deadline limit : Nat} {program : Acting Shown},
    scene.standing self = .blocked (.answer id deadline limit) program →
      ∃ (place : Nat) (session : SessionId) (command : Command) (next : Except Error Json → Acting Shown),
        Sends session command program next ∧
          traffic.calls[place]? = some ⟨session, command, limit, .waiting id deadline⟩
  apart : ∀ {first second id : Nat}, (scene.standing first).command? = some id →
    (scene.standing second).command? = some id → first = second

namespace Carried

variable {scene later : Scene} {traffic : Traffic}

/-- Nobody begins to wait for an answer, and nobody's call is touched. -/
private theorem onward (carried : Carried scene traffic) (moves : List Move)
    (runs : traffic.runFrom moves = { traffic with
      connection := later.connection, now := later.now, loop := if later.connected then .listening else .gone })
    (standing : ∀ id, later.standing id = scene.standing id ∨ (later.standing id).command? = none) :
    ∃ moves, Carried later (traffic.runFrom moves) := by
  refine ⟨moves, ?_⟩
  rw [runs]
  refine ⟨rfl, rfl, rfl, fun {self _ _ _ _} stands => ?_, fun {first second _} one two => ?_⟩
  · rcases standing self with same | none
    · exact carried.waits (same ▸ stands)
    · rw [stands] at none
      cases none
  · rcases standing first with same | none
    · rcases standing second with other | none
      · exact carried.apart (same ▸ one) (other ▸ two)
      · rw [none] at two
        cases two
    · rw [none] at one
      cases one

private theorem streamed (carried : Carried scene traffic) {streams : Streams} {places : Turnstile} (moves : List Move)
    (runs : traffic.runFrom moves = traffic.withStreams streams) :
    ∃ moves, Carried { scene with connection := { traffic.connection with streams }, places }
      (traffic.runFrom moves) := by
  refine carried.onward moves ?_ fun _ => .inl rfl
  rw [runs, ← carried.now, ← carried.loop]
  rfl

private theorem command?_put (scene : Scene) (self : Nat) {standing : Standing} (none : standing.command? = none)
    (id : Nat) :
    (scene.put self standing).standing id = scene.standing id ∨
      ((scene.put self standing).standing id).command? = .none := by
  by_cases is : id = self
  · exact .inr (by simp [Scene.put, is, none])
  · exact .inl (by simp [Scene.put, is])

/-- The four last steps follow whatever made the loop leave. -/
private theorem stopped (carried : Carried scene traffic) (moves : List Move) {last : Connection}
    (left : traffic.runFrom moves = { traffic with connection := last, loop := .left }) :
    ∃ moves, Carried { scene with connection := last.stop, connected := false } (traffic.runFrom moves) := by
  refine carried.onward (moves ++ List.replicate 4 (.loop .exit)) ?_ fun _ => .inl rfl
  rw [Traffic.runFrom, List.foldl_append, ← Traffic.runFrom, ← Traffic.runFrom, left, Traffic.runFrom_exits rfl,
    ← carried.now]
  rfl

/-- The call at a place went on, and it is nobody's but that of the task. -/
private theorem moved (carried : Carried scene traffic) {moves : List Move} {self place : Nat} {standing : Standing}
    {call after : Call} {connection : Connection} (found : traffic.calls[place]? = some call)
    (own : ∀ {other id deadline : Nat}, call.phase = .waiting id deadline →
      (scene.standing other).command? = some id → other = self)
    (runs : traffic.runFrom moves = { traffic with connection, calls := traffic.calls.set place after })
    (waits : ∀ {id deadline limit : Nat} {program : Acting Shown},
      standing = .blocked (.answer id deadline limit) program →
        ∃ (session : SessionId) (command : Command) (next : Except Error Json → Acting Shown),
          Sends session command program next ∧ after = ⟨session, command, limit, .waiting id deadline⟩)
    (fresh : ∀ {other id : Nat}, standing.command? = some id → (scene.standing other).command? ≠ some id) :
    Carried { scene.put self standing with connection } (traffic.runFrom moves) := by
  have inside : place < traffic.calls.length := (List.getElem?_eq_some_iff.mp found).1
  rw [runs]
  refine ⟨rfl, carried.now, carried.loop, fun {other id _ _ _} stands => ?_, fun {first second id} one two => ?_⟩
  · by_cases is : other = self
    · simp only [Scene.put, if_pos is] at stands
      obtain ⟨session, command, next, sends, same⟩ := waits stands
      exact ⟨place, session, command, next, sends, by rw [← same]; exact List.getElem?_set_self inside⟩
    · simp only [Scene.put, if_neg is] at stands
      obtain ⟨there, session, command, next, sends, called⟩ := carried.waits stands
      have apart : there ≠ place := by
        rintro rfl
        obtain rfl := Option.some.inj (found.symm.trans called)
        exact is (own rfl (by rw [stands]; rfl))
      exact ⟨there, session, command, next, sends, by rw [← called]; exact List.getElem?_set_ne apart.symm⟩
  · by_cases is : first = self <;> by_cases too : second = self
    · rw [is, too]
    · simp only [Scene.put, if_pos is, if_neg too] at one two
      exact absurd two (fresh one)
    · simp only [Scene.put, if_neg is, if_pos too] at one two
      exact absurd one (fresh two)
    · simp only [Scene.put, if_neg is, if_neg too] at one two
      exact carried.apart one two

/-- No other task waits for the same answer. -/
private theorem sole (carried : Carried scene traffic) {self id deadline limit : Nat} {program : Acting Shown}
    (stands : scene.standing self = .blocked (.answer id deadline limit) program) {call : Call}
    (waiting : call.phase = .waiting id deadline) {other id' deadline' : Nat}
    (own : call.phase = .waiting id' deadline') (others : (scene.standing other).command? = some id') :
    other = self := by
  obtain ⟨rfl, rfl⟩ := Phase.waiting.inj (waiting.symm.trans own)
  exact carried.apart others (by rw [stands]; rfl)

/-- The call that a task waited for is over, and the task does not wait any more. -/
private theorem ended (carried : Carried scene traffic) {self id deadline limit place : Nat} {program : Acting Shown}
    (stands : scene.standing self = .blocked (.answer id deadline limit) program) {moves : List Move}
    {call after : Call} {standing : Standing} {connection : Connection} (found : traffic.calls[place]? = some call)
    (waiting : call.phase = .waiting id deadline)
    (runs : traffic.runFrom moves = { traffic with connection, calls := traffic.calls.set place after })
    (idle : standing.command? = none) :
    ∃ moves, Carried { scene.put self standing with connection } (traffic.runFrom moves) := by
  refine ⟨moves, carried.moved found (carried.sole stands waiting) runs (fun waits => ?_) fun own => ?_⟩
  · rw [waits] at idle
    cases idle
  · rw [idle] at own
    cases own

/-- A call is started for the task, and comes as far as that. -/
private theorem begun (carried : Carried scene traffic) (ledger : Ledger traffic.calls traffic.connection)
    {self count : Nat} {standing : Standing} {session : SessionId} {command : Command} (limit : Nat) {phase : Phase}
    {connection : Connection}
    (runs : (⟨session, command, limit, .entering⟩ : Call).advance traffic.now traffic.connection count =
      (⟨session, command, limit, phase⟩, connection))
    (waits : ∀ {id deadline limit' : Nat} {program : Acting Shown},
      standing = .blocked (.answer id deadline limit') program → id = traffic.connection.nextId ∧
        ∃ next : Except Error Json → Acting Shown,
          Sends session command program next ∧ limit = limit' ∧ phase = .waiting id deadline) :
    ∃ moves, Carried { scene.put self standing with connection } (traffic.runFrom moves) := by
  let call : Call := ⟨session, command, limit, .entering⟩
  let started : Traffic := { traffic with calls := traffic.calls ++ [call] }
  have there : started.calls[traffic.calls.length]? = some call := List.getElem?_concat_length
  have old {place : Nat} {found : Call} (is : traffic.calls[place]? = some found) :
      started.calls[place]? = some found := by
    rw [← is]
    exact List.getElem?_append_left (List.getElem?_eq_some_iff.mp is).1
  have before : Carried scene started := by
    refine ⟨carried.connection, carried.now, carried.loop, fun stands => ?_, carried.apart⟩
    obtain ⟨place, session, command, next, sends, called⟩ := carried.waits stands
    exact ⟨place, session, command, next, sends, old called⟩
  have ran : started.runFrom (List.replicate count (.call traffic.calls.length .proceed)) = { started with
      connection, calls := started.calls.set traffic.calls.length ⟨session, command, limit, phase⟩ } := by
    rw [Traffic.runFrom_advance there]
    simp only [started, call, runs]
  refine ⟨.start session command limit :: List.replicate count (.call traffic.calls.length .proceed), ?_⟩
  refine before.moved there (fun waiting => by cases waiting) ran (fun stands => ?_) fun {other id} own others => ?_
  · obtain ⟨-, next, sends, rfl, rfl⟩ := waits stands
    exact ⟨session, command, next, sends, rfl⟩
  · obtain ⟨deadline, limit', program, stands⟩ := Standing.of_command? own
    obtain ⟨deadline', limit'', program', waiting⟩ := Standing.of_command? others
    obtain ⟨place, session', command', next, -, called⟩ := carried.waits waiting
    exact absurd (ledger.numbers.below called rfl) (by simp [(waits stands).1])

theorem shift (carried : Carried scene traffic) (ledger : Ledger traffic.calls traffic.connection)
    (shift : Shift scene later) : ∃ moves, Carried later (traffic.runFrom moves) := by
  have still (id : Nat) : scene.standing id = scene.standing id ∨ (scene.standing id).command? = none := .inl rfl
  have listening (connected : scene.connected = true) : traffic.loop = .listening := by
    rw [carried.loop, connected]
    rfl
  have nothing : traffic.runFrom [] = { traffic with
      connection := scene.connection, now := scene.now, loop := if scene.connected then .listening else .gone } := by
    rw [← carried.connection, ← carried.now, ← carried.loop]
    rfl
  cases shift with
  | received connected text =>
      refine carried.onward [.loop (.receive text)] ?_ still
      simp [Traffic.step, Loop.move, listening connected, carried.connection, carried.now, connected]
  | wrote connected next =>
      refine carried.onward [.loop .beginWrite, .loop .endWrite] ?_ still
      rw [← carried.connection] at next
      simp [Traffic.step, Loop.move, listening connected, carried.now, connected, next]
  | stopped connected parting =>
      rw [← carried.connection] at parting
      cases parting with
      | plain => exact carried.stopped [.loop .leave] (by simp [Traffic.step, Loop.move, listening connected])
      | asked next =>
          exact carried.stopped [.loop .beginWrite] (by simp [Traffic.step, Loop.move, listening connected, next])
      | failed reason next =>
          exact carried.stopped [.loop .beginWrite, .loop (.failWrite reason)]
            (by simp [Traffic.step, Loop.move, listening connected, next])
  | @heeded stream event streams taken =>
      refine carried.onward [.takeEvent stream] ?_ still
      simp [Traffic.step, Traffic.withStreams, carried.connection, carried.now, carried.loop, taken]
  | touched touch =>
      rw [← carried.connection] at touch
      cases touch with
      | subscribed method session => exact carried.streamed [.subscribe method session] rfl
      | took stream => exact carried.streamed [.takeEvent stream] rfl
      | dropped stream => exact carried.streamed [.dropStream stream] rfl
      | shutDown =>
          refine carried.onward [.shutdown] ?_ still
          simp [Traffic.step, carried.now, carried.loop]
      | closed =>
          rw [carried.connection]
          exact carried.onward [] nothing still
  | @passed time later =>
      refine carried.onward [.pass (time - traffic.now)] ?_ still
      rw [← carried.now] at later
      simp [Traffic.step, carried.connection, carried.loop, Nat.add_sub_cancel' later]
  | numbered | arrived | asked | left => exact carried.onward [] nothing still
  | started | begun | went | minded | finished => exact carried.onward [] nothing (command?_put scene _ rfl)
  | queued => exact carried.onward [] nothing (command?_put scene _ rfl)
  | rested _ _ idle => exact carried.onward [] nothing (command?_put scene _ idle)
  -- a task waits before anyone else acts, so its call comes from the start to the wait at once
  | sent stands sends limit queued =>
      rw [← carried.connection] at queued
      rw [← carried.now]
      refine carried.begun ledger limit (Call.advance_of_send rfl queued) fun waits => ?_
      obtain ⟨same, rfl⟩ := Standing.blocked.inj waits
      obtain ⟨rfl, rfl, rfl⟩ := Waiting.answer.inj same
      exact ⟨Call.id_of_send queued, _, sends, rfl, rfl⟩
  | @unsent _ _ _ _ session command stands sends limit _ _ refused =>
      let call : Call := ⟨session, command, limit, .entering⟩
      rw [← carried.connection] at refused
      obtain ⟨given, runs⟩ : ∃ given, call.advance traffic.now traffic.connection 5 = _ :=
        Call.advance_of_send_error rfl refused
      exact carried.begun ledger limit runs fun stands => by cases stands
  | answered stands sends answer =>
      obtain ⟨place, session, command, next, same, called⟩ := carried.waits stands
      rw [← carried.connection] at answer
      rw [← carried.connection]
      have runs := Traffic.runFrom_advance called 2
      rw [Call.advance_of_answer rfl answer] at runs
      exact carried.ended stands called rfl runs rfl
  | late stands sends nothing past =>
      obtain ⟨place, session, command, next, same, called⟩ := carried.waits stands
      rw [← carried.connection] at nothing
      rw [← carried.now] at past
      rw [← carried.connection]
      have runs := Traffic.runFrom_advance called 3
      rw [Call.advance_of_late rfl nothing past] at runs
      exact carried.ended stands called rfl runs rfl
  | @cancelled self rests =>
      cases waits : (scene.standing self).command? with
      | none =>
          rw [Standing.released_of_command? waits]
          exact carried.onward [] nothing (command?_put scene self rfl)
      | some id =>
          obtain ⟨deadline, limit, program, stands⟩ := Standing.of_command? waits
          obtain ⟨place, session, command, next, -, called⟩ := carried.waits stands
          have dropped : traffic.runFrom [.call place .drop] = { traffic with
              connection := traffic.connection.abandon id
              calls := traffic.calls.set place ⟨session, command, limit, .dropped (some id)⟩ } := by
            simp [Traffic.step, called, Call.move, Call.drop]
          obtain ⟨moves, gone⟩ := carried.ended stands called rfl dropped (show Standing.over.command? = none from rfl)
          rw [stands, ← carried.connection]
          exact ⟨moves, gone.connection, gone.now, gone.loop, gone.waits, gone.apart⟩

/-- Whatever happens to what tasks share, a run of the traffic goes the same way. -/
theorem course {moves : List Move} (carried : Carried scene (Traffic.run moves)) (course : Course scene later) :
    ∃ moves, Carried later (Traffic.run moves) := by
  induction course with
  | refl => exact ⟨moves, carried⟩
  | tail _ shift ih =>
      obtain ⟨moves, carried⟩ := ih
      obtain ⟨more, carried⟩ := carried.shift (Traffic.ledger_run moves) shift
      exact ⟨moves ++ more, Traffic.run_append moves more ▸ carried⟩

end Carried

namespace World.Reached

variable {world : World} {setting : Setting} {rules : List Rule} {steps : List Step}

/-- The watcher's two streams are subscribed to before the first step. -/
theorem carried (reached : Reached setting rules steps world) :
    ∃ moves, Carried world.scene (Traffic.run moves) := by
  have idle (self : Nat) : ((beginning setting rules steps).standing self).command? = none := by
    rw [beginning, standing_start]
    split <;> rfl
  have before : Carried (beginning setting rules steps).scene
      (Traffic.run [.subscribe Event.detachedMethod none, .subscribe Event.destroyedMethod none]) := by
    refine ⟨rfl, rfl, rfl, fun {self _ _ _ _} stands => ?_, fun {first _ _} waits => ?_⟩
    · have none := idle self
      rw [show (beginning setting rules steps).standing self = _ from stands] at none
      cases none
    · cases (idle first).symm.trans waits
  exact before.course reached.course

/-- The number that a task waits for has a slot or an answer, and no other task waits for it. -/
theorem awaited (reached : Reached setting rules steps world) {self id : Nat}
    (waits : (world.standing self).command? = some id) :
    ((∃ slot ∈ world.stage.connection.slots, slot.id = id) ∨
        ∃ entry ∈ world.stage.connection.answers, entry.1 = id) ∧
      ∀ other, (world.standing other).command? = some id → other = self := by
  obtain ⟨moves, carried⟩ := reached.carried
  obtain ⟨deadline, limit, program, stands⟩ := Standing.of_command? waits
  obtain ⟨place, session, command, next, -, called⟩ := carried.waits stands
  have connection : (Traffic.run moves).connection = world.stage.connection := carried.connection
  rw [← connection]
  exact ⟨(Traffic.ledger_run moves).awaited called rfl, fun other too => carried.apart too waits⟩

end World.Reached

end Rehearsal

end RemoteDom
