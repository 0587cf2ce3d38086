import RemoteDom.Proofs.Connection.Steps

/-! Who gets which answer. Every call ends at most once and with an outcome of its own, and a number that was
answered or given up is never used again. -/

namespace RemoteDom

theorem Means.answer? {text : String} {slot : Slot} {outcome : Except Error Json}
    (meaning : Means text slot outcome) :
    ∃ answer, Incoming.answer? text = some (slot.id, answer) ∧ answer slot.method slot.session = outcome := by
  cases meaning with
  | @readable response read same =>
      exact ⟨response.outcome, by simp only [Incoming.answer?, read, same], rfl⟩
  | unreadable read =>
      have named : Incoming.responseId? text = some slot.id := by
        unfold Incoming.read at read
        unfold Incoming.responseId?
        cases parsed : Json.read? text with
        | none => simp [parsed] at read
        | some frame =>
            simp only [parsed, Option.bind_some] at read ⊢
            cases names : frame.get? "id" with
            | none =>
                simp only [names] at read
                split at read
                · split at read <;> cases read
                · cases read
            | some written =>
                simp only [names, Option.bind_some] at read ⊢
                split at read
                · cases read
                · split at read
                  next number => cases read; exact number
                  next => cases read
      exact ⟨fun _ _ => .error (.unreadableResponse slot.id), by simp [Incoming.answer?, read, named], rfl⟩

theorem Incoming.exists_means {text : String} {slot : Slot} (named : responseId? text = some slot.id) :
    ∃ outcome, Means text slot outcome := by
  rw [← fst_answer?] at named
  obtain ⟨⟨id, answer⟩, found, rfl⟩ := Option.map_eq_some_iff.mp named
  exact ⟨_, means_of_answer? found⟩

namespace Traffic

variable {traffic : Traffic} {place id : Nat} {call : Call}

theorem ended_runFrom (found : traffic.calls[place]? = some call) (ended : call.phase.isOver = true)
    (moves : List Move) : (traffic.runFrom moves).calls[place]? = some call := by
  induction moves generalizing traffic with
  | nil => exact found
  | cons move rest ih =>
      obtain ⟨phase, after, moved⟩ := after_step found move
      have same : phase = call.phase := moved.elim id fun stride => stride.eq_of_isOver ended
      exact ih (by rw [after, same])

/-- The number was given, its call is past making room for an answer, and no room is left. -/
structure Vacant (traffic : Traffic) (id : Nat) : Prop where
  used : ∃ (place : Nat) (call : Call), traffic.calls[place]? = some call ∧ call.phase.id? = some id ∧
    call.phase ≠ .numbered id
  no_slot : traffic.connection.slot? id = none

private theorem vacant_step (ledger : Ledger traffic.calls traffic.connection) (vacant : Vacant traffic id)
    (move : Move) : Vacant (traffic.step move) id := by
  obtain ⟨place, call, found, given, past⟩ := vacant.used
  constructor
  · obtain ⟨phase, after, rfl | stride⟩ := after_step found move
    · exact ⟨place, call, after, given, past⟩
    · exact ⟨place, _, after, stride.id? given, stride.not_numbered given past⟩
  · rw [Connection.slot?_eq_none_iff]
    rintro slot member rfl
    rcases slots_step member with before | ⟨other, owner, there, numbered⟩
    · exact Connection.slot?_eq_none_iff.mp vacant.no_slot slot before rfl
    · obtain rfl := ledger.numbers.distinct found there given (by rw [numbered]; rfl)
      exact past (Option.some.inj (found.symm.trans there) ▸ numbered)

private theorem vacant_runFrom (ledger : Ledger traffic.calls traffic.connection) (vacant : Vacant traffic id)
    (moves : List Move) : Vacant (traffic.runFrom moves) id := by
  induction moves generalizing traffic with
  | nil => exact vacant
  | cons move rest ih => exact ih (ledger_step ledger move) (vacant_step ledger vacant move)

theorem emptied_of_settles (ledger : Ledger traffic.calls traffic.connection) {slot : Slot} {move : Move}
    {outcome : Except Error Json} (had : traffic.connection.slot? slot.id = some slot)
    (settles : Settles traffic slot move outcome) :
    (traffic.step move).connection.slot? slot.id = none ∧
      (traffic.step move).connection.answer? slot.id = some outcome := by
  have unanswered : traffic.connection.answers.lookup slot.id = none := by
    refine Connection.answer?_eq_none_iff.mpr fun entry member same => ?_
    exact ledger.exclusive slot (Connection.mem_of_slot? had).1 entry member same.symm
  have told (answer : Slot → Except Error Json) :
      (traffic.connection.resolve slot.id answer).answer? slot.id = some (answer slot) := by
    simp [Connection.resolve_of_slot had, Connection.answer?, List.lookup_append, unanswered]
  cases settles with
  | @told text outcome listening meaning =>
      obtain ⟨answer, found, rfl⟩ := meaning.answer?
      simp only [step, listening, Loop.move, Connection.receive_of_answer found]
      exact ⟨Connection.slot?_resolve _, told fun slot => answer slot.method slot.session⟩
  | unwritten writing =>
      simp only [step, writing, Loop.move]
      exact ⟨Connection.slot?_resolve _, told fun _ => _⟩
  | stopped shut =>
      simp only [step, shut, Loop.move]
      refine ⟨rfl, ?_⟩
      rw [Connection.answer?_failPending, had, Connection.answer?, unanswered]
      rfl

private theorem settles_sole (ledger : Ledger traffic.calls traffic.connection) {slot : Slot} {move : Move}
    {outcome other : Except Error Json} (had : traffic.connection.slot? slot.id = some slot)
    (settles : Settles traffic slot move outcome) (settling : Settles traffic slot move other) :
    outcome = other := by
  obtain ⟨-, answered⟩ := emptied_of_settles ledger had settles
  obtain ⟨-, answers⟩ := emptied_of_settles ledger had settling
  exact Option.some.inj (answered.symm.trans answers)

private theorem vacant_of_settles (ledger : Ledger traffic.calls traffic.connection) {slot : Slot} {move : Move}
    {outcome : Except Error Json} (had : traffic.connection.slot? slot.id = some slot)
    (settles : Settles traffic slot move outcome) : Vacant (traffic.step move) slot.id := by
  obtain ⟨place, call, found, holds, -⟩ := ledger.owned slot (Connection.mem_of_slot? had).1
  have past : call.phase ≠ .numbered slot.id := by
    intro numbered
    rw [numbered] at holds
    cases holds
  refine ⟨⟨place, call, ?_, Phase.id?_of_holds? holds, past⟩, (emptied_of_settles ledger had settles).1⟩
  cases settles <;> exact found

private theorem no_slot_of_settles {before : List Move} {slot : Slot} {move : Move} {outcome : Except Error Json}
    (had : (run before).connection.slot? slot.id = some slot) (settles : Settles (run before) slot move outcome)
    (after : List Move) : (run (before ++ move :: after)).connection.slot? slot.id = none := by
  have ledger := ledger_run before
  rw [run_append, runFrom_cons]
  exact (vacant_runFrom (ledger_step ledger move) (vacant_of_settles ledger had settles) after).no_slot

/-- In some of the moves the slot was settled with the outcome. -/
def Settled (moves : List Move) (slot : Slot) (outcome : Except Error Json) : Prop :=
  ∃ before move after, moves = before ++ move :: after ∧
    (run before).connection.slot? slot.id = some slot ∧ Settles (run before) slot move outcome

private theorem settled_sole {moves : List Move} {slot : Slot} {outcome other : Except Error Json}
    (settled : Settled moves slot outcome) (again : Settled moves slot other) : outcome = other := by
  obtain ⟨before, move, after, parts, had, settles⟩ := settled
  obtain ⟨earlier, own, later, same, has, settling⟩ := again
  rcases List.append_eq_append_iff.mp (parts.symm.trans same) with ⟨between, rfl, rest⟩ | ⟨between, rfl, rest⟩
  · cases between with
    | nil =>
        rw [List.append_nil] at has settling
        obtain ⟨rfl, -⟩ := List.cons.inj rest
        exact settles_sole (ledger_run before) had settles settling
    | cons first between =>
        obtain ⟨rfl, -⟩ := List.cons.inj rest
        cases (no_slot_of_settles had settles between).symm.trans has
  · cases between with
    | nil =>
        rw [List.append_nil] at had settles
        obtain ⟨rfl, -⟩ := List.cons.inj rest
        exact settles_sole (ledger_run earlier) has settles settling
    | cons first between =>
        obtain ⟨rfl, -⟩ := List.cons.inj rest
        cases (no_slot_of_settles has settling between).symm.trans had

/-- How a call ended with its outcome: it was refused at once, its frame could not be queued, its deadline
passed, or its slot was settled. -/
inductive Ending (moves : List Move) (place : Nat) (call : Call) : Option Nat → Except Error Json → Prop
  | refused {before after : List Move} (parts : moves = before ++ after)
      (closed : (run before).connection.closed = true) :
      Ending moves place call none (.error .connectionClosed)
  | unqueued {before after : List Move} {id : Nat} (parts : moves = before ++ after)
      (accepting : (run before).connection.accepting = false) :
      Ending moves place call (some id) (.error .connectionClosed)
  | late {before after : List Move} {id deadline : Nat} (parts : moves = before ++ after)
      (watching : (run before).calls[place]? = some { call with phase := .watching id deadline })
      (passed : deadline ≤ (run before).now) : Ending moves place call (some id) (call.lateness id)
  | settled {id : Nat} {outcome : Except Error Json} (settled : Settled moves (call.slot id) outcome) :
      Ending moves place call (some id) outcome

theorem Settled.append {moves : List Move} {slot : Slot} {outcome : Except Error Json}
    (settled : Settled moves slot outcome) (more : List Move) : Settled (moves ++ more) slot outcome := by
  obtain ⟨before, move, after, rfl, had, settles⟩ := settled
  exact ⟨before, move, after ++ more, by simp, had, settles⟩

theorem Ending.append {moves : List Move} {given : Option Nat} {outcome : Except Error Json}
    (ending : Ending moves place call given outcome) (more : List Move) (phase : Phase) :
    Ending (moves ++ more) place { call with phase } given outcome := by
  cases ending with
  | refused parts closed => exact .refused (by rw [parts, List.append_assoc]) closed
  | unqueued parts accepting => exact .unqueued (by rw [parts, List.append_assoc]) accepting
  | late parts watching passed => exact .late (by rw [parts, List.append_assoc]) watching passed
  | settled settled => exact .settled (settled.append more)

private theorem settled_of_answer (moves : List Move) {outcome : Except Error Json}
    (found : (run moves).calls[place]? = some call) (holds : call.phase.holds? = some id)
    (answer : (id, outcome) ∈ (run moves).connection.answers) : Settled moves (call.slot id) outcome := by
  induction moves using List.reverseRecOn generalizing call with
  | nil => cases answer
  | append_singleton moves move ih =>
      rw [run_snoc] at found answer
      have ledger := ledger_run moves
      rcases before_step found with entering | ⟨before, was, same, moved⟩
      · rw [entering] at holds
        cases holds
      have held : before.phase.holds? = some id ∨ before.phase = .numbered id := by
        rcases moved with equal | stride
        · exact .inl (equal ▸ holds)
        · exact stride.holds? holds
      have given : before.phase.id? = some id := by
        rcases held with held | numbered
        · exact Phase.id?_of_holds? held
        · rw [numbered]; rfl
      rw [same]
      -- An answer that was there before was given to the same call, since a new number has none.
      rcases answers_step answer with old | ⟨slot, has, settles⟩
      · rcases held with held | numbered
        · exact (ih was held old).append [move]
        · have free := ledger.no_answer was given (by rw [numbered]; exact nofun)
          exact absurd rfl (Connection.answer?_eq_none_iff.mp free (id, outcome) old)
      · obtain ⟨rfl, -⟩ := ledger.slot_of_call was given has
        exact ⟨moves, move, [], rfl, has, settles⟩

private theorem ending_of_outcome (moves : List Move) {given : Option Nat} {outcome : Except Error Json}
    (found : (run moves).calls[place]? = some call) (certain : call.phase.outcome? = some (given, outcome)) :
    Ending moves place call given outcome := by
  induction moves using List.reverseRecOn generalizing call with
  | nil => cases found
  | append_singleton moves move ih =>
      rw [run_snoc] at found
      rcases before_step found with entering | ⟨before, was, same, moved⟩
      · rw [entering] at certain
        cases certain
      -- The outcome was certain before the last move, or that move is the one which decided it.
      have earlier (known : before.phase.outcome? = some (given, outcome)) :
          Ending (moves ++ [move]) place call given outcome := by
        rw [same]
        exact (ih was known).append [move] call.phase
      rcases moved with equal | stride
      · exact earlier (equal ▸ certain)
      rw [same]
      generalize call.phase = phase at stride certain
      generalize ((run moves).step move).connection = other at stride
      cases stride with
      | idle => exact (ih was certain).append [move] _
      | refused entering closed => cases certain; exact .refused rfl closed
      | unqueued reserved accepting => cases certain; exact .unqueued rfl accepting
      | answered waiting answer =>
          cases certain
          have settled := settled_of_answer moves was (by rw [waiting]; rfl) (Connection.mem_of_answer? answer)
          exact .settled (settled.append [move])
      | @late id deadline watching passed =>
          cases certain
          refine .late rfl ?_ passed
          rw [was, ← watching]
      | finished leaving =>
          cases certain
          exact (ih was (by rw [leaving]; rfl)).append [move] _
      | _ => cases certain

/-- Everything that holds of the calls on a connection, after any moves: numbers are given once; a call that
is over stays so; it ended in one of the ways in which a call can end; its number has neither slot nor answer
from then on; a frame changes nothing for the commands that it does not name; a frame that meets the slot of its
number leaves the answer for the caller and is the last to meet it; and a slot is settled with one outcome. -/
structure Correlated (moves : List Move) : Prop where
  distinct : ∀ (place other id : Nat) (first second : Call), (run moves).calls[place]? = some first →
    (run moves).calls[other]? = some second → first.phase.id? = some id → second.phase.id? = some id →
    place = other
  once : ∀ (place : Nat) (call : Call) (more : List Move), (run moves).calls[place]? = some call →
    call.phase.isOver = true → (run (moves ++ more)).calls[place]? = some call
  ending : ∀ (place : Nat) (call : Call) (given : Option Nat) (outcome : Except Error Json),
    (run moves).calls[place]? = some call → call.phase = .finished given outcome →
    Ending moves place call given outcome
  vacated : ∀ (place id : Nat) (call : Call) (more : List Move), (run moves).calls[place]? = some call →
    call.phase.isOver = true → call.phase.id? = some id →
    (run (moves ++ more)).connection.slot? id = none ∧ (run (moves ++ more)).connection.answer? id = none
  apart : ∀ (text : String) (id : Nat), Incoming.responseId? text ≠ some id →
    (run (moves ++ [.loop (.receive text)])).calls = (run moves).calls ∧
    (run (moves ++ [.loop (.receive text)])).connection.slot? id = (run moves).connection.slot? id ∧
    (run (moves ++ [.loop (.receive text)])).connection.answer? id = (run moves).connection.answer? id
  first : ∀ (text : String) (slot : Slot) (more : List Move), (run moves).loop = .listening →
    (run moves).connection.slot? slot.id = some slot → Incoming.responseId? text = some slot.id →
    (∃ outcome, Means text slot outcome ∧
      (run (moves ++ [.loop (.receive text)])).connection.answer? slot.id = some outcome) ∧
    (run (moves ++ [.loop (.receive text)] ++ more)).connection.slot? slot.id = none
  sole : ∀ (slot : Slot) (outcome other : Except Error Json), Settled moves slot outcome →
    Settled moves slot other → outcome = other

private theorem apart_receive (traffic : Traffic) {text : String} {id : Nat}
    (unnamed : Incoming.responseId? text ≠ some id) :
    (traffic.step (.loop (.receive text))).connection.slot? id = traffic.connection.slot? id ∧
      (traffic.step (.loop (.receive text))).connection.answer? id = traffic.connection.answer? id := by
  obtain ⟨connection, calls, loop, now⟩ := traffic
  cases loop with
  | listening =>
      show (connection.receive text).slot? id = connection.slot? id ∧
        (connection.receive text).answer? id = connection.answer? id
      cases told : Incoming.answer? text with
      | none =>
          obtain ⟨streams, same⟩ := Connection.receive_of_none connection told
          rw [same]
          exact ⟨rfl, rfl⟩
      | some answer =>
          have apart : id ≠ answer.1 := by
            rintro rfl
            exact unnamed (by rw [← Incoming.fst_answer?, told]; rfl)
          rw [Connection.receive_of_answer told]
          exact ⟨Connection.slot?_resolve_ne apart _, Connection.answer?_resolve_ne apart _⟩
  | _ => exact ⟨rfl, rfl⟩

/-- In all traffic, in whatever order callers and the connection do their steps and whatever frames come, every
call is correlated with its own answer. -/
theorem correlated_run (moves : List Move) : Correlated moves where
  distinct place other id first second := (ledger_run moves).numbers.distinct
  once place call more found ended := by
    rw [run_append]
    exact ended_runFrom found ended more
  ending place call given outcome found finished := by
    exact ending_of_outcome moves found (by rw [finished]; rfl)
  vacated place id call more found ended given := by
    have ledger := ledger_run (moves ++ more)
    have still : (run (moves ++ more)).calls[place]? = some call := by
      rw [run_append]
      exact ended_runFrom found ended more
    have free : call.phase.holds? ≠ some id := by
      rw [Phase.holds?_of_isOver ended]
      exact nofun
    exact ⟨ledger.no_slot still given free, ledger.no_answer still given free⟩
  apart text id unnamed := by
    rw [run_snoc]
    exact ⟨rfl, apart_receive (run moves) unnamed⟩
  first text slot more listening had named := by
    obtain ⟨outcome, meaning⟩ := Incoming.exists_means named
    have settles := Settles.told listening meaning
    have gone := no_slot_of_settles had settles more
    rw [run_snoc]
    refine ⟨⟨outcome, meaning, (emptied_of_settles (ledger_run moves) had settles).2⟩, ?_⟩
    simpa using gone
  sole slot outcome other := settled_sole

end Traffic

/-- The errors that a call can end with. -/
def Error.isCarried : Error → Bool
  | .protocol _ _ _ _ | .unreadableResponse _ | .connection _ | .connectionClosed | .requestTimeout _ _ _ => true
  | _ => false

theorem Error.not_capability_of_carried {error : Error} (carried : error.isCarried = true) :
    error.isCapability = false := by
  cases error <;> first | rfl | cases carried

/-- What a call for the command can end with, after any traffic on its connection. -/
def CallEnd (session : SessionId) (command : Command) (answer : Except Error Json) : Prop :=
  ∃ (moves : List Move) (place : Nat) (call : Call) (given : Option Nat),
    (Traffic.run moves).calls[place]? = some call ∧ call.session = session ∧ call.command = command ∧
      call.phase.outcome? = some (given, answer)

theorem Settles.isCarried {traffic : Traffic} {slot : Slot} {move : Move} {error : Error}
    (settles : Settles traffic slot move (.error error)) : error.isCarried = true := by
  generalize outcome : (Except.error error : Except Error Json) = answer at settles
  cases settles with
  | told listening meaning =>
      cases meaning with
      | readable read same =>
          unfold Response.outcome at outcome
          split at outcome
          · cases outcome
          · cases outcome; rfl
      | unreadable read => cases outcome; rfl
  | unwritten writing => cases outcome; rfl
  | stopped shut => cases outcome; rfl

theorem isCarried_of_callEnd {session : SessionId} {command : Command} {error : Error}
    (ended : CallEnd session command (.error error)) : error.isCarried = true := by
  obtain ⟨moves, place, call, given, found, -, -, certain⟩ := ended
  have ending := Traffic.ending_of_outcome moves found certain
  generalize outcome : (Except.error error : Except Error Json) = answer at ending
  cases ending with
  | refused parts closed => cases outcome; rfl
  | unqueued parts accepting => cases outcome; rfl
  | late parts watching passed => cases outcome; rfl
  | settled settled =>
      subst outcome
      obtain ⟨before, move, after, -, -, settles⟩ := settled
      exact settles.isCarried

end RemoteDom
