import RemoteDom.Proofs.Connection.Fate

/-! Nothing hangs after the connection goes away, in whatever order the last steps of its loop follow those of
callers and listeners. -/

namespace RemoteDom

namespace Loop

private theorem eq_gone {loop : Loop} (left : loop.hasLeft = true) (done : loop.exits = 0) : loop = .gone := by
  cases loop with
  | gone => rfl
  | listening | writing => cases left
  | left | marked | shut | drained => cases done

private theorem isMarked_iff {loop : Loop} : loop.isMarked = true ↔ loop.hasLeft = true ∧ loop.exits ≤ 3 := by
  cases loop <;> simp [isMarked, hasLeft, exits]

private theorem isDrained_iff {loop : Loop} : loop.isDrained = true ↔ loop.hasLeft = true ∧ loop.exits ≤ 1 := by
  cases loop <;> simp [isDrained, hasLeft, exits]

private theorem isShut_of_isDrained {loop : Loop} (drained : loop.isDrained = true) : loop.isShut = true := by
  cases loop <;> first | rfl | cases drained

end Loop

namespace Phase

def togo : Phase → Nat
  | .finished _ _ | .dropped _ => 0
  | .entering | .leaving _ _ => 1
  | .reserved _ | .waiting _ _ => 2
  | .numbered _ | .watching _ _ => 3
  | .admitted => 4

private theorem togo_le (phase : Phase) : phase.togo ≤ 4 := by
  cases phase <;> simp [togo]

private theorem isOver_of_togo {phase : Phase} (done : phase.togo = 0) : phase.isOver = true := by
  cases phase <;> first | rfl | cases done

end Phase

/-- Where nothing is accepted and every frame that was queued has its answer, each step brings a call nearer to
its end. -/
private theorem Call.togo_proceed {call : Call} {now : Nat} {connection : Connection}
    (closed : connection.closed = true) (accepting : connection.accepting = false)
    (answered : ∀ id deadline, call.phase = .waiting id deadline → connection.answer? id ≠ none) :
    (call.proceed now connection).1.togo ≤ call.phase.togo - 1 := by
  obtain ⟨session, command, limit, phase⟩ := call
  cases phase with
  | entering => simp [proceed, closed, Phase.togo]
  | reserved id => simp [proceed, Connection.enqueue, accepting, Phase.togo]
  | waiting id deadline =>
      obtain ⟨outcome, answer⟩ := Option.ne_none_iff_exists'.mp (answered id deadline rfl)
      simp [proceed, answer, Phase.togo]
  | watching id deadline =>
      by_cases passed : deadline ≤ now
      · simp [proceed, passed, Phase.togo]
      · simp [proceed, passed, Phase.togo]
  | admitted | numbered | leaving | finished | dropped => exact Nat.le_refl _

private theorem Call.togo_drop (call : Call) (connection : Connection) :
    (call.drop connection).1.togo ≤ call.phase.togo := by
  obtain ⟨session, command, limit, phase⟩ := call
  cases phase <;> first | exact Nat.le_refl _ | exact Nat.zero_le _

namespace Traffic

variable {traffic : Traffic} {place : Nat} {call : Call}

private theorem isMarked_runFrom (marked : traffic.loop.isMarked = true) (moves : List Move) :
    (traffic.runFrom moves).loop.isMarked = true := by
  obtain ⟨left, few⟩ := Loop.isMarked_iff.mp marked
  obtain ⟨still, exits⟩ := left_runFrom left moves
  exact Loop.isMarked_iff.mpr ⟨still, by omega⟩

private theorem closed_of_isMarked {moves : List Move} (marked : (run moves).loop.isMarked = true) (more : List Move) :
    (run (moves ++ more)).connection.closed = true := by
  rw [(Winding.run _).closed, run_append]
  exact isMarked_runFrom marked more

private theorem isDrained_step (drained : traffic.loop.isDrained = true) (move : Move) :
    (traffic.step move).loop.isDrained = true := by
  obtain ⟨left, few⟩ := Loop.isDrained_iff.mp drained
  obtain ⟨still, exits⟩ := left_step left move
  exact Loop.isDrained_iff.mpr ⟨still, by omega⟩

private theorem answered_of_drained (ledger : Ledger traffic.calls traffic.connection) (winding : Winding traffic)
    (drained : traffic.loop.isDrained = true) (found : traffic.calls[place]? = some call) {id deadline : Nat}
    (waiting : call.phase = .waiting id deadline) : traffic.connection.answer? id ≠ none := by
  have given : call.phase.id? = some id := by rw [waiting]; rfl
  have awaits : call.phase.awaits? = some id := by rw [waiting]; rfl
  have vacant := winding.drained drained found (by rw [waiting]; rfl) given
  intro unanswered
  rcases ledger.awaited found awaits with ⟨slot, member, same⟩ | ⟨entry, member, same⟩
  · exact Connection.slot?_eq_none_iff.mp vacant slot member same
  · exact Connection.answer?_eq_none_iff.mp unanswered entry member same

private theorem togo_step (ledger : Ledger traffic.calls traffic.connection) (winding : Winding traffic)
    (drained : traffic.loop.isDrained = true) (found : traffic.calls[place]? = some call) (move : Move) :
    ∃ phase, (traffic.step move).calls[place]? = some { call with phase } ∧
      phase.togo ≤ call.phase.togo - if move = .call place .proceed then 1 else 0 := by
  cases move with
  | call other own =>
      by_cases here : other = place
      · subst here
        have moved : (traffic.step (.call other own)).calls[other]? =
            some { call with phase := (call.move traffic.now traffic.connection own).1 } := by
          simp only [step, found]
          exact getElem?_moved found
        refine ⟨_, moved, ?_⟩
        cases own with
        | proceed =>
            have shut := Loop.isShut_of_isDrained drained
            have marked : traffic.loop.isMarked = true := by
              obtain ⟨left, few⟩ := Loop.isDrained_iff.mp drained
              exact Loop.isMarked_iff.mpr ⟨left, by omega⟩
            simp only [if_true]
            apply Call.togo_proceed (winding.closed.trans marked) (by rw [winding.accepting, shut]; rfl)
            intro id deadline waiting
            exact answered_of_drained ledger winding drained found waiting
        | drop => simpa [Call.move] using call.togo_drop traffic.connection
      · have stays := (getElem?_step_call_ne (fun same => here same.symm) own).trans found
        exact ⟨call.phase, stays, by simp [here]⟩
  | start session command limit =>
      refine ⟨call.phase, ?_, Nat.le_refl _⟩
      exact (List.getElem?_append_left (List.getElem?_eq_some_iff.mp found).1).trans found
  | loop | shutdown | subscribe | takeEvent | dropStream | pass => exact ⟨call.phase, found, Nat.le_refl _⟩

private theorem togo_runFrom (ledger : Ledger traffic.calls traffic.connection) (winding : Winding traffic)
    (drained : traffic.loop.isDrained = true) (found : traffic.calls[place]? = some call)
    (moves : List Move) :
    ∃ phase, (traffic.runFrom moves).calls[place]? = some { call with phase } ∧
      phase.togo ≤ call.phase.togo - moves.count (.call place .proceed) := by
  induction moves generalizing traffic call with
  | nil => exact ⟨call.phase, found, Nat.le_refl _⟩
  | cons move rest ih =>
      obtain ⟨next, after, nearer⟩ := togo_step ledger winding drained found move
      obtain ⟨phase, last, near⟩ :=
        ih (ledger_step ledger move) (winding.step ledger move) (isDrained_step drained move) after
      refine ⟨phase, last, ?_⟩
      simp only at near
      rw [List.count_cons]
      by_cases own : move = .call place .proceed
      · simp only [own, if_true, beq_self_eq_true] at nearer ⊢
        omega
      · simp only [own, if_false, beq_iff_eq] at nearer ⊢
        omega

private theorem refused_runFrom {moves more : List Move} (marked : (run moves).loop.isMarked = true)
    (absent : (run moves).calls[place]? = none) (found : (run (moves ++ more)).calls[place]? = some call) :
    call.phase = .entering ∨ call.phase = .finished none (.error .connectionClosed) ∨
      call.phase = .dropped none := by
  induction more using List.reverseRecOn generalizing call with
  | nil =>
      rw [List.append_nil, absent] at found
      cases found
  | append_singleton more move ih =>
      -- The flag was up before the last move, so no call was let in by it.
      rw [← List.append_assoc, run_snoc] at found
      have closed := closed_of_isMarked marked more
      rcases before_step found with entering | ⟨before, was, -, same | stride⟩
      · exact .inl entering
      · exact same ▸ ih was
      · rcases ih was with entering | ended
        · generalize call.phase = phase at stride
          generalize ((run (moves ++ more)).step move).connection = other at stride
          cases stride with
          | idle => exact .inl entering
          | refused => exact .inr (.inl rfl)
          | admitted phase accepted => rw [closed] at accepted; cases accepted
          | droppedFirst => exact .inr (.inr rfl)
          | numbered phase | reserved phase | queued phase | unqueued phase | answered phase
          | unanswered phase | late phase | early phase | finished phase | droppedNumbered phase =>
              cases entering.symm.trans phase
          | droppedAwaiting awaits => rw [entering] at awaits; cases awaits
        · have done : before.phase.isOver = true := by
            rcases ended with finished | dropped
            · rw [finished]; rfl
            · rw [dropped]; rfl
          exact .inr (stride.eq_of_isOver done ▸ ended)

def taken (traffic : Traffic) (stream : Nat) : List Move → List Streams.Taken
  | [] => []
  | move :: rest =>
      if move = .takeEvent stream then
        (traffic.connection.streams.take stream).1 :: (traffic.step move).taken stream rest
      else (traffic.step move).taken stream rest

private theorem remaining_step (gone : traffic.loop = .gone) {stream : Nat} {move : Move}
    (kept : move ≠ .dropStream stream) (untouched : move ≠ .takeEvent stream) :
    (traffic.step move).connection.streams.remaining stream =
      traffic.connection.streams.remaining stream := by
  cases move with
  | call place own =>
      cases found : traffic.calls[place]? with
      | none => rw [step_call_none found own]
      | some call =>
          obtain ⟨phase, connection, stride, same⟩ := step_call found own
          rw [same, stride.flags.2.2]
  | loop own =>
      have still : traffic.step (.loop own) = traffic := by
        simp only [step, gone, Loop.move]
        rw [← gone]
      rw [still]
  | shutdown =>
      obtain ⟨queue, same⟩ := traffic.step_shutdown
      rw [same]
  | subscribe method session => exact Streams.remaining_subscribe _ method session stream
  | takeEvent other =>
      exact Streams.remaining_take_ne _ fun same => untouched (congrArg Move.takeEvent same.symm)
  | dropStream other =>
      exact Streams.remaining_drop_ne fun same => kept (congrArg Move.dropStream same.symm)
  | start | pass => rfl

private theorem taken_of_gone (ledger : Ledger traffic.calls traffic.connection) (winding : Winding traffic)
    (gone : traffic.loop = .gone) {stream : Nat} {moves : List Move} (kept : .dropStream stream ∉ moves) :
    traffic.taken stream moves =
      ((traffic.connection.streams.remaining stream).take (moves.count (.takeEvent stream))).map .event ++
        List.replicate (moves.count (.takeEvent stream) -
          (traffic.connection.streams.remaining stream).length) .ended := by
  induction moves generalizing traffic with
  | nil => simp [taken]
  | cons move rest ih =>
      obtain ⟨other, later⟩ := not_or.mp fun either => kept (List.mem_cons.mpr either)
      have still : (traffic.step move).loop = .gone := by
        obtain ⟨left, exits⟩ := left_step (by rw [gone]; rfl) move
        exact Loop.eq_gone left (by rw [exits, gone]; exact Nat.zero_sub _)
      have ih := ih (ledger_step ledger move) (winding.step ledger move) still later
      rw [taken, ih, List.count_cons]
      by_cases own : move = .takeEvent stream
      · subst own
        have fewer : (traffic.step (.takeEvent stream)).connection.streams.remaining stream =
            (traffic.connection.streams.remaining stream).tail := Streams.remaining_take _ stream
        rw [Streams.fst_take (winding.ended gone), fewer]
        cases traffic.connection.streams.remaining stream with
        | nil => simp [List.replicate_succ]
        | cons oldest younger => simp
      · rw [remaining_step gone (fun same => other same.symm) own]
        simp [own]

/-- What becomes of a connection, after any moves: once its loop has come out, a call without an answer can only
end with the error for a closed connection, or by its own deadline and not before it; the call whose frame could
not be written can only end with the error of the socket, or by its deadline; the loop is over after its last
steps; once all slots were drained, a call is over after four more steps of its own; when all calls are over,
neither slots nor answers are left; a call that starts after the end gets no number and is told so by its next
step; and a stream gives what was delivered to it and then ends. -/
structure WoundUp (moves : List Move) : Prop where
  closed : ∀ (place : Nat) (call later : Call) (more : List Move) (given : Option Nat)
    (outcome : Except Error Json), (run moves).loop.hasLeft = true →
    (run moves).calls[place]? = some call → call.phase.isOpen = true →
    (∀ id, call.phase.id? = some id → (run moves).connection.answer? id = none) →
    (run (moves ++ more)).calls[place]? = some later → later.phase = .finished given outcome →
    outcome = .error .connectionClosed ∨ ∃ id, given = some id ∧ outcome = call.lateness id ∧
      call.phase.deadline?.getD ((run moves).now + call.limit) ≤ (run (moves ++ more)).now
  unwritten : ∀ (place id : Nat) (call later : Call) (reason : String) (more : List Move)
    (given : Option Nat) (outcome : Except Error Json), (run moves).loop = .writing id →
    (run moves).calls[place]? = some call → call.phase.id? = some id → call.phase.isOpen = true →
    (run moves).connection.answer? id = none →
    (run (moves ++ .loop (.failWrite reason) :: more)).calls[place]? = some later →
    later.phase = .finished given outcome →
    outcome = .error (.connection reason) ∨ ∃ deadline, call.phase.deadline? = some deadline ∧
      (∃ id, given = some id ∧ outcome = call.lateness id) ∧
      deadline ≤ (run (moves ++ .loop (.failWrite reason) :: more)).now
  exits : ∀ more : List Move, (run moves).loop.hasLeft = true → 4 ≤ more.count (.loop .exit) →
    (run (moves ++ more)).loop = .gone
  returns : ∀ (place : Nat) (call : Call) (more : List Move), (run moves).loop.isDrained = true →
    (run moves).calls[place]? = some call → 4 ≤ more.count (.call place .proceed) →
    ∃ phase, (run (moves ++ more)).calls[place]? = some { call with phase } ∧ phase.isOver = true
  vacated : (∀ call ∈ (run moves).calls, call.phase.isOver = true) →
    (run moves).connection.slots = [] ∧ (run moves).connection.answers = []
  refused : ∀ (place : Nat) (call : Call) (more : List Move), (run moves).loop.isMarked = true →
    (run moves).calls[place]? = none → (run (moves ++ more)).calls[place]? = some call →
    call.phase.id? = none ∧ (call.phase = .dropped none ∨
      (run (moves ++ more ++ [.call place .proceed])).calls[place]? =
        some { call with phase := .finished none (.error .connectionClosed) })
  streams : ∀ (stream : Nat) (more : List Move), (run moves).loop = .gone → .dropStream stream ∉ more →
    (run moves).taken stream more =
      (((run moves).connection.streams.remaining stream).take (more.count (.takeEvent stream))).map .event ++
        List.replicate (more.count (.takeEvent stream) -
          ((run moves).connection.streams.remaining stream).length) .ended

private theorem vacated_of_isOver (ledger : Ledger traffic.calls traffic.connection)
    (ended : ∀ call ∈ traffic.calls, call.phase.isOver = true) :
    traffic.connection.slots = [] ∧ traffic.connection.answers = [] := by
  have free {place id : Nat} {call : Call} (found : traffic.calls[place]? = some call) :
      call.phase.holds? ≠ some id := by
    rw [Phase.holds?_of_isOver (ended call (List.mem_of_getElem? found))]
    exact nofun
  constructor
  · refine List.eq_nil_iff_forall_not_mem.mpr fun slot member => ?_
    obtain ⟨place, call, found, holds, -⟩ := ledger.owned slot member
    exact free found holds
  · refine List.eq_nil_iff_forall_not_mem.mpr fun entry member => ?_
    obtain ⟨place, call, found, holds⟩ := ledger.answered entry member
    exact free found holds

private theorem refused_proceed (closed : traffic.connection.closed = true) (found : traffic.calls[place]? = some call)
    (turned : call.phase = .entering ∨ call.phase = .finished none (.error .connectionClosed)) :
    (traffic.step (.call place .proceed)).calls[place]? =
      some { call with phase := .finished none (.error .connectionClosed) } := by
  have next : (call.move traffic.now traffic.connection .proceed).1 =
      .finished none (.error .connectionClosed) := by
    rcases turned with entering | finished
    · simp [Call.move, Call.proceed, entering, closed]
    · simp [Call.move, Call.proceed, finished]
  simp only [step, found, next]
  exact getElem?_moved found

/-- In all traffic nothing is left hanging when the connection goes away. -/
theorem woundUp_run (moves : List Move) : WoundUp moves where
  closed place call later more given outcome left found isOpen unanswered after finished := by
    obtain ⟨phase, fated⟩ := (Fated.of_left found left isOpen unanswered).runFrom (ledger_run moves) more
    rw [run_append] at after ⊢
    obtain rfl := Option.some.inj (fated.found.symm.trans after)
    exact fated.certain given outcome (by rw [finished]; rfl)
  unwritten place id call later reason more given outcome writing found has isOpen unanswered after
      finished := by
    have ledger := ledger_run moves
    obtain ⟨owner, holder, there, holds, posted⟩ := posted_of_outbound moves (.inr writing)
    obtain rfl := ledger.numbers.distinct found there has holds
    obtain rfl := Option.some.inj (found.symm.trans there)
    obtain ⟨deadline, waits⟩ := Phase.exists_deadline? posted isOpen
    have fated := Fated.of_failWrite ledger found writing has waits unanswered reason
    obtain ⟨phase, last⟩ := fated.runFrom (ledger_step ledger _) more
    rw [run_append, runFrom_cons] at after ⊢
    obtain rfl := Option.some.inj (last.found.symm.trans after)
    refine (last.certain given outcome (by rw [finished]; rfl)).imp_right ?_
    rintro ⟨number, same, late, passed⟩
    exact ⟨deadline, waits, ⟨number, same, late⟩, passed⟩
  exits more left enough := by
    obtain ⟨still, exits⟩ := left_runFrom left more
    have few : (run moves).loop.exits ≤ 4 := by cases (run moves).loop <;> simp [Loop.exits]
    rw [run_append]
    exact Loop.eq_gone still (by omega)
  returns place call more drained found enough := by
    obtain ⟨phase, after, near⟩ := togo_runFrom (ledger_run moves) (Winding.run moves) drained found more
    have far := call.phase.togo_le
    rw [run_append]
    exact ⟨phase, after, Phase.isOver_of_togo (by omega)⟩
  vacated ended := vacated_of_isOver (ledger_run moves) ended
  refused place call more marked absent found := by
    have closed := closed_of_isMarked marked more
    rw [run_snoc]
    rcases refused_runFrom marked absent found with entering | finished | dropped
    · exact ⟨by rw [entering]; rfl, .inr (refused_proceed closed found (.inl entering))⟩
    · exact ⟨by rw [finished]; rfl, .inr (refused_proceed closed found (.inr finished))⟩
    · exact ⟨by rw [dropped]; rfl, .inl dropped⟩
  streams stream more gone kept := taken_of_gone (ledger_run moves) (Winding.run moves) gone kept

/-- A call that queues its frame between the last steps of the loop finds that the connection was closed. -/
example : ((run [.start .topLevel .getTargets 1000, .call 0 .proceed, .loop .leave, .call 0 .proceed,
    .call 0 .proceed, .loop .exit, .call 0 .proceed, .loop .exit, .loop .exit, .loop .exit, .call 0 .proceed,
    .call 0 .proceed]).calls.map Call.phase) = [.finished (some 1) (.error .connectionClosed)] := rfl

end Traffic

end RemoteDom
