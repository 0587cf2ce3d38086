import RemoteDom.Proofs.Connection.Correlation
import RemoteDom.Proofs.Connection.Winding

/-! What is in store for a call when the connection goes away. From the moment at which the loop comes out, a
call without an answer can only end in one way or by its own deadline. -/

namespace RemoteDom

namespace Phase

def isOpen : Phase → Bool
  | .leaving _ _ | .finished _ _ | .dropped _ => false
  | _ => true

def isPosted : Phase → Bool
  | .entering | .admitted | .numbered _ | .reserved _ => false
  | _ => true

private theorem isOpen_of_awaits? {phase : Phase} {id : Nat} (awaits : phase.awaits? = some id) :
    phase.isOpen = true := by
  cases phase <;> first | rfl | cases awaits

private theorem outcome?_of_isOpen {phase : Phase} (isOpen : phase.isOpen = true) : phase.outcome? = none := by
  cases phase <;> first | rfl | cases isOpen

private theorem awaits?_of_deadline? {phase : Phase} {deadline id : Nat} (waits : phase.deadline? = some deadline)
    (given : phase.id? = some id) : phase.awaits? = some id := by
  cases phase <;> first | exact given | cases waits

private theorem deadline?_of_not_isPosted {phase : Phase} (early : phase.isPosted = false) :
    phase.deadline? = none := by
  cases phase <;> first | rfl | cases early

theorem exists_deadline? {phase : Phase} (posted : phase.isPosted = true) (isOpen : phase.isOpen = true) :
    ∃ deadline, phase.deadline? = some deadline := by
  cases phase with
  | waiting id deadline | watching id deadline => exact ⟨deadline, rfl⟩
  | entering | admitted | numbered | reserved => cases posted
  | leaving | finished | dropped => cases isOpen

end Phase

namespace Loop

def exits : Loop → Nat
  | .left => 4
  | .marked => 3
  | .shut => 2
  | .drained => 1
  | _ => 0

end Loop

namespace Stride

variable {now : Nat} {connection other : Connection} {call : Call} {phase : Phase}

private theorem isPosted (stride : Stride now connection call phase other) (posted : call.phase.isPosted = true) :
    phase.isPosted = true := by
  cases stride with
  | idle => exact posted
  | admitted was | numbered was | reserved was => rw [was] at posted; cases posted
  | _ => rfl

theorem answer? (stride : Stride now connection call phase other) {id : Nat}
    (apart : call.phase.holds? ≠ some id ∨ phase.holds? = some id) :
    other.answer? id = connection.answer? id := by
  cases stride with
  | @finished held outcome was =>
      refine Connection.answer?_abandon_ne ?_
      rintro rfl
      rcases apart with apart | holds
      · exact apart (by rw [was]; rfl)
      · cases holds
  | @droppedAwaiting held awaits =>
      refine Connection.answer?_abandon_ne ?_
      rintro rfl
      rcases apart with apart | holds
      · exact apart (Phase.holds?_of_awaits? awaits)
      · cases holds
  | _ => rfl

theorem awaits? (stride : Stride now connection call phase other) {id : Nat}
    (awaits : phase.awaits? = some id) :
    call.phase.awaits? = some id ∨ call.phase = .numbered id := by
  cases stride with
  | idle => exact .inl awaits
  | reserved was => exact .inr (by rw [was, Option.some.inj awaits])
  | queued was | unanswered was | early was => exact .inl (by rw [was]; exact awaits)
  | _ => cases awaits

theorem queue (stride : Stride now connection call phase other) {id : Nat} {text : String}
    (member : .frame id text ∈ other.queue) :
    .frame id text ∈ connection.queue ∨ phase.id? = some id ∧ phase.isPosted = true := by
  cases stride with
  | queued was accepting =>
      rcases List.mem_append.mp member with before | fresh
      · exact .inl before
      · cases List.mem_singleton.mp fresh
        exact .inr ⟨rfl, rfl⟩
  | _ => exact .inl member

end Stride

namespace Traffic

variable {traffic : Traffic} {place id : Nat} {call : Call}

def Outbound (traffic : Traffic) (id : Nat) : Prop :=
  (∃ text, .frame id text ∈ traffic.connection.queue) ∨ traffic.loop = .writing id

private theorem outbound_loop (own : LoopMove) (outbound : (traffic.step (.loop own)).Outbound id) :
    traffic.Outbound id := by
  obtain ⟨connection, calls, loop, now⟩ := traffic
  unfold Outbound at outbound ⊢
  simp only [step] at outbound ⊢
  unfold Loop.move at outbound
  split at outbound
  next text =>
    obtain ⟨slots, answers, streams, same⟩ := connection.exists_receive text
    rwa [same] at outbound
  next =>
    unfold Connection.dequeue at outbound
    cases queued : connection.queue with
    | nil =>
        rw [queued] at outbound
        rcases outbound with ⟨text, member⟩ | writing
        · exact absurd (queued ▸ member) List.not_mem_nil
        · cases writing
    | cons outgoing rest =>
        cases outgoing with
        | shutdown => simpa [queued] using outbound
        | frame first text =>
            simp only [queued, Loop.writing.injEq] at outbound
            rcases outbound with ⟨other, member⟩ | rfl
            · exact .inl ⟨other, List.mem_cons_of_mem _ member⟩
            · exact .inl ⟨text, List.mem_cons_self⟩
  next => exact outbound.imp_right fun writing => by cases writing
  next => exact outbound.imp_right fun writing => by cases writing
  next id reason =>
    obtain ⟨slots, answers, same⟩ := connection.exists_resolve id fun _ => .error (.connection reason)
    rw [Connection.failWrite, same] at outbound
    exact outbound.imp_right fun writing => by cases writing
  next => exact outbound.imp_right fun writing => by cases writing
  next =>
    rcases outbound with ⟨text, member⟩ | writing
    · cases member
    · cases writing
  next => exact outbound.imp_right fun writing => by cases writing
  next => exact outbound.imp_right fun writing => by cases writing
  next => exact outbound

theorem posted_of_outbound (moves : List Move) (outbound : (run moves).Outbound id) :
    ∃ (place : Nat) (call : Call), (run moves).calls[place]? = some call ∧ call.phase.id? = some id ∧
      call.phase.isPosted = true := by
  induction moves using List.reverseRecOn with
  | nil => exact outbound.elim (fun ⟨_, member⟩ => nomatch member) nofun
  | append_singleton moves move ih =>
      rw [run_snoc] at outbound ⊢
      have before (earlier : (run moves).Outbound id) : ∃ (place : Nat) (call : Call),
          ((run moves).step move).calls[place]? = some call ∧ call.phase.id? = some id ∧
            call.phase.isPosted = true := by
        obtain ⟨place, call, found, given, posted⟩ := ih earlier
        obtain ⟨phase, after, rfl | stride⟩ := after_step found move
        · exact ⟨place, call, after, given, posted⟩
        · exact ⟨place, _, after, stride.id? given, stride.isPosted posted⟩
      cases move with
      | loop own => exact before (outbound_loop own outbound)
      | call place own =>
          cases found : (run moves).calls[place]? with
          | none => exact before (by rwa [step_call_none found own] at outbound)
          | some call =>
              obtain ⟨phase, connection, stride, same⟩ := step_call found own
              have moved : ((run moves).step (.call place own)).calls[place]? = some { call with phase } := by
                rw [same]
                exact getElem?_moved found
              rcases outbound with ⟨text, member⟩ | writing
              · rw [same] at member
                rcases stride.queue member with queued | ⟨given, posted⟩
                · exact before (.inl ⟨text, queued⟩)
                · exact ⟨place, _, moved, given, posted⟩
              · rw [same] at writing
                exact before (.inr writing)
      | shutdown =>
          refine before (outbound.imp_left fun ⟨text, member⟩ => ⟨text, ?_⟩)
          simp only [step, Connection.enqueue] at member
          split at member
          · simpa using member
          · exact member
      | start | subscribe | takeEvent | dropStream | pass => exact before outbound

/-- A loop that has come out does its last steps one by one and nothing else. -/
theorem left_step (left : traffic.loop.hasLeft = true) (move : Move) :
    (traffic.step move).loop.hasLeft = true ∧
      (traffic.step move).loop.exits = traffic.loop.exits - if move = .loop .exit then 1 else 0 := by
  obtain ⟨connection, calls, loop, now⟩ := traffic
  cases move with
  | loop own =>
      cases loop with
      | listening | writing => cases left
      | left | marked | shut | drained | gone => cases own <;> exact ⟨rfl, rfl⟩
  | call other own =>
      cases owner : calls[other]? with
      | none => simpa [step, owner] using left
      | some moved => simpa [step, owner] using left
  | start | shutdown | subscribe | takeEvent | dropStream | pass => simpa [step, withStreams] using left

theorem left_runFrom (left : traffic.loop.hasLeft = true) (moves : List Move) :
    (traffic.runFrom moves).loop.hasLeft = true ∧
      (traffic.runFrom moves).loop.exits = traffic.loop.exits - moves.count (.loop .exit) := by
  induction moves generalizing traffic with
  | nil => exact ⟨left, rfl⟩
  | cons move rest ih =>
      obtain ⟨still, fewer⟩ := left_step left move
      obtain ⟨after, exits⟩ := ih still
      refine ⟨after, ?_⟩
      rw [runFrom_cons, exits, fewer, List.count_cons]
      by_cases exit : move = .loop .exit
      · simp only [exit, if_true, beq_self_eq_true]
        omega
      · simp [exit]

private theorem now_step (traffic : Traffic) (move : Move) : traffic.now ≤ (traffic.step move).now := by
  cases move with
  | pass milliseconds => exact Nat.le_add_right _ _
  | call other own =>
      cases owner : traffic.calls[other]? with
      | none => simp [step, owner]
      | some moved => simp [step, owner]
  | _ => exact Nat.le_refl _

private theorem answer?_step (ledger : Ledger traffic.calls traffic.connection) {move : Move} {phase : Phase}
    (found : traffic.calls[place]? = some call) (given : call.phase.id? = some id)
    (after : (traffic.step move).calls[place]? = some { call with phase }) (holds : phase.holds? = some id) :
    (traffic.step move).connection.answer? id = traffic.connection.answer? id ∨
      traffic.connection.answer? id = none ∧ ∃ slot outcome, Settles traffic slot move outcome ∧
        (traffic.step move).connection.answer? id = some outcome := by
  cases move with
  | call other own =>
      refine .inl ?_
      cases owner : traffic.calls[other]? with
      | none => rw [step_call_none owner own]
      | some moved =>
          obtain ⟨moving, connection, stride, same⟩ := step_call owner own
          rw [same] at after ⊢
          apply stride.answer?
          rcases cases_moved owner after with ⟨rfl, equal⟩ | ⟨apart, -⟩
          · obtain rfl : phase = moving := congrArg Call.phase equal
            exact .inr holds
          · refine .inl fun held => apart ?_
            exact ledger.numbers.distinct found owner given (Phase.id?_of_holds? held)
  | loop own =>
      rcases traffic.cases_loop own with ⟨-, answers⟩ | ⟨slot, outcome, settles, emptied⟩ | ⟨shut, rfl, same⟩
      · exact .inl (by rw [Connection.answer?, answers, Connection.answer?])
      · by_cases mine : slot.id = id
        · subst mine
          cases answer : traffic.connection.answer? slot.id with
          | none => exact .inr ⟨rfl, slot, outcome, settles, (emptied_of_settles ledger emptied.had settles).2⟩
          | some earlier => cases emptied.had.symm.trans (ledger.no_slot_of_answer answer)
        · have different : (id == slot.id) = false := by simpa using fun equal : id = slot.id => mine equal.symm
          refine .inl ?_
          rw [Connection.answer?, emptied.answers, List.lookup_append]
          simp [Connection.answer?, List.lookup_cons, different]
      · rw [same, Connection.answer?_failPending]
        cases answer : traffic.connection.answer? id with
        | some earlier => exact .inl rfl
        | none =>
            cases had : traffic.connection.slot? id with
            | none => exact .inl rfl
            | some slot => exact .inr ⟨rfl, slot, .error .connectionClosed, .stopped shut, rfl⟩
  | shutdown =>
      obtain ⟨queue, same⟩ := traffic.step_shutdown
      exact .inl (same ▸ rfl)
  | start | subscribe | takeEvent | dropStream | pass => exact .inl rfl

/-- The loop has come out and the outcome is that of a closed connection. -/
def Closing (traffic : Traffic) (last : Except Error Json) : Prop :=
  traffic.loop.hasLeft = true ∧ last = .error .connectionClosed

theorem Closing.step {last : Except Error Json} (closing : traffic.Closing last) (move : Move) :
    (traffic.step move).Closing last :=
  ⟨(left_step closing.1 move).1, closing.2⟩

/-- What is still answered when the loop has come out is that the connection was closed. -/
theorem Closing.outcome {last outcome : Except Error Json} {slot : Slot} {move : Move}
    (closing : traffic.Closing last) (settles : Settles traffic slot move outcome) : outcome = last := by
  obtain ⟨left, rfl⟩ := closing
  cases settles with
  | told listening => rw [listening] at left; cases left
  | unwritten writing => rw [writing] at left; cases left
  | stopped => rfl

/-- The call can only end with one outcome, or by its deadline and not before a certain time. -/
structure Fated (traffic : Traffic) (place : Nat) (last : Except Error Json) (bound : Nat) (call : Call) :
    Prop where
  found : traffic.calls[place]? = some call
  awaits : ∀ id, call.phase.awaits? = some id → traffic.connection.answer? id = some last ∨
    traffic.Closing last ∧ traffic.connection.answer? id = none
  unposted : call.phase.isPosted = false → traffic.Closing last ∧ bound ≤ traffic.now + call.limit
  waits : ∀ deadline, call.phase.deadline? = some deadline → bound ≤ deadline
  certain : ∀ given outcome, call.phase.outcome? = some (given, outcome) → outcome = last ∨
    ∃ id, given = some id ∧ outcome = call.lateness id ∧ bound ≤ traffic.now

namespace Fated

variable {last : Except Error Json} {bound : Nat}

private theorem awaits_step (fated : Fated traffic place last bound call)
    (ledger : Ledger traffic.calls traffic.connection) {move : Move} {phase : Phase}
    (after : (traffic.step move).calls[place]? = some { call with phase })
    (moved : phase = call.phase ∨
      Stride traffic.now traffic.connection call phase (traffic.step move).connection)
    (awaits : phase.awaits? = some id) :
    (traffic.step move).connection.answer? id = some last ∨
      (traffic.step move).Closing last ∧ (traffic.step move).connection.answer? id = none := by
  have earlier : call.phase.awaits? = some id ∨ call.phase = .numbered id := by
    rcases moved with rfl | stride
    · exact .inl awaits
    · exact stride.awaits? awaits
  have given : call.phase.id? = some id := by
    rcases earlier with awaited | numbered
    · exact Phase.id?_of_holds? (Phase.holds?_of_awaits? awaited)
    · rw [numbered]; rfl
  have before : traffic.connection.answer? id = some last ∨
      traffic.Closing last ∧ traffic.connection.answer? id = none := by
    rcases earlier with awaited | numbered
    · exact fated.awaits id awaited
    · have free : call.phase.holds? ≠ some id := by rw [numbered]; exact nofun
      exact .inr ⟨(fated.unposted (by rw [numbered]; rfl)).1, ledger.no_answer fated.found given free⟩
  rcases answer?_step ledger fated.found given after (Phase.holds?_of_awaits? awaits) with
    same | ⟨unanswered, slot, outcome, settles, answered⟩
  · rw [same]
    exact before.imp_right fun ⟨closing, unanswered⟩ => ⟨closing.step move, unanswered⟩
  · rcases before with answer | ⟨closing, -⟩
    · rw [unanswered] at answer
      cases answer
    · exact .inl (closing.outcome settles ▸ answered)

theorem step (fated : Fated traffic place last bound call)
    (ledger : Ledger traffic.calls traffic.connection) (move : Move) :
    ∃ phase, Fated (traffic.step move) place last bound { call with phase } := by
  obtain ⟨phase, after, moved⟩ := after_step fated.found move
  have awaits (id : Nat) (awaited : phase.awaits? = some id) := fated.awaits_step ledger after moved awaited
  have later := traffic.now_step move
  have unposted (early : call.phase.isPosted = false) :
      (traffic.step move).Closing last ∧ bound ≤ (traffic.step move).now + call.limit := by
    obtain ⟨closing, ahead⟩ := fated.unposted early
    exact ⟨closing.step move, by omega⟩
  have certain {given : Option Nat} {outcome : Except Error Json}
      (known : call.phase.outcome? = some (given, outcome)) : outcome = last ∨
        ∃ id, given = some id ∧ outcome = call.lateness id ∧ bound ≤ (traffic.step move).now := by
    refine (fated.certain given outcome known).imp_right fun ⟨id, same, late, passed⟩ => ?_
    exact ⟨id, same, late, by omega⟩
  suffices (phase.isPosted = false →
        (traffic.step move).Closing last ∧ bound ≤ (traffic.step move).now + call.limit) ∧
      (∀ deadline, phase.deadline? = some deadline → bound ≤ deadline) ∧
      ∀ given outcome, phase.outcome? = some (given, outcome) → outcome = last ∨
        ∃ id, given = some id ∧ outcome = call.lateness id ∧ bound ≤ (traffic.step move).now by
    obtain ⟨unposted, waits, certain⟩ := this
    exact ⟨phase, after, awaits, unposted, waits, certain⟩
  rcases moved with rfl | stride
  · exact ⟨unposted, fated.waits, fun given outcome => certain⟩
  -- The call itself moved: its outcome stays open, or this very step decides it.
  generalize (traffic.step move).connection = other at stride
  cases stride with
  | idle => exact ⟨unposted, fated.waits, fun given outcome => certain⟩
  | refused was =>
      have closing := (fated.unposted (by rw [was]; rfl)).1
      refine ⟨nofun, nofun, fun given outcome known => .inl ?_⟩
      cases known
      exact closing.2.symm
  | admitted was | numbered was | reserved was =>
      exact ⟨fun _ => unposted (by rw [was]; rfl), nofun, nofun⟩
  | queued was =>
      have ahead := (fated.unposted (by rw [was]; rfl)).2
      refine ⟨nofun, fun deadline same => ?_, nofun⟩
      cases same
      exact ahead
  | unqueued was =>
      have closing := (fated.unposted (by rw [was]; rfl)).1
      refine ⟨nofun, nofun, fun given outcome known => .inl ?_⟩
      cases known
      exact closing.2.symm
  | @answered id deadline found was answer =>
      refine ⟨nofun, nofun, fun given outcome known => .inl ?_⟩
      cases known
      rcases fated.awaits id (by rw [was]; rfl) with same | ⟨-, none⟩
      · exact Option.some.inj (answer.symm.trans same)
      · cases answer.symm.trans none
  | @late id deadline was passed =>
      have ahead := fated.waits deadline (by rw [was]; rfl)
      refine ⟨nofun, nofun, fun given outcome known => .inr ⟨id, ?_⟩⟩
      cases known
      exact ⟨rfl, rfl, by omega⟩
  | unanswered was | early was =>
      refine ⟨nofun, fun deadline same => ?_, nofun⟩
      exact fated.waits deadline (by rw [was]; exact same)
  | finished was =>
      refine ⟨nofun, nofun, fun given outcome known => certain ?_⟩
      rw [was]
      exact known
  | droppedFirst | droppedNumbered | droppedAwaiting => exact ⟨nofun, nofun, nofun⟩

theorem runFrom (fated : Fated traffic place last bound call)
    (ledger : Ledger traffic.calls traffic.connection) (moves : List Move) :
    ∃ phase, Fated (traffic.runFrom moves) place last bound { call with phase } := by
  induction moves generalizing traffic call with
  | nil => exact ⟨call.phase, fated⟩
  | cons move rest ih =>
      obtain ⟨phase, next⟩ := fated.step ledger move
      obtain ⟨last, after⟩ := ih next (ledger_step ledger move)
      exact ⟨last, after⟩

theorem of_left (found : traffic.calls[place]? = some call) (left : traffic.loop.hasLeft = true)
    (isOpen : call.phase.isOpen = true)
    (unanswered : ∀ id, call.phase.id? = some id → traffic.connection.answer? id = none) :
    Fated traffic place (.error .connectionClosed) (call.phase.deadline?.getD (traffic.now + call.limit))
      call where
  found := found
  awaits id awaits :=
    .inr ⟨⟨left, rfl⟩, unanswered id (Phase.id?_of_holds? (Phase.holds?_of_awaits? awaits))⟩
  unposted early := by
    rw [Phase.deadline?_of_not_isPosted early]
    exact ⟨⟨left, rfl⟩, Nat.le_refl _⟩
  waits deadline same := by rw [same]; exact Nat.le_refl _
  certain given outcome known := by
    rw [Phase.outcome?_of_isOpen isOpen] at known
    cases known

theorem of_failWrite (ledger : Ledger traffic.calls traffic.connection)
    (found : traffic.calls[place]? = some call) (writing : traffic.loop = .writing id)
    (given : call.phase.id? = some id) {deadline : Nat} (waits : call.phase.deadline? = some deadline)
    (unanswered : traffic.connection.answer? id = none) (reason : String) :
    Fated (traffic.step (.loop (.failWrite reason))) place (.error (.connection reason)) deadline call := by
  have awaits := Phase.awaits?_of_deadline? waits given
  obtain ⟨slot, had⟩ : ∃ slot, traffic.connection.slot? id = some slot := by
    rcases ledger.awaited found awaits with ⟨slot, member, rfl⟩ | ⟨entry, member, same⟩
    · cases has : traffic.connection.slot? slot.id with
      | none => exact absurd rfl (Connection.slot?_eq_none_iff.mp has slot member)
      | some held => exact ⟨held, rfl⟩
    · exact absurd same (Connection.answer?_eq_none_iff.mp unanswered entry member)
  obtain ⟨-, rfl⟩ := Connection.mem_of_slot? had
  have settles : Settles traffic slot (.loop (.failWrite reason)) _ := .unwritten writing
  obtain ⟨-, answered⟩ := emptied_of_settles ledger had settles
  constructor
  · exact found
  · intro other awaiting
    obtain rfl := Option.some.inj (awaits.symm.trans awaiting)
    exact .inl answered
  · intro early
    cases (Phase.deadline?_of_not_isPosted early).symm.trans waits
  · intro other same
    exact Nat.le_of_eq (Option.some.inj (waits.symm.trans same))
  · intro given outcome known
    rw [Phase.outcome?_of_isOpen (Phase.isOpen_of_awaits? awaits)] at known
    cases known

end Fated

end Traffic

end RemoteDom
