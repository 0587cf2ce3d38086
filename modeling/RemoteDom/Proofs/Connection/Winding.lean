import RemoteDom.Proofs.Connection.Steps
import RemoteDom.Proofs.Connection.Streams

/-! What a connection that stops does to its flags, its slots and its streams, while calls go on. -/

namespace RemoteDom

namespace Phase

/-- How long the call waits, once its frame is queued and as long as its outcome is open. -/
def deadline? : Phase → Option Nat
  | .waiting _ deadline | .watching _ deadline => some deadline
  | _ => none

end Phase

namespace Stride

variable {now : Nat} {connection other : Connection} {call : Call} {phase : Phase}

theorem flags (stride : Stride now connection call phase other) :
    other.closed = connection.closed ∧ other.accepting = connection.accepting ∧
      other.streams = connection.streams := by
  cases stride <;> exact ⟨rfl, rfl, rfl⟩

theorem deadline? (stride : Stride now connection call phase other) {id deadline : Nat}
    (waits : phase.deadline? = some deadline) (given : phase.id? = some id) :
    call.phase.id? = some id ∧ (call.phase.deadline? = some deadline ∨
      call.phase = .reserved id ∧ connection.accepting = true ∧ deadline = now + call.limit) := by
  cases stride with
  | idle => exact ⟨given, .inl waits⟩
  | queued was accepting =>
      cases given
      cases waits
      exact ⟨by rw [was]; rfl, .inr ⟨was, accepting, rfl⟩⟩
  | unanswered was | early was =>
      rw [was]
      exact ⟨given, .inl waits⟩
  | _ => cases waits

end Stride

/-- The flags follow the loop. Once the slots were drained, no call whose frame was queued has one, and in the
end no stream is open. -/
structure Winding (traffic : Traffic) : Prop where
  closed : traffic.connection.closed = traffic.loop.isMarked
  accepting : traffic.connection.accepting = !traffic.loop.isShut
  drained : traffic.loop.isDrained = true → ∀ {place id : Nat} {call : Call},
    traffic.calls[place]? = some call → call.phase.deadline?.isSome = true → call.phase.id? = some id →
    traffic.connection.slot? id = none
  ended : traffic.loop = .gone → traffic.connection.streams.Ended

namespace Winding

variable {traffic : Traffic}

theorem opening : Winding .opening where
  closed := rfl
  accepting := rfl
  drained := nofun
  ended := nofun

private theorem flags_loop (winding : Winding traffic) (own : LoopMove) :
    (traffic.step (.loop own)).connection.closed = (traffic.step (.loop own)).loop.isMarked ∧
      (traffic.step (.loop own)).connection.accepting = !(traffic.step (.loop own)).loop.isShut ∧
      ((traffic.step (.loop own)).loop = .gone →
        (traffic.step (.loop own)).connection.streams.Ended) := by
  obtain ⟨closed, accepting, -, ended⟩ := winding
  obtain ⟨connection, calls, loop, now⟩ := traffic
  simp only at closed accepting ended
  simp only [Traffic.step]
  unfold Loop.move
  split
  next text =>
    obtain ⟨slots, answers, streams, same⟩ := connection.exists_receive text
    rw [same]
    exact ⟨closed, accepting, fun gone => by cases gone⟩
  next =>
    unfold Connection.dequeue
    cases connection.queue with
    | nil => exact ⟨closed, accepting, fun gone => by cases gone⟩
    | cons outgoing rest => cases outgoing <;> exact ⟨closed, accepting, fun gone => by cases gone⟩
  next => exact ⟨closed, accepting, fun gone => by cases gone⟩
  next => exact ⟨closed, accepting, fun gone => by cases gone⟩
  next id reason =>
    obtain ⟨slots, answers, same⟩ := connection.exists_resolve id fun _ => .error (.connection reason)
    rw [Connection.failWrite, same]
    exact ⟨closed, accepting, fun gone => by cases gone⟩
  next => exact ⟨rfl, accepting, fun gone => by cases gone⟩
  next => exact ⟨closed, rfl, fun gone => by cases gone⟩
  next => exact ⟨closed, accepting, fun gone => by cases gone⟩
  next => exact ⟨closed, accepting, fun _ => Streams.Ended.close connection.streams⟩
  next => exact ⟨closed, accepting, ended⟩

private theorem drained_loop (own : LoopMove) (drained : (traffic.step (.loop own)).loop.isDrained = true) :
    traffic.loop.isDrained = true ∨ (traffic.step (.loop own)).connection.slots = [] := by
  obtain ⟨connection, calls, loop, now⟩ := traffic
  cases loop with
  | drained | gone => exact .inl rfl
  | shut =>
      cases own with
      | exit => exact .inr rfl
      | _ => cases drained
  | listening =>
      cases own with
      | beginWrite =>
          simp only [Traffic.step, Loop.move] at drained
          split at drained <;> cases drained
      | _ => cases drained
  | writing | left | marked => cases own <;> cases drained

private theorem drained_step (winding : Winding traffic) (ledger : Ledger traffic.calls traffic.connection)
    (move : Move) (drained : (traffic.step move).loop.isDrained = true) {place id : Nat} {call : Call}
    (found : (traffic.step move).calls[place]? = some call) (waits : call.phase.deadline?.isSome = true)
    (given : call.phase.id? = some id) : (traffic.step move).connection.slot? id = none := by
  have before : traffic.loop.isDrained = true ∨ (traffic.step move).connection.slots = [] := by
    cases move with
    | loop own => exact drained_loop own drained
    | call other own =>
        cases owner : traffic.calls[other]? with
        | none => exact .inl (by rwa [Traffic.step_call_none owner own] at drained)
        | some moved =>
            obtain ⟨phase, connection, -, same⟩ := Traffic.step_call owner own
            exact .inl (by rwa [same] at drained)
    | _ => exact .inl drained
  rw [Connection.slot?_eq_none_iff]
  rintro slot member rfl
  rcases before with before | empty
  · obtain ⟨deadline, waits⟩ := Option.isSome_iff_exists.mp waits
    rcases Traffic.before_step found with entering | ⟨old, was, -, moved⟩
    · rw [entering] at waits
      cases waits
    have waited : old.phase.id? = some slot.id ∧ old.phase.deadline? = some deadline := by
      rcases moved with same | stride
      · exact ⟨same ▸ given, same ▸ waits⟩
      · obtain ⟨had, waited | ⟨-, accepting, -⟩⟩ := stride.deadline? waits given
        · exact ⟨had, waited⟩
        · have shut : traffic.loop.isShut = true := by
            revert before
            cases traffic.loop <;> simp [Loop.isDrained, Loop.isShut]
          simp [winding.accepting, shut] at accepting
    have free := winding.drained before was (by rw [waited.2]; rfl) waited.1
    rcases Traffic.slots_step member with inside | ⟨other, owner, there, numbered⟩
    · exact Connection.slot?_eq_none_iff.mp free slot inside rfl
    · obtain rfl := ledger.numbers.distinct was there waited.1 (by rw [numbered]; rfl)
      obtain rfl := Option.some.inj (was.symm.trans there)
      rw [numbered] at waited
      cases waited.2
  · rw [empty] at member
    cases member

theorem step (winding : Winding traffic) (ledger : Ledger traffic.calls traffic.connection) (move : Move) :
    Winding (traffic.step move) := by
  have drained := fun more => @drained_step traffic winding ledger move more
  cases move with
  | start | pass => exact ⟨winding.closed, winding.accepting, drained, winding.ended⟩
  | loop own =>
      obtain ⟨closed, accepting, ended⟩ := winding.flags_loop own
      exact ⟨closed, accepting, drained, ended⟩
  | call place own =>
      cases found : traffic.calls[place]? with
      | none =>
          rw [Traffic.step_call_none found own]
          exact winding
      | some call =>
          obtain ⟨phase, connection, stride, same⟩ := Traffic.step_call found own
          obtain ⟨closed, accepting, streams⟩ := stride.flags
          rw [same] at drained ⊢
          exact ⟨closed.trans winding.closed, accepting.trans winding.accepting, drained,
            fun gone => streams ▸ winding.ended gone⟩
  | shutdown =>
      obtain ⟨queue, same⟩ := traffic.step_shutdown
      rw [same] at drained ⊢
      exact ⟨winding.closed, winding.accepting, drained, winding.ended⟩
  | subscribe method session =>
      exact ⟨winding.closed, winding.accepting, drained,
        fun gone => (winding.ended gone).subscribe method session⟩
  | takeEvent stream =>
      exact ⟨winding.closed, winding.accepting, drained, fun gone => (winding.ended gone).take stream⟩
  | dropStream stream =>
      exact ⟨winding.closed, winding.accepting, drained, fun gone => (winding.ended gone).drop stream⟩

theorem run (moves : List Move) : Winding (Traffic.run moves) := by
  induction moves using List.reverseRecOn with
  | nil => exact opening
  | append_singleton moves move ih =>
      rw [Traffic.run_snoc]
      exact ih.step (Traffic.ledger_run moves) move

end Winding

end RemoteDom
