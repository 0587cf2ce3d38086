import RemoteDom.Proofs.Connection.Ledger

/-! What one move leaves as it was, and where new slots, answers and outcomes come from. -/

namespace RemoteDom

namespace Stride

variable {now : Nat} {connection other : Connection} {call : Call} {phase : Phase}

theorem eq_of_isOver (stride : Stride now connection call phase other) (ended : call.phase.isOver = true) :
    phase = call.phase := by
  cases stride with
  | idle => rfl
  | refused was | admitted was | numbered was | reserved was | queued was | unqueued was | answered was
  | unanswered was | late was | early was | finished was | droppedNumbered was =>
      rw [was] at ended
      cases ended
  | droppedFirst was => rcases was with was | was <;> (rw [was] at ended; cases ended)
  | droppedAwaiting awaits =>
      have held := Phase.holds?_of_awaits? awaits
      rw [Phase.holds?_of_isOver ended] at held
      cases held

theorem id? (stride : Stride now connection call phase other) {id : Nat} (given : call.phase.id? = some id) :
    phase.id? = some id := by
  cases stride with
  | idle => exact given
  | refused was | admitted was | numbered was => rw [was] at given; cases given
  | reserved was | queued was | unqueued was | answered was | unanswered was | late was | early was
  | finished was | droppedNumbered was => rw [was] at given; exact given
  | droppedFirst was => rcases was with was | was <;> (rw [was] at given; cases given)
  | droppedAwaiting awaits =>
      exact (Phase.id?_of_holds? (Phase.holds?_of_awaits? awaits)).symm.trans given

theorem not_numbered (stride : Stride now connection call phase other) {id : Nat}
    (given : call.phase.id? = some id) (past : call.phase ≠ .numbered id) : phase ≠ .numbered id := by
  intro same
  cases stride with
  | idle => exact past same
  | numbered was => rw [was] at given; cases given
  | _ => cases same

theorem holds? (stride : Stride now connection call phase other) {id : Nat} (holds : phase.holds? = some id) :
    call.phase.holds? = some id ∨ call.phase = .numbered id := by
  cases stride with
  | idle => exact .inl holds
  | reserved was => exact .inr (by rw [was, Option.some.inj holds])
  | queued was | unqueued was | answered was | unanswered was | late was | early was =>
      exact .inl (by rw [was]; exact holds)
  | _ => cases holds

theorem slots (stride : Stride now connection call phase other) {slot : Slot} (member : slot ∈ other.slots) :
    slot ∈ connection.slots ∨ call.phase = .numbered slot.id := by
  cases stride with
  | reserved was =>
      rcases List.mem_append.mp member with before | fresh
      · exact .inl before
      · obtain rfl := List.mem_singleton.mp fresh
        exact .inr was
  | finished | droppedAwaiting => exact .inl (List.mem_filter.mp member).1
  | _ => exact .inl member

theorem answers (stride : Stride now connection call phase other) {entry : Nat × Except Error Json}
    (member : entry ∈ other.answers) : entry ∈ connection.answers := by
  cases stride with
  | finished | droppedAwaiting => exact (List.mem_filter.mp member).1
  | _ => exact member

end Stride

/-- What a frame says to the one who has the slot: the answer of the browser, or that it cannot be read. -/
inductive Means (text : String) (slot : Slot) : Except Error Json → Prop
  | readable {response : Response} (read : Incoming.read text = .ok (.response response))
      (same : response.id = slot.id) : Means text slot (response.outcome slot.method slot.session)
  | unreadable (read : Incoming.read text = .error (.unreadableResponse slot.id)) :
      Means text slot (.error (.unreadableResponse slot.id))

/-- How a move can empty a slot. -/
inductive Settles (traffic : Traffic) (slot : Slot) : Move → Except Error Json → Prop
  | told {text : String} {outcome : Except Error Json} (listening : traffic.loop = .listening)
      (meaning : Means text slot outcome) : Settles traffic slot (.loop (.receive text)) outcome
  | unwritten {reason : String} (writing : traffic.loop = .writing slot.id) :
      Settles traffic slot (.loop (.failWrite reason)) (.error (.connection reason))
  | stopped (shut : traffic.loop = .shut) : Settles traffic slot (.loop .exit) (.error .connectionClosed)

namespace Incoming

private theorem error_of_unreadable {text : String} {error : Error} {id : Nat} (unreadable : read text = .error error)
    (named : responseId? text = some id) : error = .unreadableResponse id := by
  unfold read at unreadable
  unfold responseId? at named
  cases parsed : Json.read? text with
  | none => simp [parsed] at named
  | some frame =>
      simp only [parsed, Option.bind_some] at unreadable named
      cases names : frame.get? "id" with
      | none => simp [names] at named
      | some written =>
          simp only [names, Option.bind_some] at unreadable named
          split at unreadable
          · cases unreadable
          · simp only [named, Except.error.injEq] at unreadable
            exact unreadable.symm

theorem means_of_answer? {text : String} {slot : Slot} {answer : String → SessionId → Except Error Json}
    (found : answer? text = some (slot.id, answer)) : Means text slot (answer slot.method slot.session) := by
  unfold answer? at found
  split at found
  next reply readable =>
    obtain ⟨same, rfl⟩ := Prod.mk.inj (Option.some.inj found)
    exact .readable readable same
  next => cases found
  next error unreadable =>
    obtain ⟨id, named, same⟩ := Option.map_eq_some_iff.mp found
    obtain ⟨rfl, rfl⟩ := Prod.mk.inj same
    obtain rfl := error_of_unreadable unreadable named
    exact .unreadable unreadable

end Incoming

namespace Traffic

variable {traffic : Traffic} {place : Nat} {call it : Call}

theorem getElem?_step_call_ne {other : Nat} (apart : place ≠ other) (own : CallMove) :
    (traffic.step (.call other own)).calls[place]? = traffic.calls[place]? := by
  cases owner : traffic.calls[other]? with
  | none => rw [step_call_none owner own]
  | some moved =>
      obtain ⟨phase, connection, -, same⟩ := step_call owner own
      rw [same]
      exact getElem?_moved_ne apart

theorem after_step (found : traffic.calls[place]? = some call) (move : Move) :
    ∃ phase, (traffic.step move).calls[place]? = some { call with phase } ∧
      (phase = call.phase ∨
        Stride traffic.now traffic.connection call phase (traffic.step move).connection) := by
  cases move with
  | start session command limit =>
      refine ⟨call.phase, ?_, .inl rfl⟩
      exact (List.getElem?_append_left (List.getElem?_eq_some_iff.mp found).1).trans found
  | call other own =>
      by_cases here : place = other
      · subst here
        obtain ⟨phase, connection, stride, same⟩ := step_call found own
        rw [same]
        exact ⟨phase, getElem?_moved found, .inr stride⟩
      · exact ⟨call.phase, (getElem?_step_call_ne here own).trans found, .inl rfl⟩
  | loop | shutdown | subscribe | takeEvent | dropStream | pass => exact ⟨call.phase, found, .inl rfl⟩

theorem before_step {move : Move} (there : (traffic.step move).calls[place]? = some it) :
    it.phase = .entering ∨ ∃ call, traffic.calls[place]? = some call ∧ it = { call with phase := it.phase } ∧
      (it.phase = call.phase ∨
        Stride traffic.now traffic.connection call it.phase (traffic.step move).connection) := by
  cases found : traffic.calls[place]? with
  | some call =>
      obtain ⟨phase, after, moved⟩ := after_step found move
      obtain rfl := Option.some.inj (after.symm.trans there)
      exact .inr ⟨call, rfl, rfl, moved⟩
  | none =>
      refine .inl ?_
      cases move with
      | start session command limit =>
          have outside := List.getElem?_eq_none_iff.mp found
          rw [step, List.getElem?_append_right outside] at there
          rw [List.mem_singleton.mp (List.mem_of_getElem? there)]
      | call other own =>
          cases owner : traffic.calls[other]? with
          | none =>
              rw [step_call_none owner own, found] at there
              cases there
          | some moved =>
              obtain ⟨phase, connection, -, same⟩ := step_call owner own
              have outside := List.getElem?_eq_none_iff.mp found
              have absent : (traffic.calls.set other { moved with phase })[place]? = none :=
                List.getElem?_eq_none_iff.mpr (by simpa using outside)
              rw [same, absent] at there
              cases there
      | loop | shutdown | subscribe | takeEvent | dropStream | pass =>
          cases found.symm.trans there

structure Emptied (before after : Connection) (slot : Slot) (outcome : Except Error Json) : Prop where
  had : before.slot? slot.id = some slot
  slots : after.slots = before.slots.filter fun other => other.id != slot.id
  answers : after.answers = before.answers ++ [(slot.id, outcome)]

private theorem cases_resolve (connection : Connection) (id : Nat) (answer : Slot → Except Error Json) :
    connection.resolve id answer = connection ∨
      ∃ slot, slot.id = id ∧ Emptied connection (connection.resolve id answer) slot (answer slot) := by
  cases has : connection.slot? id with
  | none => exact .inl (Connection.resolve_of_none has answer)
  | some slot =>
      obtain ⟨-, rfl⟩ := Connection.mem_of_slot? has
      rw [Connection.resolve_of_slot has]
      exact .inr ⟨slot, rfl, has, rfl, rfl⟩

/-- The connection's own loop leaves slots and answers, or empties one slot, or empties all in the end. -/
theorem cases_loop (traffic : Traffic) (own : LoopMove) :
    ((traffic.step (.loop own)).connection.slots = traffic.connection.slots ∧
        (traffic.step (.loop own)).connection.answers = traffic.connection.answers) ∨
      (∃ slot outcome, Settles traffic slot (.loop own) outcome ∧
        Emptied traffic.connection (traffic.step (.loop own)).connection slot outcome) ∨
      (traffic.loop = .shut ∧ own = .exit ∧
        (traffic.step (.loop own)).connection = traffic.connection.failPending) := by
  obtain ⟨connection, calls, loop, now⟩ := traffic
  simp only [step]
  unfold Loop.move
  split
  next text =>
    cases told : Incoming.answer? text with
    | none =>
        obtain ⟨streams, same⟩ := Connection.receive_of_none connection told
        exact .inl (same ▸ ⟨rfl, rfl⟩)
    | some answer =>
        obtain ⟨id, outcome⟩ := answer
        rw [Connection.receive_of_answer told]
        rcases cases_resolve connection id fun slot => outcome slot.method slot.session with
          same | ⟨slot, rfl, emptied⟩
        · exact .inl (by simp only [same, and_self])
        · exact .inr (.inl ⟨slot, _, .told rfl (Incoming.means_of_answer? told), emptied⟩)
  next =>
    unfold Connection.dequeue
    cases connection.queue with
    | nil => exact .inl ⟨rfl, rfl⟩
    | cons outgoing rest => cases outgoing <;> exact .inl ⟨rfl, rfl⟩
  next => exact .inl ⟨rfl, rfl⟩
  next => exact .inl ⟨rfl, rfl⟩
  next id reason =>
    rcases cases_resolve connection id fun _ => .error (.connection reason) with same | ⟨slot, rfl, emptied⟩
    · exact .inl (by simp only [Connection.failWrite, same, and_self])
    · exact .inr (.inl ⟨slot, _, .unwritten rfl, emptied⟩)
  next => exact .inl ⟨rfl, rfl⟩
  next => exact .inl ⟨rfl, rfl⟩
  next => exact .inr (.inr ⟨rfl, rfl, rfl⟩)
  next => exact .inl ⟨rfl, rfl⟩
  next => exact .inl ⟨rfl, rfl⟩

theorem slots_step {move : Move} {slot : Slot} (member : slot ∈ (traffic.step move).connection.slots) :
    slot ∈ traffic.connection.slots ∨ ∃ (place : Nat) (call : Call), traffic.calls[place]? = some call ∧
      call.phase = .numbered slot.id := by
  cases move with
  | call place own =>
      cases found : traffic.calls[place]? with
      | none => exact .inl (by rwa [step_call_none found own] at member)
      | some call =>
          obtain ⟨phase, connection, stride, same⟩ := step_call found own
          rw [same] at member
          exact (stride.slots member).imp_right fun was => ⟨place, call, found, was⟩
  | loop own =>
      rcases traffic.cases_loop own with ⟨slots, -⟩ | ⟨settled, outcome, -, emptied⟩ | ⟨-, -, same⟩
      · exact .inl (slots ▸ member)
      · exact .inl (List.mem_filter.mp (emptied.slots ▸ member)).1
      · rw [same] at member
        cases member
  | shutdown =>
      obtain ⟨queue, same⟩ := traffic.step_shutdown
      rw [same] at member
      exact .inl member
  | start | subscribe | takeEvent | dropStream | pass => exact .inl member

theorem answers_step {move : Move} {entry : Nat × Except Error Json}
    (member : entry ∈ (traffic.step move).connection.answers) :
    entry ∈ traffic.connection.answers ∨ ∃ slot, traffic.connection.slot? entry.1 = some slot ∧
      Settles traffic slot move entry.2 := by
  cases move with
  | call place own =>
      cases found : traffic.calls[place]? with
      | none => exact .inl (by rwa [step_call_none found own] at member)
      | some call =>
          obtain ⟨phase, connection, stride, same⟩ := step_call found own
          rw [same] at member
          exact .inl (stride.answers member)
  | loop own =>
      rcases traffic.cases_loop own with ⟨-, answers⟩ | ⟨slot, outcome, settles, emptied⟩ | ⟨shut, rfl, same⟩
      · exact .inl (answers ▸ member)
      · rcases List.mem_append.mp (emptied.answers ▸ member) with before | fresh
        · exact .inl before
        · obtain rfl := List.mem_singleton.mp fresh
          exact .inr ⟨slot, emptied.had, settles⟩
      · rw [same] at member
        rcases List.mem_append.mp member with before | fresh
        · exact .inl before
        · obtain ⟨slot, inside, rfl⟩ := List.mem_map.mp fresh
          cases has : traffic.connection.slot? slot.id with
          | none => exact absurd rfl (Connection.slot?_eq_none_iff.mp has slot inside)
          | some held => exact .inr ⟨held, rfl, .stopped shut⟩
  | shutdown =>
      obtain ⟨queue, same⟩ := traffic.step_shutdown
      rw [same] at member
      exact .inl member
  | start | subscribe | takeEvent | dropStream | pass => exact .inl member

end Traffic

end RemoteDom
