import RemoteDom.Proofs.Connection.Slots
import RemoteDom.Proofs.Connection.Traffic
import Mathlib.Data.List.Induction

/-! Whose slots and answers a connection has. The invariant of all traffic on it. -/

namespace RemoteDom

section Moved

variable {calls : List Call} {place other : Nat} {call found : Call} {phase : Phase}

theorem getElem?_moved (here : calls[place]? = some call) :
    (calls.set place { call with phase })[place]? = some { call with phase } := by
  obtain ⟨inside, -⟩ := List.getElem?_eq_some_iff.mp here
  exact List.getElem?_set_self inside

theorem getElem?_moved_ne (apart : other ≠ place) :
    (calls.set place { call with phase })[other]? = calls[other]? :=
  List.getElem?_set_ne apart.symm

theorem cases_moved (here : calls[place]? = some call)
    (there : (calls.set place { call with phase })[other]? = some found) :
    other = place ∧ found = { call with phase } ∨ other ≠ place ∧ calls[other]? = some found := by
  by_cases same : other = place
  · subst same
    rw [getElem?_moved here] at there
    exact .inl ⟨rfl, (Option.some.inj there).symm⟩
  · rw [getElem?_moved_ne same] at there
    exact .inr ⟨same, there⟩

end Moved

/-- Numbers are given in order, and each to one call. -/
structure Numbers (calls : List Call) (nextId : Nat) : Prop where
  below : ∀ {place id : Nat} {call : Call}, calls[place]? = some call → call.phase.id? = some id →
    id < nextId
  distinct : ∀ {place other id : Nat} {first second : Call}, calls[place]? = some first →
    calls[other]? = some second → first.phase.id? = some id → second.phase.id? = some id → place = other

namespace Numbers

variable {calls : List Call} {nextId place : Nat} {call : Call} {phase : Phase}

theorem start (numbers : Numbers calls nextId) (fresh : call.phase = .entering) :
    Numbers (calls ++ [call]) nextId := by
  have old {place id : Nat} {found : Call} (there : (calls ++ [call])[place]? = some found)
      (given : found.phase.id? = some id) : calls[place]? = some found := by
    rw [List.getElem?_append] at there
    split at there
    · exact there
    · have same := List.mem_singleton.mp (List.mem_of_getElem? there)
      rw [same, fresh] at given
      cases given
  constructor
  · exact fun found given => numbers.below (old found given) given
  · exact fun first second one two => numbers.distinct (old first one) (old second two) one two

theorem keep (numbers : Numbers calls nextId) (found : calls[place]? = some call)
    (given : phase.id? = call.phase.id?) : Numbers (calls.set place { call with phase }) nextId := by
  have old {other : Nat} {it : Call} (there : (calls.set place { call with phase })[other]? = some it) :
      ∃ before : Call, calls[other]? = some before ∧ before.phase.id? = it.phase.id? := by
    rcases cases_moved found there with ⟨rfl, rfl⟩ | ⟨-, was⟩
    · exact ⟨call, found, given.symm⟩
    · exact ⟨it, was, rfl⟩
  constructor
  · intro other id it there has
    obtain ⟨before, was, same⟩ := old there
    exact numbers.below was (same.trans has)
  · intro other another id first second one two firstHas secondHas
    obtain ⟨before, was, same⟩ := old one
    obtain ⟨earlier, were, equal⟩ := old two
    exact numbers.distinct was were (same.trans firstHas) (equal.trans secondHas)

theorem number (numbers : Numbers calls nextId) (found : calls[place]? = some call) :
    Numbers (calls.set place { call with phase := .numbered nextId }) (nextId + 1) := by
  have old {other id : Nat} {it : Call}
      (there : (calls.set place { call with phase := .numbered nextId })[other]? = some it)
      (given : it.phase.id? = some id) :
      other = place ∧ id = nextId ∨ calls[other]? = some it ∧ id < nextId := by
    rcases cases_moved found there with ⟨rfl, rfl⟩ | ⟨-, was⟩
    · exact .inl ⟨rfl, (Option.some.inj given).symm⟩
    · exact .inr ⟨was, numbers.below was given⟩
  constructor
  · intro other id it there given
    rcases old there given with ⟨-, rfl⟩ | ⟨-, below⟩
    · omega
    · omega
  · intro other another id first second one two firstHas secondHas
    rcases old one firstHas with ⟨rfl, rfl⟩ | ⟨were, below⟩
    · rcases old two secondHas with ⟨rfl, -⟩ | ⟨-, below⟩
      · rfl
      · omega
    · rcases old two secondHas with ⟨-, rfl⟩ | ⟨was, -⟩
      · omega
      · exact numbers.distinct were was firstHas secondHas

end Numbers

/-- Every slot and every answer belongs to a call that holds its number, no number has both, and a call that
awaits an answer has one of them. -/
structure Ledger (calls : List Call) (connection : Connection) : Prop where
  numbers : Numbers calls connection.nextId
  owned : ∀ slot ∈ connection.slots, ∃ (place : Nat) (call : Call), calls[place]? = some call ∧
    call.phase.holds? = some slot.id ∧ slot = call.slot slot.id
  answered : ∀ entry ∈ connection.answers, ∃ (place : Nat) (call : Call), calls[place]? = some call ∧
    call.phase.holds? = some entry.1
  exclusive : ∀ slot ∈ connection.slots, ∀ entry ∈ connection.answers, slot.id ≠ entry.1
  awaited : ∀ {place id : Nat} {call : Call}, calls[place]? = some call → call.phase.awaits? = some id →
    (∃ slot ∈ connection.slots, slot.id = id) ∨ ∃ entry ∈ connection.answers, entry.1 = id

namespace Ledger

variable {calls : List Call} {connection other : Connection} {place id : Nat} {call : Call} {phase : Phase}

theorem opening : Ledger [] .fresh where
  numbers := ⟨by simp, by simp⟩
  owned := by simp [Connection.fresh]
  answered := by simp [Connection.fresh]
  exclusive := by simp [Connection.fresh]
  awaited := by simp

theorem congr (ledger : Ledger calls connection) (number : other.nextId = connection.nextId)
    (slots : other.slots = connection.slots) (answers : other.answers = connection.answers) :
    Ledger calls other where
  numbers := number ▸ ledger.numbers
  owned := slots ▸ ledger.owned
  answered := answers ▸ ledger.answered
  exclusive := slots ▸ answers ▸ ledger.exclusive
  awaited found awaits := slots ▸ answers ▸ ledger.awaited found awaits

theorem no_slot (ledger : Ledger calls connection) (found : calls[place]? = some call)
    (given : call.phase.id? = some id) (free : call.phase.holds? ≠ some id) :
    connection.slot? id = none := by
  rw [Connection.slot?_eq_none_iff]
  rintro slot member rfl
  obtain ⟨owner, holder, there, holds, -⟩ := ledger.owned slot member
  obtain rfl := ledger.numbers.distinct found there given (Phase.id?_of_holds? holds)
  exact free (Option.some.inj (found.symm.trans there) ▸ holds)

theorem no_answer (ledger : Ledger calls connection) (found : calls[place]? = some call)
    (given : call.phase.id? = some id) (free : call.phase.holds? ≠ some id) :
    connection.answer? id = none := by
  rw [Connection.answer?_eq_none_iff]
  rintro entry member rfl
  obtain ⟨owner, holder, there, holds⟩ := ledger.answered entry member
  obtain rfl := ledger.numbers.distinct found there given (Phase.id?_of_holds? holds)
  exact free (Option.some.inj (found.symm.trans there) ▸ holds)

theorem no_slot_of_answer (ledger : Ledger calls connection) {outcome : Except Error Json}
    (answer : connection.answer? id = some outcome) : connection.slot? id = none := by
  rw [Connection.slot?_eq_none_iff]
  intro slot member
  exact ledger.exclusive slot member (id, outcome) (Connection.mem_of_answer? answer)

theorem slot_of_call (ledger : Ledger calls connection) (found : calls[place]? = some call)
    (given : call.phase.id? = some id) {slot : Slot} (has : connection.slot? id = some slot) :
    slot = call.slot id ∧ call.phase.holds? = some id := by
  obtain ⟨member, rfl⟩ := Connection.mem_of_slot? has
  obtain ⟨owner, holder, there, holds, same⟩ := ledger.owned slot member
  obtain rfl := ledger.numbers.distinct found there given (Phase.id?_of_holds? holds)
  obtain rfl := Option.some.inj (found.symm.trans there)
  exact ⟨same, holds⟩

theorem start (ledger : Ledger calls connection) (fresh : call.phase = .entering) :
    Ledger (calls ++ [call]) connection := by
  have kept {place : Nat} {found : Call} (there : calls[place]? = some found) :
      (calls ++ [call])[place]? = some found := by
    rw [List.getElem?_append_left (List.getElem?_eq_some_iff.mp there).1]
    exact there
  constructor
  · exact ledger.numbers.start fresh
  · intro slot member
    obtain ⟨owner, holder, there, holds⟩ := ledger.owned slot member
    exact ⟨owner, holder, kept there, holds⟩
  · intro entry member
    obtain ⟨owner, holder, there, holds⟩ := ledger.answered entry member
    exact ⟨owner, holder, kept there, holds⟩
  · exact ledger.exclusive
  · intro place id found there awaits
    rw [List.getElem?_append] at there
    split at there
    · exact ledger.awaited there awaits
    · have same := List.mem_singleton.mp (List.mem_of_getElem? there)
      rw [same, fresh] at awaits
      cases awaits

private theorem carry (ledger : Ledger calls connection) (found : calls[place]? = some call)
    (given : phase.id? = call.phase.id?) (holds : phase.holds? = call.phase.holds?)
    (awaits : ∀ id, phase.awaits? = some id → call.phase.awaits? = some id) :
    Ledger (calls.set place { call with phase }) connection := by
  have kept {other : Nat} {it : Call} (there : calls[other]? = some it) :
      ∃ after, (calls.set place { call with phase })[other]? = some after ∧
        after.phase.holds? = it.phase.holds? ∧ after.slot = it.slot := by
    by_cases same : other = place
    · subst same
      obtain rfl := Option.some.inj (found.symm.trans there)
      exact ⟨_, getElem?_moved found, holds, rfl⟩
    · exact ⟨it, by rwa [getElem?_moved_ne same], rfl, rfl⟩
  constructor
  · exact ledger.numbers.keep found given
  · intro slot member
    obtain ⟨owner, holder, there, holding, shape⟩ := ledger.owned slot member
    obtain ⟨after, now, same, slots⟩ := kept there
    exact ⟨owner, after, now, same.trans holding, slots ▸ shape⟩
  · intro entry member
    obtain ⟨owner, holder, there, holding⟩ := ledger.answered entry member
    obtain ⟨after, now, same, -⟩ := kept there
    exact ⟨owner, after, now, same.trans holding⟩
  · exact ledger.exclusive
  · intro other id it there awaiting
    rcases cases_moved found there with ⟨rfl, rfl⟩ | ⟨-, was⟩
    · exact ledger.awaited found (awaits id awaiting)
    · exact ledger.awaited was awaiting

theorem number (ledger : Ledger calls connection) (found : calls[place]? = some call)
    (unnumbered : call.phase.id? = none) :
    Ledger (calls.set place { call with phase := .numbered connection.nextId }) connection.allocate.2 := by
  have kept {other id : Nat} {it : Call} (there : calls[other]? = some it)
      (holds : it.phase.holds? = some id) :
      (calls.set place { call with phase := .numbered connection.nextId })[other]? = some it := by
    have apart : other ≠ place := by
      rintro rfl
      obtain rfl := Option.some.inj (found.symm.trans there)
      simp [Phase.id?_of_holds? holds] at unnumbered
    rwa [getElem?_moved_ne apart]
  constructor
  · exact ledger.numbers.number found
  · intro slot member
    obtain ⟨owner, holder, there, holds, shape⟩ := ledger.owned slot member
    exact ⟨owner, holder, kept there holds, holds, shape⟩
  · intro entry member
    obtain ⟨owner, holder, there, holds⟩ := ledger.answered entry member
    exact ⟨owner, holder, kept there holds, holds⟩
  · exact ledger.exclusive
  · intro other id it there awaits
    rcases cases_moved found there with ⟨rfl, rfl⟩ | ⟨-, was⟩
    · cases awaits
    · exact ledger.awaited was awaits

theorem reserve (ledger : Ledger calls connection) (found : calls[place]? = some call)
    (numbered : call.phase = .numbered id) :
    Ledger (calls.set place { call with phase := .reserved id }) (connection.reserve (call.slot id)) := by
  have given : call.phase.id? = some id := by rw [numbered]; rfl
  have free : call.phase.holds? ≠ some id := by rw [numbered]; exact fun holds => nomatch holds
  have unanswered := Connection.answer?_eq_none_iff.mp (ledger.no_answer found given free)
  have kept {other : Nat} {it : Call} {number : Nat} (there : calls[other]? = some it)
      (holds : it.phase.holds? = some number) :
      (calls.set place { call with phase := .reserved id })[other]? = some it := by
    have apart : other ≠ place := by
      rintro rfl
      obtain rfl := Option.some.inj (found.symm.trans there)
      rw [numbered] at holds
      cases holds
    rwa [getElem?_moved_ne apart]
  have fresh {slot : Slot} (member : slot ∈ (connection.reserve (call.slot id)).slots) :
      slot ∈ connection.slots ∨ slot = call.slot id := by
    simpa [Connection.reserve] using member
  constructor
  · exact ledger.numbers.keep found given.symm
  · intro slot member
    rcases fresh member with before | rfl
    · obtain ⟨owner, holder, there, holds, shape⟩ := ledger.owned slot before
      exact ⟨owner, holder, kept there holds, holds, shape⟩
    · exact ⟨place, _, getElem?_moved found, rfl, rfl⟩
  · intro entry member
    obtain ⟨owner, holder, there, holds⟩ := ledger.answered entry member
    exact ⟨owner, holder, kept there holds, holds⟩
  · intro slot member entry answer
    rcases fresh member with before | rfl
    · exact ledger.exclusive slot before entry answer
    · exact (unanswered entry answer).symm
  · intro other number it there awaits
    rcases cases_moved found there with ⟨rfl, rfl⟩ | ⟨-, was⟩
    · have same : id = number := Option.some.inj awaits
      exact .inl ⟨call.slot id, by simp [Connection.reserve], same⟩
    · refine (ledger.awaited was awaits).imp_left fun ⟨slot, member, same⟩ => ⟨slot, ?_, same⟩
      simp [Connection.reserve, member]

theorem release (ledger : Ledger calls connection) (found : calls[place]? = some call)
    (held : call.phase.holds? = some id) (given : phase.id? = some id) (holds : phase.holds? = none) :
    Ledger (calls.set place { call with phase }) (connection.abandon id) := by
  have had := Phase.id?_of_holds? held
  have kept {other number : Nat} {it : Call} (there : calls[other]? = some it)
      (holding : it.phase.holds? = some number) (apart : number ≠ id) :
      (calls.set place { call with phase })[other]? = some it := by
    have elsewhere : other ≠ place := by
      rintro rfl
      obtain rfl := Option.some.inj (found.symm.trans there)
      exact apart (Option.some.inj (holding.symm.trans held))
    rwa [getElem?_moved_ne elsewhere]
  constructor
  · exact ledger.numbers.keep found (given.trans had.symm)
  · intro slot member
    obtain ⟨before, apart⟩ : slot ∈ connection.slots ∧ slot.id ≠ id := by
      simpa [Connection.abandon] using member
    obtain ⟨owner, holder, there, holding, shape⟩ := ledger.owned slot before
    exact ⟨owner, holder, kept there holding apart, holding, shape⟩
  · intro entry member
    obtain ⟨before, apart⟩ : entry ∈ connection.answers ∧ entry.1 ≠ id := by
      simpa [Connection.abandon] using member
    obtain ⟨owner, holder, there, holding⟩ := ledger.answered entry before
    exact ⟨owner, holder, kept there holding apart, holding⟩
  · intro slot member entry answer
    exact ledger.exclusive slot (List.mem_filter.mp member).1 entry (List.mem_filter.mp answer).1
  · intro other number it there awaits
    rcases cases_moved found there with ⟨rfl, rfl⟩ | ⟨elsewhere, was⟩
    · have holding := Phase.holds?_of_awaits? awaits
      rw [holds] at holding
      cases holding
    · have apart : number ≠ id := by
        rintro rfl
        have has := Phase.id?_of_holds? (Phase.holds?_of_awaits? awaits)
        exact elsewhere (ledger.numbers.distinct was found has had)
      rcases ledger.awaited was awaits with ⟨slot, member, rfl⟩ | ⟨entry, member, rfl⟩
      · exact .inl ⟨slot, by simp [Connection.abandon, member, apart], rfl⟩
      · exact .inr ⟨entry, by simp [Connection.abandon, member, apart], rfl⟩

theorem stride (ledger : Ledger calls connection) {now : Nat} (found : calls[place]? = some call)
    (stride : Stride now connection call phase other) : Ledger (calls.set place { call with phase }) other := by
  cases stride with
  | idle => exact ledger.carry found rfl rfl fun _ same => same
  | refused was | admitted was => exact ledger.carry found (by rw [was]; rfl) (by rw [was]; rfl) nofun
  | numbered was => exact ledger.number found (by rw [was]; rfl)
  | reserved was => exact ledger.reserve found was
  | queued was =>
      refine Ledger.congr (ledger.carry found ?_ ?_ ?_) rfl rfl rfl
      · rw [was]; rfl
      · rw [was]; rfl
      · rw [was]; exact fun _ same => same
  | unqueued was | answered was | late was =>
      exact ledger.carry found (by rw [was]; rfl) (by rw [was]; rfl) nofun
  | unanswered was | early was =>
      exact ledger.carry found (by rw [was]; rfl) (by rw [was]; rfl) (by rw [was]; exact fun _ same => same)
  | finished was => exact ledger.release found (by rw [was]; rfl) rfl rfl
  | droppedFirst was =>
      rcases was with was | was <;> exact ledger.carry found (by rw [was]; rfl) (by rw [was]; rfl) nofun
  | droppedNumbered was => exact ledger.carry found (by rw [was]; rfl) (by rw [was]; rfl) nofun
  | droppedAwaiting awaits => exact ledger.release found (Phase.holds?_of_awaits? awaits) rfl rfl

theorem resolve (ledger : Ledger calls connection) (id : Nat) (answer : Slot → Except Error Json) :
    Ledger calls (connection.resolve id answer) := by
  cases has : connection.slot? id with
  | none =>
      rw [Connection.resolve_of_none has]
      exact ledger
  | some slot =>
      obtain ⟨inside, rfl⟩ := Connection.mem_of_slot? has
      rw [Connection.resolve_of_slot has]
      constructor
      · exact ledger.numbers
      · intro other member
        exact ledger.owned other (List.mem_filter.mp member).1
      · intro entry member
        rcases List.mem_append.mp member with before | fresh
        · exact ledger.answered entry before
        · obtain rfl := List.mem_singleton.mp fresh
          obtain ⟨owner, holder, there, holds, -⟩ := ledger.owned slot inside
          exact ⟨owner, holder, there, holds⟩
      · intro other member entry told
        obtain ⟨among, apart⟩ := List.mem_filter.mp member
        rcases List.mem_append.mp told with before | fresh
        · exact ledger.exclusive other among entry before
        · obtain rfl := List.mem_singleton.mp fresh
          simpa using apart
      · intro other number it there awaits
        rcases ledger.awaited there awaits with ⟨room, member, rfl⟩ | ⟨entry, member, rfl⟩
        · by_cases same : room.id = slot.id
          · exact .inr ⟨(slot.id, answer slot), by simp, same.symm⟩
          · exact .inl ⟨room, List.mem_filter.mpr ⟨member, by simpa using same⟩, rfl⟩
        · exact .inr ⟨entry, List.mem_append_left _ member, rfl⟩

theorem failPending (ledger : Ledger calls connection) : Ledger calls connection.failPending := by
  constructor
  · exact ledger.numbers
  · intro slot member
    cases member
  · intro entry member
    rcases List.mem_append.mp member with before | fresh
    · exact ledger.answered entry before
    · obtain ⟨slot, inside, rfl⟩ := List.mem_map.mp fresh
      obtain ⟨owner, holder, there, holds, -⟩ := ledger.owned slot inside
      exact ⟨owner, holder, there, holds⟩
  · intro slot member
    cases member
  · intro other number it there awaits
    refine .inr ?_
    rcases ledger.awaited there awaits with ⟨slot, member, rfl⟩ | ⟨entry, member, rfl⟩
    · exact ⟨_, List.mem_append_right _ (List.mem_map_of_mem member), rfl⟩
    · exact ⟨entry, List.mem_append_left _ member, rfl⟩

theorem receive (ledger : Ledger calls connection) (text : String) :
    Ledger calls (connection.receive text) := by
  cases told : Incoming.answer? text with
  | none =>
      obtain ⟨streams, same⟩ := Connection.receive_of_none connection told
      exact same ▸ ledger.congr rfl rfl rfl
  | some answer =>
      rw [Connection.receive_of_answer told]
      exact ledger.resolve _ _

theorem loop (ledger : Ledger calls connection) (loop : Loop) (own : LoopMove) :
    Ledger calls (loop.move connection own).2 := by
  unfold Loop.move
  split
  next text => exact ledger.receive text
  next =>
    unfold Connection.dequeue
    cases connection.queue with
    | nil => exact ledger
    | cons outgoing rest => cases outgoing <;> exact ledger.congr rfl rfl rfl
  next => exact ledger
  next => exact ledger
  next id reason => exact ledger.resolve id _
  next => exact ledger.congr rfl rfl rfl
  next => exact ledger.congr rfl rfl rfl
  next => exact ledger.failPending
  next => exact ledger.congr rfl rfl rfl
  next => exact ledger

end Ledger

namespace Traffic

theorem step_call {traffic : Traffic} {place : Nat} {call : Call} (found : traffic.calls[place]? = some call)
    (own : CallMove) :
    ∃ phase connection, Stride traffic.now traffic.connection call phase connection ∧
      traffic.step (.call place own) =
        { traffic with connection, calls := traffic.calls.set place { call with phase } } :=
  ⟨_, _, call.stride_move traffic.now traffic.connection own, by simp [step, found]⟩

theorem step_call_none {traffic : Traffic} {place : Nat} (missing : traffic.calls[place]? = none)
    (own : CallMove) : traffic.step (.call place own) = traffic := by
  simp [step, missing]

theorem step_shutdown (traffic : Traffic) :
    ∃ queue, traffic.step .shutdown = { traffic with connection := { traffic.connection with queue } } := by
  have queued : ∃ queue, (traffic.connection.enqueue .shutdown).getD traffic.connection =
      { traffic.connection with queue } := by
    unfold Connection.enqueue
    split
    · exact ⟨_, rfl⟩
    · exact ⟨traffic.connection.queue, rfl⟩
  obtain ⟨queue, same⟩ := queued
  exact ⟨queue, by rw [step, same]⟩

theorem ledger_step {traffic : Traffic} (ledger : Ledger traffic.calls traffic.connection) (move : Move) :
    Ledger (traffic.step move).calls (traffic.step move).connection := by
  cases move with
  | start session command limit => exact ledger.start rfl
  | call place own =>
      cases found : traffic.calls[place]? with
      | none =>
          rw [step_call_none found own]
          exact ledger
      | some call =>
          obtain ⟨phase, connection, stride, same⟩ := step_call found own
          rw [same]
          exact ledger.stride found stride
  | loop own => exact ledger.loop traffic.loop own
  | shutdown =>
      obtain ⟨queue, same⟩ := traffic.step_shutdown
      exact same ▸ ledger.congr rfl rfl rfl
  | subscribe | takeEvent | dropStream => exact ledger.congr rfl rfl rfl
  | pass => exact ledger

private theorem ledger_runFrom {traffic : Traffic} (ledger : Ledger traffic.calls traffic.connection)
    (moves : List Move) : Ledger (traffic.runFrom moves).calls (traffic.runFrom moves).connection := by
  induction moves generalizing traffic with
  | nil => exact ledger
  | cons move rest ih => exact ih (ledger_step ledger move)

theorem ledger_run (moves : List Move) : Ledger (run moves).calls (run moves).connection :=
  ledger_runFrom Ledger.opening moves

end Traffic

end RemoteDom
