import RemoteDom.Connection.Basic

/-! What the steps of a connection do to its slots and to the answers in them. -/

namespace RemoteDom

private theorem Response.id_of_ofJson? {frame named : Json} {answer : Response}
    (names : frame.get? "id" = some named) (read : ofJson? frame = some answer) :
    named.asUnsigned? = some answer.id := by
  cases frame with
  | object members =>
      have found : members.lookup "id" = some named := names
      simp only [ofJson?, Wire.record, bind, StateT.bind, Wire.required, Wire.Fields.next, found,
        Option.map_eq_some_iff, Option.bind_eq_some_iff] at read
      obtain ⟨⟨value, rest⟩, ⟨⟨id, fields⟩, ⟨number, unsigned, same⟩, later⟩, rfl⟩ := read
      obtain ⟨rfl, rfl⟩ := Prod.mk.inj same
      obtain ⟨⟨result, fields⟩, -, later⟩ := later
      obtain ⟨⟨refusal, fields⟩, -, later⟩ := later
      obtain ⟨⟨session, fields⟩, -, later⟩ := later
      obtain ⟨rfl, -⟩ := Prod.mk.inj (Option.some.inj later)
      exact unsigned
  | null | bool | integer | real | string | array => cases names

namespace Incoming

/-- The command that a frame answers, and what the answer means to the one who sent a method to a session. -/
def answer? (text : String) : Option (Nat × (String → SessionId → Except Error Json)) :=
  match read text with
  | .ok (.response reply) => some (reply.id, reply.outcome)
  | .ok (.event _) => none
  | .error error => (responseId? text).map fun id => (id, fun _ _ => .error error)

theorem fst_answer? (text : String) : (answer? text).map Prod.fst = responseId? text := by
  unfold answer? read responseId?
  cases Json.read? text with
  | none => rfl
  | some frame =>
      simp only [Option.bind_some]
      cases names : frame.get? "id" with
      | none =>
          cases frame.get? "method" with
          | none => rfl
          | some method =>
              simp only
              cases Event.ofJson? frame with
              | none => rfl
              | some event => rfl
      | some id =>
          simp only [Option.bind_some]
          cases read : Response.ofJson? frame with
          | some answer => exact (Response.id_of_ofJson? names read).symm
          | none => cases id.asUnsigned? <;> rfl

end Incoming

namespace Connection

variable {connection : Connection} {id other : Nat}

theorem slot?_eq_none_iff : connection.slot? id = none ↔ ∀ slot ∈ connection.slots, slot.id ≠ id := by
  simp [slot?]

theorem answer?_eq_none_iff :
    connection.answer? id = none ↔ ∀ entry ∈ connection.answers, entry.1 ≠ id := by
  rw [answer?, List.lookup_eq_none_iff]
  exact ⟨fun apart entry member same => by simpa [same] using apart entry member,
    fun apart entry member => by simpa using (apart entry member).symm⟩

theorem mem_of_slot? {slot : Slot} (found : connection.slot? id = some slot) :
    slot ∈ connection.slots ∧ slot.id = id :=
  ⟨List.mem_of_find?_eq_some found, by simpa using List.find?_some found⟩

theorem mem_of_answer? {outcome : Except Error Json} (found : connection.answer? id = some outcome) :
    (id, outcome) ∈ connection.answers := by
  obtain ⟨before, after, parts, -⟩ := List.lookup_eq_some_iff.mp found
  simp [parts]

private theorem slot?_abandon : (connection.abandon id).slot? id = none := by
  rw [slot?_eq_none_iff]
  simp [abandon]

private theorem slot?_abandon_ne (apart : other ≠ id) :
    (connection.abandon id).slot? other = connection.slot? other := by
  rw [slot?, slot?, abandon, List.find?_filter]
  congr 1
  funext slot
  by_cases same : slot.id = other <;> simp [same, apart]

private theorem lookup_filter_ne {answers : List (Nat × Except Error Json)} (apart : other ≠ id) :
    (answers.filter fun answer => answer.1 != id).lookup other = answers.lookup other := by
  induction answers with
  | nil => rfl
  | cons entry rest ih =>
      obtain ⟨key, outcome⟩ := entry
      by_cases same : key = id
      · subst same
        have different : (other == key) = false := by simpa using apart
        simp [List.lookup_cons, ih, different]
      · simp [same, List.lookup_cons, ih]

theorem answer?_abandon_ne (apart : other ≠ id) :
    (connection.abandon id).answer? other = connection.answer? other := lookup_filter_ne apart

theorem resolve_of_slot {slot : Slot} (found : connection.slot? id = some slot)
    (answer : Slot → Except Error Json) :
    connection.resolve id answer =
      { connection with
        slots := connection.slots.filter fun slot => slot.id != id
        answers := connection.answers ++ [(id, answer slot)] } := by
  simp [resolve, found]

theorem resolve_of_none (none : connection.slot? id = none) (answer : Slot → Except Error Json) :
    connection.resolve id answer = connection := by
  simp [resolve, none]

theorem slot?_resolve_ne (apart : other ≠ id) (answer : Slot → Except Error Json) :
    (connection.resolve id answer).slot? other = connection.slot? other := by
  cases found : connection.slot? id with
  | none => rw [resolve_of_none found]
  | some slot =>
      rw [resolve_of_slot found]
      exact slot?_abandon_ne apart

theorem answer?_resolve_ne (apart : other ≠ id) (answer : Slot → Except Error Json) :
    (connection.resolve id answer).answer? other = connection.answer? other := by
  cases found : connection.slot? id with
  | none => rw [resolve_of_none found]
  | some slot =>
      have different : (other == id) = false := by simpa using apart
      simp [resolve_of_slot found, answer?, List.lookup_append, List.lookup_cons, different]

theorem slot?_resolve (answer : Slot → Except Error Json) :
    (connection.resolve id answer).slot? id = none := by
  cases found : connection.slot? id with
  | none => rw [resolve_of_none found, found]
  | some slot =>
      rw [resolve_of_slot found]
      exact slot?_abandon

theorem answer?_failPending (connection : Connection) (id : Nat) :
    connection.failPending.answer? id =
      (connection.answer? id).or ((connection.slot? id).map fun _ => .error .connectionClosed) := by
  have closed (slots : List Slot) : (slots.map fun slot =>
      (slot.id, (.error .connectionClosed : Except Error Json))).lookup id =
        (slots.find? fun slot => slot.id == id).map fun _ => .error .connectionClosed := by
    induction slots with
    | nil => rfl
    | cons slot rest ih =>
        by_cases same : slot.id = id
        · simp [same]
        · have apart : (id == slot.id) = false := by simpa using fun equal : id = slot.id => same equal.symm
          simp [List.lookup_cons, same, apart, ih]
  rw [failPending, answer?, List.lookup_append, closed]
  rfl

theorem receive_of_answer {text : String} {answer : String → SessionId → Except Error Json}
    (found : Incoming.answer? text = some (id, answer)) :
    connection.receive text = connection.resolve id fun slot => answer slot.method slot.session := by
  unfold Incoming.answer? at found
  unfold receive
  cases readable : Incoming.read text with
  | ok incoming =>
      rw [readable] at found
      cases incoming with
      | response reply =>
          obtain ⟨rfl, rfl⟩ := Prod.mk.inj (Option.some.inj found)
          rfl
      | event event => cases found
  | error error =>
      rw [readable] at found
      obtain ⟨command, named, same⟩ := Option.map_eq_some_iff.mp found
      obtain ⟨rfl, rfl⟩ := Prod.mk.inj same
      simp only [named]

theorem receive_of_none (connection : Connection) {text : String} (silent : Incoming.answer? text = none) :
    ∃ streams, connection.receive text = { connection with streams } := by
  unfold Incoming.answer? at silent
  unfold receive
  cases readable : Incoming.read text with
  | ok incoming =>
      rw [readable] at silent
      cases incoming with
      | response reply => cases silent
      | event event => exact ⟨_, rfl⟩
  | error error =>
      rw [readable] at silent
      have unnamed := Option.map_eq_none_iff.mp silent
      exact ⟨connection.streams, by simp only [unnamed]⟩

theorem exists_resolve (connection : Connection) (id : Nat) (answer : Slot → Except Error Json) :
    ∃ slots answers, connection.resolve id answer = { connection with slots, answers } := by
  cases found : connection.slot? id with
  | none => exact ⟨connection.slots, connection.answers, resolve_of_none found answer⟩
  | some slot => exact ⟨_, _, resolve_of_slot found answer⟩

theorem exists_receive (connection : Connection) (text : String) :
    ∃ slots answers streams, connection.receive text = { connection with slots, answers, streams } := by
  cases told : Incoming.answer? text with
  | none =>
      obtain ⟨streams, same⟩ := receive_of_none connection told
      exact ⟨connection.slots, connection.answers, streams, same⟩
  | some answer =>
      obtain ⟨slots, answers, same⟩ := connection.exists_resolve answer.1 fun slot =>
        answer.2 slot.method slot.session
      exact ⟨slots, answers, connection.streams, (receive_of_answer told).trans same⟩

end Connection

end RemoteDom
