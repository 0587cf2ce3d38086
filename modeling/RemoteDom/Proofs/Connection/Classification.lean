import RemoteDom.Proofs.Connection.Correlation

/-! What a frame is and which command it answers. A frame is read in two ways, whole and for its identifier alone; the
two agree on every text, so that a frame settles the command that it names, however ill-formed the rest of it is, and no
frame settles any other. -/

namespace RemoteDom

namespace Json

private theorem asUnsigned?_eq_some_iff {value : Json} {n : Nat} :
    value.asUnsigned? = some n ↔ value = .integer n ∧ n < 18446744073709551616 := by
  constructor
  · intro read
    cases value with
    | integer value =>
        simp only [asUnsigned?] at read
        split at read
        next within =>
          obtain rfl := Option.some.inj read
          rw [Int.toNat_of_nonneg within.1]
          exact ⟨rfl, by omega⟩
        next => cases read
    | _ => cases read
  · rintro ⟨rfl, small⟩
    rw [asUnsigned?, if_pos ⟨Int.natCast_nonneg n, by omega⟩, Int.toNat_natCast]

end Json

namespace Incoming

/-- The text is valid JSON, and its frame has the number for an identifier, whatever else it has. -/
def Names (text : String) (id : Nat) : Prop :=
  ∃ frame, Json.read? text = some frame ∧ frame.get? "id" = some (.integer id) ∧ id < 18446744073709551616

private theorem responseId?_eq_some_iff {text : String} {id : Nat} : responseId? text = some id ↔ Names text id := by
  simp only [responseId?, Option.bind_eq_some_iff, Json.asUnsigned?_eq_some_iff, Names]
  constructor
  · rintro ⟨frame, valid, written, found, rfl, small⟩
    exact ⟨frame, valid, found, small⟩
  · rintro ⟨frame, valid, found, small⟩
    exact ⟨frame, valid, _, found, rfl, small⟩

private theorem unidentified_of_event {text : String} {event : Event} (happened : read text = .ok (.event event)) :
    ∃ frame, Json.read? text = some frame ∧ frame.get? "id" = none := by
  unfold read at happened
  cases valid : Json.read? text with
  | none => rw [valid] at happened; cases happened
  | some frame =>
      refine ⟨frame, rfl, ?_⟩
      cases written : frame.get? "id" with
      | none => rfl
      | some id =>
          simp only [valid, written] at happened
          split at happened
          · cases happened
          · split at happened <;> cases happened

/-- A frame is a response, or refused as the unreadable one to a command, exactly if it names the command. -/
private theorem responseId?_iff_read {text : String} {id : Nat} :
    responseId? text = some id ↔
      (∃ response, read text = .ok (.response response) ∧ response.id = id) ∨
        read text = .error (.unreadableResponse id) := by
  constructor
  · intro named
    obtain ⟨outcome, meaning⟩ : ∃ outcome, Means text ⟨id, "", .topLevel⟩ outcome := exists_means named
    cases meaning with
    | @readable response readable same => exact .inl ⟨response, readable, same⟩
    | unreadable unreadable => exact .inr unreadable
  · have named {outcome : Except Error Json} (meaning : Means text ⟨id, "", .topLevel⟩ outcome) :
        responseId? text = some id := by
      obtain ⟨answer, found, -⟩ := meaning.answer?
      rw [← fst_answer?, found]
      rfl
    rintro (⟨response, readable, same⟩ | unreadable)
    · exact named (.readable readable same)
    · exact named (.unreadable unreadable)

end Incoming

namespace Connection

/-- What a frame does to the commands that wait on a connection. -/
structure Settled (connection : Connection) (text : String) : Prop where
  named : ∀ id slot, Incoming.Names text id → connection.slot? id = some slot →
    ∃ outcome, Means text slot outcome ∧ connection.receive text =
      { connection with
        slots := connection.slots.filter fun slot => slot.id != id
        answers := connection.answers ++ [(id, outcome)] }
  unnamed : (∀ id, Incoming.Names text id → connection.slot? id = none) →
    ∃ streams, connection.receive text = { connection with streams }

private theorem settled_receive (connection : Connection) (text : String) : Settled connection text := by
  constructor
  · intro id slot names waiting
    have named := Incoming.responseId?_eq_some_iff.mpr names
    rw [← Incoming.fst_answer?] at named
    obtain ⟨⟨number, answer⟩, found, rfl⟩ := Option.map_eq_some_iff.mp named
    obtain ⟨-, same⟩ := mem_of_slot? waiting
    refine ⟨answer slot.method slot.session, Incoming.means_of_answer? (same ▸ found), ?_⟩
    rw [receive_of_answer found, resolve_of_slot waiting]
  · intro unknown
    cases told : Incoming.answer? text with
    | none => exact connection.receive_of_none told
    | some answered =>
        obtain ⟨id, answer⟩ := answered
        have named : Incoming.responseId? text = some id := by rw [← Incoming.fst_answer?, told]; rfl
        rw [receive_of_answer told, resolve_of_none (unknown id (Incoming.responseId?_eq_some_iff.mp named))]
        exact ⟨connection.streams, rfl⟩

end Connection

/-- The two ways in which a frame is read agree on its identifier, and what is read decides which command it settles. -/
theorem Incoming.frame_classified (text : String) :
    (∀ response, read text = .ok (.response response) → responseId? text = some response.id) ∧
      (∀ event, read text = .ok (.event event) →
        (∃ frame, Json.read? text = some frame ∧ frame.get? "id" = none) ∧ responseId? text = none) ∧
      (∀ id, responseId? text = some id ↔
        (∃ response, read text = .ok (.response response) ∧ response.id = id) ∨
          read text = .error (.unreadableResponse id)) ∧
      (∀ id, responseId? text = some id ↔ Names text id) ∧
      ∀ connection : Connection, connection.Settled text := by
  refine ⟨fun response readable => responseId?_iff_read.mpr (.inl ⟨response, readable, rfl⟩), fun event happened => ?_,
    fun _ => responseId?_iff_read, fun _ => responseId?_eq_some_iff, fun connection => connection.settled_receive text⟩
  obtain ⟨frame, valid, nameless⟩ := unidentified_of_event happened
  refine ⟨⟨frame, valid, nameless⟩, ?_⟩
  rw [responseId?, valid, Option.bind_some, nameless, Option.bind_none]

end RemoteDom
