import RemoteDom.Connection.Streams

/-! What streams of events hold, and how they end. -/

namespace RemoteDom

structure Streams.Ended (streams : Streams) : Prop where
  ended : streams.ended = true
  dead : ∀ stream ∈ streams.held, stream.live = false

namespace Streams.Ended

variable {streams : Streams}

theorem close (streams : Streams) : streams.close.Ended where
  ended := rfl
  dead stream member := by
    obtain ⟨before, -, rfl⟩ := List.mem_map.mp member
    rfl

theorem subscribe (ended : streams.Ended) (method : String) (session : Option SessionId) :
    (streams.subscribe method session).2.Ended where
  ended := ended.ended
  dead stream member := by
    rcases List.mem_append.mp member with before | fresh
    · exact ended.dead stream before
    · rw [List.mem_singleton.mp fresh, ended.ended]
      rfl

theorem take (ended : streams.Ended) (id : Nat) : (streams.take id).2.Ended := by
  unfold Streams.take
  split
  · exact ended
  split
  · refine ⟨ended.ended, fun stream member => ?_⟩
    obtain ⟨before, inside, rfl⟩ := List.mem_map.mp member
    split
    · exact ended.dead before inside
    · exact ended.dead before inside
  · exact ended

theorem drop (ended : streams.Ended) (id : Nat) : (streams.drop id).Ended where
  ended := ended.ended
  dead stream member := ended.dead stream (List.mem_filter.mp member).1

end Streams.Ended

namespace Streams

variable {streams : Streams} {id other : Nat}

/-- What was delivered to a stream and not yet taken. -/
def remaining (streams : Streams) (id : Nat) : List Event :=
  ((streams.get? id).map Stream.received).getD []

theorem get?_subscribe (streams : Streams) (method : String) (session : Option SessionId) (id : Nat) :
    (streams.subscribe method session).2.get? id = (streams.get? id).or
      (if streams.nextId = id then some ⟨id, method, session, [], !streams.ended⟩ else none) := by
  unfold get? subscribe
  rw [List.find?_append]
  by_cases fresh : streams.nextId = id <;> simp [fresh]

theorem get?_drop (streams : Streams) (dropped id : Nat) :
    (streams.drop dropped).get? id = if id = dropped then none else streams.get? id := by
  unfold get? drop
  rw [List.find?_filter]
  split
  next same => simp [same]
  next apart =>
    congr 1
    funext stream
    by_cases same : stream.id = id <;> simp [same, apart]

private theorem get?_take_held (streams : Streams) {oldest : Event} {rest : List Event} {stream : Stream}
    (found : streams.get? id = some stream) (held : stream.received = oldest :: rest) (other : Nat) :
    (streams.take id).2.get? other = (streams.get? other).map fun stream =>
      if stream.id = id then { stream with received := rest } else stream := by
  unfold take
  rw [found]
  simp only [held]
  unfold get?
  rw [List.find?_map]
  congr 2
  funext stream
  by_cases same : stream.id = id <;> simp [same]

theorem get?_take (streams : Streams) (taken id : Nat) :
    (streams.take taken).2.get? id =
      if id = taken then (streams.get? id).map fun stream => { stream with received := stream.received.tail }
      else streams.get? id := by
  cases found : streams.get? taken with
  | none =>
      have same : (streams.take taken).2 = streams := by simp [take, found]
      rw [same]
      split
      next same => simp [same, found]
      next => rfl
  | some stream =>
      cases held : stream.received with
      | nil =>
          have same : (streams.take taken).2 = streams := by simp [take, found, held]
          rw [same]
          split
          next same =>
            subst same
            have still : { stream with received := stream.received.tail } = stream := by
              cases stream
              simp_all
            rw [found, Option.map_some, still]
          next => rfl
      | cons oldest rest =>
          rw [get?_take_held streams found held id]
          split
          next same =>
            subst same
            have named : stream.id = id := by simpa using List.find?_some found
            simp [found, named, held]
          next apart =>
            cases there : streams.get? id with
            | none => rfl
            | some it =>
                have named : it.id = id := by simpa using List.find?_some there
                simp [named, apart]

theorem remaining_subscribe (streams : Streams) (method : String) (session : Option SessionId) (id : Nat) :
    (streams.subscribe method session).2.remaining id = streams.remaining id := by
  unfold remaining
  rw [get?_subscribe]
  cases streams.get? id with
  | some stream => rfl
  | none => by_cases fresh : streams.nextId = id <;> simp [fresh]

theorem remaining_drop_ne (apart : other ≠ id) :
    (streams.drop id).remaining other = streams.remaining other := by
  simp [remaining, get?_drop, apart]

theorem remaining_take (streams : Streams) (id : Nat) :
    (streams.take id).2.remaining id = (streams.remaining id).tail := by
  unfold remaining
  rw [get?_take, if_pos rfl]
  cases streams.get? id <;> rfl

theorem remaining_take_ne (streams : Streams) (apart : other ≠ id) :
    (streams.take id).2.remaining other = streams.remaining other := by
  simp [remaining, get?_take, apart]

theorem fst_take (ended : streams.Ended) (id : Nat) :
    (streams.take id).1 = ((streams.remaining id).head?.map .event).getD .ended := by
  cases found : streams.get? id with
  | none => simp [take, remaining, found]
  | some stream =>
      have dead := ended.dead stream (List.mem_of_find?_eq_some found)
      cases held : stream.received with
      | nil => simp [take, remaining, found, held, dead]
      | cons oldest rest => simp [take, remaining, found, held]

end Streams

end RemoteDom
