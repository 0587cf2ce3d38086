import RemoteDom.Proofs.Session.Turn

/-! A turnstile with any number of places. Its places are free or taken, and nobody stands in line before a free
one. -/

namespace RemoteDom.Turnstile

variable {places : Nat} {turn : Turnstile} {visitor other : Nat}

theorem arrive_cases (turn : Turnstile) (visitor : Nat) :
    turn.closed = true ∧ turn.arrive visitor = (.refused, turn) ∨
      (∃ free, turn.closed = false ∧ turn.free = free + 1 ∧
        turn.arrive visitor = (.admitted, { turn with free, inside := visitor :: turn.inside })) ∨
      turn.closed = false ∧ turn.free = 0 ∧
        turn.arrive visitor = (.wait, { turn with line := turn.line ++ [visitor] }) := by
  cases closed : turn.closed with
  | true => exact .inl ⟨rfl, by simp [arrive, closed]⟩
  | false =>
      cases free : turn.free with
      | zero => exact .inr (.inr ⟨rfl, rfl, by simp [arrive, closed, free]⟩)
      | succ rest => exact .inr (.inl ⟨rest, rfl, rfl, by simp [arrive, closed, free]⟩)

theorem ask_of_inside (opened : turn.closed = false) (inside : visitor ∈ turn.inside) :
    turn.ask visitor = (.admitted, turn) := by
  simp [ask, opened, inside]

theorem ask_cases (turn : Turnstile) (visitor : Nat) :
    turn.closed = true ∧ turn.ask visitor = (.refused, turn.leave visitor) ∨
      turn.closed = false ∧ visitor ∈ turn.inside ∧ turn.ask visitor = (.admitted, turn) ∨
      turn.closed = false ∧ visitor ∉ turn.inside ∧ turn.ask visitor = (.wait, turn) := by
  cases closed : turn.closed with
  | true => exact .inl ⟨rfl, by simp [ask, closed]⟩
  | false =>
      by_cases inside : visitor ∈ turn.inside
      · exact .inr (.inl ⟨rfl, inside, ask_of_inside closed inside⟩)
      · exact .inr (.inr ⟨rfl, inside, by simp [ask, closed, inside]⟩)

private theorem leave_cases (turn : Turnstile) (visitor : Nat) :
    visitor ∈ turn.inside ∧ turn.line = [] ∧
        turn.leave visitor = { turn with free := turn.free + 1, inside := turn.inside.erase visitor } ∨
      (∃ next line, visitor ∈ turn.inside ∧ turn.line = next :: line ∧
        turn.leave visitor = { turn with inside := next :: turn.inside.erase visitor, line }) ∨
      visitor ∉ turn.inside ∧ turn.leave visitor = { turn with line := turn.line.erase visitor } := by
  by_cases inside : visitor ∈ turn.inside
  · cases line : turn.line with
    | nil => exact .inl ⟨inside, rfl, by simp [leave, inside, passOn, line]⟩
    | cons next rest => exact .inr (.inl ⟨next, rest, inside, rfl, by simp [leave, inside, passOn, line]⟩)
  · exact .inr (.inr ⟨inside, by simp [leave, inside]⟩)

@[simp]
theorem closed_leave (turn : Turnstile) (visitor : Nat) : (turn.leave visitor).closed = turn.closed := by
  rcases turn.leave_cases visitor with ⟨-, -, left⟩ | ⟨_, _, -, -, left⟩ | ⟨-, left⟩ <;> rw [left]

theorem leave_of_outside (out : turn.Outside visitor) : turn.leave visitor = turn := by
  simp [leave, out.1, List.erase_of_not_mem out.2]

/-- Every place is free or taken, nobody is in two places, and nobody stands in line before a free place or before
a closed turnstile. -/
structure Balanced (places : Nat) (turn : Turnstile) : Prop where
  conserved : turn.free + turn.inside.length = places
  apart : (turn.inside ++ turn.line).Nodup
  busy : turn.line ≠ [] → turn.free = 0
  shut : turn.closed = true → turn.line = []

theorem balanced_ofPlaces (places : Nat) : Balanced places (ofPlaces places) :=
  ⟨rfl, List.nodup_nil, fun waits => absurd rfl waits, nofun⟩

theorem Balanced.not_line_of_inside (balanced : Balanced places turn) (inside : visitor ∈ turn.inside) :
    visitor ∉ turn.line :=
  List.disjoint_of_nodup_append balanced.apart inside

theorem Balanced.line_of_free (balanced : Balanced places turn) (free : 0 < turn.free) : turn.line = [] := by
  by_contra waits
  have full := balanced.busy waits
  omega

theorem Balanced.arrive (balanced : Balanced places turn) (out : turn.Outside visitor) :
    Balanced places (turn.arrive visitor).2 := by
  have conserved := balanced.conserved
  rcases turn.arrive_cases visitor with ⟨-, told⟩ | ⟨free, opened, room, told⟩ | ⟨opened, full, told⟩
  · rw [told]
    exact balanced
  · have nobody := balanced.line_of_free (by omega)
    rw [told]
    refine ⟨?_, ?_, fun waits => absurd nobody waits, fun _ => nobody⟩
    · simp only [List.length_cons]
      omega
    · exact List.nodup_cons.mpr ⟨by simpa [nobody] using out.1, balanced.apart⟩
  · have more : (turn.inside ++ turn.line ++ [visitor]).Nodup :=
      balanced.apart.append (List.nodup_singleton visitor) (by simpa [Outside] using out)
    rw [told]
    exact ⟨conserved, by simpa using more, fun _ => full, fun closed => absurd closed (by simp [opened])⟩

theorem Balanced.leave (balanced : Balanced places turn) (visitor : Nat) :
    Balanced places (turn.leave visitor) := by
  have conserved := balanced.conserved
  rcases turn.leave_cases visitor with ⟨inside, nobody, left⟩ | ⟨next, line, inside, waiting, left⟩ | ⟨-, left⟩
  · have fewer := List.length_erase_of_mem inside
    have some_one := List.length_pos_of_mem inside
    rw [left]
    refine ⟨?_, ?_, fun waits => absurd nobody waits, fun _ => nobody⟩
    · simp only
      omega
    · exact balanced.apart.sublist (List.Sublist.append List.erase_sublist (List.Sublist.refl _))
  · have fewer := List.length_erase_of_mem inside
    have some_one := List.length_pos_of_mem inside
    have apart : (turn.inside ++ next :: line).Nodup := waiting ▸ balanced.apart
    rw [left]
    refine ⟨?_, ?_, fun _ => balanced.busy (by simp [waiting]), fun closed => ?_⟩
    · simp only [List.length_cons]
      omega
    · have moved : (next :: (turn.inside ++ line)).Nodup := List.nodup_middle.mp apart
      exact moved.sublist (List.Sublist.cons_cons next (List.Sublist.append List.erase_sublist (List.Sublist.refl _)))
    · have nobody := balanced.shut closed
      simp [waiting] at nobody
  · rw [left]
    refine ⟨conserved, ?_, fun waits => ?_, fun closed => by simp [balanced.shut closed]⟩
    · exact balanced.apart.sublist (List.Sublist.append (List.Sublist.refl _) List.erase_sublist)
    · exact balanced.busy fun nobody => waits (by simp [nobody])

theorem Balanced.close (balanced : Balanced places turn) : Balanced places turn.close :=
  ⟨balanced.conserved, balanced.apart.sublist (by simp [Turnstile.close]), fun waits => absurd rfl waits, fun _ => rfl⟩

theorem Balanced.outside_leave (balanced : Balanced places turn) (visitor : Nat) :
    (turn.leave visitor).Outside visitor := by
  have inside_once := (List.nodup_append.mp balanced.apart).1
  have line_once := (List.nodup_append.mp balanced.apart).2.1
  rcases turn.leave_cases visitor with ⟨inside, nobody, left⟩ | ⟨next, line, inside, waiting, left⟩ | ⟨out, left⟩
  · rw [left]
    exact ⟨inside_once.not_mem_erase, by simp [nobody]⟩
  · have elsewhere := balanced.not_line_of_inside inside
    rw [waiting, List.mem_cons, not_or] at elsewhere
    rw [left]
    exact ⟨by simp [elsewhere.1, inside_once.not_mem_erase], elsewhere.2⟩
  · rw [left]
    exact ⟨out, line_once.not_mem_erase⟩

/-- All but the one that leaves keep their places, or move up. -/
theorem steady_leave (turn : Turnstile) (visitor : Nat) : turn.Steady (turn.leave visitor) visitor := by
  rcases turn.leave_cases visitor with ⟨-, nobody, left⟩ | ⟨next, line, -, waiting, left⟩ | ⟨-, left⟩
  · rw [left]
    refine ⟨fun other inside apart => ?_, fun other waits => ?_, fun other out _ => ?_⟩
    · exact (List.mem_erase_of_ne apart).mpr inside
    · simp [nobody] at waits
    · exact ⟨fun inside => out.1 (List.mem_of_mem_erase inside), out.2⟩
  · rw [left]
    refine ⟨fun other inside apart => ?_, fun other waits _ => ?_, fun other out _ => ?_⟩
    · exact List.mem_cons_of_mem next ((List.mem_erase_of_ne apart).mpr inside)
    · rw [waiting, List.mem_cons] at waits
      rcases waits with rfl | waits
      · exact .inl List.mem_cons_self
      · exact .inr waits
    · rw [Outside, waiting, List.mem_cons, not_or] at out
      have elsewhere : other ∉ turn.inside.erase visitor := fun inside => out.1 (List.mem_of_mem_erase inside)
      exact ⟨by simp [out.2.1, elsewhere], out.2.2⟩
  · rw [left]
    refine ⟨fun other inside _ => inside, fun other waits apart => .inr ?_, fun other out _ => ?_⟩
    · exact (List.mem_erase_of_ne apart).mpr waits
    · exact ⟨out.1, fun waits => out.2 (List.mem_of_mem_erase waits)⟩

theorem line_leave_sublist (turn : Turnstile) (visitor : Nat) : (turn.leave visitor).line.Sublist turn.line := by
  rcases turn.leave_cases visitor with ⟨-, -, left⟩ | ⟨next, line, -, waiting, left⟩ | ⟨-, left⟩
  · rw [left]
  · rw [left, waiting]
    exact List.sublist_cons_self next line
  · rw [left]
    exact List.erase_sublist

/-- Where one still stands in line, all who came after it stand there too, except the one that left. -/
theorem mem_line_leave {first later : Nat} (inOrder : turn.line.Pairwise (· < ·))
    (stays : first ∈ (turn.leave visitor).line) (waits : later ∈ turn.line) (behind : first < later)
    (apart : later ≠ visitor) : later ∈ (turn.leave visitor).line := by
  rcases turn.leave_cases visitor with ⟨-, -, left⟩ | ⟨next, line, -, waiting, left⟩ | ⟨-, left⟩
  · rw [left]
    exact waits
  · rw [left] at stays ⊢
    rw [waiting] at waits inOrder
    have before : next < first := (List.pairwise_cons.mp inOrder).1 first stays
    rcases List.mem_cons.mp waits with rfl | waits
    · omega
    · exact waits
  · rw [left]
    exact (List.mem_erase_of_ne apart).mpr waits

end RemoteDom.Turnstile
