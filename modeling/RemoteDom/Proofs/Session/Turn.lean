import Mathlib.Data.List.Nodup
import RemoteDom.Turnstile

/-! A turnstile with one place. It is vacant, or one visitor is inside and the others stand in line, and what one
visitor does changes little for the others. -/

namespace RemoteDom.Turnstile

/-- Vacant, or taken by one visitor before whom nobody else waits. -/
inductive Single : Turnstile → Prop
  | vacant : Single ⟨1, [], [], false⟩
  | taken (holder : Nat) (line : List Nat) (apart : (holder :: line).Nodup) : Single ⟨0, [holder], line, false⟩

def Outside (turnstile : Turnstile) (visitor : Nat) : Prop :=
  visitor ∉ turnstile.inside ∧ visitor ∉ turnstile.line

/-- All but one keep their places: who is inside stays, who waits goes on waiting or is let in, and nobody
else comes. -/
structure Steady (before after : Turnstile) (visitor : Nat) : Prop where
  inside : ∀ other ∈ before.inside, other ≠ visitor → other ∈ after.inside
  line : ∀ other ∈ before.line, other ≠ visitor → other ∈ after.inside ∨ other ∈ after.line
  outside : ∀ other, before.Outside other → other ≠ visitor → after.Outside other

variable {turn : Turnstile} {visitor other : Nat}

theorem Steady.refl (turn : Turnstile) (visitor : Nat) : turn.Steady turn visitor :=
  ⟨fun _ member _ => member, fun _ member _ => .inr member, fun _ out _ => out⟩

theorem single_ofPlaces : (ofPlaces 1).Single := .vacant

theorem Single.open (single : turn.Single) : turn.closed = false := by cases single <;> rfl

theorem Single.eq_of_inside (single : turn.Single) (first : visitor ∈ turn.inside) (second : other ∈ turn.inside) :
    visitor = other := by
  cases single with
  | vacant => cases first
  | taken holder => exact (List.mem_singleton.mp first).trans (List.mem_singleton.mp second).symm

theorem Single.not_line_of_inside (single : turn.Single) (inside : visitor ∈ turn.inside) : visitor ∉ turn.line := by
  cases single with
  | vacant => cases inside
  | taken holder line apart => exact List.mem_singleton.mp inside ▸ (List.nodup_cons.mp apart).1

theorem Single.arrive_cases (single : turn.Single) (visitor : Nat) :
    (turn.arrive visitor).1 = .admitted ∧ turn.inside = [] ∧ turn.line = [] ∧
        (turn.arrive visitor).2 = ⟨0, [visitor], [], false⟩ ∨
      (turn.arrive visitor).1 = .wait ∧
        (turn.arrive visitor).2 = { turn with line := turn.line ++ [visitor] } := by
  cases single with
  | vacant => exact .inl ⟨rfl, rfl, rfl, rfl⟩
  | taken => exact .inr ⟨rfl, rfl⟩

theorem Single.arrive (single : turn.Single) (out : turn.Outside visitor) : (turn.arrive visitor).2.Single := by
  cases single with
  | vacant => exact .taken visitor [] (List.nodup_singleton visitor)
  | taken holder line apart =>
      refine .taken holder (line ++ [visitor]) ?_
      have other : holder ≠ visitor := fun same => out.1 (same ▸ List.mem_singleton_self holder)
      rw [← List.cons_append]
      exact apart.append (List.nodup_singleton visitor) (by simp [out.2, other.symm])

private theorem steady_arrive (turn : Turnstile) (visitor : Nat) : turn.Steady (turn.arrive visitor).2 visitor := by
  unfold Turnstile.arrive
  split
  · exact .refl turn visitor
  · split
    · exact ⟨fun other member _ => List.mem_cons_of_mem visitor member, fun _ member _ => .inr member,
        fun other out apart => ⟨by simpa [apart] using out.1, out.2⟩⟩
    · exact ⟨fun _ member _ => member, fun other member _ => .inr (List.mem_append_left _ member),
        fun other out apart => ⟨out.1, by simpa [apart] using out.2⟩⟩

theorem Single.ask_of_inside (single : turn.Single) (inside : visitor ∈ turn.inside) :
    turn.ask visitor = (.admitted, turn) := by
  simp [ask, single.open, inside]

private theorem Single.ask_of_line (single : turn.Single) (waits : visitor ∈ turn.line) :
    turn.ask visitor = (.wait, turn) := by
  have out : visitor ∉ turn.inside := fun inside => single.not_line_of_inside inside waits
  simp [ask, single.open, out]

theorem Single.enter (single : turn.Single) {waits : Bool} {reply : Reply} {later : Turnstile}
    (stands : if waits then visitor ∈ turn.inside ∨ visitor ∈ turn.line else turn.Outside visitor)
    (enters : (if waits then turn.ask visitor else turn.arrive visitor) = (reply, later)) :
    later.Single ∧ turn.Steady later visitor ∧
      (reply = .admitted ∧ visitor ∈ later.inside ∨ reply = .wait ∧ visitor ∈ later.line) := by
  cases waits with
  | false =>
      obtain rfl : (turn.arrive visitor).1 = reply := congrArg Prod.fst enters
      obtain rfl : (turn.arrive visitor).2 = later := congrArg Prod.snd enters
      refine ⟨single.arrive stands, turn.steady_arrive visitor, (single.arrive_cases visitor).imp ?_ ?_⟩
      · rintro ⟨reply, -, -, after⟩
        exact ⟨reply, by simp [after]⟩
      · rintro ⟨reply, after⟩
        exact ⟨reply, by simp [after]⟩
  | true =>
      rcases stands with inside | line
      · cases (single.ask_of_inside inside).symm.trans enters
        exact ⟨single, .refl turn visitor, .inl ⟨rfl, inside⟩⟩
      · cases (single.ask_of_line line).symm.trans enters
        exact ⟨single, .refl turn visitor, .inr ⟨rfl, line⟩⟩

theorem Single.leave (single : turn.Single) (visitor : Nat) : (turn.leave visitor).Single := by
  cases single with
  | vacant => simpa [Turnstile.leave] using .vacant
  | taken holder line apart =>
      by_cases same : visitor = holder
      · subst same
        cases line with
        | nil => simpa [Turnstile.leave, passOn] using .vacant
        | cons next line => simpa [Turnstile.leave, passOn] using .taken next line (List.nodup_cons.mp apart).2
      · have stays := Single.taken holder (line.erase visitor) (apart.sublist (List.erase_sublist.cons_cons holder))
        simpa [Turnstile.leave, same] using stays

theorem Single.outside_leave (single : turn.Single) (visitor : Nat) : (turn.leave visitor).Outside visitor := by
  cases single with
  | vacant => simp [Turnstile.leave, Outside]
  | taken holder line apart =>
      obtain ⟨alone, rest⟩ := List.nodup_cons.mp apart
      by_cases same : visitor = holder
      · subst same
        cases line with
        | nil => simp [Turnstile.leave, passOn, Outside]
        | cons next line => simp_all [Turnstile.leave, passOn, Outside]
      · simp [Turnstile.leave, same, Outside, rest.mem_erase_iff]

theorem Single.steady_leave (single : turn.Single) (visitor : Nat) : turn.Steady (turn.leave visitor) visitor := by
  cases single with
  | vacant => simpa [Turnstile.leave] using .refl _ visitor
  | taken holder line apart =>
      obtain ⟨alone, rest⟩ := List.nodup_cons.mp apart
      by_cases same : visitor = holder
      · subst same
        cases line with
        | nil => constructor <;> simp_all [Turnstile.leave, passOn, Outside]
        | cons next line => constructor <;> simp_all [Turnstile.leave, passOn, Outside]
      · constructor <;> simp_all [Turnstile.leave, Outside, rest.mem_erase_iff]

end RemoteDom.Turnstile
