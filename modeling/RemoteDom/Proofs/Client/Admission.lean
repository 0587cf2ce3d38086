import Mathlib.Data.List.Perm.Subperm
import RemoteDom.Proofs.Client.Visitors

/-! How a turnstile treats its visitors. No more than its places are at work, places are given in the order of
arrival, none is idle while somebody stands in line, and all are free in the end. Once it is closed nobody begins
any more. -/

namespace RemoteDom.Visitors

variable {α : Type} {places : Nat} {visitors : Visitors α} {visitor : Nat}

def isWorking : Stay α → Bool
  | .working => true
  | _ => false

def atWork (visitors : Visitors α) : List Nat :=
  (List.range visitors.stays.length).filter fun visitor => visitors.stays[visitor]?.any isWorking

private theorem mem_atWork : visitor ∈ visitors.atWork ↔ visitors.stays[visitor]? = some .working := by
  rw [atWork, List.mem_filter, List.mem_range]
  constructor
  · rintro ⟨came, works⟩
    rw [List.getElem?_eq_getElem came] at works ⊢
    cases stay : visitors.stays[visitor] with
    | working => rfl
    | _ => simp [stay, isWorking] at works
  · intro works
    exact ⟨(List.getElem?_eq_some_iff.mp works).1, by simp [works, isWorking]⟩

private theorem Orderly.length_atWork_le (orderly : visitors.Orderly places) :
    visitors.atWork.length ≤ visitors.turnstile.inside.length := by
  have once : visitors.atWork.Nodup := List.nodup_range.filter _
  have inside : visitors.atWork ⊆ visitors.turnstile.inside :=
    fun visitor works => orderly.working visitor (mem_atWork.mp works)
  exact (once.subperm inside).length_le

/-- What holds at every moment. Whoever is inside has a place, whether it has been told or not. -/
structure Bounded (places : Nat) (visitors : Visitors α) : Prop where
  few : visitors.atWork.length ≤ places
  conserved : visitors.turnstile.free + visitors.turnstile.inside.length = places
  holders : visitors.turnstile.inside.Nodup ∧ ∀ visitor ∈ visitors.turnstile.inside,
    visitors.stays[visitor]? = some .waiting ∨ visitors.stays[visitor]? = some .working
  placed : ∀ visitor, visitors.stays[visitor]? = some .working → visitor ∈ visitors.turnstile.inside
  noneIdle : visitors.turnstile.closed = false → ∀ visitor, visitors.stays[visitor]? = some .waiting →
    visitor ∉ visitors.turnstile.inside → visitors.turnstile.free = 0
  /-- As long as one has no place, those who came later have none: they wait too, or were abandoned. -/
  inTurn : visitors.turnstile.closed = false → ∀ (earlier later : Nat) (stay : Stay α), earlier < later →
    visitors.stays[earlier]? = some .waiting → earlier ∉ visitors.turnstile.inside →
    visitors.stays[later]? = some stay → later ∉ visitors.turnstile.inside ∧ (stay = .waiting ∨ stay = .abandoned)
  begins : visitors.turnstile.closed = false → ∀ visitor ∈ visitors.turnstile.inside,
    visitors.stays[visitor]? = some .waiting → (visitors.step (.ask visitor)).stays[visitor]? = some .working
  vacated : (∀ stay ∈ visitors.stays, stay = .abandoned ∨ ∃ outcome, stay = .over outcome) →
    visitors.turnstile.free = places

theorem Orderly.inTurn (orderly : visitors.Orderly places) (opened : visitors.turnstile.closed = false)
    {earlier later : Nat} {stay : Stay α} (behind : earlier < later)
    (waits : visitors.stays[earlier]? = some .waiting) (out : earlier ∉ visitors.turnstile.inside)
    (seen : visitors.stays[later]? = some stay) :
    later ∉ visitors.turnstile.inside ∧ (stay = .waiting ∨ stay = .abandoned) := by
  have line : earlier ∈ visitors.turnstile.line := (orderly.placed opened earlier waits).resolve_left out
  have came : later < visitors.stays.length := (List.getElem?_eq_some_iff.mp seen).1
  rcases orderly.passed earlier line later behind came with stands | abandoned
  · have same := (orderly.standing later stands).symm.trans seen
    refine ⟨fun inside => orderly.balanced.not_line_of_inside inside stands, .inl ?_⟩
    exact (Option.some.inj same).symm
  · refine ⟨fun inside => ?_, .inr (Option.some.inj (abandoned.symm.trans seen)).symm⟩
    have present := orderly.present later inside
    simp [abandoned] at present

theorem Orderly.bounded (orderly : visitors.Orderly places) : visitors.Bounded places where
  few := by
    have within := orderly.length_atWork_le
    have conserved := orderly.balanced.conserved
    omega
  conserved := orderly.balanced.conserved
  holders := ⟨(List.nodup_append.mp orderly.balanced.apart).1, orderly.present⟩
  placed := orderly.working
  noneIdle := by
    intro opened visitor waits out
    have line := (orderly.placed opened visitor waits).resolve_left out
    exact orderly.balanced.busy (List.ne_nil_of_mem line)
  inTurn := fun opened earlier later stay => orderly.inTurn opened
  begins := by
    intro opened visitor inside waits
    have came := (List.getElem?_eq_some_iff.mp waits).1
    simp only [Visitors.step, waits, Turnstile.ask_of_inside opened inside, told]
    exact List.getElem?_set_self came
  vacated := by
    intro gone
    have nobody : visitors.turnstile.inside = [] := by
      refine List.eq_nil_iff_forall_not_mem.mpr fun visitor inside => ?_
      rcases orderly.present visitor inside with waits | works
      · simpa using gone _ (List.mem_of_getElem? waits)
      · simpa using gone _ (List.mem_of_getElem? works)
    have conserved := orderly.balanced.conserved
    simpa [nobody] using conserved

/-- What becomes of a visitor after the turnstile was closed. Whoever waits is refused, and so is whoever comes;
whoever works comes to the end of its own work; and anybody may be abandoned before that. -/
inductive WindsUp (visitor : Nat) (moves : List (VisitMove α)) : Option (Stay α) → Option (Stay α) → Prop
  | same (stay : Option (Stay α)) : WindsUp visitor moves stay stay
  | refused : WindsUp visitor moves (some .waiting) (some (.over (.error .connectionClosed)))
  | turnedAway : WindsUp visitor moves none (some (.over (.error .connectionClosed)))
  | finished (outcome : Except Error α) (ends : VisitMove.finish visitor outcome ∈ moves) :
      WindsUp visitor moves (some .working) (some (.over outcome))
  | givenUp : WindsUp visitor moves (some .waiting) (some .abandoned)
  | stopped : WindsUp visitor moves (some .working) (some .abandoned)

theorem WindsUp.trans {first second : List (VisitMove α)} {before between after : Option (Stay α)}
    (early : WindsUp visitor first before between) (late : WindsUp visitor second between after) :
    WindsUp visitor (first ++ second) before after := by
  cases early with
  | same =>
      cases late with
      | same => exact .same _
      | refused => exact .refused
      | turnedAway => exact .turnedAway
      | finished outcome ends => exact .finished outcome (List.mem_append_right first ends)
      | givenUp => exact .givenUp
      | stopped => exact .stopped
  | refused => cases late; exact .refused
  | turnedAway => cases late; exact .turnedAway
  | finished outcome ends => cases late; exact .finished outcome (List.mem_append_left second ends)
  | givenUp => cases late; exact .givenUp
  | stopped => cases late; exact .stopped

private theorem windsUp_set {moves : List (VisitMove α)} {stays : List (Stay α)} {before after : Stay α} {changed : Nat}
    (seen : stays[changed]? = some before) (winds : WindsUp changed moves (some before) (some after))
    (visitor : Nat) : WindsUp visitor moves stays[visitor]? (stays.set changed after)[visitor]? := by
  by_cases same : visitor = changed
  · subst same
    rw [List.getElem?_set_self (List.getElem?_eq_some_iff.mp seen).1, seen]
    exact winds
  · rw [List.getElem?_set_ne (Ne.symm same)]
    exact .same _

private theorem arrive_of_closed (closed : visitors.turnstile.closed = true) :
    (visitors.step .arrive).stays = visitors.stays ++ [.over (.error .connectionClosed)] := by
  simp [step, Turnstile.arrive, closed, told]

private theorem ask_of_closed (closed : visitors.turnstile.closed = true)
    (waits : visitors.stays[visitor]? = some .waiting) :
    (visitors.step (.ask visitor)).stays = visitors.stays.set visitor (.over (.error .connectionClosed)) := by
  simp [step, waits, Turnstile.ask, closed, told]

private theorem closed_step (closed : visitors.turnstile.closed = true) (move : VisitMove α) :
    (visitors.step move).turnstile.closed = true := by
  cases move with
  | arrive => simp [step, Turnstile.arrive, closed, told]
  | ask visitor =>
      simp only [step]
      split
      · simp [Turnstile.ask, closed, told]
      · exact closed
  | finish visitor outcome =>
      simp only [step]
      split
      · simp [depart, closed]
      · exact closed
  | abandon visitor =>
      simp only [step]
      split
      · simp [depart, closed]
      · simp [depart, closed]
      · exact closed
  | close => rfl

private theorem windsUp_step (closed : visitors.turnstile.closed = true) (move : VisitMove α) (visitor : Nat) :
    WindsUp visitor [move] visitors.stays[visitor]? (visitors.step move).stays[visitor]? := by
  cases move with
  | arrive =>
      rw [arrive_of_closed closed]
      by_cases came : visitor < visitors.stays.length
      · rw [List.getElem?_append_left came]
        exact .same _
      · rw [List.getElem?_append_right (by omega), List.getElem?_eq_none (by omega), List.getElem?_singleton]
        split
        · exact .turnedAway
        · exact .same _
  | ask asked =>
      by_cases waits : visitors.stays[asked]? = some .waiting
      · rw [ask_of_closed closed waits]
        exact windsUp_set waits .refused visitor
      · have unchanged : visitors.step (.ask asked) = visitors := by simp only [step]
        rw [unchanged]
        exact .same _
  | finish ended outcome =>
      simp only [step]
      split
      next works => exact windsUp_set works (.finished outcome (List.mem_singleton_self _)) visitor
      next => exact .same _
  | abandon given =>
      simp only [step]
      split
      next waits => exact windsUp_set waits .givenUp visitor
      next works => exact windsUp_set works .stopped visitor
      next => exact .same _
  | close => exact .same _

private theorem windsUp_runFrom (closed : visitors.turnstile.closed = true) (moves : List (VisitMove α))
    (visitor : Nat) :
    WindsUp visitor moves visitors.stays[visitor]? (visitors.runFrom moves).stays[visitor]? := by
  induction moves generalizing visitors with
  | nil => exact .same _
  | cons move moves ih => exact (windsUp_step closed move visitor).trans (ih (closed_step closed move))

/-- What holds after the turnstile was closed, whatever happens then. All who wait are woken. -/
structure Closing (visitors : Visitors α) : Prop where
  windsUp : ∀ moves visitor, WindsUp visitor moves visitors.stays[visitor]? (visitors.runFrom moves).stays[visitor]?
  noneBegins : ∀ moves, ∀ visitor ∈ (visitors.runFrom moves).atWork, visitor ∈ visitors.atWork
  woken : ∀ visitor, visitors.turnstile.hasNewsFor visitor = true
  refuses : ∀ visitor, visitors.stays[visitor]? = some .waiting →
    (visitors.step (.ask visitor)).stays[visitor]? = some (.over (.error .connectionClosed))
  turnsAway : (visitors.step .arrive).stays = visitors.stays ++ [.over (.error .connectionClosed)]
  finishes : ∀ visitor outcome, visitors.stays[visitor]? = some .working →
    (visitors.step (.finish visitor outcome)).stays[visitor]? = some (.over outcome)

private theorem closing_of_closed (closed : visitors.turnstile.closed = true) : visitors.Closing where
  windsUp := windsUp_runFrom closed
  noneBegins := by
    intro moves visitor works
    have winds := windsUp_runFrom closed moves visitor
    rw [mem_atWork.mp works] at winds
    generalize before : visitors.stays[visitor]? = stay at winds
    cases winds
    exact mem_atWork.mpr before
  woken := fun visitor => by simp [Turnstile.hasNewsFor, closed]
  refuses := by
    intro visitor waits
    have came := (List.getElem?_eq_some_iff.mp waits).1
    rw [ask_of_closed closed waits, List.getElem?_set_self came]
  turnsAway := arrive_of_closed closed
  finishes := by
    intro visitor outcome works
    have came := (List.getElem?_eq_some_iff.mp works).1
    simp only [step, works]
    exact List.getElem?_set_self came

/-- Whenever visitors come, ask, end their work and are abandoned, and whether the turnstile is closed or not: no
more of them work than there are places, each place is free or somebody's, and no place is free while somebody who
has none stands in line. Places are given in the order of arrival, abandoned visitors left out, and whoever has one
begins when it next asks. After the turnstile was closed nobody begins, whoever waits or comes is refused, and
whoever works ends as its work does. Once everybody is over or abandoned all places are free. -/
theorem bounded_run (places : Nat) (moves : List (VisitMove α)) :
    (run places moves).Bounded places ∧
      ((run places moves).turnstile.closed = true → (run places moves).Closing) :=
  ⟨(orderly_run places moves).bounded, closing_of_closed⟩

/-- A visitor that was let in begins only when it asks again. Meanwhile a place may become free, so that one that
came later begins before it. -/
theorem later_visitor_begins_first :
    ¬ ∀ (moves : List (VisitMove Unit)) (earlier later : Nat), (run 3 moves).turnstile.closed = false →
      earlier < later → (run 3 moves).stays[later]? = some .working →
      (run 3 moves).stays[earlier]? ≠ some .waiting := by
  intro inOrder
  have done : Except Error Unit := .ok ()
  exact inOrder [.arrive, .arrive, .arrive, .arrive, .arrive, .finish 0 done, .finish 1 done, .finish 2 done,
    .ask 3, .arrive] 4 5 rfl (by decide) rfl rfl

end RemoteDom.Visitors
