import RemoteDom.Proofs.Client.Balance
import RemoteDom.Proofs.Session.Callers

/-! Visitors of a turnstile side by side. Each comes to do some work inside, may have to stand in line before it,
and may be abandoned at any time. Between two acts of one all others may act, and the turnstile may be closed. -/

namespace RemoteDom

/-- How far a visitor has come. -/
inductive Stay (α : Type) where
  /-- It has not been told that it is let in. It may have been let in all the same. -/
  | waiting
  | working
  /-- It was refused, or its work came to an end. -/
  | over (outcome : Except Error α)
  /-- It was abandoned before it was over. -/
  | abandoned

/-- A turnstile and all who ever came to it, each known by its place in the order of arrival. -/
structure Visitors (α : Type) where
  turnstile : Turnstile
  stays : List (Stay α)

inductive VisitMove (α : Type) where
  | arrive
  | ask (visitor : Nat)
  | finish (visitor : Nat) (outcome : Except Error α)
  | abandon (visitor : Nat)
  | close

namespace Visitors

variable {α : Type}

def opening (places : Nat) : Visitors α := ⟨.ofPlaces places, []⟩

/-- What becomes of a visitor that has been told something. Whoever is refused leaves. -/
def told (visitor : Nat) : Turnstile.Reply × Turnstile → Stay α × Turnstile
  | (.admitted, turn) => (.working, turn)
  | (.refused, turn) => (.over (.error .connectionClosed), turn.leave visitor)
  | (.wait, turn) => (.waiting, turn)

def depart (visitors : Visitors α) (visitor : Nat) (stay : Stay α) : Visitors α :=
  ⟨visitors.turnstile.leave visitor, visitors.stays.set visitor stay⟩

def step (visitors : Visitors α) : VisitMove α → Visitors α
  | .arrive =>
      let visitor := visitors.stays.length
      let (stay, turnstile) := told visitor (visitors.turnstile.arrive visitor)
      ⟨turnstile, visitors.stays ++ [stay]⟩
  | .ask visitor =>
      match visitors.stays[visitor]? with
      | some .waiting =>
          let (stay, turnstile) := told visitor (visitors.turnstile.ask visitor)
          ⟨turnstile, visitors.stays.set visitor stay⟩
      | _ => visitors
  | .finish visitor outcome =>
      match visitors.stays[visitor]? with
      | some .working => visitors.depart visitor (.over outcome)
      | _ => visitors
  | .abandon visitor =>
      match visitors.stays[visitor]? with
      | some .waiting | some .working => visitors.depart visitor .abandoned
      | _ => visitors
  | .close => { visitors with turnstile := visitors.turnstile.close }

def runFrom (visitors : Visitors α) (moves : List (VisitMove α)) : Visitors α := moves.foldl step visitors

def run (places : Nat) (moves : List (VisitMove α)) : Visitors α := (opening places).runFrom moves

@[simp]
theorem runFrom_nil (visitors : Visitors α) : visitors.runFrom [] = visitors := rfl

@[simp]
theorem runFrom_cons (visitors : Visitors α) (move : VisitMove α) (moves : List (VisitMove α)) :
    visitors.runFrom (move :: moves) = (visitors.step move).runFrom moves := rfl

end Visitors

/-! The visitors of a rehearsal are tasks with tickets. -/

namespace Rehearsal.World

/-- How an attempt to enter ends for a visitor of that ticket; there is no answer as long as it waits. -/
def entryOf {α : Type} (ticket : Nat) : Stay α → Option Entry
  | .working => some (.admitted ticket)
  | .waiting => none
  | .over _ | .abandoned => some .refused

private theorem places_returnTicket (self : Nat) (world : World) (ticket : Nat) :
    (returnTicket self world ticket).stage.places = world.stage.places.leave ticket := by
  simp only [returnTicket, notify_stage]
  rfl

/-- A task that comes with a new ticket, or asks again with the one it has, is told what a visitor is told, and it
leaves the turnstile as a visitor does. -/
theorem attemptEnter_eq_told {α : Type} (world : World) (self : Nat) (ticket? : Option Nat) :
    let waiting := ticket?.map fun ticket => Waiting.place ticket none
    let ticket := ticket?.getD world.nextId
    let reply :=
      if ticket?.isSome then world.stage.places.ask ticket else world.stage.places.arrive ticket
    let seen := (world.attemptEnter self waiting none).outcome
    let told : Stay α × Turnstile := Visitors.told ticket reply
    seen.1 = entryOf ticket told.1 ∧ seen.2.stage.places = told.2 := by
  cases ticket? with
  | none =>
      simp only [attemptEnter, takeTicket, changeTask, Option.map_none, Option.isNone_none, Option.isSome_none,
        Option.getD_none, if_true, Bool.false_eq_true, if_false]
      generalize world.stage.places.arrive world.nextId = arrived
      obtain ⟨reply, turn⟩ := arrived
      cases reply with
      | admitted | wait => exact ⟨rfl, rfl⟩
      | refused => exact ⟨rfl, places_returnTicket self _ _⟩
  | some ticket =>
      simp only [attemptEnter, Option.map_some, Option.isNone_some, Option.isSome_some, Option.getD_some, if_true,
        Bool.false_eq_true, if_false]
      generalize world.stage.places.ask ticket = asked
      obtain ⟨reply, turn⟩ := asked
      cases reply with
      | admitted | wait => exact ⟨rfl, rfl⟩
      | refused => exact ⟨rfl, places_returnTicket self _ _⟩

end Rehearsal.World

namespace Visitors

variable {α : Type} {places : Nat} {visitors : Visitors α} {visitor : Nat}

/-- Who is where. Whoever came after one that stands in line stands in line too, behind it, or was abandoned. -/
structure Orderly (places : Nat) (visitors : Visitors α) : Prop where
  balanced : Turnstile.Balanced places visitors.turnstile
  present : ∀ visitor ∈ visitors.turnstile.inside,
    visitors.stays[visitor]? = some .waiting ∨ visitors.stays[visitor]? = some .working
  standing : ∀ visitor ∈ visitors.turnstile.line, visitors.stays[visitor]? = some .waiting
  working : ∀ visitor, visitors.stays[visitor]? = some .working → visitor ∈ visitors.turnstile.inside
  placed : visitors.turnstile.closed = false → ∀ visitor, visitors.stays[visitor]? = some .waiting →
    visitor ∈ visitors.turnstile.inside ∨ visitor ∈ visitors.turnstile.line
  inOrder : visitors.turnstile.line.Pairwise (· < ·)
  passed : ∀ first ∈ visitors.turnstile.line, ∀ later, first < later → later < visitors.stays.length →
    later ∈ visitors.turnstile.line ∨ visitors.stays[later]? = some .abandoned

theorem orderly_opening (places : Nat) : (opening places : Visitors α).Orderly places where
  balanced := Turnstile.balanced_ofPlaces places
  present := nofun
  standing := nofun
  working := nofun
  placed := nofun
  inOrder := List.Pairwise.nil
  passed := nofun

private theorem seen_of_snoc {stays : List (Stay α)} {stay seen : Stay α}
    (is : (stays ++ [stay])[visitor]? = some seen) :
    stays[visitor]? = some seen ∨ visitor = stays.length ∧ stay = seen := by
  by_cases came : visitor < stays.length
  · exact .inl (List.getElem?_append_left came ▸ is)
  · rw [List.getElem?_append_right (by omega), List.getElem?_singleton] at is
    split at is
    next first => exact .inr ⟨by omega, Option.some.inj is⟩
    next => cases is

namespace Orderly

variable (orderly : visitors.Orderly places)

include orderly

theorem arrived_of_inside (inside : visitor ∈ visitors.turnstile.inside) : visitor < visitors.stays.length := by
  rcases orderly.present visitor inside with here | here <;> exact (List.getElem?_eq_some_iff.mp here).1

theorem arrived_of_line (waits : visitor ∈ visitors.turnstile.line) : visitor < visitors.stays.length :=
  (List.getElem?_eq_some_iff.mp (orderly.standing visitor waits)).1

theorem outside_next : visitors.turnstile.Outside visitors.stays.length :=
  ⟨fun inside => Nat.lt_irrefl _ (orderly.arrived_of_inside inside),
    fun waits => Nat.lt_irrefl _ (orderly.arrived_of_line waits)⟩

theorem turnedAway (closed : visitors.turnstile.closed = true) (outcome : Except Error α) :
    Orderly places ⟨visitors.turnstile, visitors.stays ++ [.over outcome]⟩ := by
  have nobody := orderly.balanced.shut closed
  constructor
  case balanced => exact orderly.balanced
  case present =>
    intro other inside
    simpa only [List.getElem?_append_left (orderly.arrived_of_inside inside)] using orderly.present other inside
  case standing => simp [nobody]
  case working =>
    intro other works
    rcases seen_of_snoc works with works | ⟨-, refused⟩
    · exact orderly.working other works
    · cases refused
  case placed => simp [closed]
  case inOrder => exact orderly.inOrder
  case passed => simp [nobody]

private theorem letIn {turn : Turnstile} (opened : visitors.turnstile.closed = false) (balanced : turn.Balanced places)
    (inside : turn.inside = visitors.stays.length :: visitors.turnstile.inside)
    (line : turn.line = visitors.turnstile.line) (nobody : visitors.turnstile.line = []) :
    Orderly places ⟨turn, visitors.stays ++ [.working]⟩ := by
  constructor
  case balanced => exact balanced
  case present =>
    intro other member
    rcases List.mem_cons.mp (inside ▸ member) with rfl | member
    · exact .inr (by simp)
    · simpa only [List.getElem?_append_left (orderly.arrived_of_inside member)] using orderly.present other member
  case standing => simp [line, nobody]
  case working =>
    intro other works
    simp only [inside]
    rcases seen_of_snoc works with works | ⟨rfl, -⟩
    · exact List.mem_cons_of_mem _ (orderly.working other works)
    · exact List.mem_cons_self
  case placed =>
    intro _ other waits
    simp only [inside, line]
    rcases seen_of_snoc waits with waits | ⟨-, admitted⟩
    · exact (orderly.placed opened other waits).imp_left (List.mem_cons_of_mem _)
    · cases admitted
  case inOrder => simp [line, nobody]
  case passed => simp [line, nobody]

private theorem standsLast {turn : Turnstile} (opened : visitors.turnstile.closed = false)
    (balanced : turn.Balanced places)
    (inside : turn.inside = visitors.turnstile.inside)
    (line : turn.line = visitors.turnstile.line ++ [visitors.stays.length]) :
    Orderly places ⟨turn, visitors.stays ++ [.waiting]⟩ := by
  constructor
  case balanced => exact balanced
  case present =>
    intro other member
    rw [inside] at member
    simpa only [List.getElem?_append_left (orderly.arrived_of_inside member)] using orderly.present other member
  case standing =>
    intro other waits
    rcases List.mem_append.mp (line ▸ waits) with waits | last
    · simpa only [List.getElem?_append_left (orderly.arrived_of_line waits)] using orderly.standing other waits
    · obtain rfl := List.mem_singleton.mp last
      simp
  case working =>
    intro other works
    simp only [inside]
    rcases seen_of_snoc works with works | ⟨-, waits⟩
    · exact orderly.working other works
    · cases waits
  case placed =>
    intro _ other waits
    simp only [inside, line]
    rcases seen_of_snoc waits with waits | ⟨rfl, -⟩
    · exact (orderly.placed opened other waits).imp_right (List.mem_append_left _)
    · exact .inr (List.mem_append_right _ (List.mem_singleton_self _))
  case inOrder =>
    simp only [line]
    refine List.pairwise_append.mpr ⟨orderly.inOrder, List.pairwise_singleton _ _, fun first waits last is => ?_⟩
    have came := orderly.arrived_of_line waits
    exact List.mem_singleton.mp is ▸ came
  case passed =>
    intro first waits later behind came
    simp only [line, List.length_append, List.length_singleton] at waits came ⊢
    by_cases last : later = visitors.stays.length
    · exact .inl (List.mem_append_right _ (List.mem_singleton.mpr last))
    · have came : later < visitors.stays.length := by omega
      have waits : first ∈ visitors.turnstile.line := by
        rcases List.mem_append.mp waits with waits | is
        · exact waits
        · have same := List.mem_singleton.mp is
          omega
      rw [List.getElem?_append_left came]
      exact (orderly.passed first waits later behind came).imp_left (List.mem_append_left _)

theorem arrive : (visitors.step .arrive).Orderly places := by
  have balanced := orderly.balanced.arrive orderly.outside_next
  rcases visitors.turnstile.arrive_cases visitors.stays.length with
    ⟨closed, reply⟩ | ⟨free, opened, room, reply⟩ | ⟨opened, -, reply⟩
  · have same := Turnstile.leave_of_outside orderly.outside_next
    simp only [step, reply, told, same]
    exact orderly.turnedAway closed _
  · have nobody := orderly.balanced.line_of_free (by omega)
    rw [reply] at balanced
    simp only [step, reply, told]
    exact orderly.letIn opened balanced rfl rfl nobody
  · rw [reply] at balanced
    simp only [step, reply, told]
    exact orderly.standsLast opened balanced rfl rfl

theorem depart {stay : Stay α}
    (here : visitors.stays[visitor]? = some .waiting ∨ visitors.stays[visitor]? = some .working)
    (idle : stay ≠ .waiting) (rests : stay ≠ .working)
    (leaves : stay = .abandoned ∨ visitor ∉ visitors.turnstile.line) :
    (visitors.depart visitor stay).Orderly places := by
  have came : visitor < visitors.stays.length := by
    rcases here with here | here <;> exact (List.getElem?_eq_some_iff.mp here).1
  have steady := visitors.turnstile.steady_leave visitor
  have gone := orderly.balanced.outside_leave visitor
  have new : (visitors.stays.set visitor stay)[visitor]? = some stay := List.getElem?_set_self came
  have old {other : Nat} (apart : other ≠ visitor) :
      (visitors.stays.set visitor stay)[other]? = visitors.stays[other]? :=
    List.getElem?_set_ne (Ne.symm apart)
  have apart_of {other : Nat} {seen : Stay α} (different : stay ≠ seen)
      (is : (visitors.stays.set visitor stay)[other]? = some seen) : other ≠ visitor := by
    rintro rfl
    exact different (Option.some.inj (new ▸ is))
  unfold Visitors.depart
  constructor
  case balanced => exact orderly.balanced.leave visitor
  case present =>
    intro other inside
    have apart : other ≠ visitor := fun same => gone.1 (same ▸ inside)
    have earlier : other ∈ visitors.turnstile.inside ∨ other ∈ visitors.turnstile.line := by
      by_contra out
      exact (steady.outside other (not_or.mp out) apart).1 inside
    simp only [old apart]
    exact earlier.elim (orderly.present other) fun waits => .inl (orderly.standing other waits)
  case standing =>
    intro other waits
    have apart : other ≠ visitor := fun same => gone.2 (same ▸ waits)
    simp only [old apart]
    exact orderly.standing other ((visitors.turnstile.line_leave_sublist visitor).subset waits)
  case working =>
    intro other works
    have apart := apart_of rests works
    exact steady.inside other (orderly.working other (old apart ▸ works)) apart
  case placed =>
    intro opened other waits
    have apart := apart_of idle waits
    rcases orderly.placed (by simpa using opened) other (old apart ▸ waits) with inside | line
    · exact .inl (steady.inside other inside apart)
    · exact steady.line other line apart
  case inOrder => exact orderly.inOrder.sublist (visitors.turnstile.line_leave_sublist visitor)
  case passed =>
    intro first waits later behind late
    rw [List.length_set] at late
    have stood := (visitors.turnstile.line_leave_sublist visitor).subset waits
    by_cases same : later = visitor
    · subst same
      refine .inr (new.trans (congrArg some (leaves.resolve_right fun out => ?_)))
      rcases orderly.passed first stood later behind late with line | abandoned
      · exact out line
      · simp [abandoned] at here
    · rw [old same]
      refine (orderly.passed first stood later behind late).imp_left fun line => ?_
      exact Turnstile.mem_line_leave orderly.inOrder waits line behind same

theorem begins (waits : visitors.stays[visitor]? = some .waiting) (inside : visitor ∈ visitors.turnstile.inside) :
    Orderly places ⟨visitors.turnstile, visitors.stays.set visitor .working⟩ := by
  have new : (visitors.stays.set visitor .working)[visitor]? = some .working :=
    List.getElem?_set_self (List.getElem?_eq_some_iff.mp waits).1
  have old {other : Nat} (apart : other ≠ visitor) :
      (visitors.stays.set visitor .working)[other]? = visitors.stays[other]? :=
    List.getElem?_set_ne (Ne.symm apart)
  constructor
  case balanced => exact orderly.balanced
  case present =>
    intro other member
    by_cases same : other = visitor
    · exact .inr (same ▸ new)
    · simpa only [old same] using orderly.present other member
  case standing =>
    intro other line
    have apart : other ≠ visitor := fun same => orderly.balanced.not_line_of_inside inside (same ▸ line)
    simpa only [old apart] using orderly.standing other line
  case working =>
    intro other works
    by_cases same : other = visitor
    · exact same ▸ inside
    · exact orderly.working other (old same ▸ works)
  case placed =>
    intro opened other line
    by_cases same : other = visitor
    · exact .inl (same ▸ inside)
    · exact orderly.placed opened other (old same ▸ line)
  case inOrder => exact orderly.inOrder
  case passed =>
    intro first line later behind late
    rw [List.length_set] at late
    refine (orderly.passed first line later behind late).imp_right fun abandoned => ?_
    have apart : later ≠ visitor := by
      rintro rfl
      simp [abandoned] at waits
    rw [old apart, abandoned]

theorem ask (visitor : Nat) : (visitors.step (.ask visitor)).Orderly places := by
  simp only [step]
  split
  next waits =>
    rcases visitors.turnstile.ask_cases visitor with ⟨closed, reply⟩ | ⟨-, inside, reply⟩ | ⟨-, -, reply⟩
    · have nobody := orderly.balanced.shut closed
      have same := Turnstile.leave_of_outside (orderly.balanced.outside_leave visitor)
      simp only [reply, told, same]
      exact orderly.depart (.inl waits) nofun nofun (.inr (by simp [nobody]))
    · simp only [reply, told]
      exact orderly.begins waits inside
    · have unchanged : visitors.stays.set visitor .waiting = visitors.stays := by
        rw [← (List.getElem?_eq_some_iff.mp waits).2, List.set_getElem_self]
      simpa only [reply, told, unchanged] using orderly
  next => exact orderly

theorem close : (visitors.step .close).Orderly places where
  balanced := orderly.balanced.close
  present := orderly.present
  standing := nofun
  working := orderly.working
  placed := nofun
  inOrder := List.Pairwise.nil
  passed := nofun

theorem step (move : VisitMove α) : (visitors.step move).Orderly places := by
  cases move with
  | arrive => exact orderly.arrive
  | ask visitor => exact orderly.ask visitor
  | close => exact orderly.close
  | finish visitor outcome =>
      simp only [Visitors.step]
      split
      next works =>
        have inside := orderly.working visitor works
        exact orderly.depart (.inr works) nofun nofun (.inr (orderly.balanced.not_line_of_inside inside))
      next => exact orderly
  | abandon visitor =>
      simp only [Visitors.step]
      split
      next waits => exact orderly.depart (.inl waits) nofun nofun (.inl rfl)
      next works => exact orderly.depart (.inr works) nofun nofun (.inl rfl)
      next => exact orderly

theorem runFrom (moves : List (VisitMove α)) : (visitors.runFrom moves).Orderly places := by
  induction moves generalizing visitors with
  | nil => exact orderly
  | cons move moves ih => exact ih (orderly.step move)

end Orderly

theorem orderly_run (places : Nat) (moves : List (VisitMove α)) : (run places moves).Orderly places :=
  (orderly_opening places).runFrom moves

end Visitors

end RemoteDom
