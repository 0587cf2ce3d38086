import Mathlib.Data.List.Induction
import RemoteDom.Proofs.Session.Periods

/-! One attach at a time. One request to attach at most is under way for a caller that waits, and it is for a target
without a session. If it comes to nothing, nothing is stored, and the next in line asks for itself. -/

namespace RemoteDom.Sessions

variable {sessions : Sessions} {move : SessionMove} {place other : Nat} {parent : SessionId} {target : TargetId}

def sends? (sessions : Sessions) : SessionMove → Option (SessionId × TargetId)
  | .proceed place =>
      ((sessions.live? place).filter fun caller => !caller.waits).bind fun caller => caller.rest.asks?
  | _ => none

private theorem sends?_eq_some_iff :
    sessions.sends? (.proceed place) = some (parent, target) ↔
      ∃ caller, sessions.live? place = some caller ∧ caller.waits = false ∧
        caller.rest.asks? = some (parent, target) := by
  simp [sends?, Option.bind_eq_some_iff, Option.filter_eq_some_iff, and_assoc]

/-- A caller that attaches to a target has come past the turnstile, and the target has no session. -/
structure Within (sessions : Sessions) (place : Nat) (phase : CallPhase (.attach target parent)) (waits : Bool) :
    Prop where
  stands : ∃ rest, sessions.live? place = some ⟨.attach target parent, rest, waits, false⟩ ∧ phase.Runs rest
  inside : place ∈ sessions.turn.inside
  free : sessions.table.forTarget? target = none

private theorem Stride.keeps_of_apart {later : Sessions} (stride : Stride sessions move later)
    (orderly : sessions.Orderly)
    (apart : move.place? ≠ some place) (inside : place ∈ sessions.turn.inside)
    (free : sessions.table.forTarget? target = none) :
    place ∈ later.turn.inside ∧ later.table.forTarget? target = none := by
  cases stride with
  | idle | called => exact ⟨inside, free⟩
  | heard event =>
      exact ⟨inside, SessionTable.forTarget?_of_lost (applyNotice_cases sessions.table event.notice) free⟩
  | @abandoned other =>
      have another : place ≠ other := fun same => apart (same ▸ rfl)
      exact ⟨(orderly.single.steady_leave other).inside place inside another, free⟩
  | @paced other _ _ _ _ _ _ _ _ _ _ placed pace =>
      have another : place ≠ other := fun same => apart (same ▸ pace.place?)
      exact ⟨(pace.steady orderly.single placed).inside place inside another,
        SessionTable.forTarget?_of_lost (pace.lost orderly.single placed another inside) free⟩

namespace Within

variable {phase : CallPhase (.attach target parent)} {waits : Bool}

theorem step (within : sessions.Within place phase waits) (orderly : sessions.Orderly)
    (apart : move.place? ≠ some place) : (sessions.step move).Within place phase waits := by
  obtain ⟨rest, live, runs⟩ := within.stands
  have stride := orderly.stride move
  obtain ⟨inside, free⟩ := stride.keeps_of_apart orderly apart within.inside within.free
  exact ⟨⟨rest, stride.live?_of_apart apart live, runs⟩, inside, free⟩

/-- The others change nothing for it. -/
theorem runFrom (within : sessions.Within place phase waits) (orderly : sessions.Orderly) {moves : List SessionMove}
    (apart : ∀ move ∈ moves, move.place? ≠ some place) : (sessions.runFrom moves).Within place phase waits := by
  induction moves generalizing sessions with
  | nil => exact within
  | cons move moves ih =>
      exact ih (within.step orderly (apart move List.mem_cons_self)) (orderly.step move) fun other member =>
        apart other (List.mem_cons_of_mem _ member)

theorem enter (within : sessions.Within place (.entering : CallPhase (.attach target parent)) true)
    (orderly : sessions.Orderly) :
    (sessions.step (.proceed place)).Within place (.lookingAgain : CallPhase (.attach target parent)) false := by
  obtain ⟨⟨rest, live, runs⟩, inside, free⟩ := within
  obtain ⟨next, rfl, onward⟩ := runs.of_step rfl
  simp only [Sessions.step, live, attempt, if_true, orderly.single.ask_of_inside inside, reduceCtorEq, if_false]
  exact ⟨⟨next (), (live?_set live _ _ _ place).trans (if_pos rfl), onward ()⟩, inside, free⟩

theorem lookAgain (within : sessions.Within place (.lookingAgain : CallPhase (.attach target parent)) false) :
    (sessions.step (.proceed place)).Within place (.asking : CallPhase (.attach target parent)) false := by
  obtain ⟨⟨rest, live, runs⟩, inside, free⟩ := within
  obtain ⟨next, rfl, onward⟩ := runs.of_step rfl
  simp only [Sessions.step, live, attempt, free]
  exact ⟨⟨next none, (live?_set live _ _ _ place).trans (if_pos rfl), onward none⟩, inside, free⟩

theorem sends? (within : sessions.Within place (.asking : CallPhase (.attach target parent)) false) :
    sessions.sends? (.proceed place) = some (parent, target) := by
  obtain ⟨⟨rest, live, runs⟩, -, -⟩ := within
  exact sends?_eq_some_iff.mpr ⟨_, live, rfl, runs.asks?⟩

end Within

/-- The caller of a place, past the turnstile, gives up its turn: it is abandoned, or it leaves because its attach
failed. -/
inductive GivesUp (sessions : Sessions) (place : Nat) : SessionMove → Prop
  | abandoned {caller : Caller} (inside : place ∈ sessions.turn.inside) (live : sessions.live? place = some caller)
      (waits : caller.waits = true) : GivesUp sessions place (.abandon place)
  | failed {caller : Caller} {error : Error} (inside : place ∈ sessions.turn.inside)
      (live : sessions.live? place = some caller) (failed : caller.rest.settled? = some (.error error)) :
      GivesUp sessions place (.proceed place)

theorem GivesUp.step (gives : sessions.GivesUp place move) (orderly : sessions.Orderly) :
    (sessions.step move).turn = sessions.turn.leave place ∧ (sessions.step move).table = sessions.table ∧
      move.place? = some place ∧ place ∈ sessions.turn.inside := by
  cases gives with
  | @abandoned caller inside live waits =>
      obtain ⟨errand, rest, waited, gone⟩ := caller
      obtain rfl : waited = true := waits
      refine ⟨?_, ?_, rfl, inside⟩ <;> simp only [Sessions.step, live, put]
  | @failed caller error inside live failed =>
      obtain ⟨phase, runs, placed⟩ := orderly.placed place caller live
      obtain ⟨errand, rest, waits, gone⟩ := caller
      have settled := runs.settled?.symm.trans failed
      cases phase with
      | leaving =>
          obtain ⟨next, rfl, -⟩ := runs.of_step rfl
          refine ⟨?_, ?_, rfl, inside⟩ <;> simp only [Sessions.step, live, attempt, put]
      | finished => exact absurd inside placed.1.1
      | _ => cases settled

theorem Orderly.fruitless (orderly : sessions.Orderly) {caller : Caller} {error : Error}
    (inside : place ∈ sessions.turn.inside) (live : sessions.live? place = some caller)
    (attaches : caller.errand = .attach target parent) (failed : caller.rest.settled? = some (.error error)) :
    sessions.table.forTarget? target = none := by
  obtain ⟨phase, runs, placed⟩ := orderly.placed place caller live
  obtain ⟨errand, rest, waits, gone⟩ := caller
  obtain rfl : errand = .attach target parent := attaches
  have settled := runs.settled?.symm.trans failed
  cases phase with
  | leaving outcome =>
      cases outcome with
      | error => exact placed.2.2 _ rfl
      | ok => cases settled
  | finished => exact absurd inside placed.1.1
  | _ => cases settled

/-- Two attach to one target; the first gets no answer in time, and the second asks for itself. -/
example :
    let attach : Errand := .attach ⟨"F1"⟩ .topLevel
    let late : Error := .requestTimeout 1 "Target.attachToTarget" 100
    (run [.call attach, .proceed 0, .proceed 0, .proceed 0, .proceed 0, .call attach, .proceed 1, .proceed 1,
      .answer 0 (.error late), .proceed 0, .proceed 1, .proceed 1]).sends? (.proceed 1) =
        some (.topLevel, ⟨"F1"⟩) := by
  decide

end RemoteDom.Sessions
