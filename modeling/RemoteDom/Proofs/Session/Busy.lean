import RemoteDom.Proofs.Program.Weaving
import RemoteDom.Proofs.Session.Order

/-! Callers that have not come to their end, and what they do in one move. -/

namespace RemoteDom.Sessions

variable {sessions : Sessions} {place : Nat} {caller : Caller}

/-- The caller has not come to its end. -/
structure Busy (sessions : Sessions) (place : Nat) (caller : Caller) : Prop where
  live : sessions.live? place = some caller
  unfinished : ∀ outcome, caller.rest ≠ .done outcome

/-- All are as they were, but for one place. -/
theorem busy_iff_of_live {after : Sessions} (live : ∀ other, after.live? other =
      if other = place then (if caller.gone then none else some caller) else sessions.live? other)
    (other : Nat) (found : Caller) :
    after.Busy other found ↔
      if other = place then caller.gone = false ∧ found = caller ∧ ∀ outcome, caller.rest ≠ .done outcome
      else sessions.Busy other found := by
  by_cases here : other = place
  · rw [if_pos here]
    cases gone : caller.gone with
    | false =>
        have live : after.live? other = some caller := by rw [live, if_pos here, gone]; rfl
        refine ⟨fun busy => ?_, fun is => ⟨is.2.1 ▸ live, is.2.1 ▸ is.2.2⟩⟩
        obtain rfl := Option.some.inj (live.symm.trans busy.live)
        exact ⟨rfl, rfl, busy.unfinished⟩
    | true =>
        have nobody : after.live? other = none := by rw [live, if_pos here, gone]; rfl
        exact ⟨fun busy => (nomatch nobody.symm.trans busy.live), fun is => (nomatch is.1)⟩
  · have same : after.live? other = sessions.live? other := by rw [live, if_neg here]
    rw [if_neg here]
    exact ⟨fun busy => ⟨same ▸ busy.live, busy.unfinished⟩, fun busy => ⟨same.trans busy.live, busy.unfinished⟩⟩

theorem Orderly.busy_of_turn (orderly : sessions.Orderly)
    (member : place ∈ sessions.turn.inside ++ sessions.turn.line) :
    ∃ caller, sessions.Busy place caller := by
  have there : ¬ sessions.turn.Outside place := fun out => (List.mem_append.mp member).elim out.1 out.2
  obtain ⟨caller, live⟩ := orderly.live place there
  refine ⟨caller, live, fun outcome done => ?_⟩
  obtain ⟨phase, runs, placed⟩ := orderly.placed place caller live
  obtain ⟨errand, rest, waits, gone⟩ := caller
  simp only at done
  subst done
  cases runs with
  | done => exact there placed.1

theorem Orderly.act_of_busy (orderly : sessions.Orderly) (busy : sessions.Busy place caller) :
    ∃ act next, caller.rest = .act act next ∧
      (act.aboutSessions = true ∨ ∃ session command, act = .request session command) := by
  obtain ⟨phase, runs, -⟩ := orderly.placed place caller busy.live
  obtain ⟨errand, rest, waits, gone⟩ := caller
  cases runs with
  | done outcome => exact absurd rfl (busy.unfinished outcome)
  | @acts _ act after next step onward =>
      refine ⟨act, next, rfl, ?_⟩
      cases phase <;> cases step <;> first
        | exact .inl rfl
        | exact .inr ⟨_, _, rfl⟩

theorem busy_of_callers {after : Sessions} (same : after.callers = sessions.callers) :
    after.Busy place caller ↔ sessions.Busy place caller := by
  have live : after.live? place = sessions.live? place := by rw [live?, same]; rfl
  exact ⟨fun busy => ⟨live ▸ busy.live, busy.unfinished⟩, fun busy => ⟨live.trans busy.live, busy.unfinished⟩⟩

theorem callers_attempt (sessions : Sessions) (place : Nat) (waits : Bool) (act : Act) :
    (sessions.attempt place waits act).2.callers = sessions.callers := by
  cases act <;> rfl

/-- Such an act only reads the table. -/
theorem attempt_of_plain {act : Act} (plain : act.isPlain = true) (about : act.aboutSessions = true) :
    ∃ read : SessionTable → act.Answer, ∀ (sessions : Sessions) (place : Nat) (waits : Bool),
      sessions.attempt place waits act = (some (read sessions.table), sessions) := by
  cases act with
  | session id => exact ⟨fun table => table.session? id, fun _ _ _ => rfl⟩
  | sessionForTarget target => exact ⟨fun table => table.forTarget? target, fun _ _ _ => rfl⟩
  | enterAttach | leaveAttach | store | assign | forget => cases plain
  | _ => cases about

section Acts

variable {act : Act} {next : act.Answer → ClientProgram (Except Error (Option Session))} {later : Sessions}

theorem Busy.went (busy : sessions.Busy place caller) (does : caller.rest = .act act next) {answer : act.Answer}
    (tried : sessions.attempt place caller.waits act = (some answer, later)) :
    sessions.step (.proceed place) = later.put place ⟨caller.errand, next answer, false, false⟩ := by
  obtain ⟨errand, rest, waits, gone⟩ := caller
  subst does
  simp only [step, busy.live, tried]

theorem Busy.waited (busy : sessions.Busy place caller) (does : caller.rest = .act act next)
    (tried : sessions.attempt place caller.waits act = (none, later)) :
    sessions.step (.proceed place) = later.put place ⟨caller.errand, caller.rest, true, false⟩ := by
  obtain ⟨errand, rest, waits, gone⟩ := caller
  subst does
  simp only [step, busy.live, tried]

end Acts

theorem Busy.abandoned (busy : sessions.Busy place caller) (waits : caller.waits = true) :
    sessions.step (.abandon place) = ({ sessions with turn := sessions.turn.leave place } : Sessions).put place
      ⟨caller.errand, caller.rest, true, true⟩ := by
  obtain ⟨errand, rest, waiting, gone⟩ := caller
  subst waits
  simp only [step, busy.live]

/-- A caller whose request came to an end, whether or not it had been sent. -/
theorem Busy.answer {session : SessionId} {command : Command}
    {next : Except Error Json → ClientProgram (Except Error (Option Session))} (busy : sessions.Busy place caller)
    (does : caller.rest = .act (.request session command) next) (outcome : Except Error Json) :
    sessions.runFrom [.proceed place, .answer place outcome] =
      sessions.put place ⟨caller.errand, next outcome, false, false⟩ := by
  have sent : sessions.step (.proceed place) = sessions.put place ⟨caller.errand, caller.rest, true, false⟩ :=
    busy.waited does rfl
  have there : (sessions.put place ⟨caller.errand, caller.rest, true, false⟩).live? place =
      some ⟨caller.errand, caller.rest, true, false⟩ := by
    rw [put, live?_set busy.live, if_pos rfl]
    rfl
  rw [runFrom_cons, sent, runFrom_cons, runFrom_nil, step, there, does]
  simp [put]

/-- An errand begins with a look at the table. -/
theorem called (sessions : Sessions) (errand : Errand) :
    ∃ (act : Act) (next : act.Answer → ClientProgram (Except Error (Option Session))),
      errand.program = .act act next ∧ act.isPlain = true ∧ act.aboutSessions = true ∧
        ∀ answer later, sessions.attempt sessions.callers.length false act = (some answer, later) →
          sessions.runFrom [.call errand, .proceed sessions.callers.length] =
            { sessions with callers := sessions.callers ++ [⟨errand, next answer, false, false⟩] } := by
  obtain ⟨act, next, does, plain, about⟩ : ∃ (act : Act) (next : _), errand.program = .act act next ∧
      act.isPlain = true ∧ act.aboutSessions = true := by
    cases errand <;> exact ⟨_, _, rfl, rfl, rfl⟩
  refine ⟨act, next, does, plain, about, fun answer later tried => ?_⟩
  have there : ({ sessions with callers := sessions.callers ++ [⟨errand, errand.program, false, false⟩] } :
      Sessions).live? sessions.callers.length = some ⟨errand, errand.program, false, false⟩ := by
    rw [live?_call, if_pos rfl]
    rfl
  obtain ⟨read, reads⟩ := attempt_of_plain plain about
  obtain rfl : read sessions.table = answer := by
    rw [reads] at tried
    exact Option.some.inj (Prod.mk.inj tried).1
  have begun : sessions.step (.call errand) =
    { sessions with callers := sessions.callers ++ [⟨errand, errand.program, false, false⟩] } := rfl
  have unfinished (outcome : Except Error (Option Session)) : errand.program ≠ .done outcome := by
    rw [does]
    nofun
  rw [runFrom_cons, runFrom_cons, runFrom_nil, begun, Busy.went ⟨there, unfinished⟩ does (reads _ _ _)]
  simp [put]

end RemoteDom.Sessions
