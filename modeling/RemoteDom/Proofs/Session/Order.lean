import RemoteDom.Proofs.Session.Phases

/-! The order among callers. One caller at most is past the turnstile, and it is one that still runs. As long as a
caller there has found no session for its target, there is none. -/

namespace RemoteDom

variable {table later : SessionTable} {turn after : Turnstile} {place other : Nat} {errand : Errand}
  {waits waits' : Bool} {phase phase' : CallPhase errand} {move : SessionMove}

/-- What others do leaves a caller where it stands, except that it may be let in. -/
private theorem CallPhase.Placed.of_steady (placed : phase.Placed table turn other waits)
    (steady : turn.Steady after place)
    (apart : other ≠ place) (lost : other ∈ turn.inside → later = table ∨ ∃ id, later = table.forget id) :
    phase.Placed later after other waits := by
  cases phase with
  | looking | recalling | forgetting | finished => exact ⟨steady.outside other placed.1 apart, placed.2⟩
  | detaching => exact steady.outside other placed apart
  | entering =>
      cases waits with
      | false => exact steady.outside other placed apart
      | true =>
          rcases placed with inside | line
          · exact .inl (steady.inside other inside apart)
          · exact steady.line other line apart
  | lookingAgain => exact ⟨steady.inside other placed.1 apart, placed.2⟩
  | asking => exact ⟨steady.inside other placed.1 apart, SessionTable.forTarget?_of_lost (lost placed.1) placed.2⟩
  | storing =>
      exact ⟨steady.inside other placed.1 apart, placed.2.1,
        SessionTable.forTarget?_of_lost (lost placed.1) placed.2.2⟩
  | assigning => exact ⟨steady.inside other placed.1 apart, placed.2.1, placed.2.2.of_lost (lost placed.1)⟩
  | leaving =>
      exact ⟨steady.inside other placed.1 apart, placed.2.1,
        fun error failed => SessionTable.forTarget?_of_lost (lost placed.1) (placed.2.2 error failed)⟩

private theorem CallPhase.Placed.of_table (placed : phase.Placed table turn place waits)
    (lost : later = table ∨ ∃ id, later = table.forget id) : phase.Placed later turn place waits := by
  cases phase with
  | asking => exact ⟨placed.1, SessionTable.forTarget?_of_lost lost placed.2⟩
  | storing => exact ⟨placed.1, placed.2.1, SessionTable.forTarget?_of_lost lost placed.2.2⟩
  | assigning => exact ⟨placed.1, placed.2.1, placed.2.2.of_lost lost⟩
  | leaving =>
      exact ⟨placed.1, placed.2.1, fun error failed => SessionTable.forTarget?_of_lost lost (placed.2.2 error failed)⟩
  | _ => exact placed

private theorem CallPhase.placed_opening (out : turn.Outside place) :
    (opening errand).Placed table turn place false := by
  cases errand <;> exact ⟨out, rfl⟩

theorem applyNotice_cases (table : SessionTable) (notice : Notice) :
    Rehearsal.World.applyNotice table notice = table ∨
      ∃ id, Rehearsal.World.applyNotice table notice = table.forget id := by
  cases notice with
  | detached session => exact .inr ⟨session, rfl⟩
  | destroyed target => exact table.forgetTarget_cases target
  | attached | other => exact .inl rfl

namespace Pace

variable (pace : Pace table turn place waits phase move later after waits' phase')

include pace

theorem single (single : turn.Single) (placed : phase.Placed table turn place waits) : after.Single := by
  cases pace with
  | entered enters | queued enters => exact (single.enter placed enters).1
  | left => exact single.leave place
  | _ => exact single

theorem steady (single : turn.Single) (placed : phase.Placed table turn place waits) : turn.Steady after place := by
  cases pace with
  | entered enters | queued enters => exact (single.enter placed enters).2.1
  | left => exact single.steady_leave place
  | _ => exact .refl turn place

theorem distinct (distinct : table.Distinct) : later.Distinct := by
  cases pace with
  | stored => exact SessionTable.distinct_store distinct
  | forgot => exact SessionTable.distinct_forget distinct _
  | _ => exact distinct

/-- While anyone else is past the turnstile, nothing is done to the table but to forget. -/
theorem lost (single : turn.Single) (placed : phase.Placed table turn place waits) (apart : other ≠ place)
    (inside : other ∈ turn.inside) : later = table ∨ ∃ id, later = table.forget id := by
  cases pace with
  | stored | assigned => exact absurd (single.eq_of_inside inside placed.1) apart
  | forgot => exact .inr ⟨_, rfl⟩
  | _ => exact .inl rfl

theorem placed (single : turn.Single) (placed : phase.Placed table turn place waits) :
    phase'.Placed later after place waits' := by
  cases pace with
  | missed | recalled => exact placed.1
  | found => exact ⟨placed.1, rfl⟩
  | entered enters heard =>
      rcases (single.enter placed enters).2.2 with ⟨-, inside⟩ | ⟨waits, -⟩
      · exact ⟨inside, rfl⟩
      · exact absurd waits heard
  | queued enters =>
      rcases (single.enter placed enters).2.2 with ⟨admitted, -⟩ | ⟨-, line⟩
      · cases admitted
      · exact .inr line
  | foundAgain => exact ⟨placed.1, rfl, by simp⟩
  | missedAgain unknown => exact ⟨placed.1, unknown⟩
  | asked => exact placed
  | @answered target parent outcome =>
      rcases CallPhase.answered_cases target parent outcome with ⟨_, id, -, -, same⟩ | ⟨error, -, same⟩
      · exact same ▸ ⟨placed.1, rfl, placed.2⟩
      · exact same ▸ ⟨placed.1, rfl, fun _ _ => placed.2⟩
  | stored id => exact ⟨placed.1, rfl, .store placed.2.2⟩
  | assigned => exact ⟨placed.1, rfl, by simp⟩
  | left => exact ⟨single.outside_leave place, rfl⟩
  | toldToDetach => exact placed
  | detached => exact ⟨placed, rfl⟩
  | forgot => exact ⟨placed.1, rfl⟩

end Pace

namespace Sessions

/-- What holds whatever the callers did: one of them at most is past the turnstile, who stands there or in line is
live, and every live caller is in a phase of its call and where that phase is. -/
structure Orderly (sessions : Sessions) : Prop where
  single : sessions.turn.Single
  distinct : sessions.table.Distinct
  live : ∀ place, ¬ sessions.turn.Outside place → ∃ caller, sessions.live? place = some caller
  placed : ∀ place caller, sessions.live? place = some caller →
    ∃ phase : CallPhase caller.errand, phase.Runs caller.rest ∧
      phase.Placed sessions.table sessions.turn place caller.waits

variable {sessions : Sessions} {caller : Caller}

theorem lt_of_live? (live : sessions.live? place = some caller) :
    sessions.callers[place]? = some caller ∧ caller.gone = false ∧ place < sessions.callers.length := by
  obtain ⟨found, stays⟩ := Option.filter_eq_some_iff.mp live
  exact ⟨found, by simpa using stays, (List.getElem?_eq_some_iff.mp found).1⟩

theorem live?_set (live : sessions.live? place = some caller) (new : Caller) (table : SessionTable) (turn : Turnstile)
    (other : Nat) :
    (⟨table, turn, sessions.callers.set place new⟩ : Sessions).live? other =
      if other = place then (if new.gone then none else some new) else sessions.live? other := by
  obtain ⟨-, -, within⟩ := lt_of_live? live
  by_cases same : other = place
  · subst same
    cases gone : new.gone <;> simp [live?, List.getElem?_set_self within, gone]
  · simp [live?, same, List.getElem?_set_ne (Ne.symm same)]

theorem live?_call (sessions : Sessions) (new : Caller) (other : Nat) :
    ({ sessions with callers := sessions.callers ++ [new] } : Sessions).live? other =
      if other = sessions.callers.length then (if new.gone then none else some new) else sessions.live? other := by
  by_cases same : other = sessions.callers.length
  · subst same
    cases gone : new.gone <;> simp [live?, gone]
  · rcases Nat.lt_or_gt_of_ne same with less | more
    · simp [live?, same, List.getElem?_append_left less]
    · have none_before : sessions.callers[other]? = none := List.getElem?_eq_none (Nat.le_of_lt more)
      have none_after : (sessions.callers ++ [new])[other]? = none :=
        List.getElem?_eq_none (by simpa using Nat.succ_le_of_lt more)
      simp only [live?, none_before, none_after, if_neg same]

theorem orderly_opening : opening.Orderly where
  single := Turnstile.single_ofPlaces
  distinct := SessionTable.distinct_empty
  live := fun place inside => absurd ⟨List.not_mem_nil, List.not_mem_nil⟩ inside
  placed := by simp [opening, live?]

theorem Orderly.stride (orderly : sessions.Orderly) (move : SessionMove) :
    Stride sessions move (sessions.step move) :=
  stride_step sessions move orderly.placed

theorem Orderly.called (orderly : sessions.Orderly) (errand : Errand) :
    Orderly { sessions with callers := sessions.callers ++ [⟨errand, errand.program, false, false⟩] } := by
  have out : sessions.turn.Outside sessions.callers.length := by
    by_contra inside
    obtain ⟨caller, live⟩ := orderly.live _ inside
    exact Nat.lt_irrefl _ (lt_of_live? live).2.2
  refine ⟨orderly.single, orderly.distinct, fun place inside => ?_, fun place caller live => ?_⟩
  · have apart : place ≠ sessions.callers.length := by
      rintro rfl
      exact inside out
    rw [live?_call, if_neg apart]
    exact orderly.live place inside
  · rw [live?_call] at live
    split at live
    next same =>
      cases Option.some.inj live
      exact ⟨.opening errand, CallPhase.runs_opening errand, by simpa [same] using CallPhase.placed_opening out⟩
    next => exact orderly.placed place caller live

theorem Orderly.heard (orderly : sessions.Orderly) (notice : Notice) :
    Orderly { sessions with table := Rehearsal.World.applyNotice sessions.table notice } := by
  refine ⟨orderly.single, ?_, orderly.live, fun place caller live => ?_⟩
  · rcases applyNotice_cases sessions.table notice with same | ⟨id, same⟩
    · simpa only [same] using orderly.distinct
    · simpa only [same] using SessionTable.distinct_forget orderly.distinct id
  · obtain ⟨phase, runs, placed⟩ := orderly.placed place caller live
    exact ⟨phase, runs, placed.of_table (applyNotice_cases sessions.table notice)⟩

theorem Orderly.abandoned (orderly : sessions.Orderly) (live : sessions.live? place = some caller) :
    Orderly ⟨sessions.table, sessions.turn.leave place,
      sessions.callers.set place ⟨caller.errand, caller.rest, true, true⟩⟩ := by
  have steady := orderly.single.steady_leave place
  refine ⟨orderly.single.leave place, orderly.distinct, fun other inside => ?_, fun other found known => ?_⟩
  · have apart : other ≠ place := fun same => inside (same ▸ orderly.single.outside_leave place)
    rw [live?_set live, if_neg apart]
    exact orderly.live other fun out => inside (steady.outside other out apart)
  · rw [live?_set live] at known
    split at known
    next => cases known
    next apart =>
      obtain ⟨phase, runs, placed⟩ := orderly.placed other found known
      exact ⟨phase, runs, placed.of_steady steady apart fun _ => .inl rfl⟩

theorem Orderly.paced (orderly : sessions.Orderly) (live : sessions.live? place = some caller)
    {phase next : CallPhase caller.errand} {rest : ClientProgram (Except Error (Option Session))}
    (placed : phase.Placed sessions.table sessions.turn place caller.waits)
    (pace : Pace sessions.table sessions.turn place caller.waits phase move later after waits next)
    (onward : next.Runs rest) :
    Orderly ⟨later, after, sessions.callers.set place ⟨caller.errand, rest, waits, false⟩⟩ := by
  have steady := pace.steady orderly.single placed
  refine ⟨pace.single orderly.single placed, pace.distinct orderly.distinct, fun other inside => ?_,
    fun other found known => ?_⟩
  · rw [live?_set live]
    split
    next => exact ⟨_, rfl⟩
    next apart => exact orderly.live other fun out => inside (steady.outside other out apart)
  · rw [live?_set live] at known
    split at known
    next same =>
      cases Option.some.inj known
      exact ⟨next, onward, same ▸ pace.placed orderly.single placed⟩
    next apart =>
      obtain ⟨phase, runs, stands⟩ := orderly.placed other found known
      exact ⟨phase, runs, stands.of_steady steady apart (pace.lost orderly.single placed apart)⟩

theorem Orderly.step (orderly : sessions.Orderly) (move : SessionMove) : (sessions.step move).Orderly := by
  have stride := orderly.stride move
  generalize sessions.step move = later at stride
  cases stride with
  | idle => exact orderly
  | called errand => exact orderly.called errand
  | heard event => exact orderly.heard event.notice
  | abandoned live => exact orderly.abandoned live
  | paced live _ placed pace onward => exact orderly.paced live placed pace onward

theorem Orderly.runFrom (orderly : sessions.Orderly) (moves : List SessionMove) :
    (sessions.runFrom moves).Orderly := by
  induction moves generalizing sessions with
  | nil => exact orderly
  | cons move moves ih => exact ih (orderly.step move)

theorem orderly_run (moves : List SessionMove) : (run moves).Orderly := orderly_opening.runFrom moves

end Sessions

end RemoteDom
