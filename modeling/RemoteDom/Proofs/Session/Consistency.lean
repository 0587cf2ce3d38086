import RemoteDom.Proofs.Session.Moves

/-! What the table tells when the browser grants no name twice. Targets are assigned to names of sessions of their own,
every session in the table is assigned its target or its caller is about to do that, and whoever attached to a target
has a session of that target. -/

namespace RemoteDom.Sessions

variable {sessions later : Sessions} {granted more : List SessionId} {target : TargetId} {id : SessionId}

/-- A caller has stored a session of that name, and has yet to assign the target to it. -/
def Between (sessions : Sessions) (target : TargetId) (id : SessionId) : Prop :=
  ∃ place caller, sessions.live? place = some caller ∧ caller.rest.assigning? = some (target, id)

/-- The table holds granted sessions only, a session that is going to be stored is new, and whoever attached to a
target has a session of that target. -/
structure Faithful (granted : List SessionId) (sessions : Sessions) : Prop where
  sound : sessions.table.Sound
  stored : ∀ session ∈ sessions.table.stored, session.id ∈ granted
  named : ∀ target id, sessions.table.targets.lookup target = some id → id ∈ granted
  assigned : ∀ session ∈ sessions.table.stored, ∀ target, session.target = some target →
    sessions.table.targets.lookup target = some session.id ∨ sessions.Between target session.id
  storing : ∀ place caller session, sessions.live? place = some caller → caller.rest.storing? = some session →
    session.id ∈ granted ∧ sessions.table.Lacks session.id
  assigning : ∀ place caller target id, sessions.live? place = some caller →
    caller.rest.assigning? = some (target, id) → id ∈ granted ∧
      (∀ other, sessions.table.targets.lookup other ≠ some id) ∧
      ∀ session, sessions.table.stored? id = some session → session.target = some target
  settled : ∀ place caller target parent result, sessions.live? place = some caller →
    caller.errand = .attach target parent → caller.rest.settled? = some (.ok result) →
    ∃ session, result = some session ∧ session.target = some target

private theorem faithful_opening : Faithful [] opening where
  sound := SessionTable.sound_empty
  stored := by simp [opening, SessionTable.empty]
  named := by simp [opening, SessionTable.empty]
  assigned := by simp [opening, SessionTable.empty]
  storing := by simp [opening, live?]
  assigning := by simp [opening, live?]
  settled := by simp [opening, live?]

/-- A session that stays when others are forgotten keeps its target. -/
theorem Faithful.lookup_forget (faithful : Faithful granted sessions) (orderly : sessions.Orderly) {session : Session}
    {name : SessionId} (stays : session ∈ (sessions.table.forget name).stored)
    (known : sessions.table.targets.lookup target = some session.id) :
    (sessions.table.forget name).targets.lookup target = some session.id := by
  have member := (sessions.table.forget_sublist name).subset stays
  rw [SessionTable.lookup_forget, if_neg, known]
  rintro ⟨gone, inside, left, aimed⟩
  -- the target of a session that goes is that of the one that stays, so that both have one name
  have same : sessions.table.targets.lookup target = some gone.id := by
    rcases faithful.assigned gone inside target aimed with told | ⟨place, caller, live, assigning⟩
    · exact told
    · rcases (orderly.of_assigning live assigning).2.2 with none | told
      · have found := orderly.distinct.stored?_eq_some_iff.mpr ⟨member, rfl⟩
        simp [SessionTable.forTarget?, known, found] at none
      · exact told
  have one := orderly.distinct.eq_of_id inside member (Option.some.inj (same.symm.trans known))
  exact left (one ▸ stays)

theorem Faithful.of_lost (faithful : Faithful granted sessions) (orderly : sessions.Orderly) (further : granted ⊆ more)
    (lost : later.table = sessions.table ∨ ∃ name, later.table = sessions.table.forget name)
    (stay : ∀ place caller target id, sessions.live? place = some caller →
      caller.rest.assigning? = some (target, id) → later.live? place = some caller)
    (come : ∀ place caller, later.live? place = some caller → sessions.live? place = some caller ∨
      caller.rest.storing? = none ∧ caller.rest.assigning? = none ∧ caller.rest.settled? = none) :
    Faithful more later where
  sound := faithful.sound.of_lost orderly.distinct lost
  stored := fun session member => further (faithful.stored session (SessionTable.stored_of_lost lost member))
  named := fun target id known => further (faithful.named target id (SessionTable.lookup_of_lost lost known))
  assigned := by
    intro session member target aims
    rcases faithful.assigned session (SessionTable.stored_of_lost lost member) target aims with
      known | ⟨place, caller, live, assigning⟩
    · rcases lost with same | ⟨name, same⟩
      · exact .inl (same ▸ known)
      · rw [same] at member ⊢
        exact .inl (faithful.lookup_forget orderly member known)
    · exact .inr ⟨place, caller, stay place caller target session.id live assigning, assigning⟩
  storing := by
    intro place caller session live storing
    rcases come place caller live with old | ⟨none, -⟩
    · obtain ⟨member, lacks⟩ := faithful.storing place caller session old storing
      exact ⟨further member, lacks.of_lost lost⟩
    · cases none.symm.trans storing
  assigning := by
    intro place caller target id live assigning
    rcases come place caller live with old | ⟨-, none, -⟩
    · obtain ⟨member, new, aims⟩ := faithful.assigning place caller target id old assigning
      exact ⟨further member, fun other known => new other (SessionTable.lookup_of_lost lost known),
        fun session found => aims session (orderly.distinct.stored?_of_lost lost found)⟩
    · cases none.symm.trans assigning
  settled := by
    intro place caller target parent result live same settled
    rcases come place caller live with old | ⟨-, -, none⟩
    · exact faithful.settled place caller target parent result old same settled
    · cases none.symm.trans settled

section Paced

variable {place : Nat} {caller : Caller} {move : SessionMove} {table : SessionTable} {turn : Turnstile} {waits : Bool}
  {phase after : CallPhase caller.errand}

private theorem Between.of_pace (between : sessions.Between target id) (live : sessions.live? place = some caller)
    (runs : phase.Runs caller.rest)
    (pace : Pace sessions.table sessions.turn place caller.waits phase move table turn waits after)
    (rest : ClientProgram (Except Error (Option Session))) :
    Between ⟨table, turn, sessions.callers.set place ⟨caller.errand, rest, waits, false⟩⟩ target id ∨
      table = sessions.table.assign target id := by
  obtain ⟨other, found, lives, assigning⟩ := between
  by_cases same : other = place
  · subst same
    obtain rfl := Option.some.inj (live.symm.trans lives)
    exact .inr (pace.of_assigning (runs.assigning?.symm.trans assigning))
  · exact .inl ⟨other, found, by rw [live?_set live, if_neg same, lives], assigning⟩

private theorem Faithful.table_of_pace (faithful : Faithful granted sessions) (orderly : sessions.Orderly)
    (live : sessions.live? place = some caller) (runs : phase.Runs caller.rest)
    (pace : Pace sessions.table sessions.turn place caller.waits phase move table turn waits after)
    {rest : ClientProgram (Except Error (Option Session))} (onward : after.Runs rest) :
    table.Sound ∧ (∀ session ∈ table.stored, session.id ∈ granted) ∧
      (∀ target id, table.targets.lookup target = some id → id ∈ granted) ∧
      ∀ session ∈ table.stored, ∀ target, session.target = some target →
        table.targets.lookup target = some session.id ∨
          Between ⟨table, turn, sessions.callers.set place ⟨caller.errand, rest, waits, false⟩⟩ target session.id := by
  have keep {session : Session} {target : TargetId} (known : sessions.table.targets.lookup target = some session.id →
      table.targets.lookup target = some session.id) (member : session ∈ sessions.table.stored)
      (aims : session.target = some target) : table.targets.lookup target = some session.id ∨
        Between ⟨table, turn, sessions.callers.set place ⟨caller.errand, rest, waits, false⟩⟩ target session.id := by
    rcases faithful.assigned session member target aims with told | between
    · exact .inl (known told)
    · rcases between.of_pace live runs pace rest with still | same
      · exact .inr still
      · exact .inl (by rw [same, SessionTable.lookup_assign, if_pos rfl])
  rcases pace.table_cases with lost | ⟨session, -, storing, same⟩ | ⟨target, id, -, assigning, same⟩
  · refine ⟨faithful.sound.of_lost orderly.distinct lost,
      fun session member => faithful.stored session (SessionTable.stored_of_lost lost member),
      fun target id known => faithful.named target id (SessionTable.lookup_of_lost lost known),
      fun session member target aims => keep (fun known => ?_) (SessionTable.stored_of_lost lost member) aims⟩
    rcases lost with same | ⟨name, same⟩
    · exact same ▸ known
    · rw [same] at member ⊢
      exact faithful.lookup_forget orderly member known
  · obtain ⟨granting, lacks⟩ := faithful.storing place caller session live (runs.storing?.trans storing)
    have stored (other : Session) (member : other ∈ table.stored) :
        other = session ∨ other ∈ sessions.table.stored := by
      rw [same] at member
      exact (List.mem_cons.mp member).imp id List.mem_of_mem_filter
    refine ⟨same ▸ faithful.sound.store lacks.targets, fun other member => ?_, same ▸ faithful.named,
      fun other member target aims => ?_⟩
    · rcases stored other member with rfl | old
      · exact granting
      · exact faithful.stored other old
    · rcases stored other member with rfl | old
      · obtain ⟨-, name, aimed, assigning, -⟩ := pace.of_storing storing
        obtain rfl := Option.some.inj (aims.symm.trans aimed)
        exact .inr ⟨place, _, (live?_set live _ _ _ place).trans (if_pos rfl), onward.assigning?.trans assigning⟩
      · exact keep (fun known => same ▸ known) old aims
  · obtain ⟨granting, new, aims⟩ := faithful.assigning place caller target id live (runs.assigning?.trans assigning)
    refine ⟨same ▸ faithful.sound.assign new aims, same ▸ faithful.stored, fun other name known => ?_,
      fun session member other aimed => ?_⟩
    · rw [same, SessionTable.lookup_assign] at known
      split at known
      · exact Option.some.inj known ▸ granting
      · exact faithful.named other name known
    · rw [same, SessionTable.stored_assign] at member
      refine keep (fun known => ?_) member aimed
      rw [same, SessionTable.lookup_assign]
      split
      next one =>
        -- the target has no other session
        subst one
        rcases (orderly.of_assigning live (runs.assigning?.trans assigning)).2.2 with none | told
        · have found := orderly.distinct.stored?_eq_some_iff.mpr ⟨member, rfl⟩
          simp [SessionTable.forTarget?, known, found] at none
        · exact absurd told (new other)
      next => exact known

private theorem Faithful.new_of_pace (faithful : Faithful granted sessions) (live : sessions.live? place = some caller)
    (runs : phase.Runs caller.rest)
    (pace : Pace sessions.table sessions.turn place caller.waits phase move table turn waits after)
    (new : ∀ grant, sessions.grant? move = some grant → grant.id ∉ granted) {session : Session}
    (storing : after.storing? = some session) :
    session.id ∈ granted ++ (sessions.grant? move).toList.map Grant.id ∧ table.Lacks session.id := by
  obtain ⟨target, parent, answer, id, rfl, waited, asks, read, rfl, rfl⟩ := pace.granted_of_storing storing
  have granting : sessions.grant? (.answer place (.ok answer)) = some ⟨place, target, parent, id⟩ :=
    grant?_eq_some_iff.mpr
      ⟨answer, rfl, flight?_eq_some_iff.mpr ⟨caller, live, waited, runs.asks?.trans asks⟩, read⟩
  refine ⟨by simp [granting, Session.attached], fun other member same => ?_, fun name known => ?_⟩
  · obtain rfl : other.id = id := same
    exact new _ granting (faithful.stored other member)
  · exact new _ granting (faithful.named name id known)

private theorem Faithful.stored_of_pace (faithful : Faithful granted sessions)
    (live : sessions.live? place = some caller)
    (runs : phase.Runs caller.rest)
    (pace : Pace sessions.table sessions.turn place caller.waits phase move table turn waits after)
    (assigning : after.assigning? = some (target, id)) :
    id ∈ granted ∧ (∀ other, table.targets.lookup other ≠ some id) ∧
      ∀ session, table.stored? id = some session → session.target = some target := by
  obtain ⟨session, -, storing, aims, rfl, rfl⟩ := pace.stored_of_assigning assigning
  obtain ⟨granting, lacks⟩ := faithful.storing place caller session live (runs.storing?.trans storing)
  refine ⟨granting, lacks.targets, fun other found => ?_⟩
  rw [SessionTable.stored?_store, if_pos rfl] at found
  exact Option.some.inj found ▸ aims

private theorem Faithful.aims_of_pace (faithful : Faithful granted sessions) (live : sessions.live? place = some caller)
    (runs : phase.Runs caller.rest)
    (pace : Pace sessions.table sessions.turn place caller.waits phase move table turn waits after)
    {parent : SessionId} {result : Option Session} (same : caller.errand = .attach target parent)
    (settled : after.settled? = some (.ok result)) :
    ∃ session, result = some session ∧ session.target = some target := by
  obtain ⟨errand, rest, waited, gone⟩ := caller
  obtain rfl : errand = .attach target parent := same
  rcases pace.given_of_settled settled with old | ⟨session, rfl, known | ⟨-, aims⟩⟩
  · exact faithful.settled place _ target parent result live rfl (runs.settled?.trans old)
  · exact ⟨session, rfl, faithful.sound.forTarget?_aims known⟩
  · exact ⟨session, rfl, aims⟩

theorem Faithful.paced (faithful : Faithful granted sessions) (orderly : sessions.Orderly)
    (live : sessions.live? place = some caller) (runs : phase.Runs caller.rest)
    (placed : phase.Placed sessions.table sessions.turn place caller.waits)
    (pace : Pace sessions.table sessions.turn place caller.waits phase move table turn waits after)
    {rest : ClientProgram (Except Error (Option Session))} (onward : after.Runs rest)
    (new : ∀ grant, sessions.grant? move = some grant → grant.id ∉ granted) :
    Faithful (granted ++ (sessions.grant? move).toList.map Grant.id)
      ⟨table, turn, sessions.callers.set place ⟨caller.errand, rest, waits, false⟩⟩ := by
  have further : granted ⊆ granted ++ (sessions.grant? move).toList.map Grant.id := List.subset_append_left _ _
  obtain ⟨sound, stored, named, assigned⟩ := faithful.table_of_pace orderly live runs pace onward
  refine ⟨sound, fun session member => further (stored session member),
    fun target id known => further (named target id known), assigned, fun other found session known storing => ?_,
    fun other found target id known assigning => ?_, fun other found target parent result known same settled => ?_⟩
  · rw [live?_set live] at known
    split at known
    next =>
      cases Option.some.inj known
      exact faithful.new_of_pace live runs pace new (onward.storing?.symm.trans storing)
    next apart =>
      obtain ⟨member, lacks⟩ := faithful.storing other found session known storing
      have inside := (orderly.of_storing known storing).1
      exact ⟨further member, lacks.of_lost (pace.lost orderly.single placed apart inside)⟩
  · rw [live?_set live] at known
    split at known
    next =>
      cases Option.some.inj known
      obtain ⟨member, rest⟩ := faithful.stored_of_pace live runs pace (onward.assigning?.symm.trans assigning)
      exact ⟨further member, rest⟩
    next apart =>
      obtain ⟨member, new, aims⟩ := faithful.assigning other found target id known assigning
      have lost := pace.lost orderly.single placed apart (orderly.of_assigning known assigning).1
      exact ⟨further member, fun name told => new name (SessionTable.lookup_of_lost lost told),
        fun session stays => aims session (orderly.distinct.stored?_of_lost lost stays)⟩
  · rw [live?_set live] at known
    split at known
    next =>
      cases Option.some.inj known
      exact faithful.aims_of_pace live runs pace same (onward.settled?.symm.trans settled)
    next => exact faithful.settled other found target parent result known same settled

end Paced

/-- A move keeps the table so if a session that it grants has a new name. -/
theorem Faithful.step (faithful : Faithful granted sessions) (orderly : sessions.Orderly) (move : SessionMove)
    (new : ∀ grant, sessions.grant? move = some grant → grant.id ∉ granted) :
    Faithful (granted ++ (sessions.grant? move).toList.map Grant.id) (sessions.step move) := by
  have further : granted ⊆ granted ++ (sessions.grant? move).toList.map Grant.id := List.subset_append_left _ _
  have stride := orderly.stride move
  generalize sessions.step move = later at stride
  cases stride with
  | idle => exact faithful.of_lost orderly further (.inl rfl) (fun _ _ _ _ live _ => live) fun _ _ live => .inl live
  | called errand =>
      refine faithful.of_lost orderly further (.inl rfl) (fun place caller target id live _ => ?_)
        fun place caller live => ?_
      · rw [live?_call, if_neg (Nat.ne_of_lt (lt_of_live? live).2.2), live]
      · rw [live?_call] at live
        split at live
        next =>
          cases Option.some.inj live
          have runs := CallPhase.runs_opening errand
          refine .inr ⟨runs.storing?.trans ?_, runs.assigning?.trans ?_, runs.settled?.trans ?_⟩ <;>
            cases errand <;> rfl
        next => exact .inl live
  | heard event =>
      exact faithful.of_lost orderly further (applyNotice_cases sessions.table event.notice)
        (fun _ _ _ _ live _ => live) fun _ _ live => .inl live
  | @abandoned place caller gone waits =>
      refine faithful.of_lost orderly further (.inl rfl) (fun other found target id live assigning => ?_)
        fun other found known => ?_
      · have apart : other ≠ place := by
          rintro rfl
          obtain rfl := Option.some.inj (gone.symm.trans live)
          cases (orderly.of_assigning live assigning).2.1.symm.trans waits
        rw [live?_set gone, if_neg apart, live]
      · rw [live?_set gone] at known
        split at known
        · cases known
        · exact .inl known
  | paced live runs placed pace onward => exact faithful.paced orderly live runs placed pace onward new

/-- The browser grants no name twice. -/
def Fresh (sessions : Sessions) (moves : List SessionMove) : Prop := ((sessions.grants moves).map Grant.id).Nodup

instance (sessions : Sessions) (moves : List SessionMove) : Decidable (Fresh sessions moves) :=
  inferInstanceAs (Decidable (List.Nodup _))

theorem Faithful.runFrom (faithful : Faithful granted sessions) (orderly : sessions.Orderly)
    (moves : List SessionMove) (fresh : (granted ++ (sessions.grants moves).map Grant.id).Nodup) :
    Faithful (granted ++ (sessions.grants moves).map Grant.id) (sessions.runFrom moves) := by
  induction moves generalizing sessions granted with
  | nil => simpa using faithful
  | cons move moves ih =>
      simp only [grants_cons, List.map_append, runFrom_cons, ← List.append_assoc] at fresh ⊢
      refine ih (faithful.step orderly move fun grant granting member => ?_) (orderly.step move) fresh
      have apart := (List.nodup_append'.mp (List.nodup_append'.mp fresh).1).2.2
      exact apart member (by simp [granting])

theorem faithful_run {moves : List SessionMove} (fresh : Fresh opening moves) :
    Faithful ((opening.grants moves).map Grant.id) (run moves) :=
  faithful_opening.runFrom orderly_opening moves fresh

end RemoteDom.Sessions
