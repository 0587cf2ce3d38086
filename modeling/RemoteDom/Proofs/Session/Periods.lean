import RemoteDom.Proofs.Session.Moves

/-! Periods in which no session is forgotten. In such a period the browser grants one session at most for a target,
and every attach to the target that succeeds gives that one, or the one that the table had. -/

namespace RemoteDom

private theorem SessionTable.stored?_store_of_kept {α : Type} (view : Session → α) {table : SessionTable}
    (distinct : table.Distinct) (names : ∀ first second, view first = view second → first.id = second.id)
    {session known : Session} {id : SessionId}
    (kept : table.stored.map view ⊆ (table.store session).stored.map view) (found : table.stored? id = some known) :
    ∃ later, (table.store session).stored? id = some later ∧ view later = view known := by
  obtain ⟨member, rfl⟩ := distinct.stored?_eq_some_iff.mp found
  by_cases same : known.id = session.id
  · refine ⟨session, (table.stored?_store session known.id).trans (if_pos same), ?_⟩
    obtain ⟨late, still, looks⟩ := List.mem_map.mp (kept (List.mem_map_of_mem member))
    have late_id : late.id = session.id := (names _ _ looks).trans same
    rw [← (distinct_store distinct).eq_of_id still List.mem_cons_self late_id]
    exact looks
  · exact ⟨known, (table.stored?_store session known.id).trans ((if_neg same).trans found), rfl⟩

namespace Sessions

variable {α : Type} (view : Session → α)

/-- No move takes a session from the table, as far as can be seen. -/
def Keeps (sessions : Sessions) : List SessionMove → Prop
  | [] => True
  | move :: moves =>
      sessions.table.stored.map view ⊆ (sessions.step move).table.stored.map view ∧ Keeps (sessions.step move) moves

/-- A target has a session, or a caller that was granted one is going to store it, or to assign the target to it. -/
inductive Sure (sessions : Sessions) (target : TargetId) (value : α) : Prop
  | known {session : Session} (found : sessions.table.forTarget? target = some session) (looks : view session = value)
  | coming {place : Nat} {caller : Caller} {session : Session} (live : sessions.live? place = some caller)
      (storing : caller.rest.storing? = some session) (aims : session.target = some target)
      (looks : view session = value)
  | halfway {place : Nat} {caller : Caller} {id : SessionId} {session : Session}
      (live : sessions.live? place = some caller) (assigning : caller.rest.assigning? = some (target, id))
      (found : sessions.table.stored? id = some session) (looks : view session = value)

variable {view} {sessions : Sessions} {target : TargetId} {value other : α}

private theorem Orderly.caller_unique (orderly : sessions.Orderly) {place another : Nat} {caller found : Caller}
    (live : sessions.live? place = some caller) (inside : place ∈ sessions.turn.inside)
    (lives : sessions.live? another = some found) (within : another ∈ sessions.turn.inside) : caller = found := by
  obtain rfl := orderly.single.eq_of_inside inside within
  exact Option.some.inj (live.symm.trans lives)

private theorem Orderly.forTarget?_of_storing (orderly : sessions.Orderly) {place : Nat} {caller : Caller}
    {session : Session}
    (live : sessions.live? place = some caller) (storing : caller.rest.storing? = some session)
    (aims : session.target = some target) : sessions.table.forTarget? target = none := by
  obtain ⟨-, -, name, aimed, none⟩ := orderly.of_storing live storing
  obtain rfl := Option.some.inj (aims.symm.trans aimed)
  exact none

private theorem Orderly.stored?_of_assigning (orderly : sessions.Orderly) {place : Nat} {caller : Caller}
    {id : SessionId}
    {session : Session} (live : sessions.live? place = some caller)
    (assigning : caller.rest.assigning? = some (target, id))
    (found : sessions.table.forTarget? target = some session) : sessions.table.stored? id = some session := by
  rcases (orderly.of_assigning live assigning).2.2 with none | known
  · cases found.symm.trans none
  · simpa [SessionTable.forTarget?, known] using found

theorem Sure.unique (orderly : sessions.Orderly) (first : Sure view sessions target value)
    (second : Sure view sessions target other) : value = other := by
  have known_coming {known session : Session} {place : Nat} {caller : Caller}
      (found : sessions.table.forTarget? target = some known) (live : sessions.live? place = some caller)
      (storing : caller.rest.storing? = some session) (aims : session.target = some target) : False := by
    cases found.symm.trans (orderly.forTarget?_of_storing live storing aims)
  have coming_halfway {session : Session} {id : SessionId} {place another : Nat} {caller asker : Caller}
      (live : sessions.live? place = some caller) (storing : caller.rest.storing? = some session)
      (lives : sessions.live? another = some asker) (assigning : asker.rest.assigning? = some (target, id)) :
      False := by
    obtain rfl := orderly.caller_unique live (orderly.of_storing live storing).1 lives
      (orderly.of_assigning lives assigning).1
    obtain ⟨phase, runs, -⟩ := orderly.placed _ _ live
    exact phase.storing?_ne_of_assigning (runs.assigning?.symm.trans assigning) (runs.storing?.symm.trans storing)
  cases first with
  | known found looks =>
      cases second with
      | known again same =>
          obtain rfl := Option.some.inj (found.symm.trans again)
          exact looks.symm.trans same
      | coming live storing aims => exact (known_coming found live storing aims).elim
      | halfway live assigning stored same =>
          obtain rfl := Option.some.inj ((orderly.stored?_of_assigning live assigning found).symm.trans stored)
          exact looks.symm.trans same
  | coming live storing aims looks =>
      cases second with
      | known found => exact (known_coming found live storing aims).elim
      | coming lives stores _ same =>
          obtain rfl := orderly.caller_unique live (orderly.of_storing live storing).1 lives
            (orderly.of_storing lives stores).1
          cases storing.symm.trans stores
          exact looks.symm.trans same
      | halfway lives assigning => exact (coming_halfway live storing lives assigning).elim
  | halfway live assigning stored looks =>
      cases second with
      | known found same =>
          obtain rfl := Option.some.inj ((orderly.stored?_of_assigning live assigning found).symm.trans stored)
          exact looks.symm.trans same
      | coming lives storing => exact (coming_halfway lives storing live assigning).elim
      | halfway lives assigns again same =>
          obtain rfl := orderly.caller_unique live (orderly.of_assigning live assigning).1 lives
            (orderly.of_assigning lives assigns).1
          cases assigning.symm.trans assigns
          obtain rfl := Option.some.inj (stored.symm.trans again)
          exact looks.symm.trans same

private theorem Sure.flight?_ne (orderly : sessions.Orderly) (sure : Sure view sessions target value) (place : Nat)
    (parent : SessionId) : sessions.flight? place ≠ some (parent, target) := by
  intro flight
  obtain ⟨asker, lives, -, asks⟩ := flight?_eq_some_iff.mp flight
  obtain ⟨inside, none⟩ := orderly.of_asks lives asks
  obtain ⟨phase, runs, -⟩ := orderly.placed _ _ lives
  cases sure with
  | known found => cases found.symm.trans none
  | coming live storing =>
      obtain rfl := orderly.caller_unique lives inside live (orderly.of_storing live storing).1
      exact phase.asks?_ne_of_storing (runs.storing?.symm.trans storing) (runs.asks?.symm.trans asks)
  | halfway live assigning =>
      obtain rfl := orderly.caller_unique lives inside live (orderly.of_assigning live assigning).1
      exact phase.asks?_ne_of_assigning (runs.assigning?.symm.trans assigning) (runs.asks?.symm.trans asks)

section Step

variable (names : ∀ first second, view first = view second → first.id = second.id)

include names

private theorem Orderly.table_of_kept (orderly : sessions.Orderly) {move : SessionMove}
    (kept : sessions.table.stored.map view ⊆ (sessions.step move).table.stored.map view) :
    (sessions.step move).table = sessions.table ∨
      (∃ session, sessions.stores? move = some session ∧
        (sessions.step move).table = sessions.table.store session) ∨
      ∃ target id, sessions.assigns? move = some (target, id) ∧
        (sessions.step move).table = sessions.table.assign target id := by
  rcases orderly.table_cases move with (same | ⟨id, same⟩) | added
  · exact .inl same
  · have stay : ∀ name ∈ sessions.table.stored.map Session.id,
        name ∈ (sessions.table.forget id).stored.map Session.id := by
      intro name member
      obtain ⟨old, inside, rfl⟩ := List.mem_map.mp member
      obtain ⟨late, still, same⟩ := List.mem_map.mp (same ▸ kept (List.mem_map_of_mem inside))
      exact List.mem_map.mpr ⟨late, still, names _ _ same⟩
    rw [SessionTable.forget_eq_of_subset orderly.distinct stay] at same
    exact .inl same
  · exact .inr added

private theorem Orderly.stored?_of_kept (orderly : sessions.Orderly) {move : SessionMove}
    (kept : sessions.table.stored.map view ⊆ (sessions.step move).table.stored.map view) {id : SessionId}
    {session : Session} (found : sessions.table.stored? id = some session) :
    ∃ later, (sessions.step move).table.stored? id = some later ∧ view later = view session := by
  rcases orderly.table_of_kept names kept with same | ⟨new, -, same⟩ | ⟨target, name, -, same⟩
  · exact ⟨session, same ▸ found, rfl⟩
  · rw [same] at kept ⊢
    exact SessionTable.stored?_store_of_kept view orderly.distinct names kept found
  · exact ⟨session, same ▸ found, rfl⟩

/-- A target keeps its session if no session is taken from the table. -/
theorem Sure.step (sure : Sure view sessions target value) (orderly : sessions.Orderly) {move : SessionMove}
    (kept : sessions.table.stored.map view ⊆ (sessions.step move).table.stored.map view) :
    Sure view (sessions.step move) target value := by
  cases sure with
  | @known session found looks =>
      obtain ⟨id, named, stored⟩ := Option.bind_eq_some_iff.mp found
      obtain ⟨later, still, alike⟩ := orderly.stored?_of_kept names kept stored
      rcases orderly.table_of_kept names kept with same | ⟨new, -, same⟩ | ⟨other, name, assigns, same⟩
      · exact .known (same ▸ found) looks
      · refine .known ?_ (alike.trans looks)
        rw [same] at still ⊢
        simpa [SessionTable.forTarget?, named] using still
      · refine .known ?_ looks
        rw [same, SessionTable.forTarget?_assign]
        split
        next aimed =>
          subst aimed
          obtain ⟨place, caller, -, live, assigning⟩ := assigns?_eq_some_iff.mp assigns
          exact orderly.stored?_of_assigning live assigning found
        next => exact found
  | @coming place caller session live storing aims looks =>
      rcases (orderly.stride move).fate live with stays | ⟨-, waits⟩ | ⟨after, found, ⟨runs, placed, pace, onward⟩⟩
      · exact .coming stays storing aims looks
      · rw [(orderly.of_storing live storing).2.1] at waits
        cases waits
      · obtain ⟨same, name, aimed, assigning, -⟩ := pace.of_storing (runs.storing?.symm.trans storing)
        obtain rfl := Option.some.inj (aims.symm.trans aimed)
        refine .halfway found (onward.assigning?.trans assigning) ?_ looks
        rw [same, SessionTable.stored?_store, if_pos rfl]
  | @halfway place caller id session live assigning stored looks =>
      obtain ⟨later, still, alike⟩ := orderly.stored?_of_kept names kept stored
      rcases (orderly.stride move).fate live with stays | ⟨-, waits⟩ | ⟨after, found, ⟨runs, placed, pace, onward⟩⟩
      · exact .halfway stays assigning still (alike.trans looks)
      · rw [(orderly.of_assigning live assigning).2.1] at waits
        cases waits
      · refine .known ?_ looks
        rw [pace.of_assigning (runs.assigning?.symm.trans assigning), SessionTable.forTarget?_assign, if_pos rfl]
        exact stored

theorem Sure.runFrom (sure : Sure view sessions target value) (orderly : sessions.Orderly) {moves : List SessionMove}
    (keeps : Keeps view sessions moves) :
    Sure view (sessions.runFrom moves) target value ∧ ∀ grant ∈ sessions.grants moves, grant.target ≠ target := by
  induction moves generalizing sessions with
  | nil => exact ⟨sure, by simp⟩
  | cons move moves ih =>
      obtain ⟨still, none⟩ := ih (sure.step names orderly keeps.1) (orderly.step move) keeps.2
      refine ⟨still, fun grant member => ?_⟩
      rcases List.mem_append.mp member with now | later
      · rintro rfl
        obtain ⟨answer, -, flight, -⟩ := grant?_eq_some_iff.mp (Option.mem_toList.mp now)
        exact sure.flight?_ne orderly grant.place grant.parent flight
      · exact none grant later

end Step

private theorem Orderly.sure_of_grant (orderly : sessions.Orderly) {move : SessionMove} {grant : Grant}
    (granted : sessions.grant? move = some grant) (view : Session → α) :
    Sure view (sessions.step move) grant.target (view grant.session) := by
  obtain ⟨answer, rfl, flight, read⟩ := grant?_eq_some_iff.mp granted
  obtain ⟨caller, live, waits, asks⟩ := flight?_eq_some_iff.mp flight
  obtain ⟨rest, after, runs⟩ := orderly.answered live waits asks (.ok answer)
  refine .coming after (runs.storing?.trans ?_) rfl rfl
  simp [CallPhase.answered, read, CallPhase.storing?, Grant.session]

private theorem Orderly.sure_of_settled (orderly : sessions.Orderly) {move : SessionMove} {place : Nat}
    {caller : Caller}
    (live : (sessions.step move).live? place = some caller) {parent : SessionId}
    (attaches : caller.errand = .attach target parent) {result : Option Session}
    (settled : caller.rest.settled? = some (.ok result)) (view : Session → α) :
    (∃ before, sessions.live? place = some before ∧ before.errand = .attach target parent ∧
        before.rest.settled? = some (.ok result)) ∨
      ∃ session, result = some session ∧ Sure view sessions target (view session) := by
  rcases (orderly.stride move).origin live with
    stays | ⟨errand, -, rfl⟩ | ⟨before, found, ⟨runs, placed, pace, onward⟩⟩
  · exact .inl ⟨caller, stays, attaches, settled⟩
  · obtain rfl : errand = .attach target parent := attaches
    have none := (CallPhase.runs_opening (.attach target parent)).settled?
    cases none.symm.trans settled
  · obtain ⟨errand, rest, waits, gone⟩ := before
    obtain rfl : errand = .attach target parent := attaches
    rcases pace.given_of_settled (onward.settled?.symm.trans settled) with
      old | ⟨session, rfl, known | ⟨storing, aims⟩⟩
    · exact .inl ⟨_, found, rfl, runs.settled?.trans old⟩
    · exact .inr ⟨session, rfl, .known known rfl⟩
    · exact .inr ⟨session, rfl, .coming found (runs.storing?.trans storing) aims rfl⟩

/-- The call of a place was not settled, or not even made. -/
def Unsettled (start : Sessions) (place : Nat) : Prop :=
  ∀ caller, start.live? place = some caller → caller.rest.settled? = none

/-- In what came of a start, all that was granted or given for a target is sure. -/
structure Settling (view : Session → α) (start : Sessions) (target : TargetId) (granted : List Grant)
    (sessions : Sessions) : Prop where
  once : (granted.filter fun grant => grant.target == target).length ≤ 1
  granted : ∀ grant ∈ granted, grant.target = target → Sure view sessions target (view grant.session)
  attached : ∀ place caller parent result, sessions.live? place = some caller →
    caller.errand = .attach target parent → caller.rest.settled? = some (.ok result) → start.Unsettled place →
    ∃ session, result = some session ∧ Sure view sessions target (view session)

variable {start : Sessions} {granted : List Grant}

theorem Settling.step (settling : Settling view start target granted sessions)
    (names : ∀ first second, view first = view second → first.id = second.id) (orderly : sessions.Orderly)
    {move : SessionMove} (kept : sessions.table.stored.map view ⊆ (sessions.step move).table.stored.map view) :
    Settling view start target (granted ++ (sessions.grant? move).toList) (sessions.step move) where
  once := by
    rw [List.filter_append, List.length_append]
    cases granting : sessions.grant? move with
    | none => simpa using settling.once
    | some grant =>
        by_cases same : grant.target = target
        · subst same
          obtain ⟨answer, -, flight, -⟩ := grant?_eq_some_iff.mp granting
          have first : granted.filter (fun other => other.target == grant.target) = [] := by
            rw [List.filter_eq_nil_iff]
            intro other member aims
            exact (settling.granted other member (by simpa using aims)).flight?_ne orderly _ _ flight
          simp [first]
        · simpa [same] using settling.once
  granted := by
    intro grant member aims
    rcases List.mem_append.mp member with old | new
    · exact (settling.granted grant old aims).step names orderly kept
    · exact aims ▸ orderly.sure_of_grant (Option.mem_toList.mp new) view
  attached := by
    intro place caller parent result live attaches settled unsettled
    rcases orderly.sure_of_settled live attaches settled view with
      ⟨before, found, same, done⟩ | ⟨session, given, sure⟩
    · obtain ⟨session, given, sure⟩ := settling.attached place before parent result found same done unsettled
      exact ⟨session, given, sure.step names orderly kept⟩
    · exact ⟨session, given, sure.step names orderly kept⟩

theorem Settling.runFrom (settling : Settling view start target granted sessions)
    (names : ∀ first second, view first = view second → first.id = second.id) (orderly : sessions.Orderly)
    {moves : List SessionMove} (keeps : Keeps view sessions moves) :
    Settling view start target (granted ++ sessions.grants moves) (sessions.runFrom moves) := by
  induction moves generalizing sessions granted with
  | nil => simpa using settling
  | cons move moves ih =>
      rw [grants_cons, ← List.append_assoc]
      exact ih (settling.step names orderly keeps.1) (orderly.step move) keeps.2

end Sessions

end RemoteDom
