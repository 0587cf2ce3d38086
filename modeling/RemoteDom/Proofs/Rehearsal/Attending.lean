import RemoteDom.Proofs.Rehearsal.Places
import RemoteDom.Proofs.Session.Busy

/-! The tasks of a rehearsal that attach and detach are callers of one client: whatever happens, the sessions and the
turn to attach are those of a run of callers, each of which is a task on an errand. -/

namespace RemoteDom

namespace Sessions

/-- Under other names the callers do the same. -/
private theorem attempt_rename {sessions : Sessions} {name : Nat → Nat} {place : Nat}
    (names : sessions.turn.Names name place) (waits : Bool) (act : Act) :
    (⟨sessions.table, sessions.turn.rename name, []⟩ : Sessions).attempt (name place) waits act =
      ((sessions.attempt place waits act).1,
        ⟨(sessions.attempt place waits act).2.table, (sessions.attempt place waits act).2.turn.rename name, []⟩) := by
  cases act with
  | leaveAttach => simp only [attempt, Turnstile.leave_rename names]
  | enterAttach =>
      cases waits with
      | false => simp only [attempt, Bool.false_eq_true, if_false, Turnstile.arrive_rename]
      | true => simp only [attempt, if_true, Turnstile.ask_rename names]
  | _ => rfl

end Sessions

namespace Rehearsal

/-- The task is on what is left of the errand of the caller, and goes on with its outcome. -/
def OnErrand (standing : Standing) (caller : Caller) : Prop :=
  ∃ (waiting : Option Waiting) (next : Except Error (Option Session) → Acting Shown),
    standing = .going waiting (Acting.ofClient caller.rest >>= next) ∧ waiting.isSome = caller.waits ∧
      ∀ outcome, Acting.Woven (next outcome)

/-- The task is on no errand. -/
def Free (sessions : Sessions) (task : Nat → Nat) (self : Nat) : Prop :=
  ∀ place caller, sessions.Busy place caller → task place ≠ self

/-- The sessions and the turn are those of the callers, each of which is a task of its own until it has come to its
end, and no other task is in the midst of an errand. -/
structure Attended (scene : Scene) (task : Nat → Nat) (sessions : Sessions) : Prop where
  table : scene.table = sessions.table
  turn : scene.attachTurn = sessions.turn.rename task
  sole : ∀ {first second : Nat} {one two : Caller}, sessions.Busy first one → sessions.Busy second two →
    task first = task second → first = second
  minds : ∀ {place : Nat} {caller : Caller}, sessions.Busy place caller →
    OnErrand (scene.standing (task place)) caller
  free : ∀ {self : Nat} {program : Acting Shown}, Free sessions task self →
    (scene.standing self).program? = some program → Acting.Woven program

private theorem Standing.going_inj {waiting other : Option Waiting} {program rest : Acting Shown}
    (same : going waiting program = going other rest) : waiting = other ∧ program = rest := by
  cases waiting <;> cases other <;> cases same <;> exact ⟨rfl, rfl⟩

/-- What a task does next: it comes to its end, acts on its own, begins an errand or goes on with one. -/
private inductive Next (sessions : Sessions) (task : Nat → Nat) (self : Nat) (waiting : Option Waiting) :
    Acting Shown → Prop
  | ends (free : Free sessions task self) (shown : Shown) : Next sessions task self waiting (.done shown)
  | plain (free : Free sessions task self) {act : StageAct} {next : act.Answer → Acting Shown} (is : act.Plain)
      (onward : ∀ answer, Acting.Woven (next answer)) : Next sessions task self waiting (.act act next)
  | begins (free : Free sessions task self) (errand : Errand) {act : Act}
      {rest : act.Answer → ClientProgram (Except Error (Option Session))}
      {next : Except Error (Option Session) → Acting Shown} (plain : act.isPlain = true)
      (about : act.aboutSessions = true)
      (calls : ∀ answer later, sessions.attempt sessions.callers.length false act = (some answer, later) →
        sessions.runFrom [.call errand, .proceed sessions.callers.length] =
          { sessions with callers := sessions.callers ++ [⟨errand, rest answer, false, false⟩] })
      (onward : ∀ outcome, Acting.Woven (next outcome)) :
      Next sessions task self waiting (.act (.client act) fun answer => Acting.ofClient (rest answer) >>= next)
  | minds {place : Nat} {caller : Caller} (busy : sessions.Busy place caller) (is : task place = self) {act : Act}
      {rest : act.Answer → ClientProgram (Except Error (Option Session))}
      {next : Except Error (Option Session) → Acting Shown} (does : caller.rest = .act act rest)
      (about : act.aboutSessions = true ∨ ∃ session command, act = .request session command)
      (waits : waiting.isSome = caller.waits) (onward : ∀ outcome, Acting.Woven (next outcome)) :
      Next sessions task self waiting (.act (.client act) fun answer => Acting.ofClient (rest answer) >>= next)

namespace Attended

variable {scene later : Scene} {task : Nat → Nat} {sessions after : Sessions} {self place : Nat} {caller : Caller}
  {standing : Standing} {waiting : Option Waiting} {program : Acting Shown}

private theorem next (attended : Attended scene task sessions) (orderly : sessions.Orderly)
    (stands : scene.standing self = .going waiting program) : Next sessions task self waiting program := by
  by_cases free : Free sessions task self
  · have woven := attended.free free (by rw [stands, Standing.program?_going])
    cases woven with
    | done shown => exact .ends free shown
    | act is onward => exact .plain free is onward
    | piece which onward =>
        obtain ⟨act, rest, does, plain, about, calls⟩ := sessions.called which
        rw [Acting.errand, does]
        exact .begins free which plain about calls onward
  · simp only [Free, not_forall, not_not] at free
    obtain ⟨place, caller, busy, is⟩ := free
    obtain ⟨other, next, same, waits, onward⟩ := attended.minds busy
    obtain ⟨rfl, rfl⟩ := Standing.going_inj (stands.symm.trans (is ▸ same))
    obtain ⟨act, rest, does, about⟩ := orderly.act_of_busy busy
    rw [does]
    exact .minds busy is does about waits onward

/-- A task on no errand goes on, and begins none. -/
private theorem stayed (attended : Attended scene task sessions) (free : Free sessions task self)
    (woven : ∀ program, standing.program? = some program → Acting.Woven program) :
    Attended (scene.put self standing) task sessions where
  table := attended.table
  turn := attended.turn
  sole := attended.sole
  minds := fun {place caller} busy => by
    simp only [Scene.put, if_neg (free place caller busy)]
    exact attended.minds busy
  free := fun {other program} idle has => by
    by_cases is : other = self
    · simp only [Scene.put, if_pos is] at has
      exact woven program has
    · simp only [Scene.put, if_neg is] at has
      exact attended.free idle has

private theorem stayed_of_program (attended : Attended scene task sessions) (free : Free sessions task self)
    (has : standing.program? = some program) (woven : Acting.Woven program) :
    Attended (scene.put self standing) task sessions :=
  attended.stayed free fun _ other => Option.some.inj (has.symm.trans other) ▸ woven

/-- The task of one place goes on with its errand or leaves it, and so does the caller of that place. -/
private theorem changed (attended : Attended scene task sessions) {task' : Nat → Nat} {table : SessionTable}
    {turn : Turnstile}
    (own : ∀ other found, sessions.Busy other found → (task other = self ↔ other = place))
    (busy : ∀ other found, after.Busy other found ↔
      if other = place then caller.gone = false ∧ found = caller ∧ ∀ outcome, caller.rest ≠ .done outcome
      else sessions.Busy other found)
    (here : task' place = self) (there : ∀ other, other ≠ place → task' other = task other)
    (holds : table = after.table) (stand : turn = after.turn.rename task')
    (goes : caller.gone = false ∧ OnErrand standing caller ∨ caller.gone = true ∧ standing = .over) :
    Attended { scene.put self standing with table, attachTurn := turn } task' after := by
  have others {other : Nat} {found : Caller} (apart : other ≠ place) (is : after.Busy other found) :
      sessions.Busy other found ∧ task other ≠ self := by
    have before := (busy other found).mp is
    rw [if_neg apart] at before
    exact ⟨before, fun same => apart ((own other found before).mp same)⟩
  refine ⟨holds, stand, fun {first second one two} here' there' same => ?_, fun {other found} is => ?_,
    fun {id program} idle has => ?_⟩
  · by_cases one : first = place <;> by_cases two : second = place
    · rw [one, two]
    · rw [one, here, there second two] at same
      exact absurd same.symm (others two there').2
    · rw [two, here, there first one] at same
      exact absurd same (others one here').2
    · rw [there first one, there second two] at same
      exact attended.sole (others one here').1 (others two there').1 same
  · by_cases same : other = place
    · have now := (busy other found).mp is
      rw [if_pos same] at now
      obtain ⟨stays, rfl, -⟩ := now
      rw [same, here]
      simp only [Scene.put, if_pos]
      rcases goes with ⟨-, minds⟩ | ⟨gone, -⟩
      · exact minds
      · rw [stays] at gone
        cases gone
    · rw [there other same]
      simp only [Scene.put, if_neg (others same is).2]
      exact attended.minds (others same is).1
  · by_cases same : id = self
    · simp only [Scene.put, if_pos same] at has
      rcases goes with ⟨stays, waiting, next, rfl, -, onward⟩ | ⟨-, rfl⟩
      · rw [Standing.program?_going] at has
        cases rest : caller.rest with
        | done outcome =>
            rw [rest] at has
            exact Option.some.inj has ▸ onward outcome
        | act act more =>
            refine absurd (here.trans same.symm) (idle place caller ((busy place caller).mpr ?_))
            rw [if_pos rfl, rest]
            exact ⟨stays, rfl, fun outcome same => by cases same⟩
      · cases has
    · simp only [Scene.put, if_neg same] at has
      refine attended.free (fun other found is apart => ?_) has
      have away : other ≠ place := fun at_place => same (apart ▸ (own other found is).mpr at_place)
      refine idle other found ((busy other found).mpr ?_) ((there other away).trans apart)
      rwa [if_neg away]

/-- Nothing of what this is about is changed. -/
private theorem aside (attended : Attended scene task sessions) (table : later.table = scene.table)
    (turn : later.attachTurn = scene.attachTurn) (standing : later.standing = scene.standing) :
    Attended later task sessions :=
  ⟨table.trans attended.table, turn.trans attended.turn, attended.sole, standing ▸ attended.minds,
    standing ▸ attended.free⟩

private theorem moved (attended : Attended scene task sessions) (busy : sessions.Busy place caller)
    (is : task place = self) (same : after.callers = sessions.callers) {turn : Turnstile}
    (stand : turn = after.turn.rename task) (found : Caller)
    (goes : found.gone = false ∧ OnErrand standing found ∨ found.gone = true ∧ standing = .over) :
    Attended { scene.put self standing with table := after.table, attachTurn := turn } task
      (after.put place found) := by
  have live (other : Nat) : (after.put place found).live? other =
      if other = place then (if found.gone then none else some found) else sessions.live? other := by
    rw [Sessions.put, same]
    exact Sessions.live?_set busy.live found after.table after.turn other
  refine attended.changed (fun other _ there => ⟨fun mine => ?_, ?_⟩) (Sessions.busy_iff_of_live live) is
    (fun _ _ => rfl) rfl stand goes
  · exact attended.sole there busy (mine.trans is.symm)
  · rintro rfl
    exact is

/-- A task on no errand has begun one. -/
private theorem called (attended : Attended scene task sessions) (orderly : sessions.Orderly)
    (free : Free sessions task self) (stays : caller.gone = false) (minds : OnErrand standing caller) :
    ∃ task', Attended (scene.put self standing) task' { sessions with callers := sessions.callers ++ [caller] } := by
  let task' (place : Nat) : Nat := if place = sessions.callers.length then self else task place
  have old {place : Nat} {found : Caller} (busy : sessions.Busy place found) : place ≠ sessions.callers.length :=
    Nat.ne_of_lt (Sessions.lt_of_live? busy.live).2.2
  have renamed : sessions.turn.rename task = sessions.turn.rename task' := by
    refine Turnstile.rename_congr fun place member => ?_
    obtain ⟨found, busy⟩ := orderly.busy_of_turn member
    exact (if_neg (old busy)).symm
  have own (other : Nat) (found : Caller) (busy : sessions.Busy other found) :
      task other = self ↔ other = sessions.callers.length :=
    ⟨fun same => absurd same (free other found busy), fun last => absurd last (old busy)⟩
  have changes := attended.changed own (Sessions.busy_iff_of_live (sessions.live?_call caller))
    (show task' sessions.callers.length = self from if_pos rfl) (fun other apart => if_neg apart) attended.table
    (attended.turn.trans renamed) (.inl ⟨stays, minds⟩)
  exact ⟨task', changes⟩

private theorem names (attended : Attended scene task sessions) (orderly : sessions.Orderly)
    (busy : sessions.Busy place caller) : sessions.turn.Names task place := by
  intro other member same
  obtain ⟨found, there⟩ := orderly.busy_of_turn member
  exact attended.sole there busy same

private theorem attempted (attended : Attended scene task sessions) (orderly : sessions.Orderly)
    (busy : sessions.Busy place caller) (is : task place = self) {act : Act} {reply : Option act.Answer}
    {tried : Sessions} (attempt : scene.sessions.attempt self caller.waits act = (reply, tried)) :
    ∃ mine, sessions.attempt place caller.waits act = (reply, mine) ∧ mine.callers = sessions.callers ∧
      tried.table = mine.table ∧ tried.turn = mine.turn.rename task := by
  have same := Sessions.attempt_rename (attended.names orderly busy) caller.waits act
  rw [← attended.table, ← attended.turn, is] at same
  obtain ⟨answered, after⟩ := Prod.mk.inj (attempt.symm.trans same)
  exact ⟨_, Prod.ext answered.symm rfl, sessions.callers_attempt place caller.waits act, by rw [after], by rw [after]⟩

private theorem leave_of_free (attended : Attended scene task sessions) (orderly : sessions.Orderly)
    (free : Free sessions task self) : scene.attachTurn.leave self = scene.attachTurn := by
  have away {place : Nat} (member : place ∈ sessions.turn.inside ++ sessions.turn.line) : task place ≠ self := by
    obtain ⟨caller, busy⟩ := orderly.busy_of_turn member
    exact free place caller busy
  rw [attended.turn]
  refine Turnstile.leave_of_outside ⟨fun inside => ?_, fun line => ?_⟩
  · obtain ⟨place, member, is⟩ := List.mem_map.mp inside
    exact away (List.mem_append_left _ member) is
  · obtain ⟨place, member, is⟩ := List.mem_map.mp line
    exact away (List.mem_append_right _ member) is

/-- A task that does not go on is on no errand. -/
private theorem free_of_standing (attended : Attended scene task sessions)
    (idle : ∀ waiting program, scene.standing self ≠ .going waiting program) : Free sessions task self := by
  intro place caller busy is
  obtain ⟨waiting, next, same, -⟩ := attended.minds busy
  exact idle _ _ (is ▸ same)

private theorem isApart_client {act : Act}
    (about : act.aboutSessions = true ∨ ∃ session command, act = .request session command) :
    (StageAct.client act).isApart = false := by
  rcases about with about | ⟨session, command, rfl⟩
  · cases act <;> first | rfl | cases about
  · rfl

/-- Such an act is never one of an errand. -/
private theorem apart (attended : Attended scene task sessions) (orderly : sessions.Orderly) {act : StageAct}
    {next : act.Answer → Acting Shown} (stands : scene.standing self = .going waiting (.act act next))
    (apart : act.isApart = true) :
    Free sessions task self ∧ Acting.Woven (.act act next) ∧ ∀ answer, Acting.Woven (next answer) := by
  cases attended.next orderly stands with
  | plain free is onward => exact ⟨free, .act is onward, onward⟩
  | begins _ _ _ about => exact nomatch (isApart_client (.inl about)).symm.trans apart
  | minds _ _ _ about => exact nomatch (isApart_client about).symm.trans apart

private theorem heeded (attended : Attended scene task sessions) (event : Event) :
    Attended { scene with table := World.applyNotice scene.table event.notice } task
      (sessions.step (.event event)) := by
  have busy {place : Nat} {caller : Caller} : (sessions.step (.event event)).Busy place caller ↔
    sessions.Busy place caller := Sessions.busy_of_callers rfl
  refine ⟨?_, attended.turn, fun one two => attended.sole (busy.mp one) (busy.mp two),
    fun is => attended.minds (busy.mp is),
    fun free => attended.free fun place caller is => free place caller (busy.mpr is)⟩
  rw [attended.table]
  rfl

section Sends

variable {session : SessionId} {command : Command} {next : Except Error Json → Acting Shown}

/-- A task on no errand sends a command of its own, and one on an errand that of its caller. -/
private theorem sends (attended : Attended scene task sessions) (orderly : sessions.Orderly)
    (stands : scene.standing self = .going waiting program) (sends : Sends session command program next) :
    Free sessions task self ∧ Acting.Woven program ∧ (∀ outcome, Acting.Woven (next outcome)) ∨
      ∃ place caller rest onward, sessions.Busy place caller ∧ task place = self ∧
        caller.rest = .act (.request session command) rest ∧ program = Acting.ofClient caller.rest >>= onward ∧
          (∀ outcome, next outcome = Acting.ofClient (rest outcome) >>= onward) ∧
            ∀ outcome, Acting.Woven (onward outcome) := by
  have next := attended.next orderly stands
  cases sends with
  | request next =>
      cases next with
      | plain free is onward => exact .inl ⟨free, .act is onward, onward⟩
      | begins free errand plain about => cases about
      | minds busy is does about waits onward =>
          exact .inr ⟨_, _, _, _, busy, is, does, by rw [does]; rfl, fun _ => rfl, onward⟩
  | send deadline next =>
      cases next with
      | plain free is onward => exact .inl ⟨free, .act is onward, onward⟩

private theorem resolved (attended : Attended scene task sessions) (orderly : sessions.Orderly)
    (stands : scene.standing self = .going waiting program) (sent : Sends session command program next)
    (outcome : Except Error Json) :
    ∃ moves task, Attended (scene.put self (.running (next outcome))) task (sessions.runFrom moves) := by
  rcases attended.sends orderly stands sent with
    ⟨free, -, onward⟩ | ⟨place, caller, rest, next, busy, is, does, -, same, onward⟩
  · exact ⟨[], task, attended.stayed_of_program free rfl (onward outcome)⟩
  · refine ⟨[.proceed place, .answer place outcome], task, ?_⟩
    rw [busy.answer does, same]
    have goes := attended.moved busy is rfl attended.turn ⟨caller.errand, rest outcome, false, false⟩
      (.inl ⟨rfl, none, next, rfl, rfl, onward⟩)
    exact goes.aside attended.table rfl rfl

end Sends

/-- An act that concerns the sessions comes to what it comes to for the caller. -/
private theorem minded (attended : Attended scene task sessions) (orderly : sessions.Orderly) {act : Act}
    {next : act.Answer → Acting Shown} (stands : scene.standing self = .going waiting (.act (.client act) next))
    (about : act.aboutSessions = true) {answer : act.Answer} {tried : Sessions}
    (attempt : scene.sessions.attempt self waiting.isSome act = (some answer, tried)) :
    ∃ moves task, Attended { scene.put self (.running (next answer)) with
      table := tried.table, attachTurn := tried.turn } task (sessions.runFrom moves) := by
  cases attended.next orderly stands with
  | plain free is onward =>
      obtain ⟨read, reads⟩ := Sessions.attempt_of_plain is about
      obtain ⟨-, rfl⟩ := Prod.mk.inj ((reads _ _ _).symm.trans attempt)
      exact ⟨[], task, attended.stayed_of_program free rfl (onward answer)⟩
  | @begins free errand _ rest next plain about calls onward =>
      obtain ⟨read, reads⟩ := Sessions.attempt_of_plain plain about
      obtain ⟨same, rfl⟩ := Prod.mk.inj ((reads _ _ _).symm.trans attempt)
      obtain rfl := Option.some.inj same
      -- the task has not called before: the call and its first look are one with the act
      refine ⟨[.call errand, .proceed sessions.callers.length], ?_⟩
      rw [calls _ _ (reads _ _ _), show scene.sessions.table = sessions.table from attended.table]
      have minds : OnErrand _ ⟨errand, rest (read sessions.table), false, false⟩ := ⟨none, next, rfl, rfl, onward⟩
      obtain ⟨task, called⟩ := attended.called orderly free rfl minds
      exact ⟨task, called.aside attended.table.symm rfl rfl⟩
  | @minds place caller busy is _ rest next does about waits onward =>
      rw [waits] at attempt
      obtain ⟨mine, same, callers, table, turn⟩ := attended.attempted orderly busy is attempt
      refine ⟨[.proceed place], task, ?_⟩
      rw [Sessions.runFrom_cons, Sessions.runFrom_nil, busy.went does same, table]
      exact attended.moved busy is callers turn _ (.inl ⟨rfl, none, next, rfl, rfl, onward⟩)

private theorem queued (attended : Attended scene task sessions) (orderly : sessions.Orderly) {act : Act}
    {next : act.Answer → Acting Shown} (stands : scene.standing self = .going waiting (.act (.client act) next))
    (about : act.aboutSessions = true) {tried : Sessions}
    (attempt : scene.sessions.attempt self waiting.isSome act = (none, tried)) :
    ∃ moves task, Attended { scene.put self (.blocked .attachTurn (.act (.client act) next)) with
      table := tried.table, attachTurn := tried.turn } task (sessions.runFrom moves) := by
  cases attended.next orderly stands with
  | plain free is onward =>
      obtain ⟨read, reads⟩ := Sessions.attempt_of_plain is about
      cases (Prod.mk.inj ((reads _ _ _).symm.trans attempt)).1
  | begins free errand plain about calls onward =>
      obtain ⟨read, reads⟩ := Sessions.attempt_of_plain plain about
      cases (Prod.mk.inj ((reads _ _ _).symm.trans attempt)).1
  | @minds place caller busy is _ rest next does about waits onward =>
      rw [waits] at attempt
      obtain ⟨mine, same, callers, table, turn⟩ := attended.attempted orderly busy is attempt
      refine ⟨[.proceed place], task, ?_⟩
      rw [Sessions.runFrom_cons, Sessions.runFrom_nil, busy.waited does same, table]
      exact attended.moved busy is callers turn _
        (.inl ⟨rfl, some .attachTurn, next, by rw [does]; rfl, rfl, onward⟩)

private theorem cancelled (attended : Attended scene task sessions) (orderly : sessions.Orderly)
    (rests : (scene.standing self).rests = true) :
    ∃ moves task, Attended { scene.put self .over with attachTurn := scene.attachTurn.leave self } task
      (sessions.runFrom moves) := by
  by_cases free : Free sessions task self
  · refine ⟨[], task, ?_⟩
    rw [attended.leave_of_free orderly free]
    exact attended.stayed free nofun
  · simp only [Free, not_forall, not_not] at free
    obtain ⟨place, caller, busy, is⟩ := free
    obtain ⟨waiting, next, same, waits, -⟩ := attended.minds busy
    have names := attended.names orderly busy
    have left : scene.attachTurn.leave self = (sessions.turn.leave place).rename task := by
      rw [attended.turn, ← is, Turnstile.leave_rename names]
    have waits : caller.waits = true := by
      rw [← is, same] at rests
      cases waiting with
      | none => cases rests
      | some waiting => exact waits.symm
    refine ⟨[.abandon place], task, ?_⟩
    rw [Sessions.runFrom_cons, Sessions.runFrom_nil, busy.abandoned waits, left]
    let after : Sessions := { sessions with turn := sessions.turn.leave place }
    have gone := attended.moved busy is (show after.callers = sessions.callers from rfl) rfl
      ⟨caller.errand, caller.rest, true, true⟩
      (.inr ⟨rfl, rfl⟩)
    exact gone.aside attended.table rfl rfl

theorem shift (attended : Attended scene task sessions) (orderly : sessions.Orderly) (shift : Shift scene later) :
    ∃ moves task, Attended later task (sessions.runFrom moves) := by
  cases shift with
  | received | wrote | stopped | touched | passed | numbered | arrived | asked | left =>
      exact ⟨[], task, attended.aside rfl rfl rfl⟩
  | @heeded _ event _ taken => exact ⟨[.event event], task, (attended.heeded event).aside rfl rfl rfl⟩
  | started older new step =>
      have free : Free sessions task scene.nextId := attended.free_of_standing fun waiting program goes => by
        rw [new] at goes
        cases waiting <;> cases goes
      exact ⟨[], task, (attended.stayed_of_program free rfl (woven_perform step)).aside rfl rfl rfl⟩
  | begun stands =>
      have free : Free sessions task _ := attended.free_of_standing fun waiting program goes => by
        rw [stands] at goes
        cases waiting <;> cases goes
      exact ⟨[], task, attended.stayed_of_program free rfl (attended.free free (by rw [stands]; rfl))⟩
  | went stands apart answer =>
      obtain ⟨free, -, onward⟩ := attended.apart orderly stands apart
      exact ⟨[], task, attended.stayed_of_program free rfl (onward answer)⟩
  | rested stands apart =>
      obtain ⟨free, woven, -⟩ := attended.apart orderly stands apart
      exact ⟨[], task, attended.stayed_of_program free rfl woven⟩
  | @sent _ _ _ _ _ _ stands sends limit id _ queued =>
      rcases attended.sends orderly stands sends with
        ⟨free, woven, -⟩ | ⟨place, caller, rest, next, busy, is, does, same, -, onward⟩
      · exact ⟨[], task, (attended.stayed_of_program free rfl woven).aside rfl rfl rfl⟩
      · refine ⟨[.proceed place], task, ?_⟩
        rw [Sessions.runFrom_cons, Sessions.runFrom_nil, busy.waited does rfl]
        have waits := attended.moved busy is rfl attended.turn ⟨caller.errand, caller.rest, true, false⟩
          (.inl ⟨rfl, some (.answer id (scene.now + limit) limit), next, congrArg _ same, rfl, onward⟩)
        exact waits.aside attended.table rfl rfl
  | unsent stands sends =>
      obtain ⟨moves, task, attended⟩ := attended.resolved orderly stands sends _
      exact ⟨moves, task, attended.aside rfl rfl rfl⟩
  | @answered _ id deadline limit _ _ _ _ stands sends | @late _ id deadline limit _ _ _ _ stands sends =>
      have goes : scene.standing _ = .going (some (.answer id deadline limit)) _ := stands
      obtain ⟨moves, task, attended⟩ := attended.resolved orderly goes sends _
      exact ⟨moves, task, attended.aside rfl rfl rfl⟩
  | minded stands about tried => exact attended.minded orderly stands about tried
  | queued stands about tried => exact attended.queued orderly stands about tried
  | finished stands =>
      cases attended.next orderly stands with
      | ends free shown => exact ⟨[], task, attended.stayed free nofun⟩
  | cancelled rests =>
      obtain ⟨moves, task, attended⟩ := attended.cancelled orderly rests
      exact ⟨moves, task, attended.aside rfl rfl rfl⟩

theorem course {moves : List SessionMove} (attended : Attended scene task (.run moves)) (course : Course scene later) :
    ∃ moves task, Attended later task (.run moves) := by
  induction course with
  | refl => exact ⟨moves, task, attended⟩
  | tail _ shift ih =>
      obtain ⟨moves, task, attended⟩ := ih
      obtain ⟨more, task, attended⟩ := attended.shift (Sessions.orderly_run moves) shift
      exact ⟨moves ++ more, task, by rw [Sessions.run_append]; exact attended⟩

end Attended

namespace World.Reached

variable {world : World} {setting : Setting} {rules : List Rule} {steps : List Step}

theorem attended (reached : Reached setting rules steps world) :
    ∃ moves task, Attended world.scene task (Sessions.run moves) := by
  have nobody {place : Nat} {caller : Caller} : ¬ Sessions.opening.Busy place caller := fun busy => nomatch busy.live
  have before : Attended (beginning setting rules steps).scene id (Sessions.run []) := by
    refine ⟨rfl, rfl, fun busy => (nobody busy).elim, fun busy => (nobody busy).elim, fun {self program} _ has => ?_⟩
    rw [show (beginning setting rules steps).scene.standing self = _ from standing_start _ _ self] at has
    split at has
    · exact Option.some.inj has ▸ woven_rehearse steps
    · cases has
  exact before.course reached.course

/-- In no rehearsal are two tasks past the turn to attach, or two sessions stored under one name. -/
theorem attachTurn_single (reached : Reached setting rules steps world) :
    world.stage.attachTurn.inside.length ≤ 1 ∧ world.stage.table.Distinct := by
  obtain ⟨moves, task, attended⟩ := reached.attended
  have single := (Sessions.orderly_run moves).single
  have turn : world.stage.attachTurn = (Sessions.run moves).turn.rename task := attended.turn
  have table : world.stage.table = (Sessions.run moves).table := attended.table
  rw [turn, table]
  refine ⟨?_, (Sessions.orderly_run moves).distinct⟩
  rw [Turnstile.rename, List.length_map]
  generalize (Sessions.run moves).turn = turn at single
  cases single with
  | vacant => exact Nat.zero_le 1
  | taken => exact Nat.le_refl 1

end World.Reached

end Rehearsal

end RemoteDom
