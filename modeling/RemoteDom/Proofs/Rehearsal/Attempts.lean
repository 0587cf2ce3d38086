import RemoteDom.Proofs.Rehearsal.Scenes

/-! What the attempts of tasks come to: each is a course of shifts, from how the task stood to how it stands then. -/

namespace RemoteDom.Rehearsal

namespace World

variable {world : World} {self : Nat} {waiting : Option Waiting}

/-- What an attempt comes to, for the one who made it. -/
def Attempt.Follows (act : StageAct) (self : Nat) (next : act.Answer → Acting Shown) (scene : Scene) :
    Attempt act.Answer → Prop
  | .answered answer later => Course scene (later.scene.put self (.running (next answer)))
  | .blocked goal later => Course scene (later.scene.put self (.blocked goal (.act act next)))

private theorem course_went (act : StageAct) {next : act.Answer → Acting Shown} (apart : act.isApart = true)
    (scene : Scene) (answer : act.Answer) :
    Course (scene.put self (.going waiting (.act act next))) (scene.put self (.running (next answer))) := by
  have shift : Shift (scene.put self (.going waiting (.act act next))) _ := .went Scene.standing_put apart answer
  rw [Scene.put_put] at shift
  exact .single shift

private theorem course_rested (act : StageAct) {next : act.Answer → Acting Shown} (apart : act.isApart = true)
    (scene : Scene) {goal : Waiting} (idle : goal.command? = none) :
    Course (scene.put self (.going waiting (.act act next))) (scene.put self (.blocked goal (.act act next))) := by
  have shift : Shift (scene.put self (.going waiting (.act act next))) _ := .rested Scene.standing_put apart idle
  rw [Scene.put_put] at shift
  exact .single shift

private theorem attemptPause_cases (world : World) (self : Nat) (waiting : Option Waiting) (milliseconds : Nat)
    (until? : Option Nat) :
    (∃ passed, world.attemptPause self waiting milliseconds until? = .answered passed world) ∨
      ∃ goal moment later, world.attemptPause self waiting milliseconds until? = .blocked (.time goal moment) later ∧
        later.scene = world.scene := by
  have still (time : Nat) :
      (if waiting.isNone then world.setTimer time (.task self) else world).scene = world.scene := by
    split <;> rfl
  unfold attemptPause
  simp only
  -- whether the task comes or asks again, it has a goal and perhaps a moment
  split <;>
  · simp only
    split
    · exact .inl ⟨_, rfl⟩
    · split
      · exact .inr ⟨_, _, _, rfl, still _⟩
      · split
        · exact .inl ⟨_, rfl⟩
        · exact .inr ⟨_, _, _, rfl, still _⟩

section Sends

variable {program : Acting Shown} {next : Except Error Json → Acting Shown} {session : SessionId} {command : Command}

private theorem awaitAnswer_cases (sends : Sends session command program next) (world : World)
    (self id deadline limit : Nat) :
    (∃ outcome later, world.awaitAnswer id deadline limit command.method = .answered outcome later ∧
        Course (world.scene.put self (.blocked (.answer id deadline limit) program))
          (later.scene.put self (.running (next outcome)))) ∨
      world.awaitAnswer id deadline limit command.method = .blocked (.answer id deadline limit) world := by
  have stands : (world.scene.put self (.blocked (.answer id deadline limit) program)).standing self =
    .blocked (.answer id deadline limit) program := Scene.standing_put
  cases answer : world.stage.connection.answer? id with
  | some outcome =>
      refine .inl ⟨outcome, _, by simp only [awaitAnswer, answer]; rfl, ?_⟩
      have shift := Shift.answered stands sends answer
      rw [Scene.put_put] at shift
      exact .single shift
  | none =>
      by_cases past : deadline ≤ world.now
      · refine .inl ⟨_, _, by simp only [awaitAnswer, answer, if_pos past]; rfl, ?_⟩
        have shift := Shift.late stands sends answer past
        rw [Scene.put_put] at shift
        exact .single shift
      · exact .inr (by simp only [awaitAnswer, answer, if_neg past])

private theorem attemptSend_cases (sends : Sends session command program next) (world : World)
    (self limit : Nat) (waiting : Option Waiting) :
    (∃ outcome later, world.attemptSend self waiting session command limit = .answered outcome later ∧
        Course (world.scene.put self (.going waiting program)) (later.scene.put self (.running (next outcome)))) ∨
      ∃ goal later, world.attemptSend self waiting session command limit = .blocked goal later ∧
        Course (world.scene.put self (.going waiting program)) (later.scene.put self (.blocked goal program)) := by
  unfold attemptSend
  split
  next id deadline limit =>
    rcases awaitAnswer_cases sends world self id deadline limit with answered | blocked
    · exact .inl answered
    · exact .inr ⟨_, _, blocked, .refl⟩
  next =>
    have stands : (world.scene.put self (.going waiting program)).standing self = .going waiting program :=
      Scene.standing_put
    rcases sent : world.stage.connection.send session command with ⟨outcome | outcome, connection⟩
    · have shift := Shift.unsent stands sends limit sent
      rw [Scene.put_put] at shift
      refine .inl ⟨_, _, rfl, ?_⟩
      rw [scene_notify]
      exact .single shift
    · have shift := Shift.sent stands sends limit sent
      rw [Scene.put_put] at shift
      simp only
      generalize sending : ((world.onStage { world.stage with connection }).notify (.task self) : World) = asking
      have same : asking.scene = { world.scene with connection } := by rw [← sending, scene_notify]; rfl
      have goes : Course (world.scene.put self (.going waiting program))
          (asking.scene.put self (.blocked (.answer outcome (asking.now + limit) limit) program)) := by
        rw [show asking.now = world.now from congrArg Scene.now same, same]
        exact .single shift
      rcases awaitAnswer_cases sends asking self outcome (asking.now + limit) limit with
        ⟨given, later, answered, onward⟩ | blocked
      · rw [answered]
        exact .inl ⟨given, later, rfl, goes.trans onward⟩
      · rw [blocked]
        exact .inr ⟨_, _, rfl, goes⟩

end Sends

/-- Such an act changes nothing but the table and the turn. -/
private theorem attemptClient_aboutSessions {act : Act} (about : act.aboutSessions = true) (world : World) (self : Nat)
    (waiting : Option Waiting) :
    let kept (later : World) : Prop :=
      later.scene = { world.scene with table := later.stage.table, attachTurn := later.stage.attachTurn }
    (∃ answer later, world.attemptClient self waiting act = .answered answer later ∧ kept later) ∨
      ∃ later, world.attemptClient self waiting act = .blocked .attachTurn later ∧ kept later := by
  cases act with
  | session | sessionForTarget | store | assign | forget => exact .inl ⟨_, _, rfl, rfl⟩
  | leaveAttach =>
      refine .inl ⟨_, _, rfl, ?_⟩
      simp only [scene_notify, notify_stage]
      rfl
  | enterAttach =>
      unfold attemptClient attemptAttachTurn
      simp only
      generalize (if waiting.isNone = true then world.stage.attachTurn.arrive self
        else world.stage.attachTurn.ask self) = told
      obtain ⟨reply, turn⟩ := told
      cases reply with
      | admitted | refused => exact .inl ⟨_, _, rfl, rfl⟩
      | wait => exact .inr ⟨_, rfl, rfl⟩
  | _ => cases about

private theorem follows_aboutSessions {act : Act} {next : act.Answer → Acting Shown} (about : act.aboutSessions = true)
    (world : World) (self : Nat) (waiting : Option Waiting) :
    Attempt.Follows (.client act) self next (world.scene.put self (.going waiting (.act (.client act) next)))
      (world.attemptClient self waiting act) := by
  have tried := Sessions.attempt_eq_attemptClient world self waiting [] about
  have stands : (world.scene.put self (.going waiting (.act (.client act) next))).standing self =
    .going waiting (.act (.client act) next) := Scene.standing_put
  rcases attemptClient_aboutSessions about world self waiting with ⟨answer, later, seen, kept⟩ | ⟨later, seen, kept⟩
  · rw [seen] at tried ⊢
    obtain ⟨given, table, turn⟩ := tried
    have shift := Shift.minded stands about (Prod.ext given.symm rfl)
    rw [Scene.put_put] at shift
    show Course _ (later.scene.put self (.running (next answer)))
    rw [kept]
    simp only [Attempt.outcome] at table turn
    rw [table, turn]
    exact .single shift
  · rw [seen] at tried ⊢
    obtain ⟨given, table, turn⟩ := tried
    have shift := Shift.queued stands about (Prod.ext given.symm rfl)
    rw [Scene.put_put] at shift
    show Course _ (later.scene.put self (.blocked .attachTurn (.act (.client act) next)))
    rw [kept]
    simp only [Attempt.outcome] at table turn
    rw [table, turn]
    exact .single shift

private theorem follows_client (act : Act) (next : act.Answer → Acting Shown) (world : World) (self : Nat)
    (waiting : Option Waiting) :
    Attempt.Follows (.client act) self next (world.scene.put self (.going waiting (.act (.client act) next)))
      (world.attemptClient self waiting act) := by
  cases act with
  | session | sessionForTarget | store | assign | forget | leaveAttach | enterAttach =>
      exact follows_aboutSessions rfl world self waiting
  | request session command =>
      rw [show world.attemptClient self waiting (.request session command) =
        world.attemptSend self waiting session command world.stage.setting.deadline from rfl]
      rcases attemptSend_cases (.request next) world self world.stage.setting.deadline waiting with
        ⟨outcome, later, same, course⟩ | ⟨goal, later, same, course⟩ <;>
      · rw [same]
        exact course
  | sleep milliseconds =>
      rcases attemptPause_cases world self waiting milliseconds none with
        ⟨passed, same⟩ | ⟨goal, moment, later, same, kept⟩
      · rw [show world.attemptClient self waiting (.sleep milliseconds) = .answered () world by
          simp only [attemptClient, same]]
        exact course_went _ rfl world.scene _
      · rw [show world.attemptClient self waiting (.sleep milliseconds) = .blocked (.time goal moment) later by
          simp only [attemptClient, same]]
        show Course _ (later.scene.put self _)
        rw [kept]
        exact course_rested _ rfl world.scene rfl
  | _ => exact course_went _ rfl world.scene _

/-! Tickets. -/

theorem scene_returnTicket (self : Nat) (world : World) (ticket : Nat) :
    (returnTicket self world ticket).scene = { world.scene with places := world.scene.places.leave ticket } := by
  unfold returnTicket
  rw [scene_notify, scene_changeTask]
  · rfl
  · exact fun _ => rfl

private theorem scene_takeTicket (world : World) (self : Nat) :
    (world.takeTicket self).2.scene = { world.scene with nextId := world.scene.nextId + 1 } := by
  unfold takeTicket
  rw [scene_changeTask]
  · rfl
  · exact fun _ => rfl

/-- Whoever comes gets a ticket and is told something, whoever asks again keeps the ticket. -/
private theorem attemptEnter_cases (until? : Option Nat) (world : World) (self : Nat) (waiting : Option Waiting)
    (standing : Standing) :
    ∃ (ticket : Nat) (reply : Turnstile.Reply) (entered : World),
      Course (world.scene.put self standing) (entered.scene.put self standing) ∧
      world.attemptEnter self waiting until? =
        match reply with
        | .admitted => .answered (.admitted ticket) entered
        | .refused => .answered .refused (entered.returnTicket self ticket)
        | .wait =>
          match until? with
          | none => .blocked (.place ticket none) entered
          | some moment =>
              if moment ≤ entered.now then .answered .gaveUp (entered.returnTicket self ticket)
              else
                .blocked (.place ticket until?)
                  (if waiting.isNone then entered.setTimer moment (.task self) else entered) := by
  have numbered (world : World) :
      Course (world.scene.put self standing) ((world.takeTicket self).2.scene.put self standing) := by
    rw [scene_takeTicket]
    exact .single .numbered
  have asked (world : World) (ticket : Nat) :
      Course (world.scene.put self standing)
        ((world.onStage { world.stage with places := (world.stage.places.ask ticket).2 }).scene.put self standing) :=
    .single (.asked ticket)
  cases waiting with
  | none =>
      refine ⟨world.nextId, (world.stage.places.arrive world.nextId).1,
        (world.takeTicket self).2.onStage { world.stage with places := (world.stage.places.arrive world.nextId).2 },
        ?_, rfl⟩
      show Course _ (({ (world.takeTicket self).2.scene with
        places := (world.stage.places.arrive world.nextId).2 } : Scene).put self standing)
      rw [scene_takeTicket]
      exact .single .arrived
  | some waiting =>
      cases waiting with
      | place ticket moment => exact ⟨ticket, _, _, asked world ticket, rfl⟩
      | answer | time | attachTurn | task =>
          exact ⟨world.nextId, _, _, (numbered world).trans (asked _ world.nextId), rfl⟩

private theorem follows_enter {next : Entry → Acting Shown} (until? : Option Nat) (world : World) (self : Nat)
    (waiting : Option Waiting) :
    Attempt.Follows (.enter until?) self next (world.scene.put self (.going waiting (.act (.enter until?) next)))
      (world.attemptEnter self waiting until?) := by
  obtain ⟨ticket, reply, entered, comes, same⟩ :=
    attemptEnter_cases until? world self waiting (.going waiting (.act (.enter until?) next))
  have told (answer : Entry) : Course (world.scene.put self (.going waiting (.act (.enter until?) next)))
      (entered.scene.put self (.running (next answer))) :=
    comes.trans (course_went (.enter until?) rfl entered.scene answer)
  have turned (answer : Entry) : Course (world.scene.put self (.going waiting (.act (.enter until?) next)))
      ((entered.returnTicket self ticket).scene.put self (.running (next answer))) := by
    rw [scene_returnTicket]
    exact (told answer).trans (.single (.left ticket))
  have stands (moment : Option Nat) : Course (world.scene.put self (.going waiting (.act (.enter until?) next)))
      (entered.scene.put self (.blocked (.place ticket moment) (.act (.enter until?) next))) :=
    comes.trans (course_rested _ rfl entered.scene rfl)
  rw [same]
  cases reply with
  | admitted => exact told _
  | refused => exact turned _
  | wait =>
      cases until? with
      | none => exact stands none
      | some moment =>
          simp only
          split
          · exact turned _
          · show Course _ (Scene.put (World.scene (if _ then _ else _)) _ _)
            split
            · exact stands (some moment)
            · exact stands (some moment)

/-! New tasks. -/

private theorem task?_nextId {world : World} (younger : ∀ id owner, (id, owner) ∈ world.kin → id < world.nextId) :
    world.task? world.nextId = none := by
  refine List.find?_eq_none.mpr fun task member same => ?_
  have older := younger task.id task.owner (List.mem_map.mpr ⟨task, member, rfl⟩)
  simp only [beq_iff_eq] at same
  omega

theorem scene_addTask {world : World} (younger : ∀ id owner, (id, owner) ∈ world.kin → id < world.nextId)
    (owner : Option Nat) (program : Acting Shown) :
    (world.addTask owner program).2.scene = { world.scene.put world.nextId (.ready program) with
      kin := world.kin ++ [(world.nextId, owner)], nextId := world.nextId + 1 } := by
  have nobody := task?_nextId younger
  have kin : (world.addTask owner program).2.kin = world.kin ++ [(world.nextId, owner)] := by
    simp [addTask, World.kin, Task.fresh]
  have standing :
      (world.addTask owner program).2.standing = (world.scene.put world.nextId (.ready program)).standing := by
    funext id
    have parts : (world.addTask owner program).2.task? id =
        (world.task? id).or (if id = world.nextId then some (.fresh world.nextId owner program) else none) := by
      unfold addTask task?
      rw [List.find?_append]
      congr 1
      by_cases is : id = world.nextId
      · simp [is, Task.fresh]
      · simp [is, Task.fresh, Ne.symm is]
    unfold World.standing
    rw [parts]
    by_cases is : id = world.nextId
    · simp [is, nobody, Scene.put, Task.fresh, Progress.standing]
    · simp [is, Scene.put, scene, World.standing]
  unfold scene
  rw [kin, standing]
  rfl

private theorem younger_addTask {world : World} (younger : ∀ id owner, (id, owner) ∈ world.kin → id < world.nextId)
    (owner : Option Nat) (program : Acting Shown) :
    ∀ id owner', (id, owner') ∈ (world.addTask owner program).2.kin → id < (world.addTask owner program).2.nextId := by
  intro id owner' member
  have kin : (world.addTask owner program).2.kin = world.kin ++ [(world.nextId, owner)] :=
    congrArg Scene.kin (scene_addTask younger owner program)
  rw [kin] at member
  show id < world.nextId + 1
  rcases List.mem_append.mp member with old | new
  · have := younger id owner' old
    omega
  · have := (Prod.mk.inj (List.mem_singleton.mp new)).1
    omega

private theorem course_addTask {world : World} (younger : ∀ id owner, (id, owner) ∈ world.kin → id < world.nextId)
    {owner : Option Nat} (older : ∀ id ∈ owner, id < world.nextId) (step : Step) {self : Nat}
    (apart : self < world.nextId) (standing : Standing) :
    Course (world.scene.put self standing) ((world.addTask owner (perform step)).2.scene.put self standing) := by
  rw [scene_addTask younger]
  have new : (world.scene.put self standing).standing world.nextId = .over := by
    have nobody : world.standing world.nextId = .over := by simp [World.standing, task?_nextId younger]
    rw [← nobody]
    exact if_neg (Nat.ne_of_gt apart)
  have shift : Shift (world.scene.put self standing) _ := .started older new step
  rw [show (world.scene.put self standing).nextId = world.nextId from rfl, Scene.put_comm (by omega)] at shift
  exact .single shift

private theorem course_spreadTasks {self : Nat} (standing : Standing) (steps : List Step) {world : World}
    (younger : ∀ id owner, (id, owner) ∈ world.kin → id < world.nextId) (known : self < world.nextId) :
    Course (world.scene.put self standing)
      ((spreadTasks self (steps.map perform) world).2.scene.put self standing) := by
  induction steps generalizing world with
  | nil => exact .refl
  | cons step steps ih =>
      have older : ∀ id ∈ some self, id < world.nextId := fun id same => Option.some.inj same ▸ known
      refine (course_addTask younger older step known standing).trans ?_
      have later : self < (world.addTask (some self) (perform step)).2.nextId := Nat.lt_succ_of_lt known
      exact ih (younger_addTask younger _ _) later

private theorem course_touches (scene : Scene) {before after : Connection × Turnstile}
    (touches : Touches before after) :
    Course { scene with connection := before.1, places := before.2 }
      { scene with connection := after.1, places := after.2 } := by
  induction touches with
  | refl => exact .refl
  | tail _ touch ih => exact ih.tail (.touched touch)

theorem follows_attempt {act : StageAct} {next : act.Answer → Acting Shown} (tame : act.Tame) {world : World}
    (younger : ∀ id owner, (id, owner) ∈ world.kin → id < world.nextId)
    {self : Nat} (known : self < world.nextId) (waiting : Option Waiting) :
    Attempt.Follows act self next (world.scene.put self (.going waiting (.act act next)))
      (world.attempt self waiting act) := by
  cases act with
  | client act => exact follows_client act next world self waiting
  | send session command deadline =>
      rw [show world.attempt self waiting (.send session command deadline) = world.attemptSend self waiting session
        command (deadline.getD world.stage.setting.deadline) from rfl]
      rcases attemptSend_cases (.send deadline next) world self _ waiting with
        ⟨outcome, later, same, course⟩ | ⟨goal, later, same, course⟩ <;>
      · rw [same]
        exact course
  | change effect =>
      have changed := tame world.stage
      have same : ((world.onStage (effect world.stage).2).notify (.task self)).scene =
          { world.scene with
            connection := (effect world.stage).2.connection, places := (effect world.stage).2.places } := by
        rw [scene_notify]
        simp only [scene, onStage, changed.connected, changed.table, changed.attachTurn]
        rfl
      refine (course_went _ rfl world.scene (effect world.stage).1).trans ?_
      show Course _ (Scene.put (World.scene (notify _ _)) _ _)
      rw [same]
      exact course_touches (world.scene.put self (.running (next (effect world.stage).1))) changed.touches
  | enter until? => exact follows_enter until? world self waiting
  | leave ticket =>
      refine (course_went _ rfl world.scene ()).trans ?_
      rw [scene_returnTicket]
      exact .single (.left ticket)
  | hold =>
      refine (course_went _ rfl world.scene ()).trans ?_
      rw [scene_changeTask _ _ (by exact fun _ => rfl)]
  | letGo =>
      refine (course_went _ rfl world.scene ()).trans ?_
      rw [scene_notify, scene_changeTask _ _ (by exact fun _ => rfl)]
  | pause milliseconds until? =>
      rw [show world.attempt self waiting (.pause milliseconds until?) =
        world.attemptPause self waiting milliseconds until? from rfl]
      rcases attemptPause_cases world self waiting milliseconds until? with
        ⟨passed, same⟩ | ⟨goal, moment, later, same, kept⟩
      · rw [same]
        exact course_went _ rfl world.scene _
      · rw [same]
        show Course _ (later.scene.put self _)
        rw [kept]
        exact course_rested _ rfl world.scene rfl
  | spawn step =>
      refine (course_went _ rfl world.scene world.nextId).trans ?_
      show Course _ (Scene.put (World.scene (wake _ _)) _ _)
      rw [scene_wake]
      exact course_addTask younger (by simp) step known _
  | spread steps =>
      exact (course_went _ rfl world.scene _).trans (course_spreadTasks _ steps younger known)
  | join other =>
      unfold attempt
      simp only
      split
      · exact course_rested _ rfl world.scene rfl
      · exact course_went _ rfl world.scene _
      · exact course_went _ rfl world.scene _
  | abort other =>
      unfold attempt
      simp only
      split
      · exact course_went _ rfl world.scene _
      · refine (course_went _ rfl world.scene ()).trans ?_
        rw [scene_wake, scene_changeTask _ _ (by exact fun _ => rfl)]

end World

end RemoteDom.Rehearsal
