import RemoteDom.Proofs.Rehearsal.Attempts
import RemoteDom.Proofs.Rehearsal.Steps

/-! Whatever a world does in one turn is a course of shifts of what its tasks share. -/

namespace RemoteDom.Rehearsal

/-! All shifts leave the order of the numbers and the programs in shape. -/

private theorem Sends.every {session : SessionId} {command : Command} {program : Acting Shown}
    {next : Except Error Json → Acting Shown} {allowed : StageAct → Prop} (sends : Sends session command program next)
    (every : program.Every allowed) (outcome : Except Error Json) : (next outcome).Every allowed := by
  cases sends <;> exact every.2 outcome

namespace Scene.Orderly

variable {scene : Scene} {self : Nat} {waiting : Option Waiting} {program : Acting Shown}

private theorem tame_of_going (orderly : scene.Orderly) (stands : scene.standing self = .going waiting program) :
    program.Every StageAct.Tame :=
  orderly.tame self program (by rw [stands, Standing.program?_going])

theorem put (orderly : scene.Orderly) {standing : Standing}
    (tame : ∀ program, standing.program? = some program → program.Every StageAct.Tame) :
    (scene.put self standing).Orderly where
  younger := orderly.younger
  tame := by
    intro id program has
    by_cases is : id = self
    · subst is
      rw [standing_put] at has
      exact tame program has
    · exact orderly.tame id program (by simpa [Scene.put, is] using has)

private theorem put_of_program (orderly : scene.Orderly) (tame : program.Every StageAct.Tame) {standing : Standing}
    (has : standing.program? = some program) : (scene.put self standing).Orderly :=
  orderly.put fun _ other => Option.some.inj (has.symm.trans other) ▸ tame

private theorem put_over (orderly : scene.Orderly) : (scene.put self .over).Orderly := orderly.put nofun

theorem joined (orderly : scene.Orderly) {owner : Option Nat} (older : ∀ id ∈ owner, id < scene.nextId)
    (tame : program.Every StageAct.Tame) :
    Orderly { scene.put scene.nextId (.ready program) with
      kin := scene.kin ++ [(scene.nextId, owner)], nextId := scene.nextId + 1 } := by
  refine ⟨fun id owner member => ?_, (orderly.put_of_program tame rfl).tame⟩
  rcases List.mem_append.mp member with old | new
  · have young := orderly.younger id owner old
    exact ⟨Nat.lt_succ_of_lt young.1, young.2⟩
  · obtain ⟨rfl, rfl⟩ := Prod.mk.inj (List.mem_singleton.mp new)
    exact ⟨Nat.lt_succ_self _, older⟩

theorem shift (orderly : scene.Orderly) {later : Scene} (shift : Shift scene later) : later.Orderly := by
  cases shift with
  | received | wrote | stopped | heeded | touched | passed | asked | left => exact ⟨orderly.younger, orderly.tame⟩
  | numbered | arrived =>
      refine ⟨fun id owner member => ?_, orderly.tame⟩
      have young := orderly.younger id owner member
      exact ⟨Nat.lt_succ_of_lt young.1, young.2⟩
  | started older _ step => exact orderly.joined older (woven_perform step).tame
  | begun stands => exact orderly.put_of_program (orderly.tame _ _ (by rw [stands]; rfl)) rfl
  | went stands _ answer => exact orderly.put_of_program ((orderly.tame_of_going stands).2 answer) rfl
  | rested stands => exact orderly.put_of_program (orderly.tame_of_going stands) rfl
  | sent stands => exact ⟨orderly.younger, (orderly.put_of_program (orderly.tame_of_going stands) rfl).tame⟩
  | unsent stands sends =>
      have tame := sends.every (orderly.tame_of_going stands)
      exact ⟨orderly.younger, (orderly.put_of_program (tame _) rfl).tame⟩
  | answered stands sends | late stands sends =>
      have tame := sends.every (orderly.tame _ _ (by rw [stands]; rfl))
      exact ⟨orderly.younger, (orderly.put_of_program (tame _) rfl).tame⟩
  | minded stands => exact ⟨orderly.younger, (orderly.put_of_program ((orderly.tame_of_going stands).2 _) rfl).tame⟩
  | queued stands => exact ⟨orderly.younger, (orderly.put_of_program (orderly.tame_of_going stands) rfl).tame⟩
  | finished => exact orderly.put_over
  | cancelled => exact ⟨orderly.younger, orderly.put_over.tame⟩

theorem course (orderly : scene.Orderly) {later : Scene} (course : Course scene later) : later.Orderly := by
  induction course with
  | refl => exact orderly
  | tail _ shift ih => exact ih.shift shift

end Scene.Orderly

theorem Course.kin_subset {scene later : Scene} (course : Course scene later) : scene.kin ⊆ later.kin := by
  induction course with
  | refl => exact List.Subset.refl _
  | tail _ shift ih =>
      cases shift with
      | started => exact List.subset_append_of_subset_left _ ih
      | _ => exact ih

namespace World

variable {world : World}

/-! The connection, the browser and the watcher. -/

private theorem course_connectionStep (connected : world.stage.connected = true) :
    Course world.scene (connectionStep world).scene := by
  have stops {last : Connection} (parting : Parting world.scene.connection last) :
      Course world.scene { world.scene with connection := last.stop, connected := false } :=
    .single (.stopped connected parting)
  unfold connectionStep
  simp only
  split
  next text rest _ => exact .single (.received connected text)
  next => exact .refl
  next =>
    split
    · exact .refl
    · exact stops .plain
  next => exact stops .plain
  next => exact stops .plain
  next =>
    split
    next id text later next =>
      split
      · exact .single (.wrote connected next)
      · exact stops (.failed _ next)
    next later next => exact stops (.asked next)
    next => exact stops .plain

private theorem course_runConnection (fuel : Nat) (world : World) :
    Course world.scene (runConnection fuel world).scene := by
  induction fuel generalizing world with
  | zero => exact .refl
  | succ fuel ih =>
      unfold runConnection
      split
      next due =>
        have connected : world.stage.connected = true := by
          simp only [isDue, Bool.and_eq_true] at due
          exact due.1
        exact (course_connectionStep connected).trans (scene_notify _ _ ▸ ih _)
      next => exact .refl

private theorem scene_sendPacket (world : World) (packet : Packet) : (sendPacket world packet).scene = world.scene :=
  rfl

private theorem course_browserStep (world : World) : Course world.scene (browserStep world).scene := by
  unfold browserStep
  split
  next => exact .refl
  next text rest _ =>
    simp only
    generalize answer ((Json.read? text).getD .null) world.stage.rules = answered
    obtain ⟨turn, rules⟩ := answered
    simp only
    generalize before : ({ world with stage := _ } : World) = shown
    have same : (turn.before.foldl (fun world frame => sendPacket world (.text frame)) shown).scene = world.scene := by
      have start : shown.scene = world.scene := by subst before; rfl
      rw [← start]
      clear before start
      induction turn.before generalizing shown with
      | nil => rfl
      | cons frame frames ih => rw [List.foldl_cons, ih, scene_sendPacket]
    rw [← same]
    split
    · exact .refl
    · split
      · exact .refl
      · rw [scene_wake]
        exact .single .numbered

private theorem course_runBrowser (fuel : Nat) (world : World) : Course world.scene (runBrowser fuel world).scene := by
  induction fuel generalizing world with
  | zero => exact .refl
  | succ fuel ih =>
      unfold runBrowser
      split
      · exact (course_browserStep world).trans (scene_notify _ _ ▸ ih _)
      · exact .refl

private theorem scene_runDelivery (world : World) (id : Nat) : (world.runDelivery id).scene = world.scene := by
  unfold runDelivery
  split
  · rfl
  · simp only
    split
    · split <;> rfl
    · rfl

private theorem course_watcherStep (world : World) :
    Course world.scene ({ world with stage := watcherStep world.stage } : World).scene := by
  unfold watcherStep
  split
  next => exact .refl
  next gone destroyed _ =>
    simp only
    split
    next event streams taken => exact .single (.heeded taken)
    next =>
      split
      next event streams taken => exact .single (.heeded taken)
      next => exact .refl

private theorem course_runWatcher (fuel : Nat) (world : World) : Course world.scene (runWatcher fuel world).scene := by
  induction fuel generalizing world with
  | zero => exact .refl
  | succ fuel ih =>
      unfold runWatcher
      split
      · exact (course_watcherStep world).trans (scene_notify _ _ ▸ ih _)
      · exact .refl

/-! Tasks. -/

private theorem course_finish {self : Nat} {owner : Option Nat} (known : (self, owner) ∈ world.kin)
    (waiting : Option Waiting) (shown : Shown) :
    Course (world.scene.put self (.going waiting (.done shown))) (world.finish self shown).scene := by
  have ends : (world.finish self shown).scene = world.scene.put self .over := by
    unfold finish
    simp only [scene_notify]
    split
    · split
      · rw [scene_wakeFirst, scene_setProgress known]
        rfl
      · rw [scene_setProgress known]
        rfl
    · rw [scene_setProgress known]
      rfl
  have shift : Shift (world.scene.put self (.going waiting (.done shown))) _ := .finished Scene.standing_put
  rw [Scene.put_put] at shift
  exact ends ▸ .single shift

private theorem course_proceed {self : Nat} (program : Acting Shown) {waiting : Option Waiting} {world : World}
    {owner : Option Nat} (known : (self, owner) ∈ world.kin)
    (orderly : (world.scene.put self (.going waiting program)).Orderly) :
    Course (world.scene.put self (.going waiting program)) (proceed self waiting program world).scene := by
  induction program generalizing waiting world with
  | done shown => exact course_finish known waiting shown
  | act act next ih =>
      have tame := (orderly.tame self (.act act next) (by rw [Scene.standing_put, Standing.program?_going])).1
      have younger (id : Nat) (owner : Option Nat) (member : (id, owner) ∈ world.kin) : id < world.nextId :=
        (orderly.younger id owner member).1
      have follows : Attempt.Follows act self next _ _ :=
        follows_attempt tame younger (younger self owner known) waiting
      unfold proceed
      cases attempted : world.attempt self waiting act with
      | blocked goal later =>
          rw [attempted] at follows
          have kept : (self, owner) ∈ later.kin := Course.kin_subset follows known
          show Course _ (later.setProgress self (.going (some goal) (.act act next))).scene
          rw [scene_setProgress kept]
          exact follows
      | answered answer later =>
          rw [attempted] at follows
          have kept : (self, owner) ∈ later.kin := Course.kin_subset follows known
          refine Relation.ReflTransGen.trans follows ?_
          simp only
          split
          · exact @ih answer none (later.cancelTimers (.task self)) kept (orderly.course follows)
          · exact @ih answer none later kept (orderly.course follows)

private theorem scene_returnTickets (self : Nat) (tickets : List Nat) (world : World) :
    (tickets.foldl (returnTicket self) world).scene =
      { world.scene with places := tickets.foldl Turnstile.leave world.scene.places } := by
  induction tickets generalizing world with
  | nil => rfl
  | cons ticket tickets ih => rw [List.foldl_cons, ih, scene_returnTicket]; rfl

private theorem course_leaves (tickets : List Nat) (scene : Scene) :
    Course scene { scene with places := tickets.foldl Turnstile.leave scene.places } := by
  induction tickets generalizing scene with
  | nil => exact .refl
  | cons ticket tickets ih => exact .head (.left ticket) (ih { scene with places := scene.places.leave ticket })

private theorem scene_release (world : World) (task : Task) (waiting : Option Waiting) (rest : Acting Shown) :
    (world.release task waiting).scene = { world.scene with
      connection := (Progress.going waiting rest).standing.released world.scene.connection
      attachTurn := world.scene.attachTurn.leave task.id
      places := task.tickets.foldl Turnstile.leave world.scene.places } := by
  unfold release
  rw [scene_changeTask _ _ (by exact fun _ => rfl), scene_returnTickets, scene_cancelTimers]
  rcases waiting with _ | _ | _ | _ | _ | _ <;> rfl

/-- A task is given up after the tasks that it owns, which are younger. -/
private theorem course_cancel (depth id : Nat) {world : World} (orderly : world.scene.Orderly) :
    Course world.scene (cancel depth id world).scene ∧
      ∀ older < id, (cancel depth id world).standing older = world.standing older := by
  induction depth generalizing id world with
  | zero => exact ⟨.refl, fun _ _ => rfl⟩
  | succ depth ih =>
      have all (children : List Nat) (young : ∀ child ∈ children, id < child) {world : World}
          (orderly : world.scene.Orderly) :
          Course world.scene (children.foldl (fun world child => cancel depth child world) world).scene ∧
            ∀ older ≤ id, (children.foldl (fun world child => cancel depth child world) world).standing older =
              world.standing older := by
        induction children generalizing world with
        | nil => exact ⟨.refl, fun _ _ => rfl⟩
        | cons child children more =>
            obtain ⟨first, still⟩ := ih child orderly
            obtain ⟨second, stay⟩ :=
              more (fun other member => young other (List.mem_cons_of_mem _ member)) (orderly.course first)
            refine ⟨first.trans second, fun older below => (stay older below).trans (still older ?_)⟩
            exact Nat.lt_of_le_of_lt below (young child List.mem_cons_self)
      unfold cancel
      split
      next => exact ⟨.refl, fun _ _ => rfl⟩
      next task found =>
        split
        next waiting rest progress =>
          simp only
          have young (child : Nat) (member : child ∈ (world.tasks.filter (·.owner == some id)).map Task.id) :
              id < child := by
            obtain ⟨task, inside, rfl⟩ := List.mem_map.mp member
            obtain ⟨among, owned⟩ := List.mem_filter.mp inside
            exact (orderly.younger task.id task.owner (List.mem_map.mpr ⟨task, among, rfl⟩)).2 id
              (by simpa using owned)
          obtain ⟨first, still⟩ := all _ young orderly
          generalize ((world.tasks.filter (·.owner == some id)).map Task.id).foldl _ world = later at first still ⊢
          have stands : later.scene.standing id = (Progress.going waiting rest).standing := by
            rw [← progress, ← standing_of_task? found]
            exact still id (Nat.le_refl id)
          have released := scene_release later task waiting rest
          have known : (id, task.owner) ∈ (later.release task waiting).kin := by
            rw [show (later.release task waiting).kin = later.kin from congrArg Scene.kin released]
            exact first.kin_subset (mem_kin_of_task? found)
          have rests : (later.scene.standing id).rests = true := by rw [stands]; cases waiting <;> rfl
          have cancelled := Shift.cancelled rests
          have last : Course later.scene
              (((later.release task waiting).setProgress id .cancelled).notify (.task id)).scene := by
            rw [scene_notify, scene_setProgress known, released, id_of_task? found, ← stands]
            exact .head cancelled (course_leaves task.tickets _)
          refine ⟨first.trans last, fun older below => ?_⟩
          have apart : older ≠ id := Nat.ne_of_lt below
          show (((later.release task waiting).setProgress id .cancelled).notify (.task id)).scene.standing older = _
          rw [scene_notify, scene_setProgress known, released]
          simp only [Scene.put, if_neg apart]
          exact still older (Nat.le_of_lt below)
        next => exact ⟨.refl, fun _ _ => rfl⟩

private theorem course_runTask (orderly : world.scene.Orderly) (id : Nat) :
    Course world.scene (world.runTask id).scene := by
  unfold runTask
  split
  next => exact .refl
  next task found =>
    split
    next waiting rest progress =>
      split
      · exact (course_cancel _ _ orderly).1
      · have stands : world.scene.standing id = (Progress.going waiting rest).standing :=
          (standing_of_task? found).trans (congrArg _ progress)
        have begun : Course world.scene (world.scene.put id (.going waiting rest)) := by
          cases waiting with
          | none => exact .single (.begun stands)
          | some goal =>
              show Course _ (world.scene.put id (Progress.going (some goal) rest).standing)
              rw [Scene.put_of_standing stands]
        exact begun.trans (course_proceed rest (mem_kin_of_task? found) (orderly.course begun))
    next => exact .refl

/-! Turns. -/

theorem course_advance {later : World} (orderly : world.scene.Orderly) (advanced : world.advance = some later) :
    Course world.scene later.scene := by
  unfold advance at advanced
  split at advanced
  next runner ready _ =>
    obtain rfl := Option.some.inj advanced
    have same : ({ world with ready } : World).scene = world.scene := rfl
    rw [← same] at orderly ⊢
    cases runner with
    | connection => exact course_runConnection _ _
    | browser => exact course_runBrowser _ _
    | watcher => exact course_runWatcher _ _
    | delivery id =>
        show Course _ (notify _ _).scene
        rw [scene_notify, scene_runDelivery]
    | task id => exact course_runTask orderly id
  next =>
    split at advanced
    next => cases advanced
    next first timers _ =>
      obtain rfl := Option.some.inj advanced
      generalize world.timers.takeWhile _ = due
      generalize moment : ({ world with now := _, timers := _ } : World) = set
      have woken : (due.foldl (fun world timer => world.wake timer.runner) set).scene = set.scene := by
        clear moment
        induction due generalizing set with
        | nil => rfl
        | cons timer due ih => rw [List.foldl_cons, ih, scene_wake]
      rw [woken, ← moment]
      exact .single (.passed (Nat.le_max_left _ _))

/-- The worlds that come one after another. -/
def Turn (world later : World) : Prop := world.advance = some later

theorem course_turns {later : World} (orderly : world.scene.Orderly) (turns : Relation.ReflTransGen Turn world later) :
    Course world.scene later.scene := by
  induction turns with
  | refl => exact .refl
  | tail _ turn ih => exact ih.trans (course_advance (orderly.course ih) turn)

theorem standing_start (stage : Stage) (program : Acting Shown) (self : Nat) :
    (start stage program).standing self = if self = 0 then .ready program else .over := by
  by_cases first : self = 0
  · rw [if_pos first, first]
    rfl
  · have nobody : (start stage program).task? self = none := by
      simp [start, task?, Task.fresh, Ne.symm first]
    rw [if_neg first, World.standing, nobody]
    rfl

theorem orderly_start (stage : Stage) {program : Acting Shown} (tame : program.Every StageAct.Tame) :
    (start stage program).scene.Orderly := by
  refine ⟨fun id owner member => ?_, fun self other has => ?_⟩
  · obtain ⟨rfl, rfl⟩ := Prod.mk.inj (List.mem_singleton.mp member)
    exact ⟨Nat.one_pos, nofun⟩
  · rw [show (start stage program).scene.standing self = _ from standing_start stage program self] at has
    split at has
    · exact Option.some.inj has ▸ tame
    · cases has

/-- The world before the first step of a rehearsal. -/
def beginning (setting : Setting) (rules : List Rule) (steps : List Step) : World :=
  start (.opening setting rules (max setting.places 1)) (rehearse steps)

/-- The world is one that the rehearsal comes through. -/
def Reached (setting : Setting) (rules : List Rule) (steps : List Step) : World → Prop :=
  Relation.ReflTransGen Turn (beginning setting rules steps)

theorem Reached.course {setting : Setting} {rules : List Rule} {steps : List Step}
    (reached : Reached setting rules steps world) : Course (beginning setting rules steps).scene world.scene :=
  course_turns (orderly_start _ (woven_rehearse steps).tame) reached

private theorem turns_runUntilOver (id fuel : Nat) (world : World) :
    Relation.ReflTransGen Turn world (world.runUntilOver id fuel) := by
  induction fuel generalizing world with
  | zero => exact .refl
  | succ fuel ih =>
      unfold runUntilOver
      split
      · exact .refl
      · split
        next later advanced => exact .head advanced (ih later)
        next => exact .refl

/-- The reports are those of a world that the rehearsal comes to. -/
theorem reached_reports (setting : Setting) (rules : List Rule) (steps : List Step) :
    ∃ world, Reached setting rules steps world ∧ reports setting rules steps = world.stage.reports.reverse :=
  ⟨_, turns_runUntilOver 0 turnFuel _, rfl⟩

end World

end RemoteDom.Rehearsal
