import RemoteDom.Proofs.Client.Visitors
import RemoteDom.Proofs.Rehearsal.Turns
import RemoteDom.Rehearsal.Visits

/-! The tasks of a rehearsal are visitors of its turnstile: whatever happens, it is the turnstile of a run of visitors,
under the names of their tickets. -/

namespace RemoteDom

namespace Turnstile

variable {name other : Nat → Nat} {turn : Turnstile} {visitor : Nat}

/-- The same turnstile with other names for those inside and in line. -/
def rename (name : Nat → Nat) (turn : Turnstile) : Turnstile :=
  { turn with inside := turn.inside.map name, line := turn.line.map name }

/-- Nobody else there has the name of the visitor. -/
def Names (name : Nat → Nat) (turn : Turnstile) (visitor : Nat) : Prop :=
  ∀ other ∈ turn.inside ++ turn.line, name other = name visitor → other = visitor

theorem rename_congr (same : ∀ visitor ∈ turn.inside ++ turn.line, name visitor = other visitor) :
    turn.rename name = turn.rename other := by
  have inside := List.map_congr_left fun visitor member => same visitor (List.mem_append_left _ member)
  have line := List.map_congr_left fun visitor member => same visitor (List.mem_append_right _ member)
  simp only [rename, inside, line]

theorem arrive_rename (name : Nat → Nat) (turn : Turnstile) (visitor : Nat) :
    (turn.rename name).arrive (name visitor) = ((turn.arrive visitor).1, (turn.arrive visitor).2.rename name) := by
  cases closed : turn.closed with
  | true => simp [arrive, rename, closed]
  | false => cases free : turn.free <;> simp [arrive, rename, closed, free]

private theorem passOn_rename (name : Nat → Nat) (turn : Turnstile) :
    (turn.rename name).passOn = turn.passOn.rename name := by
  cases line : turn.line <;> simp [passOn, rename, line]

private theorem erase_map {visitors : List Nat}
    (names : ∀ other ∈ visitors, name other = name visitor → other = visitor) :
    (visitors.map name).erase (name visitor) = (visitors.erase visitor).map name := by
  induction visitors with
  | nil => rfl
  | cons first rest ih =>
      by_cases is : first = visitor
      · simp [is]
      · have apart : name first ≠ name visitor := fun same => is (names first List.mem_cons_self same)
        have rest := ih fun other member => names other (List.mem_cons_of_mem first member)
        simp [is, apart, rest]

private theorem mem_map (names : turn.Names name visitor) :
    name visitor ∈ turn.inside.map name ↔ visitor ∈ turn.inside := by
  refine ⟨fun member => ?_, List.mem_map_of_mem⟩
  obtain ⟨other, inside, same⟩ := List.mem_map.mp member
  exact names other (List.mem_append_left _ inside) same ▸ inside

theorem leave_rename (names : turn.Names name visitor) :
    (turn.rename name).leave (name visitor) = (turn.leave visitor).rename name := by
  have inside := erase_map fun other member => names other (List.mem_append_left _ member)
  have line := erase_map fun other member => names other (List.mem_append_right _ member)
  by_cases here : visitor ∈ turn.inside
  · have there : name visitor ∈ turn.inside.map name := (mem_map names).mpr here
    have passes := passOn_rename name { turn with inside := turn.inside.erase visitor }
    simp only [rename, ← inside] at passes
    simp only [leave, rename, List.contains_iff_mem.mpr here, List.contains_iff_mem.mpr there, if_true, passes]
  · have away : name visitor ∉ turn.inside.map name := fun member => here ((mem_map names).mp member)
    simp [leave, rename, here, away, line]

theorem ask_rename (names : turn.Names name visitor) :
    (turn.rename name).ask (name visitor) = ((turn.ask visitor).1, (turn.ask visitor).2.rename name) := by
  have closed : (turn.rename name).closed = turn.closed := rfl
  rcases turn.ask_cases visitor with ⟨shut, asked⟩ | ⟨opened, inside, asked⟩ | ⟨opened, inside, asked⟩
  · rw [asked, ask, closed, if_pos shut, leave_rename names]
  · have there : name visitor ∈ (turn.rename name).inside := (mem_map names).mpr inside
    rw [asked, ask_of_inside (closed.trans opened) there]
  · have away : name visitor ∉ (turn.rename name).inside := fun member => inside ((mem_map names).mp member)
    rw [asked]
    simp [ask, closed, opened, away]

end Turnstile

namespace Visitors

variable {visitors : Visitors Unit} {places : Nat}

private theorem ask_of_open (opened : visitors.turnstile.closed = false) (visitor : Nat) :
    (visitors.step (.ask visitor)).turnstile = visitors.turnstile ∧
      (visitors.step (.ask visitor)).stays.length = visitors.stays.length := by
  simp only [step]
  split
  · rcases visitors.turnstile.ask_cases visitor with ⟨closed, -⟩ | ⟨-, -, told⟩ | ⟨-, -, told⟩
    · rw [opened] at closed
      cases closed
    all_goals simp [told, Visitors.told]
  · exact ⟨rfl, rfl⟩

private theorem Orderly.turnstile_arrive (orderly : visitors.Orderly places) :
    (visitors.step .arrive).turnstile = (visitors.turnstile.arrive visitors.stays.length).2 := by
  simp only [Visitors.step]
  rcases visitors.turnstile.arrive_cases visitors.stays.length with ⟨-, told⟩ | ⟨_, -, -, told⟩ | ⟨-, -, told⟩
  · rw [told]
    exact Turnstile.leave_of_outside orderly.outside_next
  all_goals rw [told]; rfl

end Visitors

namespace Rehearsal

/-- The turnstile of the visitors is that of the scene, with their tickets for their names. -/
structure Hosted (scene : Scene) (ticket : Nat → Nat) (visitors : Visitors Unit) : Prop where
  places : scene.places = visitors.turnstile.rename ticket
  rising : ∀ first later, first < later → later < visitors.stays.length → ticket first < ticket later
  given : ∀ visitor < visitors.stays.length, ticket visitor < scene.nextId

namespace Hosted

variable {scene later : Scene} {ticket : Nat → Nat} {visitors : Visitors Unit} {places visitor : Nat}

private theorem injective (hosted : Hosted scene ticket visitors) {first second : Nat}
    (came : first < visitors.stays.length) (too : second < visitors.stays.length)
    (same : ticket first = ticket second) : first = second := by
  rcases Nat.lt_trichotomy first second with before | is | after
  · have := hosted.rising first second before too
    omega
  · exact is
  · have := hosted.rising second first after came
    omega

private theorem names (hosted : Hosted scene ticket visitors) (orderly : visitors.Orderly places)
    (came : visitor < visitors.stays.length) : visitors.turnstile.Names ticket visitor := by
  intro other member same
  refine hosted.injective ?_ came same
  rcases List.mem_append.mp member with inside | line
  · exact orderly.arrived_of_inside inside
  · exact orderly.arrived_of_line line

/-- The visitors go on, and none comes. -/
private theorem stayed {after : Visitors Unit} (hosted : Hosted scene ticket visitors)
    (places : later.places = after.turnstile.rename ticket) (same : after.stays.length = visitors.stays.length)
    (more : scene.nextId ≤ later.nextId) : Hosted later ticket after where
  places := places
  rising := fun first second before came => hosted.rising first second before (same ▸ came)
  given := fun visitor came => Nat.lt_of_lt_of_le (hosted.given visitor (same ▸ came)) more

theorem left (hosted : Hosted scene ticket visitors) (orderly : visitors.Orderly places) (given : Nat) :
    ∃ moves, Hosted { scene with places := scene.places.leave given } ticket (visitors.runFrom moves) := by
  by_cases known : ∃ visitor, ticket visitor = given ∧
      (visitors.stays[visitor]? = some .waiting ∨ visitors.stays[visitor]? = some .working)
  · obtain ⟨visitor, rfl, here⟩ := known
    have came : visitor < visitors.stays.length := by
      rcases here with here | here <;> exact (List.getElem?_eq_some_iff.mp here).1
    have goes (stay : Stay Unit) :
        Hosted { scene with places := scene.places.leave (ticket visitor) } ticket (visitors.depart visitor stay) := by
      refine hosted.stayed ?_ List.length_set (Nat.le_refl _)
      rw [hosted.places, Turnstile.leave_rename (hosted.names orderly came)]
      rfl
    rcases here with waits | works
    · exact ⟨[.abandon visitor], by simpa [Visitors.step, waits] using goes .abandoned⟩
    · exact ⟨[.finish visitor (.ok ())], by simpa [Visitors.step, works] using goes (.over (.ok ()))⟩
  · have out : scene.places.Outside given := by
      rw [hosted.places]
      constructor
      · intro inside
        obtain ⟨visitor, member, is⟩ := List.mem_map.mp inside
        exact known ⟨visitor, is, orderly.present visitor member⟩
      · intro line
        obtain ⟨visitor, member, is⟩ := List.mem_map.mp line
        exact known ⟨visitor, is, .inl (orderly.standing visitor member)⟩
    exact ⟨[], by rw [Turnstile.leave_of_outside out]; exact hosted⟩

theorem asked (hosted : Hosted scene ticket visitors) (orderly : visitors.Orderly places) (given : Nat) :
    ∃ moves, Hosted { scene with places := (scene.places.ask given).2 } ticket (visitors.runFrom moves) := by
  rcases scene.places.ask_cases given with ⟨-, told⟩ | ⟨opened, -, told⟩ | ⟨opened, -, told⟩
  · rw [told]
    exact hosted.left orderly given
  all_goals
    rw [told]
    by_cases known : ∃ visitor, ticket visitor = given
    · obtain ⟨visitor, rfl⟩ := known
      rw [hosted.places] at opened
      obtain ⟨same, many⟩ := Visitors.ask_of_open opened visitor
      exact ⟨[.ask visitor], hosted.stayed (by rw [hosted.places, ← same]; rfl) many (Nat.le_refl _)⟩
    · exact ⟨[], hosted⟩

theorem arrived (hosted : Hosted scene ticket visitors) (orderly : visitors.Orderly places) :
    ∃ ticket, Hosted { scene with
      places := (scene.places.arrive scene.nextId).2, nextId := scene.nextId + 1 } ticket (visitors.step .arrive) := by
  let ticket' (visitor : Nat) : Nat := if visitor = visitors.stays.length then scene.nextId else ticket visitor
  have old {visitor : Nat} (came : visitor < visitors.stays.length) : ticket visitor = ticket' visitor :=
    (if_neg (Nat.ne_of_lt came)).symm
  have new : scene.nextId = ticket' visitors.stays.length := (if_pos rfl).symm
  have renamed : visitors.turnstile.rename ticket = visitors.turnstile.rename ticket' := by
    refine Turnstile.rename_congr fun visitor member => old ?_
    exact (List.mem_append.mp member).elim orderly.arrived_of_inside orderly.arrived_of_line
  have stays : (visitors.step .arrive).stays.length = visitors.stays.length + 1 := by simp [Visitors.step]
  refine ⟨ticket', ?_, fun first second before came => ?_, fun visitor came => ?_⟩
  · show (scene.places.arrive scene.nextId).2 = _
    rw [orderly.turnstile_arrive, hosted.places, renamed, new, Turnstile.arrive_rename]
  · rw [stays] at came
    have early : first < visitors.stays.length := by omega
    rw [← old early]
    by_cases is : second = visitors.stays.length
    · rw [is, ← new]
      exact hosted.given first early
    · have came : second < visitors.stays.length := by omega
      rw [← old came]
      exact hosted.rising first second before came
  · rw [stays] at came
    show ticket' visitor < scene.nextId + 1
    by_cases is : visitor = visitors.stays.length
    · rw [is, ← new]
      exact Nat.lt_succ_self _
    · have came : visitor < visitors.stays.length := by omega
      rw [← old came]
      exact Nat.lt_succ_of_lt (hosted.given visitor came)

theorem shift (hosted : Hosted scene ticket visitors) (orderly : visitors.Orderly places) (shift : Shift scene later) :
    ∃ moves ticket, Hosted later ticket (visitors.runFrom moves) := by
  cases shift with
  | arrived =>
      obtain ⟨ticket, hosted⟩ := hosted.arrived orderly
      exact ⟨[.arrive], ticket, hosted⟩
  | asked given =>
      obtain ⟨moves, hosted⟩ := hosted.asked orderly given
      exact ⟨moves, ticket, hosted⟩
  | left given =>
      obtain ⟨moves, hosted⟩ := hosted.left orderly given
      exact ⟨moves, ticket, hosted⟩
  | touched touch =>
      cases touch with
      | closed =>
          refine ⟨[.close], ticket, hosted.stayed ?_ rfl (Nat.le_refl _)⟩
          show scene.places.close = _
          rw [hosted.places]
          rfl
      | subscribed | took | dropped | shutDown => exact ⟨[], ticket, hosted.stayed hosted.places rfl (Nat.le_refl _)⟩
  | numbered | started => exact ⟨[], ticket, hosted.stayed hosted.places rfl (Nat.le_succ _)⟩
  | _ => exact ⟨[], ticket, hosted.stayed hosted.places rfl (Nat.le_refl _)⟩

theorem course {moves : List (VisitMove Unit)} (hosted : Hosted scene ticket (.run places moves))
    (course : Course scene later) : ∃ moves ticket, Hosted later ticket (.run places moves) := by
  induction course with
  | refl => exact ⟨moves, ticket, hosted⟩
  | tail _ shift ih =>
      obtain ⟨moves, ticket, hosted⟩ := ih
      obtain ⟨more, ticket, hosted⟩ := hosted.shift (Visitors.orderly_run places moves) shift
      exact ⟨moves ++ more, ticket, by rw [Visitors.run, Visitors.runFrom, List.foldl_append]; exact hosted⟩

end Hosted

namespace World.Reached

variable {world : World} {setting : Setting} {rules : List Rule} {steps : List Step}

theorem hosted (reached : Reached setting rules steps world) :
    ∃ moves ticket, Hosted world.scene ticket (.run (max setting.places 1) moves) := by
  have before : Hosted (beginning setting rules steps).scene id (.run (max setting.places 1) []) :=
    ⟨rfl, fun _ _ _ came => (Nat.not_lt_zero _ came).elim, fun _ came => (Nat.not_lt_zero _ came).elim⟩
  exact before.course reached.course

/-- In no rehearsal are more tasks admitted than there are places, and no place is lost. -/
theorem places_conserved (reached : Reached setting rules steps world) :
    world.stage.places.free + world.stage.places.inside.length = max setting.places 1 := by
  obtain ⟨moves, ticket, hosted⟩ := reached.hosted
  have places : world.stage.places = (Visitors.run (max setting.places 1) moves).turnstile.rename ticket :=
    hosted.places
  rw [places, Turnstile.rename, List.length_map]
  exact (Visitors.orderly_run (max setting.places 1) moves).balanced.conserved

end World.Reached

/-! Rehearsals of visits. -/

private theorem woven_now : Acting.Woven Acting.now := .act rfl fun _ => .done _

private theorem woven_sleep (time : Nat) : Acting.Woven (Acting.sleep time) := .act trivial fun _ => .done _

private theorem Visit.woven_perform (visit : Visit) : Acting.Woven visit.perform := by
  refine (woven_sleep _).bind fun _ => woven_now.bind fun arrived => ?_
  refine (Acting.woven_act (.enter (visit.patience.map (arrived + ·))) trivial).bind fun entry => ?_
  cases entry with
  | refused | gaveUp => exact woven_now.bind fun _ => .done _
  | admitted ticket =>
      refine woven_now.bind fun began => (Acting.woven_read _).bind fun free => ?_
      refine (Acting.woven_act (.pause visit.work _) trivial).bind fun finished => ?_
      exact .act trivial fun _ => woven_now.bind fun _ => .done _

private theorem woven_closing (time : Nat) : Acting.Woven (closing time) := by
  have tame (stage : Stage) : Stage.Tame stage { stage with places := stage.places.close } :=
    ⟨rfl, rfl, rfl, .single .closed⟩
  exact (woven_sleep _).bind fun _ => (Acting.woven_modify tame).bind fun _ => .done _

namespace World

variable {world : World} {places : Nat}

/-- The world in which all those programs are tasks. -/
def gather (world : World) (programs : List (Acting Shown)) : World :=
  programs.foldl (fun world program => (world.startTask program).2) world

private theorem orderly_startTask (orderly : world.scene.Orderly) {program : Acting Shown}
    (tame : program.Every StageAct.Tame) : (world.startTask program).2.scene.Orderly := by
  have younger (id : Nat) (owner : Option Nat) (member : (id, owner) ∈ world.kin) : id < world.nextId :=
    (orderly.younger id owner member).1
  rw [startTask, scene_wake, scene_addTask younger]
  exact orderly.joined nofun tame

private theorem stage_startTask (world : World) (program : Acting Shown) :
    (world.startTask program).2.stage = world.stage := by
  rw [startTask, wake_stage]
  rfl

private theorem orderly_gather {programs : List (Acting Shown)} (orderly : world.scene.Orderly)
    (tame : ∀ program ∈ programs, program.Every StageAct.Tame) :
    (world.gather programs).scene.Orderly ∧ (world.gather programs).stage = world.stage := by
  induction programs generalizing world with
  | nil => exact ⟨orderly, rfl⟩
  | cons program programs ih =>
      obtain ⟨later, same⟩ := ih (orderly_startTask orderly (tame program List.mem_cons_self))
        fun other member => tame other (List.mem_cons_of_mem program member)
      exact ⟨later, same.trans (world.stage_startTask program)⟩

private theorem turns_runOut (fuel : Nat) (world : World) : Relation.ReflTransGen Turn world (world.runOut fuel) := by
  induction fuel generalizing world with
  | zero => exact .refl
  | succ fuel ih =>
      unfold runOut
      split
      next later advanced => exact .head advanced (ih later)
      next => exact .refl

/-- The world of so many places before anyone comes. -/
def vacant (places : Nat) : World := start (.opening ⟨0, .usual, places⟩ [] places) (.done .done)

/-- The programs of the visits, and of whoever closes. -/
def visiting (visits : List Visit) (closes : Option Nat) : List (Acting Shown) :=
  visits.map Visit.perform ++ (closes.map closing).toList

/-- The visitors of a rehearsal of visits are those of a run, at every turn. -/
theorem hosted_of_gather {visits : List Visit} {closes : Option Nat}
    (turns : Relation.ReflTransGen Turn ((vacant places).gather (visiting visits closes)) world) :
    ∃ moves ticket, Hosted world.scene ticket (.run places moves) := by
  have tame : ∀ program ∈ visiting visits closes, program.Every StageAct.Tame := by
    intro program member
    rcases List.mem_append.mp member with visitor | closer
    · obtain ⟨visit, -, rfl⟩ := List.mem_map.mp visitor
      exact visit.woven_perform.tame
    · obtain ⟨time, -, rfl⟩ := Option.map_eq_some_iff.mp (Option.mem_toList.mp closer)
      exact (woven_closing time).tame
  have start : (vacant places).scene.Orderly := orderly_start _ trivial
  obtain ⟨orderly, same⟩ := orderly_gather start tame
  have before : Hosted ((vacant places).gather (visiting visits closes)).scene id (.run places []) := by
    refine ⟨?_, fun _ _ _ came => (Nat.not_lt_zero _ came).elim, fun _ came => (Nat.not_lt_zero _ came).elim⟩
    exact congrArg Stage.places same
  exact before.course (course_turns orderly turns)

private theorem free_rehearseVisits (places : Nat) (visits : List Visit) (closes : Option Nat) :
    (rehearseVisits places visits closes).free =
      (((vacant places).gather (visiting visits closes)).runOut turnFuel).stage.places.free := by
  have gathered (ids : List Nat) (world : World) :
      (visits.foldl (fun (known : List Nat × World) visit =>
        (known.1 ++ [(known.2.startTask visit.perform).1], (known.2.startTask visit.perform).2)) (ids, world)).2 =
          world.gather (visits.map Visit.perform) := by
    induction visits generalizing ids world with
    | nil => rfl
    | cons visit visits ih => exact ih _ _
  rw [visiting, gather, List.foldl_append, ← gather, ← gather, ← gathered []]
  cases closes <;> rfl

/-- The free places that a rehearsal of visits reports are those after a run of visitors. -/
theorem rehearseVisits_hosted (places : Nat) (visits : List Visit) (closes : Option Nat) :
    ∃ moves : List (VisitMove Unit),
      (rehearseVisits places visits closes).free = (Visitors.run places moves).turnstile.free := by
  let last := ((vacant places).gather (visiting visits closes)).runOut turnFuel
  obtain ⟨moves, ticket, hosted⟩ : ∃ moves ticket, Hosted last.scene ticket (.run places moves) :=
    hosted_of_gather (turns_runOut turnFuel _)
  have same : last.stage.places = (Visitors.run places moves).turnstile.rename ticket := hosted.places
  refine ⟨moves, (free_rehearseVisits places visits closes).trans ?_⟩
  show last.stage.places.free = _
  rw [same]
  rfl

end World

end Rehearsal

end RemoteDom
