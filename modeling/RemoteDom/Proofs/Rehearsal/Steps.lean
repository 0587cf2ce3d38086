import RemoteDom.Proofs.Dom.Errands
import RemoteDom.Proofs.Rehearsal.Scenes

/-! The programs of steps: they change the stage in tame ways only, and attach and detach by whole errands. -/

namespace RemoteDom.Rehearsal

/-- The act leaves the sessions alone, and what it changes of the stage it only touches. -/
def StageAct.Plain : StageAct → Prop
  | .client act => act.isPlain = true
  | .change effect => ∀ stage, Stage.Tame stage (effect stage).2
  | _ => True

private theorem Stage.tame_refl (stage : Stage) : Stage.Tame stage stage := ⟨rfl, rfl, rfl, .refl⟩

namespace Acting

/-- The program of a client as a task runs it. -/
def ofClient {α : Type} (program : ClientProgram α) : Acting α := program.within .client fun _ answer => answer

def errand (which : Errand) : Acting (Except Error (Option Session)) := ofClient which.program

def Woven {α : Type} (program : Acting α) : Prop := Program.Woven StageAct.Plain errand program

variable {α β : Type} {program : Acting α}

theorem Woven.bind {next : α → Acting β} (first : Woven program) (onward : ∀ value, Woven (next value)) :
    Woven (program >>= next) := Program.Woven.bind first onward

theorem Woven.map (change : α → β) (woven : Woven program) : Woven (change <$> program) :=
  woven.bind fun _ => .done _

theorem woven_pure (value : α) : Woven (pure value) := .done value

theorem woven_act (act : StageAct) (plain : act.Plain) : Woven (.act act .done) := .act plain fun _ => .done _

private theorem woven_browse {operation : Browsing α} (woven : operation.Woven) : Woven (browse operation) :=
  Program.Woven.within woven (fun _ plain => plain) _

private theorem woven_change {effect : Stage → α × Stage} (tame : ∀ stage, Stage.Tame stage (effect stage).2) :
    Woven (change effect) := woven_act _ tame

theorem woven_modify {effect : Stage → Stage} (tame : ∀ stage, Stage.Tame stage (effect stage)) :
    Woven (modify effect) := woven_change tame

theorem woven_read (view : Stage → α) : Woven (read view) := woven_change Stage.tame_refl

theorem Woven.holding (woven : Woven program) : Woven (holding program) :=
  .act trivial fun _ => woven.bind fun _ => .act trivial fun _ => .done _

end Acting

/-! What steps do to the stage at once. -/

private theorem tame_of_touch {before after : Stage} (table : after.table = before.table)
    (attachTurn : after.attachTurn = before.attachTurn) (connected : after.connected = before.connected)
    (touch : Touch before.connection before.places after.connection after.places) : Stage.Tame before after :=
  ⟨table, attachTurn, connected, .single touch⟩

private theorem tame_shutDown (stage : Stage) : Stage.Tame stage (shutDown stage) :=
  tame_of_touch rfl rfl rfl .shutDown

private theorem touches_drain (connection : Connection) (places : Turnstile) (id count : Nat) :
    Touches (connection, places) ({ connection with streams := (drain connection.streams id count).2.2 }, places) := by
  induction count generalizing connection with
  | zero => exact .refl
  | succ count ih =>
      have took : Touch connection places { connection with streams := (connection.streams.take id).2 } places :=
        .took id
      unfold drain
      rcases taken : connection.streams.take id with ⟨event | _ | _, streams⟩
      all_goals rw [taken] at took
      · exact .head took (ih { connection with streams })
      · exact .single took
      · exact .single took

private theorem tame_askStream (stage : Stage) (name : String) (id : Nat) (request : StreamRequest) :
    Stage.Tame stage (askStream stage name id request).2 := by
  cases request with
  | next =>
      unfold askStream
      simp only
      have took : Touch stage.connection stage.places
        { stage.connection with streams := (stage.connection.streams.take id).2 } stage.places := .took id
      rcases taken : stage.connection.streams.take id with ⟨event | _ | _, streams⟩
      · rw [taken] at took
        exact tame_of_touch rfl rfl rfl took
      · exact stage.tame_refl
      · exact stage.tame_refl
  | drain =>
      let count := ((stage.connection.streams.get? id).map fun stream => stream.received.length).getD 0
      exact ⟨rfl, rfl, rfl, touches_drain stage.connection stage.places id (count + 1)⟩
  | drop => exact tame_of_touch rfl rfl rfl (.dropped id)
  | inspect => exact stage.tame_refl

/-! Operations that are shown, and objects that are kept. -/

namespace Acting

variable {α : Type} {operation : Browsing α}

private theorem woven_showing (woven : operation.Woven) (shown : α → Shown) : Woven (showing operation shown) :=
  (woven_browse woven).map _

private theorem tame_keepAll (stage : Stage) (name : String) (objects : List Object) :
    Stage.Tame stage (stage.keepAll name objects) := by
  unfold Stage.keepAll
  generalize objects.zipIdx = entries
  have same : ∀ entries : List (Object × Nat), ∀ later : Stage, Stage.Tame stage later →
      Stage.Tame stage (entries.foldl (fun stage entry => stage.keep (name ++ toString entry.2) entry.1) later) := by
    intro entries
    induction entries with
    | nil => exact fun _ tame => tame
    | cons entry entries ih => exact fun later tame => ih _ ⟨tame.table, tame.attachTurn, tame.connected, tame.touches⟩
  exact same entries stage stage.tame_refl

private theorem woven_keeping (name : Option String) (object : Object) : Woven (keeping name object) := by
  cases name with
  | none => exact .done _
  | some name =>
      have tame (stage : Stage) : Stage.Tame stage (stage.keep name object) := ⟨rfl, rfl, rfl, .refl⟩
      exact (woven_modify tame).bind fun _ => .done _

private theorem woven_keepingAll (name : Option String) (objects : List Object) : Woven (keepingAll name objects) := by
  cases name with
  | none => exact .done _
  | some name => exact (woven_modify fun stage => tame_keepAll stage name objects).bind fun _ => .done _

private theorem woven_making {operation : Browsing Object} (woven : operation.Woven) (name : Option String) :
    Woven (making name operation) := by
  refine (woven_browse woven).bind fun outcome => ?_
  cases outcome with
  | ok object => exact woven_keeping name object
  | error error => exact .done _

private theorem woven_makingAll {operation : Browsing (List Object)} (woven : operation.Woven) (name : Option String) :
    Woven (makingAll name operation) := by
  refine (woven_browse woven).bind fun outcome => ?_
  cases outcome with
  | ok objects => exact woven_keepingAll name objects
  | error error => exact .done _

end Acting

open Acting

private theorem woven_askElement {element : Element} {keep : Option String} {request : Request} {program : Acting Shown}
    (asked : askElement element keep request = some program) : Woven program := by
  cases request <;> cases asked
  case describe => exact woven_showing element.woven_describe _
  case backendId => exact woven_showing element.woven_backendId _
  case tagName => exact woven_showing (element.woven_described _) _
  case text => exact woven_showing element.woven_text _
  case outerMarkup => exact woven_showing element.woven_outerMarkup _
  case attributes => exact woven_showing (element.woven_described _) _
  case «attribute» name => exact woven_showing (element.woven_described _) _
  case isFrame => exact woven_showing (element.woven_described _) _
  case boxModel => exact woven_showing element.woven_boxModel _
  case boundingBox => exact woven_showing element.woven_boundingBox _
  case scroll => exact woven_showing element.woven_scrollIntoView _
  case click button => exact woven_showing (element.woven_click button) _
  case shadowRoots => exact woven_makingAll (element.woven_shadowRoots.map _) _
  case shadowRoot => exact woven_making ((element.woven_firstRoot _).map _) _
  case userAgentShadowRoot => exact woven_making ((element.woven_firstRoot _).map _) _
  case waitForShadowRoot patience => exact woven_making ((element.woven_waitForShadowRoot _).map _) _
  case contentScope => exact woven_making (element.woven_contentScope.map _) _
  case host => exact woven_keeping _ _

private theorem woven_askPage {page : Page} {keep : Option String} {request : Request} {program : Acting Shown}
    (asked : askPage page keep request = some program) : Woven program := by
  cases request <;> cases asked
  case evaluate expression => exact woven_showing (page.woven_evaluate expression) _
  case document => exact woven_making (page.woven_document.map _) _

private theorem woven_askAny {object : Object} {keep : Option String} {request : Request} {program : Acting Shown}
    (asked : askAny object keep request = some program) : Woven program := by
  cases request <;> cases asked
  case query locator all => exact woven_makingAll ((Scope.woven_query _ locator all).map _) _
  case find locator => exact woven_making ((Scope.woven_find _ locator).map _) _
  case waitFor locator patience => exact woven_making ((Scope.woven_waitFor _ locator _).map _) _
  case check | patience | inspect => exact .done _
  case scope | itself | inSession => exact woven_keeping _ _
  case execute command => exact woven_showing (Browsing.woven_execute _ command) _
  case resolve backend => exact woven_showing (Context.woven_resolve _ backend) _
  case describeReference reference depth => exact woven_showing (Context.woven_describe _ reference depth) _

private theorem woven_askObject {object : Object} {keep : Option String} {request : Request} {program : Acting Shown}
    (asked : askObject object keep request = some program) : Woven program := by
  rcases Option.or_eq_some_iff.mp asked with any | ⟨-, asked⟩
  · exact woven_askAny any
  · rcases Option.or_eq_some_iff.mp asked with own | ⟨-, asked⟩
    · split at own
      · exact woven_askPage own
      · cases request <;> cases own
        exact woven_showing (ShadowRoot.woven_innerMarkup _) _
      · cases own
    · obtain ⟨element, -, asked⟩ := Option.bind_eq_some_iff.mp asked
      exact woven_askElement asked

private theorem woven_askClient (keep : Option String) (request : ClientRequest) : Woven (askClient keep request) := by
  cases request with
  | targets => exact woven_showing Browsing.woven_targets _
  | attachPage target =>
      exact (woven_read _).bind fun patience => woven_making ((Page.woven_attach target patience).map _) _
  | attach target parent => exact woven_showing (Browsing.woven_attach target parent) _
  | detach session => exact woven_showing (Browsing.woven_detach session) _
  | session | sessionForTarget | limits | inspect => exact woven_read _
  | defaultSession => exact .done _
  | send session command deadline => exact (woven_act (.send session command deadline) trivial).map _
  | close =>
      have tame (stage : Stage) : Stage.Tame stage (shutDown { stage with places := stage.places.close }) :=
        ⟨rfl, rfl, rfl, .head (b := (stage.connection, stage.places.close)) .closed (.single .shutDown)⟩
      exact (woven_modify tame).bind fun _ => .done _
  | shutdown => exact (woven_modify tame_shutDown).bind fun _ => .done _
  | subscribe method session =>
      refine (woven_modify fun stage => ?_).bind fun _ => .done _
      exact tame_of_touch rfl rfl rfl (.subscribed method session)

private theorem woven_joinAll (tasks : List Nat) : Woven (joinAll tasks) := by
  induction tasks with
  | nil => exact .done _
  | cons task rest ih => exact (woven_act (.join task) trivial).bind fun _ => ih.bind fun _ => .done _

private theorem woven_withClient {program : Acting Shown} (woven : Woven program) : Woven (withClient program) := by
  refine (woven_read _).bind fun held => ?_
  split
  · exact woven
  · exact .done _

private theorem tame_emit (packet : Packet) (stage : Stage) :
    Stage.Tame stage (if stage.browsing then stage.addPacket packet else stage) := by
  split
  · exact ⟨rfl, rfl, rfl, .refl⟩
  · exact stage.tame_refl

theorem woven_perform : (step : Step) → Woven (perform step)
  | .object receiver request keep => by
      refine (woven_read _).bind fun object => ?_
      split
      next asked found =>
        obtain ⟨object, -, asked⟩ := Option.bind_eq_some_iff.mp found
        exact (woven_askObject asked).holding
      next => exact .done _
  | .client request keep => woven_withClient (woven_askClient keep request).holding
  | .stream name request => woven_change fun stage => by
      split
      next id _ => exact tame_askStream stage name id request
      next => exact stage.tame_refl
  | .newer _ _ | .same _ _ => woven_read _
  | .run step => by
      refine woven_withClient (Woven.holding ((woven_act (.enter none) trivial).bind fun entry => ?_))
      split
      next ticket =>
        refine (woven_read _).bind fun free => (woven_perform step).bind fun shown => ?_
        exact .act trivial fun _ => .done _
      next => exact .done _
  | .all steps => ((woven_act (.spread steps) trivial).bind fun tasks => (woven_joinAll tasks).map _)
  | .start step name => by
      refine (woven_act (.spawn step) trivial).bind fun task => ?_
      have tame (stage : Stage) : Stage.Tame stage { stage with tasks := (name, task) :: stage.tasks } :=
        ⟨rfl, rfl, rfl, .refl⟩
      exact (woven_modify tame).bind fun _ => .done _
  | .join name => by
      refine (woven_read _).bind fun found => ?_
      split
      · exact .done _
      · have tame (stage : Stage) :
            Stage.Tame stage { stage with tasks := stage.tasks.filter fun entry => entry.1 != name } :=
          ⟨rfl, rfl, rfl, .refl⟩
        exact (woven_modify tame).bind fun _ => (woven_act (.join _) trivial).bind fun _ => .done _
  | .abort name => by
      refine (woven_read _).bind fun found => ?_
      split
      · exact .done _
      · exact .act trivial fun _ => .done _
  | .emit packet => (woven_modify (tame_emit packet)).bind fun _ => .done _
  | .breakWrites => by
      have tame (stage : Stage) : Stage.Tame stage { stage with writable := false } := ⟨rfl, rfl, rfl, .refl⟩
      exact (woven_modify tame).bind fun _ => .done _
  | .sleep milliseconds => .act trivial fun _ => .done _
  | .dropClient => by
      have tame (stage : Stage) : Stage.Tame stage { stage with clientHeld := false, objects := [] } :=
        ⟨rfl, rfl, rfl, .refl⟩
      exact (woven_modify tame).bind fun _ => .done _

theorem woven_rehearse (steps : List Step) : Woven (rehearse steps) := by
  induction steps with
  | nil => exact .done _
  | cons step rest ih =>
      refine Woven.bind (.act rfl fun _ => .done _ : Woven now) fun start => (woven_perform step).bind fun shown => ?_
      refine Woven.bind (.act rfl fun _ => .done _ : Woven now) fun stop => ?_
      have reported (stage : Stage) : Stage.Tame stage (stage.report shown (stop - start)) := ⟨rfl, rfl, rfl, .refl⟩
      exact .act trivial fun _ => (woven_modify reported).bind fun _ => ih

/-- What is left of such a program in the midst of an errand is tame, too. -/
theorem Acting.Woven.tame {α : Type} {program : Acting α} (woven : Woven program) : program.Every StageAct.Tame := by
  have client {β : Type} (program : ClientProgram β) : (ofClient program).Every StageAct.Tame := by
    induction program with
    | done value => trivial
    | act act next ih => exact ⟨trivial, ih⟩
  refine Program.Woven.every woven (fun act plain => ?_) fun which => client which.program
  cases act with
  | change effect => exact plain
  | _ => trivial

end RemoteDom.Rehearsal
