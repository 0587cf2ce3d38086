import RemoteDom.Dom.Element
import RemoteDom.Rehearsal.Inspect
import RemoteDom.Rehearsal.Stage

/-! How each step of a rehearsal is performed, as a program of a task. -/

namespace RemoteDom.Rehearsal

open Acting

def shownOr {α : Type} (shown : α → Shown) : Except Error α → Shown
  | .ok value => shown value
  | .error error => .failure error

/-- Performs an operation of the client and shows what it gives. -/
def showing {α : Type} (operation : Browsing α) (shown : α → Shown) : Acting Shown :=
  shownOr shown <$> browse operation

def keeping (name : Option String) (object : Object) : Acting Shown := do
  if let some name := name then modify fun stage => stage.keep name object
  pure (.object object)

def keepingAll (name : Option String) (objects : List Object) : Acting Shown := do
  if let some name := name then modify fun stage => stage.keepAll name objects
  pure (.list (objects.map .object))

def making (name : Option String) (operation : Browsing Object) : Acting Shown := do
  match ← browse operation with
  | .ok object => keeping name object
  | .error error => pure (.failure error)

def makingAll (name : Option String) (operation : Browsing (List Object)) : Acting Shown := do
  match ← browse operation with
  | .ok objects => keepingAll name objects
  | .error error => pure (.failure error)

def textValue (text : String) : Shown := .value (.string text)

def askElement (element : Element) (keep : Option String) : Request → Option (Acting Shown)
  | .describe => some (showing element.describe .node)
  | .backendId => some (showing element.backendId fun id => .number id.number)
  | .tagName => some (showing element.tagName textValue)
  | .text => some (showing element.text textValue)
  | .outerMarkup => some (showing element.outerMarkup textValue)
  | .attributes => some (showing element.attributes .pairs)
  | .attribute name =>
      some (showing (element.attribute? name) fun value => .value ((value.map Json.string).getD .null))
  | .isFrame => some (showing element.isFrame .flag)
  | .boxModel => some (showing element.boxModel .boxModel)
  | .boundingBox => some (showing element.boundingBox .rect)
  | .scroll => some (showing element.scrollIntoView fun _ => .done)
  | .click button => some (showing (element.click button) fun _ => .done)
  | .shadowRoots =>
      some (makingAll keep (List.map Object.root <$> element.shadowRoots))
  | .shadowRoot => some (making keep (.root <$> element.shadowRoot))
  | .userAgentShadowRoot => some (making keep (.root <$> element.userAgentShadowRoot))
  | .waitForShadowRoot patience =>
      some (making keep
        (.root <$> element.waitForShadowRoot (patience.getD element.context.patience)))
  | .contentScope => some (making keep (.scope <$> element.contentScope))
  | .host => some (keeping keep (.element element))
  | _ => none

def askPage (page : Page) (keep : Option String) : Request → Option (Acting Shown)
  | .evaluate expression => some (showing (page.evaluate expression) .value)
  | .document => some (making keep (.element <$> page.document))
  | _ => none

def askAny (object : Object) (keep : Option String) : Request → Option (Acting Shown)
  | .query locator all =>
      some (makingAll keep (List.map Object.element <$> object.toScope.query locator all))
  | .find locator => some (making keep (.element <$> object.toScope.find locator))
  | .waitFor locator patience =>
      some (making keep
        (.element <$> object.toScope.waitFor locator (patience.getD object.context.patience)))
  | .check locator =>
      some (pure (shownOr (fun _ => .done) (object.toScope.check locator.dialect)))
  | .scope => some (keeping keep (.scope object.toScope))
  | .itself => some (keeping keep object)
  | .patience => some (pure (.patience object.context.patience))
  | .inSession session => some (keeping keep (.page ⟨object.context.inSession session, none⟩))
  | .execute command =>
      some (showing (Browsing.execute object.context.session command) .value)
  | .resolve backend =>
      some (showing (object.context.resolve backend) fun handle => textValue handle.text)
  | .describeReference reference depth =>
      some (showing (object.context.describe reference depth) .node)
  | .inspect =>
      some (pure (.inspected (inspectObject object) (inspectScope object.toScope)
        (inspectContext object.context)))
  | _ => none

def askRoot (root : ShadowRoot) : Request → Option (Acting Shown)
  | .innerMarkup => some (showing root.innerMarkup textValue)
  | _ => none

/-- What an object does when it is asked, if it is an object of the right kind. -/
def askObject (object : Object) (keep : Option String) (request : Request) : Option (Acting Shown) :=
  let own :=
    match object with
    | .page page => askPage page keep request
    | .root root => askRoot root request
    | _ => none
  (askAny object keep request).or
    (own.or (object.element?.bind fun element => askElement element keep request))

def inspectClientOf (stage : Stage) : Shown :=
  let connection := inspectConnection stage.connection.pendingCount stage.connection.closed
  .inspectedClient (inspectClient stage.table.size (max stage.setting.places 1))
    (inspectSessions stage.table.size connection) connection

/-- Asks the connection to stop, if it still listens. -/
def shutDown (stage : Stage) : Stage :=
  { stage with connection := (stage.connection.enqueue .shutdown).getD stage.connection }

def askClient (keep : Option String) : ClientRequest → Acting Shown
  | .targets => showing Browsing.targets .targets
  | .attachPage target => do
      let patience ← read fun stage => stage.setting.patience
      making keep (.page <$> Page.attach target patience)
  | .attach target parent =>
      showing (Browsing.attach target parent) fun session => .session (some session)
  | .detach session => showing (Browsing.detach session) fun _ => .done
  | .session session => read fun stage => .session (stage.table.session? session)
  | .sessionForTarget target => read fun stage => .session (stage.table.forTarget? target)
  | .defaultSession => pure (.session (some .topLevel))
  | .send session command deadline =>
      shownOr .value <$> (.act (.send session command deadline) .done : Acting _)
  | .limits =>
      read fun stage =>
        .limits (max stage.setting.places 1) stage.places.free stage.setting.deadline
          stage.setting.places
  | .close => do
      modify fun stage => shutDown { stage with places := stage.places.close }
      pure .done
  | .shutdown => do
      modify shutDown
      pure .done
  | .inspect => read inspectClientOf
  | .subscribe method session => do
      modify fun stage =>
        let (id, streams) := stage.connection.streams.subscribe method session
        { stage with
          connection := { stage.connection with streams }
          streams := (keep.getD "", id) :: stage.streams }
      pure (.word method)

/-- Takes all that a stream has to give, and tells whether it has ended. -/
def drain (streams : Streams) (id : Nat) : Nat → List Event × Bool × Streams
  | 0 => ([], false, streams)
  | count + 1 =>
      match streams.take id with
      | (.event event, streams) =>
          let (events, ended, streams) := drain streams id count
          (event :: events, ended, streams)
      | (.pending, streams) => ([], false, streams)
      | (.ended, streams) => ([], true, streams)

def setStreams (stage : Stage) (streams : Streams) : Stage :=
  { stage with connection := { stage.connection with streams } }

def askStream (stage : Stage) (name : String) (id : Nat) : StreamRequest → Shown × Stage
  | .next =>
      match stage.connection.streams.take id with
      | (.event event, streams) => (.event event, setStreams stage streams)
      | (.pending, _) => (.word "pending", stage)
      | (.ended, _) => (.word "ended", stage)
  | .drain =>
      let count := ((stage.connection.streams.get? id).map fun s => s.received.length).getD 0
      let (events, ended, streams) := drain stage.connection.streams id (count + 1)
      (.drained events ended, setStreams stage streams)
  | .drop =>
      (.flag true,
        { setStreams stage (stage.connection.streams.drop id) with
          streams := stage.streams.filter fun entry => entry.1 != name })
  | .inspect =>
      (.word (inspectStream (((stage.connection.streams.get? id).map Stream.method).getD "")), stage)

def askNoStream (name : String) : StreamRequest → Shown
  | .drop => .flag false
  | _ => .absent name

/-- Contexts are the same if they lead to the same session of the same client, however patient they are. -/
def sameContext (first second : Context) : Bool :=
  first.session == second.session && first.client == second.client

def sameElement (first second : Object) : Option Bool :=
  match first, second with
  | .element a, .element b => some (a.handle == b.handle && sameContext a.context b.context)
  | _, _ => none

def compare (first second : Object) : Shown :=
  let context := sameContext first.context second.context
  .sameness context (context && first.toScope.extent == second.toScope.extent)
    (sameElement first second)

/-- Performs a step, unless it needs the client and there is none. -/
def withClient (step : Acting Shown) : Acting Shown := do
  if ← read Stage.clientHeld then step else pure (.absent "client")

def joinAll : List Nat → Acting (List Shown)
  | [] => pure []
  | task :: rest => do
      let shown ← (.act (.join task) .done : Acting (Option Shown))
      let others ← joinAll rest
      pure (shown.getD (.word "cancelled") :: others)

def perform : Step → Acting Shown
  | .object receiver request keep => do
      match (← read fun stage => stage.object? receiver).bind fun object =>
        askObject object keep request with
      | some asked => holding asked
      | none => pure (.absent receiver)
  | .client request keep => withClient (holding (askClient keep request))
  | .stream name request => change fun stage =>
      match stage.streams.lookup name with
      | some id => askStream stage name id request
      | none => (askNoStream name request, stage)
  | .newer first second => read fun stage =>
      match stage.streams.lookup first, stage.streams.lookup second with
      | some a, some b => .order (b < a) (a == b)
      | _, _ => .absent "a or b"
  | .same first second => read fun stage =>
      match stage.objects.lookup first, stage.objects.lookup second with
      | some a, some b => compare a b
      | _, _ => .absent "a or b"
  | .run step => withClient <| holding do
      match ← (.act (.enter none) .done : Acting Entry) with
      | .admitted ticket =>
          let free ← read fun stage => stage.places.free
          let shown ← perform step
          .act (.leave ticket) fun _ => pure (.ran free shown)
      | _ => pure (.failure .connectionClosed)
  | .all steps => do
      let tasks ← (.act (.spread steps) .done : Acting (List Nat))
      .list <$> joinAll tasks
  | .start step name => do
      let task ← (.act (.spawn step) .done : Acting Nat)
      modify fun stage => { stage with tasks := (name, task) :: stage.tasks }
      pure (.word "started")
  | .join name => do
      match ← read fun stage => stage.tasks.lookup name with
      | none => pure (.absent name)
      | some task =>
          modify fun stage =>
            { stage with tasks := stage.tasks.filter fun entry => entry.1 != name }
          let shown ← (.act (.join task) .done : Acting (Option Shown))
          pure (shown.getD (.word "cancelled"))
  | .abort name => do
      match ← read fun stage => stage.tasks.lookup name with
      | none => pure .done
      | some task => .act (.abort task) fun _ => pure .done
  | .emit packet => do
      modify fun stage => if stage.browsing then stage.addPacket packet else stage
      pure .done
  | .breakWrites => do
      modify fun stage => { stage with writable := false }
      pure .done
  | .sleep milliseconds => do
      sleep milliseconds
      pure .done
  | .dropClient => do
      modify fun stage => { stage with clientHeld := false, objects := [] }
      pure .done

/-- After a step a millisecond passes, so that all that is in flight arrives. -/
def settle : Acting Unit := sleep 1

/-- Performs steps one after another and reports on each. -/
def rehearse : List Step → Acting Shown
  | [] => pure .done
  | step :: rest => do
      let start ← now
      let shown ← perform step
      let stop ← now
      settle
      modify fun stage => stage.report shown (stop - start)
      rehearse rest

end RemoteDom.Rehearsal
