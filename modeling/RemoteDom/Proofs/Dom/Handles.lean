import RemoteDom.Proofs.Dom.Provenance

/-! What each operation sends and gives. All commands of an operation are routed if the session of its
receiver delivered the receiver's handle, and the same holds then of all that the operation gives. -/

namespace RemoteDom

variable {past : List Happening}

def Element.Known (past : List Happening) (element : Element) : Prop :=
  Delivered past element.context.session element.reference

def Scope.Known (past : List Happening) (scope : Scope) : Prop :=
  ∀ handle, scope.extent.handle? = some handle → Delivered past scope.context.session (.object handle)

structure ShadowRoot.Known (past : List Happening) (root : ShadowRoot) : Prop where
  host : root.host.Known past
  handle : Delivered past root.context.session (.object root.handle)
  backend : Delivered past root.context.session (.backend root.backend)

theorem Element.Known.mono {element : Element} {later : List Happening} (known : element.Known past)
    (longer : past <+: later) : element.Known later := Delivered.mono known longer

theorem Scope.Known.mono {scope : Scope} {later : List Happening} (known : scope.Known past)
    (longer : past <+: later) : scope.Known later := fun handle same => (known handle same).mono longer

theorem ShadowRoot.Known.mono {root : ShadowRoot} {later : List Happening} (known : root.Known past)
    (longer : past <+: later) : root.Known later :=
  ⟨known.host.mono longer, known.handle.mono longer, known.backend.mono longer⟩

private theorem routed_of_nameless {session : SessionId} {command : Command}
    (nameless : command.references = []) : Routed past (.request session command) := by
  intro reference inside
  simpa [nameless] using Command.references_of_named inside

private theorem routed_of_sole {session : SessionId} {command : Command} {reference : NodeRef}
    (sole : command.references = [reference]) (known : Delivered past session reference) :
    Routed past (.request session command) := by
  intro other inside
  have same : other = reference := by simpa [sole] using Command.references_of_named inside
  exact same ▸ known

namespace Context

variable {context : Context}

theorem heeds_describe {reference : NodeRef} (known : Delivered past context.session reference)
    (depth : Int) :
    Heeds Routed (fun later node => ∀ backend ∈ node.backends, Delivered later context.session (.backend backend))
      (context.describe reference depth) past := by
  have told {command : Command} (asks : ∀ answer, command.delivered answer =
      (((Node.ofDescribed? answer).map Node.backends).getD []).map .backend) (answer : Json) (node : Node)
      (read : Node.ofDescribed? answer = some node) (backend : BackendId)
      (member : backend ∈ node.backends) :
      Delivered (past ++ [⟨.request context.session command, .ok answer⟩]) context.session
        (.backend backend) :=
    delivered_append (by simpa [asks, read] using member) past context.session
  cases reference with
  | object handle =>
      exact (heeds_call (routed_of_sole rfl known) (told fun _ => rfl)).about _
  | backend id =>
      exact (heeds_call (routed_of_sole rfl known) (told fun _ => rfl)).about _

private theorem heeds_resolve {backend : BackendId} (known : Delivered past context.session (.backend backend)) :
    Heeds Routed (fun later handle => Delivered later context.session (.object handle))
      (context.resolve backend) past := by
  refine Heeds.bind (Heeds.about (?_ : Heeds Routed (fun later object => ∀ handle, object.handle = some handle →
    Delivered later context.session (.object handle)) _ past) _) ?_
  · refine heeds_call (routed_of_sole rfl known) fun answer object read handle same => ?_
    exact delivered_append (by simp [Command.delivered, read, same]) past context.session
  · intro object later longer held
    cases found : object.handle with
    | none => exact heeds_throw _
    | some handle => exact heeds_pure (held handle found)

end Context

namespace Browsing

private theorem heeds_targets : Heeds Routed (fun _ _ => True) targets past :=
  heeds_call (routed_of_nameless rfl) fun _ _ _ => trivial

private theorem heeds_attachInTurn (target : TargetId) (parent : SessionId) :
    Heeds Routed (fun _ _ => True) (attachInTurn target parent) past := by
  refine Heeds.andThen (heeds_ask trivial fun _ => trivial) ?_
  intro known later longer
  cases known with
  | some session => exact heeds_pure trivial
  | none =>
      refine Heeds.andThen (heeds_call (routed_of_nameless rfl) fun _ _ _ => trivial) fun id _ _ => ?_
      refine Heeds.andThen (heeds_ask trivial fun _ => trivial) fun _ _ _ => ?_
      refine Heeds.andThen (heeds_ask trivial fun _ => trivial) ?_
      exact fun _ _ _ => heeds_pure trivial

theorem heeds_attach (target : TargetId) (parent : SessionId) :
    Heeds Routed (fun _ _ => True) (attach target parent) past := by
  refine Heeds.andThen (heeds_ask trivial fun _ => trivial) ?_
  intro known later longer
  cases known with
  | some session => exact heeds_pure trivial
  | none =>
      refine Heeds.andThen (heeds_ask trivial fun _ => trivial) fun _ _ _ => ?_
      refine (heeds_attachInTurn target parent).lift.bind fun outcome _ _ _ => ?_
      refine Heeds.andThen (heeds_ask trivial fun _ => trivial) fun _ _ _ => ?_
      exact heeds_outcome fun _ _ => trivial

end Browsing

namespace Element

variable {element : Element}

private theorem heeds_make {context : Context} {handle : Handle}
    (known : Delivered past context.session (.object handle)) :
    Heeds Routed (fun later element => element.Known later) (make handle context) past := by
  refine Heeds.andThen (heeds_ask trivial fun _ => trivial) ?_
  intro memo later longer
  exact heeds_pure (known.mono longer)

theorem heeds_describe (known : element.Known past) :
    Heeds Routed (fun later node =>
      ∀ backend ∈ node.backends, Delivered later element.context.session (.backend backend))
      element.describe past := by
  refine (Context.heeds_describe known 1).bind fun node later longer held => ?_
  cases node.backend with
  | none => exact heeds_pure held
  | some backend =>
      refine Heeds.andThen (heeds_ask trivial fun _ => trivial) ?_
      exact fun _ further beyond => heeds_pure fun other member => (held other member).mono beyond

private theorem heeds_documentHandle? (session : SessionId) :
    Heeds Routed (fun later found => ∀ handle, found = some handle → Delivered later session (.object handle))
      (documentHandle? session) past := by
  refine Heeds.bind (?_ : Heeds Routed (fun later evaluation => ∀ handle, evaluation.result.handle = some handle →
    Delivered later session (.object handle)) _ past) ?_
  · refine heeds_call (routed_of_nameless rfl) fun answer evaluation read handle same => ?_
    exact delivered_append (by simp [Command.delivered, read, same]) past session
  · intro evaluation later longer held
    cases evaluation.exception with
    | some exception => exact heeds_throw _
    | none => exact heeds_pure held

private theorem heeds_frameSession (owner : Element) (frame : FrameId) :
    Heeds Routed (fun _ _ => True) (owner.frameSession frame) past := by
  refine Heeds.andThen (heeds_ask trivial fun _ => trivial) ?_
  intro known later longer
  cases known with
  | some session => exact heeds_pure trivial
  | none =>
      refine Browsing.heeds_targets.bind fun targets further beyond _ => ?_
      split
      · exact Browsing.heeds_attach _ _
      · exact heeds_throw _

/-- The content of a frame in the same process is resolved where the owner lives. The content of any other
frame is asked for in the session of that frame, with nothing of the owner's named there. -/
theorem heeds_contentScope (known : element.Known past) :
    Heeds Routed (fun later scope => scope.Known later) element.contentScope past := by
  refine (heeds_describe known).bind fun node later longer held => ?_
  split
  · exact heeds_throw _
  split
  next document content =>
    split
    next backend named =>
      have told : backend ∈ node.backends := by simp [Node.backends, content, named]
      refine (Context.heeds_resolve (held backend told)).bind fun handle further beyond found => ?_
      exact heeds_pure fun other same => Option.some.inj same ▸ found
    next => exact heeds_throw _
  next =>
    split
    next => exact heeds_throw _
    next frame _ =>
      refine (heeds_frameSession element frame).bind fun session further beyond _ => ?_
      refine (heeds_documentHandle? session.id).bind fun found last ahead document => ?_
      cases found with
      | none => exact heeds_throw _
      | some handle => exact heeds_pure fun other same => document other same

end Element

private theorem RemoteObject.handle_of_present (object : RemoteObject) {handle : Handle}
    (present : object.presentHandle? = some handle) : object.handle = some handle := by
  unfold presentHandle? at present
  split at present
  · cases present
  · exact present

private theorem Property.exists_of_mem_items {properties : List Property} {handle : Handle}
    (member : handle ∈ items properties) :
    ∃ property ∈ properties, property.value.bind RemoteObject.handle = some handle := by
  obtain ⟨⟨place, object⟩, inside, rfl⟩ := List.mem_map.mp member
  rw [List.mem_mergeSort] at inside
  obtain ⟨property, among, item⟩ := List.mem_filterMap.mp inside
  simp only [item?, Option.bind_eq_bind, Option.bind_eq_some_iff] at item
  obtain ⟨index, -, found, ⟨value, held, present⟩, same⟩ := item
  obtain ⟨rfl, rfl⟩ := Prod.mk.inj (Option.some.inj same)
  exact ⟨property, among, Option.bind_eq_some_iff.mpr ⟨value, held, value.handle_of_present present⟩⟩

namespace Scope

variable {scope : Scope}

private theorem routed_matching (known : scope.Known past) (dialect : Dialect) (all : Bool) (expression : String) :
    Routed past (.request scope.context.session (scope.matching dialect all expression)) := by
  unfold matching
  split
  next => exact routed_of_nameless rfl
  next handle below => exact routed_of_sole rfl (known handle (by simp [below, Extent.handle?]))
  next handle mode below => exact routed_of_sole rfl (known handle (by simp [below, Extent.handle?]))

private theorem delivered_matching {dialect : Dialect} {all : Bool} {expression : String} {answer : Json}
    {evaluation : Evaluation} {handle : Handle} (read : Evaluation.ofJson? answer = some evaluation)
    (same : evaluation.result.handle = some handle) :
    .object handle ∈ (scope.matching dialect all expression).delivered answer := by
  unfold matching
  split <;> simp [Command.delivered, read, same]

theorem heeds_evaluate (known : scope.Known past) (dialect : Dialect) (all : Bool) (expression : String) :
    Heeds Routed (fun later evaluation => ∀ handle, evaluation.result.handle = some handle →
        Delivered later scope.context.session (.object handle))
      (scope.evaluate (scope.matching dialect all expression)) past := by
  have asked : Heeds Routed (fun later evaluation => ∀ handle, evaluation.result.handle = some handle →
      Delivered later scope.context.session (.object handle))
      (Browsing.call scope.context.session (scope.matching dialect all expression) Evaluation.ofJson?)
      past := by
    apply heeds_call (routed_matching known dialect all expression)
    intro answer evaluation read handle same
    exact delivered_append (delivered_matching read same) past scope.context.session
  unfold evaluate
  split
  · exact asked.about _
  · exact asked

private theorem heeds_takeItems {context : Context} {list : Handle}
    (known : Delivered past context.session (.object list)) :
    Heeds Routed (fun later elements => ∀ element ∈ elements, element.Known later)
      (takeItems context list) past := by
  refine Heeds.bind (Heeds.about (?_ : Heeds Routed (fun later properties => ∀ handle ∈ Property.items properties,
    Delivered later context.session (.object handle)) _ past) _) ?_
  · refine heeds_call (routed_of_sole rfl known) fun answer properties read handle member => ?_
    obtain ⟨property, among, same⟩ := Property.exists_of_mem_items member
    refine delivered_append ?_ past context.session
    simp only [Command.delivered, read, Option.getD_some, List.mem_filterMap]
    exact ⟨property, among, by simp [same]⟩
  · intro properties later longer held
    have released : Heeds Routed (fun _ _ => True)
        (Browsing.execute context.session (.releaseObject list)) later :=
      heeds_execute (routed_of_sole rfl (known.mono longer)) fun _ => trivial
    refine released.lift.bind fun _ further beyond _ => ?_
    refine heeds_mapM (fun _ _ _ longer known => known.mono longer) ?_
    intro handle member last ahead
    exact Element.heeds_make ((held handle member).mono (beyond.trans ahead))

private theorem heeds_queryHere (known : scope.Known past) (locator : Locator) (all : Bool) :
    Heeds Routed (fun later elements => ∀ element ∈ elements, element.Known later)
      (scope.queryHere locator all) past := by
  refine Heeds.andThen (heeds_outcome fun _ _ => trivial) ?_
  intro _ checked longer
  refine (heeds_evaluate (known.mono longer) _ _ _).bind fun evaluation later _ held => ?_
  split
  next => exact heeds_throw _
  next =>
    split
    next => exact heeds_pure (by simp)
    next handle present =>
      have found := evaluation.result.handle_of_present present
      split
      · exact heeds_takeItems (held handle found)
      · refine (Element.heeds_make (held handle found)).bind fun element further _ made => ?_
        exact heeds_pure (by simpa using made)

private theorem heeds_queryThrough (known : scope.Known past) (all : Bool) (segments : List Locator) :
    Heeds Routed (fun later elements => ∀ element ∈ elements, element.Known later)
      (scope.queryThrough all segments) past := by
  induction segments generalizing scope past with
  | nil => exact heeds_pure (by simp)
  | cons segment rest ih =>
      cases rest with
      | nil => exact heeds_queryHere known segment all
      | cons next further =>
          refine (heeds_queryHere known segment false).bind fun found later _ owners => ?_
          cases found with
          | nil => exact heeds_pure (by simp)
          | cons owner others =>
              have entered := Element.heeds_contentScope (owners owner List.mem_cons_self)
              exact entered.bind fun inside _ _ content => ih content

theorem heeds_query (known : scope.Known past) (locator : Locator) (all : Bool) :
    Heeds Routed (fun later elements => ∀ element ∈ elements, element.Known later)
      (scope.query locator all) past := by
  refine Heeds.andThen (heeds_outcome fun _ _ => trivial) ?_
  exact fun _ _ longer => heeds_queryThrough (known.mono longer) all locator.segments

theorem heeds_find (known : scope.Known past) (locator : Locator) :
    Heeds Routed (fun later element => element.Known later) (scope.find locator) past := by
  refine (heeds_query known locator false).bind fun found later _ held => ?_
  cases found with
  | nil => exact heeds_throw _
  | cons element others => exact heeds_pure (held element List.mem_cons_self)

theorem heeds_waitFor (known : scope.Known past) (locator : Locator) (patience : Patience) :
    Heeds Routed (fun later element => element.Known later) (scope.waitFor locator patience) past := by
  refine heeds_pollOrFail routed_timely fun later longer => ?_
  refine (heeds_query (known.mono longer) locator false).bind fun found further _ held => ?_
  exact heeds_pure fun element first => held element (List.mem_of_mem_head? first)

end Scope

namespace Element

variable {element : Element}

theorem heeds_execute (known : element.Known past) {command : Command}
    (own : command.references = [] ∨ command.references = [element.reference]) :
    Heeds Routed (fun _ _ => True) (element.execute command) past := by
  have routed : Routed past (.request element.context.session command) := by
    rcases own with nameless | sole
    · exact routed_of_nameless nameless
    · exact routed_of_sole sole known
  exact (RemoteDom.heeds_execute routed fun _ => trivial).about _

theorem heeds_call (known : element.Known past) {α : Type} {command : Command} {read : Json → Option α}
    (own : command.references = [element.reference]) :
    Heeds Routed (fun _ _ => True) (element.call command read) past :=
  (heeds_execute known (.inr own)).bind fun _ _ _ _ => heeds_expect fun _ _ => trivial

theorem heeds_described {α : Type} (known : element.Known past) (read : Node → α) :
    Heeds Routed (fun _ _ => True) (return read (← element.describe)) past :=
  (heeds_describe known).bind fun _ _ _ _ => heeds_pure trivial

theorem heeds_backendId (known : element.Known past) :
    Heeds Routed (fun _ _ => True) element.backendId past := by
  refine Heeds.andThen (heeds_ask trivial fun _ => trivial) ?_
  intro noted later longer
  cases noted with
  | some backend => exact heeds_pure trivial
  | none =>
      refine (heeds_describe (known.mono longer)).bind fun node _ _ _ => ?_
      cases node.backend with
      | none => exact heeds_throw _
      | some backend => exact heeds_pure trivial

theorem heeds_text (known : element.Known past) : Heeds Routed (fun _ _ => True) element.text past := by
  refine (heeds_call known rfl).bind fun evaluation _ _ _ => ?_
  cases evaluation.exception with
  | some exception => exact heeds_throw _
  | none => exact heeds_pure trivial

theorem heeds_outerMarkup (known : element.Known past) :
    Heeds Routed (fun _ _ => True) element.outerMarkup past := heeds_call known rfl

theorem heeds_boxModel (known : element.Known past) :
    Heeds Routed (fun _ _ => True) element.boxModel past := heeds_call known rfl

theorem heeds_boundingBox (known : element.Known past) :
    Heeds Routed (fun _ _ => True) element.boundingBox past := by
  refine (heeds_boxModel known).bind fun model _ _ _ => ?_
  cases model.border.bounds? with
  | none => exact heeds_throw _
  | some rect => exact heeds_pure trivial

theorem heeds_scrollIntoView (known : element.Known past) :
    Heeds Routed (fun _ _ => True) element.scrollIntoView past :=
  (heeds_execute known (.inr rfl)).bind fun _ _ _ _ => heeds_pure trivial

theorem heeds_click (known : element.Known past) (button : MouseButton) :
    Heeds Routed (fun _ _ => True) (element.click button) past := by
  refine (heeds_scrollIntoView known).bind fun _ later longer _ => ?_
  have known := known.mono longer
  refine (heeds_boxModel known).bind fun model further beyond _ => ?_
  have known := known.mono beyond
  cases model.content.center? with
  | none => exact heeds_throw _
  | some centre =>
      refine (heeds_execute known (.inl rfl)).bind fun _ _ moved _ => ?_
      refine (heeds_execute (known.mono moved) (.inl rfl)).bind fun _ _ pressed _ => ?_
      refine (heeds_execute ((known.mono moved).mono pressed) (.inl rfl)).bind fun _ _ _ _ => ?_
      exact heeds_pure trivial

private theorem heeds_resolveRoots (known : element.Known past) {described : List Node}
    (told : ∀ node ∈ described, ∀ backend, node.backend = some backend →
      Delivered past element.context.session (.backend backend)) :
    Heeds Routed (fun later roots => ∀ root ∈ roots, root.Known later) (element.resolveRoots described) past := by
  induction described generalizing past with
  | nil => exact heeds_pure (by simp)
  | cons node rest ih =>
      have others {later : List Happening} (longer : past <+: later) : ∀ other ∈ rest, ∀ backend,
          other.backend = some backend → Delivered later element.context.session (.backend backend) :=
        fun other member backend named =>
          (told other (List.mem_cons_of_mem node member) backend named).mono longer
      unfold resolveRoots
      split
      next => exact ih known (others (List.prefix_refl past))
      next backend named =>
        have own := told node List.mem_cons_self backend named
        refine (Context.heeds_resolve own).bind fun handle later longer found => ?_
        refine (ih (known.mono longer) (others longer)).bind fun roots further beyond held => ?_
        have first : ShadowRoot.Known further
            ⟨handle, node.shadowMode.getD .opened, backend, element⟩ :=
          ⟨(known.mono longer).mono beyond, found.mono beyond, (own.mono longer).mono beyond⟩
        exact heeds_pure (List.forall_mem_cons.mpr ⟨first, held⟩)

theorem heeds_shadowRoots (known : element.Known past) :
    Heeds Routed (fun later roots => ∀ root ∈ roots, root.Known later) element.shadowRoots past := by
  refine (Context.heeds_describe known 1).bind fun node later longer held => ?_
  refine heeds_resolveRoots (known.mono longer) fun root member backend named => held backend ?_
  have among : backend ∈ node.shadowRoots.filterMap Node.backend :=
    List.mem_filterMap.mpr ⟨root, member, named⟩
  simp [Node.backends, among]

theorem heeds_firstRoot (known : element.Known past) (wanted : ShadowRoot → Bool) :
    Heeds Routed (fun later root => root.Known later) (element.firstRoot wanted) past := by
  refine (heeds_shadowRoots known).bind fun roots later _ held => ?_
  split
  next root first => exact heeds_pure (held root (List.mem_of_find?_eq_some first))
  next => exact heeds_throw _

theorem heeds_shadowRoot? (known : element.Known past) :
    Heeds Routed (fun later found => ∀ root, found = some root → root.Known later) element.shadowRoot? past := by
  refine Heeds.tryCatch ?_ ?_
  · refine (heeds_firstRoot known _).map some fun root later _ held other same => ?_
    exact Option.some.inj same ▸ held
  · intro error later _
    split
    · exact heeds_pure (by simp)
    · exact heeds_throw _

theorem heeds_waitForShadowRoot (known : element.Known past) (patience : Patience) :
    Heeds Routed (fun later root => root.Known later) (element.waitForShadowRoot patience) past :=
  heeds_pollOrFail routed_timely fun _ longer => heeds_shadowRoot? (known.mono longer)

end Element

theorem ShadowRoot.heeds_innerMarkup {root : ShadowRoot} (known : root.Known past) :
    Heeds Routed (fun _ _ => True) root.innerMarkup past :=
  (heeds_call (routed_of_sole rfl known.handle) fun _ _ _ => trivial).about _

namespace Page

theorem heeds_evaluate (page : Page) (expression : String) :
    Heeds Routed (fun _ _ => True) (page.evaluate expression) past := by
  refine Heeds.andThen (heeds_call (routed_of_nameless rfl) fun _ _ _ => trivial) fun evaluation _ _ => ?_
  cases evaluation.exception with
  | some exception => exact heeds_throw _
  | none => exact heeds_pure trivial

theorem heeds_document (page : Page) :
    Heeds Routed (fun later element => element.Known later) page.document past := by
  refine (Element.heeds_documentHandle? page.context.session).bind fun found later _ held => ?_
  cases found with
  | none => exact heeds_throw _
  | some handle => exact Element.heeds_make (held handle rfl)

theorem heeds_attach (target : TargetId) (patience : Patience) :
    Heeds Routed (fun _ _ => True) (attach target patience) past :=
  (Browsing.heeds_attach target .topLevel).bind fun _ _ _ _ => heeds_pure trivial

end Page

end RemoteDom
