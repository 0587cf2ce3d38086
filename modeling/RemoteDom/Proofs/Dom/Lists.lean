import RemoteDom.Proofs.Dom.Enumerations
import RemoteDom.Proofs.Dom.Items

/-! Lists of matches. The items of a list are asked for, and then the list is given back. -/

namespace RemoteDom

open ClientProgram (Leaves Indifferent perform)

/-! What happens during a query for all matches. -/

/-- The browser gives no list, and none is taken apart or given back. -/
structure Happening.Fruitless (happening : Happening) : Prop where
  unlisted : ∀ session list, ¬happening.Lists session list
  whole : happening.act.takenApart? = none
  kept : happening.act.givenBack? = none

theorem Act.Listless.fruitless {happening : Happening} (listless : happening.act.Listless) : happening.Fruitless := by
  refine ⟨?_, listless.whole, listless.kept⟩
  rintro session list ⟨enumerates, given⟩
  exact listless.single _ _ rfl enumerates

/-- All that can happen while a list is taken apart. It is given back only once its items are known. -/
inductive TakenOut (context : Context) (list : Handle) : List Happening → Except Error (List Element) → Prop
  | read {answer : Json} {properties : List Property} {released : Except Error Json} {notes : List Happening}
      {elements : List Element} (readable : Property.listOfJson? answer = some properties)
      (aside : ∀ happening ∈ notes, happening.act = .newMemo)
      (made : elements.map Element.handle = Property.items properties)
      (there : ∀ element ∈ elements, element.context = context) :
      TakenOut context list
        (⟨.request context.session (.getProperties list true), .ok answer⟩ ::
          ⟨.request context.session (.releaseObject list), released⟩ :: notes) (.ok elements)
  | unread {answer : Except Error Json} {error : Error}
      (unreadable : answer.toOption.bind Property.listOfJson? = none) :
      TakenOut context list [⟨.request context.session (.getProperties list true), answer⟩] (.error error)

/-- All that can happen during a query for all matches, as far as lists are concerned: the browser gives none, or gives
one in the end, which is taken apart. -/
inductive Gathered : List Happening → Except Error (List Element) → Prop
  | fruitless {own : List Happening} {outcome : Except Error (List Element)}
      (fruitless : ∀ happening ∈ own, happening.Fruitless) : Gathered own outcome
  | listed {before own : List Happening} {outcome : Except Error (List Element)} {context : Context}
      {command : Command} {answer : Json} {list : Handle} (fruitless : ∀ happening ∈ before, happening.Fruitless)
      (enumerates : command.Enumerates) (given : listIn? answer = some list)
      (taken : TakenOut context list own outcome) :
      Gathered (before ++ ⟨.request context.session command, .ok answer⟩ :: own) outcome

theorem Gathered.after {opening own : List Happening} {outcome : Except Error (List Element)}
    (gathered : Gathered own outcome) (fruitless : ∀ happening ∈ opening, happening.Fruitless) :
    Gathered (opening ++ own) outcome := by
  cases gathered with
  | fruitless later =>
      exact .fruitless fun happening member => (List.mem_append.mp member).elim (fruitless _) (later _)
  | listed later enumerates given taken =>
      rw [← List.append_assoc]
      refine .listed (fun happening member => ?_) enumerates given taken
      exact (List.mem_append.mp member).elim (fruitless _) (later _)

private theorem leaves_makeAll (handles : List Handle) (context : Context) :
    Leaves (fun own outcome => (∀ happening ∈ own, happening.act = .newMemo) ∧
        ∃ elements, outcome = .ok elements ∧ elements.map Element.handle = handles ∧
          ∀ element ∈ elements, element.context = context)
      (handles.mapM fun handle => Element.make handle context).run := by
  induction handles with
  | nil => exact ⟨List.forall_mem_nil _, [], rfl, rfl, List.forall_mem_nil _⟩
  | cons handle rest ih =>
      rw [List.mapM_cons]
      intro memo
      refine leaves_bind ih ?_ ?_
      · rintro own error ⟨-, elements, failed, -⟩
        cases failed
      · rintro own elements ⟨aside, _, same, made, there⟩
        obtain rfl := Except.ok.inj same
        show (∀ happening ∈ _ :: (own ++ []), _) ∧ _
        rw [List.append_nil]
        refine ⟨List.forall_mem_cons.mpr ⟨rfl, aside⟩, ⟨handle, context, memo⟩ :: elements, rfl, ?_,
          List.forall_mem_cons.mpr ⟨rfl, there⟩⟩
        rw [List.map_cons, made]

namespace Scope

private theorem leaves_takeItems (context : Context) (list : Handle) :
    Leaves (TakenOut context list) (takeItems context list).run := by
  refine leaves_bind (leaves_about (leaves_call context.session (.getProperties list true) Property.listOfJson?)
    (.object list)) ?_ ?_
  · rintro own error (_ | ⟨answer, error, unreadable⟩)
    exact .unread unreadable
  · rintro own properties (⟨answer, properties, readable⟩ | _) released
    refine (leaves_makeAll (Property.items properties) context).weaken ?_
    rintro notes outcome ⟨aside, elements, rfl, made, there⟩
    exact .read readable aside made there

variable (scope : Scope)

private theorem leaves_evaluate (command : Command) :
    Leaves (Asked scope.context.session command Evaluation.ofJson?) (scope.evaluate command).run := by
  unfold evaluate
  split
  · exact leaves_about (leaves_call _ _ _) _
  · exact leaves_call _ _ _

private theorem fruitless_of_listIn? {session : SessionId} {command : Command} {answer : Except Error Json}
    (scripted : command.scriptless = false) (empty : answer.toOption.bind listIn? = none) :
    Happening.Fruitless ⟨.request session command, answer⟩ := by
  refine ⟨?_, (asIs_of_scripted scripted).1, (asIs_of_scripted scripted).2⟩
  rintro place list ⟨enumerates, given⟩
  cases given.symm.trans empty

private theorem leaves_check (dialect : Dialect) :
    Leaves (fun own _ => own = []) (ExceptT.mk (pure (scope.check dialect)) : Browsing Unit).run := rfl

private theorem leaves_queryHere_all (locator : Locator) : Leaves Gathered (scope.queryHere locator true).run := by
  have enumerates : (scope.matching locator.dialect true locator.expression).Enumerates :=
    ⟨_, _, _, scope.seeks_matching _ _ _⟩
  have fruitless {answer : Except Error Json} {outcome : Except Error (List Element)}
      (empty : answer.toOption.bind listIn? = none) :
      Gathered [⟨.request scope.context.session (scope.matching locator.dialect true locator.expression), answer⟩]
        outcome :=
    .fruitless (List.forall_mem_singleton.mpr (fruitless_of_listIn? enumerates.scripted empty))
  refine leaves_bind (scope.leaves_check locator.dialect) ?_ ?_
  · rintro own error rfl
    exact .fruitless (List.forall_mem_nil _)
  rintro own _ rfl
  refine leaves_bind (scope.leaves_evaluate _) ?_ ?_
  · rintro own error (_ | ⟨answer, error, unreadable⟩)
    refine fruitless ?_
    cases answer with
    | error => rfl
    | ok answer =>
        have unread : Evaluation.ofJson? answer = none := unreadable
        show listIn? answer = none
        simp [listIn?, unread]
  · rintro own evaluation (⟨answer, evaluation, readable⟩ | _)
    split
    next exception thrown => exact fruitless (by simp [Except.toOption, listIn?, readable, thrown])
    next whole =>
      split
      next empty => exact fruitless (by simp [Except.toOption, listIn?, readable, whole, empty])
      next list found =>
        refine (leaves_takeItems scope.context list).weaken fun more outcome taken => ?_
        have given : listIn? answer = some list := by simp [listIn?, readable, whole, found]
        show Gathered ([] ++ _) _
        exact .listed (List.forall_mem_nil _) enumerates given taken

private theorem listless_queryHere_first (locator : Locator) :
    Confined Act.Listless (scope.queryHere locator false) := by
  have single : (Act.request scope.context.session
      (scope.matching locator.dialect false locator.expression)).Listless := by
    have seeks := scope.seeks_matching locator.dialect false locator.expression
    refine ⟨(asIs_of_scripted seeks.scripted).1, (asIs_of_scripted seeks.scripted).2, fun _ _ same => ?_⟩
    obtain ⟨-, rfl⟩ := Act.request.inj same
    exact seeks.not_enumerates
  refine (confined_outcome (scope.check locator.dialect)).bind fun _ => ?_
  refine (confined_evaluate single).bind fun evaluation => ?_
  split
  · exact confined_throw _
  split
  · exact confined_pure []
  next handle _ =>
    have made : Confined Act.Listless (Element.make handle scope.context) :=
      Confined.bind (confined_ask (listless_own nofun)) fun _ => confined_pure _
    exact made.bind fun _ => confined_pure _

private theorem leaves_queryThrough_all (segments : List Locator) :
    Leaves Gathered (scope.queryThrough true segments).run := by
  induction segments generalizing scope with
  | nil => exact Gathered.fruitless (List.forall_mem_nil _)
  | cons segment rest ih =>
      cases rest with
      | nil => exact scope.leaves_queryHere_all segment
      | cons next further =>
          refine leaves_bind (scope.listless_queryHere_first segment).leaves ?_ ?_
          · exact fun own error listless => .fruitless fun happening member => (listless happening member).fruitless
          intro own found listless
          have early : ∀ happening ∈ own, happening.Fruitless := fun happening member =>
            (listless happening member).fruitless
          cases found with
          | nil =>
              show Gathered (own ++ []) _
              exact Gathered.after (.fruitless (List.forall_mem_nil _)) early
          | cons owner others =>
              refine leaves_bind owner.listless_contentScope ?_ ?_
              · exact fun more error listless =>
                  Gathered.after (.fruitless fun happening member => (listless happening member).fruitless) early
              intro more inside listless
              refine (ih inside).weaken fun last outcome gathered => ?_
              exact (gathered.after fun happening member => (listless happening member).fruitless).after early

private theorem leaves_query_all (locator : Locator) : Leaves Gathered (scope.query locator true).run := by
  refine leaves_bind (scope.leaves_check locator.dialect) ?_ ?_
  · rintro own error rfl
    exact .fruitless (List.forall_mem_nil _)
  · rintro own _ rfl
    exact scope.leaves_queryThrough_all locator.segments

/-! However a list is taken back, the query goes on in one way. -/

private theorem indifferent_of_kept {α : Type} {operation : Browsing α}
    (kept : Leaves (fun own _ => ∀ happening ∈ own, happening.act.givenBack? = none) operation.run) :
    Indifferent (fun act => act.givenBack? ≠ none) operation.run :=
  Leaves.indifferent (kept.weaken fun _ _ kept happening member other => other (kept happening member))

private theorem indifferent_of_listless {α : Type} {operation : Browsing α}
    (listless : Leaves (fun own _ => ∀ happening ∈ own, happening.act.Listless) operation.run) :
    Indifferent (fun act => act.givenBack? ≠ none) operation.run :=
  indifferent_of_kept (listless.weaken fun _ _ listless happening member => (listless happening member).kept)

private theorem indifferent_takeItems (context : Context) (list : Handle) :
    Indifferent (fun act => act.givenBack? ≠ none) (takeItems context list).run := by
  have asked : Confined (fun act => act.givenBack? = none) (Browsing.about (.object list)
      (Browsing.call context.session (.getProperties list true) Property.listOfJson?)) := confined_callAbout rfl
  refine indifferent_bind (indifferent_of_kept asked.leaves) fun properties => ?_
  refine ⟨fun _ _ _ => rfl, fun released => indifferent_of_kept ?_⟩
  refine (leaves_makeAll (Property.items properties) context).weaken ?_
  rintro own outcome ⟨aside, -⟩ happening member
  rw [aside happening member]
  rfl

private theorem indifferent_queryHere_all (locator : Locator) :
    Indifferent (fun act => act.givenBack? ≠ none) (scope.queryHere locator true).run := by
  have seeks := scope.seeks_matching locator.dialect true locator.expression
  have asked : Confined (fun act => act.givenBack? = none)
      (scope.evaluate (scope.matching locator.dialect true locator.expression)) :=
    confined_evaluate (asIs_of_scripted seeks.scripted).2
  have checked : Confined (fun act => act.givenBack? = none)
      (ExceptT.mk (pure (scope.check locator.dialect)) : Browsing Unit) := confined_outcome _
  refine indifferent_bind (indifferent_of_kept checked.leaves) fun _ => ?_
  refine indifferent_bind (indifferent_of_kept asked.leaves) fun evaluation => ?_
  split
  · trivial
  split
  · trivial
  · exact indifferent_takeItems _ _

private theorem indifferent_queryThrough_all (segments : List Locator) :
    Indifferent (fun act => act.givenBack? ≠ none) (scope.queryThrough true segments).run := by
  induction segments generalizing scope with
  | nil => trivial
  | cons segment rest ih =>
      cases rest with
      | nil => exact scope.indifferent_queryHere_all segment
      | cons next further =>
          have first := indifferent_of_listless (scope.listless_queryHere_first segment).leaves
          refine indifferent_bind first fun found => ?_
          cases found with
          | nil => trivial
          | cons owner others =>
              exact indifferent_bind (indifferent_of_listless owner.listless_contentScope) fun inside => ih inside

private theorem indifferent_query_all (locator : Locator) :
    Indifferent (fun act => act.givenBack? ≠ none) (scope.query locator true).run := by
  have checked : Confined (fun act => act.givenBack? = none)
      (ExceptT.mk (pure (scope.check locator.dialect)) : Browsing Unit) := confined_outcome _
  exact indifferent_bind (indifferent_of_kept checked.leaves) fun _ =>
    scope.indifferent_queryThrough_all locator.segments

end Scope

/-! What the query gives, and what becomes of the list. -/

/-- The objects that were given back, each with the session that it was given back in. -/
def givenBackIn (own : List Happening) : List (SessionId × Handle) :=
  own.filterMap fun happening => happening.act.givenBack?

section Gathered

variable {own : List Happening} {outcome : Except Error (List Element)}

theorem TakenOut.unlisted {context : Context} {list : Handle} (taken : TakenOut context list own outcome) :
    ∀ happening ∈ own, ¬∃ session other, happening.Lists session other := by
  have unlisted {session : SessionId} {command : Command} {answer : Except Error Json}
      (scriptless : command.scriptless = true) :
      ¬∃ place other, Happening.Lists ⟨.request session command, answer⟩ place other := by
    rintro ⟨place, other, ⟨enumerates, -⟩⟩
    rw [enumerates.scripted] at scriptless
    cases scriptless
  cases taken with
  | unread => exact List.forall_mem_singleton.mpr (unlisted rfl)
  | read _ aside =>
      refine List.forall_mem_cons.mpr ⟨unlisted rfl, List.forall_mem_cons.mpr ⟨unlisted rfl, ?_⟩⟩
      rintro happening member ⟨session, other, ⟨-, -⟩⟩
      cases aside _ member

private theorem TakenOut.givenBack {context : Context} {list : Handle} (taken : TakenOut context list own outcome) :
    ∃ reply, own.head? = some ⟨.request context.session (.getProperties list true), reply⟩ ∧
      givenBackIn own =
        if (reply.toOption.bind Property.listOfJson?).isSome then [(context.session, list)] else [] := by
  cases taken with
  | @unread answer _ unreadable => exact ⟨answer, rfl, by rw [unreadable]; rfl⟩
  | @read answer properties released notes _ readable aside =>
      have quiet : givenBackIn notes = [] := by
        refine List.filterMap_eq_nil_iff.mpr fun happening member => ?_
        rw [aside happening member]
        rfl
      refine ⟨.ok answer, rfl, ?_⟩
      rw [Except.toOption, Option.bind_some, readable]
      exact congrArg (List.cons _) quiet

private theorem givenBackIn_of_fruitless {before : List Happening}
    (fruitless : ∀ happening ∈ before, happening.Fruitless)
    (after : List Happening) : givenBackIn (before ++ after) = givenBackIn after := by
  have nothing : givenBackIn before = [] :=
    List.filterMap_eq_nil_iff.mpr fun happening member => (fruitless happening member).kept
  rw [givenBackIn, List.filterMap_append, ← givenBackIn, nothing]
  rfl

/-- Where the browser was told to take a list apart and the answer can be read, its items are what the query gives. -/
private theorem Gathered.of_told (gathered : Gathered own outcome) {session : SessionId} {list : Handle} {answer : Json}
    {properties : List Property} (told : ⟨.request session (.getProperties list true), .ok answer⟩ ∈ own)
    (readable : Property.listOfJson? answer = some properties) :
    ∃ elements, outcome = .ok elements ∧ elements.map Element.handle = Property.items properties ∧
      ∀ element ∈ elements, element.context.session = session := by
  cases gathered with
  | fruitless fruitless => cases (fruitless _ told).whole
  | listed fruitless enumerates given taken =>
      rcases List.mem_append.mp told with early | late
      · cases (fruitless _ early).whole
      rcases List.mem_cons.mp late with same | inside
      · cases same
        cases enumerates.scripted
      cases taken with
      | unread unreadable =>
          cases List.mem_singleton.mp inside
          cases readable.symm.trans unreadable
      | read read aside made there =>
          rcases List.mem_cons.mp inside with first | rest
          · cases first
            obtain rfl := Option.some.inj (read.symm.trans readable)
            exact ⟨_, rfl, made, fun element member => congrArg Context.session (there element member)⟩
          · rcases List.mem_cons.mp rest with other | noted
            · cases other
            · cases aside _ noted

private theorem Gathered.of_listed (gathered : Gathered own outcome) {before after : List Happening}
    {happening : Happening}
    {session : SessionId} {list : Handle} (parts : own = before ++ happening :: after)
    (lists : happening.Lists session list) :
    ∃ reply, after.head? = some ⟨.request session (.getProperties list true), reply⟩ ∧
      givenBackIn own =
        if (reply.toOption.bind Property.listOfJson?).isSome then [(session, list)] else [] := by
  cases gathered with
  | fruitless fruitless =>
      have among : happening ∈ own := parts ▸ List.mem_append_right before List.mem_cons_self
      exact absurd lists ((fruitless happening among).unlisted session list)
  | @listed early behind _ context command answer found fruitless enumerates given taken =>
      -- No other list is given, so the one that was taken apart is this one.
      have single : ∀ other ∈ early, ¬∃ place handle, other.Lists place handle := by
        rintro other member ⟨place, handle, lists⟩
        exact (fruitless other member).unlisted place handle lists
      obtain ⟨rfl, same⟩ := before_eq_of_sole single taken.unlisted parts ⟨session, list, lists⟩
      obtain rfl := (List.cons.inj (List.append_cancel_left parts)).2
      obtain ⟨rfl, rfl⟩ : context.session = session ∧ found = list := by
        subst same
        cases lists with
        | found _ again => exact ⟨rfl, Option.some.inj (given.symm.trans again)⟩
      obtain ⟨reply, asked, back⟩ := taken.givenBack
      refine ⟨reply, asked, ?_⟩
      rw [givenBackIn_of_fruitless fruitless, ← back]
      exact List.filterMap_cons_none (asIs_of_scripted enumerates.scripted).2

end Gathered

/-- In some surroundings the query is told those properties of a list and gives elements of those handles. -/
def Scope.Gives (scope : Scope) (locator : Locator) (properties : List Property) (handles : List Handle) : Prop :=
  ∃ surroundings past own session list answer elements,
    perform surroundings (scope.query locator true).run past = (.ok elements, past ++ own) ∧
      ⟨.request session (.getProperties list true), .ok answer⟩ ∈ own ∧
      Property.listOfJson? answer = some properties ∧ handles = elements.map Element.handle

theorem Scope.Gives.inOrder {scope : Scope} {locator : Locator} {properties : List Property} {handles : List Handle}
    (gives : scope.Gives locator properties handles) : Property.InOrder properties handles := by
  obtain ⟨surroundings, past, own, session, list, answer, elements, run, told, readable, rfl⟩ := gives
  obtain ⟨own', journal, gathered⟩ := (scope.leaves_query_all locator).perform surroundings past
  rw [run] at journal gathered
  obtain rfl := List.append_cancel_left journal
  obtain ⟨_, same, made, -⟩ := gathered.of_told told readable
  obtain rfl := Except.ok.inj same
  rw [made]
  exact Property.inOrder_items properties

/-- A list that the browser gives is asked for its properties, and whatever these are, a query for all matches gives
their items in order, in the session of the list. If no number comes twice the order in which they are told makes no
difference; and however the browser takes the list back, the query goes on in one way. -/
theorem Scope.query_gives_items (scope : Scope) (locator : Locator) :
    (∀ surroundings past, ∃ own, (perform surroundings (scope.query locator true).run past).2 = past ++ own ∧
      (∀ happening ∈ own, ∀ session list, happening.Lists session list →
        ∃ reply, ⟨.request session (.getProperties list true), reply⟩ ∈ own) ∧
      ∀ session list answer properties, ⟨.request session (.getProperties list true), .ok answer⟩ ∈ own →
        Property.listOfJson? answer = some properties →
        ∃ elements, (perform surroundings (scope.query locator true).run past).1 = .ok elements ∧
          Property.InOrder properties (elements.map Element.handle) ∧
          ∀ element ∈ elements, element.context.session = session) ∧
    (∀ properties shuffled handles others, scope.Gives locator properties handles →
      scope.Gives locator shuffled others → shuffled.Perm properties → Property.Apart properties → others = handles) ∧
    Indifferent (fun act => ∃ session list, act = .request session (.releaseObject list))
      (scope.query locator true).run := by
  refine ⟨fun surroundings past => ?_, ?_, ?_⟩
  · obtain ⟨own, journal, gathered⟩ := (scope.leaves_query_all locator).perform surroundings past
    refine ⟨own, journal, fun happening member session list lists => ?_,
      fun session list answer properties told readable => ?_⟩
    · obtain ⟨before, after, rfl⟩ := List.append_of_mem member
      obtain ⟨reply, asked, -⟩ := gathered.of_listed rfl lists
      have next := List.mem_of_mem_head? asked
      exact ⟨reply, List.mem_append_right before (List.mem_cons_of_mem happening next)⟩
    · obtain ⟨elements, gave, made, there⟩ := gathered.of_told told readable
      refine ⟨elements, gave, ?_, there⟩
      rw [made]
      exact Property.inOrder_items properties
  · intro properties shuffled handles others gives again same apart
    exact gives.inOrder.unique apart same again.inOrder
  · refine (scope.indifferent_query_all locator).of_fewer ?_
    rintro act ⟨session, list, rfl⟩
    exact Option.some_ne_none _

/-- If the browser gives a query for all matches a list, it is asked for its items next. If the answer can be read the
list is given back once, in the session that it came from, and nothing else is; if not, nothing is given back. -/
theorem Scope.list_given_back_iff_read (surroundings : Surroundings) (scope : Scope) (locator : Locator)
    (past : List Happening) :
    ∃ own, (perform surroundings (scope.query locator true).run past).2 = past ++ own ∧
      ∀ before happening after session list, own = before ++ happening :: after → happening.Lists session list →
        ∃ reply, after.head? = some ⟨.request session (.getProperties list true), reply⟩ ∧
          givenBackIn own =
            if (reply.toOption.bind Property.listOfJson?).isSome then [(session, list)] else [] := by
  obtain ⟨own, journal, gathered⟩ := (scope.leaves_query_all locator).perform surroundings past
  exact ⟨own, journal, fun before happening after session list => gathered.of_listed⟩

def listing (reply : Except Error Json) : Surroundings := fun past act =>
  match act with
  | .request _ (.evaluate ..) =>
      .ok (.object [("result", .object
        [("type", .string "object"), ("subtype", .string "array"), ("objectId", .string "array-1")])])
  | .request _ (.getProperties ..) => reply
  | .request _ _ => .ok (.object [])
  | own => offline past own

def shownPage : Scope := .document ⟨.topLevel, .usual, ⟨0⟩⟩

/-- After that answer to the request for its items a list that was given is not given back. -/
def KeptAfter (reply : Except Error Json) : Prop :=
  ∃ found, (perform (listing reply) (shownPage.query (.css "li") true).run []).2 =
      [found, ⟨.request .topLevel (.getProperties ⟨"array-1"⟩ true), reply⟩] ∧
    found.Lists .topLevel ⟨"array-1"⟩ ∧
    givenBackIn (perform (listing reply) (shownPage.query (.css "li") true).run []).2 = []

private theorem lists_listing (reply : Except Error Json) :
    Happening.Lists ⟨.request .topLevel (shownPage.matching .css true "li"),
      listing reply [] (.request .topLevel (shownPage.matching .css true "li"))⟩ .topLevel ⟨"array-1"⟩ :=
  .found ⟨_, _, _, shownPage.seeks_matching _ _ _⟩ rfl

/-- A list whose items are refused, do not come in time or cannot be read is never given back. -/
theorem Scope.list_kept_unread :
    KeptAfter (.error (.protocol (-32000) "Internal error" "Runtime.getProperties" .topLevel)) ∧
      KeptAfter (.error (.requestTimeout 2 "Runtime.getProperties" 5000)) ∧
      KeptAfter (.ok (.object [("result", .null)])) :=
  ⟨⟨_, rfl, lists_listing _, rfl⟩, ⟨_, rfl, lists_listing _, rfl⟩, ⟨_, rfl, lists_listing _, rfl⟩⟩

end RemoteDom
