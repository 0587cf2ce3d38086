import RemoteDom.Dom.Element
import RemoteDom.Proofs.Dom.Capability
import RemoteDom.Proofs.Dom.FrameEntry
import RemoteDom.Proofs.Program.Runs

/-! Shadow roots. The roots that are described with a name are resolved one after another, so they come in the order of
the description, and a wait for one of them goes on only while there is none. -/

namespace RemoteDom

open ClientProgram (Leaves Run perform)

/-- Whatever else has happened, the browser gives a handle of the node. -/
def Surroundings.Resolves (surroundings : Surroundings) (session : SessionId) (backend : BackendId) : Prop :=
  ∀ past, ∃ answer handle, surroundings past (.request session (.resolveNode backend)) = .ok answer ∧
    nodeIn? answer = some handle

def Happening.resolved? : Happening → Option Handle
  | ⟨.request _ (.resolveNode _), .ok answer⟩ => nodeIn? answer
  | _ => none

/-- The name and the mode of a root that is described with a name. It is open if no mode is told. -/
def Node.namedRoot? (described : Node) : Option (BackendId × ShadowMode) :=
  described.backend.map fun backend => (backend, described.shadowMode.getD .opened)

namespace Context

private theorem perform_resolve {context : Context} {surroundings : Surroundings} {backend : BackendId}
    (resolves : surroundings.Resolves context.session backend) (past : List Happening) :
    ∃ answer handle, nodeIn? answer = some handle ∧ perform surroundings (context.resolve backend).run past =
      (.ok handle, past ++ [⟨.request context.session (.resolveNode backend), .ok answer⟩]) := by
  obtain ⟨answer, handle, told, found⟩ := resolves past
  obtain ⟨object, readable, held⟩ := Option.bind_eq_some_iff.mp found
  refine ⟨answer, handle, found, ?_⟩
  rw [resolve, perform_bind_ok (perform_callAbout _ told readable), held]
  rfl

end Context

namespace Element

variable (host : Element)

abbrev inquiry : Act := .request host.context.session (.describeNode (some host.handle) none 1 true)

/-- Of the roots that are described with a name handles are asked for, one after another and nothing else, and each
becomes a root with its own handle, name and mode. -/
structure Discovered (named : List (BackendId × ShadowMode)) (asked : List Happening) (roots : List ShadowRoot) :
    Prop where
  acts : asked.map Happening.act = named.map fun root => .request host.context.session (.resolveNode root.1)
  named : roots.map (fun root => (root.backend, root.mode)) = named
  resolved : asked.map Happening.resolved? = roots.map fun root => some root.handle
  hosted : ∀ root ∈ roots, root.host = host ∧ root.context = host.context

/-- The first root of that kind, or an error that names the host if there is none. -/
structure FirstOf (kind : ShadowRoot → Prop) (roots : List ShadowRoot) (outcome : Except Error ShadowRoot) : Prop where
  found : ∀ root, outcome = .ok root ↔
    ∃ before after, roots = before ++ root :: after ∧ kind root ∧ ∀ other ∈ before, ¬kind other
  missing : outcome = .error (.shadowRootNotFound host.reference) ↔ ∀ root ∈ roots, ¬kind root

variable {host} {surroundings : Surroundings}

theorem Discovered.cons {named : List (BackendId × ShadowMode)} {asked : List Happening} {roots : List ShadowRoot}
    (discovered : host.Discovered named asked roots) {backend : BackendId} {answer : Json} {handle : Handle}
    (found : nodeIn? answer = some handle) (mode : ShadowMode) :
    host.Discovered ((backend, mode) :: named)
      (⟨.request host.context.session (.resolveNode backend), .ok answer⟩ :: asked)
      (⟨handle, mode, backend, host⟩ :: roots) where
  acts := congrArg (List.cons _) discovered.acts
  named := congrArg (List.cons _) discovered.named
  resolved := congrArg₂ List.cons found discovered.resolved
  hosted := List.forall_mem_cons.mpr ⟨⟨rfl, rfl⟩, discovered.hosted⟩

/-- Descriptions without a name are passed over, and what is found for the others stays in their order. -/
private theorem perform_resolveRoots {described : List Node}
    (resolves : ∀ root ∈ described.filterMap Node.namedRoot?, surroundings.Resolves host.context.session root.1)
    (past : List Happening) :
    ∃ asked roots, host.Discovered (described.filterMap Node.namedRoot?) asked roots ∧
      perform surroundings (host.resolveRoots described).run past = (.ok roots, past ++ asked) := by
  induction described generalizing past with
  | nil => exact ⟨[], [], ⟨rfl, rfl, rfl, List.forall_mem_nil _⟩, by rw [List.append_nil]; rfl⟩
  | cons first later ih =>
      unfold resolveRoots
      cases name : first.backend with
      | none =>
          have nameless : first.namedRoot? = none := by rw [Node.namedRoot?, name]; rfl
          rw [List.filterMap_cons_none nameless] at resolves ⊢
          exact ih resolves past
      | some backend =>
          have called : first.namedRoot? = some (backend, first.shadowMode.getD .opened) := by
            rw [Node.namedRoot?, name]
            rfl
          rw [List.filterMap_cons_some called] at resolves ⊢
          obtain ⟨gives, others⟩ := List.forall_mem_cons.mp resolves
          obtain ⟨answer, handle, found, resolved⟩ := Context.perform_resolve gives past
          obtain ⟨asked, roots, discovered, rest⟩ :=
            ih others (past ++ [⟨.request host.context.session (.resolveNode backend), .ok answer⟩])
          refine ⟨_, _, discovered.cons found _, ?_⟩
          rw [perform_bind_ok resolved, perform_bind_ok rest, List.append_assoc]
          rfl

private theorem perform_shadowRoots {past : List Happening} {answer : Json} {node : Node}
    (told : surroundings past host.inquiry = .ok answer) (readable : Node.ofDescribed? answer = some node)
    (resolves : ∀ root ∈ node.shadowRoots.filterMap Node.namedRoot?,
      surroundings.Resolves host.context.session root.1) :
    ∃ asked roots, host.Discovered (node.shadowRoots.filterMap Node.namedRoot?) asked roots ∧
      perform surroundings host.shadowRoots.run past = (.ok roots, past ++ ⟨host.inquiry, .ok answer⟩ :: asked) := by
  obtain ⟨asked, roots, discovered, rest⟩ :=
    perform_resolveRoots resolves (past ++ [⟨host.inquiry, .ok answer⟩])
  have described : perform surroundings (host.context.describe host.reference 1).run past =
      (.ok node, past ++ [⟨host.inquiry, .ok answer⟩]) := perform_callAbout _ told readable
  refine ⟨asked, roots, discovered, ?_⟩
  rw [shadowRoots, perform_bind_ok described, rest, List.append_assoc]
  rfl

private theorem firstOf_of_find? {wanted : ShadowRoot → Bool} {kind : ShadowRoot → Prop}
    (decides : ∀ root, wanted root = true ↔ kind root) {roots : List ShadowRoot} {outcome : Except Error ShadowRoot}
    (found : ∀ root, outcome = .ok root ↔ roots.find? wanted = some root)
    (missing : outcome = .error (.shadowRootNotFound host.reference) ↔ roots.find? wanted = none) :
    host.FirstOf kind roots outcome where
  found root := by
    rw [found, List.find?_eq_some_iff_append]
    simp only [Bool.not_eq_true', ← Bool.not_eq_true, decides]
    constructor
    · rintro ⟨is, before, after, parts, others⟩
      exact ⟨before, after, parts, is, others⟩
    · rintro ⟨before, after, parts, is, others⟩
      exact ⟨is, before, after, parts, others⟩
  missing := by
    rw [missing, List.find?_eq_none]
    simp only [decides]

private theorem perform_firstRoot {past later : List Happening} {roots : List ShadowRoot}
    (run : perform surroundings host.shadowRoots.run past = (.ok roots, later)) {wanted : ShadowRoot → Bool}
    {kind : ShadowRoot → Prop} (decides : ∀ root, wanted root = true ↔ kind root) :
    ∃ outcome, host.FirstOf kind roots outcome ∧
      perform surroundings (host.firstRoot wanted).run past = (outcome, later) := by
  rw [firstRoot, perform_bind_ok run]
  cases first : roots.find? wanted with
  | none =>
      refine ⟨.error (.shadowRootNotFound host.reference), firstOf_of_find? decides (fun root => ?_) ?_, rfl⟩
      · simp [first]
      · simp [first]
  | some root =>
      refine ⟨.ok root, firstOf_of_find? decides (fun other => ?_) ?_, rfl⟩
      · simp [first]
      · simp [first]

/-- What is seen in one look for a shadow root. It is in vain if the host is told to have none. -/
inductive Sighted (host : Element) : List Happening → Except Error (Option ShadowRoot) → Prop
  | found {own : List Happening} {root : ShadowRoot} (run : Run host.shadowRoot.run own (.ok root)) :
      Sighted host own (.ok (some root))
  | missing {own : List Happening} {owner : NodeRef}
      (run : Run host.shadowRoot.run own (.error (.shadowRootNotFound owner)))
      (named : owner = host.reference ∨ RemoteDom.Told own (.shadowRootNotFound owner)) : Sighted host own (.ok none)
  | failed {own : List Happening} {error : Error} (run : Run host.shadowRoot.run own (.error error))
      (other : ∀ owner, error ≠ .shadowRootNotFound owner) : Sighted host own (.error error)

/-- What finding a shadow root fails with of its own accord. -/
inductive RootFault (host : Element) : Error → Prop
  | query {error : Error} (is : QueryFault error) : RootFault host error
  | missing : RootFault host (.shadowRootNotFound host.reference)

private theorem yields_resolveRoots (described : List Node) :
    Yields (fun _ => True) QueryFault (host.resolveRoots described) := by
  induction described with
  | nil => exact yields_pure trivial
  | cons first later ih =>
      unfold resolveRoots
      cases first.backend with
      | none => exact ih
      | some backend =>
          exact (host.context.yields_resolve backend).bind fun _ _ => ih.bind fun _ _ => yields_pure trivial

private theorem yields_firstRoot (wanted : ShadowRoot → Bool) :
    Yields (fun _ => True) host.RootFault (host.firstRoot wanted) := by
  have roots : Yields (fun _ => True) QueryFault host.shadowRoots :=
    (host.context.yields_describe host.reference 1).bind fun node _ => yields_resolveRoots node.shadowRoots
  refine (roots.weaken (fun _ _ => trivial) fun _ is => .query is).bind fun roots _ => ?_
  split
  · exact yields_pure trivial
  · exact yields_throw .missing

private theorem leaves_shadowRoot? : Leaves host.Sighted host.shadowRoot?.run := by
  have looked : Leaves (fun own outcome => ∃ seen, Run host.shadowRoot.run own seen ∧ outcome = some <$> seen)
      (some <$> host.shadowRoot).run := by
    rw [map_eq_pure_bind]
    refine leaves_bind (ClientProgram.leaves_run _) (fun own error run => ⟨_, run, rfl⟩) fun own root run => ?_
    exact ⟨_, by rwa [List.append_nil], rfl⟩
  apply Leaves.bind (α := Except Error (Option ShadowRoot)) (β := Except Error (Option ShadowRoot)) looked
  rintro own outcome ⟨seen, run, rfl⟩
  cases seen with
  | ok root =>
      show host.Sighted (own ++ []) (.ok (some root))
      rw [List.append_nil]
      exact .found run
  | error error =>
      cases error with
      | shadowRootNotFound owner =>
          show host.Sighted (own ++ []) (.ok none)
          rw [List.append_nil]
          refine .missing run ?_
          cases (yields_firstRoot _).of_run run with
          | told told => exact .inr told
          | fault is =>
              cases is with
              | query is => cases is
              | missing => exact .inl rfl
      | _ =>
          show host.Sighted (own ++ []) (.error _)
          rw [List.append_nil]
          exact .failed run nofun

/-- Shadow roots are found in the order of the description, and the first of a kind is the one that is given; a wait for
one looks again only after a look that found none, and no call ends with the error that says so. -/
theorem shadowRoots_in_order :
    (∀ (surroundings : Surroundings) (host : Element) (past : List Happening) (answer : Json) (node : Node),
      surroundings past host.inquiry = .ok answer → Node.ofDescribed? answer = some node →
      (∀ root ∈ node.shadowRoots.filterMap Node.namedRoot?,
        surroundings.Resolves host.context.session root.1) →
      ∃ asked roots first internal later, later = past ++ ⟨host.inquiry, .ok answer⟩ :: asked ∧
        host.Discovered (node.shadowRoots.filterMap Node.namedRoot?) asked roots ∧
        perform surroundings host.shadowRoots.run past = (.ok roots, later) ∧
        perform surroundings host.shadowRoot.run past = (first, later) ∧
        host.FirstOf (fun root => root.mode ≠ .userAgent) roots first ∧
        perform surroundings host.userAgentShadowRoot.run past = (internal, later) ∧
        host.FirstOf (fun root => root.mode = .userAgent) roots internal) ∧
    (∀ (surroundings : Surroundings) (host : Element) (patience : Patience) (past : List Happening),
      ∃ own, (perform surroundings (host.waitForShadowRoot patience).run past).2 = past ++ own ∧
        (Steady 0 own →
          Waited host.Sighted ("wait for shadow root on " ++ host.reference.display) patience own
            (perform surroundings (host.waitForShadowRoot patience).run past).1)) ∧
    ∀ session command owner, ¬CallEnd session command (.error (.shadowRootNotFound owner)) := by
  refine ⟨fun surroundings host past answer node told readable resolves => ?_,
    fun surroundings host patience past => ?_, fun session command owner ended => ?_⟩
  · obtain ⟨asked, roots, discovered, run⟩ := perform_shadowRoots told readable resolves
    have authored (root : ShadowRoot) : (!root.isUserAgent) = true ↔ root.mode ≠ .userAgent := by
      simp [ShadowRoot.isUserAgent]
    have built_in (root : ShadowRoot) : root.isUserAgent = true ↔ root.mode = .userAgent := by
      simp [ShadowRoot.isUserAgent]
    obtain ⟨first, is_first, given⟩ := perform_firstRoot run authored
    obtain ⟨internal, is_internal, also⟩ := perform_firstRoot run built_in
    exact ⟨asked, roots, first, internal, _, rfl, discovered, run, given, is_first, also, is_internal⟩
  · exact (leaves_pollOrFail leaves_shadowRoot? _ patience).perform surroundings past
  · cases isCarried_of_callEnd ended

end Element

def describing (description : Json) : Surroundings := fun past act =>
  match act with
  | .request _ (.describeNode ..) => .ok (.object [("node", description)])
  | .request _ (.resolveNode _) =>
      .ok (.object [("object", .object [("type", .string "object"), ("objectId", .string "root")])])
  | .request _ _ => .ok (.object [])
  | own => offline past own

def inputField : Element := ⟨⟨"input"⟩, ⟨.topLevel, .usual, ⟨0⟩⟩, ⟨0⟩⟩

/-- The field has a root of the browser, one without a name, a closed one and one that does not tell its mode. -/
def inputRoots : Json := .object [("shadowRoots", .array
  [.object [("backendNodeId", .integer 2), ("shadowRootType", .string "user-agent")],
    .object [("shadowRootType", .string "open")],
    .object [("backendNodeId", .integer 3), ("shadowRootType", .string "closed")],
    .object [("backendNodeId", .integer 4)]])]

/-- The named roots of the field come in their order; the one that does not tell its mode is open. -/
theorem Element.shadowRoots_in_order_mixed :
    ∃ asked roots later, inputField.Discovered [(⟨2⟩, .userAgent), (⟨3⟩, .closed), (⟨4⟩, .opened)] asked roots ∧
      perform (describing inputRoots) inputField.shadowRoots.run [] = (.ok roots, later) := by
  have resolves (session : SessionId) (backend : BackendId) : (describing inputRoots).Resolves session backend :=
    fun _ => ⟨_, ⟨"root"⟩, rfl, rfl⟩
  obtain ⟨asked, roots, -, -, later, -, discovered, run, -⟩ :=
    shadowRoots_in_order.1 (describing inputRoots) inputField [] _ _ rfl rfl fun root _ => resolves _ root.1
  exact ⟨asked, roots, later, discovered, run⟩

end RemoteDom
