import RemoteDom.Proofs.Dom.Provenance
import RemoteDom.Proofs.Program.Traces

/-! Refusals that say a node is gone. An operation surfaces them if it ends with the first one, and fails with the
reference that the refused command named. The rules tell how operations that do are put together. -/

namespace RemoteDom

open ClientProgram (Leaves)

/-- A refusal of a command says that a node or object that the command names is gone, and the error reports that.
Whether the browser takes a handle back is of no concern. -/
inductive Happening.Ends : Happening → Error → Prop where
  | refused {session told : SessionId} {command : Command} {code : Int} {message method : String}
      {reference : NodeRef} (gone : Error.isStaleMessage message = true) (named : reference ∈ command.named)
      (matters : ∀ handle, command ≠ .releaseObject handle) :
      Ends ⟨.request session command, .error (.protocol code message method told)⟩ (.stale reference told message)

/-- None of the happenings says that a node is gone. -/
def Calm (own : List Happening) : Prop := ∀ happening ∈ own, ∀ error, ¬happening.Ends error

/-- Where a happening says that a node is gone it is the last, and its error is the outcome. -/
def Surfaced {α : Type} (own : List Happening) (outcome : Except Error α) : Prop :=
  ∀ before happening after error, own = before ++ happening :: after → happening.Ends error →
    after = [] ∧ outcome = .error error

variable {α β : Type} {own more : List Happening} {outcome : Except Error α}

theorem Happening.Ends.isStale {happening : Happening} {error : Error} (ends : happening.Ends error) :
    error.isStale = true := by
  cases ends
  rfl

private theorem calm_nil : Calm [] := by simp [Calm]

theorem Calm.surfaced (calm : Calm own) : Surfaced own outcome := by
  rintro before happening after error rfl ends
  exact absurd ends (calm happening (by simp) error)

private theorem Surfaced.calm {value : α} (surfaced : Surfaced own (.ok value : Except Error α)) : Calm own := by
  intro happening member error ends
  obtain ⟨before, after, parts⟩ := List.append_of_mem member
  cases (surfaced before happening after error parts ends).2

/-- If the outcome is one that no node's end has, nothing said that a node is gone. -/
private theorem Surfaced.calm_of_not_stale {error : Error} (surfaced : Surfaced own (.error error : Except Error α))
    (other : error.isStale = false) : Calm own := by
  intro happening member stale ends
  obtain ⟨before, after, parts⟩ := List.append_of_mem member
  obtain ⟨-, same⟩ := surfaced before happening after stale parts ends
  rw [Except.error.inj same, ends.isStale] at other
  cases other

theorem Surfaced.append (surfaced : Surfaced more outcome) (calm : Calm own) : Surfaced (own ++ more) outcome := by
  induction own with
  | nil => exact surfaced
  | cons first rest ih =>
      intro before happening after error parts ends
      cases before with
      | nil =>
          obtain ⟨rfl, -⟩ := List.cons.inj parts
          exact absurd ends (calm first List.mem_cons_self error)
      | cons _ before =>
          obtain ⟨-, parts⟩ := List.cons.inj parts
          exact ih (fun other member => calm other (List.mem_cons_of_mem first member)) before happening after error
            parts ends

private theorem surfaced_sole {happening : Happening}
    (reported : ∀ error, happening.Ends error → outcome = .error error) :
    Surfaced [happening] outcome := by
  intro before other after error parts ends
  obtain ⟨rfl, rest⟩ | ⟨_, -, rest⟩ := List.cons_eq_append_iff.mp parts
  · obtain ⟨rfl, rfl⟩ := List.cons.inj rest
    exact ⟨rfl, reported _ ends⟩
  · simp at rest

/-- However it is answered, the operation is not told that a node is gone. -/
def Quiet (operation : Browsing α) : Prop := Leaves (fun own _ => Calm own) operation.run

/-- However it is answered, the operation surfaces what it is told of nodes that are gone. -/
def Surfaces (operation : Browsing α) : Prop := Leaves Surfaced operation.run

theorem Quiet.surfaces {operation : Browsing α} (quiet : Quiet operation) : Surfaces operation :=
  Leaves.weaken quiet fun _ _ calm => calm.surfaced

theorem Quiet.about {operation : Browsing α} (quiet : Quiet operation) (reference : NodeRef) :
    Quiet (Browsing.about reference operation) := by
  apply Leaves.bind (α := Except Error α) (β := Except Error α) quiet
  intro own outcome calm
  show Calm (own ++ [])
  rwa [List.append_nil]

theorem surfaces_pure (value : α) : Surfaces (pure value) := calm_nil.surfaced

theorem surfaces_throw (error : Error) : Surfaces (throw error : Browsing α) := calm_nil.surfaced

theorem surfaces_outcome (outcome : Except Error α) : Surfaces (ExceptT.mk (pure outcome)) := calm_nil.surfaced

private theorem leaves_after_calm {program : ClientProgram (Except Error α)} (leaves : Leaves Surfaced program)
    (calm : Calm own) : Leaves (fun more => Surfaced (own ++ more)) program :=
  leaves.weaken fun _ _ surfaced => surfaced.append calm

theorem Surfaces.bind {operation : Browsing α} {next : α → Browsing β} (first : Surfaces operation)
    (onward : ∀ value, Surfaces (next value)) : Surfaces (operation >>= next) := by
  apply leaves_bind first
  · intro own error surfaced before happening after stale parts ends
    obtain ⟨last, same⟩ := surfaced before happening after stale parts ends
    exact ⟨last, congrArg Except.error (Except.error.inj same)⟩
  · exact fun own value surfaced => leaves_after_calm (onward value) surfaced.calm

theorem Surfaces.map {operation : Browsing α} (change : α → β) (surfaces : Surfaces operation) :
    Surfaces (change <$> operation) := by
  rw [map_eq_pure_bind]
  exact surfaces.bind fun value => surfaces_pure (change value)

theorem Surfaces.tryCatch {operation : Browsing α} {handle : Error → Browsing α} (surfaces : Surfaces operation)
    (handled : ∀ error, Surfaces (handle error))
    (rethrown : ∀ error, error.isStale = true → handle error = throw error) :
    Surfaces (tryCatch operation handle) := by
  apply Leaves.bind (α := Except Error α) (β := Except Error α) surfaces
  intro own outcome surfaced
  cases outcome with
  | ok value => exact leaves_after_calm (surfaces_pure value) surfaced.calm
  | error error =>
      cases stale : error.isStale with
      | false => exact leaves_after_calm (handled error) (surfaced.calm_of_not_stale stale)
      | true =>
          show Leaves _ (handle error).run
          rw [rethrown error stale]
          show Surfaced (own ++ []) _
          rwa [List.append_nil]

theorem surfaces_after_lift {operation : Browsing α} {next : Except Error α → Browsing β} (quiet : Quiet operation)
    (onward : ∀ outcome, Surfaces (next outcome)) : Surfaces (ExceptT.lift operation.run >>= next) :=
  leaves_lift quiet fun _ outcome calm => leaves_after_calm (onward outcome) calm

theorem surfaces_mapM {items : List α} {make : α → Browsing β} (each : ∀ item, Surfaces (make item)) :
    Surfaces (items.mapM make) := by
  induction items with
  | nil => exact surfaces_pure _
  | cons item rest ih =>
      rw [List.mapM_cons]
      exact (each item).bind fun first => ih.bind fun others => surfaces_pure _

theorem surfaces_ask (act : Act) (own : ∀ session command, act ≠ .request session command) :
    Surfaces (Browsing.ask act) := by
  intro answer
  exact surfaced_sole fun error ends => by cases ends; exact absurd rfl (own _ _)

section Relaying

variable {session : SessionId} {command : Command}

def Relays (session : SessionId) (command : Command) (own : List Happening) (outcome : Except Error α) : Prop :=
  ∃ answer, own = [⟨.request session command, answer⟩] ∧ ∀ error, answer = .error error → outcome = .error error

theorem relays_execute : Leaves (Relays session command) (Browsing.execute session command).run :=
  fun answer => ⟨answer, rfl, fun _ same => same⟩

theorem relays_call (read : Json → Option α) :
    Leaves (Relays session command) (Browsing.call session command read).run := by
  apply leaves_bind relays_execute
  · rintro own error ⟨answer, rfl, same⟩
    exact ⟨answer, rfl, fun other told => congrArg Except.error (Except.error.inj (same other told))⟩
  · rintro own value ⟨answer, rfl, same⟩
    have accepted (outcome : Except Error α) : Relays session command [⟨.request session command, answer⟩] outcome :=
      ⟨answer, rfl, fun other told => nomatch same other told⟩
    cases read value <;> exact accepted _

theorem quiet_of_relays {operation : Browsing α} (relays : Leaves (Relays session command) operation.run)
    (harmless : ∀ answer error, ¬Happening.Ends ⟨.request session command, answer⟩ error) : Quiet operation := by
  apply relays.weaken
  rintro own outcome ⟨answer, rfl, -⟩ happening member
  obtain rfl := List.mem_singleton.mp member
  exact harmless answer

theorem harmless_of_nameless (nameless : command.references = []) (answer : Except Error Json) (error : Error) :
    ¬Happening.Ends ⟨.request session command, answer⟩ error := by
  rintro ⟨gone, named, matters⟩
  have inside := Command.references_of_named named
  simp [nameless] at inside

/-- A handle is given back without regard to what the browser says. -/
theorem harmless_release {handle : Handle} (answer : Except Error Json) (error : Error) :
    ¬Happening.Ends ⟨.request session (.releaseObject handle), answer⟩ error := by
  rintro ⟨gone, named, matters⟩
  exact matters handle rfl

theorem surfaces_about {operation : Browsing α} {reference : NodeRef}
    (relays : Leaves (Relays session command) operation.run) (sole : command.references = [reference]) :
    Surfaces (Browsing.about reference operation) := by
  apply Leaves.bind (α := Except Error α) (β := Except Error α) relays
  rintro own outcome ⟨answer, rfl, same⟩
  refine surfaced_sole fun error ends => ?_
  cases ends with
  | refused gone named matters =>
      have inside := Command.references_of_named named
      obtain rfl := List.mem_singleton.mp (sole ▸ inside)
      rw [same _ rfl]
      exact congrArg Except.error (Error.toStale_protocol _ _ _ _ _ gone)

end Relaying

section Waiting

private theorem surfaces_lookUntil {look : Browsing (Option α)} (surfaces : Surfaces look)
    (deadline interval looks : Nat) :
    Surfaces (lookUntil deadline interval look looks) := by
  induction looks with
  | zero => exact surfaces_pure _
  | succ looks ih =>
      refine surfaces.bind fun found => ?_
      cases found with
      | some value => exact surfaces_pure _
      | none =>
          refine Surfaces.bind (surfaces_ask .now nofun) fun time => ?_
          split
          · exact surfaces_pure _
          · exact Surfaces.bind (surfaces_ask (.sleep _) nofun) fun _ => ih

/-- To look again and again is to stop at the first look that is told of an end. -/
theorem surfaces_pollOrFail {look : Browsing (Option α)} (surfaces : Surfaces look) (text : String)
    (patience : Patience) : Surfaces (pollOrFail text patience look) := by
  unfold pollOrFail poll
  rw [bind_assoc]
  refine Surfaces.bind (surfaces_ask .now nofun) fun start => ?_
  refine (surfaces_lookUntil surfaces _ _ _).bind fun found => ?_
  cases found with
  | none => exact surfaces_throw _
  | some value => exact surfaces_pure value

end Waiting

end RemoteDom
