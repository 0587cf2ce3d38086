import RemoteDom.Proofs.Program.Traces

/-! Why operations fail. The fault is their own, or it is what the browser said to a request of theirs. -/

namespace RemoteDom

open ClientProgram (Leaves)

def Told (own : List Happening) (error : Error) : Prop :=
  ∃ session command, ⟨.request session command, .error error⟩ ∈ own

variable {α β : Type} {good : α → Prop} {fine : β → Prop} {fault : Error → Prop} {own : List Happening}

/-- An outcome that is good, or a fault of the operation, or what a request ended with. -/
inductive Yielded (good : α → Prop) (fault : Error → Prop) (own : List Happening) : Except Error α → Prop
  | value {value : α} (held : good value) : Yielded good fault own (.ok value)
  | fault {error : Error} (is : fault error) : Yielded good fault own (.error error)
  | told {error : Error} (told : Told own error) : Yielded good fault own (.error error)

/-- However it is answered, the operation gives something good, or its failure can be accounted for. -/
def Yields (good : α → Prop) (fault : Error → Prop) (operation : Browsing α) : Prop :=
  Leaves (Yielded good fault) operation.run

theorem Told.append {error : Error} (told : Told own error) (more : List Happening) : Told (own ++ more) error := by
  obtain ⟨session, command, member⟩ := told
  exact ⟨session, command, List.mem_append_left more member⟩

theorem Yielded.after {more : List Happening} {outcome : Except Error α} (yielded : Yielded good fault more outcome)
    (own : List Happening) : Yielded good fault (own ++ more) outcome := by
  cases yielded with
  | value held => exact .value held
  | fault is => exact .fault is
  | told told =>
      obtain ⟨session, command, member⟩ := told
      exact .told ⟨session, command, List.mem_append_right own member⟩

theorem Yields.after {operation : Browsing α} (yields : Yields good fault operation) (own : List Happening) :
    Leaves (fun more => Yielded good fault (own ++ more)) operation.run :=
  yields.weaken fun _ _ yielded => yielded.after own

theorem Yields.weaken {enough : α → Prop} {wider : Error → Prop} {operation : Browsing α}
    (yields : Yields good fault operation) (implies : ∀ value, good value → enough value)
    (allowed : ∀ error, fault error → wider error) : Yields enough wider operation := by
  apply Leaves.weaken yields
  intro own outcome yielded
  cases yielded with
  | value held => exact .value (implies _ held)
  | fault is => exact .fault (allowed _ is)
  | told told => exact .told told

theorem yields_pure {value : α} (held : good value) : Yields good fault (pure value) := Yielded.value held

theorem yields_throw {error : Error} (is : fault error) : Yields good fault (throw error) := Yielded.fault is

theorem yields_outcome {outcome : Except Error α} (is : ∀ error, outcome = .error error → fault error) :
    Yields (fun _ => True) fault (ExceptT.mk (pure outcome)) := by
  cases outcome with
  | ok value => exact Yielded.value trivial
  | error error => exact Yielded.fault (is error rfl)

theorem Yields.bind {operation : Browsing α} {next : α → Browsing β} (first : Yields good fault operation)
    (onward : ∀ value, good value → Yields fine fault (next value)) : Yields fine fault (operation >>= next) := by
  apply leaves_bind first
  · intro own error yielded
    cases yielded with
    | fault is => exact .fault is
    | told told => exact .told told
  · intro own value yielded
    cases yielded with
    | value held => exact (onward value held).after own

theorem Yields.map {operation : Browsing α} {change : α → β} (yields : Yields good fault operation)
    (implies : ∀ value, good value → fine (change value)) : Yields fine fault (change <$> operation) := by
  rw [map_eq_pure_bind]
  exact yields.bind fun value held => yields_pure (implies value held)

theorem Yields.lift {operation : Browsing α} {next : Except Error α → Browsing β} (first : Yields good fault operation)
    (onward : ∀ outcome, Yields fine (fun error => fault error ∨ outcome = .error error) (next outcome)) :
    Yields fine fault (ExceptT.lift operation.run >>= next) := by
  apply leaves_lift first
  intro own outcome yielded
  apply Leaves.weaken (onward outcome)
  intro more result later
  cases later with
  | value held => exact .value held
  | told told => exact (Yielded.told told).after own
  | fault is =>
      rcases is with is | rfl
      · exact .fault is
      · cases yielded with
        | fault is => exact .fault is
        | told told => exact .told (told.append more)

theorem yields_mapM {items : List α} {make : α → Browsing β}
    (each : ∀ item, Yields (fun _ => True) fault (make item)) :
    Yields (fun _ => True) fault (items.mapM make) := by
  induction items with
  | nil => exact yields_pure trivial
  | cons item rest ih =>
      rw [List.mapM_cons]
      exact (each item).bind fun _ _ => ih.bind fun _ _ => yields_pure trivial

theorem yields_ask (act : Act) : Yields (fun _ => True) fault (Browsing.ask act) :=
  fun _ => Yielded.value trivial

theorem yields_execute (session : SessionId) (command : Command) :
    Yields (fun _ => True) fault (Browsing.execute session command) := by
  intro answer
  cases answer with
  | ok answer => exact Yielded.value trivial
  | error error => exact Yielded.told ⟨session, command, List.mem_singleton_self _⟩

theorem yields_call {session : SessionId} {command : Command} {read : Json → Option α} (json : fault .json) :
    Yields (fun _ => True) fault (Browsing.call session command read) := by
  apply (yields_execute session command).bind
  intro answer _
  cases read answer with
  | none => exact yields_throw json
  | some value => exact yields_pure trivial

private theorem Error.toStale_cases (reference : NodeRef) (error : Error) :
    toStale reference error = error ∨
      ∃ session message, toStale reference error = .stale reference session message := by
  unfold toStale
  split
  · split
    · exact .inr ⟨_, _, rfl⟩
    · exact .inl rfl
  · exact .inl rfl

theorem Yields.about {operation : Browsing α} {reference : NodeRef} (yields : Yields good fault operation)
    (stale : ∀ session message, fault (.stale reference session message)) :
    Yields good fault (Browsing.about reference operation) := by
  apply Leaves.bind (α := Except Error α) (β := Except Error α) yields
  intro own outcome yielded
  show Yielded good fault (own ++ []) _
  rw [List.append_nil]
  cases outcome with
  | ok value => exact yielded
  | error error =>
      show Yielded good fault own (.error (Error.toStale reference error))
      rcases Error.toStale_cases reference error with same | ⟨session, message, same⟩
      · rw [same]
        exact yielded
      · rw [same]
        exact .fault (stale session message)

private theorem yields_lookUntil {look : Browsing (Option α)} (yields : Yields (fun _ => True) fault look)
    (deadline interval looks : Nat) : Yields (fun _ => True) fault (lookUntil deadline interval look looks) := by
  induction looks with
  | zero => exact yields_pure trivial
  | succ looks ih =>
      apply yields.bind
      intro found _
      cases found with
      | some value => exact yields_pure trivial
      | none =>
          apply Yields.bind (yields_ask .now)
          intro time _
          split
          · exact yields_pure trivial
          · exact Yields.bind (yields_ask (.sleep _)) fun _ _ => ih

theorem yields_pollOrFail {look : Browsing (Option α)} {text : String} {patience : Patience}
    (yields : Yields (fun _ => True) fault look) (timeout : fault (.timeout text patience.shownTimeout)) :
    Yields (fun _ => True) fault (pollOrFail text patience look) := by
  unfold pollOrFail poll
  rw [bind_assoc]
  apply Yields.bind (yields_ask .now)
  intro start _
  apply (yields_lookUntil yields _ _ _).bind
  intro found _
  cases found with
  | none => exact yields_throw timeout
  | some value => exact yields_pure trivial

end RemoteDom
