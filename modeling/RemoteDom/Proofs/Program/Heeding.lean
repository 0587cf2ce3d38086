import RemoteDom.Proofs.Program.Journal

/-! Operations in surroundings that answer as they like: rules by which what an operation does and gives follows
from what its parts do and give. -/

namespace RemoteDom

/-- However it is answered, all that an operation does is safe, and what it gives, if it succeeds, is good. -/
def Heeds {α : Type} (safe : List Happening → Act → Prop) (good : List Happening → α → Prop)
    (operation : Browsing α) (past : List Happening) : Prop :=
  ClientProgram.Upholds safe (fun later outcome => ∀ value, outcome = .ok value → good later value)
    operation.run past

variable {α β : Type} {safe : List Happening → Act → Prop} {good : List Happening → α → Prop}
  {fine : List Happening → β → Prop} {past : List Happening}

theorem heeds_pure {value : α} (held : good past value) : Heeds safe good (pure value) past := by
  intro other same
  obtain rfl := Except.ok.inj same
  exact held

theorem heeds_throw (error : Error) : Heeds safe good (throw error) past := by
  intro value same
  cases same

theorem Heeds.bind {operation : Browsing α} {next : α → Browsing β} (first : Heeds safe good operation past)
    (onward : ∀ value later, past <+: later → good later value → Heeds safe fine (next value) later) :
    Heeds safe fine (operation >>= next) past := by
  apply ClientProgram.Upholds.bind (α := Except Error α) (β := Except Error β) first
  intro outcome later longer held
  cases outcome with
  | ok value => exact onward value later longer (held value rfl)
  | error error => exact heeds_throw error

theorem Heeds.andThen {operation : Browsing α} {next : α → Browsing β}
    (first : Heeds safe (fun _ _ => True) operation past)
    (onward : ∀ value later, past <+: later → Heeds safe fine (next value) later) :
    Heeds safe fine (operation >>= next) past :=
  first.bind fun value later longer _ => onward value later longer

theorem Heeds.weaken {enough : List Happening → α → Prop} {operation : Browsing α}
    (heeds : Heeds safe good operation past)
    (implies : ∀ value later, past <+: later → good later value → enough later value) :
    Heeds safe enough operation past := by
  apply ClientProgram.Upholds.weaken (α := Except Error α) heeds
  intro outcome later longer held value same
  exact implies value later longer (held value same)

theorem Heeds.map {operation : Browsing α} (change : α → β) (heeds : Heeds safe good operation past)
    (implies : ∀ value later, past <+: later → good later value → fine later (change value)) :
    Heeds safe fine (change <$> operation) past := by
  rw [map_eq_pure_bind]
  exact heeds.bind fun value later longer held => heeds_pure (implies value later longer held)

theorem heeds_ask {act : Act} {good : List Happening → act.Answer → Prop} (allowed : safe past act)
    (held : ∀ answer, good (past ++ [⟨act, answer⟩]) answer) : Heeds safe good (Browsing.ask act) past := by
  refine ⟨allowed, fun answer value same => ?_⟩
  obtain rfl := Except.ok.inj same
  exact held answer

theorem heeds_execute {session : SessionId} {command : Command} {good : List Happening → Json → Prop}
    (allowed : safe past (.request session command))
    (held : ∀ answer, good (past ++ [⟨.request session command, .ok answer⟩]) answer) :
    Heeds safe good (Browsing.execute session command) past := by
  refine ⟨allowed, fun outcome value same => ?_⟩
  obtain rfl : outcome = .ok value := same
  exact held value

theorem heeds_expect {found : Option α} (held : ∀ value, found = some value → good past value) :
    Heeds safe good (Browsing.expect found) past := by
  cases found with
  | none => exact heeds_throw _
  | some value => exact heeds_pure (held value rfl)

theorem heeds_call {session : SessionId} {command : Command} {read : Json → Option α}
    (allowed : safe past (.request session command))
    (held : ∀ answer value, read answer = some value →
      good (past ++ [⟨.request session command, .ok answer⟩]) value) :
    Heeds safe good (Browsing.call session command read) past := by
  have executed : Heeds safe (fun later answer => later = past ++ [⟨.request session command, .ok answer⟩])
      (Browsing.execute session command) past := heeds_execute allowed fun _ => rfl
  apply executed.bind
  rintro answer later - rfl
  exact heeds_expect fun value found => held answer value found

theorem Heeds.about {operation : Browsing α} (heeds : Heeds safe good operation past) (reference : NodeRef) :
    Heeds safe good (Browsing.about reference operation) past := by
  apply ClientProgram.Upholds.bind (α := Except Error α) (β := Except Error α) heeds
  intro outcome later longer held value same
  cases outcome with
  | ok found => exact held value same
  | error error => cases same

theorem Heeds.lift {operation : Browsing α} (heeds : Heeds safe good operation past) :
    Heeds safe (fun later outcome => ∀ value, outcome = .ok value → good later value)
      (ExceptT.lift operation.run) past := by
  apply ClientProgram.Upholds.bind (α := Except Error α) (β := Except Error (Except Error α)) heeds
  intro outcome later longer held value same
  obtain rfl := Except.ok.inj same
  exact held

theorem heeds_outcome {outcome : Except Error α} (held : ∀ value, outcome = .ok value → good past value) :
    Heeds safe good (ExceptT.mk (pure outcome)) past := held

theorem Heeds.tryCatch {operation : Browsing α} {handle : Error → Browsing α}
    (heeds : Heeds safe good operation past)
    (onward : ∀ error later, past <+: later → Heeds safe good (handle error) later) :
    Heeds safe good (tryCatch operation handle) past := by
  apply ClientProgram.Upholds.bind (α := Except Error α) (β := Except Error α) heeds
  intro outcome later longer held
  cases outcome with
  | ok value => exact held
  | error error => exact onward error later longer

theorem heeds_mapM {items : List α} {make : α → Browsing β}
    (lasting : ∀ earlier later value, earlier <+: later → fine earlier value → fine later value)
    (each : ∀ item ∈ items, ∀ later, past <+: later → Heeds safe fine (make item) later) :
    Heeds safe (fun later values => ∀ value ∈ values, fine later value) (items.mapM make) past := by
  induction items generalizing past with
  | nil => exact heeds_pure (by simp)
  | cons item rest ih =>
      rw [List.mapM_cons]
      apply (each item List.mem_cons_self past (List.prefix_refl past)).bind
      intro first later longer made
      refine (ih fun other member further beyond =>
        each other (List.mem_cons_of_mem item member) further (longer.trans beyond)).bind ?_
      intro others further beyond held
      apply heeds_pure
      simpa using ⟨lasting later further first beyond made, held⟩

/-- At any time it is safe to look at the clock and to sleep. -/
structure Timely (safe : List Happening → Act → Prop) : Prop where
  now : ∀ past, safe past .now
  sleep : ∀ past time, safe past (.sleep time)

private theorem heeds_now (timely : Timely safe) :
    Heeds safe (fun _ _ => True) (Clock.now : Browsing Nat) past := by
  show Heeds safe _ (Browsing.ask .now) past
  exact heeds_ask (timely.now past) fun _ => trivial

private theorem heeds_sleep (timely : Timely safe) (time : Nat) :
    Heeds safe (fun _ _ => True) (Clock.sleep time : Browsing Unit) past := by
  show Heeds safe _ (Browsing.ask (.sleep time)) past
  exact heeds_ask (timely.sleep past time) fun _ => trivial

private theorem heeds_lookUntil (timely : Timely safe) {look : Browsing (Option α)} {deadline interval : Nat}
    (looks : Nat)
    (heeds : ∀ later, past <+: later →
      Heeds safe (fun further found => ∀ value, found = some value → good further value) look later) :
    Heeds safe (fun later found => ∀ value, found = some value → good later value)
      (lookUntil deadline interval look looks) past := by
  induction looks generalizing past with
  | zero => exact heeds_pure (by simp)
  | succ looks ih =>
      apply (heeds past (List.prefix_refl past)).bind
      intro found later longer held
      cases found with
      | some value => exact heeds_pure held
      | none =>
          refine (heeds_now timely).bind fun time further beyond _ => ?_
          split
          · exact heeds_pure (by simp)
          · refine (heeds_sleep timely _).bind fun _ last ahead _ => ih fun other after => ?_
            exact heeds other (((longer.trans beyond).trans ahead).trans after)

theorem heeds_pollOrFail (timely : Timely safe) {look : Browsing (Option α)} {text : String} {patience : Patience}
    (heeds : ∀ later, past <+: later →
      Heeds safe (fun further found => ∀ value, found = some value → good further value) look later) :
    Heeds safe good (pollOrFail text patience look) past := by
  unfold pollOrFail poll
  rw [bind_assoc]
  refine (heeds_now timely).bind fun start later longer _ => ?_
  refine (heeds_lookUntil timely _ fun further beyond => heeds further (longer.trans beyond)).bind ?_
  intro found further beyond held
  cases found with
  | none => exact heeds_throw _
  | some value => exact heeds_pure (held value rfl)

end RemoteDom
