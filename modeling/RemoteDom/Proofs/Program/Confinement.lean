import RemoteDom.Proofs.Program.Heeding

/-! Operations that do nothing but what is allowed, whatever has happened before and however they are answered. -/

namespace RemoteDom

theorem ClientProgram.Upholds.widen {γ : Type} {safe wider : List Happening → Act → Prop}
    {good : List Happening → γ → Prop} {program : ClientProgram γ} {past : List Happening}
    (upholds : Upholds safe good program past) (more : ∀ past act, safe past act → wider past act) :
    Upholds wider good program past := by
  induction program generalizing past with
  | done value => exact upholds
  | act act next ih => exact ⟨more past act upholds.1, fun answer => ih answer (upholds.2 answer)⟩

/-- However it is answered, all that an operation does is allowed. -/
def Confined {α : Type} (allowed : Act → Prop) (operation : Browsing α) : Prop :=
  ∀ past, Heeds (fun _ => allowed) (fun _ _ => True) operation past

variable {α β : Type} {allowed : Act → Prop}

theorem confined_pure (value : α) : Confined allowed (pure value) := fun _ => heeds_pure trivial

theorem confined_throw (error : Error) : Confined allowed (throw error : Browsing α) := fun _ => heeds_throw error

theorem confined_outcome (outcome : Except Error α) : Confined allowed (ExceptT.mk (pure outcome)) :=
  fun _ => heeds_outcome fun _ _ => trivial

theorem Confined.bind {operation : Browsing α} {next : α → Browsing β} (first : Confined allowed operation)
    (onward : ∀ value, Confined allowed (next value)) : Confined allowed (operation >>= next) :=
  fun past => (first past).andThen fun value later _ => onward value later

theorem confined_ask {act : Act} (is : allowed act) : Confined allowed (Browsing.ask act) :=
  fun _ => heeds_ask is fun _ => trivial

theorem confined_execute {session : SessionId} {command : Command} (is : allowed (.request session command)) :
    Confined allowed (Browsing.execute session command) :=
  fun _ => heeds_execute is fun _ => trivial

theorem confined_call {session : SessionId} {command : Command} {read : Json → Option α}
    (is : allowed (.request session command)) : Confined allowed (Browsing.call session command read) :=
  fun _ => heeds_call is fun _ _ _ => trivial

theorem Confined.about {operation : Browsing α} (confined : Confined allowed operation) (reference : NodeRef) :
    Confined allowed (Browsing.about reference operation) :=
  fun past => (confined past).about reference

theorem confined_callAbout {reference : NodeRef} {session : SessionId} {command : Command} {read : Json → Option α}
    (is : allowed (.request session command)) :
    Confined allowed (Browsing.about reference (Browsing.call session command read)) :=
  (confined_call is).about reference

theorem Confined.lift {operation : Browsing α} {next : Except Error α → Browsing β}
    (first : Confined allowed operation) (onward : ∀ outcome, Confined allowed (next outcome)) :
    Confined allowed (ExceptT.lift operation.run >>= next) :=
  fun past => (first past).lift.bind fun outcome later _ _ => onward outcome later

theorem confined_mapM {items : List α} {make : α → Browsing β} (each : ∀ item, Confined allowed (make item)) :
    Confined allowed (items.mapM make) := by
  induction items with
  | nil => exact confined_pure _
  | cons item rest ih =>
      rw [List.mapM_cons]
      exact (each item).bind fun first => ih.bind fun others => confined_pure _

theorem Confined.mono {wider : Act → Prop} {operation : Browsing α} (confined : Confined allowed operation)
    (more : ∀ act, allowed act → wider act) : Confined wider operation :=
  fun past => ClientProgram.Upholds.widen (confined past) fun _ => more

end RemoteDom
