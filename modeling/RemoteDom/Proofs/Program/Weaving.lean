import RemoteDom.Proofs.Session.Callers

/-! Programs in which pieces of one kind stand whole, among acts that are plain. The operations of a client attach and
detach by whole errands and leave the sessions alone otherwise. -/

namespace RemoteDom

universe u v

namespace Program

variable {Act : Type u} {Wide : Type v} {Answer : Act → Type} {WideAnswer : Wide → Type} {ι α β γ : Type}

/-- The program does nothing but what is allowed, however it is answered. -/
def Every (allowed : Act → Prop) : Program Answer α → Prop
  | .done _ => True
  | .act request next => allowed request ∧ ∀ answer, Every allowed (next answer)

inductive Woven (plain : Act → Prop) (piece : ι → Program Answer β) : Program Answer α → Prop
  | done (value : α) : Woven plain piece (.done value)
  | act {request : Act} {next : Answer request → Program Answer α} (is : plain request)
      (onward : ∀ answer, Woven plain piece (next answer)) : Woven plain piece (.act request next)
  | piece (which : ι) {next : β → Program Answer α} (onward : ∀ value, Woven plain piece (next value)) :
      Woven plain piece (piece which >>= next)

theorem Every.bind {allowed : Act → Prop} {program : Program Answer α} {next : α → Program Answer β}
    (first : program.Every allowed) (onward : ∀ value, (next value).Every allowed) :
    (program >>= next).Every allowed := by
  induction program with
  | done value => exact onward value
  | act request rest ih => exact ⟨first.1, fun answer => ih answer (first.2 answer)⟩

private theorem within_bind (widen : Act → Wide)
    (narrow : (request : Act) → WideAnswer (widen request) → Answer request)
    (program : Program Answer α) (next : α → Program Answer β) :
    (program >>= next).within widen narrow =
      program.within widen narrow >>= fun value => (next value).within widen narrow := by
  induction program with
  | done value => rfl
  | act request rest ih => exact congrArg _ (funext fun answer => ih _)

variable {plain : Act → Prop} {piece : ι → Program Answer β}

theorem Woven.bind {program : Program Answer α} {next : α → Program Answer γ} (first : program.Woven plain piece)
    (onward : ∀ value, (next value).Woven plain piece) : (program >>= next).Woven plain piece := by
  induction first with
  | done value => exact onward value
  | act is _ ih => exact .act is ih
  | piece which _ ih =>
      rw [bind_bind]
      exact .piece which ih

theorem Woven.every {allowed : Act → Prop} {program : Program Answer α} (woven : program.Woven plain piece)
    (fine : ∀ request, plain request → allowed request) (pieces : ∀ which, (piece which).Every allowed) :
    program.Every allowed := by
  induction woven with
  | done value => trivial
  | act is _ ih => exact ⟨fine _ is, ih⟩
  | piece which _ ih => exact (pieces which).bind ih

theorem Woven.within {widePlain : Wide → Prop} {program : Program Answer α} (woven : program.Woven plain piece)
    {widen : Act → Wide} (fine : ∀ request, plain request → widePlain (widen request))
    (narrow : (request : Act) → WideAnswer (widen request) → Answer request) :
    (program.within widen narrow).Woven widePlain fun which => (piece which).within widen narrow := by
  induction woven with
  | done value => exact .done value
  | act is _ ih => exact .act (fine _ is) fun answer => ih _
  | piece which _ ih =>
      rw [within_bind]
      exact .piece which ih

end Program

/-- The act leaves the sessions and the turn to attach as they are. -/
def Act.isPlain : Act → Bool
  | .enterAttach | .leaveAttach | .store _ | .assign _ _ | .forget _ => false
  | _ => true

namespace Browsing

variable {α β : Type} {operation : Browsing α}

def Woven (operation : Browsing α) : Prop :=
  Program.Woven (fun act => act.isPlain = true) Errand.program operation.run

theorem woven_pure (value : α) : Woven (pure value) := .done _

theorem woven_throw (error : Error) : Woven (throw error : Browsing α) := .done _

theorem woven_outcome (outcome : Except Error α) : Woven (ExceptT.mk (pure outcome)) := .done _

theorem Woven.bind {next : α → Browsing β} (first : Woven operation) (onward : ∀ value, Woven (next value)) :
    Woven (operation >>= next) := by
  refine Program.Woven.bind (α := Except Error α) (γ := Except Error β) first fun outcome => ?_
  cases outcome with
  | ok value => exact onward value
  | error error => exact .done _

theorem Woven.map (change : α → β) (woven : Woven operation) : Woven (change <$> operation) := by
  rw [map_eq_pure_bind]
  exact woven.bind fun value => woven_pure _

theorem woven_ask {act : Act} (plain : act.isPlain = true) : Woven (ask act) := .act plain fun _ => .done _

theorem woven_execute (session : SessionId) (command : Command) : Woven (execute session command) :=
  .act rfl fun _ => .done _

theorem woven_expect (found : Option α) : Woven (expect found) := by
  cases found with
  | none => exact woven_throw _
  | some value => exact woven_pure value

theorem woven_call (session : SessionId) (command : Command) (read : Json → Option α) :
    Woven (call session command read) :=
  (woven_execute session command).bind fun _ => woven_expect _

theorem Woven.about (woven : Woven operation) (reference : NodeRef) : Woven (about reference operation) :=
  Program.Woven.bind (α := Except Error α) (γ := Except Error α) woven fun _ => .done _

theorem Woven.lift {next : Except Error α → Browsing β} (first : Woven operation)
    (onward : ∀ outcome, Woven (next outcome)) : Woven (ExceptT.lift operation.run >>= next) := by
  unfold Woven
  rw [ExceptT.run_bind_lift]
  exact Program.Woven.bind first onward

theorem Woven.tryCatch {handle : Error → Browsing α} (woven : Woven operation)
    (onward : ∀ error, Woven (handle error)) : Woven (tryCatch operation handle) := by
  refine Program.Woven.bind (α := Except Error α) (γ := Except Error α) woven fun outcome => ?_
  cases outcome with
  | ok value => exact .done _
  | error error => exact onward error

theorem woven_mapM {items : List α} {make : α → Browsing β} (each : ∀ item, Woven (make item)) :
    Woven (items.mapM make) := by
  induction items with
  | nil => exact woven_pure _
  | cons item rest ih =>
      rw [List.mapM_cons]
      exact (each item).bind fun first => ih.bind fun others => woven_pure _

theorem woven_pollOrFail {look : Browsing (Option α)} (woven : Woven look) (text : String) (patience : Patience) :
    Woven (pollOrFail text patience look) := by
  have now : Woven (Clock.now : Browsing Nat) := woven_ask rfl
  have looking (deadline interval looks : Nat) : Woven (lookUntil deadline interval look looks) := by
    induction looks with
    | zero => exact woven_pure _
    | succ looks ih =>
        refine woven.bind fun found => ?_
        cases found with
        | some value => exact woven_pure _
        | none =>
            refine now.bind fun time => ?_
            split
            · exact woven_pure _
            · exact Woven.bind (woven_ask rfl : Woven (Clock.sleep _ : Browsing Unit)) fun _ => ih
  unfold pollOrFail poll
  rw [bind_assoc]
  refine now.bind fun start => (looking _ _ _).bind fun found => ?_
  cases found with
  | none => exact woven_throw _
  | some value => exact woven_pure value

end Browsing

end RemoteDom
