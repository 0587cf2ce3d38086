import RemoteDom.Proofs.Program.Heeding

/-! What happens while a program runs, together with what it gives. The runs of a program in all surroundings
are described by one relation, and the runs of an operation by those of its parts. -/

namespace RemoteDom

namespace ClientProgram

variable {α β : Type}

/-- However a program is answered, what happens while it runs is related to what it gives. -/
def Leaves (related : List Happening → α → Prop) : ClientProgram α → Prop
  | .done value => related [] value
  | .act act next =>
      ∀ answer, Leaves (fun own value => related (⟨act, answer⟩ :: own) value) (next answer)

variable {related : List Happening → α → Prop}

theorem Leaves.weaken {other : List Happening → α → Prop} {program : ClientProgram α}
    (leaves : Leaves related program) (implies : ∀ own value, related own value → other own value) :
    Leaves other program := by
  induction program generalizing related other with
  | done value => exact implies [] value leaves
  | act act next ih => exact fun answer => ih answer (leaves answer) fun own value => implies _ value

theorem Leaves.bind {program : ClientProgram α} {next : α → ClientProgram β}
    {overall : List Happening → β → Prop} (first : Leaves related program)
    (onward : ∀ own value, related own value → Leaves (fun more => overall (own ++ more)) (next value)) :
    Leaves overall (program >>= next) := by
  induction program generalizing related overall with
  | done value => exact onward [] value first
  | act act rest ih => exact fun answer => ih answer (first answer) fun own value => onward _ value

theorem Leaves.upholds {program : ClientProgram α} (leaves : Leaves related program) (past : List Happening) :
    Upholds (fun _ _ => True) (fun later value => ∃ own, later = past ++ own ∧ related own value)
      program past := by
  induction program generalizing related past with
  | done value => exact ⟨[], by simp, leaves⟩
  | act act next ih =>
      refine ⟨trivial, fun answer => (ih answer (leaves answer) _).weaken ?_⟩
      rintro value later - ⟨own, rfl, held⟩
      exact ⟨⟨act, answer⟩ :: own, by simp, held⟩

theorem Leaves.perform {program : ClientProgram α} (leaves : Leaves related program)
    (surroundings : Surroundings) (past : List Happening) :
    ∃ own, (perform surroundings program past).2 = past ++ own ∧
      related own (perform surroundings program past).1 := by
  obtain ⟨own, journal, ⟨left, same, held⟩, -⟩ := (leaves.upholds past).of_perform surroundings past
  exact ⟨own, journal, List.append_cancel_left same ▸ held⟩

end ClientProgram

open ClientProgram (Leaves)

variable {α β : Type} {related : List Happening → Except Error α → Prop}
  {overall : List Happening → Except Error β → Prop}

theorem leaves_bind {operation : Browsing α} {next : α → Browsing β} (first : Leaves related operation.run)
    (failed : ∀ own error, related own (.error error) → overall own (.error error))
    (onward : ∀ own value, related own (.ok value) → Leaves (fun more => overall (own ++ more)) (next value).run) :
    Leaves overall (operation >>= next).run := by
  apply Leaves.bind (α := Except Error α) (β := Except Error β) first
  intro own outcome held
  cases outcome with
  | ok value => exact onward own value held
  | error error =>
      show overall (own ++ []) (.error error)
      exact own.append_nil.symm ▸ failed own error held

theorem leaves_lift {operation : Browsing α} {next : Except Error α → Browsing β}
    (first : Leaves related operation.run)
    (onward : ∀ own outcome, related own outcome → Leaves (fun more => overall (own ++ more)) (next outcome).run) :
    Leaves overall (ExceptT.lift operation.run >>= next).run := by
  rw [ExceptT.run_bind_lift]
  exact Leaves.bind (α := Except Error α) (β := Except Error β) first onward

inductive Asked {γ : Type} (session : SessionId) (command : Command) (read : Json → Option γ) :
    List Happening → Except Error γ → Prop
  | told (answer : Json) (value : γ) (readable : read answer = some value) :
      Asked session command read [⟨.request session command, .ok answer⟩] (.ok value)
  | unread (answer : Except Error Json) (error : Error) (unreadable : answer.toOption.bind read = none) :
      Asked session command read [⟨.request session command, answer⟩] (.error error)

theorem leaves_call (session : SessionId) (command : Command) (read : Json → Option α) :
    Leaves (Asked session command read) (Browsing.call session command read).run := by
  intro answer
  cases answer with
  | error error => exact .unread (.error error) error rfl
  | ok answer =>
      show Leaves _ (Browsing.expect (read answer)).run
      cases readable : read answer with
      | none => exact .unread (.ok answer) .json readable
      | some value => exact .told answer value readable

theorem leaves_about {operation : Browsing α} {session : SessionId} {command : Command} {read : Json → Option α}
    (leaves : Leaves (Asked session command read) operation.run) (reference : NodeRef) :
    Leaves (Asked session command read) (Browsing.about reference operation).run := by
  apply Leaves.bind (α := Except Error α) (β := Except Error α) leaves
  rintro own outcome (⟨answer, value, readable⟩ | ⟨answer, error, unreadable⟩)
  · exact .told answer value readable
  · exact .unread answer _ unreadable

theorem ClientProgram.Leaves.heeds {operation : Browsing α} {good : α → Prop} (leaves : Leaves related operation.run)
    (implies : ∀ own value, related own (.ok value) → good value) (past : List Happening) :
    Heeds (fun _ _ => True) (fun _ value => good value) operation past := by
  apply (leaves.upholds past).weaken
  rintro outcome later - ⟨own, rfl, held⟩ value rfl
  exact implies own value held

end RemoteDom
