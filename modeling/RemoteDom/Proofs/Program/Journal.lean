import RemoteDom.Client.Act

/-! Programs of a client in surroundings that answer as they like. What happens is written down in a
journal, from which the surroundings choose their next answer. -/

namespace RemoteDom

/-- An act and the answer that it got. -/
structure Happening where
  act : Act
  answer : act.Answer

/-- How acts are answered, given all that has happened. The browser is part of it, and so are the time and
what the client remembers. -/
abbrev Surroundings := List Happening → (act : Act) → act.Answer

namespace ClientProgram

variable {α β : Type}

def respond (surroundings : Surroundings) (act : Act) : StateM (List Happening) act.Answer :=
  fun past => (surroundings past act, past ++ [⟨act, surroundings past act⟩])

/-- What a program gives and the journal after it, given the journal before it. -/
def perform (surroundings : Surroundings) (program : ClientProgram α) (past : List Happening) :
    α × List Happening :=
  program.run (respond surroundings) past

@[simp]
theorem perform_done (surroundings : Surroundings) (value : α) (past : List Happening) :
    perform surroundings (.done value) past = (value, past) := rfl

@[simp]
theorem perform_act (surroundings : Surroundings) (act : Act) (next : act.Answer → ClientProgram α)
    (past : List Happening) :
    perform surroundings (.act act next) past =
      perform surroundings (next (surroundings past act))
        (past ++ [⟨act, surroundings past act⟩]) := rfl

/-- However a program is answered, each of its acts is safe after what happened before it, and what it
gives is good after all that happened. -/
def Upholds (safe : List Happening → Act → Prop) (good : List Happening → α → Prop) :
    ClientProgram α → List Happening → Prop
  | .done value, past => good past value
  | .act act next, past =>
      safe past act ∧ ∀ answer, Upholds safe good (next answer) (past ++ [⟨act, answer⟩])

variable {safe : List Happening → Act → Prop} {good : List Happening → α → Prop}
  {fine : List Happening → β → Prop} {past : List Happening}

@[simp]
theorem upholds_done (value : α) : Upholds safe good (.done value) past ↔ good past value := Iff.rfl

@[simp]
theorem upholds_act (act : Act) (next : act.Answer → ClientProgram α) :
    Upholds safe good (.act act next) past ↔
      safe past act ∧ ∀ answer, Upholds safe good (next answer) (past ++ [⟨act, answer⟩]) := Iff.rfl

theorem Upholds.bind {program : ClientProgram α} {next : α → ClientProgram β}
    (first : Upholds safe good program past)
    (onward : ∀ value later, past <+: later → good later value → Upholds safe fine (next value) later) :
    Upholds safe fine (program >>= next) past := by
  induction program generalizing past with
  | done value => exact onward value past (List.prefix_refl past) first
  | act act rest ih =>
      refine ⟨first.1, fun answer => ih answer (first.2 answer) ?_⟩
      intro value later longer held
      exact onward value later ((List.prefix_append past _).trans longer) held

theorem Upholds.weaken {program : ClientProgram α} {enough : List Happening → α → Prop}
    (upholds : Upholds safe good program past)
    (implies : ∀ value later, past <+: later → good later value → enough later value) :
    Upholds safe enough program past := by
  rw [← Program.bind_done program]
  exact upholds.bind implies

/-- A program that upholds something does so in all surroundings, whatever happened beside what it relies
on. -/
theorem Upholds.of_perform {program : ClientProgram α} (upholds : Upholds safe good program past)
    (surroundings : Surroundings) (before : List Happening) :
    ∃ own, (perform surroundings program before).2 = before ++ own ∧
      good (past ++ own) (perform surroundings program before).1 ∧
      ∀ earlier happening later, own = earlier ++ happening :: later →
        safe (past ++ earlier) happening.act := by
  induction program generalizing past before with
  | done value => exact ⟨[], by simp, by simpa using upholds, by simp⟩
  | act act next ih =>
      obtain ⟨own, journal, held, kept⟩ := ih (surroundings before act)
        (upholds.2 (surroundings before act)) (before ++ [⟨act, surroundings before act⟩])
      refine ⟨⟨act, surroundings before act⟩ :: own, by simpa using journal, by simpa using held, ?_⟩
      intro earlier happening later parts
      cases earlier with
      | nil =>
          obtain ⟨rfl, -⟩ := List.cons.inj parts
          simpa using upholds.1
      | cons first earlier =>
          obtain ⟨rfl, rest⟩ := List.cons.inj parts
          simpa using kept earlier happening later rest

theorem answers_of_perform (surroundings : Surroundings) (program : ClientProgram α) (past : List Happening) :
    ∃ own, (perform surroundings program past).2 = past ++ own ∧
      ∀ happening ∈ own, ∃ before, happening.answer = surroundings before happening.act := by
  induction program generalizing past with
  | done value => exact ⟨[], by simp, by simp⟩
  | act act next ih =>
      obtain ⟨own, journal, answered⟩ := ih (surroundings past act) (past ++ [⟨act, surroundings past act⟩])
      refine ⟨⟨act, surroundings past act⟩ :: own, by simpa using journal, ?_⟩
      exact List.forall_mem_cons.mpr ⟨⟨past, rfl⟩, answered⟩

end ClientProgram

end RemoteDom
