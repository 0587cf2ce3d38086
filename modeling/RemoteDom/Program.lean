/-! Programs that act on their surroundings. A program is a tree: it is done, or it acts and goes on
with the answer. What an act does is left to whoever runs the program. -/

namespace RemoteDom

universe u v

/-- A program over acts of which each has answers of its own type. -/
inductive Program {Act : Type u} (Answer : Act → Type) (α : Type) where
  | done (value : α)
  | act (request : Act) (next : Answer request → Program Answer α)

namespace Program

variable {Act : Type u} {Answer : Act → Type} {α β γ : Type}

def bind : Program Answer α → (α → Program Answer β) → Program Answer β
  | .done value, next => next value
  | .act request rest, next => .act request fun answer => bind (rest answer) next

instance : Monad (Program Answer) where
  pure := .done
  bind := bind

@[simp]
theorem done_bind (value : α) (next : α → Program Answer β) : (.done value) >>= next = next value :=
  rfl

@[simp]
theorem act_bind (request : Act) (rest : Answer request → Program Answer α)
    (next : α → Program Answer β) :
    (.act request rest) >>= next = .act request fun answer => rest answer >>= next := rfl

theorem bind_done (program : Program Answer α) : program >>= .done = program := by
  induction program with
  | done value => rfl
  | act request rest ih => rw [act_bind]; exact congrArg _ (funext ih)

theorem bind_bind (program : Program Answer α) (first : α → Program Answer β)
    (second : β → Program Answer γ) :
    program >>= first >>= second = program >>= fun value => first value >>= second := by
  induction program with
  | done value => rfl
  | act request rest ih => simp only [act_bind]; exact congrArg _ (funext ih)

instance : LawfulMonad (Program Answer) :=
  LawfulMonad.mk' (Program Answer) bind_done done_bind bind_bind

/-- The same program over wider acts. -/
def within {Wide : Type v} {WideAnswer : Wide → Type} (widen : Act → Wide)
    (narrow : (request : Act) → WideAnswer (widen request) → Answer request) :
    Program Answer α → Program WideAnswer α
  | .done value => .done value
  | .act request next =>
      .act (widen request) fun answer => within widen narrow (next (narrow request answer))

/-- Runs a program with an answer for every act. -/
def run {m : Type → Type v} [Monad m] (answer : (request : Act) → m (Answer request)) :
    Program Answer α → m α
  | .done value => pure value
  | .act request next => do run answer (next (← answer request))

end Program

end RemoteDom
