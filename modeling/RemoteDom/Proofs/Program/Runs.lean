import RemoteDom.Proofs.Client.Waiting
import RemoteDom.Proofs.Program.Confinement
import RemoteDom.Proofs.Program.Traces

/-! Single runs of programs. What is known of all runs is known of each, and a wait can be told look by look. -/

namespace RemoteDom

namespace ClientProgram

variable {α β : Type} {related : List Happening → α → Prop}

/-- A program can run in this way: that happens, and it gives that. -/
inductive Run : ClientProgram α → List Happening → α → Prop
  | done (value : α) : Run (.done value) [] value
  | act {act : Act} {next : act.Answer → ClientProgram α} {answer : act.Answer} {own : List Happening} {value : α}
      (rest : Run (next answer) own value) : Run (.act act next) (⟨act, answer⟩ :: own) value

theorem leaves_run (program : ClientProgram α) : Leaves (Run program) program := by
  induction program with
  | done value => exact .done value
  | act act next ih => exact fun answer => (ih answer).weaken fun own value run => .act run

theorem Leaves.of_run {program : ClientProgram α} (leaves : Leaves related program) {own : List Happening} {value : α}
    (run : Run program own value) : related own value := by
  induction run generalizing related with
  | done value => exact leaves
  | @act act next answer own value rest ih => exact ih (leaves answer)

/-- However acts of that kind are answered, the program goes on in one way. -/
def Indifferent (kind : Act → Prop) : ClientProgram α → Prop
  | .done _ => True
  | .act act next =>
      (kind act → ∀ answer other, next answer = next other) ∧ ∀ answer, Indifferent kind (next answer)

theorem Indifferent.bind {kind : Act → Prop} {program : ClientProgram α} {next : α → ClientProgram β}
    (first : Indifferent kind program) (onward : ∀ value, Indifferent kind (next value)) :
    Indifferent kind (program >>= next) := by
  induction program with
  | done value => exact onward value
  | act act rest ih =>
      refine ⟨fun is answer other => ?_, fun answer => ih answer (first.2 answer)⟩
      show rest answer >>= next = rest other >>= next
      rw [first.1 is answer other]

theorem Indifferent.of_fewer {kind fewer : Act → Prop} {program : ClientProgram α}
    (indifferent : Indifferent kind program) (among : ∀ act, fewer act → kind act) : Indifferent fewer program := by
  induction program with
  | done value => trivial
  | act act next ih => exact ⟨fun is => indifferent.1 (among act is), fun answer => ih answer (indifferent.2 answer)⟩

theorem perform_bind (surroundings : Surroundings) (program : ClientProgram α) (next : α → ClientProgram β)
    (past : List Happening) :
    perform surroundings (program >>= next) past =
      perform surroundings (next (perform surroundings program past).1) (perform surroundings program past).2 := by
  induction program generalizing past with
  | done value => rfl
  | act act rest ih => exact ih _ _

private theorem nonempty_answer (act : Act) : Nonempty act.Answer := by
  cases act with
  | newMemo => exact ⟨⟨0⟩⟩
  | _ => exact ⟨default⟩

/-- Every act has an answer, so every program can run to its end. -/
private theorem exists_run (program : ClientProgram α) : ∃ own value, Run program own value := by
  induction program with
  | done value => exact ⟨[], value, .done value⟩
  | act act next ih =>
      obtain ⟨answer⟩ := nonempty_answer act
      obtain ⟨own, value, run⟩ := ih answer
      exact ⟨⟨act, answer⟩ :: own, value, .act run⟩

/-- A program that never acts in that way does not mind. -/
theorem Leaves.indifferent {kind : Act → Prop} {program : ClientProgram α}
    (leaves : Leaves (fun own _ => ∀ happening ∈ own, ¬kind happening.act) program) : Indifferent kind program := by
  induction program with
  | done value => trivial
  | act act next ih =>
      refine ⟨fun is answer _ => ?_, fun answer => ih answer ?_⟩
      · obtain ⟨own, value, run⟩ := exists_run (next answer)
        exact absurd is ((leaves answer).of_run run _ List.mem_cons_self)
      · exact (leaves answer).weaken fun own _ never happening member => never happening (List.mem_cons_of_mem _ member)

end ClientProgram

open ClientProgram (Leaves Run Indifferent perform)

variable {α β : Type}

theorem Confined.leaves {allowed : Act → Prop} {operation : Browsing α} (confined : Confined allowed operation) :
    Leaves (fun own _ => ∀ happening ∈ own, allowed happening.act) operation.run := by
  have upholds := confined []
  unfold Heeds at upholds
  generalize operation.run = program, ([] : List Happening) = past at upholds
  induction program generalizing past with
  | done value => exact List.forall_mem_nil _
  | act act next ih =>
      intro answer
      exact (ih answer (past ++ [⟨act, answer⟩]) (upholds.2 answer)).weaken fun own _ within =>
        List.forall_mem_cons.mpr ⟨upholds.1, within⟩

theorem indifferent_bind {kind : Act → Prop} {operation : Browsing α} {next : α → Browsing β}
    (first : Indifferent kind operation.run) (onward : ∀ value, Indifferent kind (next value).run) :
    Indifferent kind (operation >>= next).run := by
  apply ClientProgram.Indifferent.bind (α := Except Error α) (β := Except Error β) first
  intro outcome
  cases outcome with
  | ok value => exact onward value
  | error error => trivial

theorem perform_bind_ok {surroundings : Surroundings} {operation : Browsing α} {next : α → Browsing β}
    {past later : List Happening} {value : α} (run : perform surroundings operation.run past = (.ok value, later)) :
    perform surroundings (operation >>= next).run past = perform surroundings (next value).run later := by
  show perform surroundings (operation.run >>= ExceptT.bindCont next) past = _
  rw [ClientProgram.perform_bind, run]
  rfl

theorem perform_callAbout {surroundings : Surroundings} {past : List Happening} {session : SessionId}
    {command : Command} {read : Json → Option α} {answer : Json} {value : α} (reference : NodeRef)
    (told : surroundings past (.request session command) = .ok answer) (readable : read answer = some value) :
    perform surroundings (Browsing.about reference (Browsing.call session command read)).run past =
      (.ok value, past ++ [⟨.request session command, .ok answer⟩]) := by
  have asked : perform surroundings (Browsing.call session command read).run past =
      (.ok value, past ++ [⟨.request session command, .ok answer⟩]) := by
    have request : perform surroundings (Browsing.execute session command).run past =
        (.ok answer, past ++ [⟨.request session command, .ok answer⟩]) := by
      rw [← told]
      rfl
    rw [Browsing.call, perform_bind_ok request, readable]
    rfl
  show perform surroundings ((Browsing.call session command read).run >>= _) past = _
  rw [ClientProgram.perform_bind, asked]
  rfl

/-! Time. -/

/-- From that time on time does not go back, and it passes while one sleeps. -/
def Steady : Nat → List Happening → Prop
  | _, [] => True
  | since, ⟨.now, time⟩ :: rest => since ≤ time ∧ Steady time rest
  | since, ⟨.sleep time, _⟩ :: rest => Steady (since + time) rest
  | since, _ :: rest => Steady since rest

theorem Steady.behind {own rest : List Happening} {since : Nat} (steady : Steady since (own ++ rest)) :
    ∃ later, since ≤ later ∧ Steady later rest := by
  induction own generalizing since with
  | nil => exact ⟨since, Nat.le_refl since, steady⟩
  | cons first own ih =>
      obtain ⟨act, answer⟩ := first
      cases act with
      | now =>
          obtain ⟨later, after, behind⟩ := ih steady.2
          exact ⟨later, Nat.le_trans steady.1 after, behind⟩
      | sleep time =>
          obtain ⟨later, after, behind⟩ := @ih (since + time) steady
          exact ⟨later, Nat.le_trans (Nat.le_add_right since time) after, behind⟩
      | _ => exact @ih since steady

/-! Waits. -/

section Waits

variable {seen : List Happening → Except Error (Option α) → Prop} {deadline interval : Nat}

/-- Some looks were in vain, each over in time. -/
inductive InVain (seen : List Happening → Except Error (Option α) → Prop) (deadline interval : Nat) :
    Nat → List Happening → Prop
  | none : InVain seen deadline interval 0 []
  | look {own more : List Happening} {looks now : Nat} (vain : seen own (.ok none)) (early : now < deadline)
      (further : InVain seen deadline interval looks more) :
      InVain seen deadline interval (looks + 1)
        (own ++ ⟨.now, now⟩ :: ⟨.sleep (min interval (deadline - now)), ()⟩ :: more)

/-- How a wait goes, given what is seen in each look: it ends with the first look that finds something or fails, or that
is in vain and not over before the deadline. -/
inductive Watched (seen : List Happening → Except Error (Option α) → Prop) (deadline interval : Nat) :
    List Happening → Except Error (Option α) → Prop
  | found {own : List Happening} {value : α} (saw : seen own (.ok (some value))) :
      Watched seen deadline interval own (.ok (some value))
  | failed {own : List Happening} {error : Error} (saw : seen own (.error error)) :
      Watched seen deadline interval own (.error error)
  | late {own : List Happening} {now : Nat} (vain : seen own (.ok none)) (overdue : deadline ≤ now) :
      Watched seen deadline interval (own ++ [⟨.now, now⟩]) (.ok none)
  | again {own more : List Happening} {finding : Except Error (Option α)} {now : Nat}
      (vain : seen own (.ok none)) (early : now < deadline) (further : Watched seen deadline interval more finding) :
      Watched seen deadline interval
        (own ++ ⟨.now, now⟩ :: ⟨.sleep (min interval (deadline - now)), ()⟩ :: more) finding

private theorem leaves_lookUntil {look : Browsing (Option α)} (leaves : Leaves seen look.run)
    (deadline interval looks : Nat) :
    Leaves (fun own finding => Watched seen deadline interval own finding ∨ InVain seen deadline interval looks own)
      (lookUntil deadline interval look looks).run := by
  induction looks with
  | zero => exact .inr .none
  | succ looks ih =>
      refine leaves_bind leaves ?_ ?_
      · exact fun own error failed => .inl (.failed failed)
      · intro own found saw
        cases found with
        | some value =>
            show Watched seen deadline interval (own ++ []) _ ∨ _
            rw [List.append_nil]
            exact .inl (.found saw)
        | none =>
            intro now
            show Leaves _ (if deadline ≤ now then pure none else _ : Browsing (Option α)).run
            split
            next overdue => exact .inl (.late saw overdue)
            next early =>
              intro slept
              refine ih.weaken fun more finding behind => behind.imp ?_ ?_
              · exact .again saw (Nat.lt_of_not_le early)
              · exact .look saw (Nat.lt_of_not_le early)

/-- While time passes, looks in vain with a pause after each come to the deadline. -/
theorem InVain.bound {looks : Nat} {own : List Happening} (vain : InVain seen deadline interval looks own)
    {since : Nat} (steady : Steady since own) : looks = 0 ∨ since + (looks - 1) * interval < deadline := by
  induction vain generalizing since with
  | none => exact .inl rfl
  | @look _ more looks now _ early _ ih =>
      obtain ⟨later, after, passed, rest⟩ := steady.behind
      have bound := @ih (now + min interval (deadline - now)) rest
      right
      rw [Nat.add_sub_cancel]
      cases looks with
      | zero => omega
      | succ looks =>
          rw [Nat.add_sub_cancel] at bound
          rw [Nat.succ_mul]
          omega

/-- Time does not run so slowly that a wait with pauses uses up its looks. -/
theorem not_inVain_looks {patience : Patience} (pausing : patience.interval ≠ 0) {start : Nat} {own : List Happening}
    (steady : Steady start own) :
    ¬InVain seen (start + patience.timeout) patience.interval patience.looks own := by
  intro vain
  have whole := Nat.lt_div_mul_add (a := patience.timeout) (Nat.pos_of_ne_zero pausing)
  have count : patience.looks = patience.timeout / patience.interval + 1 + 1 := if_neg pausing
  rcases vain.bound steady with spent | early
  · exact absurd (count.symm.trans spent) (Nat.succ_ne_zero _)
  · rw [count, Nat.add_sub_cancel, Nat.succ_mul] at early
    omega

/-- How a whole wait goes: it begins with a look at the clock, from which the deadline is reckoned. Without a pause
between them it is over after so many looks in vain. -/
inductive Waited (seen : List Happening → Except Error (Option α) → Prop) (operation : String) (patience : Patience) :
    List Happening → Except Error α → Prop
  | watched {start : Nat} {own : List Happening} {finding : Except Error (Option α)}
      (watched : Watched seen (start + patience.timeout) patience.interval own finding) :
      Waited seen operation patience (⟨.now, start⟩ :: own) (patience.verdict operation finding)
  | unpaused {start : Nat} {own : List Happening} {outcome : Except Error α} (restless : patience.interval = 0)
      (vain : InVain seen (start + patience.timeout) 0 (2 ^ 64) own) :
      Waited seen operation patience (⟨.now, start⟩ :: own) outcome

theorem leaves_pollOrFail {look : Browsing (Option α)} (leaves : Leaves seen look.run) (operation : String)
    (patience : Patience) :
    Leaves (fun own outcome => Steady 0 own → Waited seen operation patience own outcome)
      (pollOrFail operation patience look).run := by
  unfold pollOrFail poll
  rw [bind_assoc]
  intro start
  show Leaves _ (lookUntil (start + patience.timeout) patience.interval look patience.looks >>= _).run
  have waited {own : List Happening} {finding : Except Error (Option α)} {outcome : Except Error α}
      (gone : Watched seen (start + patience.timeout) patience.interval own finding ∨
        InVain seen (start + patience.timeout) patience.interval patience.looks own)
      (came : outcome = patience.verdict operation finding) (steady : Steady 0 (⟨.now, start⟩ :: own)) :
      Waited seen operation patience (⟨.now, start⟩ :: own) outcome := by
    rcases gone with watched | vain
    · exact came ▸ .watched watched
    · by_cases restless : patience.interval = 0
      · rw [Patience.looks, if_pos restless, restless] at vain
        exact .unpaused restless vain
      · exact absurd vain (not_inVain_looks restless steady.2)
  refine leaves_bind (leaves_lookUntil leaves _ _ _) ?_ ?_
  · exact fun own error gone => waited gone rfl
  · intro own found gone
    cases found with
    | none =>
        show Steady 0 (_ :: (own ++ [])) → Waited seen operation patience (_ :: (own ++ [])) _
        rw [List.append_nil]
        exact waited gone rfl
    | some value =>
        show Steady 0 (_ :: (own ++ [])) → Waited seen operation patience (_ :: (own ++ [])) _
        rw [List.append_nil]
        exact waited gone rfl

end Waits

end RemoteDom
