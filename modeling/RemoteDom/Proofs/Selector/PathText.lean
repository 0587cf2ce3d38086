import RemoteDom.Proofs.Selector.PathRuns

/-! The characters of an expression in its location steps. Where no step is empty, the separators and texts of the
steps put together are the expression, and so are the expressions it is split into, but that the search inside a
frame starts with two slashes. -/

namespace RemoteDom.Selector.Path

/-- There is no empty step: every slash outside all nesting is followed by something, and not by two more. -/
def Stepped (n : Nesting) (expression : List Char) : Prop :=
  ∀ before after, expression = before ++ '/' :: after → (n.feedAll before).outside = true →
    after ≠ [] ∧ ¬ ['/', '/'] <+: after

variable {n : Nesting} {expression read rest : List Char}

private theorem stepped_nil : Stepped n [] := by
  intro before after parts
  simp at parts

private theorem stepped_cons {c : Char} :
    Stepped n (c :: rest) ↔
      (n.outside = true → c = '/' → rest ≠ [] ∧ ¬ ['/', '/'] <+: rest) ∧ Stepped (n.feed c) rest := by
  constructor
  · intro stepped
    refine ⟨fun free slash => stepped [] rest (by rw [slash]; rfl) free, fun before after parts free => ?_⟩
    exact stepped (c :: before) after (by rw [parts]; rfl) free
  · rintro ⟨first, later⟩ before after parts free
    cases before with
    | nil =>
        obtain ⟨slash, rfl⟩ := List.cons.inj parts
        exact first free slash
    | cons d before =>
        obtain ⟨rfl, tail⟩ := List.cons.inj parts
        exact later before after tail free

instance decidableStepped (n : Nesting) : (expression : List Char) → Decidable (Stepped n expression)
  | [] => .isTrue stepped_nil
  | c :: rest =>
      have := decidableStepped (n.feed c) rest
      decidable_of_iff _ stepped_cons.symm

theorem slashes_append (rest : List Char) : (slashes rest).1 ++ (slashes rest).2 = '/' :: rest := by
  unfold slashes
  split <;> rfl

private theorem Stepped.behind_slashes (stepped : Stepped {} ('/' :: rest)) :
    Stepped {} (slashes rest).2 ∧ ∃ c more, (slashes rest).2 = c :: more ∧ c ≠ '/' := by
  obtain ⟨first, later⟩ := stepped_cons.mp stepped
  obtain ⟨following, single⟩ := first rfl rfl
  rw [feed_slash] at later
  unfold slashes
  split
  next more =>
    obtain ⟨second, last⟩ := stepped_cons.mp later
    rw [feed_slash] at last
    obtain ⟨c, others, rfl⟩ := List.exists_cons_of_ne_nil (second rfl rfl).1
    refine ⟨last, c, others, rfl, ?_⟩
    rintro rfl
    exact single ⟨others, rfl⟩
  next apart =>
    obtain ⟨c, others, rfl⟩ := List.exists_cons_of_ne_nil following
    refine ⟨later, c, others, rfl, ?_⟩
    rintro rfl
    exact apart others rfl

/-- A step has begun, or it begins with the next character. -/
def Begun (n : Nesting) (read rest : List Char) : Prop :=
  read ≠ [] ∨ ∃ c more, rest = c :: more ∧ ¬ (n.outside = true ∧ c = '/')

private theorem exists_stepsFrom (n : Nesting) (separator read rest : List Char) (stepped : Stepped n rest)
    (begun : Begun n read rest) :
    ∃ text others, stepsFrom n separator read rest = ⟨separator, text⟩ :: others ∧ text ≠ [] ∧
      text ++ others.flatMap Step.render = read.reverse ++ rest := by
  match rest with
  | [] =>
      have some_text : read ≠ [] := by
        rcases begun with some_text | ⟨_, _, nothing, -⟩
        · exact some_text
        · cases nothing
      exact ⟨read.reverse, [], by simp [stepsFrom, finish, some_text], by simpa using some_text, by simp⟩
  | c :: rest =>
      by_cases cut : n.outside = true ∧ c = '/'
      · obtain ⟨free, rfl⟩ := cut
        obtain rfl := Nesting.eq_of_outside free
        have some_text : read ≠ [] := by
          rcases begun with some_text | ⟨d, more, same, passes⟩
          · exact some_text
          · obtain ⟨rfl, -⟩ := List.cons.inj same
            exact absurd ⟨free, rfl⟩ passes
        have shorter := length_slashes rest
        obtain ⟨later, c, more, start, visible⟩ := stepped.behind_slashes
        obtain ⟨text, others, reading, -, written⟩ := exists_stepsFrom {} (slashes rest).1 [] (slashes rest).2 later
          (.inr ⟨c, more, start, fun slash => visible slash.2⟩)
        refine ⟨read.reverse, ⟨(slashes rest).1, text⟩ :: others, ?_, by simpa using some_text, ?_⟩
        · rw [stepsFrom_slash free, reading]
          simp [finish, some_text]
        · calc read.reverse ++ (⟨(slashes rest).1, text⟩ :: others : List Step).flatMap Step.render
              = read.reverse ++ ((slashes rest).1 ++ (text ++ others.flatMap Step.render)) := by
                simp [Step.render]
            _ = read.reverse ++ ((slashes rest).1 ++ (slashes rest).2) := by rw [written]; rfl
            _ = read.reverse ++ '/' :: rest := by rw [slashes_append]
      · obtain ⟨text, others, reading, some_text, written⟩ :=
          exists_stepsFrom (n.feed c) separator (c :: read) rest (stepped_cons.mp stepped).2 (.inl (by simp))
        refine ⟨text, others, ?_, some_text, by simpa using written⟩
        rw [stepsFrom_pass cut, reading]
termination_by rest.length
decreasing_by
  · simp_wf
    omega
  · simp_wf

theorem leadingSeparator_slash (rest : List Char) : leadingSeparator ('/' :: rest) = (slashes rest).1 := by
  unfold leadingSeparator slashes
  split <;> simp_all

theorem leadingSeparator_dot (rest : List Char) : leadingSeparator ('.' :: '/' :: rest) = '.' :: (slashes rest).1 := by
  unfold leadingSeparator slashes
  split <;> simp_all

private theorem Stepped.behind_leading (stepped : Stepped {} expression) (some_text : expression ≠ []) :
    ∃ c more, expression = leadingSeparator expression ++ c :: more ∧ c ≠ '/' ∧ Stepped {} (c :: more) := by
  obtain ⟨first, rest, rfl⟩ := List.exists_cons_of_ne_nil some_text
  by_cases slash : first = '/'
  · subst slash
    obtain ⟨later, c, more, start, visible⟩ := stepped.behind_slashes
    refine ⟨c, more, ?_, visible, start ▸ later⟩
    rw [leadingSeparator_slash, ← start, slashes_append]
  by_cases dotted : first = '.' ∧ ∃ more, rest = '/' :: more
  · obtain ⟨rfl, rest, rfl⟩ := dotted
    have unchanged : ({} : Nesting).feed '.' = {} := by decide
    have tail := (stepped_cons.mp stepped).2
    rw [unchanged] at tail
    obtain ⟨later, c, more, start, visible⟩ := tail.behind_slashes
    refine ⟨c, more, ?_, visible, start ▸ later⟩
    rw [leadingSeparator_dot, ← start, List.cons_append, slashes_append]
  · have none : leadingSeparator (first :: rest) = [] :=
      leadingSeparator_of_ne slash fun dot more same => dotted ⟨dot, more, same⟩
    exact ⟨first, rest, by rw [none]; rfl, slash, stepped⟩

private theorem exists_steps (stepped : Stepped {} expression) (some_text : expression ≠ []) :
    ∃ text others, steps expression = ⟨leadingSeparator expression, text⟩ :: others ∧ text ≠ [] ∧
      (steps expression).flatMap Step.render = expression := by
  obtain ⟨c, more, parts, visible, later⟩ := stepped.behind_leading some_text
  have behind : expression.drop (leadingSeparator expression).length = c :: more :=
    (congrArg (List.drop (leadingSeparator expression).length) parts).trans List.drop_left
  obtain ⟨text, others, reading, some_text, written⟩ := exists_stepsFrom {} (leadingSeparator expression) [] (c :: more)
    later (.inr ⟨c, more, rfl, fun slash => visible slash.2⟩)
  have whole : steps expression = ⟨leadingSeparator expression, text⟩ :: others := by
    rw [← reading, ← behind]
    rfl
  refine ⟨text, others, whole, some_text, ?_⟩
  calc (steps expression).flatMap Step.render
      = leadingSeparator expression ++ (text ++ others.flatMap Step.render) := by simp [whole, Step.render]
    _ = leadingSeparator expression ++ c :: more := by rw [written]; rfl
    _ = expression := parts.symm

private theorem render_steps (stepped : Stepped {} expression) :
    (steps expression).flatMap Step.render = expression := by
  by_cases empty : expression = []
  · rw [empty]
    rfl
  · obtain ⟨_, _, -, -, written⟩ := exists_steps stepped empty
    exact written

/-- The steps with two slashes in front of each that is behind a frame. The first may be behind one too. -/
def reopened : Bool → List Step → List Step
  | _, [] => []
  | inside, step :: rest =>
      (if inside then ⟨['/', '/'], step.text⟩ else step) :: reopened (isFrameStep step) rest

/-- To enter all runs but the first is to start anew behind each frame. -/
private theorem reopened_of_runs {step : Step} {rest first : List Step} {others : List (List Step)}
    (cut : runs isFrameStep (step :: rest) = first :: others) (inside : Bool) :
    reopened inside (step :: rest) = (if inside then entered first else first) ++ (others.map entered).flatten := by
  induction rest generalizing step first others inside with
  | nil =>
      obtain ⟨rfl, rfl⟩ := List.cons.inj cut
      cases inside <;> rfl
  | cons next more ih =>
      obtain ⟨run, further, later⟩ := exists_runs_cons isFrameStep next more
      cases mark : isFrameStep step with
      | true =>
          rw [runs_of_marked mark, later] at cut
          obtain ⟨rfl, rfl⟩ := List.cons.inj cut
          rw [reopened, mark, ih later true]
          cases inside <;> simp [entered]
      | false =>
          rw [runs_of_not_marked mark later] at cut
          obtain ⟨rfl, rfl⟩ := List.cons.inj cut
          rw [reopened, mark, ih later false]
          cases inside <;> simp [entered]

/-- Everything of an expression is found again in the expressions that it is split into, with two slashes for what
was behind each frame on the way. -/
structure Recovered (expression : List Char) (parts : List (List Char)) : Prop where
  joined : parts.flatten = (reopened false (steps expression)).flatMap Step.render
  reread : ∃ first others, runs isFrameStep (steps expression) = first :: others ∧
    parts.map steps = first :: others.map entered
  leads : ∃ text more, text ≠ [] ∧ parts.head? = some (leadingSeparator expression ++ text) ∧
    expression = leadingSeparator expression ++ text ++ more

private theorem flatMap_entered (inner : List (List Step)) :
    (inner.map entered).flatten.flatMap Step.render = (inner.map renderInside).flatten := by
  induction inner with
  | nil => rfl
  | cons run rest ih => simp [renderInside_eq, ih]

private theorem recovered_of_split? {parts : List (List Char)} (stepped : Stepped {} expression)
    (cut : split? expression = some parts) : Recovered expression parts := by
  have some_text : expression ≠ [] := by
    rintro rfl
    cases cut
  obtain ⟨text, following, reading, visible, written⟩ := exists_steps stepped some_text
  obtain ⟨first, others, found, rfl⟩ := eq_of_split? cut
  obtain ⟨start, inner, head⟩ := exists_runs_cons isFrameStep ⟨leadingSeparator expression, text⟩ following
  constructor
  case joined =>
    rw [reading] at found ⊢
    rw [reopened_of_runs found, List.flatMap_append, flatMap_entered]
    rfl
  case reread => exact ⟨first, others, found, map_steps_of_split? found⟩
  case leads =>
    rw [reading] at found
    obtain ⟨rfl, rfl⟩ := List.cons.inj (head.symm.trans found)
    have all : (⟨leadingSeparator expression, text⟩ :: start) ++ inner.flatten = steps expression := by
      rw [reading, ← flatten_runs isFrameStep (_ :: following), head]
      rfl
    refine ⟨text ++ start.flatMap Step.render, inner.flatten.flatMap Step.render, by simp [visible], ?_, ?_⟩
    · simp [Step.render]
    · calc expression = ((⟨leadingSeparator expression, text⟩ :: start) ++ inner.flatten).flatMap Step.render := by
            rw [all, written]
        _ = leadingSeparator expression ++ (text ++ start.flatMap Step.render) ++
              inner.flatten.flatMap Step.render := by simp [Step.render]

/-- An expression without empty steps is its steps put together, and if it is split it can be recovered from its
parts. -/
theorem expression_recovered (stepped : Stepped {} expression) :
    (steps expression).flatMap Step.render = expression ∧
      ∀ parts, split? expression = some parts → Recovered expression parts :=
  ⟨render_steps stepped, fun _ => recovered_of_split? stepped⟩

/-- The child of the frame is searched in all of its document. -/
theorem expression_recovered_frame :
    Stepped {} ".//iframe[1]/a".toList ∧
      (steps ".//iframe[1]/a".toList).flatMap Step.render = ".//iframe[1]/a".toList ∧
      split? ".//iframe[1]/a".toList = some [".//iframe[1]".toList, "//a".toList] ∧
      Recovered ".//iframe[1]/a".toList [".//iframe[1]".toList, "//a".toList] :=
  have stepped : Stepped {} ".//iframe[1]/a".toList := by decide +kernel
  have cut : split? ".//iframe[1]/a".toList = some [".//iframe[1]".toList, "//a".toList] := by decide +kernel
  ⟨stepped, (expression_recovered stepped).1, cut, (expression_recovered stepped).2 _ cut⟩

end RemoteDom.Selector.Path
