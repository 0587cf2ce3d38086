import RemoteDom.Selector.Path
import RemoteDom.Proofs.Selector.Scan

/-! Reading again the expressions that an expression is split into. An expression is read as a chain of
location steps, and what is written for a run of such a chain is read as that run, except that a run
inside a frame starts with a search of the whole document. -/

namespace RemoteDom.Selector.Path

/-- A slash ends a step whatever was read before. -/
def EndsAt (_before : List Char) (c : Char) : Prop := c = '/'

instance (before : List Char) (c : Char) : Decidable (EndsAt before c) := inferInstanceAs (Decidable (c = '/'))

theorem feed_slash : ({} : Nesting).feed '/' = {} := by decide

def slashes : List Char → List Char × List Char
  | '/' :: rest => (['/', '/'], rest)
  | rest => (['/'], rest)

theorem length_slashes (rest : List Char) : (slashes rest).2.length ≤ rest.length := by
  unfold slashes
  split <;> simp

private theorem slashes_separator (rest : List Char) :
    (slashes rest).1 = ['/'] ∨ (slashes rest).1 = ['/', '/'] := by
  unfold slashes
  split
  · exact .inr rfl
  · exact .inl rfl

theorem stepsFrom_pass {n : Nesting} {c : Char} (passes : ¬ (n.outside = true ∧ c = '/'))
    (separator read rest : List Char) :
    stepsFrom n separator read (c :: rest) = stepsFrom (n.feed c) separator (c :: read) rest := by
  rw [stepsFrom.eq_def]
  exact if_neg passes

theorem stepsFrom_slash {n : Nesting} (free : n.outside = true) (separator read rest : List Char) :
    stepsFrom n separator read ('/' :: rest) =
      finish separator read ++ stepsFrom {} (slashes rest).1 [] (slashes rest).2 := by
  obtain rfl := Nesting.eq_of_outside free
  rw [stepsFrom.eq_def]
  simp only [free, and_self, if_true]
  split
  next => rfl
  next => simp [slashes]

theorem stepsFrom_append {n : Nesting} {read text : List Char} (uncut : Uncut EndsAt n read text)
    (separator rest : List Char) :
    stepsFrom n separator read (text ++ rest) =
      stepsFrom (n.feedAll text) separator (text.reverse ++ read) rest := by
  induction text generalizing n read with
  | nil => rfl
  | cons c more ih =>
      rw [List.cons_append, stepsFrom_pass uncut.1, ih uncut.2]
      simp

/-- A text that is read as one step. -/
structure Whole (text : List Char) : Prop where
  uncut : Uncut EndsAt {} [] text
  some_text : text ≠ []

theorem Whole.not_slash {c : Char} {rest : List Char} (whole : Whole (c :: rest)) : c ≠ '/' := by
  rintro rfl
  exact whole.uncut.1 ⟨rfl, rfl⟩

private theorem Whole.not_slash_after_dot {c : Char} {rest : List Char} (whole : Whole ('.' :: c :: rest)) :
    c ≠ '/' := by
  rintro rfl
  exact whole.uncut.2.1 ⟨by decide, rfl⟩

theorem finish_whole {text : List Char} (whole : Whole text) (separator : List Char) :
    finish separator text.reverse = [⟨separator, text⟩] := by
  simp [finish, whole.some_text]

private theorem slashes_of_separator {separator text : List Char} (slash : separator = ['/'] ∨ separator = ['/', '/'])
    (whole : Whole text) (rest : List Char) :
    ∃ tail, separator = '/' :: tail ∧ slashes (tail ++ (text ++ rest)) = (separator, text ++ rest) := by
  obtain ⟨c, more, rfl⟩ := List.exists_cons_of_ne_nil whole.some_text
  rcases slash with rfl | rfl
  · refine ⟨[], rfl, ?_⟩
    unfold slashes
    split
    next same => exact absurd (List.cons.inj same).1 whole.not_slash
    next => rfl
  · exact ⟨['/'], rfl, rfl⟩

/-- Steps as they stand in an expression, with slashes in front of all but the first. -/
inductive Chained : List Step → Prop
  | last {step : Step} (whole : Whole step.text) : Chained [step]
  | cons {step next : Step} {rest : List Step} (whole : Whole step.text)
      (free : (Nesting.feedAll {} step.text).outside = true)
      (slash : next.separator = ['/'] ∨ next.separator = ['/', '/']) (chained : Chained (next :: rest)) :
      Chained (step :: next :: rest)

private theorem Chained.head_whole {first : Step} {rest : List Step} (chained : Chained (first :: rest)) :
    Whole first.text := by
  cases chained with
  | last whole => exact whole
  | cons whole _ _ _ => exact whole

private theorem Chained.separate {first : Step} {rest : List Step} (chained : Chained (first :: rest))
    (separator : List Char) : Chained (⟨separator, first.text⟩ :: rest) := by
  cases chained with
  | last whole => exact .last whole
  | cons whole free slash chained => exact .cons whole free slash chained

theorem chained_of_mem_runs {marked : Step → Bool} {steps run : List Step} (chained : Chained steps)
    (member : run ∈ runs marked steps) : Chained run := by
  induction chained generalizing run with
  | last whole => exact List.mem_singleton.mp member ▸ .last whole
  | @cons step next rest whole free slash chained ih =>
      cases mark : marked step with
      | true =>
          rw [runs_of_marked mark, List.mem_cons] at member
          rcases member with rfl | member
          · exact .last whole
          · exact ih member
      | false =>
          obtain ⟨tail, others, cut⟩ := exists_runs_cons marked next rest
          rw [runs_of_not_marked mark cut, List.mem_cons] at member
          rcases member with rfl | member
          · exact .cons whole free slash (ih (cut ▸ List.mem_cons_self))
          · exact ih (cut ▸ List.mem_cons_of_mem _ member)

private theorem stepsFrom_of_chained {first : Step} {rest : List Step} (chained : Chained (first :: rest)) :
    stepsFrom {} first.separator [] (first.text ++ rest.flatMap Step.render) = first :: rest := by
  induction rest generalizing first with
  | nil =>
      have whole := chained.head_whole
      rw [stepsFrom_append whole.uncut, List.append_nil]
      exact finish_whole whole first.separator
  | cons next rest ih =>
      cases chained with
      | cons whole free slash chained =>
          have later := ih chained
          have written : (next :: rest).flatMap Step.render =
              next.separator ++ (next.text ++ rest.flatMap Step.render) := by
            simp [Step.render]
          obtain ⟨tail, separator, behind⟩ :=
            slashes_of_separator slash chained.head_whole (rest.flatMap Step.render)
          rw [written, stepsFrom_append whole.uncut, separator, List.cons_append, stepsFrom_slash free,
            behind, List.append_nil, finish_whole whole, later]
          rfl

/-- The first step of a scan is what was read when the scan met a slash, or it stands behind a slash. -/
def Starts (separator whole : List Char) (first : Step) (others : List Step) : Prop :=
  (first.separator = separator ∧ ∃ after, whole = first.text ++ after ∧
    (others = [] ∨ ∃ more, after = '/' :: more)) ∨
  first.separator = ['/'] ∨ first.separator = ['/', '/']

private theorem chained_stepsFrom (n : Nesting) (separator read rest : List Char)
    (uncut : Uncut EndsAt {} [] read.reverse) (nesting : n = Nesting.feedAll {} read.reverse) :
    stepsFrom n separator read rest = [] ∨
      ∃ first others, stepsFrom n separator read rest = first :: others ∧ Chained (first :: others) ∧
        Starts separator (read.reverse ++ rest) first others := by
  match rest with
  | [] =>
      by_cases empty : read = []
      · exact .inl (by simp [stepsFrom, finish, empty])
      · have whole : Whole read.reverse := ⟨uncut, by simpa using empty⟩
        refine .inr ⟨⟨separator, read.reverse⟩, [], by simp [stepsFrom, finish, empty], .last whole, ?_⟩
        exact .inl ⟨rfl, [], rfl, .inl rfl⟩
  | c :: rest =>
      by_cases cut : n.outside = true ∧ EndsAt read.reverse c
      · obtain ⟨free, rfl⟩ := cut
        have shorter := length_slashes rest
        have behind := chained_stepsFrom {} (slashes rest).1 [] (slashes rest).2 trivial rfl
        have slash {first : Step} {others : List Step}
            (starts : Starts (slashes rest).1 ([].reverse ++ (slashes rest).2) first others) :
            first.separator = ['/'] ∨ first.separator = ['/', '/'] := by
          rcases starts with ⟨same, -⟩ | slash
          · exact same ▸ slashes_separator rest
          · exact slash
        rw [stepsFrom_slash free]
        by_cases empty : read = []
        · rcases behind with nothing | ⟨first, others, reading, chained, starts⟩
          · exact .inl (by simp [finish, empty, nothing])
          · exact .inr ⟨first, others, by simp [finish, empty, reading], chained, .inr (slash starts)⟩
        · have whole : Whole read.reverse := ⟨uncut, by simpa using empty⟩
          have found : finish separator read = [⟨separator, read.reverse⟩] := by simp [finish, empty]
          rw [found]
          refine .inr ⟨_, _, rfl, ?_, .inl ⟨rfl, '/' :: rest, rfl, .inr ⟨rest, rfl⟩⟩⟩
          rcases behind with nothing | ⟨first, others, reading, chained, starts⟩
          · rw [nothing]
            exact .last whole
          · rw [reading]
            exact .cons whole (nesting ▸ free) (slash starts) chained
      · have further : Uncut EndsAt {} [] (c :: read).reverse := by
          rw [List.reverse_cons, uncut_append]
          exact ⟨uncut, by simpa [← nesting] using cut, trivial⟩
        rw [stepsFrom_pass cut]
        simpa using chained_stepsFrom (n.feed c) separator (c :: read) rest further (by simp [nesting])
termination_by rest.length
decreasing_by
  · simp_wf
    omega
  · simp_wf

/-- A first step whose separator is read again as it is, whatever follows of the steps behind it. -/
structure Heads (first : Step) (others : List Step) : Prop where
  leading : ∃ expression, first.separator = leadingSeparator expression
  dotless : first.separator = [] → first.text = ['.'] → others = []

private theorem leadingSeparator_of_dot (rest : List Char) : leadingSeparator ('.' :: '/' :: rest) ≠ [] := by
  unfold leadingSeparator
  split <;> simp_all

private theorem chained_steps (expression : List Char) :
    steps expression = [] ∨
      ∃ first others, steps expression = first :: others ∧ Chained (first :: others) ∧
        Heads first others := by
  rcases chained_stepsFrom {} (leadingSeparator expression) []
      (expression.drop (leadingSeparator expression).length) trivial rfl with
    nothing | ⟨first, others, reading, chained, starts⟩
  · exact .inl nothing
  · refine .inr ⟨first, others, reading, chained, ?_⟩
    rcases starts with ⟨same, after, parts, ending⟩ | single | double
    · refine ⟨⟨expression, same⟩, fun none dot => ?_⟩
      rcases ending with last | ⟨more, rfl⟩
      · exact last
      · have nothing : leadingSeparator expression = [] := same ▸ none
        have start : expression = '.' :: '/' :: more := by simpa [nothing, dot] using parts
        exact absurd (start ▸ nothing) (leadingSeparator_of_dot more)
    · exact ⟨⟨['/'], single⟩, fun none => by simp [single] at none⟩
    · exact ⟨⟨['/', '/'], double⟩, fun none => by simp [double] at none⟩

theorem leadingSeparator_of_ne {c : Char} {rest : List Char} (visible : c ≠ '/')
    (dotless : c = '.' → ∀ more, rest ≠ '/' :: more) : leadingSeparator (c :: rest) = [] := by
  unfold leadingSeparator
  split
  next same => exact absurd (List.cons.inj same).2 (dotless (List.cons.inj same).1 _)
  next same => exact absurd (List.cons.inj same).1 visible
  next same => exact absurd (List.cons.inj same).2 (dotless (List.cons.inj same).1 _)
  next same => exact absurd (List.cons.inj same).1 visible
  next => rfl

private theorem leadingSeparator_append {separator : List Char} {c : Char} (visible : c ≠ '/')
    (leading : ∃ expression, separator = leadingSeparator expression) (some_slash : separator ≠ [])
    (rest : List Char) : leadingSeparator (separator ++ c :: rest) = separator := by
  obtain ⟨expression, rfl⟩ := leading
  unfold leadingSeparator at some_slash ⊢
  split at some_slash <;> simp_all

private theorem steps_of_heads {first : Step} {others rest : List Step} (heads : Heads first others)
    (chained : Chained (first :: rest)) (fewer : others = [] → rest = []) :
    steps ((first :: rest).flatMap Step.render) = first :: rest := by
  have written : (first :: rest).flatMap Step.render =
      first.separator ++ (first.text ++ rest.flatMap Step.render) := by
    simp [Step.render]
  obtain ⟨c, more, start⟩ := List.exists_cons_of_ne_nil chained.head_whole.some_text
  have whole : Whole (c :: more) := start ▸ chained.head_whole
  have leads : leadingSeparator (first.separator ++ (first.text ++ rest.flatMap Step.render)) =
      first.separator := by
    rw [start, List.cons_append]
    by_cases none : first.separator = []
    · rw [none, List.nil_append]
      apply leadingSeparator_of_ne whole.not_slash
      rintro rfl after slash
      cases more with
      | nil =>
          have last : rest = [] := fewer (heads.dotless none start)
          simp [last] at slash
      | cons d more => exact whole.not_slash_after_dot (List.cons.inj slash).1
    · exact leadingSeparator_append whole.not_slash heads.leading none _
  rw [steps, written, leads, List.drop_left, stepsFrom_of_chained chained]

private theorem steps_renderInside {first : Step} {rest : List Step} (chained : Chained (first :: rest)) :
    steps (renderInside (first :: rest)) = ⟨['/', '/'], first.text⟩ :: rest := by
  have heads : Heads ⟨['/', '/'], first.text⟩ rest := ⟨⟨['/', '/'], rfl⟩, fun none => by simp at none⟩
  have reading := steps_of_heads heads (chained.separate ['/', '/']) id
  simpa [renderInside, Step.render] using reading

def entered : List Step → List Step
  | [] => []
  | step :: rest => ⟨['/', '/'], step.text⟩ :: rest

theorem renderInside_eq (run : List Step) : renderInside run = (entered run).flatMap Step.render := by
  cases run with
  | nil => rfl
  | cons step rest => simp [renderInside, entered, Step.render]

/-- Inside a frame the steps of a run are read as they were, behind two slashes. -/
private theorem steps_renderInside_of_chained {run : List Step} (chained : Chained run) :
    steps (renderInside run) = entered run := by
  cases run with
  | nil => cases chained
  | cons step rest => exact steps_renderInside chained

theorem eq_of_split? {expression : List Char} {parts : List (List Char)} (cut : split? expression = some parts) :
    ∃ first others, runs isFrameStep (steps expression) = first :: others ∧
      parts = first.flatMap Step.render :: others.map renderInside := by
  unfold split? at cut
  split at cut
  next first second others found => exact ⟨first, second :: others, found, (Option.some.inj cut).symm⟩
  next => cases cut

theorem map_steps_of_split? {expression : List Char} {first : List Step} {others : List (List Step)}
    (found : runs isFrameStep (steps expression) = first :: others) :
    (first.flatMap Step.render :: others.map renderInside).map steps = first :: others.map entered := by
  rcases chained_steps expression with nothing | ⟨step, following, reading, chained, heads⟩
  · simp [nothing, runs] at found
  obtain ⟨start, inner, cut⟩ := exists_runs_cons isFrameStep step following
  rw [reading] at found
  obtain ⟨rfl, rfl⟩ := List.cons.inj (cut.symm.trans found)
  have links {run : List Step} (inside : run ∈ (step :: start) :: inner) : Chained run :=
    chained_of_mem_runs chained (cut ▸ inside)
  have fewer : following = [] → start = [] := by
    rintro rfl
    simpa [runs] using (List.cons.inj cut).1.symm
  have head : steps ((step :: start).flatMap Step.render) = step :: start :=
    steps_of_heads heads (links List.mem_cons_self) fewer
  rw [List.map_cons, head, List.map_map]
  apply congrArg ((step :: start) :: ·)
  apply List.map_congr_left
  intro run member
  exact steps_renderInside_of_chained (links (List.mem_cons_of_mem _ member))

private theorem plain_entered {run : List Step} (plain : ∀ step ∈ run.dropLast, isFrameStep step = false) :
    ∀ step ∈ (entered run).dropLast, isFrameStep step = false := by
  match run with
  | [] | [_] => simp [entered]
  | first :: next :: rest =>
      intro step member
      rw [entered, List.dropLast_cons_cons, List.mem_cons] at member
      rcases member with rfl | member
      · exact plain first List.mem_cons_self
      · exact plain step (List.mem_cons_of_mem first member)

private theorem split?_of_steps {expression : List Char} {run : List Step} (reading : steps expression = run)
    (plain : ∀ step ∈ run.dropLast, isFrameStep step = false) : split? expression = none := by
  have short := length_runs_le plain
  unfold split?
  split
  next first second others found => simp [reading ▸ found] at short
  next => rfl

/-- What an expression is split into is not split again. -/
theorem split?_of_mem_split? {expression part : List Char} {parts : List (List Char)}
    (cut : split? expression = some parts) (member : part ∈ parts) : split? part = none := by
  obtain ⟨first, others, found, rfl⟩ := eq_of_split? cut
  have plain {run : List Step} (inside : run ∈ first :: others) :
      ∀ step ∈ run.dropLast, isFrameStep step = false :=
    not_marked_of_mem_runs (found ▸ inside)
  have reading : steps part ∈ (first.flatMap Step.render :: others.map renderInside).map steps :=
    List.mem_map_of_mem member
  rw [map_steps_of_split? found, List.mem_cons] at reading
  rcases reading with same | inside
  · exact split?_of_steps same (plain List.mem_cons_self)
  · obtain ⟨run, among, same⟩ := List.mem_map.mp inside
    exact split?_of_steps same.symm (plain_entered (plain (List.mem_cons_of_mem first among)))

end RemoteDom.Selector.Path
