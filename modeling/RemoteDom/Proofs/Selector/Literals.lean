import RemoteDom.Proofs.Selector.Pieces
import RemoteDom.Proofs.Selector.Segments
import RemoteDom.Proofs.Selector.TypeNames

/-! What the wording of literals does to the segments of an expression. A step is known for a frame by what is in front
of its first quote, but in a parenthesised step the name of a frame is looked for in literals too. -/

namespace RemoteDom.Selector.Path

private theorem isFrameTest_iff {text : List Char} :
    isFrameTest text = true ↔ ∃ name rest, text = name ++ rest ∧ Text.equalsIgnoringCase name frameName = true ∧
      (rest = [] ∨ ∃ more, rest = '[' :: more) := by
  constructor
  · intro test
    simp only [isFrameTest, startsWithFrame, Bool.and_eq_true] at test
    refine ⟨text.take 6, text.drop 6, (List.take_append_drop 6 text).symm, test.1, ?_⟩
    cases rest : text.drop 6 with
    | nil => exact .inl rfl
    | cons c more =>
        have bracket : c = '[' := by simpa [rest] using test.2
        exact .inr ⟨more, by rw [bracket]⟩
  · rintro ⟨name, rest, rfl, same, ends⟩
    have lower : name.map Char.toLower = frameName.map Char.toLower := by
      simpa [Text.equalsIgnoringCase] using same
    have six : name.length = 6 := by simpa [frameName] using congrArg List.length lower
    rw [isFrameTest, startsWithFrame, List.take_left' six, List.drop_left' six, same]
    rcases ends with rfl | ⟨more, rfl⟩ <;> rfl

private theorem afterAxis?_eq_some_iff {text rest : List Char} :
    afterAxis? text = some rest ↔
      ∃ word, text = word ++ ':' :: ':' :: rest ∧ word ≠ [] ∧ ∀ c ∈ word, Text.isWordChar c = true := by
  constructor
  · intro behind
    unfold afterAxis? at behind
    split at behind
    next c word rest' start ends =>
      obtain rfl := Option.some.inj behind
      refine ⟨c :: word, ?_, by simp, fun d member => ?_⟩
      · rw [← start, ← ends, List.takeWhile_append_dropWhile]
      · rw [← start] at member
        exact List.mem_takeWhile_imp member
    next => cases behind
  · rintro ⟨word, rfl, some_char, inWord⟩
    have stop : Text.isWordChar ':' = false := by decide
    obtain ⟨c, more, rfl⟩ := List.exists_cons_of_ne_nil some_char
    have taken : (c :: more ++ ':' :: ':' :: rest).takeWhile Text.isWordChar = c :: more := by
      rw [List.takeWhile_append_of_pos inWord, List.takeWhile_cons_of_neg (by simp [stop]), List.append_nil]
    have dropped : (c :: more ++ ':' :: ':' :: rest).dropWhile Text.isWordChar = ':' :: ':' :: rest := by
      rw [List.dropWhile_append_of_pos inWord, List.dropWhile_cons_of_neg (by simp [stop])]
    rw [afterAxis?, taken, dropped]
    rfl

inductive NodeTest : List Char → Prop
  | name {name : List Char} (same : Text.equalsIgnoringCase name frameName = true) : NodeTest name
  | axis {word name : List Char} (some_char : word ≠ []) (inWord : ∀ c ∈ word, Text.isWordChar c = true)
      (same : Text.equalsIgnoringCase name frameName = true) : NodeTest (word ++ ':' :: ':' :: name)

theorem NodeTest.bare {front : List Char} (test : NodeTest front) : ∀ c ∈ front, isQuote c = false := by
  have ofName {name : List Char} (same : Text.equalsIgnoringCase name frameName = true) :
      ∀ c ∈ name, isQuote c = false := by
    intro c member
    have letter := Compound.IsFrameName.letters same c member
    simp only [isQuote, Bool.or_eq_false_iff, beq_eq_false_iff_ne]
    refine ⟨?_, ?_⟩ <;> (rintro rfl; exact absurd letter (by decide))
  cases test with
  | name same => exact ofName same
  | @axis word name some_char inWord same =>
      intro c member
      rcases List.mem_append.mp member with inside | behind
      · have char := inWord c inside
        simp only [isQuote, Bool.or_eq_false_iff, beq_eq_false_iff_ne]
        refine ⟨?_, ?_⟩ <;> (rintro rfl; exact absurd char (by decide))
      · rw [List.mem_cons, List.mem_cons] at behind
        rcases behind with rfl | rfl | inName
        · decide
        · decide
        · exact ofName same c inName

/-- Outside of parentheses, a step reaches a frame if nothing but predicates follows the name. -/
private theorem isFrameStep_iff {separator text : List Char} (unparenthesised : text.head? ≠ some '(') :
    isFrameStep ⟨separator, text⟩ = true ↔
      ∃ front rest, text = front ++ rest ∧ NodeTest front ∧ (rest = [] ∨ ∃ more, rest = '[' :: more) := by
  have judged : isFrameStep ⟨separator, text⟩ = true ↔
      isFrameTest text = true ∨ ∃ rest, afterAxis? text = some rest ∧ isFrameTest rest = true := by
    unfold isFrameStep
    split
    next more same => exact absurd (congrArg List.head? same) unparenthesised
    next => cases afterAxis? text <;> simp
  rw [judged]
  constructor
  · rintro (test | ⟨behind, axis, test⟩)
    · obtain ⟨name, rest, parts, same, ends⟩ := isFrameTest_iff.mp test
      exact ⟨name, rest, parts, .name same, ends⟩
    · obtain ⟨word, parts, some_char, inWord⟩ := afterAxis?_eq_some_iff.mp axis
      obtain ⟨name, rest, rfl, same, ends⟩ := isFrameTest_iff.mp test
      exact ⟨word ++ ':' :: ':' :: name, rest, by rw [parts]; simp, .axis some_char inWord same, ends⟩
  · rintro ⟨front, rest, parts, test, ends⟩
    cases test with
    | name same => exact .inl (isFrameTest_iff.mpr ⟨front, rest, parts, same, ends⟩)
    | @axis word name some_char inWord same =>
        refine .inr ⟨name ++ rest, afterAxis?_eq_some_iff.mpr ⟨word, by rw [parts]; simp, some_char, inWord⟩, ?_⟩
        exact isFrameTest_iff.mpr ⟨name, rest, rfl, same, ends⟩

private theorem isFrameStep_of_paren {separator text : List Char} (starts : text.head? = some '(') :
    isFrameStep ⟨separator, text⟩ = mentionsFrame false text := by
  obtain ⟨more, rfl⟩ := List.head?_eq_some_iff.mp starts
  rfl

private theorem exists_of_append_eq {α : Type} {front behind before rest : List α} {sign : α} (free : sign ∉ before)
    (same : front ++ sign :: behind = before ++ rest) :
    ∃ more, front = before ++ more ∧ rest = more ++ sign :: behind := by
  rcases List.append_eq_append_iff.mp same with ⟨more, rfl, tail⟩ | ⟨more, parts, tail⟩
  · cases more with
    | nil => exact ⟨[], by simp, tail.symm⟩
    | cons first more =>
        obtain ⟨rfl, -⟩ := List.cons.inj tail
        exact absurd (by simp) free
  · exact ⟨more, parts, tail⟩

/-- The name of a frame holds no quote, and what follows it does not start with one, so that nothing behind a quote
matters. -/
private theorem isFrameStep_of_quote {separator front behind : List Char} {quote : Char} (quotes : isQuote quote = true)
    (unparenthesised : ∀ more, (front ++ quote :: more).head? ≠ some '(') (other : List Char)
    (frame : isFrameStep ⟨separator, front ++ quote :: behind⟩ = true) :
    isFrameStep ⟨separator, front ++ quote :: other⟩ = true := by
  obtain ⟨before, rest, parts, test, ends⟩ := (isFrameStep_iff (unparenthesised behind)).mp frame
  have free : quote ∉ before := fun member => Bool.noConfusion ((test.bare quote member).symm.trans quotes)
  obtain ⟨more, rfl, tail⟩ := exists_of_append_eq free parts
  obtain ⟨inner, bracket⟩ := ends.resolve_left (by simp [tail])
  refine (isFrameStep_iff (unparenthesised other)).mpr ⟨before, more ++ quote :: other, by simp, test, .inr ?_⟩
  rw [bracket] at tail
  cases more with
  | nil =>
      obtain ⟨rfl, -⟩ := List.cons.inj tail
      exact absurd quotes (by decide)
  | cons c more =>
      obtain ⟨rfl, -⟩ := List.cons.inj tail
      exact ⟨_, rfl⟩

theorem exists_front (pieces : List Piece) :
    ∃ front, (∀ side, written side pieces = front) ∨
      ∃ quote, isQuote quote = true ∧ ∀ side, ∃ more, written side pieces = front ++ quote :: more := by
  induction pieces with
  | nil => exact ⟨[], .inl fun _ => rfl⟩
  | cons piece rest ih =>
      cases piece with
      | literal quoted =>
          refine ⟨[], .inr ⟨quoted.quote, quoted.isQuote, fun side => ?_⟩⟩
          exact ⟨_, written_literal side quoted rest⟩
      | bare c unquoted =>
          obtain ⟨front, same | ⟨quote, quotes, starts⟩⟩ := ih
          · exact ⟨c :: front, .inl fun side => by rw [written_bare, same]⟩
          · refine ⟨c :: front, .inr ⟨quote, quotes, fun side => ?_⟩⟩
            obtain ⟨more, start⟩ := starts side
            exact ⟨more, by rw [written_bare, start, List.cons_append]⟩

private theorem head?_written (side other : Side) (pieces : List Piece) :
    (written side pieces).head? = (written other pieces).head? := by
  cases pieces with
  | nil => rfl
  | cons piece rest =>
      obtain ⟨first, start⟩ := exists_written_cons side piece rest
      obtain ⟨second, again⟩ := exists_written_cons other piece rest
      rw [start, again]
      rfl

private theorem Draft.isFrameStep_fill (draft : Draft)
    (unparenthesised : (written .first draft.text).head? ≠ some '(') :
    isFrameStep (draft.fill .first) = isFrameStep (draft.fill .second) := by
  obtain ⟨front, same | ⟨quote, quotes, starts⟩⟩ := exists_front draft.text
  · have judged : isFrameStep ⟨[], written .first draft.text⟩ = isFrameStep ⟨[], written .second draft.text⟩ := by
      rw [same, same]
    exact judged
  · obtain ⟨first, start⟩ := starts .first
    obtain ⟨second, again⟩ := starts .second
    have starting (more : List Char) : (front ++ quote :: more).head? ≠ some '(' := by
      rw [start] at unparenthesised
      cases front <;> exact unparenthesised
    have judged : isFrameStep ⟨[], front ++ quote :: first⟩ = isFrameStep ⟨[], front ++ quote :: second⟩ :=
      Bool.eq_iff_iff.mpr ⟨isFrameStep_of_quote quotes starting second, isFrameStep_of_quote quotes starting first⟩
    rw [← start, ← again] at judged
    exact judged

namespace Draft

def renderInside : List Draft → List Piece
  | [] => []
  | draft :: rest => slash :: slash :: draft.text ++ rest.flatMap render

def renderRuns : List (List Draft) → List (List Piece)
  | [] => []
  | first :: others => first.flatMap render :: others.map renderInside

private theorem written_renderInside (side : Side) (run : List Draft) :
    written side (renderInside run) = Path.renderInside (run.map (fill side)) := by
  cases run with
  | nil => rfl
  | cons draft rest =>
      rw [renderInside, List.cons_append, List.cons_append, written_slash, written_slash, written_append,
        written_render]
      rfl

private theorem map_written_renderRuns (side : Side) (cut : List (List Draft)) :
    (renderRuns cut).map (written side) = Path.renderRuns (cut.map (List.map (fill side))) := by
  cases cut with
  | nil => rfl
  | cons first others => simp [renderRuns, Path.renderRuns, written_render, written_renderInside]

private theorem literals_renderRuns (cut : List (List Draft)) :
    (renderRuns cut).flatMap literals = cut.flatten.flatMap fun draft => literals draft.text := by
  have inside (run : List Draft) : literals (renderInside run) = run.flatMap fun draft => literals draft.text := by
    cases run with
    | nil => rfl
    | cons draft rest =>
        change literals (draft.text ++ rest.flatMap render) = _
        rw [literals_append, literals_render, List.flatMap_cons]
  cases cut with
  | nil => rfl
  | cons first others =>
      rw [renderRuns, List.flatMap_cons, literals_render, List.flatMap_map, List.flatten_cons, List.flatMap_append]
      simp only [inside, List.flatten_eq_flatMap, List.flatMap_assoc, id]

end Draft

/-- The segments of both sides are the two sides of the same parts, and each literal is in one of them. -/
def SplitAlike (pieces : List Piece) : Prop :=
  ∃ parts : List (List Piece), parts.flatMap literals = literals pieces ∧ ∀ side,
    (Locator.xpath (String.ofList (written side pieces))).segments =
      parts.map fun part => Locator.xpath (String.ofList (written side part))

private theorem splitAlike_of_alike {pieces : List Piece} {drafts : List Draft}
    (kept : (drafts.flatMap fun draft => literals draft.text) = literals pieces)
    (reading : ∀ side, steps (written side pieces) = drafts.map (Draft.fill side))
    (alike : ∀ draft ∈ drafts.dropLast, isFrameStep (draft.fill .first) = isFrameStep (draft.fill .second)) :
    SplitAlike pieces := by
  have cut (side : Side) : runs isFrameStep (steps (written side pieces)) =
      (runs (fun draft => isFrameStep (Draft.fill .first draft)) drafts).map (List.map (Draft.fill side)) := by
    rw [reading, runs_map]
    cases side with
    | first => rfl
    | second => rw [runs_congr alike]
  by_cases several : 1 < (runs (fun draft => isFrameStep (Draft.fill .first draft)) drafts).length
  · refine ⟨Draft.renderRuns (runs (fun draft => isFrameStep (Draft.fill .first draft)) drafts), ?_, fun side => ?_⟩
    · rw [Draft.literals_renderRuns, flatten_runs, kept]
    · rw [Locator.segments_xpath, cut, if_pos (by simpa using several), ← Draft.map_written_renderRuns, List.map_map]
      rfl
  · refine ⟨[pieces], by simp, fun side => ?_⟩
    rw [Locator.segments_xpath, cut, if_neg (by simpa using several)]
    rfl

private theorem length_steps_segments {expression : List Char} (some_step : steps expression ≠ []) :
    (Locator.xpath (String.ofList expression)).segments.map (fun segment => (steps segment.value.toList).length) =
      (runs isFrameStep (steps expression)).map List.length := by
  obtain ⟨first, others, found⟩ := List.exists_cons_of_ne_nil (runs_ne_nil isFrameStep some_step)
  rw [Locator.segments_xpath]
  split
  next several =>
    have entering (run : List Step) : (entered run).length = run.length := by cases run <;> rfl
    have counted := congrArg (List.map List.length) (map_steps_of_split? found)
    rw [found, renderRuns]
    simpa [Function.comp_def, entering, Locator.xpath] using counted
  next single =>
    obtain rfl : others = [] := by simpa [found] using single
    have all := flatten_runs isFrameStep (steps expression)
    rw [found] at all ⊢
    simpa [Locator.xpath] using congrArg List.length all.symm

private theorem alike_of_splitAlike {pieces : List Piece} {drafts : List Draft}
    (reading : ∀ side, steps (written side pieces) = drafts.map (Draft.fill side)) (alike : SplitAlike pieces) :
    ∀ draft ∈ drafts.dropLast, isFrameStep (draft.fill .first) = isFrameStep (draft.fill .second) := by
  obtain ⟨parts, -, segmented⟩ := alike
  have counted (part : List Piece) :
      (steps (written .first part)).length = (steps (written .second part)).length := by
    obtain ⟨inner, -, same⟩ := exists_drafts part
    rw [same, same, List.length_map, List.length_map]
  by_cases nothing : drafts = []
  · simp [nothing]
  have lengths (side : Side) : (runs (fun draft => isFrameStep (Draft.fill side draft)) drafts).map List.length =
      parts.map fun part => (steps (written side part)).length := by
    have some_step : steps (written side pieces) ≠ [] := by simpa [reading] using nothing
    have measured := length_steps_segments some_step
    rw [segmented, reading, runs_map] at measured
    simpa [Function.comp_def, Locator.xpath] using measured.symm
  refine alike_of_length_runs ?_
  rw [lengths, lengths]
  exact List.map_congr_left fun part _ => counted part

/-- The expressions in which every quote is closed are those that consist of pieces (`closed_iff_exists_written`). Two
of them that differ in the wording of literals only are split alike exactly if each parenthesised step with something
behind it mentions a frame on both sides or on none. -/
theorem splitAlike_iff (pieces : List Piece) :
    SplitAlike pieces ↔
      ∀ pair ∈ ((steps (written .first pieces)).zip (steps (written .second pieces))).dropLast,
        pair.1.text.head? = some '(' → mentionsFrame false pair.1.text = mentionsFrame false pair.2.text := by
  obtain ⟨drafts, kept, reading⟩ := exists_drafts pieces
  have judged (draft : Draft) : isFrameStep (draft.fill .first) = isFrameStep (draft.fill .second) ↔
      ((written .first draft.text).head? = some '(' →
        mentionsFrame false (written .first draft.text) = mentionsFrame false (written .second draft.text)) := by
    by_cases starts : (written .first draft.text).head? = some '('
    · rw [Draft.fill, Draft.fill, isFrameStep_of_paren starts, isFrameStep_of_paren (head?_written _ _ _ ▸ starts)]
      exact ⟨fun same _ => same, fun same => same starts⟩
    · exact iff_of_true (draft.isFrameStep_fill starts) fun other => absurd other starts
  have pairs : ((steps (written .first pieces)).zip (steps (written .second pieces))).dropLast =
      drafts.dropLast.map fun draft => (draft.fill .first, draft.fill .second) := by
    rw [reading, reading, List.zip_map', List.map_dropLast]
  rw [pairs, List.forall_mem_map]
  constructor
  · intro alike draft member
    exact (judged draft).mp (alike_of_splitAlike reading alike draft member)
  · intro alike
    exact splitAlike_of_alike kept reading fun draft member => (judged draft).mpr (alike draft member)

def titled : Quoted where
  quote := '\''
  wording
    | .first => "x".toList
    | .second => "iframe".toList
  isQuote := rfl
  free := by rintro (_ | _) <;> decide

/-- A title splits a parenthesised step. -/
theorem title_splits_parenthesised :
    ∃ pieces, written .first pieces = "(//div[@title='x'])[1]//p".toList ∧
      written .second pieces = "(//div[@title='iframe'])[1]//p".toList ∧ ¬SplitAlike pieces ∧
      (Locator.xpath "(//div[@title='x'])[1]//p").segments = [.xpath "(//div[@title='x'])[1]//p"] ∧
      (Locator.xpath "(//div[@title='iframe'])[1]//p").segments =
        [.xpath "(//div[@title='iframe'])[1]", .xpath "//p"] := by
  have whole : (Locator.xpath "(//div[@title='x'])[1]//p").segments = [.xpath "(//div[@title='x'])[1]//p"] := by
    decide +kernel
  have torn : (Locator.xpath "(//div[@title='iframe'])[1]//p").segments =
      [.xpath "(//div[@title='iframe'])[1]", .xpath "//p"] := by
    decide +kernel
  obtain ⟨before, start⟩ := exists_written (n := {}) rfl "(//div[@title=".toList (by decide)
  obtain ⟨behind, ending⟩ := exists_written (n := {}) rfl "])[1]//p".toList (by decide)
  have spelled (side : Side) : written side (before ++ .literal titled :: behind) =
      "(//div[@title=".toList ++ '\'' :: (titled.wording side ++ '\'' :: "])[1]//p".toList) := by
    rw [written_append, start, written_literal, ending]
    rfl
  refine ⟨before ++ .literal titled :: behind, spelled .first, spelled .second, ?_, whole, torn⟩
  rintro ⟨parts, -, segmented⟩
  have first := segmented .first
  have second := segmented .second
  rw [spelled] at first second
  have first := congrArg List.length (first.symm.trans whole)
  have second := congrArg List.length (second.symm.trans torn)
  rw [List.length_map] at first second
  exact absurd (first.symm.trans second) (by decide)

end RemoteDom.Selector.Path
