import RemoteDom.Proofs.Selector.Fronts
import RemoteDom.Proofs.Selector.Segments

/-! Frames behind an axis. The name of an axis is read as one word, and a hyphen ends a word, so that a step is known to
reach a frame behind the axes without a hyphen only. An expression is split behind each step that is known to, if
something follows. -/

namespace RemoteDom

namespace Selector

namespace Path

private theorem steps_slash (tail : List Char) :
    steps ('/' :: tail) = stepsFrom {} (slashes tail).1 [] (slashes tail).2 := by
  have behind : ('/' :: tail).drop (slashes tail).1.length = (slashes tail).2 := by
    rw [← slashes_append, List.drop_left]
  rw [steps, leadingSeparator_slash, behind]

private theorem stepsFrom_ne_nil (n : Nesting) (separator : List Char) {read : List Char} (some_text : read ≠ [])
    (rest : List Char) : stepsFrom n separator read rest ≠ [] := by
  induction rest generalizing n read with
  | nil => simp [stepsFrom, finish, some_text]
  | cons c rest ih =>
      by_cases cut : n.outside = true ∧ c = '/'
      · obtain ⟨free, rfl⟩ := cut
        rw [stepsFrom_slash free]
        simp [finish, some_text]
      · rw [stepsFrom_pass cut]
        exact ih (n.feed c) (by simp)

private theorem stepsFrom_eq_nil_iff (separator text : List Char) :
    stepsFrom {} separator [] text = [] ↔ ∀ c ∈ text, c = '/' := by
  match text with
  | [] => simp [stepsFrom, finish]
  | c :: rest =>
      by_cases slash : c = '/'
      · subst slash
        have shorter := length_slashes rest
        have same : (∀ c ∈ (slashes rest).2, c = '/') ↔ ∀ c ∈ rest, c = '/' := by
          unfold slashes
          split <;> simp
        have later := stepsFrom_eq_nil_iff (slashes rest).1 (slashes rest).2
        rw [stepsFrom_slash rfl, List.forall_mem_cons, ← same, ← later]
        simp [finish]
      · rw [stepsFrom_pass fun cut => slash cut.2]
        exact iff_of_false (stepsFrom_ne_nil _ _ (by simp) rest) fun all => slash (all c List.mem_cons_self)
termination_by text.length
decreasing_by
  simp_wf
  omega

private theorem steps_slash_ne_nil_iff (tail : List Char) : steps ('/' :: tail) ≠ [] ↔ ∃ c ∈ tail, c ≠ '/' := by
  have reading : steps ('/' :: tail) = stepsFrom {} [] [] ('/' :: tail) := by
    rw [steps_slash, stepsFrom_slash rfl]
    rfl
  rw [reading, ne_eq, stepsFrom_eq_nil_iff]
  simp

/-- An expression is split right behind its front. Something follows the front, and what follows is searched in the
frame that the front finds. -/
structure SplitBehind (front rest : List Char) : Prop where
  follows : steps rest ≠ []
  parts : (Locator.xpath (String.ofList (front ++ rest))).segments =
    (renderRuns (runs isFrameStep (steps front)) ++ (runs isFrameStep (steps rest)).map renderInside).map
      fun part => Locator.xpath (String.ofList part)

/-- A step by itself: a text that is read as one step, in which all that is opened is closed again. A dot at its start
would belong to the separator. -/
structure Single (text : List Char) : Prop where
  whole : Whole text
  closed : Nesting.feedAll {} text = {}
  dotless : text.head? ≠ some '.'

private theorem exists_steps_single {path : List Char} (closed : (Nesting.feedAll {} path).outside = true) :
    ∃ earlier separator, ∀ text, Single text →
      steps (path ++ '/' :: text) = earlier ++ [⟨separator, text⟩] ∧
        ∀ tail, steps (path ++ '/' :: text ++ '/' :: tail) = earlier ++ ⟨separator, text⟩ :: steps ('/' :: tail) := by
  obtain ⟨earlier, separator, read, fresh, reading⟩ := exists_steps_front (path ++ ['/'])
  obtain rfl := fresh (.inr ⟨path, rfl, closed⟩)
  have unnested : Nesting.feedAll {} (path ++ ['/']) = {} := by
    rw [Nesting.feedAll_append, Nesting.eq_of_outside closed]
    exact feed_slash
  refine ⟨earlier, separator, fun text single => ?_⟩
  obtain ⟨c, more, rfl⟩ := List.exists_cons_of_ne_nil single.whole.some_text
  have dotless : c ≠ '.' := fun dot => single.dotless (by rw [dot]; rfl)
  have scanned (rest : List Char) : steps (path ++ '/' :: (c :: more ++ rest)) =
      earlier ++ stepsFrom {} separator (c :: more).reverse rest := by
    have start := reading c (more ++ rest) single.whole.not_slash dotless
    rw [unnested, ← List.cons_append, stepsFrom_append single.whole.uncut, single.closed, List.append_nil] at start
    simpa using start
  refine ⟨?_, fun tail => ?_⟩
  · have whole := scanned []
    rw [List.append_nil] at whole
    rw [whole]
    exact congrArg (earlier ++ ·) (finish_whole single.whole separator)
  · rw [List.append_assoc, List.cons_append, scanned, stepsFrom_slash rfl, finish_whole single.whole, steps_slash]
    rfl

/-- An expression is split right behind a step exactly if the step reaches a frame and something follows. -/
private theorem splitBehind_iff {path text : List Char} (closed : (Nesting.feedAll {} path).outside = true)
    (single : Single text) (tail : List Char) :
    SplitBehind (path ++ '/' :: text) ('/' :: tail) ↔ isFrameStep ⟨[], text⟩ = true ∧ ∃ c ∈ tail, c ≠ '/' := by
  obtain ⟨earlier, separator, reading⟩ := exists_steps_single closed
  obtain ⟨front, whole⟩ := reading text single
  have same : isFrameStep ⟨[], text⟩ = isFrameStep ⟨separator, text⟩ := rfl
  rw [same, ← steps_slash_ne_nil_iff]
  constructor
  · rintro ⟨follows, parts⟩
    refine ⟨?_, follows⟩
    -- a step that is no frame leaves one segment less than both sides have by themselves
    have lengths := congrArg List.length parts
    obtain ⟨next, others, behind⟩ := List.exists_cons_of_ne_nil follows
    have some_step : earlier ++ [⟨separator, text⟩] ≠ [] := by simp
    rw [Locator.length_segments] at lengths
    simp only [Locator.framesEntered, Locator.xpath, String.toList_ofList, whole, front, behind, List.length_map,
      List.length_append, length_renderRuns, length_runs isFrameStep _ some_step,
      length_runs isFrameStep (next :: others) (by simp), List.dropLast_append_cons, List.dropLast_cons_cons,
      List.countP_append, List.countP_cons] at lengths
    by_contra plain
    rw [if_neg plain] at lengths
    omega
  · rintro ⟨frame, follows⟩
    have cut : runs isFrameStep (steps (path ++ '/' :: text ++ '/' :: tail)) =
        runs isFrameStep (steps (path ++ '/' :: text)) ++ runs isFrameStep (steps ('/' :: tail)) := by
      rw [whole, front, runs_append_of_marked frame earlier follows]
    have some_front : steps (path ++ '/' :: text) ≠ [] := by simp [front]
    obtain ⟨first, others, head⟩ :=
      List.exists_cons_of_ne_nil (runs_ne_nil isFrameStep some_front)
    obtain ⟨run, inner, behind⟩ := List.exists_cons_of_ne_nil (runs_ne_nil isFrameStep follows)
    have several : 1 < (first :: others ++ run :: inner).length := by
      simp only [List.length_append, List.length_cons]
      omega
    refine ⟨follows, ?_⟩
    rw [Locator.segments_xpath, cut, head, behind, if_pos several]
    simp [renderRuns]

inductive Axis where
  | ancestor
  | ancestorOrSelf
  | attributes
  | child
  | descendant
  | descendantOrSelf
  | following
  | followingSibling
  | namespaceNode
  | parent
  | preceding
  | precedingSibling
  | self
deriving DecidableEq, Repr

def Axis.name : Axis → List Char
  | ancestor => "ancestor".toList
  | ancestorOrSelf => "ancestor-or-self".toList
  | attributes => "attribute".toList
  | child => "child".toList
  | descendant => "descendant".toList
  | descendantOrSelf => "descendant-or-self".toList
  | following => "following".toList
  | followingSibling => "following-sibling".toList
  | namespaceNode => "namespace".toList
  | parent => "parent".toList
  | preceding => "preceding".toList
  | precedingSibling => "preceding-sibling".toList
  | self => "self".toList

inductive Predicates : List Char → Prop
  | nil : Predicates []
  | cons {inner rest : List Char} (nested : Nested Fence.bracket.inside inner) (others : Predicates rest) :
      Predicates (Fence.bracket.group inner ++ rest)

theorem Predicates.starts {predicates : List Char} (bracketed : Predicates predicates) :
    predicates = [] ∨ ∃ more, predicates = '[' :: more := by
  cases bracketed with
  | nil => exact .inl rfl
  | cons => exact .inr ⟨_, rfl⟩

theorem Predicates.feedAll {predicates : List Char} (bracketed : Predicates predicates) :
    Nesting.feedAll {} predicates = {} := by
  induction bracketed with
  | nil => rfl
  | cons nested _ ih => rw [Nesting.feedAll_append, nested.feedAll_group, ih]

theorem Predicates.uncut {predicates : List Char} (bracketed : Predicates predicates) (read : List Char) :
    Uncut EndsAt {} read predicates := by
  induction bracketed generalizing read with
  | nil => trivial
  | cons nested _ ih =>
      refine uncut_append.mpr ⟨nested.uncut_group (by simp [EndsAt, Fence.first]), ?_⟩
      rw [nested.feedAll_group]
      exact ih _

theorem Single.append {text predicates : List Char} (single : Single text) (bracketed : Predicates predicates) :
    Single (text ++ predicates) := by
  obtain ⟨c, more, rfl⟩ := List.exists_cons_of_ne_nil single.whole.some_text
  refine ⟨⟨uncut_append.mpr ⟨single.whole.uncut, ?_⟩, by simp⟩, ?_, single.dotless⟩
  · rw [single.closed]
    exact bracketed.uncut _
  · rw [Nesting.feedAll_append, single.closed, bracketed.feedAll]

private theorem single_frameName : Single frameName := ⟨⟨by decide, by decide⟩, by decide, by decide⟩

def Axis.frame (axis : Axis) : List Char := axis.name ++ ':' :: ':' :: frameName

private theorem Axis.single_frame (axis : Axis) : Single axis.frame := by
  cases axis <;> exact ⟨⟨by decide, by decide⟩, by decide, by decide⟩

private theorem isFrameStep_frameName {predicates : List Char} (bracketed : Predicates predicates) :
    isFrameStep ⟨[], frameName ++ predicates⟩ = true := by
  rcases bracketed.starts with rfl | ⟨more, rfl⟩ <;> rfl

private theorem Axis.isFrameStep_frame_iff (axis : Axis) {predicates : List Char} (bracketed : Predicates predicates) :
    isFrameStep ⟨[], axis.frame ++ predicates⟩ = true ↔ '-' ∉ axis.name := by
  have known : isFrameStep ⟨[], axis.frame ++ predicates⟩ = !axis.name.contains '-' := by
    rcases bracketed.starts with rfl | ⟨more, rfl⟩ <;> cases axis <;> rfl
  simp [known]

/-- Behind a path, a frame with any predicates is where an expression is split, if anything is named behind it. With an
axis in front of its name this is so exactly if the name of the axis has no hyphen. The steps before are the same with
the axis and without. -/
theorem splitBehind_axis_iff (axis : Axis) {path predicates : List Char}
    (closed : (Nesting.feedAll {} path).outside = true) (bracketed : Predicates predicates) (tail : List Char) :
    (SplitBehind (path ++ '/' :: (frameName ++ predicates)) ('/' :: tail) ↔ ∃ c ∈ tail, c ≠ '/') ∧
      (SplitBehind (path ++ '/' :: (axis.frame ++ predicates)) ('/' :: tail) ↔
        '-' ∉ axis.name ∧ ∃ c ∈ tail, c ≠ '/') ∧
      ∃ earlier separator,
        steps (path ++ '/' :: (frameName ++ predicates)) = earlier ++ [⟨separator, frameName ++ predicates⟩] ∧
        steps (path ++ '/' :: (axis.frame ++ predicates)) = earlier ++ [⟨separator, axis.frame ++ predicates⟩] := by
  have bare : Single (frameName ++ predicates) := single_frameName.append bracketed
  have behindAxis : Single (axis.frame ++ predicates) := axis.single_frame.append bracketed
  refine ⟨?_, ?_, ?_⟩
  · rw [splitBehind_iff closed bare, isFrameStep_frameName bracketed]
    simp
  · rw [splitBehind_iff closed behindAxis, axis.isFrameStep_frame_iff bracketed]
  · obtain ⟨earlier, separator, reading⟩ := exists_steps_single closed
    exact ⟨earlier, separator, (reading _ bare).1, (reading _ behindAxis).1⟩

/-- A slash in a predicate, and a path that starts with a parenthesis. -/
theorem splitBehind_axis_iff_following :
    (Nesting.feedAll {} "(//div)[1]".toList).outside = true ∧ Predicates "[@src='a/b'][1]".toList ∧
      SplitBehind "(//div)[1]/following::iframe[@src='a/b'][1]".toList "//p".toList :=
  have closed : (Nesting.feedAll {} "(//div)[1]".toList).outside = true := by decide
  have source : Nested Fence.bracket.inside "@src='a/b'".toList := ⟨by decide, by decide⟩
  have index : Nested Fence.bracket.inside "1".toList := ⟨by decide, by decide⟩
  have bracketed : Predicates "[@src='a/b'][1]".toList := .cons source (.cons index .nil)
  have named : ∃ c ∈ "/p".toList, c ≠ '/' := ⟨'p', by decide, by decide⟩
  ⟨closed, bracketed, (splitBehind_axis_iff .following closed bracketed "/p".toList).2.1.mpr ⟨by decide, named⟩⟩

/-- The frame behind the longer axis is searched for in the document around it. -/
theorem hyphenated_axis_missed :
    (Nesting.feedAll {} "/".toList).outside = true ∧ Predicates [] ∧
      "//descendant-or-self::iframe".toList = "/".toList ++ '/' :: (Axis.descendantOrSelf.frame ++ []) ∧
      (Locator.xpath "//descendant-or-self::iframe//p").segments = [.xpath "//descendant-or-self::iframe//p"] ∧
      ¬SplitBehind "//descendant-or-self::iframe".toList "//p".toList ∧
      (Locator.xpath "//iframe//p").segments = [.xpath "//iframe", .xpath "//p"] :=
  ⟨by decide, .nil, by decide, by decide +kernel, fun split => absurd split.parts (by decide +kernel),
    by decide +kernel⟩

end Path

end Selector

end RemoteDom
