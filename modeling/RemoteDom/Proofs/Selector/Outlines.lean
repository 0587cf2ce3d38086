import RemoteDom.Proofs.Selector.CompoundText
import RemoteDom.Proofs.Selector.Gaps

/-! The compounds of a selector without the blanks around them. What is left of them where a compound ends, and where
none does. -/

namespace RemoteDom.Selector.Compound

private theorem alone_cons (compound : Compound) {rest : List Compound} (some_rest : rest ≠ []) :
    alone (compound :: rest) = compound :: alone rest := by
  obtain ⟨next, others, rfl⟩ := List.exists_cons_of_ne_nil some_rest
  rfl

private theorem alone_ne_nil {compounds : List Compound} (some_compound : compounds ≠ []) : alone compounds ≠ [] := by
  unfold alone
  split <;> simp_all

private theorem alone_singleton_ne {compound other : Compound} {rest : List Compound} (some_rest : rest ≠ []) :
    alone [compound] ≠ alone (other :: rest) := by
  rw [alone_cons other some_rest]
  exact fun same => alone_ne_nil some_rest (List.cons.inj same).2.symm

theorem alone_cons_inj {compound : Compound} {rest others : List Compound} :
    alone (compound :: rest) = alone (compound :: others) ↔ alone rest = alone others := by
  cases rest with
  | nil =>
      cases others with
      | nil => exact iff_of_true rfl rfl
      | cons next others => exact iff_of_false (alone_singleton_ne (by simp)) (alone_ne_nil (by simp)).symm
  | cons next rest =>
      cases others with
      | nil => exact iff_of_false (alone_singleton_ne (by simp)).symm (alone_ne_nil (by simp))
      | cons => rw [alone_cons compound (by simp), alone_cons compound (by simp), List.cons_inj_right]

private theorem eq_of_alone_eq {compound other : Compound} {rest others : List Compound}
    (same : alone (compound :: rest) = alone (other :: others)) (some_rest : others ≠ []) : compound = other := by
  cases rest with
  | nil => exact absurd same (alone_singleton_ne some_rest)
  | cons next rest =>
      rw [alone_cons other some_rest] at same
      exact (List.cons.inj same).1

private theorem text_eq_of_alone_eq {compound other : Compound} {rest others : List Compound}
    (same : alone (compound :: rest) = alone (other :: others)) :
    Text.trim compound.text = Text.trim other.text := by
  have start (first : Compound) (later : List Compound) :
      ((alone (first :: later)).head?.map fun compound => Text.trim compound.text) = some (Text.trim first.text) := by
    cases later <;> simp [alone, Text.trim_trim]
  have texts := congrArg (fun compounds => compounds.head?.map fun compound => Text.trim compound.text) same
  exact Option.some.inj (by rw [← start, ← start, texts])

def Unended (compounds : List Compound) : Prop := ∃ last ∈ compounds.getLast?, last.combinator = none

private theorem unended_map_bare {compounds : List Compound} : Unended (compounds.map bare) ↔ Unended compounds := by
  simp [Unended, bare]

private theorem unended_cons {text : List Char} {sign : Char} {compounds : List Compound} :
    Unended (⟨text, some sign⟩ :: compounds) ↔ Unended compounds := by
  cases compounds <;> simp [Unended]

private theorem unended_nil : ¬Unended [] := by simp [Unended]

def outline (n : Nesting) (read text : List Char) : List Compound := alone ((gather n read text).map bare)

/-- At the end of a front a compound is being read, outside of quotes, brackets and parentheses. -/
structure Within (n : Nesting) (read front : List Char) : Prop where
  outside : (n.feedAll front).outside = true
  unended : Unended (gather n read front)

section Scan

variable {n : Nesting} {read : List Char} {c : Char}

theorem outline_passes (passes : ¬(n.outside = true ∧ EndsAt read.reverse c)) (text : List Char) :
    outline n read (c :: text) = outline (n.feed c) (c :: read) text := by
  rw [outline, gather_passes passes, outline]

theorem within_passes (passes : ¬(n.outside = true ∧ EndsAt read.reverse c)) (rest : List Char) :
    Within n read (c :: rest) ↔ Within (n.feed c) (c :: read) rest := by
  constructor
  · rintro ⟨outside, unended⟩
    exact ⟨outside, gather_passes passes rest ▸ unended⟩
  · rintro ⟨outside, unended⟩
    exact ⟨outside, (gather_passes passes rest).symm ▸ unended⟩

theorem visible_of_within (within : Within n read []) : n.outside = true ∧ isBlankText read.reverse = false := by
  refine ⟨within.outside, ?_⟩
  have unended := within.unended
  rw [gather] at unended
  split at unended
  next => exact absurd unended unended_nil
  next shown => simpa [isBlankText] using shown

theorem within_nil (outside : n.outside = true) (shown : isBlankText read.reverse = false) : Within n read [] := by
  have kept : (Text.trim read.reverse).isEmpty = false := shown
  exact ⟨outside, by simp [gather, kept, Unended]⟩

end Scan

section Gap

variable {read gap : List Char} {c : Char}

theorem outline_gap (shown : isBlankText read.reverse = false) (blank : ∀ d ∈ gap, Text.isBlank d = true)
    (visible : Text.isBlank c = false) (ends : isCombinator c = true ∨ ' ' ∈ gap) (rest : List Char) :
    outline {} read (gap ++ c :: rest) =
      alone (⟨Text.trim read.reverse, some (tail gap c rest).1⟩ :: (ofSelector (tail gap c rest).2).map bare) := by
  rw [outline, map_bare_gather_gap shown blank visible ends]

private theorem feedAll_tail (blank : ∀ d ∈ gap, Text.isBlank d = true) (rest : List Char) :
    Nesting.feedAll {} (tail gap c rest).2 = Nesting.feedAll {} (gap ++ c :: rest) := by
  rw [Nesting.feedAll_append, Nesting.feedAll_blank blank, tail]
  split
  next taken => rw [Nesting.feedAll_cons, feed_of_isCombinator (Bool.and_eq_true_iff.mp taken).1]
  next => rfl

theorem within_gap (shown : isBlankText read.reverse = false) (blank : ∀ d ∈ gap, Text.isBlank d = true)
    (visible : Text.isBlank c = false) (ends : isCombinator c = true ∨ ' ' ∈ gap) (rest : List Char) :
    Within {} read (gap ++ c :: rest) ↔ Within {} [] (tail gap c rest).2 := by
  have unended : Unended (gather {} read (gap ++ c :: rest)) ↔ Unended (gather {} [] (tail gap c rest).2) := by
    rw [← unended_map_bare, map_bare_gather_gap shown blank visible ends, unended_cons, unended_map_bare]
    rfl
  constructor
  · exact fun within => ⟨feedAll_tail blank rest ▸ within.outside, unended.mp within.unended⟩
  · exact fun within => ⟨feedAll_tail blank rest ▸ within.outside, unended.mpr within.unended⟩

/-- No compound is read any more behind a space that ended it. -/
theorem unspaced_of_within (shown : isBlankText read.reverse = false) (blank : ∀ d ∈ gap, Text.isBlank d = true)
    (within : Within {} read gap) : ' ' ∉ gap := by
  have unended := unended_map_bare.mpr within.unended
  rw [map_bare_gather_blank shown blank] at unended
  intro space
  simp [Unended, space] at unended

theorem separates_append {front : List Char} (unspaced : ' ' ∉ front) (gap : List Char) (c : Char) :
    separates (front ++ gap) c = separates gap c := by
  induction front with
  | nil => rfl
  | cons d front ih =>
      obtain ⟨other, later⟩ := List.ne_and_not_mem_of_not_mem_cons unspaced
      rw [List.cons_append, separates_cons_of_ne (Ne.symm other), ih later]

private theorem separates_of_not_isCombinator (plain : isCombinator c = false) (gap : List Char) :
    separates gap c = gap.contains ' ' := by
  simp [separates, plain]

theorem outline_blank (shown : isBlankText read.reverse = false) (blank : ∀ d ∈ gap, Text.isBlank d = true) :
    outline {} read gap = [⟨Text.trim read.reverse, none⟩] := by
  rw [outline, map_bare_gather_blank shown blank, alone, Text.trim_trim]

private theorem ofSelector_ne_nil (visible : Text.isBlank c = false) (rest : List Char) :
    ofSelector (c :: rest) ≠ [] := by
  have lone : isBlankText [c].reverse = false := by
    rw [← Bool.not_eq_true, isBlankText_iff]
    simp [visible]
  obtain ⟨more, sign, others, found⟩ := exists_map_bare_gather lone (({} : Nesting).feed c) rest
  intro nothing
  rw [ofSelector_cons] at nothing
  simp [nothing] at found

/-- Where blanks do not part a compound from what follows, it has more text than was read in front of them. -/
private theorem exists_gather_joined (shown : isBlankText read.reverse = false)
    (blank : ∀ d ∈ gap, Text.isBlank d = true)
    (visible : Text.isBlank c = false) (plain : isCombinator c = false) (joins : separates gap c = false)
    (rest : List Char) :
    ∃ first others, (gather {} read (gap ++ c :: rest)).map bare = first :: others ∧
      Text.trim first.text ≠ Text.trim read.reverse := by
  have unspaced : ' ' ∉ gap := by
    rw [separates_of_not_isCombinator plain] at joins
    simpa using joins
  have further : isBlankText (c :: (gap.reverse ++ read)).reverse = false := by
    simpa using isBlankText_append shown (gap ++ [c])
  have some_text : Text.trimStart read.reverse ≠ [] := by
    rw [Ne, ← isBlankText_iff_trimStart, shown]
    decide
  obtain ⟨more, sign, others, found⟩ := exists_map_bare_gather further (({} : Nesting).feed c) rest
  refine ⟨_, others, (congrArg (List.map bare) (gather_gap_of_unspaced blank unspaced plain rest)).trans found, ?_⟩
  simpa [Text.trim_trim] using Text.trim_append_ne some_text visible gap more

theorem outline_ne (shown : isBlankText read.reverse = false) {first second : List Char}
    (blank : ∀ d ∈ first, Text.isBlank d = true) (white : ∀ d ∈ second, Text.isBlank d = true)
    (visible : Text.isBlank c = false) (parts : separates first c = true) (joins : separates second c = false)
    (rest others : List Char) :
    outline {} read (first ++ c :: rest) ≠ outline {} read (second ++ c :: others) := by
  intro same
  cases isSign : isCombinator c with
  | true =>
      -- the compounds end alike, but with the sign in the first selector only
      rw [outline_gap shown blank visible (.inl isSign), outline_gap shown white visible (.inl isSign), tail, tail,
        isSign, parts, joins] at same
      have some_compound : (ofSelector (c :: others)).map bare ≠ [] := by simp [ofSelector_ne_nil visible]
      have signs := congrArg Compound.combinator (eq_of_alone_eq same some_compound)
      exact ne_space_of_visible visible (Option.some.inj signs)
  | false =>
      have spaced : ' ' ∈ first := by
        rw [separates_of_not_isCombinator isSign] at parts
        simpa using parts
      obtain ⟨compound, later, found, longer⟩ := exists_gather_joined shown white visible isSign joins others
      rw [outline_gap shown blank visible (.inr spaced), outline, found] at same
      have texts := text_eq_of_alone_eq same
      exact longer (texts.symm.trans (Text.trim_trim _))

theorem separates_cases {first second : List Char} (ends : isCombinator c = true ∨ ' ' ∈ first)
    (same : separates first c = separates second c) : isCombinator c = true ∨ ' ' ∈ second := by
  cases isSign : isCombinator c with
  | true => exact .inl rfl
  | false =>
      have spaced : ' ' ∈ first := ends.resolve_left (by simp [isSign])
      rw [separates_of_not_isCombinator isSign, separates_of_not_isCombinator isSign] at same
      exact .inr (List.contains_iff_mem.mp (same ▸ List.contains_iff_mem.mpr spaced))

end Gap

theorem isFrame_bare (compound : Compound) : isFrame compound.bare = isFrame compound := by
  rw [isFrame, bare, Text.trim_trim, isFrame]

theorem dropLast_alone (compounds : List Compound) : (alone compounds).dropLast = compounds.dropLast := by
  induction compounds with
  | nil => rfl
  | cons first rest ih =>
      cases rest with
      | nil => rfl
      | cons next others =>
          rw [alone_cons first (by simp), List.dropLast_cons_of_ne_nil (alone_ne_nil (by simp)), ih]
          rfl

end RemoteDom.Selector.Compound
