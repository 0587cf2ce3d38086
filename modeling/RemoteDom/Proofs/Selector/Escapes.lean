import RemoteDom.Proofs.Selector.TypeNames

/-! Escapes in selectors. A backslash is read as any other character, so that an escaped combinator still ends a
compound. Behind an escape there is always something visible, and what is cut at spaces only, with no frame behind any
of them, is put together again as it was. -/

namespace RemoteDom.Selector.Compound

/-- Each combinator stands behind something visible. -/
def Escaped (text : List Char) : Prop :=
  ∀ before sign after, text = before ++ sign :: after → isCombinator sign = true →
    ∃ more c, before = more ++ [c] ∧ Text.isBlank c = false

namespace Escaped

variable {first second : List Char}

theorem nil : Escaped [] := by
  intro before sign after parts
  simp at parts

theorem append (before : Escaped first) (behind : Escaped second) : Escaped (first ++ second) := by
  intro front sign after parts isSign
  rcases List.append_eq_append_iff.mp parts with ⟨more, rfl, tail⟩ | ⟨more, whole, tail⟩
  · obtain ⟨earlier, c, rfl, visible⟩ := behind more sign after tail isSign
    exact ⟨first ++ earlier, c, by simp, visible⟩
  · cases more with
    | nil =>
        obtain ⟨earlier, c, nothing, -⟩ := behind [] sign after tail.symm isSign
        simp at nothing
    | cons d more =>
        obtain ⟨rfl, -⟩ := List.cons.inj tail
        exact before front sign more whole isSign

theorem flatMap {α : Type} {write : α → List Char} (each : ∀ item, Escaped (write item)) (items : List α) :
    Escaped (items.flatMap write) := by
  induction items with
  | nil => exact nil
  | cons item rest ih => exact (each item).append ih

theorem front (escaped : Escaped (first ++ second)) : Escaped first := by
  rintro before sign after rfl isSign
  exact escaped before sign (after ++ second) (by simp) isSign

theorem behind {sign : Char} (escaped : Escaped (first ++ sign :: second)) (blank : Text.isBlank sign = true) :
    Escaped second := by
  intro before other after parts isSign
  obtain ⟨more, c, whole, visible⟩ :=
    escaped (first ++ sign :: before) other after (by rw [parts]; simp) isSign
  rcases List.eq_nil_or_concat before with rfl | ⟨earlier, d, rfl⟩
  · obtain ⟨-, same⟩ := List.append_inj' whole rfl
    obtain rfl : sign = c := by simpa using same
    exact Bool.noConfusion (visible.symm.trans blank)
  · have same : first ++ sign :: earlier ++ [d] = more ++ [c] := by simpa using whole
    obtain ⟨-, last⟩ := List.append_inj' same rfl
    obtain rfl : d = c := by simpa using last
    exact ⟨earlier, d, by simp, visible⟩

theorem concat {c last : Char} {rest : List Char} (bare : isCombinator c = false)
    (visible : ∀ d ∈ c :: rest, Text.isBlank d = false) : Escaped (c :: rest ++ [last]) := by
  intro before sign after parts isSign
  rcases List.eq_nil_or_concat before with rfl | ⟨more, d, rfl⟩
  · obtain ⟨rfl, -⟩ := List.cons.inj parts
    exact Bool.noConfusion (isSign.symm.trans bare)
  · refine ⟨more, d, by simp, visible d ?_⟩
    have whole : c :: rest = more ++ d :: (sign :: after).dropLast := by
      have same := congrArg List.dropLast parts
      rw [List.dropLast_concat] at same
      rw [same]
      simp
    rw [whole]
    simp

theorem singleton {c : Char} (bare : isCombinator c = false) : Escaped [c] := by
  intro before sign after parts isSign
  cases before with
  | nil =>
      obtain ⟨rfl, -⟩ := List.cons.inj parts
      exact Bool.noConfusion (isSign.symm.trans bare)
  | cons d more => simp at parts

theorem backslash (c : Char) : Escaped ['\\', c] := by
  have visible : ∀ d ∈ ['\\'], Text.isBlank d = false := by simpa using (by decide : Text.isBlank '\\' = false)
  exact concat (by decide) visible

theorem codePoint {c : Char} (small : c.toNat < 128) : Escaped (Identifier.codePoint c) := by
  have digits : (List.range 128).all fun n => (Text.digits 16 n).all fun d => !Text.isBlank d := by decide +kernel
  refine concat (by decide) fun d member => ?_
  rcases List.mem_cons.mp member with rfl | digit
  · decide
  · simpa using List.all_eq_true.mp (List.all_eq_true.mp digits c.toNat (List.mem_range.mpr small)) d digit

theorem escapeChar (digitAllowed : Bool) (c : Char) : Escaped (Identifier.escapeChar digitAllowed c) := by
  unfold Identifier.escapeChar
  split_ifs with nothing control digit plain
  · exact singleton (by decide)
  · exact codePoint (by omega)
  · have nine : c.toNat ≤ 57 := by
      have isDigit := digit.1
      simp only [Char.isDigit, Bool.and_eq_true, decide_eq_true_eq] at isDigit
      exact UInt32.le_iff_toNat_le.mp isDigit.2
    exact codePoint (by omega)
  · refine singleton ?_
    rw [← Bool.not_eq_true]
    intro isSign
    simp only [isCombinator, Bool.or_eq_true, beq_iff_eq] at isSign
    rcases isSign with ((rfl | rfl) | rfl) | rfl <;> exact absurd plain (by decide)
  · exact backslash c

theorem identifier (value : List Char) : Escaped ('#' :: Identifier.escape value) := by
  have sharp : Escaped ['#'] := singleton (by decide)
  suffices escaped : Escaped (Identifier.escape value) from sharp.append escaped
  unfold Identifier.escape
  split
  · exact nil
  · exact backslash '-'
  · exact escapeChar _ _
  · exact ((escapeChar _ _).append (escapeChar _ _)).append (flatMap (escapeChar true) _)

private theorem visible_before {before after : List Char} {sign : Char} (escaped : Escaped (before ++ sign :: after))
    (isSign : isCombinator sign = true) : isBlankText before = false := by
  obtain ⟨more, c, rfl, visible⟩ := escaped before sign after rfl isSign
  rw [← Bool.not_eq_true, isBlankText_iff]
  exact fun blank => Bool.noConfusion (visible.symm.trans (blank c (by simp)))

theorem combine {before after : List Char} (escaped : Escaped (before ++ ' ' :: after)) (some_text : after ≠ [])
    (rest : List Char) : combine ' ' (after ++ rest) = (' ', after ++ rest) := by
  obtain ⟨c, more, rfl⟩ := List.exists_cons_of_ne_nil some_text
  have bare : isCombinator c = false := by
    rw [← Bool.not_eq_true]
    intro isSign
    obtain ⟨earlier, d, parts, shown⟩ := escaped (before ++ [' ']) c more (by simp) isSign
    obtain ⟨-, same⟩ := List.append_inj' parts rfl
    obtain rfl : ' ' = d := by simpa using same
    exact absurd shown (by decide)
  refine combine_of_visible (more ++ rest) ?_ (.inr bare)
  rintro rfl
  exact absurd bare (by decide)

end Escaped

/-- A text that is read as compounds with single spaces between them, none of which reaches a frame. -/
structure Unbroken (text : List Char) : Prop where
  closed : (Nesting.feedAll {} text).outside = true
  visible : isBlankText text = false
  plain : isFrame ⟨text, none⟩ = false
  spaced : ∀ before sign after, text = before ++ sign :: after → (Nesting.feedAll {} before).outside = true →
    isCombinator sign = true → sign = ' ' ∧ isBlankText after = false ∧ isFrame ⟨after, none⟩ = false

private theorem feedAll_behind {before : List Char} {sign : Char} (free : (Nesting.feedAll {} before).outside = true)
    (isSign : isCombinator sign = true) (text : List Char) :
    Nesting.feedAll {} (before ++ sign :: text) = Nesting.feedAll {} text := by
  rw [Nesting.feedAll_append, Nesting.eq_of_outside free, Nesting.feedAll_cons, feed_of_isCombinator isSign]

/-- No combinator outside all nesting is within an escaped text that is read as one compound. -/
theorem Solid.inside {before after : List Char} {sign : Char} (solid : Solid (before ++ sign :: after))
    (escaped : Escaped (before ++ sign :: after)) (isSign : isCombinator sign = true) :
    (Nesting.feedAll {} before).outside = false := by
  obtain ⟨-, passes, -⟩ := uncut_append.mp solid.uncut
  rw [← Bool.not_eq_true]
  exact fun free => passes ⟨free, isSign, by simpa using escaped.visible_before isSign⟩

theorem Solid.unbroken {text : List Char} (solid : Solid text) (escaped : Escaped text)
    (closed : (Nesting.feedAll {} text).outside = true) (plain : isFrame ⟨text, none⟩ = false) : Unbroken text := by
  refine ⟨closed, solid.visible, plain, fun before sign after parts free isSign => ?_⟩
  rw [parts] at escaped solid
  exact Bool.noConfusion (free.symm.trans (solid.inside escaped isSign))

namespace Unbroken

variable {before after : List Char} {sign : Char}

theorem behind (unbroken : Unbroken (before ++ sign :: after)) (free : (Nesting.feedAll {} before).outside = true)
    (isSign : isCombinator sign = true) : Unbroken after := by
  obtain ⟨-, visible, plain⟩ := unbroken.spaced before sign after rfl free isSign
  have fed := feedAll_behind free isSign
  refine ⟨fed after ▸ unbroken.closed, visible, plain, fun front other rest parts outside second => ?_⟩
  exact unbroken.spaced (before ++ sign :: front) other rest (by rw [parts]; simp) (by rw [fed]; exact outside) second

theorem cons (escaped : Escaped (before ++ ' ' :: after)) (solid : Solid before) (first : Unbroken before)
    (later : Unbroken after) : Unbroken (before ++ ' ' :: after) := by
  have fed := feedAll_behind first.closed (by decide : isCombinator ' ' = true)
  constructor
  case closed => exact (fed after).symm ▸ later.closed
  case visible => exact isBlankText_append first.visible _
  case plain => exact (isFrame_append_of_visible first.visible (by decide) after none).trans first.plain
  case spaced =>
    intro front sign rest parts free isSign
    rcases List.append_eq_append_iff.mp parts with ⟨more, rfl, tail⟩ | ⟨more, rfl, tail⟩
    · cases more with
      | nil =>
          obtain ⟨rfl, rfl⟩ := List.cons.inj tail
          exact ⟨rfl, later.visible, later.plain⟩
      | cons d more =>
          obtain ⟨rfl, same⟩ := List.cons.inj tail
          rw [fed] at free
          exact later.spaced more sign rest same free isSign
    · cases more with
      | nil =>
          obtain ⟨rfl, rfl⟩ := List.cons.inj tail
          exact ⟨rfl, later.visible, later.plain⟩
      | cons d more =>
          obtain ⟨rfl, -⟩ := List.cons.inj tail
          exact Bool.noConfusion (free.symm.trans (solid.inside escaped.front isSign))

/-- An unbroken text is read as compounds that reach no frame and are put together as it was. What is behind it is read
as if it stood by itself. -/
theorem exists_reading {text : List Char} (unbroken : Unbroken text) (escaped : Escaped text) :
    ∃ earlier last, (∀ compound ∈ earlier, isFrame compound = false) ∧ isFrame ⟨last, none⟩ = false ∧
      renderRun (earlier ++ [⟨last, none⟩]) = text ∧ ∀ sign rest, isCombinator sign = true →
        ofSelector (text ++ sign :: rest) =
          earlier ++ ⟨last, some (Compound.combine sign rest).1⟩ :: ofSelector (Compound.combine sign rest).2 := by
  rcases uncut_or_cut EndsAt {} [] text with uncut | ⟨before, c, after, rfl, uncut, free, isSign, shown⟩
  · refine ⟨[], text, by simp, unbroken.plain, rfl, fun sign rest isSign => ?_⟩
    exact ofSelector_sign ⟨uncut, unbroken.visible⟩ unbroken.closed isSign rest
  · obtain ⟨rfl, visible, plain⟩ := unbroken.spaced before c after rfl free isSign
    have some_text : after ≠ [] := by
      rintro rfl
      exact absurd visible (by decide)
    obtain ⟨earlier, last, bare, final, written, reading⟩ :=
      exists_reading (unbroken.behind free isSign) (escaped.behind (by decide))
    have solid : Solid before := ⟨uncut, shown⟩
    have first : isFrame ⟨before, some ' '⟩ = false := by
      rw [← unbroken.plain]
      exact (isFrame_append_of_visible solid.visible (by decide) after none).symm
    refine ⟨⟨before, some ' '⟩ :: earlier, last, List.forall_mem_cons.mpr ⟨first, bare⟩, final, ?_, ?_⟩
    · rw [List.cons_append, renderRun_cons _ (by simp), written]
      simp [renderCombinator]
    · intro sign rest isSign'
      rw [List.append_assoc, List.cons_append, ofSelector_sign solid free isSign, escaped.combine some_text,
        reading sign rest isSign']
      rfl
termination_by text.length

end Unbroken

private theorem isDelimiter_of_quote (text : List Char) :
    ∀ quote ∈ (Nesting.feedAll {} text).quote, Nesting.isDelimiter quote = true := by
  suffices kept : ∀ n : Nesting, (∀ quote ∈ n.quote, Nesting.isDelimiter quote = true) →
      ∀ quote ∈ (n.feedAll text).quote, Nesting.isDelimiter quote = true from kept {} (by simp)
  induction text with
  | nil => exact fun n quotes => quotes
  | cons c rest ih =>
      refine fun n quotes => ih (n.feed c) ?_
      grind [Nesting.feed, Nesting.isDelimiter]

/-- Where something is left open, what opens and closes nothing is not cut. -/
private theorem uncut_of_open {text rest : List Char} (opened : (Nesting.feedAll {} text).outside = false)
    (bare : rest.any Nesting.isDelimiter = false) (read : List Char) :
    Uncut EndsAt (Nesting.feedAll {} text) read rest := by
  have quotes := isDelimiter_of_quote text
  generalize Nesting.feedAll {} text = n at opened quotes
  induction rest generalizing read with
  | nil => trivial
  | cons c rest ih =>
      obtain ⟨first, later⟩ := Bool.or_eq_false_iff.mp bare
      have unchanged : n.feed c = n := by
        cases quoted : n.quote with
        | none => exact Nesting.feed_of_not_delimiter n c first quoted
        | some quote =>
            refine Nesting.feed_of_quoted quoted ?_
            rintro rfl
            exact Bool.noConfusion (first.symm.trans (quotes c quoted))
      refine ⟨fun cut => Bool.noConfusion (opened.symm.trans cut.1), ?_⟩
      rw [unchanged]
      exact ih later (c :: read)

def probe : List Char := ">iframe".toList ++ ['>', 'p']

private theorem length_ofSelector_probe {text : List Char} (uncut : Uncut EndsAt {} [] text)
    (opened : (Nesting.feedAll {} text).outside = false) : (ofSelector (text ++ probe)).length ≤ 1 :=
  length_ofSelector_le (uncut_append.mpr ⟨uncut, uncut_of_open opened (by decide) _⟩)

private theorem ofSelector_probe_of_blank {text : List Char} (uncut : Uncut EndsAt {} [] text)
    (closed : (Nesting.feedAll {} text).outside = true) (blank : isBlankText text = true) :
    ofSelector (text ++ probe) = [⟨text ++ ">iframe".toList, some '>'⟩, ⟨['p'], none⟩] := by
  have parts : text ++ probe = text ++ ">iframe".toList ++ ['>', 'p'] := (List.append_assoc text _ _).symm
  have solid : Solid (text ++ ">iframe".toList) := by
    constructor
    · exact uncut_append.mpr ⟨uncut, fun cut => Bool.noConfusion (blank.symm.trans (by simpa using cut.2.2)),
        uncut_of_bare (by decide) _ _⟩
    · rw [← Bool.not_eq_true, isBlankText_iff]
      exact fun white => absurd (white '>' (by simp)) (by decide)
  have free : (Nesting.feedAll {} (text ++ ">iframe".toList)).outside = true := by
    rw [Nesting.feedAll_append, Nesting.eq_of_outside closed]
    decide
  rw [parts, ofSelector_sign solid free (by decide)]
  rfl

section Probed

variable {run : List Compound} {frame last : Compound}

private theorem unbroken_of_uncut {text : List Char} (escaped : Escaped text) (uncut : Uncut EndsAt {} [] text)
    (plain : ∀ compound ∈ run, isFrame compound = false)
    (written : renderRun (run ++ [frame]) = text ++ " > iframe".toList)
    (reading : ofSelector (text ++ probe) = run ++ [frame, last]) : Unbroken text := by
  have closed : (Nesting.feedAll {} text).outside = true := by
    rw [← Bool.not_eq_false]
    intro opened
    have short := length_ofSelector_probe uncut opened
    rw [reading, List.length_append] at short
    simp at short
  cases visible : isBlankText text with
  | false =>
      have whole : ofSelector (text ++ probe) =
          [⟨text, some '>'⟩] ++ [⟨"iframe".toList, some '>'⟩, ⟨['p'], none⟩] :=
        ofSelector_sign ⟨uncut, visible⟩ closed (by decide) _
      obtain ⟨rfl, -⟩ := List.append_inj' (whole.symm.trans reading) rfl
      exact Solid.unbroken ⟨uncut, visible⟩ escaped closed (plain ⟨text, some '>'⟩ (by simp))
  | true =>
      have whole : ofSelector (text ++ probe) =
          [] ++ [⟨text ++ ">iframe".toList, some '>'⟩, ⟨['p'], none⟩] :=
        ofSelector_probe_of_blank uncut closed visible
      obtain ⟨rfl, same⟩ := List.append_inj' (whole.symm.trans reading) rfl
      obtain ⟨rfl, -⟩ := List.cons.inj same
      exact absurd (List.append_cancel_left written) (by decide)

theorem unbroken_of_reading {text : List Char} (escaped : Escaped text)
    (plain : ∀ compound ∈ run, isFrame compound = false)
    (written : renderRun (run ++ [frame]) = text ++ " > iframe".toList)
    (reading : ofSelector (text ++ probe) = run ++ [frame, last]) : Unbroken text := by
  induction run generalizing text with
  | nil =>
      rcases uncut_or_cut EndsAt {} [] text with uncut | ⟨before, c, after, rfl, uncut, free, isSign, shown⟩
      · exact unbroken_of_uncut escaped uncut plain written reading
      · rw [List.append_assoc, List.cons_append, ofSelector_sign ⟨uncut, shown⟩ free isSign] at reading
        obtain ⟨rfl, -⟩ := List.cons.inj reading
        have lengths := congrArg List.length written
        simp [renderRun] at lengths
  | cons first others ih =>
      rcases uncut_or_cut EndsAt {} [] text with uncut | ⟨before, c, after, rfl, uncut, free, isSign, shown⟩
      · exact unbroken_of_uncut escaped uncut plain written reading
      · have solid : Solid before := ⟨uncut, shown⟩
        rw [List.append_assoc, List.cons_append, ofSelector_sign solid free isSign] at reading
        obtain ⟨rfl, behind⟩ := List.cons.inj reading
        obtain ⟨bare, later⟩ := List.forall_mem_cons.mp plain
        rw [List.cons_append, renderRun_cons _ (by simp), List.append_assoc, List.append_assoc,
          List.append_cancel_left_eq] at written
        -- what is written between two compounds starts with a space
        obtain rfl : ' ' = c := by
          obtain ⟨more, blank⟩ := exists_renderCombinator (some (combine c (after ++ probe)).1)
          rw [blank] at written
          exact (List.cons.inj written).1
        have some_text : after ≠ [] := by
          rintro rfl
          have whole : ofSelector (combine ' ' ([] ++ probe)).2 =
              [] ++ [⟨"iframe".toList, some '>'⟩, ⟨['p'], none⟩] := by decide
          obtain ⟨rfl, same⟩ := List.append_inj' (whole.symm.trans behind) rfl
          obtain ⟨rfl, -⟩ := List.cons.inj same
          have torn : renderCombinator (some '>') ++ "iframe".toList = [' '] ++ " > iframe".toList := written
          exact absurd torn (by decide)
        rw [escaped.combine some_text] at written behind
        have inner := ih (escaped.behind (by decide)) later (List.cons.inj written).2 behind
        exact .cons escaped solid (solid.unbroken escaped.front free bare) inner

end Probed

end RemoteDom.Selector.Compound
