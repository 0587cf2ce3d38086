import Mathlib.Data.List.DropRight
import RemoteDom.Proofs.Selector.CompoundText
import RemoteDom.Proofs.Selector.PathText

/-! Reading the front of a text before anything is known of the rest. What a scan has found when it comes to the end of
the front does not depend on what is behind, unless a sign there is one with a sign in front of it. -/

namespace RemoteDom

namespace Text

theorem trimStart_append {c : Char} (visible : isBlank c = false) (text rest : List Char) :
    trimStart (text ++ c :: rest) = trimStart text ++ c :: rest := by
  induction text with
  | nil => exact trimStart_of_not_blank c rest visible
  | cons d text ih =>
      cases blank : isBlank d with
      | true => simpa [trimStart, blank] using ih
      | false =>
          rw [List.cons_append, trimStart_of_not_blank _ _ blank, trimStart_of_not_blank _ _ blank, List.cons_append]

private theorem trimEnd_cons_of_not_blank {c : Char} (visible : isBlank c = false) (rest : List Char) :
    trimEnd (c :: rest) = c :: trimEnd rest := by
  rw [trimEnd]
  split
  next nothing => simp [visible, nothing]
  next => rfl

theorem trimEnd_append {c : Char} (visible : isBlank c = false) (text rest : List Char) :
    trimEnd (text ++ c :: rest) = text ++ c :: trimEnd rest := by
  induction text with
  | nil => exact trimEnd_cons_of_not_blank visible rest
  | cons d text ih =>
      rw [List.cons_append, trimEnd, ih]
      cases text <;> rfl

structure Firm (text : List Char) : Prop where
  starts : ∃ c more, text = c :: more ∧ isBlank c = false
  ends : ∃ more c, text = more ++ [c] ∧ isBlank c = false

private theorem Firm.trim_around {core : List Char} (firm : Firm core) (before after : List Char) :
    trim (before ++ (core ++ after)) = trimStart before ++ (core ++ trimEnd after) := by
  obtain ⟨c, more, start, visible⟩ := firm.starts
  obtain ⟨middle, d, ending, shown⟩ := firm.ends
  have front : trimStart (before ++ (core ++ after)) = trimStart before ++ (core ++ after) := by
    rw [start, List.cons_append, trimStart_append visible]
  rw [trim, front, ending, List.append_assoc, List.append_assoc, List.singleton_append, List.singleton_append,
    ← List.append_assoc, trimEnd_append shown, List.append_assoc]

end Text

namespace Selector

namespace Path

private theorem slashes_front {text rest : List Char} (apart : text ≠ [] ∨ ∀ more, rest ≠ '/' :: more) :
    slashes (text ++ rest) = ((slashes text).1, (slashes text).2 ++ rest) := by
  cases text with
  | nil =>
      have visible := apart.resolve_left (by simp)
      simp [slashes]
  | cons c text =>
      by_cases second : c = '/'
      · subst second
        rfl
      · simp [slashes, second]

private theorem feedAll_slashes (text : List Char) : Nesting.feedAll {} (slashes text).2 = Nesting.feedAll {} text := by
  unfold slashes
  split
  · rw [Nesting.feedAll_cons, feed_slash]
  · rfl

/-- Of the next step nothing is read yet. -/
def Fresh (front : List Char) : Prop :=
  front = [] ∨ ∃ path, front = path ++ ['/'] ∧ (Nesting.feedAll {} path).outside = true

theorem Fresh.of_append {before text : List Char} (fresh : Fresh (before ++ text))
    (closed : Nesting.feedAll {} before = {}) : Fresh text := by
  rcases List.eq_nil_or_concat text with rfl | ⟨path, c, rfl⟩
  · exact .inl rfl
  rcases fresh with nothing | ⟨whole, parts, outside⟩
  · simp at nothing
  · rw [List.concat_eq_append, ← List.append_assoc] at parts
    obtain ⟨rfl, same⟩ := List.append_inj' parts rfl
    rw [Nesting.feedAll_append, closed] at outside
    exact .inr ⟨path, by simpa using same, outside⟩

private theorem Fresh.behind_slash {before after : List Char} (fresh : Fresh (before ++ '/' :: after))
    (closed : (Nesting.feedAll {} before).outside = true) : Fresh (slashes after).2 := by
  have slash : Nesting.feedAll {} (before ++ ['/']) = {} := by
    rw [Nesting.feedAll_append, Nesting.eq_of_outside closed]
    exact feed_slash
  have tail : Fresh after := Fresh.of_append (by simpa using fresh) slash
  unfold slashes
  split
  next more =>
      have second : Fresh (['/'] ++ more) := tail
      exact second.of_append feed_slash
  next => exact tail

/-- What is read of a front does not depend on what is behind it, if that starts with no slash. -/
private theorem exists_stepsFrom_front (front separator : List Char) :
    ∃ earlier between read, (Fresh front → read = []) ∧ ∀ c rest, c ≠ '/' →
      stepsFrom {} separator [] (front ++ c :: rest) =
        earlier ++ stepsFrom (Nesting.feedAll {} front) between read (c :: rest) := by
  rcases uncut_or_cut EndsAt {} [] front with uncut | ⟨before, c, after, parts, uncut, free, rfl⟩
  · refine ⟨[], separator, front.reverse, fun fresh => ?_, fun c rest _ => ?_⟩
    · rcases fresh with rfl | ⟨path, rfl, outside⟩
      · rfl
      · exact absurd ⟨outside, rfl⟩ (uncut_append.mp uncut).2.1
    · rw [stepsFrom_append uncut, List.append_nil]
      rfl
  · have shorter := length_slashes after
    have remainder : Nesting.feedAll {} (slashes after).2 = Nesting.feedAll {} front := by
      rw [feedAll_slashes, parts, Nesting.feedAll_append, Nesting.eq_of_outside free, Nesting.feedAll_cons, feed_slash]
    obtain ⟨inner, between, read, fresh, reading⟩ := exists_stepsFrom_front (slashes after).2 (slashes after).1
    refine ⟨finish separator before.reverse ++ inner, between, read, fun start => ?_, fun c rest visible => ?_⟩
    · exact fresh ((parts ▸ start).behind_slash free)
    · have apart : slashes (after ++ c :: rest) = ((slashes after).1, (slashes after).2 ++ c :: rest) :=
        slashes_front (.inr fun more same => visible (List.cons.inj same).1)
      rw [parts, List.append_assoc, List.cons_append, stepsFrom_append uncut, stepsFrom_slash free, apart,
        reading c rest visible, remainder, parts, List.append_nil, List.append_assoc]
termination_by front.length
decreasing_by
  rw [parts, List.length_append, List.length_cons]
  omega

private theorem leadingSeparator_front {c : Char} (visible : c ≠ '/') (dotless : c ≠ '.') (front rest : List Char) :
    leadingSeparator (front ++ c :: rest) = leadingSeparator front := by
  have apart (text : List Char) : slashes (text ++ c :: rest) = ((slashes text).1, (slashes text).2 ++ c :: rest) :=
    slashes_front (.inr fun more same => visible (List.cons.inj same).1)
  match front with
  | [] => exact leadingSeparator_of_ne visible fun dot => absurd dot dotless
  | d :: text =>
      by_cases slash : d = '/'
      · subst slash
        rw [List.cons_append, leadingSeparator_slash, leadingSeparator_slash, apart]
      by_cases dotted : d = '.' ∧ ∃ more, text = '/' :: more
      · obtain ⟨rfl, more, rfl⟩ := dotted
        rw [List.cons_append, List.cons_append, leadingSeparator_dot, leadingSeparator_dot, apart]
      · rw [List.cons_append, leadingSeparator_of_ne slash fun dot more same => dotted ⟨dot, more, same⟩]
        refine leadingSeparator_of_ne slash fun dot more same => dotted ⟨dot, ?_⟩
        cases text with
        | nil => exact absurd (List.cons.inj same).1 visible
        | cons e text => exact ⟨text, by rw [(List.cons.inj same).1]⟩

private theorem exists_leadingSeparator_append (text : List Char) :
    ∃ rest, text = leadingSeparator text ++ rest ∧ Nesting.feedAll {} (leadingSeparator text) = {} := by
  unfold leadingSeparator
  split <;> exact ⟨_, rfl, rfl⟩

theorem exists_steps_front (front : List Char) :
    ∃ earlier between read, (Fresh front → read = []) ∧ ∀ c rest, c ≠ '/' → c ≠ '.' →
      steps (front ++ c :: rest) = earlier ++ stepsFrom (Nesting.feedAll {} front) between read (c :: rest) := by
  obtain ⟨text, parts, closed⟩ := exists_leadingSeparator_append front
  obtain ⟨earlier, between, read, fresh, reading⟩ := exists_stepsFrom_front text (leadingSeparator front)
  have nesting : Nesting.feedAll {} text = Nesting.feedAll {} front := by
    rw [congrArg (Nesting.feedAll {}) parts, Nesting.feedAll_append, closed]
  refine ⟨earlier, between, read, fun start => fresh ((parts ▸ start).of_append closed), ?_⟩
  intro c rest visible dotless
  have whole : front ++ c :: rest = leadingSeparator front ++ (text ++ c :: rest) :=
    (congrArg (· ++ c :: rest) parts).trans (List.append_assoc _ _ _)
  have behind : (front ++ c :: rest).drop (leadingSeparator front).length = text ++ c :: rest :=
    (congrArg (List.drop _) whole).trans List.drop_left
  rw [steps, leadingSeparator_front visible dotless, behind, reading c rest visible, nesting]

end Path

namespace Compound

private theorem combine_append_of_rest {sign : Char} {text : List Char} (some_rest : (combine sign text).2 ≠ [])
    (rest : List Char) : combine sign (text ++ rest) = ((combine sign text).1, (combine sign text).2 ++ rest) := by
  induction text generalizing sign with
  | nil => simp [combine] at some_rest
  | cons c text ih =>
      simp only [List.cons_append, combine] at some_rest ⊢
      split at some_rest
      next blank => simpa [blank] using ih some_rest
      next visible =>
        split at some_rest
        next second => simpa [visible, second] using ih some_rest
        next single => simp [visible, single]

private theorem combine_append_of_nil {sign : Char} {text : List Char} (nothing : (combine sign text).2 = [])
    (rest : List Char) : combine sign (text ++ rest) = combine (combine sign text).1 rest := by
  induction text generalizing sign with
  | nil => rfl
  | cons c text ih =>
      simp only [List.cons_append, combine] at nothing ⊢
      split at nothing
      next blank => simpa [blank] using ih nothing
      next visible =>
        split at nothing
        next second => simpa [visible, second] using ih nothing
        next => simp at nothing

private theorem feedAll_combine (sign : Char) (text : List Char) :
    Nesting.feedAll {} (combine sign text).2 = Nesting.feedAll {} text := by
  induction text generalizing sign with
  | nil => rfl
  | cons c text ih =>
      simp only [combine]
      split
      next blank => rw [ih, Nesting.feedAll_cons, feed_of_isCombinator (by simp [blank, isCombinator])]
      next =>
        split
        next second => rw [ih, Nesting.feedAll_cons, feed_of_isCombinator second.2]
        next => rfl

/-- The front of a selector ends within a compound, of which some text was read. -/
def EndsWithin (front : List Char) (compounds : List Compound) (read : List Char) : Prop :=
  ∀ rest, ofSelector (front ++ rest) = compounds ++ gather (Nesting.feedAll {} front) read rest

/-- The front of a selector ends within the combinator behind a compound. -/
structure EndsBehind (front : List Char) (compounds : List Compound) (text : List Char) (sign : Char) : Prop where
  solid : Solid text
  free : (Nesting.feedAll {} text).outside = true
  signed : ∃ before after, front = before ++ sign :: spaces after
  reading : ∀ rest, ofSelector (front ++ rest) =
    compounds ++ ⟨text, some (combine sign rest).1⟩ :: ofSelector (combine sign rest).2

theorem exists_front (front : List Char) :
    (∃ compounds read, EndsWithin front compounds read) ∨
      ∃ compounds text sign, EndsBehind front compounds text sign := by
  rcases uncut_or_cut EndsAt {} [] front with uncut | ⟨before, c, after, parts, uncut, free, isSign, visible⟩
  · refine .inl ⟨[], front.reverse, fun rest => ?_⟩
    rw [ofSelector, gather_append uncut, List.append_nil]
    rfl
  · have solid : Solid before := ⟨uncut, visible⟩
    have cut (rest : List Char) : ofSelector (front ++ rest) =
        ⟨before, some (combine c (after ++ rest)).1⟩ :: ofSelector (combine c (after ++ rest)).2 := by
      rw [parts, List.append_assoc, List.cons_append, ofSelector_sign solid free isSign]
    obtain ⟨early, late, combined⟩ := exists_combine c after
    by_cases nothing : (combine c after).2 = []
    · refine .inr ⟨[], before, (combine c after).1, solid, free, ⟨before ++ spaces early, late, ?_⟩, fun rest => ?_⟩
      · rw [parts, combined, nothing]
        simp
      · rw [cut, combine_append_of_nil nothing]
        rfl
    · -- behind a combinator the scan goes on as if it had just begun
      have shorter := length_combine c after
      have remainder : Nesting.feedAll {} (combine c after).2 = Nesting.feedAll {} front := by
        rw [feedAll_combine, parts, Nesting.feedAll_append, Nesting.eq_of_outside free, Nesting.feedAll_cons,
          feed_of_isCombinator isSign]
      have whole (rest : List Char) : ofSelector (front ++ rest) =
          ⟨before, some (combine c after).1⟩ :: ofSelector ((combine c after).2 ++ rest) := by
        rw [cut, combine_append_of_rest nothing]
      rcases exists_front (combine c after).2 with ⟨compounds, read, within⟩ | ⟨compounds, text, sign, ends⟩
      · refine .inl ⟨⟨before, some (combine c after).1⟩ :: compounds, read, fun rest => ?_⟩
        rw [whole, within, remainder]
        rfl
      · obtain ⟨first, count, tail⟩ := ends.signed
        refine .inr ⟨⟨before, some (combine c after).1⟩ :: compounds, text, sign, ends.solid, ends.free,
          ⟨before ++ spaces early ++ (combine c after).1 :: spaces late ++ first, count, ?_⟩, fun rest => ?_⟩
        · rw [parts, combined, congrArg (spaces early ++ (combine c after).1 :: spaces late ++ ·) tail]
          simp
        · rw [whole, ends.reading]
          rfl
termination_by front.length
decreasing_by
  rw [parts, List.length_append, List.length_cons]
  omega

/-- What is read of a front in which all that is opened is closed again does not depend on what is behind it, if that
starts with no combinator. -/
theorem exists_ofSelector_front {front : List Char} (closed : (Nesting.feedAll {} front).outside = true) :
    ∃ compounds read, ∀ c rest, isCombinator c = false →
      ofSelector (front ++ c :: rest) = compounds ++ gather {} read (c :: rest) := by
  rcases exists_front front with ⟨compounds, read, within⟩ | ⟨compounds, text, sign, ends⟩
  · exact ⟨compounds, read, fun c rest _ => by rw [within, Nesting.eq_of_outside closed]⟩
  · refine ⟨compounds ++ [⟨text, some sign⟩], [], fun c rest plain => ?_⟩
    have visible : c ≠ ' ' := by
      rintro rfl
      exact absurd plain (by decide)
    rw [ends.reading, combine_of_visible rest visible (.inr plain), List.append_assoc]
    rfl

/-- What is read behind a firm text does not depend on that text, nor on what is before it but for blanks. -/
theorem exists_gather_behind (rest : List Char) :
    ∃ right sign behind, ∀ read, ∃ left, Text.trimStart left = Text.trimStart read.reverse ∧ ∀ core, Text.Firm core →
      gather {} (core.reverse ++ read) rest = ⟨left ++ core ++ right, sign⟩ :: behind := by
  have shown {core : List Char} (firm : Text.Firm core) (read more : List Char) :
      isBlankText ((core.reverse ++ read).reverse ++ more) = false := by
    obtain ⟨c, others, rfl, visible⟩ := firm.starts
    rw [← Bool.not_eq_true, isBlankText_iff]
    exact fun blank => Bool.noConfusion (visible.symm.trans (blank c (by simp)))
  have again (core : List Char) {text : List Char} (uncut : Uncut EndsAt {} ['x'] text) (read : List Char) :
      Uncut EndsAt {} (core.reverse ++ read) text := by
    refine uncut.reread fun more c ends => ⟨ends.1, ?_⟩
    rw [← Bool.not_eq_true, isBlankText_iff]
    exact fun blank => absurd (blank 'x' (by simp)) (by decide)
  rcases uncut_or_cut EndsAt {} ['x'] rest with uncut | ⟨before, c, after, parts, uncut, free, isSign, -⟩
  · refine ⟨Text.trimEnd rest, none, [], fun read => ⟨Text.trimStart read.reverse, ?_, fun core firm => ?_⟩⟩
    · exact List.dropWhile_idempotent Text.isBlank read.reverse
    · have reading := gather_append (again core uncut read) []
      have kept : (Text.trim ((core.reverse ++ read).reverse ++ rest)).isEmpty = false := shown firm read rest
      have trimmed : Text.trim ((core.reverse ++ read).reverse ++ rest) =
          Text.trimStart read.reverse ++ core ++ Text.trimEnd rest := by
        rw [List.reverse_append, List.reverse_reverse, List.append_assoc, firm.trim_around, List.append_assoc]
      rw [List.append_nil] at reading
      rw [reading, gather, List.reverse_append, List.reverse_reverse, kept, trimmed]
      rfl
  · refine ⟨before, some (combine c after).1, ofSelector (combine c after).2,
      fun read => ⟨read.reverse, rfl, fun core firm => ?_⟩⟩
    have visible : isBlankText (before.reverse ++ (core.reverse ++ read)).reverse = false := by
      simpa using shown firm read before
    rw [parts, gather_append (again core uncut read), gather_sign free isSign visible]
    simp

end Compound

end Selector

end RemoteDom
