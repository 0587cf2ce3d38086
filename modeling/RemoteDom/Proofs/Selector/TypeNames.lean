import RemoteDom.Proofs.Selector.Fronts
import RemoteDom.Proofs.Selector.Segments
import RemoteDom.Selector.Identifier

/-! The type selectors that are taken for frames. A compound reaches a frame if it starts with the letters of its name
and goes on with anything but a letter, a digit or a hyphen. An identifier of CSS may go on with more than these, so
that some longer names are taken for that of a frame. -/

namespace RemoteDom

namespace Text

def isNameChar (c : Char) : Bool := c.isAlphanum || c == '-'

private theorem isNameChar_of_isAlpha {c : Char} (letter : c.isAlpha = true) : isNameChar c = true := by
  simp [isNameChar, Char.isAlphanum, letter]

private theorem toNat_of_isNameChar {c : Char} (name : isNameChar c = true) : 45 ≤ c.toNat ∧ c.toNat ≤ 122 := by
  unfold isNameChar Char.isAlphanum Char.isAlpha Char.isUpper Char.isLower Char.isDigit at name
  simp only [Bool.or_eq_true, Bool.and_eq_true, decide_eq_true_eq, beq_iff_eq, ge_iff_le,
    UInt32.le_iff_toNat_le] at name
  change _ ≤ c.val.toNat ∧ c.val.toNat ≤ _
  rcases name with ((upper | lower) | digit) | rfl
  · exact ⟨(by decide : 45 ≤ 65).trans upper.1, upper.2.trans (by decide)⟩
  · exact ⟨(by decide : 45 ≤ 97).trans lower.1, lower.2⟩
  · exact ⟨(by decide : 45 ≤ 48).trans digit.1, digit.2.trans (by decide)⟩
  · decide

private theorem not_blank_of_isNameChar {c : Char} (name : isNameChar c = true) : isBlank c = false := by
  have within := toNat_of_isNameChar name
  simp only [isBlank, Bool.or_eq_false_iff, Bool.and_eq_false_iff, decide_eq_false_iff_not]
  omega

private theorem takeWhile_trimEnd (text : List Char) :
    (trimEnd text).takeWhile isNameChar = text.takeWhile isNameChar := by
  induction text with
  | nil => rfl
  | cons c rest ih =>
      cases name : isNameChar c with
      | true =>
          have visible := not_blank_of_isNameChar name
          rw [List.takeWhile_cons_of_pos name, ← ih, trimEnd]
          cases kept : trimEnd rest <;> simp [visible, name]
      | false =>
          rw [List.takeWhile_cons_of_neg (by simp [name]), trimEnd]
          cases kept : trimEnd rest with
          | nil => cases isBlank c <;> simp [name]
          | cons d more => simp [name]

private theorem takeWhile_append_of_stop {c : Char} (stop : isNameChar c = false) (text rest : List Char) :
    (text ++ c :: rest).takeWhile isNameChar = text.takeWhile isNameChar := by
  induction text with
  | nil => exact List.takeWhile_cons_of_neg (by simp [stop])
  | cons d text ih => rw [List.cons_append, List.takeWhile_cons, List.takeWhile_cons, ih]

end Text

namespace Selector.Compound

def IsFrameName (name : List Char) : Prop := Text.equalsIgnoringCase name ['i', 'f', 'r', 'a', 'm', 'e'] = true

instance (name : List Char) : Decidable (IsFrameName name) := inferInstanceAs (Decidable (_ = true))

theorem IsFrameName.letters {name : List Char} (frame : IsFrameName name) : ∀ c ∈ name, c.isAlpha = true := by
  intro c member
  have same : name.map Char.toLower = ['i', 'f', 'r', 'a', 'm', 'e'] := by
    simpa [IsFrameName, Text.equalsIgnoringCase] using frame
  have lower : c.toLower ∈ ['i', 'f', 'r', 'a', 'm', 'e'] := same ▸ List.mem_map_of_mem member
  have all : ['i', 'f', 'r', 'a', 'm', 'e'].all Char.isAlpha = true := by decide
  by_cases upper : c.isUpper = true
  · unfold Char.isAlpha
    exact (Bool.or_eq_true _ _).mpr (.inl upper)
  · have unchanged : c.toLower = c := by
      unfold Char.isUpper at upper
      unfold Char.toLower
      exact dif_neg fun both => upper (decide_eq_true both)
    rw [← unchanged]
    exact List.all_eq_true.mp all c.toLower lower

theorem IsFrameName.ne_nil {name : List Char} (frame : IsFrameName name) : name ≠ [] := by
  rintro rfl
  exact absurd frame (by decide)

private theorem typeName_eq (text : List Char) :
    typeName text = if text.head?.any Char.isAlpha then text.takeWhile Text.isNameChar else [] := by
  cases text with
  | nil => rfl
  | cons c rest => rfl

private theorem isFrame_iff_takeWhile (compound : Compound) :
    isFrame compound = true ↔ IsFrameName ((Text.trimStart compound.text).takeWhile Text.isNameChar) := by
  have taken := Text.takeWhile_trimEnd (Text.trimStart compound.text)
  rw [isFrame, typeName_eq, ← taken, ← Text.trim]
  split
  next => exact Iff.rfl
  next other =>
    refine iff_of_false (by decide) fun frame => other ?_
    cases text : Text.trim compound.text with
    | nil => exact absurd (by simp [text]) frame.ne_nil
    | cons c rest =>
        have first : Text.isNameChar c = true := by
          by_contra stop
          exact frame.ne_nil (by rw [text, List.takeWhile_cons_of_neg stop])
        exact frame.letters c (by simp [text, first])

/-- A compound reaches a frame if, behind any blanks, it starts with the name of a frame and goes on with anything but a
letter, a digit or a hyphen. -/
private theorem isFrame_iff {compound : Compound} :
    isFrame compound = true ↔ ∃ before name after, compound.text = before ++ name ++ after ∧
      (∀ c ∈ before, Text.isBlank c = true) ∧ IsFrameName name ∧ ∀ c ∈ after.head?, Text.isNameChar c = false := by
  rw [isFrame_iff_takeWhile]
  constructor
  · intro frame
    refine ⟨compound.text.takeWhile Text.isBlank, _, (Text.trimStart compound.text).dropWhile Text.isNameChar, ?_,
      fun c member => List.mem_takeWhile_imp member, frame, fun c first => ?_⟩
    · rw [List.append_assoc, List.takeWhile_append_dropWhile, Text.trimStart, List.takeWhile_append_dropWhile]
    · have stop := List.head?_dropWhile_not Text.isNameChar (Text.trimStart compound.text)
      rw [Option.mem_def.mp first] at stop
      exact stop
  · rintro ⟨before, name, after, parts, blank, frame, stop⟩
    have names : ∀ c ∈ name, Text.isNameChar c = true := fun c member =>
      Text.isNameChar_of_isAlpha (frame.letters c member)
    obtain ⟨first, rest, cons⟩ := List.exists_cons_of_ne_nil frame.ne_nil
    have visible : Text.isBlank first = false :=
      Text.not_blank_of_isNameChar (names first (cons ▸ List.mem_cons_self))
    have start : Text.trimStart compound.text = name ++ after := by
      rw [parts, List.append_assoc, Text.trimStart, List.dropWhile_append_of_pos blank, cons, List.cons_append,
        List.dropWhile_cons_of_neg (by simp [visible])]
    have ends : after.takeWhile Text.isNameChar = [] := by
      cases after with
      | nil => rfl
      | cons c more => exact List.takeWhile_cons_of_neg (by simp [stop c rfl])
    rw [start, List.takeWhile_append_of_pos names, ends, List.append_nil]
    exact frame

theorem isFrame_append {c : Char} (visible : Text.isBlank c = false) (stop : Text.isNameChar c = false)
    {left text : List Char} (same : Text.trimStart left = Text.trimStart text) (rest : List Char)
    (sign : Option Char) : isFrame ⟨left ++ c :: rest, sign⟩ = isFrame ⟨text, none⟩ := by
  rw [Bool.eq_iff_iff, isFrame_iff_takeWhile, isFrame_iff_takeWhile, Text.trimStart_append visible, same,
    Text.takeWhile_append_of_stop stop]

theorem isFrame_append_of_visible {text : List Char} (visible : isBlankText text = false) {c : Char}
    (stop : Text.isNameChar c = false) (rest : List Char) (sign : Option Char) :
    isFrame ⟨text ++ c :: rest, sign⟩ = isFrame ⟨text, none⟩ := by
  have start : Text.trimStart (text ++ c :: rest) = Text.trimStart text ++ c :: rest := by
    have kept : (text.dropWhile Text.isBlank).isEmpty = false := by
      rw [← Bool.not_eq_true, isBlankText_iff] at visible
      simpa using visible
    rw [Text.trimStart, List.dropWhile_append, kept]
    rfl
  rw [Bool.eq_iff_iff, isFrame_iff_takeWhile, isFrame_iff_takeWhile, start, Text.takeWhile_append_of_stop stop]

/-- A compound by itself: all that is opened in it is closed again, and no combinator stands outside. -/
structure Lone (text : List Char) : Prop where
  closed : (Nesting.feedAll {} text).outside = true
  single : Uncut (fun _ c => isCombinator c = true) {} [] text

theorem Lone.uncut {text : List Char} (lone : Lone text) : Uncut EndsAt {} [] text :=
  lone.single.reread fun _ _ ends => ends.1

/-- In front of another compound, a compound by itself is searched for a frame exactly if it reaches one. -/
private theorem crossesFrames_iff_isFrame {text : List Char} (lone : Lone text) :
    (Locator.css (String.ofList (text ++ [' ', '#', 'x']))).crossesFrames = true ↔ isFrame ⟨text, none⟩ = true := by
  have entered : (Locator.css (String.ofList (text ++ [' ', '#', 'x']))).crossesFrames = true ↔
      ∃ compound ∈ (ofSelector (text ++ [' ', '#', 'x'])).dropLast, isFrame compound = true := by
    simp [Locator.crossesFrames, Locator.length_segments, Locator.framesEntered, Locator.css, List.countP_pos_iff]
  rw [entered]
  cases blank : isBlankText text with
  | false =>
      have shown : isBlankText (text.reverse ++ []).reverse = false := by simpa using blank
      have other : ofSelector ['#', 'x'] = [⟨['#', 'x'], none⟩] := by decide
      have reading : ofSelector (text ++ [' ', '#', 'x']) = [⟨text, some ' '⟩, ⟨['#', 'x'], none⟩] := by
        rw [ofSelector, gather_append lone.uncut, gather_sign lone.closed (by decide) shown]
        simp [combine, isCombinator, other]
      have same : isFrame ⟨text, some ' '⟩ = isFrame ⟨text, none⟩ := rfl
      rw [reading]
      simpa using same
  | true =>
      -- blanks in front of a compound belong to it
      have uncut : Uncut EndsAt {} [] (text ++ [' ', '#', 'x']) := by
        have early : isBlankText (text.reverse ++ []).reverse = true := by simpa using blank
        refine uncut_append.mpr ⟨lone.uncut, fun cut => ?_, fun cut => ?_, fun cut => ?_, trivial⟩
        · exact Bool.noConfusion (early.symm.trans cut.2.2)
        · exact absurd cut.2.1 (by decide)
        · exact absurd cut.2.1 (by decide)
      have none : (ofSelector (text ++ [' ', '#', 'x'])).dropLast = [] := by
        rw [← List.length_eq_zero_iff, List.length_dropLast, Nat.sub_eq_zero_of_le (length_ofSelector_le uncut)]
      rw [none]
      refine iff_of_false (by simp) fun frame => ?_
      obtain ⟨before, name, after, parts, -, frame, -⟩ := isFrame_iff.mp frame
      obtain ⟨first, rest, cons⟩ := List.exists_cons_of_ne_nil frame.ne_nil
      have white := isBlankText_iff.mp blank first (by rw [show text = _ from parts, cons]; simp)
      have letter := Text.isNameChar_of_isAlpha (frame.letters first (cons ▸ List.mem_cons_self))
      exact Bool.noConfusion (white.symm.trans (Text.not_blank_of_isNameChar letter))

/-- The identifier that a text starts with, as CSS reads it: letters, digits, hyphens, underscores, characters beyond
ASCII and escapes. -/
def typeSelector : List Char → List Char
  | '\\' :: c :: rest => '\\' :: c :: typeSelector rest
  | c :: rest => if Identifier.isPlain c then c :: typeSelector rest else []
  | [] => []

private theorem exists_typeSelector (text : List Char) :
    ∃ after, text = typeSelector text ++ after ∧ ∀ c ∈ after.head?, Identifier.isPlain c = false := by
  induction text using typeSelector.induct with
  | case1 c rest ih =>
      obtain ⟨after, parts, stop⟩ := ih
      exact ⟨after, by rw [typeSelector, List.cons_append, List.cons_append, ← parts], stop⟩
  | case2 c rest bare plain ih =>
      obtain ⟨after, parts, stop⟩ := ih
      refine ⟨after, ?_, stop⟩
      rw [typeSelector, if_pos plain, List.cons_append, ← parts]
      exact bare
  | case3 c rest bare stop =>
      refine ⟨c :: rest, ?_, by simpa using stop⟩
      rw [typeSelector, if_neg stop]
      · rfl
      · exact bare
  | case4 => exact ⟨[], rfl, by simp⟩

private theorem typeSelector_append {name after : List Char} (plain : ∀ c ∈ name, Identifier.isPlain c = true)
    (stop : ∀ c ∈ after.head?, Identifier.isPlain c = false ∧ c ≠ '\\') : typeSelector (name ++ after) = name := by
  have plainly {c : Char} (bare : c ≠ '\\') (rest : List Char) :
      typeSelector (c :: rest) = if Identifier.isPlain c then c :: typeSelector rest else [] := by
    rw [typeSelector]
    exact fun _ _ same => absurd same bare
  induction name with
  | nil =>
      cases after with
      | nil => rfl
      | cons c rest =>
          obtain ⟨ends, bare⟩ := stop c rfl
          simp [plainly bare, ends]
  | cons c rest ih =>
      have first := plain c List.mem_cons_self
      have bare : c ≠ '\\' := by
        rintro rfl
        exact absurd first (by decide)
      rw [List.cons_append, plainly bare, if_pos first, ih fun d member => plain d (List.mem_cons_of_mem c member)]

/-- Taken for a frame although the text does not start with a type selector of that name: blanks stand before the name,
or the identifier goes on with an underscore, an escape or a character beyond ASCII. -/
def Lookalike (text : List Char) : Prop :=
  ∃ before name after, text = before ++ name ++ after ∧ (∀ c ∈ before, Text.isBlank c = true) ∧ IsFrameName name ∧
    (∀ c ∈ after.head?, Text.isNameChar c = false) ∧
    (before ≠ [] ∨ ∃ c ∈ after.head?, c = '_' ∨ c = '\\' ∨ 128 ≤ c.toNat)

private theorem isFrame_iff_typeSelector (text : List Char) :
    isFrame ⟨text, none⟩ = true ↔ IsFrameName (typeSelector text) ∨ Lookalike text := by
  rw [isFrame_iff]
  constructor
  · rintro ⟨before, name, after, parts, blank, frame, stop⟩
    by_cases other : before ≠ [] ∨ ∃ c ∈ after.head?, c = '_' ∨ c = '\\' ∨ 128 ≤ c.toNat
    · exact .inr ⟨before, name, after, parts, blank, frame, stop, other⟩
    · simp only [not_or, not_exists, not_and, not_not] at other
      have same : typeSelector text = name := by
        rw [show text = _ from parts, other.1, List.nil_append]
        refine typeSelector_append (fun c member => ?_) fun c first => ?_
        · simp [Identifier.isPlain, Char.isAlphanum, frame.letters c member]
        · have ends := stop c first
          have further := other.2 c first
          simp only [Text.isNameChar, Bool.or_eq_false_iff] at ends
          exact ⟨by simp [Identifier.isPlain, ends, further], further.2.1⟩
      exact .inl (same ▸ frame)
  · rintro (frame | ⟨before, name, after, parts, blank, frame, stop, -⟩)
    · obtain ⟨after, parts, stop⟩ := exists_typeSelector text
      refine ⟨[], typeSelector text, after, parts, by simp, frame, fun c first => ?_⟩
      have ends := stop c first
      simp only [Identifier.isPlain, Bool.or_eq_false_iff] at ends
      simp [Text.isNameChar, ends]
    · exact ⟨before, name, after, parts, blank, frame, stop⟩

end Selector.Compound

open Selector Selector.Compound

/-- A compound by itself is searched for a frame in front of another exactly if its type selector is the name of a
frame, in any case, or looks like it. -/
theorem Locator.crossesFrames_iff_typeSelector {text : List Char} (lone : Lone text) :
    (Locator.css (String.ofList (text ++ [' ', '#', 'x']))).crossesFrames = true ↔
      IsFrameName (typeSelector text) ∨ Lookalike text :=
  (crossesFrames_iff_isFrame lone).trans (isFrame_iff_typeSelector text)

/-- A frame whose attributes hold quoted combinators. -/
theorem Locator.crossesFrames_iff_typeSelector_attribute :
    Lone "IFRAME[src*='a > b']".toList ∧ IsFrameName (typeSelector "IFRAME[src*='a > b']".toList) ∧
      (Locator.css (String.ofList ("IFRAME[src*='a > b']".toList ++ [' ', '#', 'x']))).crossesFrames = true :=
  have lone : Lone "IFRAME[src*='a > b']".toList := ⟨by decide, by decide⟩
  have frame : IsFrameName (typeSelector "IFRAME[src*='a > b']".toList) := by decide
  ⟨lone, frame, (crossesFrames_iff_typeSelector lone).mpr (.inl frame)⟩

/-- A longer name is taken for that of a frame. -/
theorem Locator.crossesFrames_longer_name :
    Lone "iframe_x".toList ∧ typeSelector "iframe_x".toList = "iframe_x".toList ∧ ¬IsFrameName "iframe_x".toList ∧
      (Locator.css "iframe_x #x").crossesFrames = true :=
  ⟨⟨by decide, by decide⟩, by decide, by decide, by decide⟩

end RemoteDom
