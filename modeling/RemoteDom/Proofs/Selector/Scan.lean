import RemoteDom.Selector.Nesting
import RemoteDom.Text.Blank
import Mathlib.Data.List.TakeWhile

/-! Scanning a text while its nesting is followed. A text is uncut if a scan passes through it without
meeting a place where it would be divided; what such a place looks like is left to each dialect. -/

namespace RemoteDom.Text

theorem trimEnd_eq_nil_iff {text : List Char} :
    trimEnd text = [] ↔ ∀ c ∈ text, isBlank c = true := by
  induction text with
  | nil => simp [trimEnd]
  | cons c rest ih =>
      simp only [trimEnd, List.mem_cons, forall_eq_or_imp]
      cases kept : trimEnd rest with
      | nil =>
          have blank := ih.mp kept
          by_cases white : isBlank c = true
          · simpa [white] using blank
          · simp [white]
      | cons d more =>
          have visible : ¬ ∀ d ∈ rest, isBlank d = true := fun blank => by simp [ih.mpr blank] at kept
          simp [visible]

theorem trim_eq_nil_iff {text : List Char} : trim text = [] ↔ ∀ c ∈ text, isBlank c = true := by
  rw [trim, trimEnd_eq_nil_iff, trimStart]
  constructor
  · intro rest
    cases kept : text.dropWhile isBlank with
    | nil => exact List.dropWhile_eq_nil_iff.mp kept
    | cons c more =>
        have first := List.head?_dropWhile_not isBlank text
        rw [kept] at first rest
        simp only [List.head?_cons] at first
        simp [rest c List.mem_cons_self] at first
  · intro all c member
    exact all c ((List.dropWhile_suffix isBlank).subset member)

theorem eq_append_trimEnd (text : List Char) :
    ∃ after, (∀ c ∈ after, isBlank c = true) ∧ text = trimEnd text ++ after := by
  induction text with
  | nil => exact ⟨[], by simp, rfl⟩
  | cons c rest ih =>
      obtain ⟨after, white, parts⟩ := ih
      simp only [trimEnd]
      cases kept : trimEnd rest with
      | nil =>
          have blank := trimEnd_eq_nil_iff.mp kept
          by_cases first : isBlank c = true
          · exact ⟨c :: rest, List.forall_mem_cons.mpr ⟨first, blank⟩, by simp [first]⟩
          · exact ⟨rest, blank, by simp [first]⟩
      | cons d more => exact ⟨after, white, by rw [kept] at parts; simp [parts]⟩

theorem eq_append_trim (text : List Char) :
    ∃ before after, (∀ c ∈ before, isBlank c = true) ∧ (∀ c ∈ after, isBlank c = true) ∧
      text = before ++ trim text ++ after := by
  obtain ⟨after, white, parts⟩ := eq_append_trimEnd (trimStart text)
  refine ⟨text.takeWhile isBlank, after, fun c member => List.mem_takeWhile_imp member, white, ?_⟩
  rw [List.append_assoc, trim, ← parts, trimStart, List.takeWhile_append_dropWhile]

theorem not_blank_of_trim {text rest : List Char} {c : Char} (trimmed : trim text = c :: rest) :
    isBlank c = false := by
  have first := List.head?_dropWhile_not isBlank text
  cases kept : text.dropWhile isBlank with
  | nil => simp [trim, trimStart, kept, trimEnd] at trimmed
  | cons d more =>
      simp only [kept, List.head?_cons] at first
      simp only [trim, trimStart, kept, trimEnd] at trimmed
      split at trimmed
      · simp only [first, Bool.false_eq_true, if_false, List.cons.injEq] at trimmed
        exact trimmed.1 ▸ first
      · simp only [List.cons.injEq] at trimmed
        exact trimmed.1 ▸ first

end RemoteDom.Text

namespace RemoteDom.Selector

namespace Nesting

def feedAll (n : Nesting) (text : List Char) : Nesting := text.foldl feed n

@[simp]
theorem feedAll_nil (n : Nesting) : n.feedAll [] = n := rfl

@[simp]
theorem feedAll_cons (n : Nesting) (c : Char) (text : List Char) :
    n.feedAll (c :: text) = (n.feed c).feedAll text := rfl

@[simp]
theorem feedAll_append (n : Nesting) (first second : List Char) :
    n.feedAll (first ++ second) = (n.feedAll first).feedAll second :=
  List.foldl_append

theorem eq_of_outside {n : Nesting} (free : n.outside = true) : n = {} := by
  obtain ⟨quote, brackets, parens⟩ := n
  simp only [outside, Bool.and_eq_true, Option.isNone_iff_eq_none, beq_iff_eq] at free
  obtain ⟨⟨rfl, rfl⟩, rfl⟩ := free
  rfl

theorem feed_of_quoted {n : Nesting} {quote c : Char} (quoted : n.quote = some quote) (other : c ≠ quote) :
    n.feed c = n := by
  simp [feed, quoted, other]

theorem feed_blank {c : Char} (blank : Text.isBlank c = true) : ({} : Nesting).feed c = {} := by
  apply feed_of_not_delimiter _ _ _ rfl
  simp only [isDelimiter, Bool.or_eq_false_iff, beq_eq_false_iff_ne]
  refine ⟨⟨⟨⟨⟨?_, ?_⟩, ?_⟩, ?_⟩, ?_⟩, ?_⟩ <;> (rintro rfl; revert blank; decide)

end Nesting

/-- A scan that has read something, given in reverse, passes through a text without meeting a place where
it would cut. -/
def Uncut (cuts : List Char → Char → Prop) : Nesting → List Char → List Char → Prop
  | _, _, [] => True
  | n, read, c :: rest =>
      ¬ (n.outside = true ∧ cuts read.reverse c) ∧ Uncut cuts (n.feed c) (c :: read) rest

instance decidableUncut (cuts : List Char → Char → Prop) [∀ before c, Decidable (cuts before c)] :
    (n : Nesting) → (read text : List Char) → Decidable (Uncut cuts n read text)
  | _, _, [] => .isTrue trivial
  | n, read, c :: rest =>
      have := decidableUncut cuts (n.feed c) (c :: read) rest
      inferInstanceAs (Decidable (¬ (n.outside = true ∧ cuts read.reverse c) ∧ _))

variable {cuts : List Char → Char → Prop}

theorem uncut_append {n : Nesting} {read first second : List Char} :
    Uncut cuts n read (first ++ second) ↔
      Uncut cuts n read first ∧ Uncut cuts (n.feedAll first) (first.reverse ++ read) second := by
  induction first generalizing n read with
  | nil => simp [Uncut]
  | cons c rest ih => simp [Uncut, ih, and_assoc]

/-- What was read before matters only as far as it decides about cuts. -/
theorem Uncut.reread {other : List Char → Char → Prop} {n : Nesting} {read reread text : List Char}
    (uncut : Uncut cuts n read text)
    (fewer : ∀ more c, other (reread.reverse ++ more) c → cuts (read.reverse ++ more) c) :
    Uncut other n reread text := by
  induction text generalizing n read reread with
  | nil => trivial
  | cons c rest ih =>
      refine ⟨fun cut => uncut.1 ⟨cut.1, by simpa using fewer [] c (by simpa using cut.2)⟩, ?_⟩
      apply ih uncut.2
      intro more d cut
      simpa using fewer (c :: more) d (by simpa using cut)

theorem uncut_or_cut (cuts : List Char → Char → Prop) (n : Nesting) (read text : List Char) :
    Uncut cuts n read text ∨ ∃ before c after, text = before ++ c :: after ∧ Uncut cuts n read before ∧
      (n.feedAll before).outside = true ∧ cuts (read.reverse ++ before) c := by
  induction text generalizing n read with
  | nil => exact .inl trivial
  | cons c rest ih =>
      by_cases cut : n.outside = true ∧ cuts read.reverse c
      · exact .inr ⟨[], c, rest, rfl, trivial, cut.1, by simpa using cut.2⟩
      · rcases ih (n.feed c) (c :: read) with uncut | ⟨before, d, after, parts, uncut, free, ends⟩
        · exact .inl ⟨cut, uncut⟩
        · exact .inr ⟨c :: before, d, after, by rw [parts]; rfl, ⟨cut, uncut⟩, free, by simpa using ends⟩

/-- The signs that a group begins and ends with. -/
inductive Fence where
  | single
  | double
  | bracket
  | paren
deriving DecidableEq, Repr

namespace Fence

def first : Fence → Char
  | single => '\''
  | double => '"'
  | bracket => '['
  | paren => '('

def last : Fence → Char
  | single => '\''
  | double => '"'
  | bracket => ']'
  | paren => ')'

def inside (fence : Fence) : Nesting := ({} : Nesting).feed fence.first

def group (fence : Fence) (inner : List Char) : List Char := fence.first :: inner ++ [fence.last]

private theorem outside_inside (fence : Fence) : fence.inside.outside = false := by
  cases fence <;> decide

private theorem feed_last (fence : Fence) : fence.inside.feed fence.last = {} := by
  cases fence <;> decide

end Fence

/-- A scan goes through a text without coming outside, and ends where it began. -/
structure Nested (n : Nesting) (inner : List Char) : Prop where
  inside : Uncut (fun _ _ => True) n [] inner
  back : n.feedAll inner = n

namespace Nested

variable {fence : Fence} {inner read : List Char}

theorem feedAll_group (nested : Nested fence.inside inner) : Nesting.feedAll {} (fence.group inner) = {} := by
  rw [Fence.group, List.cons_append, Nesting.feedAll_cons, Nesting.feedAll_append]
  change ((fence.inside.feedAll inner).feedAll [fence.last]) = {}
  rw [nested.back]
  exact fence.feed_last

/-- Only the first sign of a group may be a place to cut. -/
theorem uncut_group (nested : Nested fence.inside inner) (passes : ¬ cuts read.reverse fence.first) :
    Uncut cuts {} read (fence.group inner) := by
  refine ⟨fun cut => passes cut.2, uncut_append.mpr ⟨nested.inside.reread fun _ _ _ => trivial, ?_, trivial⟩⟩
  change ¬ ((fence.inside.feedAll inner).outside = true ∧ _)
  rw [nested.back, fence.outside_inside]
  simp

end Nested

end RemoteDom.Selector
