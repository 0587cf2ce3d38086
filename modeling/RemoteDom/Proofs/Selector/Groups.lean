import RemoteDom.Proofs.Selector.TypeNames

/-! The groups of a selector: quoted texts, and pairs of brackets or parentheses, that stand outside all others. What is
inside a group is never looked at. It is found again in one segment, and all around it is the same whatever it is. -/

namespace RemoteDom

namespace Selector

namespace Compound

private theorem exists_renderRun_around (first second : List Compound) (sign : Option Char) :
    ∃ left right, ∀ text, renderRun (first ++ ⟨text, sign⟩ :: second) = left ++ text ++ right := by
  induction first with
  | nil =>
      cases second with
      | nil => exact ⟨[], [], fun text => by simp [renderRun]⟩
      | cons next rest => exact ⟨[], renderCombinator sign ++ renderRun (next :: rest), fun text => by simp [renderRun]⟩
  | cons head first ih =>
      obtain ⟨left, right, written⟩ := ih
      refine ⟨head.text ++ renderCombinator head.combinator ++ left, right, fun text => ?_⟩
      rw [List.cons_append, renderRun_cons head (by simp), written]
      simp only [List.append_assoc]

private theorem firm_group (fence : Fence) (inner : List Char) : Text.Firm (fence.group inner) := by
  refine ⟨⟨fence.first, inner ++ [fence.last], rfl, ?_⟩, ⟨fence.first :: inner, fence.last, rfl, ?_⟩⟩ <;>
    cases fence <;> decide

/-- A group is read as part of one compound. The compounds around it, and whether its own reaches a frame, do not depend
on what is inside. -/
private theorem exists_ofSelector_group {before : List Char} (closed : (Nesting.feedAll {} before).outside = true)
    (fence : Fence) (behind : List Char) :
    ∃ earlier left right sign later frame, ∀ inner, Nested fence.inside inner →
      ofSelector (before ++ fence.group inner ++ behind) =
        earlier ++ ⟨left ++ fence.group inner ++ right, sign⟩ :: later ∧
      isFrame ⟨left ++ fence.group inner ++ right, sign⟩ = frame := by
  obtain ⟨earlier, read, front⟩ := exists_ofSelector_front closed
  obtain ⟨right, sign, later, back⟩ := exists_gather_behind behind
  obtain ⟨left, same, gathered⟩ := back read
  have bound : isCombinator fence.first = false ∧ Text.isBlank fence.first = false ∧
      Text.isNameChar fence.first = false := by
    cases fence <;> decide
  refine ⟨earlier, left, right, sign, later, isFrame ⟨read.reverse, none⟩, fun inner nested => ⟨?_, ?_⟩⟩
  · have uncut : Uncut EndsAt {} read (fence.group inner) :=
      nested.uncut_group fun ends => Bool.noConfusion (bound.1.symm.trans ends.1)
    have start := front fence.first (inner ++ [fence.last] ++ behind) bound.1
    rw [List.append_assoc]
    refine start.trans (congrArg (earlier ++ ·) ?_)
    rw [← gathered _ (firm_group fence inner), ← nested.feedAll_group, ← gather_append uncut, nested.feedAll_group]
    rfl
  · rw [List.append_assoc]
    exact isFrame_append bound.2.1 bound.2.2 same _ sign

end Compound

end Selector

namespace Locator

open Selector

/-- What is inside a group at depth zero of a selector has no part in how the selector is split: the group stands in one
segment, behind and before the same text, and all other segments are the same, for any properly nested content. -/
theorem segments_group {before : List Char} (closed : (Nesting.feedAll {} before).outside = true) (fence : Fence)
    (behind : List Char) :
    ∃ earlier left right later, ∀ inner, Nested fence.inside inner →
      (css (String.ofList (before ++ fence.group inner ++ behind))).segments =
        earlier ++ css (String.ofList (left ++ fence.group inner ++ right)) :: later := by
  obtain ⟨compounds, left, right, sign, others, frame, reading⟩ :=
    Compound.exists_ofSelector_group closed fence behind
  obtain ⟨earlier, first, second, later, around⟩ := exists_runs_around Compound.isFrame compounds others frame
  obtain ⟨start, ending, written⟩ := Compound.exists_renderRun_around first second sign
  have cut {inner : List Char} (nested : Nested fence.inside inner) :
      runs Compound.isFrame (Compound.ofSelector (before ++ fence.group inner ++ behind)) =
        earlier ++ (first ++ ⟨left ++ fence.group inner ++ right, sign⟩ :: second) :: later := by
    rw [(reading inner nested).1]
    exact around _ (reading inner nested).2
  by_cases several : 1 < earlier.length + (later.length + 1)
  · refine ⟨earlier.map fun run => css (String.ofList (Compound.renderRun run)), start ++ left, right ++ ending,
      later.map fun run => css (String.ofList (Compound.renderRun run)), fun inner nested => ?_⟩
    rw [segments_css, cut nested, if_pos (by simpa using several), List.map_append, List.map_cons, written]
    simp only [List.append_assoc]
  · refine ⟨[], before, behind, [], fun inner nested => ?_⟩
    rw [segments_css, cut nested, if_neg (by simpa using several)]
    rfl

/-- A quoted combinator, and one behind the name of a frame. -/
theorem segments_group_argument :
    (Nesting.feedAll {} "iframe:not".toList).outside = true ∧ Nested Fence.paren.inside "[src='x > y']".toList ∧
      Nested Fence.paren.inside "iframe > (b)".toList ∧
      ∃ earlier left right later,
        (css "iframe:not([src='x > y']) p").segments =
          earlier ++ css (String.ofList (left ++ "([src='x > y'])".toList ++ right)) :: later ∧
        (css "iframe:not(iframe > (b)) p").segments =
          earlier ++ css (String.ofList (left ++ "(iframe > (b))".toList ++ right)) :: later := by
  have closed : (Nesting.feedAll {} "iframe:not".toList).outside = true := by decide
  have quoted : Nested Fence.paren.inside "[src='x > y']".toList := ⟨by decide, by decide⟩
  have named : Nested Fence.paren.inside "iframe > (b)".toList := ⟨by decide, by decide⟩
  obtain ⟨earlier, left, right, later, around⟩ := segments_group closed .paren " p".toList
  exact ⟨closed, quoted, named, earlier, left, right, later, around _ quoted, around _ named⟩

end Locator

end RemoteDom
