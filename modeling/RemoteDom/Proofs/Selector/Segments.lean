import RemoteDom.Selector.Locator
import RemoteDom.Proofs.Selector.CompoundRuns
import RemoteDom.Proofs.Selector.PathRuns

/-! The segments of a locator, one for each document that it crosses: one more than the frames that something
follows. A segment crosses no frame itself. -/

namespace RemoteDom

namespace Selector

private theorem countP_dropLast_of_short {α : Type} {marked : α → Bool} {items : List α}
    (short : ∀ first second others, runs marked items ≠ first :: second :: others) :
    items.dropLast.countP marked = 0 := by
  by_cases empty : items = []
  · simp [empty]
  · have count := length_runs marked items empty
    cases cut : runs marked items with
    | nil => simp [cut] at count
    | cons first others =>
        cases others with
        | nil => simpa [cut] using count
        | cons second others => exact absurd cut (short first second others)

private theorem length_runs_cons_cons {α : Type} {marked : α → Bool} {items : List α} {first second : List α}
    {others : List (List α)} (cut : runs marked items = first :: second :: others) :
    (first :: second :: others).length = items.dropLast.countP marked + 1 := by
  have some_item : items ≠ [] := by
    rintro rfl
    cases cut
  rw [← cut, length_runs marked items some_item]

private theorem Compound.split?_eq (selector : List Char) :
    split? selector =
      if 1 < (runs isFrame (ofSelector selector)).length then some ((runs isFrame (ofSelector selector)).map renderRun)
      else none := by
  unfold split?
  split
  next found => simp [found]
  next short =>
    match found : runs isFrame (ofSelector selector) with
    | [] | [_] => rfl
    | first :: second :: others => exact absurd found (short first second others)

namespace Path

def renderRuns : List (List Step) → List (List Char)
  | [] => []
  | first :: others => first.flatMap Step.render :: others.map renderInside

theorem length_renderRuns (cut : List (List Step)) : (renderRuns cut).length = cut.length := by
  cases cut <;> simp [renderRuns]

private theorem split?_eq (expression : List Char) :
    split? expression =
      if 1 < (runs isFrameStep (steps expression)).length then some (renderRuns (runs isFrameStep (steps expression)))
      else none := by
  unfold split?
  split
  next found => simp [found, renderRuns]
  next short =>
    match found : runs isFrameStep (steps expression) with
    | [] | [_] => rfl
    | first :: second :: others => exact absurd found (short first second others)

end Path

end Selector

namespace Locator

/-- A written-out expression is cut in its own dialect; nothing else is cut. -/
def parts? (locator : Locator) : Option (List (List Char)) :=
  match locator.strategy with
  | .css => Selector.Compound.split? locator.value.toList
  | .xpath => Selector.Path.split? locator.value.toList
  | _ => none

private theorem segments_of_parts {locator : Locator} {parts : List (List Char)} (cut : locator.parts? = some parts) :
    locator.segments = parts.map fun part => ⟨locator.strategy, String.ofList part⟩ := by
  obtain ⟨strategy, value⟩ := locator
  cases strategy <;> simp_all [parts?, segments]

private theorem segments_of_uncut {locator : Locator} (uncut : locator.parts? = none) :
    locator.segments = [locator] := by
  obtain ⟨strategy, value⟩ := locator
  cases strategy <;> simp_all [parts?, segments]

/-- A selector has one segment for each run of its compounds; if there is but one, it is the selector as it stands. -/
theorem segments_css (text : List Char) :
    (css (String.ofList text)).segments =
      if 1 < (Selector.runs Selector.Compound.isFrame (Selector.Compound.ofSelector text)).length then
        (Selector.runs Selector.Compound.isFrame (Selector.Compound.ofSelector text)).map fun run =>
          css (String.ofList (Selector.Compound.renderRun run))
      else [css (String.ofList text)] := by
  have cut : parts? (css (String.ofList text)) = Selector.Compound.split? text := by simp [parts?, css]
  rw [Selector.Compound.split?_eq] at cut
  split at cut
  next several =>
    rw [if_pos several, segments_of_parts cut, List.map_map]
    rfl
  next single => rw [if_neg single, segments_of_uncut cut]

/-- An expression has one segment for each run of its steps; if there is but one, it is the expression as it stands. -/
theorem segments_xpath (text : List Char) :
    (xpath (String.ofList text)).segments =
      if 1 < (Selector.runs Selector.Path.isFrameStep (Selector.Path.steps text)).length then
        (Selector.Path.renderRuns (Selector.runs Selector.Path.isFrameStep (Selector.Path.steps text))).map fun part =>
          xpath (String.ofList part)
      else [xpath (String.ofList text)] := by
  have cut : parts? (xpath (String.ofList text)) = Selector.Path.split? text := by simp [parts?, xpath]
  rw [Selector.Path.split?_eq] at cut
  split at cut
  next several =>
    rw [if_pos several, segments_of_parts cut]
    rfl
  next single => rw [if_neg single, segments_of_uncut cut]

private theorem cons_cons_of_parts {locator : Locator} {parts : List (List Char)} (cut : locator.parts? = some parts) :
    ∃ first second others, parts = first :: second :: others := by
  obtain ⟨strategy, value⟩ := locator
  cases strategy with
  | css =>
      simp only [parts?, Selector.Compound.split?] at cut
      split at cut <;> cases cut
      exact ⟨_, _, _, rfl⟩
  | xpath =>
      simp only [parts?, Selector.Path.split?] at cut
      split at cut <;> cases cut
      exact ⟨_, _, _, rfl⟩
  | identifier | className | tagName | nameAttribute | textContent => cases cut

theorem segments_ne_nil (locator : Locator) : locator.segments ≠ [] := by
  cases cut : locator.parts? with
  | none => simp [segments_of_uncut cut]
  | some parts =>
      obtain ⟨first, second, others, rfl⟩ := cons_cons_of_parts cut
      simp [segments_of_parts cut]

private theorem parts?_of_mem_parts? {locator : Locator} {parts : List (List Char)} {part : List Char}
    (cut : locator.parts? = some parts) (member : part ∈ parts) :
    parts? ⟨locator.strategy, String.ofList part⟩ = none := by
  obtain ⟨strategy, value⟩ := locator
  cases strategy with
  | css => simpa [parts?] using Selector.Compound.split?_of_mem_split? cut member
  | xpath => simpa [parts?] using Selector.Path.split?_of_mem_split? cut member
  | identifier | className | tagName | nameAttribute | textContent => cases cut

theorem segments_of_mem_segments {locator segment : Locator} (member : segment ∈ locator.segments) :
    segment.segments = [segment] := by
  cases cut : locator.parts? with
  | none =>
      rw [segments_of_uncut cut, List.mem_singleton] at member
      exact member ▸ segments_of_uncut cut
  | some parts =>
      rw [segments_of_parts cut] at member
      obtain ⟨part, inside, rfl⟩ := List.mem_map.mp member
      exact segments_of_uncut (parts?_of_mem_parts? cut inside)

private theorem strategy_of_mem_segments {locator segment : Locator} (member : segment ∈ locator.segments) :
    segment.strategy = locator.strategy := by
  cases cut : locator.parts? with
  | none =>
      rw [segments_of_uncut cut, List.mem_singleton] at member
      rw [member]
  | some parts =>
      rw [segments_of_parts cut] at member
      obtain ⟨part, inside, rfl⟩ := List.mem_map.mp member
      rfl

theorem dialect_of_mem_segments {locator segment : Locator} (member : segment ∈ locator.segments) :
    segment.dialect = locator.dialect :=
  congrArg Strategy.dialect (strategy_of_mem_segments member)

/-- How many of the steps of a written-out expression reach a frame element in which the search goes on. -/
def framesEntered (locator : Locator) : Nat :=
  match locator.strategy with
  | .css => (Selector.Compound.ofSelector locator.value.toList).dropLast.countP Selector.Compound.isFrame
  | .xpath => (Selector.Path.steps locator.value.toList).dropLast.countP Selector.Path.isFrameStep
  | _ => 0

private theorem length_parts {locator : Locator} {parts : List (List Char)} (cut : locator.parts? = some parts) :
    parts.length = locator.framesEntered + 1 := by
  obtain ⟨strategy, value⟩ := locator
  cases strategy with
  | css =>
      simp only [parts?, Selector.Compound.split?] at cut
      split at cut
      next first second others found =>
        rw [← Option.some.inj cut, List.length_map]
        exact Selector.length_runs_cons_cons found
      next => cases cut
  | xpath =>
      simp only [parts?, Selector.Path.split?] at cut
      split at cut
      next first second others found =>
        rw [← Option.some.inj cut, List.length_cons, List.length_map]
        exact Selector.length_runs_cons_cons found
      next => cases cut
  | identifier | className | tagName | nameAttribute | textContent => cases cut

private theorem framesEntered_of_uncut {locator : Locator} (uncut : locator.parts? = none) :
    locator.framesEntered = 0 := by
  obtain ⟨strategy, value⟩ := locator
  cases strategy with
  | css =>
      simp only [parts?, Selector.Compound.split?] at uncut
      split at uncut
      next => cases uncut
      next short => exact Selector.countP_dropLast_of_short short
  | xpath =>
      simp only [parts?, Selector.Path.split?] at uncut
      split at uncut
      next => cases uncut
      next short => exact Selector.countP_dropLast_of_short short
  | identifier | className | tagName | nameAttribute | textContent => rfl

theorem length_segments (locator : Locator) : locator.segments.length = 1 + locator.framesEntered := by
  cases cut : locator.parts? with
  | none => simp [segments_of_uncut cut, framesEntered_of_uncut cut]
  | some parts => rw [segments_of_parts cut, List.length_map, length_parts cut, Nat.add_comm]

/-- A locator that has one segment is not cut, and the segment is the locator with its text untouched. -/
theorem segments_of_length_one {locator : Locator} (single : locator.segments.length = 1) :
    locator.segments = [locator] := by
  cases cut : locator.parts? with
  | none => exact segments_of_uncut cut
  | some parts =>
      obtain ⟨first, second, others, rfl⟩ := cons_cons_of_parts cut
      simp [segments_of_parts cut] at single

/-- Every locator has segments, all of its own strategy: one, and one more for each frame of a written-out
expression in which the search goes on. No segment is cut again, and where there is but one it is the locator
itself. -/
theorem segments_counted_and_atomic (locator : Locator) :
    locator.segments ≠ [] ∧ locator.segments.length = 1 + locator.framesEntered ∧
      (∀ segment ∈ locator.segments, segment.strategy = locator.strategy ∧ segment.segments = [segment]) ∧
      (locator.segments.length = 1 → locator.segments = [locator]) :=
  ⟨locator.segments_ne_nil, locator.length_segments,
    fun _ member => ⟨strategy_of_mem_segments member, segments_of_mem_segments member⟩, segments_of_length_one⟩

example : (css "iframe.a > iframe b iframe").segments = [css "iframe.a", css "iframe", css "b iframe"] := by decide

end Locator

end RemoteDom
