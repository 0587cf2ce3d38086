import RemoteDom.Proofs.Selector.PathText
import RemoteDom.Proofs.Selector.TypeNames

/-! Alternatives of one expression: the selectors of a list and the paths of a union. A comma or a bar ends no step, so
that the last step of one alternative and the first step of the next are read as one. A frame anywhere but in the last
step of all tears the alternatives apart. -/

namespace RemoteDom

namespace Selector

/-- No item but the last is marked in two lists of which the last item of the first and the first item of the second
make one. -/
structure Undivided {α : Type} (marked : α → Bool) (join : α → α → α) (first second : List α) : Prop where
  before : ∀ item ∈ first.dropLast, marked item = false
  behind : ∀ item ∈ second.dropLast, marked item = false
  joint : ∀ last ∈ first.getLast?, ∀ next ∈ second.head?, marked (join last next) = true → second.length ≤ 1

private theorem forall_mem_dropLast_iff {α : Type} {marked : α → Bool} (before : List α) (joint : α) (behind : List α) :
    (∀ item ∈ (before ++ joint :: behind).dropLast, marked item = false) ↔
      (∀ item ∈ before, marked item = false) ∧ (∀ item ∈ behind.dropLast, marked item = false) ∧
        (marked joint = true → behind = []) := by
  cases behind with
  | nil => simp
  | cons next rest =>
      rw [List.dropLast_append_cons, List.dropLast_cons_cons]
      simp only [List.forall_mem_append, List.forall_mem_cons, reduceCtorEq, imp_false, Bool.not_eq_true]
      exact and_congr_right fun _ => and_comm

private theorem undivided_iff {α : Type} {marked : α → Bool} {join : α → α → α} {before behind : List α}
    {last next joint : α} (plain : marked next = false) (same : marked (join last next) = marked joint) :
    (∀ item ∈ (before ++ joint :: behind).dropLast, marked item = false) ↔
      Undivided marked join (before ++ [last]) (next :: behind) := by
  have single : (next :: behind).length ≤ 1 ↔ behind = [] := by simp
  rw [forall_mem_dropLast_iff]
  constructor
  · rintro ⟨first, second, alone⟩
    refine ⟨by simpa [List.dropLast_concat] using first, fun item member => ?_, fun l isLast n isNext mark => ?_⟩
    · rcases mem_dropLast_cons member with rfl | member
      · exact plain
      · exact second item member
    · obtain rfl : last = l := by simpa using isLast
      obtain rfl : next = n := by simpa using isNext
      exact single.mpr (alone (same ▸ mark))
  · rintro ⟨first, second, alone⟩
    refine ⟨by simpa [List.dropLast_concat] using first, fun item member => second item ?_, fun mark => ?_⟩
    · cases behind with
      | nil => cases member
      | cons _ _ => exact List.mem_cons_of_mem next member
    · exact single.mp (alone last (by simp) next (by simp) (same.trans mark))

namespace Compound

private theorem gather_comma (read rest : List Char) : gather {} read (',' :: rest) = gather {} (',' :: read) rest := by
  have uncut : Uncut EndsAt {} read [','] := ⟨fun cut => absurd cut.2.1 (by decide), trivial⟩
  exact gather_append uncut rest

private theorem exists_gather_before {text : List Char} (closed : (Nesting.feedAll {} text).outside = true) :
    ∃ compounds read, ∀ rest, ofSelector (text ++ ',' :: rest) = compounds ++ gather {} (',' :: read) rest := by
  obtain ⟨compounds, read, reading⟩ := exists_ofSelector_front closed
  exact ⟨compounds, read, fun rest => by rw [reading ',' rest (by decide), gather_comma]⟩

private theorem exists_gather_comma (rest : List Char) :
    ∃ behind, ∀ read, ∃ joint, gather {} (',' :: read) rest = joint :: behind ∧
      isFrame joint = isFrame ⟨read.reverse, none⟩ := by
  obtain ⟨right, sign, behind, reading⟩ := exists_gather_behind rest
  refine ⟨behind, fun read => ?_⟩
  obtain ⟨left, same, gathered⟩ := reading read
  have firm : Text.Firm [','] := ⟨⟨',', [], rfl, by decide⟩, ⟨[], ',', rfl, by decide⟩⟩
  refine ⟨_, gathered [','] firm, ?_⟩
  rw [List.append_assoc]
  exact isFrame_append (by decide) (by decide) same right sign

/-- In a selector list the compound that a comma stands in is judged by what is before the comma. -/
private theorem plain_list_iff {first : List Char} (closed : (Nesting.feedAll {} first).outside = true)
    (rest : List Char) :
    (∀ compound ∈ (ofSelector (first ++ ',' :: rest)).dropLast, isFrame compound = false) ↔
      Undivided isFrame (fun last _ => last) (ofSelector (first ++ [','])) (ofSelector (',' :: rest)) := by
  obtain ⟨compounds, read, before⟩ := exists_gather_before closed
  obtain ⟨behind, joined⟩ := exists_gather_comma rest
  obtain ⟨joint, whole, jointly⟩ := joined read
  obtain ⟨next, second, plain⟩ := joined []
  obtain ⟨nothing, ended⟩ := exists_gather_comma []
  obtain ⟨last, final, lastly⟩ := ended read
  have none : nothing = [] := by
    have short : (gather {} (',' :: read) []).length ≤ 1 := by
      simp only [gather]
      split <;> simp
    simpa [final] using short
  rw [before, before, whole, final, none, ofSelector, gather_comma, second]
  exact undivided_iff (plain.trans (by decide)) (lastly.trans jointly.symm)

end Compound

namespace Path

/-- The step that the last step of one path and the first step of the next make, with the bar between them. -/
def joinSteps (last next : Step) : Step := ⟨last.separator, last.text ++ next.text.tail⟩

private theorem stepsFrom_bar (separator read rest : List Char) :
    stepsFrom {} separator read ('|' :: rest) = stepsFrom {} separator ('|' :: read) rest :=
  stepsFrom_pass (by decide) separator read rest

private theorem exists_steps_before {text : List Char} (closed : (Nesting.feedAll {} text).outside = true) :
    ∃ before between read, ∀ rest,
      steps (text ++ '|' :: rest) = before ++ stepsFrom {} between ('|' :: read) rest := by
  obtain ⟨before, between, read, -, reading⟩ := exists_steps_front text
  refine ⟨before, between, read, fun rest => ?_⟩
  rw [reading '|' rest (by decide) (by decide), Nesting.eq_of_outside closed, stepsFrom_bar]

private theorem exists_stepsFrom_behind (rest : List Char) :
    ∃ middle behind, ∀ separator read,
      stepsFrom {} separator ('|' :: read) rest = ⟨separator, read.reverse ++ '|' :: middle⟩ :: behind := by
  have again {text : List Char} (uncut : Uncut EndsAt {} ['|'] text) (read : List Char) :
      Uncut EndsAt {} ('|' :: read) text :=
    uncut.reread fun _ _ ends => ends
  rcases uncut_or_cut EndsAt {} ['|'] rest with uncut | ⟨before, c, after, parts, uncut, free, rfl⟩
  · refine ⟨rest, [], fun separator read => ?_⟩
    have reading := stepsFrom_append (again uncut read) separator []
    rw [List.append_nil] at reading
    rw [reading]
    simp [stepsFrom, finish]
  · refine ⟨before, stepsFrom {} (slashes after).1 [] (slashes after).2, fun separator read => ?_⟩
    rw [parts, stepsFrom_append (again uncut read), stepsFrom_slash free]
    simp [finish]

private theorem not_isFrameStep_of_bar (separator text : List Char) : isFrameStep ⟨separator, '|' :: text⟩ = false := by
  have other : startsWithFrame ('|' :: text) = false := by
    simp [startsWithFrame, frameName, Text.equalsIgnoringCase]
  have noAxis : afterAxis? ('|' :: text) = none := by
    simp [afterAxis?, show Text.isWordChar '|' = false by decide]
  simp [isFrameStep, isFrameTest, other, noAxis]

/-- In a union the step that a bar stands in is judged as one. -/
private theorem plain_union_iff {first : List Char} (closed : (Nesting.feedAll {} first).outside = true)
    (rest : List Char) :
    (∀ step ∈ (steps (first ++ '|' :: rest)).dropLast, isFrameStep step = false) ↔
      Undivided isFrameStep joinSteps (steps (first ++ ['|'])) (steps ('|' :: rest)) := by
  obtain ⟨before, separator, read, scanned⟩ := exists_steps_before closed
  obtain ⟨middle, behind, joined⟩ := exists_stepsFrom_behind rest
  have ended : stepsFrom {} separator ('|' :: read) [] = [⟨separator, read.reverse ++ ['|']⟩] := by
    simp [stepsFrom, finish]
  have second : steps ('|' :: rest) = ⟨[], '|' :: middle⟩ :: behind :=
    (stepsFrom_bar [] [] rest).trans (joined [] [])
  rw [scanned, scanned, second, joined, ended]
  exact undivided_iff (not_isFrameStep_of_bar [] middle) (by simp [joinSteps])

end Path

end Selector

namespace Locator

open Selector

private theorem segments_eq_singleton_iff (locator : Locator) :
    locator.segments = [locator] ↔ locator.framesEntered = 0 := by
  have count := locator.length_segments
  constructor
  · intro single
    simpa [single] using count
  · intro none
    exact segments_of_length_one (by rw [count, none])

/-- An expression with alternatives is left whole exactly if no step but the last of all reaches a frame: none before
the step in which two alternatives meet, none behind it, and that step only if nothing follows. Of a selector list the
step where they meet is judged by what is before the comma, of a union as a whole. -/
theorem alternatives_whole_iff {first : List Char} (closed : (Nesting.feedAll {} first).outside = true)
    (rest : List Char) :
    ((css (String.ofList (first ++ ',' :: rest))).segments = [css (String.ofList (first ++ ',' :: rest))] ↔
      Undivided Compound.isFrame (fun last _ => last) (Compound.ofSelector (first ++ [',']))
        (Compound.ofSelector (',' :: rest))) ∧
    ((xpath (String.ofList (first ++ '|' :: rest))).segments = [xpath (String.ofList (first ++ '|' :: rest))] ↔
      Undivided Path.isFrameStep Path.joinSteps (Path.steps (first ++ ['|'])) (Path.steps ('|' :: rest))) := by
  rw [segments_eq_singleton_iff, segments_eq_singleton_iff, ← Compound.plain_list_iff closed,
    ← Path.plain_union_iff closed]
  simp [framesEntered, css, xpath, List.countP_eq_zero]

/-- Where no blank follows the comma both alternatives are one compound, and without a slash they are one step. -/
theorem alternatives_whole_iff_unspaced :
    (Nesting.feedAll {} "iframe".toList).outside = true ∧
      (css (String.ofList ("iframe".toList ++ ',' :: "embed".toList))).segments =
        [css (String.ofList ("iframe".toList ++ ',' :: "embed".toList))] ∧
      (xpath (String.ofList ("iframe".toList ++ '|' :: "embed".toList))).segments =
        [xpath (String.ofList ("iframe".toList ++ '|' :: "embed".toList))] :=
  have closed : (Nesting.feedAll {} "iframe".toList).outside = true := by decide
  have whole := alternatives_whole_iff closed "embed".toList
  ⟨closed, whole.1.mpr ⟨by decide, by decide, by decide⟩,
    whole.2.mpr ⟨by decide +kernel, by decide +kernel, by decide +kernel⟩⟩

/-- The second alternative, or the step in which both meet, is searched in the frame of the first. -/
theorem alternatives_torn :
    (Nesting.feedAll {} "iframe".toList).outside = true ∧
      (css (String.ofList ("iframe".toList ++ ',' :: " embed".toList))).segments = [css "iframe,", css "embed"] ∧
      (Nesting.feedAll {} "//iframe/a".toList).outside = true ∧
      (xpath (String.ofList ("//iframe/a".toList ++ '|' :: "b".toList))).segments =
        [xpath "//iframe", xpath "//a|b"] :=
  ⟨by decide, by decide, by decide, by decide +kernel⟩

end Locator

end RemoteDom
