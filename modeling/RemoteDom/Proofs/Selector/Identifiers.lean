import RemoteDom.Proofs.Selector.Escapes

/-! Identifiers in selectors. An escaped identifier should be one compound whatever is in it. It is as good as any other
in front of every tail exactly if no combinator in it is taken for one, but for spaces with no frame behind them. -/

namespace RemoteDom.Selector.Compound

/-- In front of a tail, a selector is in the place of another: its segments are those of the other, but that the first
starts with it. -/
def StandsFor (text other tail : List Char) : Prop :=
  ∃ more others,
    (Locator.css (String.ofList (other ++ tail))).segments = Locator.css (String.ofList (other ++ more)) :: others ∧
    (Locator.css (String.ofList (text ++ tail))).segments = Locator.css (String.ofList (text ++ more)) :: others

theorem Unbroken.exists_front {text : List Char} (unbroken : Unbroken text) (escaped : Escaped text) {sign : Char}
    (isSign : isCombinator sign = true) (rest : List Char) :
    ∃ front, (∀ compound ∈ front, isFrame compound = false) ∧
      ofSelector (text ++ sign :: rest) = front ++ ofSelector (combine sign rest).2 ∧
      ∀ run, run ≠ [] →
        renderRun (front ++ run) = text ++ (renderCombinator (some (combine sign rest).1) ++ renderRun run) := by
  obtain ⟨earlier, last, bare, final, written, reading⟩ := unbroken.exists_reading escaped
  refine ⟨earlier ++ [⟨last, some (combine sign rest).1⟩], ?_, ?_, fun run some_run => ?_⟩
  · have same : isFrame ⟨last, some (combine sign rest).1⟩ = false := final
    exact List.forall_mem_append.mpr ⟨bare, by simpa using same⟩
  · rw [reading sign rest isSign, List.append_assoc, List.singleton_append]
  · rw [List.append_assoc, List.singleton_append, renderRun_append earlier last _ some_run, written]

private theorem exists_segments_behind {sign : Char} (isSign : isCombinator sign = true) (rest : List Char) :
    ∃ more others, ∀ text, Escaped text → Unbroken text →
      (Locator.css (String.ofList (text ++ sign :: rest))).segments =
        Locator.css (String.ofList (text ++ more)) :: others := by
  by_cases several : 1 < (runs isFrame (ofSelector (combine sign rest).2)).length
  · have some_behind : ofSelector (combine sign rest).2 ≠ [] := by
      intro nothing
      simp [nothing, runs] at several
    obtain ⟨next, behind, follows⟩ := List.exists_cons_of_ne_nil some_behind
    obtain ⟨run, others, cut⟩ := exists_runs_cons isFrame next behind
    rw [follows, cut] at several
    refine ⟨renderCombinator (some (combine sign rest).1) ++ renderRun (next :: run),
      others.map fun run => Locator.css (String.ofList (renderRun run)), fun text escaped unbroken => ?_⟩
    obtain ⟨front, plain, reading, written⟩ := unbroken.exists_front escaped isSign rest
    have whole := runs_append_of_plain plain cut
    rw [Locator.segments_css, reading, follows, whole, if_pos (by simpa using several), List.map_cons,
      written _ (by simp)]
  · refine ⟨sign :: rest, [], fun text escaped unbroken => ?_⟩
    obtain ⟨front, plain, reading, -⟩ := unbroken.exists_front escaped isSign rest
    have single : (runs isFrame (front ++ ofSelector (combine sign rest).2)).length ≤ 1 := by
      cases cut : runs isFrame (ofSelector (combine sign rest).2) with
      | nil =>
          have nothing : ofSelector (combine sign rest).2 = [] :=
            not_ne_iff.mp fun some_behind => runs_ne_nil isFrame some_behind cut
          rw [nothing, List.append_nil]
          exact length_runs_le fun compound member => plain compound (List.dropLast_subset front member)
      | cons run others =>
          rw [runs_append_of_plain plain cut]
          simpa [cut] using several
    rw [Locator.segments_css, reading, if_neg (by omega)]

private theorem eq_of_css {first second : List Char}
    (same : Locator.css (String.ofList first) = Locator.css (String.ofList second)) : first = second := by
  simpa [Locator.css] using congrArg (fun locator => locator.value.toList) same

private theorem exists_of_renderRun_single {run : List Compound} {c : Char} (visible : c ≠ ' ')
    (written : renderRun run = [c]) : ∃ last, run = [last] := by
  match run with
  | [] => cases written
  | [last] => exact ⟨last, rfl⟩
  | first :: next :: rest =>
      obtain ⟨more, blank⟩ := exists_renderCombinator first.combinator
      have member : ' ' ∈ [c] := by
        rw [← written, renderRun_cons_cons, blank]
        simp
      exact absurd (List.mem_singleton.mp member).symm visible

/-- In front of a frame it shows whether a text is unbroken. -/
private theorem unbroken_of_standsFor {text : List Char} (escaped : Escaped text)
    (stands : StandsFor text ['#', 'x'] probe) : Unbroken text := by
  obtain ⟨more, others, known, segmented⟩ := stands
  have parts : (Locator.css (String.ofList (['#', 'x'] ++ probe))).segments =
      [.css (String.ofList (['#', 'x'] ++ " > iframe".toList)), .css (String.ofList ['p'])] := by decide
  obtain ⟨first, rfl⟩ := List.cons.inj (known.symm.trans parts)
  obtain rfl : more = " > iframe".toList := List.append_cancel_left (eq_of_css first)
  rw [Locator.segments_css] at segmented
  split at segmented
  next several =>
    obtain ⟨run, behind, cut, written, others⟩ := List.map_eq_cons_iff.mp segmented
    obtain ⟨ending, nothing, rfl, last, none⟩ := List.map_eq_cons_iff.mp others
    obtain rfl : nothing = [] := List.map_eq_nil_iff.mp none
    obtain ⟨final, rfl⟩ := exists_of_renderRun_single (by decide) (eq_of_css last)
    obtain ⟨plain, frame, rfl, -, bare⟩ := exists_of_runs_cons_cons cut
    have reading := flatten_runs isFrame (ofSelector (text ++ probe))
    rw [cut] at reading
    exact unbroken_of_reading escaped bare (eq_of_css written) (by simpa using reading.symm)
  next => simp at segmented

/-- Any escaped identifier may stand in the place of `x` in front of every tail exactly if all that is opened in it is
closed again and no combinator in it is outside of that but spaces, behind each of which there is something visible that
is no frame. -/
theorem standsFor_escape_iff (value : List Char) :
    (∀ sign rest, isCombinator sign = true → StandsFor ('#' :: Identifier.escape value) ['#', 'x'] (sign :: rest)) ↔
      Unbroken ('#' :: Identifier.escape value) := by
  have escaped := Escaped.identifier value
  constructor
  · intro stands
    exact unbroken_of_standsFor escaped (stands '>' _ (by decide))
  · intro unbroken sign rest isSign
    obtain ⟨more, others, behind⟩ := exists_segments_behind isSign rest
    have other : Escaped ['#', 'x'] := Escaped.identifier ['x']
    have solid : Solid ['#', 'x'] := ⟨uncut_of_bare (by decide) _ _, by decide⟩
    exact ⟨more, others, behind _ other (solid.unbroken other (by decide) (by decide)), behind _ escaped unbroken⟩

/-- A digit at the start is written as a code point with a space behind it, which is taken for a combinator: a name
behind it is taken for a frame, and with nothing behind it the space is lost. -/
theorem digit_breaks_identifier :
    Identifier.escape "1iframe".toList = "\\31 iframe".toList ∧
      (Locator.css "#x p").segments = [.css "#x p"] ∧
      (Locator.css "#\\31 iframe p").segments = [.css "#\\31 iframe", .css "p"] ∧
      ¬StandsFor ('#' :: Identifier.escape "1iframe".toList) ['#', 'x'] " p".toList ∧
      Identifier.escape "1".toList = "\\31 ".toList ∧
      (Locator.css "#x iframe p").segments = [.css "#x iframe", .css "p"] ∧
      (Locator.css "#\\31  iframe p").segments = [.css "#\\31 iframe", .css "p"] := by
  have whole : (Locator.css "#x p").segments = [.css "#x p"] := by decide
  have torn : (Locator.css "#\\31 iframe p").segments = [.css "#\\31 iframe", .css "p"] := by decide
  refine ⟨by decide, whole, torn, ?_, by decide, by decide, by decide⟩
  rintro ⟨more, others, known, segmented⟩
  have one := congrArg List.length (known.symm.trans whole)
  have two := congrArg List.length (segmented.symm.trans torn)
  rw [List.length_cons] at one two
  exact absurd (one.symm.trans two) (by decide)

end RemoteDom.Selector.Compound
