import RemoteDom.Proofs.Selector.Fronts

/-! The blanks of a selector behind a compound. Only spaces are taken for combinators. What is read is given up to the
blanks around each compound: those in front of a compound do not matter, and whether those behind it part it from what
follows is decided by the spaces among them. -/

namespace RemoteDom

namespace Text

private theorem trimEnd_append_blank {after : List Char} (blank : ∀ c ∈ after, isBlank c = true) (text : List Char) :
    trimEnd (text ++ after) = trimEnd text := by
  induction text with
  | nil => exact trimEnd_eq_nil_iff.mpr blank
  | cons c text ih => rw [List.cons_append, trimEnd, trimEnd, ih]

private theorem trimStart_append_of_visible {text : List Char} (visible : trimStart text ≠ []) (rest : List Char) :
    trimStart (text ++ rest) = trimStart text ++ rest := by
  rw [trimStart, List.dropWhile_append, if_neg (by simpa [trimStart] using visible)]
  rfl

theorem trimStart_append_of_blank {text : List Char} (blank : trimStart text = []) (rest : List Char) :
    trimStart (text ++ rest) = trimStart rest := by
  rw [trimStart, List.dropWhile_append, if_pos (by simpa [trimStart] using blank)]
  rfl

private theorem trimStart_append_congr {text other : List Char} (same : trimStart text = trimStart other)
    (rest : List Char) :
    trimStart (text ++ rest) = trimStart (other ++ rest) := by
  by_cases blank : trimStart text = []
  · rw [trimStart_append_of_blank blank, trimStart_append_of_blank (same ▸ blank)]
  · rw [trimStart_append_of_visible blank, trimStart_append_of_visible (same ▸ blank), same]

private theorem trim_append_blank {after : List Char} (blank : ∀ c ∈ after, isBlank c = true) (text : List Char) :
    trim (text ++ after) = trim text := by
  by_cases nothing : trimStart text = []
  · have all : trimStart after = [] := List.dropWhile_eq_nil_iff.mpr blank
    rw [trim, trim, trimStart_append_of_blank nothing, nothing, all]
  · rw [trim, trim, trimStart_append_of_visible nothing, trimEnd_append_blank blank]

theorem trim_append_ne {text : List Char} (shown : trimStart text ≠ []) {c : Char} (visible : isBlank c = false)
    (gap rest : List Char) : trim (text ++ (gap ++ c :: rest)) ≠ trim text := by
  intro same
  obtain ⟨after, -, parts⟩ := eq_append_trimEnd (trimStart text)
  have longer := congrArg List.length same
  have whole := congrArg List.length parts
  rw [trim, trimStart_append_of_visible shown, ← List.append_assoc, trimEnd_append visible, trim] at longer
  simp only [List.length_append, List.length_cons] at longer whole
  omega

theorem trim_trim (text : List Char) : trim (trim text) = trim text := by
  obtain ⟨before, after, early, late, parts⟩ := eq_append_trim text
  have start : trimStart (before ++ trim text) = trimStart (trim text) :=
    trimStart_append_of_blank (List.dropWhile_eq_nil_iff.mpr early) _
  calc trim (trim text)
      = trim (before ++ trim text) := congrArg trimEnd start.symm
    _ = trim (before ++ trim text ++ after) := (trim_append_blank late _).symm
    _ = trim text := congrArg trim parts.symm

end Text

namespace Selector

theorem Nesting.feedAll_blank {gap : List Char} (blank : ∀ c ∈ gap, Text.isBlank c = true) :
    ({} : Nesting).feedAll gap = {} := by
  induction gap with
  | nil => rfl
  | cons c gap ih =>
      obtain ⟨first, later⟩ := List.forall_mem_cons.mp blank
      rw [feedAll_cons, feed_blank first, ih later]

namespace Compound

def bare (compound : Compound) : Compound := ⟨Text.trim compound.text, compound.combinator⟩

theorem isCombinator_of_blank {c : Char} (blank : Text.isBlank c = true) (other : c ≠ ' ') :
    isCombinator c = false := by
  rw [← Bool.not_eq_true]
  intro isSign
  simp only [isCombinator, Bool.or_eq_true, beq_iff_eq] at isSign
  rcases isSign with ((rfl | rfl) | rfl) | rfl
  · exact other rfl
  all_goals exact absurd blank (by decide)

theorem isBlankText_iff_trimStart {text : List Char} : isBlankText text = true ↔ Text.trimStart text = [] := by
  rw [isBlankText_iff, Text.trimStart, List.dropWhile_eq_nil_iff]

private theorem isBlankText_congr {text other : List Char} (same : Text.trimStart text = Text.trimStart other) :
    isBlankText text = isBlankText other := by
  rw [Bool.eq_iff_iff, isBlankText_iff_trimStart, isBlankText_iff_trimStart, same]

theorem map_bare_gather_congr {read other : List Char}
    (same : Text.trimStart read.reverse = Text.trimStart other.reverse) (n : Nesting) (rest : List Char) :
    (gather n read rest).map bare = (gather n other rest).map bare := by
  have trimmed : Text.trim read.reverse = Text.trim other.reverse := congrArg Text.trimEnd same
  induction rest generalizing n read other with
  | nil =>
      simp only [gather, trimmed]
  | cons c rest ih =>
      have shown := isBlankText_congr same
      by_cases cut : n.outside = true ∧ isCombinator c = true ∧ ¬isBlankText read.reverse = true
      · have cut' := shown ▸ cut
        simp only [gather, if_pos cut, if_pos cut', between_eq cut.1, List.map_cons, bare, trimmed]
      · have passes := shown ▸ cut
        have further : Text.trimStart (c :: read).reverse = Text.trimStart (c :: other).reverse := by
          rw [List.reverse_cons, List.reverse_cons]
          exact Text.trimStart_append_congr same [c]
        simp only [gather, if_neg cut, if_neg passes]
        exact ih further (n.feed c) (congrArg Text.trimEnd further)

private theorem uncut_of_blank {gap : List Char} (blank : ∀ c ∈ gap, Text.isBlank c = true) {read : List Char}
    (nothing : isBlankText read.reverse = true) (n : Nesting) : Uncut EndsAt n read gap := by
  induction gap generalizing n read with
  | nil => trivial
  | cons c gap ih =>
      obtain ⟨first, later⟩ := List.forall_mem_cons.mp blank
      refine ⟨fun cut => Bool.noConfusion (nothing.symm.trans cut.2.2), ih later ?_ (n.feed c)⟩
      rw [isBlankText_iff] at nothing ⊢
      rw [List.reverse_cons, List.forall_mem_append]
      exact ⟨nothing, by simpa using first⟩

private theorem map_bare_ofSelector_blank {gap : List Char} (blank : ∀ c ∈ gap, Text.isBlank c = true)
    (rest : List Char) :
    (ofSelector (gap ++ rest)).map bare = (ofSelector rest).map bare := by
  have nothing : Text.trimStart gap = [] := List.dropWhile_eq_nil_iff.mpr blank
  have start : Text.trimStart (gap.reverse ++ []).reverse = Text.trimStart ([] : List Char).reverse := by
    rw [List.append_nil, List.reverse_reverse, nothing]
    rfl
  rw [ofSelector, gather_append (uncut_of_blank blank (by decide) {}), Nesting.feedAll_blank blank]
  exact map_bare_gather_congr start {} rest

theorem gather_passes {n : Nesting} {read : List Char} {c : Char} (passes : ¬(n.outside = true ∧ EndsAt read.reverse c))
    (rest : List Char) : gather n read (c :: rest) = gather (n.feed c) (c :: read) rest := by
  have uncut : Uncut EndsAt n read [c] := ⟨passes, trivial⟩
  exact gather_append uncut rest

theorem ofSelector_cons {c : Char} (rest : List Char) :
    ofSelector (c :: rest) = gather (({} : Nesting).feed c) [c] rest :=
  gather_passes (fun cut => absurd cut.2.2 (by decide)) rest

private theorem map_bare_ofSelector_combine {sign : Char} (visible : sign ≠ ' ') (rest : List Char) :
    (ofSelector (combine sign rest).2).map bare = (ofSelector rest).map bare := by
  obtain ⟨after, parts, -⟩ := exists_combine_of_visible visible rest
  have blank : ∀ c ∈ spaces after, Text.isBlank c = true := by
    intro c member
    rw [(List.mem_replicate.mp member).2]
    decide
  rw [← map_bare_ofSelector_blank blank, ← parts]

private theorem combine_gap {gap : List Char} (blank : ∀ c ∈ gap, Text.isBlank c = true) (rest : List Char) :
    combine ' ' (gap ++ rest) =
      if gap.all (· == ' ') then combine ' ' rest else (' ', gap.dropWhile (· == ' ') ++ rest) := by
  induction gap with
  | nil => rfl
  | cons d gap ih =>
      obtain ⟨first, later⟩ := List.forall_mem_cons.mp blank
      by_cases space : d = ' '
      · subst space
        simp [combine, ih later]
      · have plain := isCombinator_of_blank first space
        simp [combine, space, plain]

/-- Blanks behind a compound part it from the character behind them as white space should. A sign is taken for the
combinator unless other blanks follow a space in front of it; anything else starts a compound if there is a space. -/
def separates (gap : List Char) (c : Char) : Bool :=
  if isCombinator c then (gap.dropWhile (· != ' ')).all (· == ' ') else gap.contains ' '

/-- The combinator that ends a compound at blanks and the character behind them, and what is read as if it stood
alone. -/
def tail (gap : List Char) (c : Char) (rest : List Char) : Char × List Char :=
  if isCombinator c && separates gap c then (c, rest) else (' ', c :: rest)

section Gap

variable {read gap : List Char} {c : Char}

theorem ne_space_of_visible (visible : Text.isBlank c = false) : c ≠ ' ' := by
  rintro rfl
  exact absurd visible (by decide)

private theorem map_bare_gather_sign (shown : isBlankText read.reverse = false) (isSign : isCombinator c = true)
    (visible : c ≠ ' ') (rest : List Char) :
    (gather {} read (c :: rest)).map bare = ⟨Text.trim read.reverse, some c⟩ :: (ofSelector rest).map bare := by
  obtain ⟨-, -, same⟩ := exists_combine_of_visible visible rest
  rw [gather_sign rfl isSign shown, List.map_cons, map_bare_ofSelector_combine visible, same]
  rfl

theorem isBlankText_cons (shown : isBlankText read.reverse = false) (d : Char) :
    isBlankText (d :: read).reverse = false := by
  rw [List.reverse_cons]
  exact isBlankText_append shown [d]

private theorem trim_reverse_cons {d : Char} (blank : Text.isBlank d = true) (read : List Char) :
    Text.trim (d :: read).reverse = Text.trim read.reverse := by
  rw [List.reverse_cons]
  exact Text.trim_append_blank (by simpa using blank) _

private theorem gather_blank {d : Char} (blank : Text.isBlank d = true) (other : d ≠ ' ') (read rest : List Char) :
    gather {} read (d :: rest) = gather {} (d :: read) rest := by
  have plain := isCombinator_of_blank blank other
  rw [gather_passes fun cut => Bool.noConfusion (plain.symm.trans cut.2.1), Nesting.feed_blank blank]

private theorem separates_space (gap : List Char) (c : Char) :
    separates (' ' :: gap) c = if isCombinator c then gap.all (· == ' ') else true := by
  simp [separates]

theorem separates_cons_of_ne {d : Char} (other : d ≠ ' ') (gap : List Char) (c : Char) :
    separates (d :: gap) c = separates gap c := by
  simp [separates, other, Ne.symm other]

private theorem tail_cons_of_ne {d : Char} (other : d ≠ ' ') (gap : List Char) (c : Char) (rest : List Char) :
    tail (d :: gap) c rest = tail gap c rest := by
  rw [tail, tail, separates_cons_of_ne other]

private theorem map_bare_gather_space (shown : isBlankText read.reverse = false)
    (blank : ∀ d ∈ gap, Text.isBlank d = true)
    (visible : Text.isBlank c = false) (rest : List Char) :
    (gather {} read (' ' :: (gap ++ c :: rest))).map bare =
      ⟨Text.trim read.reverse, some (tail (' ' :: gap) c rest).1⟩ ::
        (ofSelector (tail (' ' :: gap) c rest).2).map bare := by
  have apart := ne_space_of_visible visible
  have start := map_bare_ofSelector_blank (fun d member => blank d ((List.dropWhile_suffix (· == ' ')).subset member))
    (c :: rest)
  rw [gather_sign rfl (by decide) shown, combine_gap blank, tail, separates_space, List.map_cons]
  cases isSign : isCombinator c <;> cases spaced : gap.all (· == ' ')
  case true.true =>
    obtain ⟨-, -, same⟩ := exists_combine_of_visible apart rest
    simp [combine, apart, isSign, same, map_bare_ofSelector_combine apart, bare]
  case false.true => simp [combine, apart, isSign, bare]
  all_goals simp [start, bare]

/-- A compound ends at blanks with a space among them, or behind which there is a sign. -/
theorem map_bare_gather_gap (shown : isBlankText read.reverse = false) (blank : ∀ d ∈ gap, Text.isBlank d = true)
    (visible : Text.isBlank c = false) (ends : isCombinator c = true ∨ ' ' ∈ gap) (rest : List Char) :
    (gather {} read (gap ++ c :: rest)).map bare =
      ⟨Text.trim read.reverse, some (tail gap c rest).1⟩ :: (ofSelector (tail gap c rest).2).map bare := by
  induction gap generalizing read with
  | nil =>
      have isSign : isCombinator c = true := ends.resolve_right (by simp)
      have whole : tail [] c rest = (c, rest) := by simp [tail, separates, isSign]
      rw [whole]
      exact map_bare_gather_sign shown isSign (ne_space_of_visible visible) rest
  | cons d gap ih =>
      obtain ⟨first, later⟩ := List.forall_mem_cons.mp blank
      by_cases space : d = ' '
      · subst space
        exact map_bare_gather_space shown later visible rest
      · rw [List.cons_append, gather_blank first space,
          ih (isBlankText_cons shown d) later (ends.imp_right fun member => by simpa [Ne.symm space] using member),
          tail_cons_of_ne space, trim_reverse_cons first]

/-- Without a space, and with no sign behind them, blanks belong to a compound that goes on. -/
theorem gather_gap_of_unspaced (blank : ∀ d ∈ gap, Text.isBlank d = true) (unspaced : ' ' ∉ gap)
    (plain : isCombinator c = false) (rest : List Char) :
    gather {} read (gap ++ c :: rest) = gather (({} : Nesting).feed c) (c :: (gap.reverse ++ read)) rest := by
  have bareGap : (gap ++ [c]).any isCombinator = false := by
    rw [List.any_append, Bool.or_eq_false_iff, List.any_eq_false]
    refine ⟨fun d member => ?_, by simp [plain]⟩
    have other : d ≠ ' ' := fun same => unspaced (same ▸ member)
    simp [isCombinator_of_blank (blank d member) other]
  have reading := gather_append (uncut_of_bare bareGap {} read) rest
  rw [Nesting.feedAll_append, Nesting.feedAll_blank blank] at reading
  simpa using reading

/-- Blanks at the end of a selector belong to no compound. A space among them is taken for a combinator. -/
theorem map_bare_gather_blank (shown : isBlankText read.reverse = false)
    (blank : ∀ d ∈ gap, Text.isBlank d = true) :
    (gather {} read gap).map bare = [⟨Text.trim read.reverse, if ' ' ∈ gap then some ' ' else none⟩] := by
  induction gap generalizing read with
  | nil =>
      have kept : (Text.trim read.reverse).isEmpty = false := shown
      simp [gather, kept, bare, Text.trim_trim]
  | cons d gap ih =>
      obtain ⟨first, later⟩ := List.forall_mem_cons.mp blank
      by_cases space : d = ' '
      · subst space
        have nothing : (ofSelector (gap.dropWhile (· == ' '))).map bare = [] := by
          have start := map_bare_ofSelector_blank
            (fun d member => later d ((List.dropWhile_suffix (· == ' ')).subset member)) []
          rwa [List.append_nil] at start
        have combined := combine_gap later []
        rw [List.append_nil, List.append_nil] at combined
        rw [gather_sign rfl (by decide) shown, combined, List.map_cons]
        split
        next => simp [combine, ofSelector, gather, Text.trim, Text.trimStart, Text.trimEnd, bare]
        next => simp [nothing, bare]
      · rw [gather_blank first space, ih (isBlankText_cons shown d) later, trim_reverse_cons first]
        simp [Ne.symm space]

theorem exists_map_bare_gather (shown : isBlankText read.reverse = false) (n : Nesting) (rest : List Char) :
    ∃ more sign others, (gather n read rest).map bare = ⟨Text.trim (read.reverse ++ more), sign⟩ :: others := by
  rcases uncut_or_cut EndsAt n read rest with uncut | ⟨before, c, after, rfl, uncut, free, isSign, -⟩
  · have reading := gather_append uncut []
    have kept : (Text.trim (rest.reverse ++ read).reverse).isEmpty = false := by
      simpa [isBlankText] using isBlankText_append shown rest
    rw [List.append_nil] at reading
    rw [reading, gather, kept]
    refine ⟨rest, none, [], ?_⟩
    rw [if_neg (by simp), List.map_singleton, bare, Text.trim_trim, List.reverse_append, List.reverse_reverse]
  · have visible : isBlankText (before.reverse ++ read).reverse = false := by
      simpa using isBlankText_append shown before
    rw [gather_append uncut, gather_sign free isSign visible]
    exact ⟨before, _, _, by rw [List.map_cons, bare, List.reverse_append, List.reverse_reverse]⟩

end Gap

end Compound

end Selector

end RemoteDom
