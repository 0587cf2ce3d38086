import RemoteDom.Selector.Compound
import RemoteDom.Proofs.Selector.Scan

/-! Reading again the selectors that a selector is split into. A selector is read as a chain of compounds,
and so is what is written for a run of such a chain; read again it has no frame before its last compound. -/

namespace RemoteDom.Selector.Compound

theorem isBlankText_iff {text : List Char} :
    isBlankText text = true ↔ ∀ c ∈ text, Text.isBlank c = true := by
  rw [isBlankText, List.isEmpty_iff, Text.trim_eq_nil_iff]

theorem isBlankText_append {first : List Char} (visible : isBlankText first = false) (second : List Char) :
    isBlankText (first ++ second) = false := by
  rw [← Bool.not_eq_true, isBlankText_iff] at visible ⊢
  exact fun blank => visible fun c member => blank c (List.mem_append_left second member)

theorem feed_of_isCombinator {c : Char} (isSign : isCombinator c = true) : ({} : Nesting).feed c = {} := by
  simp only [isCombinator, Bool.or_eq_true, beq_iff_eq] at isSign
  rcases isSign with ((rfl | rfl) | rfl) | rfl <;> decide

/-- A combinator ends a compound once something visible was read. -/
def EndsAt (before : List Char) (c : Char) : Prop :=
  isCombinator c = true ∧ isBlankText before = false

theorem uncut_of_bare {rest : List Char} (bare : rest.any isCombinator = false) (n : Nesting) (read : List Char) :
    Uncut EndsAt n read rest := by
  induction rest generalizing n read with
  | nil => trivial
  | cons c rest ih =>
      obtain ⟨first, later⟩ := Bool.or_eq_false_iff.mp bare
      exact ⟨fun cut => Bool.noConfusion (first.symm.trans cut.2.1), ih later (n.feed c) (c :: read)⟩

/-- The combinator that blanks around at most one other sign make, and what follows it. -/
def combine : Char → List Char → Char × List Char
  | sign, [] => (sign, [])
  | sign, c :: rest =>
      if c = ' ' then combine sign rest
      else if sign = ' ' ∧ isCombinator c then combine c rest
      else (sign, c :: rest)

theorem length_combine (sign : Char) (rest : List Char) : (combine sign rest).2.length ≤ rest.length := by
  induction rest generalizing sign with
  | nil => simp [combine]
  | cons c rest ih =>
      simp only [combine]
      split
      · exact (ih sign).trans (by simp)
      · split
        · exact (ih c).trans (by simp)
        · simp

theorem starts_combine (sign : Char) (rest more : List Char) (c : Char)
    (starts : (combine sign rest).2 = c :: more) :
    c ≠ ' ' ∧ ((combine sign rest).1 ≠ ' ' ∨ isCombinator c = false) := by
  induction rest generalizing sign with
  | nil => simp [combine] at starts
  | cons d rest ih =>
      simp only [combine] at starts ⊢
      split at starts
      next blank => simpa [blank] using ih sign starts
      next visible =>
        split at starts
        next second => simpa [visible, second] using ih d starts
        next single =>
          simp only [List.cons.injEq] at starts
          obtain ⟨rfl, rfl⟩ := starts
          simp only [visible, single, if_false]
          refine ⟨visible, ?_⟩
          by_cases blank : sign = ' '
          · exact .inr (by simpa [blank] using single)
          · exact .inl blank

theorem isCombinator_combine {sign : Char} (isSign : isCombinator sign = true) (rest : List Char) :
    isCombinator (combine sign rest).1 = true := by
  induction rest generalizing sign with
  | nil => exact isSign
  | cons c rest ih =>
      simp only [combine]
      split
      · exact ih isSign
      · split
        next second => exact ih second.2
        next => exact isSign

theorem combine_of_visible {sign c : Char} (rest : List Char) (visible : c ≠ ' ')
    (proper : sign ≠ ' ' ∨ isCombinator c = false) : combine sign (c :: rest) = (sign, c :: rest) := by
  have single : ¬ (sign = ' ' ∧ isCombinator c = true) := by
    rintro ⟨blank, second⟩
    rcases proper with visible | other
    · exact visible blank
    · simp [second] at other
  rw [combine, if_neg visible, if_neg single]

/-- After a compound the scan goes on behind the combinator as if it had just begun. -/
theorem between_eq {n : Nesting} (free : n.outside = true) (text : List Char) (sign : Char)
    (rest : List Char) :
    between n text sign rest =
      ⟨text, some (combine sign rest).1⟩ :: ofSelector (combine sign rest).2 := by
  induction rest generalizing sign with
  | nil => simp [between, combine, ofSelector, gather, Text.trim, Text.trimStart, Text.trimEnd]
  | cons c rest ih =>
      simp only [between, combine]
      split
      · exact ih sign
      · split
        · exact ih c
        · obtain rfl := Nesting.eq_of_outside free
          simp [ofSelector, gather, isBlankText, Text.trim, Text.trimStart, Text.trimEnd]

theorem gather_append {n : Nesting} {read text : List Char} (uncut : Uncut EndsAt n read text)
    (rest : List Char) :
    gather n read (text ++ rest) = gather (n.feedAll text) (text.reverse ++ read) rest := by
  induction text generalizing n read with
  | nil => rfl
  | cons c more ih =>
      have passes : ¬ (n.outside = true ∧ isCombinator c = true ∧ ¬ isBlankText read.reverse = true) :=
        fun cut => uncut.1 ⟨cut.1, cut.2.1, by simpa using cut.2.2⟩
      simp only [List.cons_append, gather, if_neg passes, ih uncut.2]
      simp

theorem gather_sign {n : Nesting} {read : List Char} {c : Char} (free : n.outside = true)
    (isSign : isCombinator c = true) (visible : isBlankText read.reverse = false) (rest : List Char) :
    gather n read (c :: rest) =
      ⟨read.reverse, some (combine c rest).1⟩ :: ofSelector (combine c rest).2 := by
  simp only [gather, free, isSign, visible, Bool.false_eq_true, not_false_eq_true, and_self, if_true]
  exact between_eq free _ _ _

/-- A text that is read as one compound. -/
structure Solid (text : List Char) : Prop where
  uncut : Uncut EndsAt {} [] text
  visible : isBlankText text = false

theorem Solid.ne_nil {text : List Char} (solid : Solid text) : text ≠ [] := by
  rintro rfl
  exact absurd solid.visible (by decide)

theorem ofSelector_solid {text : List Char} (solid : Solid text) :
    ofSelector text = [⟨Text.trim text, none⟩] := by
  have reading := gather_append solid.uncut []
  have kept : (Text.trim text).isEmpty = false := solid.visible
  rw [List.append_nil, List.append_nil] at reading
  rw [ofSelector, reading]
  simp [gather, kept]

theorem ofSelector_sign {text : List Char} {sign : Char} (solid : Solid text)
    (free : (Nesting.feedAll {} text).outside = true) (isSign : isCombinator sign = true) (rest : List Char) :
    ofSelector (text ++ sign :: rest) = ⟨text, some (combine sign rest).1⟩ :: ofSelector (combine sign rest).2 := by
  have visible : isBlankText (text.reverse ++ []).reverse = false := by simpa using solid.visible
  rw [ofSelector, gather_append solid.uncut, gather_sign free isSign visible]
  simp

theorem length_ofSelector_le {text : List Char} (uncut : Uncut EndsAt {} [] text) :
    (ofSelector text).length ≤ 1 := by
  have reading := gather_append uncut []
  rw [List.append_nil, List.append_nil] at reading
  rw [ofSelector, reading]
  simp only [gather]
  split <;> simp

theorem Solid.trim {text : List Char} (solid : Solid text) : Solid (Text.trim text) := by
  obtain ⟨before, after, white, -, parts⟩ := Text.eq_append_trim text
  have untouched : ({} : Nesting).feedAll before = {} := by
    clear parts
    induction before with
    | nil => rfl
    | cons c rest ih =>
        rw [Nesting.feedAll_cons, Nesting.feed_blank (white c List.mem_cons_self)]
        exact ih fun d member => white d (List.mem_cons_of_mem c member)
  constructor
  · have uncut := solid.uncut
    rw [parts, List.append_assoc, uncut_append, untouched, uncut_append] at uncut
    apply uncut.2.1.reread
    rintro more c ⟨isSign, visible⟩
    refine ⟨isSign, ?_⟩
    rw [← Bool.not_eq_true, isBlankText_iff] at visible ⊢
    exact fun blank => visible fun d member => blank d (by simp [show d ∈ more from by simpa using member])
  · have visible := solid.visible
    rw [isBlankText, ← Bool.not_eq_true, List.isEmpty_iff] at visible
    rw [← Bool.not_eq_true, isBlankText_iff]
    intro blank
    cases kept : Text.trim text with
    | nil => exact visible kept
    | cons c rest =>
        have white := blank c (by simp [kept])
        simp [Text.not_blank_of_trim kept] at white

/-- What may stand behind a combinator. The text of a compound without a combinator was trimmed, so it may
start with a sign that stood behind other blanks than spaces. -/
def Follows (sign : Char) (next : Compound) : Prop :=
  ∃ c rest, next.text = c :: rest ∧ c ≠ ' ' ∧
    (next.combinator = none ∨ sign ≠ ' ' ∨ isCombinator c = false)

/-- Compounds as they stand in a selector. Only the last may be without a combinator. -/
inductive Chained : List Compound → Prop
  | last {text : List Char} {combinator : Option Char} (solid : Solid text) :
      Chained [⟨text, combinator⟩]
  | cons {text : List Char} {sign : Char} {next : Compound} {rest : List Compound}
      (solid : Solid text) (free : (Nesting.feedAll {} text).outside = true)
      (isSign : isCombinator sign = true) (follows : Follows sign next)
      (chained : Chained (next :: rest)) : Chained (⟨text, some sign⟩ :: next :: rest)

theorem Chained.tail {first next : Compound} {rest : List Compound}
    (chained : Chained (first :: next :: rest)) : Chained (next :: rest) := by
  cases chained with
  | cons _ _ _ _ chained => exact chained

private theorem Chained.head_solid {first : Compound} {rest : List Compound} (chained : Chained (first :: rest)) :
    Solid first.text := by
  cases chained with
  | last solid => exact solid
  | cons solid _ _ _ _ => exact solid

/-- A compound that a scan finds is the start of what it has before it, or, if it is the last, all of that
but the blanks around. -/
def Starts (first : Compound) (whole : List Char) : Prop :=
  (∃ more, whole = first.text ++ more) ∨ first.combinator = none ∧ first.text = Text.trim whole

private theorem follows_of_starts {sign : Char} {rest : List Char} {next : Compound}
    (starts : Starts next (combine sign rest).2) (solid : Solid next.text) :
    Follows (combine sign rest).1 next := by
  cases text : next.text with
  | nil => exact absurd text solid.ne_nil
  | cons c more =>
      refine ⟨c, more, text, ?_⟩
      rcases starts with ⟨after, parts⟩ | ⟨unsigned, trimmed⟩
      · have first := starts_combine sign rest (more ++ after) c (by simpa [text] using parts)
        exact ⟨first.1, .inr first.2⟩
      · have visible := Text.not_blank_of_trim (trimmed.symm.trans text)
        refine ⟨?_, .inl unsigned⟩
        rintro rfl
        exact absurd visible (by decide)

private theorem chained_gather (n : Nesting) (read rest : List Char) (uncut : Uncut EndsAt {} [] read.reverse)
    (nesting : n = Nesting.feedAll {} read.reverse) :
    gather n read rest = [] ∨
      ∃ first others, gather n read rest = first :: others ∧ Chained (first :: others) ∧
        Starts first (read.reverse ++ rest) := by
  match rest with
  | [] =>
      by_cases visible : isBlankText read.reverse = true
      · exact .inl (by simpa [gather, isBlankText] using visible)
      · rw [Bool.not_eq_true] at visible
        have solid : Solid read.reverse := ⟨uncut, visible⟩
        have kept : (Text.trim read.reverse).isEmpty = false := visible
        refine .inr ⟨⟨Text.trim read.reverse, none⟩, [], by simp [gather, kept], ?_, .inr ⟨rfl, by simp⟩⟩
        exact .last solid.trim
  | c :: rest =>
      by_cases cut : n.outside = true ∧ EndsAt read.reverse c
      · obtain ⟨free, isSign, visible⟩ := cut
        have shorter := length_combine c rest
        rw [gather_sign free isSign visible]
        refine .inr ⟨_, _, rfl, ?_, .inl ⟨c :: rest, rfl⟩⟩
        rcases chained_gather {} [] (combine c rest).2 trivial rfl with
          nothing | ⟨next, others, reading, chained, starts⟩
        · rw [ofSelector, nothing]
          exact .last ⟨uncut, visible⟩
        · rw [ofSelector, reading]
          exact .cons ⟨uncut, visible⟩ (nesting ▸ free) (isCombinator_combine isSign rest)
            (follows_of_starts starts chained.head_solid) chained
      · have passes : ¬ (n.outside = true ∧ isCombinator c = true ∧ ¬ isBlankText read.reverse = true) :=
          fun ends => cut ⟨ends.1, ends.2.1, by simpa using ends.2.2⟩
        have reading : gather n read (c :: rest) = gather (n.feed c) (c :: read) rest := by
          simp only [gather, if_neg passes]
        have further : Uncut EndsAt {} [] (c :: read).reverse := by
          rw [List.reverse_cons, uncut_append]
          exact ⟨uncut, by simpa [← nesting] using cut, trivial⟩
        rw [reading]
        simpa using chained_gather (n.feed c) (c :: read) rest further (by simp [nesting])
termination_by rest.length
decreasing_by
  · simp_wf
    omega
  · simp_wf

private theorem chained_ofSelector (selector : List Char) :
    ofSelector selector = [] ∨ Chained (ofSelector selector) := by
  rcases chained_gather {} [] selector trivial rfl with nothing | ⟨first, others, reading, chained, -⟩
  · exact .inl nothing
  · exact .inr (by rw [ofSelector, reading]; exact chained)

theorem chained_of_mem_runs {marked : Compound → Bool} {compounds run : List Compound}
    (chained : Chained compounds) (member : run ∈ runs marked compounds) : Chained run := by
  induction chained generalizing run with
  | last solid => exact List.mem_singleton.mp member ▸ .last solid
  | @cons text sign next rest solid free isSign follows chained ih =>
      cases mark : marked ⟨text, some sign⟩ with
      | true =>
          rw [runs_of_marked mark, List.mem_cons] at member
          rcases member with rfl | member
          · exact .last solid
          · exact ih member
      | false =>
          obtain ⟨tail, others, cut⟩ := exists_runs_cons marked next rest
          rw [runs_of_not_marked mark cut, List.mem_cons] at member
          rcases member with rfl | member
          · exact .cons solid free isSign follows (ih (cut ▸ List.mem_cons_self))
          · exact ih (cut ▸ List.mem_cons_of_mem _ member)

/-- What is written between two compounds is read as their combinator, with a sign that the second starts
with if the combinator is a blank. -/
theorem ofSelector_append {text rest : List Char} {sign c : Char} (solid : Solid text)
    (free : (Nesting.feedAll {} text).outside = true) (isSign : isCombinator sign = true)
    (visible : c ≠ ' ') :
    ofSelector (text ++ renderCombinator (some sign) ++ c :: rest) =
      ⟨text, some (combine sign (c :: rest)).1⟩ :: ofSelector (combine sign (c :: rest)).2 := by
  have shown : isBlankText (text.reverse ++ []).reverse = false := by simpa using solid.visible
  have blank : isCombinator ' ' = true := by decide
  rw [ofSelector, List.append_assoc, gather_append solid.uncut]
  by_cases space : sign = ' '
  · subst space
    rw [renderCombinator, if_pos rfl, List.singleton_append, gather_sign free blank shown]
    simp [combine]
  · rw [renderCombinator, if_neg space, List.cons_append, gather_sign free blank shown]
    simp [combine, space, isSign, visible]

theorem renderRun_cons_cons (first next : Compound) (rest : List Compound) :
    renderRun (first :: next :: rest) =
      first.text ++ renderCombinator first.combinator ++ renderRun (next :: rest) := rfl

theorem renderRun_cons (first : Compound) {rest : List Compound} (some_rest : rest ≠ []) :
    renderRun (first :: rest) = first.text ++ renderCombinator first.combinator ++ renderRun rest := by
  obtain ⟨next, more, rfl⟩ := List.exists_cons_of_ne_nil some_rest
  rfl

theorem exists_renderCombinator (sign : Option Char) : ∃ more, renderCombinator sign = ' ' :: more := by
  unfold renderCombinator
  split
  · split <;> exact ⟨_, rfl⟩
  · exact ⟨_, rfl⟩

theorem renderRun_append (first : List Compound) (text : List Char) (sign : Option Char) {second : List Compound}
    (some_second : second ≠ []) :
    renderRun (first ++ ⟨text, sign⟩ :: second) =
      renderRun (first ++ [⟨text, none⟩]) ++ (renderCombinator sign ++ renderRun second) := by
  induction first with
  | nil =>
      rw [List.nil_append, renderRun_cons _ some_second]
      simp [renderRun]
  | cons head first ih =>
      rw [List.cons_append, List.cons_append, renderRun_cons head (by simp), renderRun_cons head (by simp), ih]
      simp only [List.append_assoc]

theorem exists_renderRun (first : Compound) (others : List Compound) :
    ∃ more, renderRun (first :: others) = first.text ++ more := by
  cases others with
  | nil => exact ⟨[], by simp [renderRun]⟩
  | cons next rest => exact ⟨_, by rw [renderRun_cons_cons, List.append_assoc]⟩

private theorem length_ofSelector_combine {sign : Char} {rest : List Char} (solid : Solid (sign :: rest))
    (isSign : isCombinator sign = true) (visible : sign ≠ ' ') :
    (ofSelector (combine sign rest).2).length ≤ 1 := by
  have shown : isBlankText [sign] = false := by
    simp only [isCombinator, Bool.or_eq_true, beq_iff_eq] at isSign
    rcases isSign with ((rfl | rfl) | rfl) | rfl
    · exact absurd rfl visible
    all_goals decide
  have uncut : Uncut EndsAt {} [sign] rest := feed_of_isCombinator isSign ▸ solid.uncut.2
  cases rest with
  | nil => exact length_ofSelector_le trivial
  | cons c more =>
      have apart : c ≠ ' ' := by
        rintro rfl
        exact uncut.1 ⟨rfl, rfl, shown⟩
      rw [combine_of_visible more apart (.inl visible)]
      apply length_ofSelector_le
      apply uncut.reread
      rintro before d ⟨ends, seen⟩
      refine ⟨ends, ?_⟩
      rw [← Bool.not_eq_true, isBlankText_iff] at seen ⊢
      exact fun blank => seen fun e member => blank e (by simp [show e ∈ before from by simpa using member])

/-- Read again, what is written for a chain has no frame before its last compound, if the chain has none. -/
private theorem not_isFrame_of_renderRun {run : List Compound} (chained : Chained run)
    (plain : ∀ compound ∈ run.dropLast, isFrame compound = false) :
    ∀ compound ∈ (ofSelector (renderRun run)).dropLast, isFrame compound = false := by
  induction chained with
  | last solid => simp [renderRun, ofSelector_solid solid]
  | @cons text sign next rest solid free isSign follows chained ih =>
      have first : isFrame ⟨text, some sign⟩ = false := plain _ (by simp [List.dropLast])
      have later := ih fun compound member => plain compound (by simp [List.dropLast, member])
      obtain ⟨c, more, start, visible, proper⟩ := follows
      obtain ⟨after, written⟩ := exists_renderRun next rest
      rw [start, List.cons_append] at written
      intro compound member
      rw [renderRun_cons_cons, written, ofSelector_append solid free isSign visible] at member
      rcases mem_dropLast_cons member with rfl | member
      · exact first
      by_cases follows : sign ≠ ' ' ∨ isCombinator c = false
      · rw [combine_of_visible _ visible follows, ← written] at member
        exact later compound member
      · -- Only a trimmed text starts so: the last one, of which its sign is taken away.
        simp only [not_or, ne_eq, Decidable.not_not, Bool.not_eq_false] at follows
        obtain ⟨rfl, second⟩ := follows
        cases chained with
        | cons _ _ _ _ _ => simp [second] at proper
        | @last text' combinator solid' =>
          have short : (ofSelector (combine c more).2).length ≤ 1 :=
            length_ofSelector_combine (by simpa [← start] using solid') second visible
          obtain rfl : after = [] := by simpa [renderRun, show text' = c :: more from start] using written
          rw [combine, if_neg visible, if_pos ⟨rfl, second⟩, List.append_nil] at member
          exact absurd (List.length_pos_of_mem member) (by rw [List.length_dropLast]; omega)

theorem eq_of_split? {selector : List Char} {parts : List (List Char)} (cut : split? selector = some parts) :
    parts = (runs isFrame (ofSelector selector)).map renderRun ∧ Chained (ofSelector selector) := by
  unfold split? at cut
  split at cut
  next first second others found =>
    refine ⟨by rw [found, ← Option.some.inj cut], ?_⟩
    rcases chained_ofSelector selector with nothing | chained
    · simp [nothing, runs] at found
    · exact chained
  next => cases cut

/-- What a selector is split into is not split again. -/
theorem split?_of_mem_split? {selector part : List Char} {parts : List (List Char)}
    (cut : split? selector = some parts) (member : part ∈ parts) : split? part = none := by
  obtain ⟨rfl, chained⟩ := eq_of_split? cut
  obtain ⟨run, inside, rfl⟩ := List.mem_map.mp member
  have links := chained_of_mem_runs chained inside
  have short := length_runs_le (not_isFrame_of_renderRun links (not_marked_of_mem_runs inside))
  unfold split?
  split
  next first second others found => simp [found] at short
  next => rfl

end RemoteDom.Selector.Compound
