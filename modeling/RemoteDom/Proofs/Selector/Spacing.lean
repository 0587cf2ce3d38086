import RemoteDom.Proofs.Selector.CssTokens
import RemoteDom.Proofs.Selector.Outlines
import RemoteDom.Proofs.Selector.Segments

/-! Selectors in which other white space stands for spaces. Both are split alike exactly if the blanks behind each
compound part it from what follows in both. -/

namespace RemoteDom.Selector

private theorem Css.isBlank_of_isWhite {c : Char} (white : isWhite c = true) : Text.isBlank c = true := by
  simp only [isWhite, isNewline, Bool.or_eq_true, beq_iff_eq] at white
  rcases white with (rfl | rfl) | (rfl | rfl) | rfl <;> decide

/-- A character of a selector, or a space for which other white space stands in a second one. -/
inductive Spot where
  | kept (c : Char)
  | space (other : Char) (white : Css.isWhite other = true)

namespace Spot

def first : Spot → Char
  | kept c => c
  | space _ _ => ' '

def second : Spot → Char
  | kept c => c
  | space other _ => other

/-- Nothing is replaced inside of quotes, brackets or parentheses. -/
def Free : Nesting → List Spot → Prop
  | _, [] => True
  | n, spot :: rest => (spot.second ≠ spot.first → n.outside = true) ∧ Free (n.feed spot.first) rest

instance decidableFree : (n : Nesting) → (spots : List Spot) → Decidable (Free n spots)
  | _, [] => .isTrue trivial
  | n, spot :: rest =>
      have := decidableFree (n.feed spot.first) rest
      inferInstanceAs (Decidable ((spot.second ≠ spot.first → n.outside = true) ∧ _))

private theorem isBlank_second (spot : Spot) : Text.isBlank spot.second = Text.isBlank spot.first := by
  cases spot with
  | kept c => rfl
  | space other white => exact Css.isBlank_of_isWhite white

private theorem eq_of_first_ne (spot : Spot) (other : spot.first ≠ ' ') : spot.first = spot.second := by
  cases spot with
  | kept c => rfl
  | space => exact absurd rfl other

private theorem map_second_of_unspaced {spots : List Spot} (unspaced : ' ' ∉ spots.map first) :
    spots.map second = spots.map first := by
  refine List.map_congr_left fun spot member => (spot.eq_of_first_ne fun space => ?_).symm
  exact unspaced (space ▸ List.mem_map_of_mem member)

private theorem blank_first {gap : List Spot} (blank : ∀ spot ∈ gap, Text.isBlank spot.first = true) :
    ∀ c ∈ gap.map first, Text.isBlank c = true :=
  List.forall_mem_map.mpr blank

private theorem blank_second {gap : List Spot} (blank : ∀ spot ∈ gap, Text.isBlank spot.first = true) :
    ∀ c ∈ gap.map second, Text.isBlank c = true :=
  List.forall_mem_map.mpr fun spot member => (isBlank_second spot).trans (blank spot member)

private theorem exists_gap (spots : List Spot) :
    (∀ spot ∈ spots, Text.isBlank spot.first = true) ∨
      ∃ gap c after, spots = gap ++ kept c :: after ∧ (∀ spot ∈ gap, Text.isBlank spot.first = true) ∧
        Text.isBlank c = false := by
  induction spots with
  | nil => exact .inl (by simp)
  | cons spot spots ih =>
      cases shown : Text.isBlank spot.first with
      | false =>
          match spot with
          | kept c => exact .inr ⟨[], c, spots, rfl, by simp, shown⟩
          | space _ _ => cases shown
      | true =>
          rcases ih with blank | ⟨gap, c, after, rfl, blank, visible⟩
          · exact .inl (List.forall_mem_cons.mpr ⟨shown, blank⟩)
          · exact .inr ⟨spot :: gap, c, after, rfl, List.forall_mem_cons.mpr ⟨shown, blank⟩, visible⟩

private theorem gap_unique {gap other after rest : List Spot} {c d : Char}
    (same : gap ++ kept c :: after = other ++ kept d :: rest) (blank : ∀ spot ∈ gap, Text.isBlank spot.first = true)
    (white : ∀ spot ∈ other, Text.isBlank spot.first = true)
    (visible : Text.isBlank c = false) (shown : Text.isBlank d = false) : gap = other ∧ c = d := by
  induction gap generalizing other with
  | nil =>
      cases other with
      | nil => exact ⟨rfl, kept.inj (List.cons.inj same).1⟩
      | cons spot other =>
          obtain ⟨rfl, -⟩ := List.cons.inj same
          exact absurd (List.forall_mem_cons.mp white).1 (by simp [first, visible])
  | cons spot gap ih =>
      cases other with
      | nil =>
          obtain ⟨rfl, -⟩ := List.cons.inj same
          exact absurd (List.forall_mem_cons.mp blank).1 (by simp [first, shown])
      | cons next other =>
          obtain ⟨rfl, later⟩ := List.cons.inj same
          obtain ⟨rfl, rfl⟩ := ih later (List.forall_mem_cons.mp blank).2 (List.forall_mem_cons.mp white).2
          exact ⟨rfl, rfl⟩

theorem Free.behind {n : Nesting} {front rest : List Spot} (free : Free n (front ++ rest)) :
    Free (n.feedAll (front.map first)) rest := by
  induction front generalizing n with
  | nil => exact free
  | cons spot front ih => exact ih free.2

end Spot

namespace Compound

/-- Blanks between a compound and something visible part these in both selectors or in none. -/
def PartAlike (n : Nesting) (read : List Char) (spots : List Spot) : Prop :=
  ∀ before gap c after, spots = before ++ gap ++ .kept c :: after → Within n read (before.map Spot.first) →
    (∀ spot ∈ gap, Text.isBlank spot.first = true) → Text.isBlank c = false →
    separates (gap.map Spot.first) c = separates (gap.map Spot.second) c

section Scan

variable {n : Nesting} {read : List Char}

private theorem partAlike_passes {spot : Spot} {rest : List Spot}
    (passes : ¬(n.outside = true ∧ EndsAt read.reverse spot.first)) :
    PartAlike n read (spot :: rest) ↔ PartAlike (n.feed spot.first) (spot.first :: read) rest := by
  constructor
  · intro alike before gap c after parts within
    refine alike (spot :: before) gap c after (congrArg (spot :: ·) parts) ?_
    exact (within_passes passes _).mpr within
  · intro alike before gap c after parts within blank visible
    match before, gap with
    | first :: before, gap =>
        obtain ⟨rfl, later⟩ := List.cons.inj parts
        exact alike before gap c after later ((within_passes passes _).mp within) blank visible
    | [], [] => rfl
    | [], first :: gap =>
        obtain ⟨rfl, later⟩ := List.cons.inj parts
        obtain ⟨outside, shown⟩ := visible_of_within within
        obtain ⟨white, blank⟩ := List.forall_mem_cons.mp blank
        have other : spot.first ≠ ' ' := fun space => passes ⟨outside, by rw [space]; decide, shown⟩
        have further : Within (n.feed spot.first) (spot.first :: read) [] := by
          refine within_nil ?_ (isBlankText_cons shown spot.first)
          rw [Nesting.eq_of_outside outside, Nesting.feed_blank white]
          rfl
        rw [List.map_cons, List.map_cons, ← spot.eq_of_first_ne other, separates_cons_of_ne other,
          separates_cons_of_ne other]
        exact alike [] gap c after later further blank visible

end Scan

/-- What is read as if it stood alone behind a compound that ends at blanks and the character behind them. -/
def remainder (gap : List Char) (c : Char) (after : List Spot) : List Spot :=
  if isCombinator c && separates gap c then after else .kept c :: after

section Cut

variable {read : List Char} {gap after : List Spot} {c : Char}

private theorem map_remainder {side : Spot → Char} (keeps : ∀ c, side (.kept c) = c) (gap : List Char) (c : Char)
    (after : List Spot) : (remainder gap c after).map side = (tail gap c (after.map side)).2 := by
  unfold remainder tail
  split
  next => rfl
  next => rw [List.map_cons, keeps]

private theorem remainder_append (gap : List Char) (c : Char) (front behind : List Spot) :
    remainder gap c (front ++ behind) = remainder gap c front ++ behind := by
  unfold remainder
  split <;> rfl

private theorem exists_remainder {gap : List Char} {before behind : List Spot} (some_front : before ≠ [])
    (parts : remainder gap c after = before ++ behind) :
    ∃ front, after = front ++ behind ∧ before = remainder gap c front := by
  unfold remainder at parts ⊢
  split at parts
  next taken => exact ⟨before, parts, by rw [if_pos taken]⟩
  next whole =>
    obtain ⟨spot, front, rfl⟩ := List.exists_cons_of_ne_nil some_front
    obtain ⟨rfl, later⟩ := List.cons.inj parts
    exact ⟨front, later, by rw [if_neg whole]⟩

/-- Behind the end of a compound nothing depends on what is in front of it. -/
private theorem partAlike_gap (shown : isBlankText read.reverse = false)
    (blank : ∀ spot ∈ gap, Text.isBlank spot.first = true)
    (visible : Text.isBlank c = false) (ends : isCombinator c = true ∨ ' ' ∈ gap.map Spot.first)
    (same : separates (gap.map Spot.first) c = separates (gap.map Spot.second) c) :
    PartAlike {} read (gap ++ .kept c :: after) ↔ PartAlike {} [] (remainder (gap.map Spot.first) c after) := by
  have white := Spot.blank_first blank
  have apart (more : List Spot) : Within {} read ((gap ++ .kept c :: more).map Spot.first) ↔
      Within {} [] ((remainder (gap.map Spot.first) c more).map Spot.first) := by
    rw [map_remainder fun _ => rfl, List.map_append]
    exact within_gap shown white visible ends _
  constructor
  · intro alike before inner d rest parts within
    have some_front : before ≠ [] := by
      rintro rfl
      exact absurd (visible_of_within within).2 (by decide)
    rw [List.append_assoc] at parts
    obtain ⟨front, rfl, rfl⟩ := exists_remainder some_front parts
    exact alike (gap ++ .kept c :: front) inner d rest (by simp) ((apart front).mpr within)
  · intro alike before inner d rest parts within hidden seen
    rw [List.append_assoc] at parts
    rcases List.append_eq_append_iff.mp parts with ⟨front, rfl, tail⟩ | ⟨front, rfl, tail⟩
    · match front with
      | [] =>
          -- nothing is between the first visible character and the end of these blanks
          have parts : [] ++ .kept c :: after = inner ++ .kept d :: rest := tail
          obtain ⟨rfl, -⟩ := Spot.gap_unique parts (by simp) hidden visible seen
          rfl
      | first :: front =>
          obtain ⟨rfl, rfl⟩ := List.cons.inj tail
          refine alike (remainder (gap.map Spot.first) c front) inner d rest ?_ ((apart front).mp within) hidden seen
          rw [List.append_assoc]
          exact remainder_append ..
    · -- the same blanks without some at their start, which are no spaces, as the compound goes on behind them
      obtain ⟨early, late⟩ := List.forall_mem_append.mp blank
      obtain ⟨rfl, rfl⟩ := Spot.gap_unique tail hidden late seen visible
      have unspaced := unspaced_of_within shown (Spot.blank_first early) within
      rw [List.map_append, List.map_append, Spot.map_second_of_unspaced unspaced, separates_append unspaced,
        separates_append unspaced] at same
      exact same

private theorem outline_second {n : Nesting} {spot : Spot} (free : spot.second ≠ spot.first → n.outside = true)
    (passes : ¬(n.outside = true ∧ EndsAt read.reverse spot.first))
    (text : List Char) :
    outline n read (spot.second :: text) = outline (n.feed spot.first) (spot.first :: read) text := by
  by_cases kept : spot.second = spot.first
  · rw [kept, outline_passes passes]
  obtain rfl := Nesting.eq_of_outside (free kept)
  have space : spot.first = ' ' := by
    by_contra other
    exact kept (spot.eq_of_first_ne other).symm
  have nothing : isBlankText read.reverse = true := by
    rw [← Bool.not_eq_false]
    exact fun shown => passes ⟨rfl, by rw [space]; decide, shown⟩
  have gone : Text.trimStart read.reverse = [] := isBlankText_iff_trimStart.mp nothing
  have first : Text.isBlank spot.first = true := by
    rw [space]
    decide
  have second : Text.isBlank spot.second = true := spot.isBlank_second.trans first
  have leading {c : Char} (blank : Text.isBlank c = true) : Text.trimStart (c :: read).reverse = [] := by
    rw [List.reverse_cons, Text.trimStart_append_of_blank gone]
    exact List.dropWhile_eq_nil_iff.mpr (by simpa using blank)
  rw [outline_passes fun cut => Bool.noConfusion (nothing.symm.trans cut.2.2), Nesting.feed_blank second,
    Nesting.feed_blank first, outline, outline,
    map_bare_gather_congr ((leading second).trans (leading first).symm)]

private theorem outline_gap_iff (shown : isBlankText read.reverse = false)
    (blank : ∀ spot ∈ gap, Text.isBlank spot.first = true)
    (visible : Text.isBlank c = false) (ends : isCombinator c = true ∨ ' ' ∈ gap.map Spot.first)
    (same : separates (gap.map Spot.first) c = separates (gap.map Spot.second) c) :
    outline {} read ((gap ++ .kept c :: after).map Spot.first) =
        outline {} read ((gap ++ .kept c :: after).map Spot.second) ↔
      outline {} [] ((remainder (gap.map Spot.first) c after).map Spot.first) =
        outline {} [] ((remainder (gap.map Spot.first) c after).map Spot.second) := by
  have sign (rest others : List Char) :
      (tail (gap.map Spot.first) c rest).1 = (tail (gap.map Spot.second) c others).1 := by
    rw [tail, tail, same]
    split <;> rfl
  have other : remainder (gap.map Spot.first) c after = remainder (gap.map Spot.second) c after := by
    rw [remainder, remainder, same]
  rw [List.map_append, List.map_append, List.map_cons, List.map_cons, Spot.first, Spot.second,
    outline_gap shown (Spot.blank_first blank) visible ends,
    outline_gap shown (Spot.blank_second blank) visible (separates_cases ends same), sign _ (after.map Spot.second),
    alone_cons_inj, ← map_remainder fun _ => rfl, ← map_remainder fun _ => rfl, ← other]
  rfl

private theorem outline_gap_ne (shown : isBlankText read.reverse = false)
    (blank : ∀ spot ∈ gap, Text.isBlank spot.first = true)
    (visible : Text.isBlank c = false) (other : separates (gap.map Spot.first) c ≠ separates (gap.map Spot.second) c) :
    outline {} read ((gap ++ .kept c :: after).map Spot.first) ≠
      outline {} read ((gap ++ .kept c :: after).map Spot.second) := by
  have white := Spot.blank_first blank
  have hidden := Spot.blank_second blank
  rw [List.map_append, List.map_append]
  cases parted : separates (gap.map Spot.first) c with
  | true => exact outline_ne shown white hidden visible parted (by simpa [parted] using other) _ _
  | false => exact (outline_ne shown hidden white visible (by simpa [parted] using other) parted _ _).symm

private theorem length_remainder (ends : isCombinator c = true ∨ ' ' ∈ gap.map Spot.first) (after : List Spot) :
    (remainder (gap.map Spot.first) c after).length < (gap ++ .kept c :: after).length := by
  rw [List.length_append, List.length_cons]
  unfold remainder
  split
  next => omega
  next whole =>
    match gap with
    | [] => exact absurd (ends.resolve_right (by simp)) (by simpa [separates] using whole)
    | spot :: gap =>
        simp only [List.length_cons]
        omega

private theorem ends_of_isCombinator {spot : Spot} {rest : List Spot} (isSign : isCombinator spot.first = true)
    (blank : ∀ spot ∈ gap, Text.isBlank spot.first = true) (parts : spot :: rest = gap ++ .kept c :: after) :
    isCombinator c = true ∨ ' ' ∈ gap.map Spot.first := by
  match gap with
  | [] =>
      obtain ⟨rfl, -⟩ := List.cons.inj parts
      exact .inl isSign
  | first :: gap =>
      obtain ⟨rfl, -⟩ := List.cons.inj parts
      have space : spot.first = ' ' := by
        by_contra other
        exact Bool.noConfusion (isSign.symm.trans (isCombinator_of_blank (blank spot (by simp)) other))
      exact .inr (by simp [space])

private theorem free_remainder (blank : ∀ spot ∈ gap, Text.isBlank spot.first = true)
    (free : Spot.Free {} (gap ++ .kept c :: after)) : Spot.Free {} (remainder (gap.map Spot.first) c after) := by
  have behind := free.behind
  rw [Nesting.feedAll_blank (Spot.blank_first blank)] at behind
  unfold remainder
  split
  next taken => exact feed_of_isCombinator (Bool.and_eq_true_iff.mp taken).1 ▸ behind.2
  next => exact behind

/-- Two selectors have the same compounds exactly if these are parted alike. -/
private theorem outline_eq_iff {n : Nesting} (read : List Char) {spots : List Spot} (free : Spot.Free n spots) :
    outline n read (spots.map Spot.first) = outline n read (spots.map Spot.second) ↔ PartAlike n read spots := by
  match spots with
  | [] => exact iff_of_true rfl fun before gap c after parts => by simp at parts
  | spot :: rest =>
    by_cases cut : n.outside = true ∧ EndsAt read.reverse spot.first
    · obtain ⟨outside, isSign, shown⟩ := cut
      obtain rfl := Nesting.eq_of_outside outside
      -- all depends on the blanks here and on the first visible character behind them
      rcases Spot.exists_gap (spot :: rest) with blank | ⟨gap, c, after, parts, blank, visible⟩
      · refine iff_of_true ?_ fun before gap c after parts _ _ visible => ?_
        · rw [outline_blank shown (Spot.blank_first blank), outline_blank shown (Spot.blank_second blank)]
        · exact absurd (blank (.kept c) (by simp [parts])) (by simp [Spot.first, visible])
      · have ends := ends_of_isCombinator isSign blank parts
        have shorter := length_remainder ends after
        rw [parts] at free ⊢
        by_cases same : separates (gap.map Spot.first) c = separates (gap.map Spot.second) c
        · rw [outline_gap_iff shown blank visible ends same, partAlike_gap shown blank visible ends same]
          exact outline_eq_iff [] (free_remainder blank free)
        · refine iff_of_false (outline_gap_ne shown blank visible same) fun alike => ?_
          exact same (alike [] gap c after rfl (within_nil rfl shown) blank visible)
    · rw [List.map_cons, List.map_cons, outline_passes cut, outline_second free.1 cut, partAlike_passes cut]
      exact outline_eq_iff (spot.first :: read) free.2
termination_by spots.length
decreasing_by
  · rw [parts]
    exact shorter
  · simp

end Cut

def contents (selector : String) : List (List Compound) := runs isFrame (outline {} [] selector.toList)

private theorem contents_eq_iff {first second : String} :
    contents first = contents second ↔ outline {} [] first.toList = outline {} [] second.toList := by
  refine ⟨fun same => ?_, fun same => congrArg (runs isFrame) same⟩
  rw [← flatten_runs isFrame (outline {} [] first.toList), ← flatten_runs isFrame (outline {} [] second.toList)]
  exact congrArg List.flatten same

private theorem framesEntered_eq (selector : String) :
    (Locator.css selector).framesEntered = (outline {} [] selector.toList).dropLast.countP isFrame := by
  have judged : isFrame ∘ bare = isFrame := funext isFrame_bare
  rw [outline, dropLast_alone, ← List.map_dropLast, List.countP_map, judged]
  rfl

end Compound

/-- Two selectors, of which the second has other white space in the place of some spaces of the first. -/
structure Respacing where
  spots : List Spot
  free : Spot.Free {} spots

namespace Respacing

def first (respacing : Respacing) : String := String.ofList (respacing.spots.map Spot.first)

def second (respacing : Respacing) : String := String.ofList (respacing.spots.map Spot.second)

/-- Both selectors have as many segments, made up of the same compounds. -/
structure CutAlike (respacing : Respacing) : Prop where
  counted : (Locator.css respacing.first).segments.length = (Locator.css respacing.second).segments.length
  contained : Compound.contents respacing.first = Compound.contents respacing.second

/-- Other white space leaves the segments of a selector and their compounds as they were exactly if each compound is
parted alike from what is behind it. -/
theorem cutAlike_iff (respacing : Respacing) :
    respacing.CutAlike ↔ Compound.PartAlike {} [] respacing.spots := by
  rw [← Compound.outline_eq_iff [] respacing.free]
  have compounds : Compound.contents respacing.first = Compound.contents respacing.second ↔
      Compound.outline {} [] (respacing.spots.map Spot.first) =
        Compound.outline {} [] (respacing.spots.map Spot.second) := by
    rw [Compound.contents_eq_iff, first, second, String.toList_ofList, String.toList_ofList]
  constructor
  · exact fun alike => compounds.mp alike.contained
  · intro same
    refine ⟨?_, compounds.mpr same⟩
    rw [Locator.length_segments, Locator.length_segments, Compound.framesEntered_eq, Compound.framesEntered_eq,
      Compound.contents_eq_iff.mp (compounds.mpr same)]

example : (Locator.css "iframe \t> p").segments = [.css "iframe", .css "\t> p"] := by decide

def tabbed : Respacing where
  spots := "iframe".toList.map .kept ++ [.space '\t' rfl, .kept 'p']
  free := by decide

/-- Behind a tab a frame is not entered. -/
theorem tab_hides_frame :
    tabbed.first = "iframe p" ∧ tabbed.second = "iframe\tp" ∧ ¬tabbed.CutAlike ∧
      (Locator.css "iframe p").segments = [.css "iframe", .css "p"] ∧
      (Locator.css "iframe\tp").segments = [.css "iframe\tp"] := by
  have split : (Locator.css "iframe p").segments = [.css "iframe", .css "p"] := by decide
  have whole : (Locator.css "iframe\tp").segments = [.css "iframe\tp"] := by decide
  have first : tabbed.first = "iframe p" := by decide
  have second : tabbed.second = "iframe\tp" := by decide
  refine ⟨first, second, fun alike => ?_, split, whole⟩
  have counted := alike.counted
  rw [first, second, split, whole] at counted
  exact absurd counted (by decide)

end Respacing

end RemoteDom.Selector
