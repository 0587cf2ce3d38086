import Mathlib.Data.List.Chain
import RemoteDom.Proofs.Selector.CompoundRuns

/-! The characters of a selector in its compounds. Where spaces are its only blanks, a selector is made up of the
texts of its compounds, of their combinators and of spaces around these, and the selectors it is split into are read
as its runs of compounds. -/

namespace RemoteDom.Selector.Compound

def Spaced (selector : List Char) : Prop := ∀ c ∈ selector, Text.isBlank c = true → c = ' '

instance (selector : List Char) : Decidable (Spaced selector) :=
  List.decidableBAll (fun c => Text.isBlank c = true → c = ' ') selector

/-- A text that a compound starts with is told apart from a combinator before it. -/
def Apart (sign : Char) (text : List Char) : Prop :=
  ∃ c rest, text = c :: rest ∧ c ≠ ' ' ∧ (sign ≠ ' ' ∨ isCombinator c = false)

def spaces (count : Nat) : List Char := List.replicate count ' '

/-- How compounds lie in a selector. Each text and each combinator has its own place, in the order of the compounds,
and all between them are spaces outside all nesting. Spaces at the very end may be inside. -/
inductive Laid : List Char → List Compound → Prop
  | blank (count : Nat) : Laid (spaces count) []
  | last {text : List Char} (before after : Nat) (solid : Solid text) :
      Laid (spaces before ++ text ++ spaces after) [⟨text, none⟩]
  | dangling {text : List Char} {sign : Char} (before after : Nat) (solid : Solid text)
      (free : (Nesting.feedAll {} text).outside = true) (isSign : isCombinator sign = true) :
      Laid (text ++ spaces before ++ sign :: spaces after) [⟨text, some sign⟩]
  | cons {text rest : List Char} {sign : Char} {next : Compound} {others : List Compound} (before after : Nat)
      (solid : Solid text) (free : (Nesting.feedAll {} text).outside = true) (isSign : isCombinator sign = true)
      (apart : Apart sign next.text) (laid : Laid rest (next :: others)) :
      Laid (text ++ spaces before ++ sign :: spaces after ++ rest) (⟨text, some sign⟩ :: next :: others)

private theorem eq_spaces {text : List Char} (spaced : Spaced text) (blank : ∀ c ∈ text, Text.isBlank c = true) :
    text = spaces text.length :=
  List.eq_replicate_of_mem fun c member => spaced c member (blank c member)

private theorem spaces_succ (count : Nat) : spaces (count + 1) = ' ' :: spaces count := rfl

theorem exists_combine_of_visible {sign : Char} (visible : sign ≠ ' ') (rest : List Char) :
    ∃ after, rest = spaces after ++ (combine sign rest).2 ∧ (combine sign rest).1 = sign := by
  induction rest with
  | nil => exact ⟨0, rfl, rfl⟩
  | cons c rest ih =>
      by_cases blank : c = ' '
      · obtain ⟨after, parts, same⟩ := ih
        rw [combine, if_pos blank]
        refine ⟨after + 1, ?_, same⟩
        rw [spaces_succ, List.cons_append, ← parts, blank]
      · rw [combine, if_neg blank, if_neg fun second => visible second.1]
        exact ⟨0, rfl, rfl⟩

theorem exists_combine (sign : Char) (rest : List Char) :
    ∃ before after, sign :: rest =
      spaces before ++ (combine sign rest).1 :: spaces after ++ (combine sign rest).2 := by
  by_cases visible : sign = ' '
  · subst visible
    induction rest with
    | nil => exact ⟨0, 0, rfl⟩
    | cons c rest ih =>
        by_cases blank : c = ' '
        · obtain ⟨before, after, parts⟩ := ih
          rw [combine, if_pos blank, blank]
          exact ⟨before + 1, after, by rw [parts, spaces_succ]; rfl⟩
        · by_cases second : isCombinator c = true
          · obtain ⟨after, parts, same⟩ := exists_combine_of_visible blank rest
            rw [combine, if_neg blank, if_pos ⟨rfl, second⟩, same]
            exact ⟨1, after, by rw [List.append_assoc, List.cons_append, ← parts]; rfl⟩
          · rw [combine, if_neg blank, if_neg fun both => second both.2]
            exact ⟨0, 0, rfl⟩
  · obtain ⟨after, parts, same⟩ := exists_combine_of_visible visible rest
    rw [same]
    exact ⟨0, after, by rw [List.append_assoc, List.cons_append, ← parts]; rfl⟩

private theorem ofSelector_cases (selector : List Char) :
    (∀ c ∈ selector, Text.isBlank c = true) ∧ ofSelector selector = [] ∨
      Solid selector ∧ ofSelector selector = [⟨Text.trim selector, none⟩] ∨
      ∃ text c rest, selector = text ++ c :: rest ∧ Solid text ∧ (Nesting.feedAll {} text).outside = true ∧
        isCombinator c = true ∧
        ofSelector selector = ⟨text, some (combine c rest).1⟩ :: ofSelector (combine c rest).2 := by
  rcases uncut_or_cut EndsAt {} [] selector with uncut | ⟨text, c, rest, rfl, uncut, free, isSign, visible⟩
  · cases blank : isBlankText selector with
    | false =>
        have solid : Solid selector := ⟨uncut, blank⟩
        exact .inr (.inl ⟨solid, ofSelector_solid solid⟩)
    | true =>
        have reading := gather_append uncut []
        have nothing : (Text.trim selector).isEmpty = true := blank
        refine .inl ⟨isBlankText_iff.mp blank, ?_⟩
        rw [ofSelector, ← List.append_nil selector, reading]
        simp [gather, nothing]
  · have shown : isBlankText (text.reverse ++ []).reverse = false := by simpa using visible
    refine .inr (.inr ⟨text, c, rest, rfl, ⟨uncut, by simpa using visible⟩, free, isSign, ?_⟩)
    rw [ofSelector, gather_append uncut, gather_sign free isSign shown]
    simp

private theorem Laid.exists_starts {selector : List Char} {first : Compound} {others : List Compound}
    (laid : Laid selector (first :: others)) :
    Solid first.text ∧ ∃ before more, selector = spaces before ++ first.text ++ more := by
  cases laid with
  | last before after solid => exact ⟨solid, before, spaces after, rfl⟩
  | dangling before after solid => exact ⟨solid, 0, _, List.append_assoc _ _ _⟩
  | cons before after solid => exact ⟨solid, 0, _, by simp [spaces]; rfl⟩

private theorem apart_of_laid {sign : Char} {rest : List Char} {next : Compound} {others : List Compound}
    (laid : Laid (combine sign rest).2 (next :: others)) : Apart (combine sign rest).1 next.text := by
  obtain ⟨solid, before, more, parts⟩ := laid.exists_starts
  cases before with
  | succ count =>
      have first := starts_combine sign rest _ ' ' parts
      exact absurd rfl first.1
  | zero =>
      cases text : next.text with
      | nil => exact absurd text solid.ne_nil
      | cons c others => exact ⟨c, others, rfl, starts_combine sign rest _ c (by simpa [text, spaces] using parts)⟩

private theorem eq_nil_of_laid_nil {sign : Char} {rest : List Char} (laid : Laid (combine sign rest).2 []) :
    (combine sign rest).2 = [] := by
  generalize tail : (combine sign rest).2 = following at laid
  cases laid with
  | blank count =>
      cases count with
      | zero => rfl
      | succ count =>
          have first := starts_combine sign rest _ ' ' tail
          exact absurd rfl first.1

private theorem laid_ofSelector (selector : List Char) (spaced : Spaced selector) :
    Laid selector (ofSelector selector) := by
  rcases ofSelector_cases selector with ⟨blank, reading⟩ | ⟨solid, reading⟩ |
    ⟨text, c, rest, parts, solid, free, isSign, reading⟩
  · rw [reading, eq_spaces spaced blank]
    exact .blank _
  · obtain ⟨before, after, early, late, parts⟩ := Text.eq_append_trim selector
    have start : before = spaces before.length :=
      eq_spaces (fun c member => spaced c (by rw [parts]; simp [member])) early
    have ending : after = spaces after.length :=
      eq_spaces (fun c member => spaced c (by rw [parts]; simp [member])) late
    have laid := Laid.last before.length after.length solid.trim
    rw [reading]
    rwa [← start, ← ending, ← parts] at laid
  · obtain ⟨before, after, combined⟩ := exists_combine c rest
    have sign := isCombinator_combine isSign rest
    have shorter : (combine c rest).2.length < selector.length := by
      have fewer := length_combine c rest
      rw [parts, List.length_append, List.length_cons]
      omega
    have later : Laid (combine c rest).2 (ofSelector (combine c rest).2) :=
      laid_ofSelector (combine c rest).2 fun d member => spaced d (by rw [parts, combined]; simp [member])
    rw [reading, parts, combined]
    cases others : ofSelector (combine c rest).2 with
    | nil =>
        rw [others] at later
        rw [eq_nil_of_laid_nil later]
        simpa only [List.append_assoc, List.append_nil] using Laid.dangling before after solid free sign
    | cons next more =>
        rw [others] at later
        simpa only [List.append_assoc] using Laid.cons before after solid free sign (apart_of_laid later) later
termination_by selector.length

/-- The text of the second compound is told apart from the combinator of the first. -/
def ToldApart (first next : Compound) : Prop := ∀ sign, first.combinator = some sign → Apart sign next.text

section Laid

variable {selector : List Char} {compounds : List Compound}

/-- Only at the very end of a selector a combinator has no compound behind it. -/
private theorem Laid.dangles (laid : Laid selector compounds) {last : Compound} {sign : Char}
    (final : compounds.getLast? = some last) (signed : last.combinator = some sign) :
    ∃ before after, selector = before ++ sign :: spaces after := by
  induction laid with
  | blank => cases final
  | last => cases final; cases signed
  | dangling before after => cases final; cases signed; exact ⟨_, after, rfl⟩
  | cons before after _ _ _ _ _ ih =>
      obtain ⟨more, count, parts⟩ := ih (by simpa using final)
      exact ⟨_, count, by rw [parts, ← List.append_assoc]⟩

private theorem Laid.isChain (laid : Laid selector compounds) : compounds.IsChain ToldApart := by
  induction laid with
  | blank => exact .nil
  | last | dangling => exact .singleton _
  | cons _ _ _ _ _ apart _ ih =>
      refine ih.cons_cons fun sign signed => ?_
      exact Option.some.inj signed ▸ apart

end Laid

def alone : List Compound → List Compound
  | [] => []
  | [last] => [⟨Text.trim last.text, none⟩]
  | first :: next :: rest => first :: alone (next :: rest)

/-- A run is read again in what is written for it. -/
private theorem ofSelector_renderRun {run : List Compound} (chained : Chained run) (told : run.IsChain ToldApart) :
    ofSelector (renderRun run) = alone run := by
  induction chained with
  | last solid => exact ofSelector_solid solid
  | @cons text sign next rest solid free isSign follows chained ih =>
      obtain ⟨c, more, start, visible, proper⟩ := (List.isChain_cons_cons.mp told).1 sign rfl
      obtain ⟨after, written⟩ := exists_renderRun next rest
      have later := ih (List.isChain_cons_cons.mp told).2
      rw [start, List.cons_append] at written
      rw [written] at later
      rw [renderRun_cons_cons, written, ofSelector_append solid free isSign visible,
        combine_of_visible _ visible proper, later]
      rfl

def visible (text : List Char) : List Char := text.filter (· ≠ ' ')

@[simp]
theorem visible_append (first second : List Char) : visible (first ++ second) = visible first ++ visible second :=
  List.filter_append ..

@[simp]
theorem visible_spaces (count : Nat) : visible (spaces count) = [] := by
  simp [visible, spaces]

@[simp]
theorem visible_nil : visible [] = [] := rfl

private theorem visible_cons (c : Char) (rest : List Char) : visible (c :: rest) = visible [c] ++ visible rest :=
  visible_append [c] rest

def behind (run : List Compound) : List Char := (run.getLast?.bind Compound.combinator).toList

def signed (compound : Compound) : List Char := compound.text ++ compound.combinator.toList

private theorem Laid.visible_eq {selector : List Char} {compounds : List Compound} (laid : Laid selector compounds) :
    visible selector = compounds.flatMap fun compound => visible (signed compound) := by
  induction laid with
  | blank count => exact visible_spaces count
  | last => simp [signed]
  | @dangling text sign before after => simp [signed, visible_cons sign (spaces after)]
  | @cons text rest sign next others before after _ _ _ _ _ ih =>
      rw [visible_append, ih]
      simp [signed, visible_cons sign (spaces after)]

private theorem visible_renderCombinator (combinator : Option Char) :
    visible (renderCombinator combinator) = visible combinator.toList := by
  unfold renderCombinator
  split
  · split
    next blank => rw [blank]; rfl
    next sign => simp [visible, sign]
  · rfl

private theorem visible_renderRun (run : List Compound) :
    visible (renderRun run ++ behind run) = run.flatMap fun compound => visible (signed compound) := by
  induction run with
  | nil => rfl
  | cons first rest ih =>
      cases rest with
      | nil => simp [renderRun, behind, signed]
      | cons next more =>
          have same : behind (first :: next :: more) = behind (next :: more) := by simp [behind]
          rw [renderRun_cons_cons, same, List.flatMap_cons, ← ih]
          simp [signed, visible_renderCombinator]

private theorem Chained.frame_of_mem_dropLast {marked : Compound → Bool} {compounds run : List Compound}
    (chained : Chained compounds) (member : run ∈ (runs marked compounds).dropLast) :
    ∃ frame sign, run.getLast? = some frame ∧ marked frame = true ∧ frame.combinator = some sign ∧
      isCombinator sign = true := by
  induction chained generalizing run with
  | last => simp [runs] at member
  | @cons text sign next rest solid free isSign follows chained ih =>
      obtain ⟨tail, others, cut⟩ := exists_runs_cons marked next rest
      cases mark : marked ⟨text, some sign⟩ with
      | true =>
          rw [runs_of_marked mark, cut] at member
          rcases List.mem_cons.mp member with rfl | member
          · exact ⟨_, sign, rfl, mark, rfl, isSign⟩
          · exact ih (cut ▸ member)
      | false =>
          rw [runs_of_not_marked mark cut] at member
          cases others with
          | nil => cases member
          | cons second more =>
              rcases List.mem_cons.mp member with rfl | member
              · have inner : next :: tail ∈ (runs marked (next :: rest)).dropLast := by
                  rw [cut]
                  exact List.mem_cons_self
                have ends := ih inner
                exact ends
              · exact ih (by rw [cut]; exact List.mem_cons_of_mem _ member)

private theorem getLast?_of_runs {α : Type} {marked : α → Bool} {items run : List α} {last : α}
    (final : (runs marked items).getLast? = some run) (latest : run.getLast? = some last) :
    items.getLast? = some last := by
  obtain ⟨earlier, parts⟩ := List.getLast?_eq_some_iff.mp final
  rw [← flatten_runs marked items, parts, List.flatten_append, List.flatten_singleton, List.getLast?_append, latest]
  rfl

/-- Everything of a selector is found again in the selectors that it is split into. All but spaces is kept, except
the combinators behind the runs: one behind each frame on the way, and one at the very end if there is any. -/
structure Recovered (selector : List Char) (parts : List (List Char)) : Prop where
  laid : Laid selector (ofSelector selector)
  reread : parts.map ofSelector = (runs isFrame (ofSelector selector)).map alone
  kept : visible selector =
    visible (List.zipWith (fun part run => part ++ behind run) parts (runs isFrame (ofSelector selector))).flatten
  frames : ∀ run ∈ (runs isFrame (ofSelector selector)).dropLast, ∃ frame sign, run.getLast? = some frame ∧
    isFrame frame = true ∧ frame.combinator = some sign ∧ isCombinator sign = true
  dangles : ∀ run ∈ (runs isFrame (ofSelector selector)).getLast?, ∀ sign ∈ behind run,
    ∃ before after, selector = before ++ sign :: spaces after

private theorem visible_flatMap {α : Type} (write : α → List Char) (items : List α) :
    visible (items.map write).flatten = items.flatMap fun item => visible (write item) := by
  induction items with
  | nil => rfl
  | cons item rest ih => simp [ih]

/-- Where spaces are the only blanks, a selector that is split can be recovered from its parts. -/
theorem recovered_of_split {selector : List Char} {parts : List (List Char)} (spaced : Spaced selector)
    (cut : split? selector = some parts) : Recovered selector parts := by
  have laid := laid_ofSelector selector spaced
  obtain ⟨rfl, chained⟩ := eq_of_split? cut
  constructor
  case laid => exact laid
  case reread =>
    rw [List.map_map]
    apply List.map_congr_left
    intro run member
    have inside : run <:+: ofSelector selector := by
      have among := List.infix_of_mem_flatten member
      rwa [flatten_runs] at among
    have told : run.IsChain ToldApart := List.IsChain.infix laid.isChain inside
    exact ofSelector_renderRun (chained_of_mem_runs chained member) told
  case kept =>
    rw [List.zipWith_map_left, List.zipWith_self, visible_flatMap]
    calc visible selector
        = (ofSelector selector).flatMap fun compound => visible (signed compound) := laid.visible_eq
      _ = (runs isFrame (ofSelector selector)).flatten.flatMap fun compound => visible (signed compound) := by
          rw [flatten_runs]
      _ = (runs isFrame (ofSelector selector)).flatMap fun run =>
            run.flatMap fun compound => visible (signed compound) := by
          simp only [List.flatten_eq_flatMap, List.flatMap_assoc, id]
      _ = (runs isFrame (ofSelector selector)).flatMap fun run => visible (renderRun run ++ behind run) := by
          simp only [visible_renderRun]
  case frames => exact fun run member => chained.frame_of_mem_dropLast member
  case dangles =>
    intro run final sign ends
    obtain ⟨last, latest, signed⟩ := Option.bind_eq_some_iff.mp (Option.mem_toList.mp ends)
    exact laid.dangles (getLast?_of_runs final latest) signed

/-- The frame's combinator and the last space are left out. -/
theorem recovered_of_split_frame :
    Spaced "iframe > a b ".toList ∧ split? "iframe > a b ".toList = some ["iframe".toList, "a b".toList] ∧
      Recovered "iframe > a b ".toList ["iframe".toList, "a b".toList] :=
  have spaced : Spaced "iframe > a b ".toList := by decide
  have cut : split? "iframe > a b ".toList = some ["iframe".toList, "a b".toList] := by decide
  ⟨spaced, cut, recovered_of_split spaced cut⟩

end RemoteDom.Selector.Compound
