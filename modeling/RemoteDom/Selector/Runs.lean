/-! Cutting a list into runs: one run ends after each marked item that is not the last of all. -/

namespace RemoteDom.Selector

/-- The runs of a list; a run ends after a marked item that something follows. -/
def runs {α : Type} (marked : α → Bool) : List α → List (List α)
  | [] => []
  | [item] => [[item]]
  | item :: rest =>
      if marked item then [item] :: runs marked rest
      else
        match runs marked rest with
        | run :: others => (item :: run) :: others
        | [] => [[item]]

theorem flatten_runs {α : Type} (marked : α → Bool) (items : List α) :
    (runs marked items).flatten = items := by
  induction items with
  | nil => rfl
  | cons item rest ih =>
      cases rest with
      | nil => rfl
      | cons next more =>
          by_cases mark : marked item
          · simp [runs, mark, ih]
          · simp only [runs, mark, Bool.false_eq_true, if_false]
            cases tail : runs marked (next :: more) with
            | nil => rw [tail] at ih; simp at ih
            | cons run others => rw [tail] at ih; simpa using ih

/-- One run more than there are marked items before the last one. -/
theorem length_runs {α : Type} (marked : α → Bool) (items : List α) (some_item : items ≠ []) :
    (runs marked items).length = items.dropLast.countP marked + 1 := by
  induction items with
  | nil => exact absurd rfl some_item
  | cons item rest ih =>
      cases rest with
      | nil => rfl
      | cons next more =>
          have inner := ih (by simp)
          by_cases mark : marked item
          · simp [runs, mark, inner, List.dropLast]
          · simp only [runs, mark, Bool.false_eq_true, if_false]
            cases tail : runs marked (next :: more) with
            | nil => rw [tail] at inner; simp at inner
            | cons run others =>
                rw [tail] at inner
                simpa [List.dropLast, mark] using inner

theorem exists_runs_cons {α : Type} (marked : α → Bool) (item : α) (rest : List α) :
    ∃ run others, runs marked (item :: rest) = (item :: run) :: others := by
  cases rest with
  | nil => exact ⟨[], [], rfl⟩
  | cons next more =>
      by_cases mark : marked item
      · exact ⟨[], runs marked (next :: more), by simp [runs, mark]⟩
      · simp only [runs, mark, Bool.false_eq_true, if_false]
        split
        · exact ⟨_, _, rfl⟩
        · exact ⟨_, _, rfl⟩

theorem runs_of_marked {α : Type} {marked : α → Bool} {item : α} (mark : marked item = true) (next : α)
    (rest : List α) : runs marked (item :: next :: rest) = [item] :: runs marked (next :: rest) := by
  simp [runs, mark]

theorem runs_of_not_marked {α : Type} {marked : α → Bool} {item next : α} {rest run : List α}
    {others : List (List α)} (plain : marked item = false)
    (cut : runs marked (next :: rest) = run :: others) :
    runs marked (item :: next :: rest) = (item :: run) :: others := by
  simp [runs, plain, cut]

theorem runs_cons {α : Type} {marked : α → Bool} (item : α) {rest : List α} (some_item : rest ≠ []) :
    runs marked (item :: rest) =
      if marked item then [item] :: runs marked rest else (runs marked rest).modifyHead (item :: ·) := by
  obtain ⟨next, more, rfl⟩ := List.exists_cons_of_ne_nil some_item
  obtain ⟨run, others, cut⟩ := exists_runs_cons marked next more
  cases mark : marked item with
  | true => exact runs_of_marked mark next more
  | false =>
      rw [runs_of_not_marked mark cut, cut]
      rfl

theorem runs_ne_nil {α : Type} (marked : α → Bool) {items : List α} (some_item : items ≠ []) :
    runs marked items ≠ [] := by
  rw [← List.length_pos_iff, length_runs marked items some_item]
  omega

theorem runs_congr {α : Type} {marked other : α → Bool} {items : List α}
    (alike : ∀ item ∈ items.dropLast, marked item = other item) : runs marked items = runs other items := by
  induction items with
  | nil => rfl
  | cons item rest ih =>
      cases rest with
      | nil => rfl
      | cons next more =>
          rw [List.dropLast_cons_cons, List.forall_mem_cons] at alike
          rw [runs_cons item (by simp), runs_cons item (by simp), alike.1, ih alike.2]

/-- The lengths of the runs tell which items before the last are marked. -/
theorem alike_of_length_runs {α : Type} {marked other : α → Bool} {items : List α}
    (same : (runs marked items).map List.length = (runs other items).map List.length) :
    ∀ item ∈ items.dropLast, marked item = other item := by
  induction items with
  | nil => simp
  | cons item rest ih =>
      cases rest with
      | nil => simp
      | cons next more =>
          obtain ⟨run, others, cut⟩ := exists_runs_cons marked next more
          obtain ⟨run', others', cut'⟩ := exists_runs_cons other next more
          rw [runs_cons item (by simp), runs_cons item (by simp), cut, cut'] at same
          rw [cut, cut'] at ih
          rw [List.dropLast_cons_cons, List.forall_mem_cons]
          cases mark : marked item <;> cases mark' : other item
          case true.true => exact ⟨rfl, ih (by simpa [mark, mark'] using same)⟩
          case false.false => exact ⟨rfl, ih (by simpa [mark, mark'] using same)⟩
          -- only behind a marked item the first run ends at once
          all_goals simp [mark, mark'] at same

theorem runs_map {α β : Type} (marked : β → Bool) (f : α → β) (items : List α) :
    runs marked (items.map f) = (runs (fun item => marked (f item)) items).map (List.map f) := by
  induction items with
  | nil => rfl
  | cons item rest ih =>
      cases rest with
      | nil => rfl
      | cons next more =>
          rw [List.map_cons, runs_cons _ (by simp), runs_cons _ (by simp), ih]
          obtain ⟨run, others, cut⟩ := exists_runs_cons (fun item => marked (f item)) next more
          rw [cut]
          split <;> simp

theorem runs_append_of_marked {α : Type} {marked : α → Bool} {last : α} (mark : marked last = true) (first : List α)
    {second : List α} (some_item : second ≠ []) :
    runs marked (first ++ last :: second) = runs marked (first ++ [last]) ++ runs marked second := by
  induction first with
  | nil =>
      obtain ⟨next, rest, rfl⟩ := List.exists_cons_of_ne_nil some_item
      exact runs_of_marked mark next rest
  | cons item first ih =>
      have some_rest : first ++ [last] ≠ [] := by simp
      obtain ⟨run, others, cut⟩ := List.exists_cons_of_ne_nil (runs_ne_nil marked some_rest)
      rw [List.cons_append, List.cons_append, runs_cons item some_rest, runs_cons item (by simp), ih, cut]
      split <;> rfl

theorem runs_append_of_plain {α : Type} {marked : α → Bool} {first second run : List α} {others : List (List α)}
    (plain : ∀ item ∈ first, marked item = false) (cut : runs marked second = run :: others) :
    runs marked (first ++ second) = (first ++ run) :: others := by
  induction first with
  | nil => exact cut
  | cons item first ih =>
      obtain ⟨bare, later⟩ := List.forall_mem_cons.mp plain
      have some_rest : first ++ second ≠ [] := by
        intro nothing
        obtain ⟨-, rfl⟩ := List.append_eq_nil_iff.mp nothing
        cases cut
      rw [List.cons_append, runs_cons item some_rest, bare, ih later]
      rfl

theorem exists_of_runs_cons_cons {α : Type} {marked : α → Bool} {items first second : List α} {others : List (List α)}
    (cut : runs marked items = first :: second :: others) :
    ∃ plain last, first = plain ++ [last] ∧ marked last = true ∧ ∀ item ∈ plain, marked item = false := by
  induction items generalizing first with
  | nil => cases cut
  | cons item rest ih =>
      cases rest with
      | nil => simp [runs] at cut
      | cons next more =>
          rw [runs_cons item (by simp)] at cut
          obtain ⟨run, behind, later⟩ := exists_runs_cons marked next more
          rw [later] at cut ih
          cases mark : marked item with
          | true =>
              rw [mark, if_pos rfl] at cut
              exact ⟨[], item, (List.cons.inj cut).1.symm, mark, by simp⟩
          | false =>
              simp only [mark, Bool.false_eq_true, if_false, List.modifyHead_cons, List.cons.injEq] at cut
              obtain ⟨rfl, rfl⟩ := cut
              obtain ⟨plain, last, ends, marks, bare⟩ := ih rfl
              exact ⟨item :: plain, last, by rw [ends]; rfl, marks, List.forall_mem_cons.mpr ⟨mark, bare⟩⟩

theorem exists_runs_around {α : Type} (marked : α → Bool) (before behind : List α) (mark : Bool) :
    ∃ earlier first second later, ∀ item, marked item = mark →
      runs marked (before ++ item :: behind) = earlier ++ (first ++ item :: second) :: later := by
  induction before with
  | nil =>
      cases behind with
      | nil => exact ⟨[], [], [], [], fun item _ => rfl⟩
      | cons next rest =>
          cases mark with
          | true => exact ⟨[], [], [], runs marked (next :: rest), fun item marks => runs_of_marked marks next rest⟩
          | false =>
              obtain ⟨run, others, cut⟩ := exists_runs_cons marked next rest
              exact ⟨[], [], next :: run, others, fun item plain => runs_of_not_marked plain cut⟩
  | cons head before ih =>
      obtain ⟨earlier, first, second, later, around⟩ := ih
      have begun (item : α) (same : marked item = mark) : runs marked (head :: before ++ item :: behind) =
          if marked head then [head] :: (earlier ++ (first ++ item :: second) :: later)
          else (earlier ++ (first ++ item :: second) :: later).modifyHead (head :: ·) := by
        rw [← around item same]
        exact runs_cons head (by simp)
      cases frame : marked head with
      | true =>
          refine ⟨[head] :: earlier, first, second, later, fun item same => ?_⟩
          rw [begun item same, frame]
          rfl
      | false =>
          cases earlier with
          | nil =>
              refine ⟨[], head :: first, second, later, fun item same => ?_⟩
              rw [begun item same, frame]
              rfl
          | cons run earlier =>
              refine ⟨(head :: run) :: earlier, first, second, later, fun item same => ?_⟩
              rw [begun item same, frame]
              rfl

theorem not_marked_of_mem_runs {α : Type} {marked : α → Bool} {items run : List α}
    (member : run ∈ runs marked items) : ∀ item ∈ run.dropLast, marked item = false := by
  induction items generalizing run with
  | nil => simp [runs] at member
  | cons item rest ih =>
      cases rest with
      | nil => simp_all [runs]
      | cons next more =>
          cases mark : marked item with
          | true =>
              rw [runs_of_marked mark, List.mem_cons] at member
              rcases member with rfl | member
              · simp
              · exact ih member
          | false =>
              obtain ⟨tail, others, cut⟩ := exists_runs_cons marked next more
              rw [runs_of_not_marked mark cut, List.mem_cons] at member
              rcases member with rfl | member
              · have later := ih (cut ▸ List.mem_cons_self)
                simpa [List.dropLast, mark] using later
              · exact ih (cut ▸ List.mem_cons_of_mem _ member)

theorem mem_dropLast_cons {α : Type} {first item : α} {rest : List α}
    (member : item ∈ (first :: rest).dropLast) : item = first ∨ item ∈ rest.dropLast := by
  cases rest with
  | nil => simp at member
  | cons next more => simpa using member

theorem length_runs_le {α : Type} {marked : α → Bool} {items : List α}
    (plain : ∀ item ∈ items.dropLast, marked item = false) : (runs marked items).length ≤ 1 := by
  by_cases empty : items = []
  · simp [empty, runs]
  · simp [length_runs marked items empty, List.countP_eq_zero.mpr (by simpa using plain)]

end RemoteDom.Selector
