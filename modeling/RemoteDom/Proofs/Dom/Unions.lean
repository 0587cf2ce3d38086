import RemoteDom.Dom.Query
import RemoteDom.Proofs.Selector.Scan

/-! Unions of expressions below a node. Of the alternatives of a union the first is made relative to the node and the
others are searched as they are written, so that an absolute one of these leaves the node's subtree. -/

namespace RemoteDom

namespace Selector.Path

def barred (others : List (List Char)) : List Char := others.flatMap fun other => '|' :: other

def union (first : List Char) (others : List (List Char)) : List Char := first ++ barred others

/-- One alternative of a union: some text without blanks around it, in which all that is opened is closed again and no
bar stands outside. -/
structure Alternative (expression : List Char) : Prop where
  some_text : expression ≠ []
  trimmed : Text.trim expression = expression
  closed : (Nesting.feedAll {} expression).outside = true
  single : Uncut (fun _ c => c = '|') {} [] expression

/-- Starts at the root of the document: behind any parentheses stands a slash. -/
def IsAbsolute (expression : List Char) : Prop := (expression.dropWhile (· == '(')).head? = some '/'

instance (expression : List Char) : Decidable (IsAbsolute expression) :=
  inferInstanceAs (Decidable (_ = _))

private theorem isAbsolute_paren {rest : List Char} : IsAbsolute ('(' :: rest) ↔ IsAbsolute rest := by
  simp [IsAbsolute]

private theorem isAbsolute_cons {c : Char} {rest : List Char}
    (visible : c ≠ '(') : IsAbsolute (c :: rest) ↔ c = '/' := by
  simp [IsAbsolute, visible]

private theorem relative_cons {c : Char} (paren : c ≠ '(') (slash : c ≠ '/') (rest : List Char) :
    relative (c :: rest) = c :: rest := by
  unfold relative
  split
  next same => exact absurd (List.cons.inj same).1 paren
  next same => exact absurd (List.cons.inj same).1 slash
  next => rfl

private theorem relative_of_not_absolute {expression : List Char} (other : ¬IsAbsolute expression) :
    relative expression = expression := by
  induction expression with
  | nil => rfl
  | cons c rest ih =>
      by_cases paren : c = '('
      · subst paren
        rw [relative, ih fun absolute => other (isAbsolute_paren.mpr absolute)]
      · exact relative_cons paren (fun slash => other ((isAbsolute_cons paren).mpr slash)) rest

private theorem length_relative (expression : List Char) :
    (relative expression).length = expression.length + if IsAbsolute expression then 1 else 0 := by
  induction expression with
  | nil => rfl
  | cons c rest ih =>
      by_cases paren : c = '('
      · subst paren
        simp only [relative, List.length_cons, ih, isAbsolute_paren]
        omega
      by_cases slash : c = '/'
      · subst slash
        simp [relative, isAbsolute_cons paren]
      · simp [relative_cons paren slash, isAbsolute_cons paren, slash]

private theorem relative_bar (first rest : List Char) :
    relative (first ++ '|' :: rest) = relative first ++ '|' :: rest := by
  induction first with
  | nil => rfl
  | cons c first ih =>
      by_cases paren : c = '('
      · subst paren
        rw [List.cons_append, relative, relative, ih, List.cons_append]
      by_cases slash : c = '/'
      · subst slash
        rfl
      · rw [List.cons_append, relative_cons paren slash, relative_cons paren slash, List.cons_append]

private theorem relative_union (first : List Char) (others : List (List Char)) :
    relative (union first others) = union (relative first) others := by
  cases others with
  | nil => simp [union, barred]
  | cons other others => exact relative_bar first (other ++ barred others)

private theorem length_barred_relative (others : List (List Char)) :
    (barred (others.map relative)).length = (barred others).length + others.countP fun other => IsAbsolute other := by
  induction others with
  | nil => rfl
  | cons other others ih =>
      simp only [barred, List.map_cons, List.flatMap_cons, List.length_append, List.length_cons, length_relative,
        List.countP_cons, decide_eq_true_eq] at ih ⊢
      omega

/-- The union of the relative forms of all alternatives is another union if one behind the first is absolute. -/
private theorem relative_union_eq_iff (first : List Char) (others : List (List Char)) :
    relative (union first others) = union (relative first) (others.map relative) ↔
      ∀ other ∈ others, ¬IsAbsolute other := by
  rw [relative_union, union, union, List.append_cancel_left_eq]
  constructor
  · intro same other member absolute
    have lengths := length_barred_relative others
    have counted : 0 < others.countP fun other => IsAbsolute other :=
      List.countP_pos_iff.mpr ⟨other, member, decide_eq_true absolute⟩
    rw [← same] at lengths
    omega
  · intro plain
    have same : others.map relative = others := by
      rw [List.map_congr_left fun other member => relative_of_not_absolute (plain other member), List.map_id']
    rw [same]

end Selector.Path

open Selector.Path

/-- Below a node a union is searched with its first alternative made relative and all others as they are written. That
is the union of all alternatives made relative exactly if none behind the first is absolute. -/
theorem Scope.union_searched_as_written (context : Context) (handle : Handle) (all : Bool) (first : List Char)
    (others : List (List Char)) :
    (Scope.node context handle).matching .xpath all (String.ofList (union first others)) =
        .callFunctionOn (Script.belowNode .xpath all) handle
          [.value (.string (String.ofList (union (relative first) others)))] false false ∧
      (relative (union first others) = union (relative first) (others.map relative) ↔
        ∀ other ∈ others, ¬IsAbsolute other) := by
  refine ⟨?_, relative_union_eq_iff first others⟩
  simp [Scope.matching, Scope.node, Locator.relativeTo, relative_union]

/-- The second alternative is searched from the root of the document. -/
theorem Scope.second_alternative_absolute :
    Alternative "//a".toList ∧ Alternative "//b".toList ∧
      relative (union "//a".toList ["//b".toList]) = ".//a|//b".toList ∧
      relative (union "//a".toList ["//b".toList]) ≠ union (relative "//a".toList) [relative "//b".toList] ∧
      ∀ context handle, (Scope.node context handle).matching .xpath false "//a|//b" =
        .callFunctionOn (Script.belowNode .xpath false) handle [.value (.string ".//a|//b")] false false :=
  ⟨⟨by decide, by decide, by decide, by decide⟩,
    ⟨by decide, by decide, by decide, by decide⟩, by decide, by decide, fun _ _ => rfl⟩

end RemoteDom
