/-! Finding one text inside another. -/

namespace RemoteDom.Text

/-- Whether a text contains another one. -/
def occurs (needle : List Char) : List Char → Bool
  | [] => needle.isEmpty
  | c :: rest => needle.isPrefixOf (c :: rest) || occurs needle rest

def contains (text needle : String) : Bool := occurs needle.toList text.toList

/-- A text contains another exactly when it is that one between two others. -/
theorem occurs_iff {needle text : List Char} :
    occurs needle text = true ↔ ∃ before after, text = before ++ needle ++ after := by
  induction text with
  | nil =>
      simp only [occurs, List.isEmpty_iff]
      constructor
      · intro empty
        exact ⟨[], [], by simp [empty]⟩
      · rintro ⟨before, after, equal⟩
        simp only [List.nil_eq, List.append_eq_nil_iff] at equal
        exact equal.1.2
  | cons c rest ih =>
      simp only [occurs, Bool.or_eq_true, ih, List.isPrefixOf_iff_prefix]
      constructor
      · rintro (⟨after, equal⟩ | ⟨before, after, equal⟩)
        · exact ⟨[], after, by simpa using equal.symm⟩
        · exact ⟨c :: before, after, by simp [equal]⟩
      · rintro ⟨before, after, equal⟩
        cases before with
        | nil => exact .inl ⟨after, by simpa using equal.symm⟩
        | cons d before =>
            simp only [List.cons_append, List.cons.injEq] at equal
            exact .inr ⟨before, after, by simpa using equal.2⟩

end RemoteDom.Text
