/-! Quoted texts inside expressions. XPath literals have no escapes: a text with both kinds of quotes
is joined from parts. CSS strings escape their quote and the backslash. -/

namespace RemoteDom.Selector.Literal

/-- The parts of a text between its double quotes; one more than there are quotes. -/
def partsBetweenQuotes : List Char → List (List Char)
  | [] => [[]]
  | c :: rest =>
      if c = '"' then [] :: partsBetweenQuotes rest
      else
        match partsBetweenQuotes rest with
        | part :: others => (c :: part) :: others
        | [] => [[c]]

def doubleQuoted (text : List Char) : List Char := '"' :: text ++ ['"']

def joint : List Char := ", '\"', ".toList

/-- An XPath expression whose value is the text. -/
def xpath (text : List Char) : List Char :=
  if ¬ text.contains '"' then doubleQuoted text
  else if ¬ text.contains '\'' then '\'' :: text ++ ['\'']
  else
    "concat(".toList ++
      joint.intercalate ((partsBetweenQuotes text).map doubleQuoted) ++ [')']

def escapeQuoted (c : Char) : List Char :=
  if c = '\\' then ['\\', '\\'] else if c = '"' then ['\\', '"'] else [c]

/-- A CSS string whose value is the text, as far as backslashes and quotes go. -/
def cssString (text : List Char) : List Char := doubleQuoted (text.flatMap escapeQuoted)

theorem intercalate_partsBetweenQuotes (text : List Char) :
    ['"'].intercalate (partsBetweenQuotes text) = text := by
  induction text with
  | nil => rfl
  | cons c rest ih =>
      have some_part : ∃ part others, partsBetweenQuotes rest = part :: others := by
        cases rest with
        | nil => exact ⟨[], [], rfl⟩
        | cons d tail =>
            by_cases quote : d = '"'
            · exact ⟨[], partsBetweenQuotes tail, by simp [partsBetweenQuotes, quote]⟩
            · simp only [partsBetweenQuotes, quote, if_false]
              split <;> simp
      obtain ⟨part, others, parts⟩ := some_part
      rw [parts] at ih
      by_cases quote : c = '"'
      · simp [partsBetweenQuotes, quote, parts, List.intercalate]
        simpa [List.intercalate, List.intersperse] using ih
      · cases others with
        | nil =>
            simp [partsBetweenQuotes, quote, parts, List.intercalate] at ih ⊢
            exact ih
        | cons next more =>
            simp [partsBetweenQuotes, quote, parts, List.intercalate, List.intersperse] at ih ⊢
            exact ih

end RemoteDom.Selector.Literal
