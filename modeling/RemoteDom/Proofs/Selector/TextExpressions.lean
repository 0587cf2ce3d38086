import Mathlib.Data.List.TakeWhile
import Mathlib.Order.Nat
import RemoteDom.Selector.Literal

/-! Expressions of XPath that stand for a text. A literal ends at the next quote of its kind and knows no escapes, so
that a text with quotes of both kinds is joined from literals that hold one kind each. -/

namespace RemoteDom.Selector

/-- A literal, or a call that joins two literals or more. -/
inductive TextExpression where
  | literal (text : List Char)
  | concat (first second : List Char) (others : List (List Char))
deriving DecidableEq, Repr

namespace TextExpression

def value : TextExpression → List Char
  | literal text => text
  | concat first second others => first ++ second ++ others.flatten

def isSpace (c : Char) : Bool := c == ' ' || c == '\t' || c == '\r' || c == '\n'

def skipSpace (text : List Char) : List Char := text.dropWhile isSpace

def readLiteral : List Char → Option (List Char × List Char)
  | [] => none
  | quote :: text =>
      if quote = '"' ∨ quote = '\'' then
        match text.dropWhile (· ≠ quote) with
        | _ :: rest => some (text.takeWhile (· ≠ quote), rest)
        | [] => none
      else none

private theorem length_skipSpace (text : List Char) : (skipSpace text).length ≤ text.length :=
  (List.dropWhile_suffix isSpace).length_le

private theorem length_readLiteral {text literal rest : List Char} (read : readLiteral text = some (literal, rest)) :
    rest.length < text.length := by
  cases text with
  | nil => cases read
  | cons quote text =>
      simp only [readLiteral] at read
      split at read
      next =>
        split at read
        next c more behind =>
          cases read
          have shorter := (List.dropWhile_suffix (l := text) (· ≠ quote)).length_le
          rw [behind, List.length_cons] at shorter
          exact Nat.lt_succ_of_lt shorter
        next => cases read
      next => cases read

def readArguments (text : List Char) : Option (List (List Char) × List Char) :=
  match _read : readLiteral (skipSpace text) with
  | none => none
  | some (argument, behind) =>
      match _next : skipSpace behind with
      | ')' :: rest => some ([argument], rest)
      | ',' :: more => (readArguments more).map (Prod.map (argument :: ·) id)
      | _ => none
termination_by text.length
decreasing_by
  have literal := length_readLiteral _read
  have later := length_skipSpace behind
  rw [_next, List.length_cons] at later
  exact (Nat.lt_of_succ_le later).trans (literal.trans_le (length_skipSpace text))

def read (text : List Char) : Option (TextExpression × List Char) :=
  match "concat(".toList.isPrefixOf? text with
  | some arguments =>
      match readArguments arguments with
      | some (first :: second :: others, rest) => some (concat first second others, rest)
      | _ => none
  | none => (readLiteral text).map (Prod.map literal id)

/-- The expression that the text of all elements is tested for, if that is all there is. -/
def readTest (text : List Char) : Option TextExpression :=
  match "//*[contains(text(), ".toList.isPrefixOf? text with
  | some tested =>
      match read tested with
      | some (expression, [')', ']']) => some expression
      | _ => none
  | none => none

private theorem readLiteral_quoted {quote : Char} (isQuote : quote = '"' ∨ quote = '\'') {text : List Char}
    (free : quote ∉ text) (rest : List Char) : readLiteral (quote :: text ++ quote :: rest) = some (text, rest) := by
  have inside : ∀ c ∈ text, decide (c ≠ quote) = true := fun c member => by
    simpa using fun same : c = quote => free (same ▸ member)
  rw [List.cons_append, readLiteral, if_pos isQuote, List.dropWhile_append_of_pos inside,
    List.takeWhile_append_of_pos inside]
  simp

private theorem readLiteral_doubleQuoted {text : List Char} (free : '"' ∉ text) (rest : List Char) :
    readLiteral (Literal.doubleQuoted text ++ rest) = some (text, rest) := by
  rw [Literal.doubleQuoted, List.append_assoc]
  exact readLiteral_quoted (.inl rfl) free rest

private theorem readArguments_last {text literal rest : List Char}
    (argument : readLiteral text = some (literal, ')' :: rest))
    (apart : skipSpace text = text) : readArguments text = some ([literal], rest) := by
  have ends : skipSpace (')' :: rest) = ')' :: rest := rfl
  rw [readArguments, apart]
  split
  next none => cases argument.symm.trans none
  next argument' behind same =>
    cases argument.symm.trans same
    split
    next rest' same => cases ends.symm.trans same; rfl
    next more same => cases ends.symm.trans same
    next other _ => exact absurd ends (other _)

private theorem readArguments_cons {text literal more : List Char}
    (argument : readLiteral text = some (literal, ',' :: more))
    (apart : skipSpace text = text) :
    readArguments text = (readArguments more).map (Prod.map (literal :: ·) id) := by
  have comma : skipSpace (',' :: more) = ',' :: more := rfl
  rw [readArguments, apart]
  split
  next none => cases argument.symm.trans none
  next argument' behind same =>
    cases argument.symm.trans same
    split
    next rest' same => cases comma.symm.trans same
    next more' same => cases comma.symm.trans same; rfl
    next _ other => exact absurd comma (other _)

private theorem readArguments_space (text : List Char) : readArguments (' ' :: text) = readArguments text := by
  have same : skipSpace (' ' :: text) = skipSpace text := rfl
  rw [readArguments, readArguments, same]

end TextExpression

namespace Literal

private theorem partsBetweenQuotes_ne_nil (text : List Char) : partsBetweenQuotes text ≠ [] := by
  cases text with
  | nil => simp [partsBetweenQuotes]
  | cons c rest =>
      simp only [partsBetweenQuotes]
      split
      · simp
      · split <;> simp

private theorem not_mem_of_mem_partsBetweenQuotes {text part : List Char} (member : part ∈ partsBetweenQuotes text) :
    '"' ∉ part := by
  induction text generalizing part with
  | nil => simp_all [partsBetweenQuotes]
  | cons c rest ih =>
      simp only [partsBetweenQuotes] at member
      split at member
      next =>
        rcases List.mem_cons.mp member with rfl | later
        · simp
        · exact ih later
      next plain =>
        split at member
        next first others parts =>
          rcases List.mem_cons.mp member with rfl | later
          · have free := ih (parts ▸ List.mem_cons_self)
            simp [Ne.symm plain, free]
          · exact ih (parts ▸ List.mem_cons_of_mem _ later)
        next nothing => exact absurd nothing (partsBetweenQuotes_ne_nil rest)

private theorem exists_partsBetweenQuotes {text : List Char} (quote : '"' ∈ text) :
    ∃ first second others, partsBetweenQuotes text = first :: second :: others := by
  obtain ⟨first, rest, parts⟩ := List.exists_cons_of_ne_nil (partsBetweenQuotes_ne_nil text)
  cases rest with
  | cons second others => exact ⟨first, second, others, parts⟩
  | nil =>
      -- a single part would be the text, which no part is that holds a quote
      have whole := intercalate_partsBetweenQuotes text
      rw [parts, List.intercalate_singleton] at whole
      exact absurd (whole ▸ quote) (not_mem_of_mem_partsBetweenQuotes (parts ▸ List.mem_cons_self))

end Literal

namespace TextExpression

open Literal

private theorem readArguments_joint {text literal more : List Char}
    (argument : readLiteral text = some (literal, joint ++ more)) (apart : skipSpace text = text) :
    readArguments text = (readArguments more).map (Prod.map (literal :: ['"'] :: ·) id) := by
  have quote : readArguments (" '\"', ".toList ++ more) = (readArguments more).map (Prod.map (['"'] :: ·) id) := by
    rw [← readArguments_space more]
    exact (readArguments_space _).trans (readArguments_cons rfl rfl)
  have comma : joint ++ more = ',' :: (" '\"', ".toList ++ more) := rfl
  rw [readArguments_cons (argument.trans (by rw [comma])) apart, quote, Option.map_map]
  rfl

private theorem readArguments_parts {first : List Char} {others : List (List Char)}
    (free : ∀ part ∈ first :: others, '"' ∉ part) (rest : List Char) :
    readArguments (joint.intercalate ((first :: others).map doubleQuoted) ++ ')' :: rest) =
      some ((first :: others).intersperse ['"'], rest) := by
  induction others generalizing first with
  | nil =>
      rw [List.map_singleton, List.intercalate_singleton]
      exact readArguments_last (readLiteral_doubleQuoted (free first List.mem_cons_self) _) rfl
  | cons second others ih =>
      obtain ⟨bare, later⟩ := List.forall_mem_cons.mp free
      rw [List.map_cons, List.map_cons, List.intercalate_cons_cons, ← List.map_cons, List.append_assoc,
        List.append_assoc, readArguments_joint (readLiteral_doubleQuoted bare _) rfl, ih later]
      rfl

private theorem read_call {arguments first second rest : List Char} {others : List (List Char)}
    (call : readArguments arguments = some (first :: second :: others, rest)) :
    read ("concat(".toList ++ arguments) = some (concat first second others, rest) := by
  have opened : "concat(".toList.isPrefixOf? ("concat(".toList ++ arguments) = some arguments := rfl
  simp only [read, opened, call]

/-- What is written for a text is one expression, whatever follows, and its value is the text. -/
theorem exists_read_xpath (text : List Char) :
    ∃ expression, expression.value = text ∧ ∀ rest, read (Literal.xpath text ++ rest) = some (expression, rest) := by
  by_cases double : '"' ∈ text
  · by_cases single : '\'' ∈ text
    · obtain ⟨first, second, others, parts⟩ := exists_partsBetweenQuotes double
      have free : ∀ part ∈ first :: second :: others, '"' ∉ part := fun part member =>
        not_mem_of_mem_partsBetweenQuotes (parts ▸ member)
      refine ⟨concat first ['"'] ((second :: others).intersperse ['"']), ?_, fun rest => ?_⟩
      · calc (concat first ['"'] ((second :: others).intersperse ['"'])).value
            = ['"'].intercalate (first :: second :: others) := by
              simp [value, List.intercalate, List.intersperse]
          _ = text := by rw [← parts, intercalate_partsBetweenQuotes]
      · have call : Literal.xpath text ++ rest = "concat(".toList ++
            (joint.intercalate ((first :: second :: others).map doubleQuoted) ++ ')' :: rest) := by
          simp [Literal.xpath, double, single, parts]
        rw [call]
        exact read_call (readArguments_parts free rest)
    · refine ⟨literal text, rfl, fun rest => ?_⟩
      have quoted : Literal.xpath text ++ rest = '\'' :: text ++ '\'' :: rest := by
        simp [Literal.xpath, double, single]
      rw [quoted, read, readLiteral_quoted (.inr rfl) single]
      rfl
  · refine ⟨literal text, rfl, fun rest => ?_⟩
    have quoted : Literal.xpath text ++ rest = doubleQuoted text ++ rest := by
      simp [Literal.xpath, double]
    rw [quoted, read, readLiteral_doubleQuoted double]
    rfl

end TextExpression

end RemoteDom.Selector
