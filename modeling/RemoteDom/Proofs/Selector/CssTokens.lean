import Mathlib.Order.Nat
import RemoteDom.Selector.Identifier
import RemoteDom.Selector.Literal

/-! Names and strings as CSS reads them. Behind a backslash stand one to six hexadecimal digits, which one white space
may end, or any other character but the end of a line. A name goes on for as long as it can, a string up to its quote.
An escaped text is read as what it was written for, whatever is behind it. -/

namespace RemoteDom

/-- What follows the end of a line, by the characters that end one. A carriage return and a line feed end one
together. -/
def Text.behindLine? (ends : Char → Bool) : List Char → Option (List Char)
  | '\r' :: '\n' :: rest => some rest
  | c :: rest => if ends c then some rest else none
  | [] => none

theorem Text.length_behindLine? {ends : Char → Bool} {text rest : List Char}
    (line : behindLine? ends text = some rest) : rest.length < text.length := by
  unfold behindLine? at line
  split at line
  next => cases line; simp only [List.length_cons]; omega
  next =>
    split at line <;> cases line
    exact Nat.lt_succ_self _
  next => cases line

namespace Selector.Css

def isNewline (c : Char) : Bool := c == '\n' || c == '\r' || c == '\x0c'

def isWhite (c : Char) : Bool := c == ' ' || c == '\t' || isNewline c

/-- NUL is read as the replacement character. -/
def readable (c : Char) : Char := if c = '\x00' then '\ufffd' else c

def isNameStart (c : Char) : Bool := c.isAlpha || c == '_' || 128 ≤ (readable c).toNat

def isNamePart (c : Char) : Bool := isNameStart c || c.isDigit || c == '-'

def readHex : Nat → Nat → List Char → Nat × List Char
  | 0, value, text => (value, text)
  | _ + 1, value, [] => (value, [])
  | more + 1, value, c :: rest =>
      match Text.hexValue? c with
      | some digit => readHex more (16 * value + digit) rest
      | none => (value, c :: rest)

def skipWhite (text : List Char) : List Char :=
  match Text.behindLine? isNewline text with
  | some rest => rest
  | none =>
      match text with
      | c :: rest => if isWhite c then rest else c :: rest
      | [] => []

def ofCodePoint (n : Nat) : Char := if n = 0 ∨ ¬ n.isValidChar then '\ufffd' else Char.ofNat n

/-- The character that an escape stands for, and what follows it. Given is the text behind the backslash. -/
def readEscape : List Char → Option (Char × List Char)
  | [] => none
  | c :: rest =>
      if isNewline c then none
      else
        match Text.hexValue? c with
        | some digit =>
            let (value, behind) := readHex 5 digit rest
            some (ofCodePoint value, skipWhite behind)
        | none => some (readable c, rest)

theorem length_readHex (more value : Nat) (text : List Char) : (readHex more value text).2.length ≤ text.length := by
  induction more generalizing value text with
  | zero => exact Nat.le_refl _
  | succ more ih =>
      cases text with
      | nil => exact Nat.le_refl _
      | cons c rest =>
          simp only [readHex]
          split
          next digit _ => exact (ih _ rest).trans (Nat.le_succ _)
          next => exact Nat.le_refl _

private theorem length_skipWhite (text : List Char) : (skipWhite text).length ≤ text.length := by
  unfold skipWhite
  split
  next rest line => exact (Text.length_behindLine? line).le
  next =>
    split
    next => split <;> simp
    next => exact Nat.le_refl _

theorem length_readEscape {text behind : List Char} {c : Char} (escape : readEscape text = some (c, behind)) :
    behind.length < text.length := by
  cases text with
  | nil => cases escape
  | cons d rest =>
      simp only [readEscape] at escape
      split at escape
      next => cases escape
      next =>
        split at escape <;> cases escape
        next digit _ =>
          exact Nat.lt_succ_of_le ((length_skipWhite _).trans (length_readHex 5 digit rest))
        next => exact Nat.lt_succ_self _

/-- The name that a text starts with, with its escapes read, and what follows it. -/
def readName (text : List Char) : List Char × List Char :=
  match text with
  | [] => ([], [])
  | c :: rest =>
      if c = '\\' then
        match _escape : readEscape rest with
        | some (d, behind) => Prod.map (d :: ·) id (readName behind)
        | none => ([], c :: rest)
      else if isNamePart c then Prod.map (readable c :: ·) id (readName rest)
      else ([], c :: rest)
termination_by text.length
decreasing_by
  · exact (length_readEscape _escape).trans (Nat.lt_succ_self _)
  · exact Nat.lt_succ_self _

/-- A text starts with a name that may stand for itself: not with a digit, nor with a hyphen and a digit. -/
def startsName : List Char → Bool
  | '-' :: c :: rest => c == '-' || isNameStart c || c == '\\' && (readEscape rest).isSome
  | '\\' :: rest => (readEscape rest).isSome
  | c :: _ => isNameStart c
  | [] => false

/-- The text up to the quote that ends a string, and what follows the quote. No line may end in a string but behind a
backslash. -/
def readString (quote : Char) (text : List Char) : Option (List Char × List Char) :=
  match text with
  | [] => none
  | c :: rest =>
      if c = quote then some ([], rest)
      else if c = '\\' then
        match _line : Text.behindLine? isNewline rest, _escape : readEscape rest with
        | some behind, _ => readString quote behind
        | none, some (d, behind) => (readString quote behind).map (Prod.map (d :: ·) id)
        | none, none => none
      else if isNewline c then none
      else (readString quote rest).map (Prod.map (readable c :: ·) id)
termination_by text.length
decreasing_by
  · exact (Text.length_behindLine? _line).trans (Nat.lt_succ_self _)
  · exact (length_readEscape _escape).trans (Nat.lt_succ_self _)
  · exact Nat.lt_succ_self _

def wholeName? (text : List Char) : Option (List Char) :=
  match readName text with
  | (name, []) => if startsName text then some name else none
  | _ => none

/-- The attribute and the value of a selector with a string between double quotes, if that is all there is. -/
def readAttribute : List Char → Option (List Char × List Char)
  | '[' :: text =>
      match readName text with
      | (name, '=' :: '"' :: quoted) =>
          match readString '"' quoted with
          | some (value, [']']) => some (name, value)
          | _ => none
      | _ => none
  | _ => none

@[simp]
theorem readName_nil : readName [] = ([], []) := by
  rw [readName]

theorem readName_escape {text behind : List Char} {c : Char} (escape : readEscape text = some (c, behind)) :
    readName ('\\' :: text) = Prod.map (c :: ·) id (readName behind) := by
  rw [readName, if_pos rfl]
  split
  next d rest same => cases escape.symm.trans same; rfl
  next none => cases escape.symm.trans none

theorem readName_part {c : Char} (part : isNamePart c = true) (rest : List Char) :
    readName (c :: rest) = Prod.map (readable c :: ·) id (readName rest) := by
  have bare : c ≠ '\\' := by
    rintro rfl
    exact absurd part (by decide)
  rw [readName, if_neg bare, if_pos part]

private theorem readName_stop {c : Char} (bare : c ≠ '\\') (stop : isNamePart c = false) (rest : List Char) :
    readName (c :: rest) = ([], c :: rest) := by
  rw [readName, if_neg bare, if_neg (by simp [stop])]

theorem readName_append {name : List Char} (parts : ∀ c ∈ name, isNamePart c = true) {c : Char} (bare : c ≠ '\\')
    (stop : isNamePart c = false) (rest : List Char) :
    readName (name ++ c :: rest) = (name.map readable, c :: rest) := by
  induction name with
  | nil => exact readName_stop bare stop rest
  | cons d name ih =>
      obtain ⟨part, later⟩ := List.forall_mem_cons.mp parts
      rw [List.cons_append, readName_part part, ih later]
      rfl

theorem readString_quote (quote : Char) (rest : List Char) : readString quote (quote :: rest) = some ([], rest) := by
  rw [readString, if_pos rfl]

theorem readString_escape {quote : Char} (other : quote ≠ '\\') {text behind : List Char} {c : Char}
    (line : Text.behindLine? isNewline text = none) (escape : readEscape text = some (c, behind)) :
    readString quote ('\\' :: text) = (readString quote behind).map (Prod.map (c :: ·) id) := by
  rw [readString, if_neg other.symm, if_pos rfl]
  split
  next more same => cases line.symm.trans same
  next d rest _ same => cases escape.symm.trans same; rfl
  next none => cases escape.symm.trans none

theorem readString_newline {quote c : Char} (other : c ≠ quote) (newline : isNewline c = true) (rest : List Char) :
    readString quote (c :: rest) = none := by
  have bare : c ≠ '\\' := by
    rintro rfl
    exact absurd newline (by decide)
  rw [readString, if_neg other, if_neg bare, if_pos newline]

theorem readString_part {quote c : Char} (other : c ≠ quote) (bare : c ≠ '\\') (inLine : isNewline c = false)
    (rest : List Char) :
    readString quote (c :: rest) = (readString quote rest).map (Prod.map (readable c :: ·) id) := by
  rw [readString, if_neg other, if_neg bare, if_neg (by simp [inLine])]

theorem readEscape_of_bare {c : Char} (inLine : isNewline c = false) (bare : Text.hexValue? c = none)
    (rest : List Char) : readEscape (c :: rest) = some (readable c, rest) := by
  simp [readEscape, inLine, bare]

end Selector.Css

end RemoteDom
