import Mathlib.Order.Nat
import Mathlib.Tactic.Ring
import Mathlib.Tactic.SplitIfs
import RemoteDom.Dom.Script
import RemoteDom.Proofs.Selector.CssTokens

/-! The strings in a script. To a script a text is a sequence of UTF-16 code units, and a string stands between quotes.
Behind a backslash stand a code in hexadecimal digits, the letter of a control character, the end of a line, which
counts for nothing, or any other character but a digit. A quoted text is read as what it was written for and ends at its
own quote, whatever is behind it. -/

namespace RemoteDom.Script

def units (n : Nat) : List Nat :=
  if n < 0x10000 then [n] else [0xD800 + (n - 0x10000) / 0x400, 0xDC00 + (n - 0x10000) % 0x400]

def codeUnits (text : List Char) : List Nat := text.flatMap fun c => units c.toNat

def readHex : Nat → Nat → List Char → Option (Nat × List Char)
  | 0, value, text => some (value, text)
  | _ + 1, _, [] => none
  | more + 1, value, c :: rest => (Text.hexValue? c).bind fun digit => readHex more (16 * value + digit) rest

def readBraced : Nat → List Char → Option (Nat × List Char)
  | _, [] => none
  | value, c :: rest =>
      if c = '\x7d' then if value ≤ 0x10FFFF then some (value, rest) else none
      else (Text.hexValue? c).bind fun digit => readBraced (16 * value + digit) rest

def readCode : List Char → Option (Nat × List Char)
  | '\x7b' :: '\x7d' :: _ => none
  | '\x7b' :: rest => readBraced 0 rest
  | text => readHex 4 0 text

/-- The separators of lines and of paragraphs end a line as well. -/
def endsLine (c : Char) : Bool := c ∈ ['\n', '\r', '\u2028', '\u2029']

def control? : Char → Option Nat
  | 'b' => some 8
  | 't' => some 9
  | 'n' => some 10
  | 'v' => some 11
  | 'f' => some 12
  | 'r' => some 13
  | _ => none

/-- The code units that an escape stands for, and what follows it. Given is the text behind the backslash. The octal
digits of old scripts are not read. -/
def readEscape : List Char → Option (List Nat × List Char)
  | [] => none
  | c :: rest =>
      if c = 'x' then (readHex 2 0 rest).map (Prod.map units id)
      else if c = 'u' then (readCode rest).map (Prod.map units id)
      else if c.isDigit then if c = '0' ∧ rest.head?.all (!·.isDigit) then some (units 0, rest) else none
      else
        match Text.behindLine? endsLine (c :: rest) with
        | some behind => some ([], behind)
        | none => some (units ((control? c).getD c.toNat), rest)

private theorem exists_of_map_fst {α β : Type} {change : α → β} {read : Option (α × List Char)} {value : β}
    {behind : List Char}
    (mapped : read.map (Prod.map change id) = some (value, behind)) : ∃ before, read = some (before, behind) := by
  obtain ⟨⟨before, _⟩, same, ends⟩ := Option.map_eq_some_iff.mp mapped
  obtain ⟨-, rfl⟩ := Prod.mk.inj ends
  exact ⟨before, same⟩

theorem length_readHex {more value result : Nat} {text behind : List Char}
    (read : readHex more value text = some (result, behind)) : behind.length ≤ text.length := by
  induction more generalizing value text with
  | zero => cases read; exact Nat.le_refl _
  | succ more ih =>
      cases text with
      | nil => cases read
      | cons c rest =>
          obtain ⟨digit, _, further⟩ := Option.bind_eq_some_iff.mp read
          exact (ih further).trans (Nat.le_succ _)

private theorem length_readBraced {value result : Nat} {text behind : List Char}
    (read : readBraced value text = some (result, behind)) : behind.length ≤ text.length := by
  induction text generalizing value with
  | nil => cases read
  | cons c rest ih =>
      rw [readBraced] at read
      split at read
      · split at read <;> cases read
        exact Nat.le_succ _
      · obtain ⟨digit, _, further⟩ := Option.bind_eq_some_iff.mp read
        exact (ih further).trans (Nat.le_succ _)

private theorem length_readCode {result : Nat} {text behind : List Char}
    (read : readCode text = some (result, behind)) :
    behind.length ≤ text.length := by
  unfold readCode at read
  split at read
  next => cases read
  next => exact (length_readBraced read).trans (Nat.le_succ _)
  next => exact length_readHex read

theorem length_readEscape {text behind : List Char} {value : List Nat}
    (escape : readEscape text = some (value, behind)) : behind.length < text.length := by
  cases text with
  | nil => cases escape
  | cons c rest =>
      rw [readEscape] at escape
      split at escape
      · obtain ⟨code, read⟩ := exists_of_map_fst escape
        exact Nat.lt_succ_of_le (length_readHex read)
      split at escape
      · obtain ⟨code, read⟩ := exists_of_map_fst escape
        exact Nat.lt_succ_of_le (length_readCode read)
      split at escape
      · split at escape <;> cases escape
        exact Nat.lt_succ_self _
      split at escape <;> cases escape
      next line => exact Text.length_behindLine? line
      next => exact Nat.lt_succ_self _

/-- The code units up to the quote that ends a string, and what follows the quote. Behind a backslash alone may a line
end in a string; the separators of lines and of paragraphs may stand there like any character. -/
def readString (quote : Char) (text : List Char) : Option (List Nat × List Char) :=
  match text with
  | [] => none
  | c :: rest =>
      if c = quote then some ([], rest)
      else if c = '\\' then
        match _escape : readEscape rest with
        | some (value, behind) => (readString quote behind).map (Prod.map (value ++ ·) id)
        | none => none
      else if c = '\n' ∨ c = '\r' then none
      else (readString quote rest).map (Prod.map (units c.toNat ++ ·) id)
termination_by text.length
decreasing_by
  · exact (length_readEscape _escape).trans (Nat.lt_succ_self _)
  · exact Nat.lt_succ_self _

theorem readString_quote (quote : Char) (rest : List Char) : readString quote (quote :: rest) = some ([], rest) := by
  rw [readString, if_pos rfl]

theorem readString_escape {quote : Char} (other : '\\' ≠ quote) {text behind : List Char} {value : List Nat}
    (escape : readEscape text = some (value, behind)) :
    readString quote ('\\' :: text) = (readString quote behind).map (Prod.map (value ++ ·) id) := by
  rw [readString, if_neg other, if_pos rfl]
  split
  next same => cases escape.symm.trans same; rfl
  next none => cases escape.symm.trans none

private theorem readString_plain {quote c : Char} (other : c ≠ quote) (bare : c ≠ '\\')
    (inLine : ¬ (c = '\n' ∨ c = '\r'))
    (rest : List Char) :
    readString quote (c :: rest) = (readString quote rest).map (Prod.map (units c.toNat ++ ·) id) := by
  rw [readString, if_neg other, if_neg bare, if_neg inLine]

private theorem length_readString {quote : Char} {text behind : List Char} {value : List Nat}
    (read : readString quote text = some (value, behind)) : behind.length < text.length := by
  induction text using readString.induct quote generalizing value with
  | case1 =>
      rw [readString] at read
      cases read
  | case2 rest =>
      rw [readString, if_pos rfl] at read
      cases read
      exact Nat.lt_succ_self _
  | case3 rest meant after escape other ih =>
      rw [readString_escape other escape] at read
      obtain ⟨later, further⟩ := exists_of_map_fst read
      exact (ih further).trans ((length_readEscape escape).trans (Nat.lt_succ_self _))
  | case4 rest none other =>
      rw [readString, if_neg other, if_pos rfl] at read
      split at read
      next same => cases none.symm.trans same
      next => cases read
  | case5 c rest other bare line =>
      rw [readString, if_neg other, if_neg bare, if_pos line] at read
      cases read
  | case6 c rest other bare inLine ih =>
      rw [readString_plain other bare inLine] at read
      obtain ⟨later, further⟩ := exists_of_map_fst read
      exact (ih further).trans (Nat.lt_succ_self _)

/-- Begins no string, and no comment, regular expression, template or name with escapes, which could hide one. -/
def isPlain (c : Char) : Bool := c ∉ ['"', '\x27', '/', '\x60', '\\']

/-- The strings in a script, in their order, if there is nothing in it that could hide a quote. -/
def strings (text : List Char) : Option (List (List Nat)) :=
  match text with
  | [] => some []
  | c :: rest =>
      if isPlain c then strings rest
      else if c = '"' ∨ c = '\x27' then
        match _string : readString c rest with
        | some (value, behind) => (strings behind).map (value :: ·)
        | none => none
      else none
termination_by text.length
decreasing_by
  · exact Nat.lt_succ_self _
  · exact (length_readString _string).trans (Nat.lt_succ_self _)

theorem strings_append {front : List Char} (plain : ∀ c ∈ front, isPlain c = true) (rest : List Char) :
    strings (front ++ rest) = strings rest := by
  induction front with
  | nil => rfl
  | cons c front ih =>
      obtain ⟨first, later⟩ := List.forall_mem_cons.mp plain
      rw [List.cons_append, strings, if_pos first, ih later]

private theorem strings_string {text behind : List Char} {value : List Nat}
    (string : readString '"' text = some (value, behind)) :
    strings ('"' :: text) = (strings behind).map (value :: ·) := by
  rw [strings, if_neg (by decide), if_pos (.inl rfl)]
  split
  next same => cases string.symm.trans same; rfl
  next none => cases string.symm.trans none

private theorem readHex_hexPadded (width more value n : Nat) (text : List Char) :
    readHex (width + more) value (Text.hexPadded width n ++ text) =
      readHex more (16 ^ width * value + n % 16 ^ width) text := by
  induction width generalizing more n text with
  | zero => simp [Text.hexPadded, Nat.mod_one]
  | succ width ih =>
      have last : n % 16 ^ (width + 1) = n % 16 + 16 * (n / 16 % 16 ^ width) := by
        rw [Nat.pow_succ', Nat.mod_mul]
      have digit : Text.hexValue? (Text.hexDigit (n % 16)) = some (n % 16) :=
        Text.hexValue?_hexDigit (Nat.mod_lt n (by decide))
      rw [Text.hexPadded, List.append_assoc, Nat.add_assoc, Nat.add_comm 1 more, ih, List.singleton_append, readHex,
        digit, Option.bind_some]
      congr 1
      rw [last, Nat.pow_succ]
      ring

private theorem readEscape_control {n : Nat} (low : n < 32) (rest : List Char) :
    readEscape ('u' :: (Text.hexPadded 4 n ++ rest)) = some (units n, rest) := by
  have digits : readHex 4 0 (Text.hexPadded 4 n ++ rest) = some (n, rest) := by
    rw [readHex_hexPadded 4 0 0 n rest, readHex, Nat.mul_zero, Nat.zero_add, Nat.mod_eq_of_lt (low.trans (by decide))]
  have zero : Text.hexDigit (n / 16 / 16 / 16 % 16) = '0' := by
    rw [show n / 16 / 16 / 16 % 16 = 0 by omega]
    rfl
  have starts : Text.hexPadded 4 n = '0' :: Text.hexPadded 3 n := by simp [Text.hexPadded, zero]
  have read : readCode (Text.hexPadded 4 n ++ rest) = some (n, rest) := by
    rw [starts] at digits ⊢
    exact digits
  simp [readEscape, read]

private theorem readString_escapeChar (c : Char) (rest : List Char) :
    readString '"' (Json.escapeChar c ++ rest) = (readString '"' rest).map (Prod.map (units c.toNat ++ ·) id) := by
  have escaped {text : List Char} (escape : readEscape (text ++ rest) = some (units c.toNat, rest)) :
      readString '"' ('\\' :: text ++ rest) = (readString '"' rest).map (Prod.map (units c.toNat ++ ·) id) :=
    readString_escape (by decide) escape
  unfold Json.escapeChar
  split_ifs with mark bar feed carriage tab back form control
  · subst mark; exact escaped rfl
  · subst bar; exact escaped rfl
  · subst feed; exact escaped rfl
  · subst carriage; exact escaped rfl
  · subst tab; exact escaped rfl
  · subst back; exact escaped rfl
  · subst form; exact escaped rfl
  · exact escaped (readEscape_control control rest)
  · exact readString_plain mark bar (by simp [feed, carriage]) rest

/-- A quoted text is read in full and ends at its own quote, whatever is behind it. -/
private theorem readString_escape_append (text rest : List Char) :
    readString '"' (Json.escape text ++ '"' :: rest) = some (codeUnits text, rest) := by
  induction text with
  | nil => exact readString_quote '"' rest
  | cons c text ih =>
      rw [Json.escape, List.flatMap_cons, List.append_assoc, readString_escapeChar, ← Json.escape, ih]
      rfl

/-- The first character can be told from what its units and those of others begin with: no character has the number
of half a pair. -/
private theorem units_append_inj {c d : Char} {first second : List Nat}
    (same : units c.toNat ++ first = units d.toNat ++ second) : c = d ∧ first = second := by
  have valid (e : Char) : e.toNat < 0xD800 ∨ 0xDFFF < e.toNat ∧ e.toNat < 0x110000 := e.valid
  have left := valid c
  have right := valid d
  unfold units at same
  split_ifs at same with low lower lower
  · obtain ⟨number, rest⟩ := List.cons.inj same
    exact ⟨Char.toNat_inj.mp number, rest⟩
  · obtain ⟨number, -⟩ := List.cons.inj same
    omega
  · obtain ⟨number, -⟩ := List.cons.inj same
    omega
  · obtain ⟨high, rest⟩ := List.cons.inj same
    obtain ⟨last, rest⟩ := List.cons.inj rest
    exact ⟨Char.toNat_inj.mp (by omega), rest⟩

theorem codeUnits_injective : Function.Injective codeUnits := by
  have nonempty (n : Nat) : units n ≠ [] := by
    unfold units
    split_ifs <;> simp
  intro first
  induction first with
  | nil =>
      intro second same
      cases second with
      | nil => rfl
      | cons d second => simp [codeUnits, nonempty] at same
  | cons c first ih =>
      intro second same
      cases second with
      | nil => simp [codeUnits, nonempty] at same
      | cons d second =>
          simp only [codeUnits, List.flatMap_cons] at same
          obtain ⟨rfl, rest⟩ := units_append_inj same
          rw [ih rest]

/-- A text that a script reads as one string, whatever stands behind it. -/
def IsLiteral (literal text : String) : Prop :=
  ∃ body, literal.toList = '"' :: body ∧ ∀ rest, readString '"' (body ++ rest) = some (codeUnits text.toList, rest)

theorem isLiteral_quote (text : String) : IsLiteral (Json.quote text) text := by
  refine ⟨Json.escape text.toList ++ ['"'], by simp [Json.quote], fun rest => ?_⟩
  rw [List.append_assoc]
  exact readString_escape_append text.toList rest

/-- Behind a plain text a literal is the first string of a script. -/
theorem IsLiteral.strings {literal text : String} (is : IsLiteral literal text) {front : String}
    (plain : ∀ c ∈ front.toList, isPlain c = true) (behind : String) :
    strings (front ++ literal ++ behind).toList =
      (Script.strings behind.toList).map (codeUnits text.toList :: ·) := by
  obtain ⟨body, starts, reads⟩ := is
  rw [String.toList_append, String.toList_append, starts, List.append_assoc, strings_append plain]
  exact strings_string (reads behind.toList)

end RemoteDom.Script
