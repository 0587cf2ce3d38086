import Mathlib.Tactic.Tauto
import RemoteDom.Proofs.Selector.CssTokens
import RemoteDom.Proofs.Selector.TextExpressions
import RemoteDom.Selector.Locator

/-! The expressions that locators by identifier, by class, by name and by text compile to, read by the grammars of their
dialects. Each has the value that it was compiled for in one token or call, but for names with the end of a line in
them, which no string of CSS may hold unescaped. -/

namespace RemoteDom

namespace Text

private theorem digits_of_lt {n : Nat} (small : n < 256) :
    digits 16 n = if n < 16 then [hexDigit n] else [hexDigit (n / 16), hexDigit (n % 16)] := by
  have all : ∀ m ∈ List.range 256,
      digits 16 m = if m < 16 then [hexDigit m] else [hexDigit (m / 16), hexDigit (m % 16)] := by
    decide +kernel
  exact all n (List.mem_range.mpr small)

private theorem hexValue?_eq_none {c : Char} (other : c.isAlphanum = false) : hexValue? c = none := by
  unfold Char.isAlphanum Char.isAlpha Char.isUpper Char.isLower Char.isDigit at other
  simp only [Bool.or_eq_false_iff, Bool.and_eq_false_iff, decide_eq_false_iff_not, ge_iff_le,
    UInt32.le_iff_toNat_le] at other
  change (¬(65 ≤ c.val.toNat ∧ c.val.toNat ≤ 90) ∧ (¬97 ≤ c.val.toNat ∨ ¬c.val.toNat ≤ 122)) ∧
    (¬48 ≤ c.val.toNat ∨ ¬c.val.toNat ≤ 57) at other
  have digit : ¬('0' ≤ c ∧ c ≤ '9') := by
    simp only [Char.le_def, UInt32.le_iff_toNat_le]
    change ¬(48 ≤ c.val.toNat ∧ c.val.toNat ≤ 57)
    omega
  have lower : ¬('a' ≤ c ∧ c ≤ 'f') := by
    simp only [Char.le_def, UInt32.le_iff_toNat_le]
    change ¬(97 ≤ c.val.toNat ∧ c.val.toNat ≤ 102)
    omega
  have upper : ¬('A' ≤ c ∧ c ≤ 'F') := by
    simp only [Char.le_def, UInt32.le_iff_toNat_le]
    change ¬(65 ≤ c.val.toNat ∧ c.val.toNat ≤ 70)
    omega
  rw [hexValue?, if_neg digit, if_neg lower, if_neg upper]

end Text

namespace Selector

namespace Identifier

open Css

private theorem readEscape_digits {c : Char} (some_char : c ≠ '\x00') (small : c.toNat < 256) (rest : List Char) :
    readEscape (Text.digits 16 c.toNat ++ ' ' :: rest) = some (c, rest) := by
  have same : ofCodePoint c.toNat = c := by
    have nonzero : c.toNat ≠ 0 := fun zero => some_char (Char.toNat_inj.mp zero)
    have valid : c.toNat.isValidChar := c.valid
    rw [ofCodePoint, if_neg (by simp [nonzero, valid]), Char.ofNat_toNat]
  have inLine {n : Nat} (digit : n < 16) : isNewline (Text.hexDigit n) = false := by
    have all : ∀ m ∈ List.range 16, isNewline (Text.hexDigit m) = false := by decide
    exact all n (List.mem_range.mpr digit)
  have ends (rest : List Char) : skipWhite (' ' :: rest) = rest := by
    simp [skipWhite, Text.behindLine?, isNewline, isWhite]
  have space : Text.hexValue? ' ' = none := by decide
  rw [Text.digits_of_lt small]
  split
  next one => simp [readEscape, inLine one, Text.hexValue?_hexDigit one, readHex, space, same, ends]
  next =>
    have high : c.toNat / 16 < 16 := by omega
    have low : c.toNat % 16 < 16 := by omega
    have sum : 16 * (c.toNat / 16) + c.toNat % 16 = c.toNat := Nat.div_add_mod _ _
    simp [readEscape, inLine high, Text.hexValue?_hexDigit high, Text.hexValue?_hexDigit low, readHex, space, same,
      ends, sum]

private theorem readable_of_ne {c : Char} (some_char : c ≠ '\x00') : readable c = c := if_neg some_char

private theorem isNamePart_of_isPlain {c : Char} (plain : isPlain c = true) : isNamePart c = true := by
  have some_char : c ≠ '\x00' := by
    rintro rfl
    exact absurd plain (by decide)
  simp only [isPlain, Char.isAlphanum, Bool.or_eq_true, beq_iff_eq, decide_eq_true_eq] at plain
  simp only [isNamePart, isNameStart, readable_of_ne some_char, Bool.or_eq_true, beq_iff_eq, decide_eq_true_eq]
  tauto

/-- What is neither plain nor a control character stands for itself behind a backslash. -/
private theorem readEscape_special {c : Char} (printed : ¬(c.toNat < 32 ∨ c.toNat = 127)) (special : ¬isPlain c = true)
    (rest : List Char) : readEscape (c :: rest) = some (readable c, rest) := by
  apply readEscape_of_bare
  · rw [← Bool.not_eq_true]
    intro newline
    simp only [isNewline, Bool.or_eq_true, beq_iff_eq] at newline
    rcases newline with (rfl | rfl) | rfl <;> exact printed (by decide)
  · simp only [isPlain, Bool.or_eq_true, not_or, Bool.not_eq_true] at special
    exact Text.hexValue?_eq_none special.1.1.1

private theorem toNat_of_isDigit {c : Char} (digit : c.isDigit = true) : 48 ≤ c.toNat ∧ c.toNat ≤ 57 := by
  simpa [Char.isDigit, UInt32.le_iff_toNat_le] using digit

/-- How a character may be written: as a part of a name, or as an escape that is read as the character, whatever
follows. -/
inductive Spelled (digitAllowed : Bool) (c : Char) : List Char → Prop
  | plain {d : Char} (part : isNamePart d = true) (same : readable d = readable c)
      (digit : d.isDigit = true → digitAllowed = true) (hyphen : d = '-' → c = '-') : Spelled digitAllowed c [d]
  | escaped {text : List Char} (reading : ∀ rest, readEscape (text ++ rest) = some (readable c, rest)) :
      Spelled digitAllowed c ('\\' :: text)

private theorem spelled_codePoint (digitAllowed : Bool) {c : Char} (some_char : c ≠ '\x00') (small : c.toNat < 256) :
    Spelled digitAllowed c (codePoint c) := by
  refine .escaped fun rest => ?_
  have ends := readEscape_digits some_char small rest
  rw [readable_of_ne some_char]
  rwa [List.append_cons, ← List.append_eq] at ends

private theorem spelled_escapeChar (digitAllowed : Bool) (c : Char) :
    Spelled digitAllowed c (escapeChar digitAllowed c) := by
  unfold escapeChar
  split_ifs with nothing control digit plain
  · subst nothing
    exact .plain (by decide) rfl (fun digit => absurd digit (by decide)) (fun hyphen => absurd hyphen (by decide))
  · exact spelled_codePoint _ nothing (by omega)
  · have small := toNat_of_isDigit digit.1
    exact spelled_codePoint _ nothing (by omega)
  · exact .plain (isNamePart_of_isPlain plain) rfl (fun isDigit => by simpa [isDigit] using digit) id
  · exact .escaped (readEscape_special control plain)

private theorem readName_escapeChar (digitAllowed : Bool) (c : Char) (rest : List Char) :
    readName (escapeChar digitAllowed c ++ rest) = Prod.map (readable c :: ·) id (readName rest) := by
  have spelled := spelled_escapeChar digitAllowed c
  generalize escapeChar digitAllowed c = text at spelled ⊢
  cases spelled with
  | plain part same => rw [List.singleton_append, readName_part part, same]
  | escaped reading => exact readName_escape (reading rest)

private theorem readName_flatMap (value rest : List Char) :
    readName (value.flatMap (escapeChar true) ++ rest) = Prod.map (value.map readable ++ ·) id (readName rest) := by
  induction value with
  | nil => rfl
  | cons c value ih =>
      rw [List.flatMap_cons, List.append_assoc, readName_escapeChar, ih]
      rfl

private theorem readName_escape_append (value rest : List Char) :
    readName (escape value ++ rest) = Prod.map (value.map readable ++ ·) id (readName rest) := by
  unfold escape
  split
  next => rfl
  next => exact readName_escape rfl
  next c _ => exact readName_escapeChar false c rest
  next c d others =>
    rw [List.append_assoc, List.append_assoc, readName_escapeChar, readName_escapeChar, readName_flatMap]
    rfl

private theorem startsName_of_isNameStart {c : Char} (letter : isNameStart c = true) (rest : List Char) :
    startsName (c :: rest) = true := by
  have hyphen : c ≠ '-' := by
    rintro rfl
    exact absurd letter (by decide)
  have bare : c ≠ '\\' := by
    rintro rfl
    exact absurd letter (by decide)
  rw [startsName]
  · exact letter
  all_goals simp [hyphen, bare]

private theorem isNameStart_of_isNamePart {c : Char} (part : isNamePart c = true)
    (digit : c.isDigit = true → false = true)
    (hyphen : c ≠ '-') : isNameStart c = true := by
  simpa [isNamePart, hyphen, show c.isDigit = false by simpa using digit] using part

private theorem startsName_escapeChar {c : Char} (other : c ≠ '-') (rest : List Char) :
    startsName (escapeChar false c ++ rest) = true := by
  have spelled := spelled_escapeChar false c
  generalize escapeChar false c = text at spelled ⊢
  cases spelled with
  | plain part _ digit hyphen =>
      exact startsName_of_isNameStart (isNameStart_of_isNamePart part digit fun same => other (hyphen same)) rest
  | escaped reading => simp [startsName, reading]

private theorem startsName_hyphen (c : Char) (rest : List Char) :
    startsName ('-' :: (escapeChar false c ++ rest)) = true := by
  have spelled := spelled_escapeChar false c
  generalize escapeChar false c = text at spelled ⊢
  cases spelled with
  | @plain d part _ digit _ =>
      by_cases hyphen : d = '-'
      · simp [startsName, hyphen]
      · simp [startsName, isNameStart_of_isNamePart part digit hyphen]
  | escaped reading => simp [startsName, reading]

private theorem startsName_escape {value : List Char} (some_char : value ≠ []) : startsName (escape value) = true := by
  unfold escape
  split
  next => exact absurd rfl some_char
  next => rfl
  next c other =>
    have starts := startsName_escapeChar (fun hyphen : c = '-' => other (by rw [hyphen])) []
    rwa [List.append_nil] at starts
  next c d rest =>
    by_cases hyphen : c = '-'
    · subst hyphen
      rw [List.append_assoc]
      exact startsName_hyphen d _
    · rw [List.append_assoc]
      exact startsName_escapeChar hyphen _

end Identifier

namespace Literal

open Css

/-- A quoted text is read as itself, whatever follows, unless a line ends in it: then there is no string. -/
private theorem readString_cssString (value rest : List Char) :
    readString '"' (value.flatMap escapeQuoted ++ '"' :: rest) =
      if value.any isNewline then none else some (value.map readable, rest) := by
  have behind {c : Char} (inLine : isNewline c = false) (text : List Char) :
      Text.behindLine? isNewline (c :: text) = none := by
    unfold Text.behindLine?
    split
    next same => cases same; exact absurd inLine (by decide)
    next same => cases same; simp [inLine]
    next same => cases same
  induction value with
  | nil => exact readString_quote '"' rest
  | cons c value ih =>
      rw [List.flatMap_cons, List.append_assoc, List.any_cons]
      by_cases backslash : c = '\\'
      · subst backslash
        have first : readString '"' ('\\' :: '\\' :: (value.flatMap escapeQuoted ++ '"' :: rest)) = _ :=
          readString_escape (by decide) (behind (by decide) _) (readEscape_of_bare (by decide) (by decide) _)
        refine first.trans ?_
        rw [ih]
        cases value.any isNewline <;> rfl
      by_cases quote : c = '"'
      · subst quote
        have first : readString '"' ('\\' :: '"' :: (value.flatMap escapeQuoted ++ '"' :: rest)) = _ :=
          readString_escape (by decide) (behind (by decide) _) (readEscape_of_bare (by decide) (by decide) _)
        refine first.trans ?_
        rw [ih]
        cases value.any isNewline <;> rfl
      · rw [escapeQuoted, if_neg backslash, if_neg quote, List.singleton_append]
        cases newline : isNewline c with
        | true => exact readString_newline quote newline _
        | false =>
            rw [readString_part quote backslash newline, ih]
            cases value.any isNewline <;> rfl

end Literal

end Selector

namespace Locator

open Selector

/-- The locators that compile to names, each with the sign in front of the name. -/
inductive Named : Strategy → Char → Prop
  | identifier : Named .identifier '#'
  | className : Named .className '.'

/-- The locator by identifier or by class that a whole selector stands for. -/
def ofName? : List Char → Option Locator
  | '#' :: text => (Css.wholeName? text).map fun name => ⟨.identifier, String.ofList name⟩
  | '.' :: text => (Css.wholeName? text).map fun name => ⟨.className, String.ofList name⟩
  | _ => none

private theorem expression_named {strategy : Strategy} {sign : Char} (named : Named strategy sign) (value : String) :
    (Locator.mk strategy value).expression.toList = sign :: Identifier.escape value.toList := by
  cases named <;> simp [expression]

theorem readName_escape (value : List Char) :
    Css.readName (Identifier.escape value) = (value.map Css.readable, []) := by
  have alone := Identifier.readName_escape_append value []
  simpa using alone

private theorem wholeName?_escape {value : List Char} (some_char : value ≠ []) :
    Css.wholeName? (Identifier.escape value) = some (value.map Css.readable) := by
  rw [Css.wholeName?, readName_escape]
  exact if_pos (Identifier.startsName_escape some_char)

private theorem map_readable {value : List Char} (nulFree : '\x00' ∉ value) : value.map Css.readable = value := by
  rw [List.map_congr_left (g := id)]
  · exact List.map_id value
  · rintro c member
    refine Identifier.readable_of_ne ?_
    rintro rfl
    exact nulFree member

/-- An escaped text is read as the text, up to NUL, and all of it is one name if there is anything of it. So a locator
by identifier or by class compiles to one selector for its value, and no two of them to the same. -/
theorem identifier_recovered (value : String) :
    Css.readName (Identifier.escape value.toList) = (value.toList.map Css.readable, []) ∧
      (value ≠ "" → Css.startsName (Identifier.escape value.toList) = true ∧
        ∀ strategy sign, Named strategy sign → ofName? (Locator.mk strategy value).expression.toList =
          some ⟨strategy, String.ofList (value.toList.map Css.readable)⟩) ∧
      ∀ other : String, '\x00' ∉ value.toList → '\x00' ∉ other.toList → ∀ first second sign sign',
        Named first sign → Named second sign' →
          (Locator.mk first value).expression = (Locator.mk second other).expression →
            Locator.mk first value = Locator.mk second other := by
  refine ⟨readName_escape value.toList, fun some_char => ?_, fun other nulFree nulFree' first second sign sign' => ?_⟩
  · have some_list : value.toList ≠ [] := fun empty => some_char (String.toList_eq_nil_iff.mp empty)
    refine ⟨Identifier.startsName_escape some_list, fun strategy sign named => ?_⟩
    rw [expression_named named]
    cases named <;> rw [ofName?, wholeName?_escape some_list] <;> rfl
  · intro named named' same
    have texts := congrArg String.toList same
    rw [expression_named named, expression_named named'] at texts
    obtain ⟨signs, escaped⟩ := List.cons.inj texts
    have names := congrArg (fun text => (Css.readName text).1) escaped
    simp only [readName_escape, map_readable nulFree, map_readable nulFree'] at names
    have strategies : first = second := by
      cases named <;> cases named' <;> first | rfl | exact absurd signs (by decide)
    rw [strategies, String.toList_inj.mp names]

/-- A hyphen and a digit at the start, and a space. -/
theorem identifier_recovered_space :
    "-2 x" ≠ "" ∧ '\x00' ∉ "-2 x".toList ∧ '\x00' ∉ "-2x".toList ∧
      ofName? (Locator.mk .identifier "-2 x").expression.toList = some ⟨.identifier, "-2 x"⟩ ∧
      (Locator.mk .identifier "-2 x").expression ≠ (Locator.mk .className "-2x").expression := by
  have nulFree : '\x00' ∉ "-2 x".toList := by decide
  have nulFree' : '\x00' ∉ "-2x".toList := by decide
  obtain ⟨-, whole, apart⟩ := identifier_recovered "-2 x"
  refine ⟨by decide, nulFree, nulFree', (whole (by decide)).2 _ _ .identifier, fun same => ?_⟩
  exact absurd (apart "-2x" nulFree nulFree' _ _ _ _ .identifier .className same) (by decide)

/-- A text is searched for by one test, whatever quotes are in it. Its expression is one literal, or one call that joins
literals, its value is the text, and what stands behind it is not touched. -/
theorem text_recovered (value : String) :
    ∃ expression : TextExpression, expression.value = value.toList ∧
      (∀ rest, TextExpression.read (Literal.xpath value.toList ++ rest) = some (expression, rest)) ∧
      TextExpression.readTest (Locator.mk .textContent value).expression.toList = some expression := by
  obtain ⟨expression, same, reading⟩ := TextExpression.exists_read_xpath value.toList
  refine ⟨expression, same, reading, ?_⟩
  have parts : (Locator.mk .textContent value).expression.toList =
      "//*[contains(text(), ".toList ++ (Literal.xpath value.toList ++ [')', ']']) := by
    simp [Locator.expression]
  have opened (tested : List Char) : "//*[contains(text(), ".toList.isPrefixOf?
      ("//*[contains(text(), ".toList ++ tested) = some tested := rfl
  simp only [parts, TextExpression.readTest, opened, reading]

/-- The selector of a name is read as its attribute and all of the name, up to NUL, but as nothing if a line ends in the
name. -/
private theorem readAttribute_nameAttribute (value : String) :
    Css.readAttribute (Locator.mk .nameAttribute value).expression.toList =
      if value.toList.any Css.isNewline then none else some ("name".toList, value.toList.map Css.readable) := by
  have parts : (Locator.mk .nameAttribute value).expression.toList =
      '[' :: ("name".toList ++ '=' :: '"' :: (value.toList.flatMap Literal.escapeQuoted ++ '"' :: [']'])) := by
    simp [expression, Literal.cssString, Literal.doubleQuoted]
  have letters : ∀ c ∈ "name".toList, Css.isNamePart c = true :=
    List.all_eq_true.mp (by decide : "name".toList.all Css.isNamePart = true)
  have name := Css.readName_append letters (by decide : '=' ≠ '\\') (by decide)
    ('"' :: (value.toList.flatMap Literal.escapeQuoted ++ '"' :: [']']))
  simp only [parts, Css.readAttribute, name, Literal.readString_cssString]
  cases value.toList.any Css.isNewline <;> rfl

/-- A name without NUL is recovered from its selector exactly if no line ends in it. -/
theorem name_recovered_iff {value : String} (nulFree : '\x00' ∉ value.toList) :
    Css.readAttribute (Locator.mk .nameAttribute value).expression.toList = some ("name".toList, value.toList) ↔
      ∀ c ∈ value.toList, Css.isNewline c = false := by
  rw [readAttribute_nameAttribute, map_readable nulFree]
  cases newline : value.toList.any Css.isNewline with
  | true => simpa using newline
  | false => simpa using newline

/-- Quotes and backslashes. -/
theorem name_recovered_iff_quoted :
    '\x00' ∉ "a\"b\\c".toList ∧ (∀ c ∈ "a\"b\\c".toList, Css.isNewline c = false) ∧
      Css.readAttribute (Locator.mk .nameAttribute "a\"b\\c").expression.toList =
        some ("name".toList, "a\"b\\c".toList) :=
  have nulFree : '\x00' ∉ "a\"b\\c".toList := by decide
  have all : "a\"b\\c".toList.all (!Css.isNewline ·) = true := by decide
  have inLine : ∀ c ∈ "a\"b\\c".toList, Css.isNewline c = false := fun c member => by
    simpa using List.all_eq_true.mp all c member
  ⟨nulFree, inLine, (name_recovered_iff nulFree).mpr inLine⟩

/-- A line that ends in a name is written as it is, and ends the string. -/
theorem newline_breaks_name :
    '\x00' ∉ "a\nb".toList ∧ (Locator.mk .nameAttribute "a\nb").expression = "[name=\"a\nb\"]" ∧
      Css.readAttribute (Locator.mk .nameAttribute "a\nb").expression.toList = none := by
  refine ⟨by decide, by decide, ?_⟩
  rw [readAttribute_nameAttribute]
  exact if_pos (by decide)

end Locator

end RemoteDom
