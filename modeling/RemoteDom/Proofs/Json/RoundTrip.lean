import Mathlib.Order.Nat
import Mathlib.Tactic.SplitIfs
import RemoteDom.Json.Reader
import RemoteDom.Json.Writer

/-! Values read from the texts that they are written as. Texts of integers end where no digit, point or exponent
follows, quoted texts at their own quote, and the rest follows by induction. -/

namespace RemoteDom.Json

open Reader

namespace Decimal

/-- Nothing that would belong to a number follows. -/
def Ends (rest : List Char) : Prop := ∀ c ∈ rest.head?, isDigit c = false ∧ c ≠ '.' ∧ c ≠ 'e' ∧ c ≠ 'E'

private theorem isDigit_of_mem_toDigits {n : Nat} {c : Char} (member : c ∈ Nat.toDigits 10 n) : isDigit c = true := by
  have digit := Nat.isDigit_of_mem_toDigits (by decide) (by decide) member
  simpa [isDigit, Char.isDigit, Char.le_def] using digit

private theorem gatherWhole_of_fits {digits : List Char} {start : Nat}
    (fits : Nat.ofDigitChars 10 digits start < 18446744073709551616) :
    gatherWhole digits ⟨start, 0⟩ = ⟨Nat.ofDigitChars 10 digits start, 0⟩ := by
  induction digits generalizing start with
  | nil => rfl
  | cons c digits ih =>
      rw [Nat.ofDigitChars_cons] at fits ⊢
      have first : start * 10 + digitValue c = 10 * start + (c.toNat - '0'.toNat) := by
        rw [Nat.mul_comm]; rfl
      have small : 10 * start + (c.toNat - '0'.toNat) < 18446744073709551616 := by
        refine Nat.lt_of_le_of_lt ?_ fits
        rw [Nat.ofDigitChars_eq_ofDigitChars_zero]
        exact (Nat.le_mul_of_pos_left _ (Nat.pow_pos (by decide))).trans (Nat.le_add_right _ _)
      rw [gatherWhole, Decimal.fits, first, if_pos (by simpa using small)]
      exact ih fits

private theorem head?_toDigits {n : Nat} (positive : 0 < n) : (Nat.toDigits 10 n).head? ≠ some '0' := by
  induction n using Nat.strongRecOn with
  | ind n ih =>
      by_cases small : n < 10
      · have single : ∀ m ∈ List.range 10, 0 < m → m.digitChar ≠ '0' := by decide
        rw [Nat.toDigits_of_lt_base small]
        simpa using single n (List.mem_range.mpr small) positive
      · have large := Nat.not_lt.mp small
        have earlier := ih (n / 10) (Nat.div_lt_self positive (by decide)) (Nat.div_pos large (by decide))
        rw [Nat.toDigits_of_base_le (by decide) large]
        cases digits : Nat.toDigits 10 (n / 10) with
        | nil => exact absurd digits Nat.toDigits_ne_nil
        | cons c more =>
            rw [digits] at earlier
            exact earlier

private theorem toDigits_ne_zero_cons (n : Nat) (c : Char) (more : List Char) :
    Nat.toDigits 10 n ≠ '0' :: c :: more := by
  intro same
  rcases Nat.eq_zero_or_pos n with rfl | positive
  · cases same
  · exact head?_toDigits positive (by rw [same]; rfl)

private theorem readTail_of_ends {rest : List Char} (ends : Ends rest) {n : Nat} (fits : n < 18446744073709551616)
    (negative : Bool) (range : negative = true → 0 < n ∧ n ≤ 9223372036854775808) :
    readTail (Nat.toDigits 10 n) negative rest = some (.integer (if negative then -n else n), rest) := by
  have gathered : gatherWhole (Nat.toDigits 10 n) ⟨0, 0⟩ = ⟨n, 0⟩ := by
    rw [gatherWhole_of_fits, Nat.ofDigitChars_ten_toDigits]
    rwa [Nat.ofDigitChars_ten_toDigits]
  unfold readTail
  rw [gathered]
  split
  next => exact absurd rfl (ends _ rfl).2.1
  next => exact absurd rfl (ends _ rfl).2.2.1
  next => exact absurd rfl (ends _ rfl).2.2.2
  next =>
    cases negative with
    | false => rfl
    | true =>
        obtain ⟨positive, least⟩ := range rfl
        have kept : ¬ (n = 0 ∨ 1 <<< 63 < n) := by
          rw [show (1 <<< 63 : Nat) = 9223372036854775808 by rfl]
          omega
        rw [if_pos rfl, if_pos rfl, if_neg kept]
        rfl

private theorem takeWhile_digits {rest : List Char} (ends : Ends rest) (n : Nat) :
    (Nat.toDigits 10 n ++ rest).takeWhile isDigit = Nat.toDigits 10 n ∧
      (Nat.toDigits 10 n ++ rest).dropWhile isDigit = rest := by
  rw [List.takeWhile_append_of_pos fun _ => isDigit_of_mem_toDigits,
    List.dropWhile_append_of_pos fun _ => isDigit_of_mem_toDigits]
  cases rest with
  | nil => simp
  | cons c rest => simp [(ends c rfl).1]

private theorem digits_append_ne (n : Nat) (rest : List Char) {c : Char} (other : isDigit c = false)
    (more : List Char) :
    Nat.toDigits 10 n ++ rest ≠ c :: more := by
  intro same
  cases digits : Nat.toDigits 10 n with
  | nil => exact absurd digits Nat.toDigits_ne_nil
  | cons d digits' =>
      have digit : isDigit d = true := isDigit_of_mem_toDigits (digits ▸ List.mem_cons_self)
      rw [digits] at same
      obtain ⟨rfl, -⟩ := List.cons.inj same
      exact absurd (other.symm.trans digit) (by decide)

/-- The integers that are kept as such. -/
def Kept (n : Int) : Prop := -9223372036854775808 ≤ n ∧ n < 18446744073709551616

private theorem read_digits {rest : List Char} (ends : Ends rest) (n : Nat) (negative : Bool) :
    read ((if negative then ['-'] else []) ++ (Nat.toDigits 10 n ++ rest)) =
      readTail (Nat.toDigits 10 n) negative rest := by
  obtain ⟨taken, left⟩ := takeWhile_digits ends n
  -- by this the reader does not look for a sign where there is none
  have unsigned : ∀ more, Nat.toDigits 10 n ++ rest = '-' :: more → False := digits_append_ne n rest (by decide)
  cases negative
  all_goals
    simp only [reduceIte, Bool.false_eq_true, List.nil_append, List.cons_append, read, taken, left]
    split
    next none => exact absurd none Nat.toDigits_ne_nil
    next zeros => exact absurd zeros (toDigits_ne_zero_cons n _ _)
    next => rfl

private theorem read_integer {rest : List Char} (ends : Ends rest) {n : Int} (kept : Kept n) :
    read ((toString n).toList ++ rest) = some (.integer n, rest) := by
  obtain ⟨least, fits⟩ := kept
  cases n with
  | ofNat m =>
      have text : (toString (Int.ofNat m)).toList = Nat.toDigits 10 m := by
        show (Nat.repr m).toList = _
        rw [Nat.repr_eq_ofList_toDigits, String.toList_ofList]
      rw [text]
      exact (read_digits ends m false).trans (readTail_of_ends ends (Int.ofNat_lt.mp fits) false nofun)
  | negSucc m =>
      have text : (toString (Int.negSucc m)).toList = '-' :: Nat.toDigits 10 (m + 1) := by
        show ("-" ++ Nat.repr (m + 1)).toList = _
        rw [Nat.repr_eq_ofList_toDigits, String.toList_append]
        exact congrArg ('-' :: ·) String.toList_ofList
      rw [text]
      exact (read_digits ends (m + 1) true).trans
        (readTail_of_ends ends (by omega) true fun _ => ⟨Nat.succ_pos m, by omega⟩)

end Decimal

namespace Reader

private theorem hexUnit?_hexPadded {n : Nat} (low : n < 32) :
    ∃ a b c d, Text.hexPadded 4 n = [a, b, c, d] ∧ hexUnit? a b c d = some n := by
  refine ⟨_, _, _, _, rfl, ?_⟩
  have digit (m : Nat) : Text.hexValue? (Text.hexDigit (m % 16)) = some (m % 16) :=
    Text.hexValue?_hexDigit (Nat.mod_lt m (by decide))
  simp only [hexUnit?, digit, Option.bind_eq_bind, Option.bind_some, Option.pure_def, Option.some.injEq]
  omega

private theorem readQuoted_escapeChar (c : Char) (read rest : List Char) :
    readQuoted read (escapeChar c ++ rest) = readQuoted (c :: read) rest := by
  unfold escapeChar
  split_ifs with mark bar feed carriage tab back form control
  · subst mark; rfl
  · subst bar; rfl
  · subst feed; rfl
  · subst carriage; rfl
  · subst tab; rfl
  · subst back; rfl
  · subst form; rfl
  · obtain ⟨a, b, c', d, digits, unit⟩ := hexUnit?_hexPadded control
    have high : ¬ (0xD800 ≤ c.toNat ∧ c.toNat < 0xDC00) := by omega
    have low : ¬ (0xDC00 ≤ c.toNat ∧ c.toNat < 0xE000) := by omega
    rw [digits]
    simp only [List.cons_append, List.nil_append, readQuoted, unit, if_neg high, if_neg low, Char.ofNat_toNat]
  · rw [List.singleton_append, readQuoted, if_neg control] <;> simp_all

/-- A quoted text is read in full and ends at its own quote, whatever is behind it. -/
private theorem readQuoted_escape (text read rest : List Char) :
    readQuoted read (escape text ++ '"' :: rest) = some (String.ofList (read.reverse ++ text), rest) := by
  induction text generalizing read with
  | nil => simp [escape, readQuoted]
  | cons c text ih =>
      rw [escape, List.flatMap_cons, List.append_assoc, readQuoted_escapeChar, ← escape, ih, List.reverse_cons,
        List.append_assoc]
      rfl

end Reader

/-- A number that is read from its text, wherever a number may end. -/
def KeptReal (x : Binary64) : Prop :=
  ∀ rest, Decimal.Ends rest → Decimal.read ((Json.real x).compact.toList ++ rest) = some (.real x, rest)

mutual

/-- Values that are read from their texts: with integers in range, and numbers that are read back. -/
def Readable : Json → Prop
  | .integer n => Decimal.Kept n
  | .real x => KeptReal x
  | .array items => ReadableItems items
  | .object members => ReadableMembers members
  | _ => True

def ReadableItems : List Json → Prop
  | [] => True
  | item :: rest => item.Readable ∧ ReadableItems rest

def ReadableMembers : List (String × Json) → Prop
  | [] => True
  | (_, value) :: rest => value.Readable ∧ ReadableMembers rest

end

mutual

/-- The value with the members of all its objects in order. -/
def sorted : Json → Json
  | .array items => .array (sortedItems items)
  | .object members => .ofMembers (sortedMembers members)
  | value => value

def sortedItems : List Json → List Json
  | [] => []
  | item :: rest => item.sorted :: sortedItems rest

def sortedMembers : List (String × Json) → List (String × Json)
  | [] => []
  | (name, value) :: rest => (name, value.sorted) :: sortedMembers rest

end

def putMembers (sorted members : List (String × Json)) : List (String × Json) :=
  members.foldl (fun sorted member => putMember member.1 member.2 sorted) sorted

mutual

/-- Values that their texts hold: readable, and with members in order. -/
def Kept : Json → Prop
  | .integer n => Decimal.Kept n
  | .real x => KeptReal x
  | .array items => KeptItems items
  | .object members => (members.map Prod.fst).Pairwise (· < ·) ∧ KeptMembers members
  | _ => True

def KeptItems : List Json → Prop
  | [] => True
  | item :: rest => item.Kept ∧ KeptItems rest

def KeptMembers : List (String × Json) → Prop
  | [] => True
  | (_, value) :: rest => value.Kept ∧ KeptMembers rest

end

/-- The text of a number starts with a sign or a digit, and so like no other value. -/
private theorem exists_of_read {text rest : List Char} {value : Json}
    (number : Decimal.read text = some (value, rest)) :
    ∃ c more, text = c :: more ∧ (c = '-' ∨ Decimal.isDigit c = true) := by
  cases text with
  | nil => cases number
  | cons c more =>
      refine ⟨c, more, rfl, or_iff_not_imp_left.mpr fun unsigned => ?_⟩
      by_contra other
      rw [Decimal.read] at number
      · simp [other] at number
      · rintro rest same
        exact unsigned (List.cons.inj same).1

private theorem ne_of_first {c d : Char} (first : c = '-' ∨ Decimal.isDigit c = true)
    (other : d ≠ '-' ∧ Decimal.isDigit d = false) : c ≠ d := by
  rintro rfl
  simp [other] at first

private theorem isBlank_of_first {c : Char} (first : c = '-' ∨ Decimal.isDigit c = true) : isBlank c = false := by
  simp [isBlank, ne_of_first first (d := ' ') (by decide), ne_of_first first (d := '\n') (by decide),
    ne_of_first first (d := '\t') (by decide), ne_of_first first (d := '\r') (by decide)]

private theorem skipBlanks_cons {c : Char} (visible : isBlank c = false) (more : List Char) :
    skipBlanks (c :: more) = c :: more :=
  List.dropWhile_cons_of_neg (by simp [visible])

private theorem readValue_of_read {text rest : List Char} {value : Json}
    (number : Decimal.read text = some (value, rest))
    (fuel levels : Nat) : readValue (fuel + 1) levels text = some (value, rest) := by
  obtain ⟨c, more, rfl, first⟩ := exists_of_read number
  rw [readValue, skipBlanks_cons (isBlank_of_first first)]
  split
  next same => exact absurd (List.cons.inj same).1 (ne_of_first first (by decide))
  next same => exact absurd (List.cons.inj same).1 (ne_of_first first (by decide))
  next same => exact absurd (List.cons.inj same).1 (ne_of_first first (by decide))
  next same => exact absurd (List.cons.inj same).1 (ne_of_first first (by decide))
  next same => exact absurd (List.cons.inj same).1 (ne_of_first first (by decide))
  next same => exact absurd (List.cons.inj same).1 (ne_of_first first (by decide))
  next => exact number

/-- A text that starts with nothing that the reader would leave out or take for the end of an array. -/
def Starts (text : List Char) : Prop := ∃ c more, text = c :: more ∧ isBlank c = false ∧ c ≠ ']'

private theorem putMember_last {name : String} {members : List (String × Json)}
    (before : ∀ member ∈ members, member.1 < name)
    (value : Json) : putMember name value members = members ++ [(name, value)] := by
  induction members with
  | nil => rfl
  | cons member members ih =>
      obtain ⟨other, held⟩ := member
      obtain ⟨first, later⟩ := List.forall_mem_cons.mp before
      have apart : name ≠ other := by
        rintro rfl
        exact String.lt_irrefl name first
      rw [putMember, if_neg apart, if_neg (String.lt_asymm first), ih later]
      rfl

private theorem putMembers_of_sorted {sorted members : List (String × Json)}
    (order : ((sorted ++ members).map Prod.fst).Pairwise (· < ·)) : putMembers sorted members = sorted ++ members := by
  induction members generalizing sorted with
  | nil => exact (List.append_nil sorted).symm
  | cons member members ih =>
      have before : ∀ other ∈ sorted, other.1 < member.1 := by
        rw [List.map_append, List.map_cons, List.pairwise_append] at order
        exact fun other inside => order.2.2 other.1 (List.mem_map_of_mem inside) member.1 List.mem_cons_self
      rw [List.append_cons] at order ⊢
      rw [← ih order, ← putMember_last before member.2]
      rfl

mutual

theorem Kept.readable : (value : Json) → value.Kept → value.Readable
  | .null | .bool _ | .string _ => fun _ => trivial
  | .integer _ | .real _ => fun kept => kept
  | .array items => fun kept => KeptItems.readable items kept
  | .object members => fun kept => KeptMembers.readable members kept.2

theorem KeptItems.readable : (items : List Json) → KeptItems items → ReadableItems items
  | [] => fun _ => trivial
  | item :: rest => fun kept => ⟨Kept.readable item kept.1, KeptItems.readable rest kept.2⟩

theorem KeptMembers.readable : (members : List (String × Json)) → KeptMembers members → ReadableMembers members
  | [] => fun _ => trivial
  | (_, value) :: rest => fun kept => ⟨Kept.readable value kept.1, KeptMembers.readable rest kept.2⟩

end

mutual

theorem Kept.sorted_eq : (value : Json) → value.Kept → value.sorted = value
  | .null | .bool _ | .string _ | .integer _ | .real _ => fun _ => rfl
  | .array items => fun kept => congrArg Json.array (KeptItems.sorted_eq items kept)
  | .object members => fun kept => by
      have order : (([] ++ members).map Prod.fst).Pairwise (· < ·) := kept.1
      rw [sorted, KeptMembers.sorted_eq members kept.2]
      exact congrArg Json.object (putMembers_of_sorted order)

theorem KeptItems.sorted_eq : (items : List Json) → KeptItems items → sortedItems items = items
  | [] => fun _ => rfl
  | item :: rest => fun kept => by rw [sortedItems, Kept.sorted_eq item kept.1, KeptItems.sorted_eq rest kept.2]

theorem KeptMembers.sorted_eq :
    (members : List (String × Json)) → KeptMembers members → sortedMembers members = members
  | [] => fun _ => rfl
  | (name, value) :: rest => fun kept => by
      rw [sortedMembers, Kept.sorted_eq value kept.1, KeptMembers.sorted_eq rest kept.2]

end

private theorem toList_array (items : List Json) :
    (Json.array items).compact.toList = '[' :: ((compactItems items).toList ++ [']']) := by
  rw [compact, String.toList_append, String.toList_append]
  rfl

private theorem toList_object (members : List (String × Json)) :
    (Json.object members).compact.toList = '\x7b' :: ((compactMembers members).toList ++ ['\x7d']) := by
  rw [compact, String.toList_append, String.toList_append]
  rfl

private theorem toList_quote (text : String) : (quote text).toList = '"' :: (escape text.toList ++ ['"']) := by
  rw [quote, String.toList_ofList]
  rfl

private theorem toList_items (item next : Json) (rest : List Json) :
    (compactItems (item :: next :: rest)).toList =
      item.compact.toList ++ ',' :: (compactItems (next :: rest)).toList := by
  rw [compactItems, String.toList_append, String.toList_append, List.append_assoc]
  · rfl
  · simp

private theorem toList_member (name : String) (value : Json) :
    (compactMembers [(name, value)]).toList = (quote name).toList ++ ':' :: value.compact.toList := by
  rw [compactMembers, String.toList_append, String.toList_append, List.append_assoc]
  rfl

private theorem toList_members (name : String) (value : Json) (next : String × Json) (rest : List (String × Json)) :
    (compactMembers ((name, value) :: next :: rest)).toList =
      (quote name).toList ++ ':' :: (value.compact.toList ++ ',' :: (compactMembers (next :: rest)).toList) := by
  rw [compactMembers]
  · simp only [String.toList_append, List.append_assoc]
    rfl
  · simp

private theorem starts_of_number {text rest : List Char} {value : Json}
    (number : Decimal.read (text ++ []) = some (value, rest)) : Starts text := by
  rw [List.append_nil] at number
  obtain ⟨c, more, rfl, first⟩ := exists_of_read number
  exact ⟨c, more, rfl, isBlank_of_first first, ne_of_first first (by decide)⟩

theorem Starts.append {text : List Char} (starts : Starts text) (rest : List Char) : Starts (text ++ rest) := by
  obtain ⟨c, more, rfl, first⟩ := starts
  exact ⟨c, more ++ rest, rfl, first⟩

private theorem Starts.length_pos {text : List Char} (starts : Starts text) : 0 < text.length := by
  obtain ⟨c, more, rfl, _⟩ := starts
  exact Nat.succ_pos _

theorem Readable.starts {value : Json} (plain : value.Readable) : Starts value.compact.toList := by
  have ends : Decimal.Ends [] := nofun
  cases value with
  | null => exact ⟨'n', _, rfl, rfl, by decide⟩
  | bool value => cases value <;> exact ⟨_, _, rfl, rfl, by decide⟩
  | integer n => exact starts_of_number (Decimal.read_integer ends plain)
  | real x => exact starts_of_number (plain [] ends)
  | string text => exact ⟨_, _, toList_quote text, rfl, by decide⟩
  | array items => exact ⟨_, _, toList_array items, rfl, by decide⟩
  | object members => exact ⟨_, _, toList_object members, rfl, by decide⟩

private theorem ends_cons {c : Char} (sign : c ∈ [',', ']', '\x7d']) (rest : List Char) : Decimal.Ends (c :: rest) := by
  intro d same
  obtain rfl := Option.some.inj same
  revert sign
  simp only [List.mem_cons, List.not_mem_nil, or_false]
  rintro (rfl | rfl | rfl) <;> decide

section Parts

variable {fuel levels : Nat} {text rest : List Char}

private theorem readItems_next {read : List Json} {item : Json}
    (valued : readValue fuel levels text = some (item, ',' :: rest)) :
    readItems (fuel + 1) levels read text = readItems fuel levels (item :: read) rest := by
  rw [readItems, valued]
  rfl

private theorem readItems_last {read : List Json} {item : Json}
    (valued : readValue fuel levels text = some (item, ']' :: rest)) :
    readItems (fuel + 1) levels read text = some (.array (item :: read).reverse, rest) := by
  rw [readItems, valued]
  rfl

variable {read : List (String × Json)} {name : String} {value : Json}

private theorem readQuoted_name (name : String) (text : List Char) :
    readQuoted [] (escape name.toList ++ '"' :: text) = some (name, text) := by
  rw [readQuoted_escape, List.reverse_nil, List.nil_append, String.ofList_toList]

private theorem readMembers_next (valued : readValue fuel levels text = some (value, ',' :: rest)) :
    readMembers (fuel + 1) levels read ((quote name).toList ++ ':' :: text) =
      readMembers fuel levels (putMember name value read) rest := by
  rw [toList_quote, List.cons_append, List.append_assoc, List.singleton_append, readMembers, skipBlanks_cons rfl]
  simp only [readQuoted_name, skipBlanks_cons (c := ':') rfl, valued, skipBlanks_cons (c := ',') rfl]

private theorem readMembers_last (valued : readValue fuel levels text = some (value, '\x7d' :: rest)) :
    readMembers (fuel + 1) levels read ((quote name).toList ++ ':' :: text) =
      some (.object (putMember name value read), rest) := by
  rw [toList_quote, List.cons_append, List.append_assoc, List.singleton_append, readMembers, skipBlanks_cons rfl]
  simp only [readQuoted_name, skipBlanks_cons (c := ':') rfl, valued, skipBlanks_cons (c := '\x7d') rfl]

end Parts

private theorem readValue_array {text : List Char} (starts : Starts text) (fuel levels : Nat) :
    readValue (fuel + 1) (levels + 1) ('[' :: text) = readItems fuel levels [] text := by
  obtain ⟨c, more, rfl, visible, other⟩ := starts
  rw [readValue, skipBlanks_cons rfl]
  simp only [skipBlanks_cons visible]
  split
  next same => exact absurd (List.cons.inj same).1 other
  next => rfl

private theorem readValue_object (text : List Char) (fuel levels : Nat) :
    readValue (fuel + 1) (levels + 1) ('\x7b' :: '"' :: text) = readMembers fuel levels [] ('"' :: text) := rfl

theorem exists_members (member : String × Json) (members : List (String × Json)) :
    ∃ more, (compactMembers (member :: members)).toList = '"' :: more := by
  obtain ⟨name, value⟩ := member
  cases members with
  | nil => exact ⟨_, by rw [toList_member, toList_quote]; rfl⟩
  | cons next members => exact ⟨_, by rw [toList_members, toList_quote]; rfl⟩

private theorem starts_items {item : Json} (plain : item.Readable) (items : List Json) :
    Starts (compactItems (item :: items)).toList := by
  obtain ⟨c, more, same, visible, other⟩ := plain.starts
  cases items with
  | nil => exact ⟨c, more, same, visible, other⟩
  | cons next items =>
      rw [toList_items, same]
      exact ⟨c, _, rfl, visible, other⟩

mutual

private theorem readValue_compact : (value : Json) → ∀ (fuel levels : Nat) (rest : List Char), value.Readable →
    2 * value.compact.toList.length ≤ fuel + 1 → value.height ≤ levels → Decimal.Ends rest →
    readValue (fuel + 1) levels (value.compact.toList ++ rest) = some (value.sorted, rest)
  | .null => by
      intro fuel levels rest _ _ _ _
      have text : Json.null.compact.toList = ['n', 'u', 'l', 'l'] := by rw [compact]; rfl
      rw [text]
      rfl
  | .bool value => by
      intro fuel levels rest _ _ _ _
      have text : (Json.bool value).compact.toList =
          if value then ['t', 'r', 'u', 'e'] else ['f', 'a', 'l', 's', 'e'] := by
        rw [compact]
        cases value <;> rfl
      rw [text]
      cases value <;> rfl
  | .integer n => by
      intro fuel levels rest plain _ _ ends
      exact readValue_of_read (Decimal.read_integer ends plain) fuel levels
  | .real x => by
      intro fuel levels rest plain _ _ ends
      exact readValue_of_read (plain rest ends) fuel levels
  | .string text => by
      intro fuel levels rest _ _ _ _
      rw [compact, toList_quote, List.cons_append, List.append_assoc, List.singleton_append, readValue,
        skipBlanks_cons rfl]
      simp only [readQuoted_name, Option.map_some]
      rfl
  | .array [] => by
      intro fuel levels rest _ _ deep _
      obtain ⟨levels, rfl⟩ := Nat.exists_eq_add_of_le' deep
      rw [toList_array]
      rfl
  | .array (item :: items) => by
      intro fuel levels rest plain enough deep _
      rw [height] at deep
      obtain ⟨levels, rfl⟩ := Nat.exists_eq_add_of_le' ((Nat.le_add_left 1 _).trans deep)
      rw [toList_array] at enough ⊢
      simp only [List.length_cons, List.length_append, List.length_nil] at enough
      obtain ⟨fuel, rfl⟩ : ∃ less, fuel = less + 1 := ⟨fuel - 1, by omega⟩
      rw [List.cons_append, List.append_assoc, List.singleton_append,
        readValue_array ((starts_items plain.1 items).append _)]
      exact readItems_compact (item :: items) fuel levels [] rest (by simp) plain (by omega) (by omega)
  | .object [] => by
      intro fuel levels rest _ _ deep _
      obtain ⟨levels, rfl⟩ := Nat.exists_eq_add_of_le' deep
      rw [toList_object]
      rfl
  | .object (member :: members) => by
      intro fuel levels rest plain enough deep _
      rw [height] at deep
      obtain ⟨levels, rfl⟩ := Nat.exists_eq_add_of_le' ((Nat.le_add_left 1 _).trans deep)
      rw [toList_object] at enough ⊢
      simp only [List.length_cons, List.length_append, List.length_nil] at enough
      obtain ⟨fuel, rfl⟩ : ∃ less, fuel = less + 1 := ⟨fuel - 1, by omega⟩
      have inside := readMembers_compact (member :: members) fuel levels [] rest (by simp) plain (by omega) (by omega)
      obtain ⟨more, text⟩ := exists_members member members
      rw [text, List.cons_append] at inside
      rw [text, List.cons_append, List.append_assoc, List.cons_append, List.singleton_append, readValue_object]
      exact inside

private theorem readItems_compact : (items : List Json) → ∀ (fuel levels : Nat) (read : List Json) (rest : List Char),
    items ≠ [] → ReadableItems items →
    2 * (compactItems items).toList.length ≤ fuel → heightOfItems items ≤ levels →
    readItems (fuel + 1) levels read ((compactItems items).toList ++ ']' :: rest) =
      some (.array (read.reverse ++ sortedItems items), rest)
  | [] => fun _ _ _ _ filled => absurd rfl filled
  | [item] => by
      intro fuel levels read rest _ plain enough deep
      have first := plain.1.starts.length_pos
      rw [compactItems] at enough ⊢
      obtain ⟨fuel, rfl⟩ : ∃ less, fuel = less + 1 := ⟨fuel - 1, by omega⟩
      have valued := readValue_compact item fuel levels (']' :: rest) plain.1 enough ((Nat.le_max_left _ _).trans deep)
        (ends_cons (by simp) rest)
      rw [readItems_last valued, List.reverse_cons]
      rfl
  | item :: next :: items => by
      intro fuel levels read rest _ plain enough deep
      have first := plain.1.starts.length_pos
      rw [toList_items] at enough ⊢
      simp only [List.length_append, List.length_cons] at enough
      obtain ⟨fuel, rfl⟩ : ∃ less, fuel = less + 1 := ⟨fuel - 1, by omega⟩
      rw [List.append_assoc, List.cons_append]
      have valued := readValue_compact item fuel levels (',' :: ((compactItems (next :: items)).toList ++ ']' :: rest))
        plain.1 (by omega) ((Nat.le_max_left _ _).trans deep) (ends_cons (by simp) _)
      have further := readItems_compact (next :: items) fuel levels (item.sorted :: read) rest (by simp) plain.2
        (by omega) ((Nat.le_max_right _ _).trans deep)
      rw [readItems_next valued, further, List.reverse_cons, List.append_assoc]
      rfl

private theorem readMembers_compact : (members : List (String × Json)) →
    ∀ (fuel levels : Nat) (read : List (String × Json)) (rest : List Char), members ≠ [] → ReadableMembers members →
    2 * (compactMembers members).toList.length ≤ fuel → heightOfMembers members ≤ levels →
    readMembers (fuel + 1) levels read ((compactMembers members).toList ++ '\x7d' :: rest) =
      some (.object (putMembers read (sortedMembers members)), rest)
  | [] => fun _ _ _ _ filled => absurd rfl filled
  | [(name, value)] => by
      intro fuel levels read rest _ plain enough deep
      have first := plain.1.starts.length_pos
      rw [toList_member] at enough ⊢
      simp only [List.length_append, List.length_cons] at enough
      obtain ⟨fuel, rfl⟩ : ∃ less, fuel = less + 1 := ⟨fuel - 1, by omega⟩
      have valued := readValue_compact value fuel levels ('\x7d' :: rest) plain.1 (by omega)
        ((Nat.le_max_left _ _).trans deep) (ends_cons (by simp) rest)
      rw [List.append_assoc, List.cons_append, readMembers_last valued]
      rfl
  | (name, value) :: next :: members => by
      intro fuel levels read rest _ plain enough deep
      have first := plain.1.starts.length_pos
      rw [toList_members] at enough ⊢
      simp only [List.length_append, List.length_cons] at enough
      obtain ⟨fuel, rfl⟩ : ∃ less, fuel = less + 1 := ⟨fuel - 1, by omega⟩
      have valued := readValue_compact value fuel levels
        (',' :: ((compactMembers (next :: members)).toList ++ '\x7d' :: rest)) plain.1 (by omega)
        ((Nat.le_max_left _ _).trans deep) (ends_cons (by simp) _)
      have further := readMembers_compact (next :: members) fuel levels (putMember name value.sorted read) rest
        (by simp) plain.2 (by omega) ((Nat.le_max_right _ _).trans deep)
      rw [List.append_assoc, List.cons_append, List.append_assoc, List.cons_append, readMembers_next valued, further]
      rfl

end

/-- A value is read from its text with the members of its objects in order, unless it nests too deep. -/
theorem read?_compact {value : Json} (plain : value.Readable) (shallow : value.height ≤ 127) :
    read? value.compact = some value.sorted := by
  have valued := readValue_compact value (2 * value.compact.toList.length + 1) 127 [] plain (by omega) shallow nofun
  rw [List.append_nil] at valued
  simp [read?, valued, skipBlanks]

/-- A value that its text holds is read from it, unless it nests too deep. -/
theorem Kept.read?_compact {value : Json} (kept : value.Kept) (shallow : value.height ≤ 127) :
    read? value.compact = some value := by
  rw [Json.read?_compact (Kept.readable value kept) shallow, Kept.sorted_eq value kept]

end RemoteDom.Json
