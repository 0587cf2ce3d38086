import Mathlib.Data.List.Nodup
import Mathlib.Data.List.Perm.Basic
import Mathlib.Data.Nat.Digits.Defs
import RemoteDom.Dom.Query

/-! The items of a list. A browser tells them as properties among others, in any order; an item is known by its
number, which is its name, and by the object that it holds. -/

namespace RemoteDom

/-- The text is the number in decimal digits, with any number of zeros or a plus sign in front, and the number fits
into sixty-four bits. -/
def Spells (text : String) (number : Nat) : Prop :=
  number < 2 ^ 64 ∧ ∃ sign digits, (sign = [] ∨ sign = ['+']) ∧ digits ≠ [] ∧ (∀ digit ∈ digits, digit < 10) ∧
    text.toList = sign ++ digits.map Nat.digitChar ∧ Nat.ofDigits 10 digits.reverse = number

private theorem foldl_digitChar {digits : List Nat} (small : ∀ digit ∈ digits, digit < 10) (before : Nat) :
    (digits.map Nat.digitChar).foldl (fun value digit => value * 10 + (digit.toNat - 48)) before =
      before * 10 ^ digits.length + Nat.ofDigits 10 digits.reverse := by
  induction digits generalizing before with
  | nil => simp
  | cons digit rest ih =>
      have value : digit.digitChar.toNat - 48 = digit := by
        have each : ∀ digit < 10, digit.digitChar.toNat - 48 = digit := by decide
        exact each digit (small digit List.mem_cons_self)
      rw [List.map_cons, List.foldl_cons, ih fun other member => small other (List.mem_cons_of_mem _ member), value,
        Nat.ofDigits_reverse_cons, List.length_cons, Nat.pow_succ, Nat.add_mul]
      ring

private theorem exists_digits {text : List Char} (digital : text.all Char.isDigit = true) :
    ∃ digits : List Nat, (∀ digit ∈ digits, digit < 10) ∧ text = digits.map Nat.digitChar := by
  induction text with
  | nil => exact ⟨[], by simp, rfl⟩
  | cons c rest ih =>
      rw [List.all_cons, Bool.and_eq_true] at digital
      obtain ⟨digits, small, rfl⟩ := ih digital.2
      have within : 48 ≤ c.toNat ∧ c.toNat ≤ 57 := by
        simpa [Char.isDigit, UInt32.le_iff_toNat_le] using digital.1
      have same : (c.toNat - 48).digitChar = c := by
        have each : ∀ digit < 10, digit.digitChar = Char.ofNat (digit + 48) := by decide
        rw [each _ (by omega), Nat.sub_add_cancel within.1, Char.ofNat_toNat]
      refine ⟨(c.toNat - 48) :: digits, List.forall_mem_cons.mpr ⟨by omega, small⟩, ?_⟩
      rw [List.map_cons, same]

private theorem isDigit_digitChar {digit : Nat} (small : digit < 10) : digit.digitChar.isDigit = true := by
  have each : ∀ digit < 10, digit.digitChar.isDigit = true := by decide
  exact each digit small

namespace Property

private theorem unsigned_eq {sign : List Char} (signed : sign = [] ∨ sign = ['+']) {digits : List Nat}
    (small : ∀ digit ∈ digits, digit < 10) :
    (if (sign ++ digits.map Nat.digitChar).head? = some '+' then (sign ++ digits.map Nat.digitChar).tail
      else sign ++ digits.map Nat.digitChar) = digits.map Nat.digitChar := by
  obtain rfl | rfl := signed
  · refine if_neg fun plus => ?_
    cases digits with
    | nil => cases plus
    | cons digit rest =>
        have digital := isDigit_digitChar (small digit List.mem_cons_self)
        rw [Option.some.inj plus] at digital
        cases digital
  · rfl

private theorem exists_sign (text : List Char) :
    ∃ sign, (sign = [] ∨ sign = ['+']) ∧ text = sign ++ if text.head? = some '+' then text.tail else text := by
  by_cases plus : text.head? = some '+'
  · obtain ⟨rest, rfl⟩ := List.head?_eq_some_iff.mp plus
    exact ⟨['+'], .inr rfl, rfl⟩
  · exact ⟨[], .inl rfl, by rw [if_neg plus]; rfl⟩

private theorem index?_eq_some_iff {property : Property} {number : Nat} :
    property.index? = some number ↔ Spells property.name number := by
  unfold index? Spells
  constructor
  · intro read
    obtain ⟨sign, signed, parts⟩ := exists_sign property.name.toList
    simp only [Option.ite_none_left_eq_some, Bool.or_eq_true, List.isEmpty_iff, Bool.not_eq_true', not_or,
      Bool.not_eq_false] at read
    obtain ⟨⟨some_digit, digital⟩, within⟩ := read
    obtain ⟨digits, small, shape⟩ := exists_digits digital
    rw [shape] at parts some_digit within
    rw [foldl_digitChar small, Nat.zero_mul, Nat.zero_add] at within
    obtain ⟨fits, same⟩ := Option.ite_none_right_eq_some.mp within
    obtain rfl := Option.some.inj same
    exact ⟨by simpa using fits, sign, digits, signed, by simpa using some_digit, small, parts, rfl⟩
  · rintro ⟨fits, sign, digits, signed, some_digit, small, parts, rfl⟩
    have digital : (digits.map Nat.digitChar).all Char.isDigit = true :=
      List.all_eq_true.mpr (List.forall_mem_map.mpr fun digit member => isDigit_digitChar (small digit member))
    rw [parts]
    simp only [unsigned_eq signed small, foldl_digitChar small, digital, Nat.zero_mul, Nat.zero_add]
    rw [if_neg (by simpa using some_digit), if_pos (by simpa using fits)]

/-- The property is an item of a list, with that number and that object. -/
structure Holds (property : Property) (number : Nat) (handle : Handle) : Prop where
  numbered : Spells property.name number
  present : ∃ object, property.value = some object ∧ object.type ≠ "undefined" ∧ object.subtype ≠ some "null" ∧
    object.handle = some handle

private theorem presentHandle?_eq_some_iff {object : RemoteObject} {handle : Handle} :
    object.presentHandle? = some handle ↔
      object.type ≠ "undefined" ∧ object.subtype ≠ some "null" ∧ object.handle = some handle := by
  simp [RemoteObject.presentHandle?, RemoteObject.isNullish, and_assoc]

private theorem item?_eq_some_iff {property : Property} {number : Nat} {handle : Handle} :
    property.item? = some (number, handle) ↔ property.Holds number handle := by
  have numbered := @index?_eq_some_iff property number
  constructor
  · intro read
    obtain ⟨place, named, rest⟩ := Option.bind_eq_some_iff.mp read
    obtain ⟨found, valued, same⟩ := Option.bind_eq_some_iff.mp rest
    obtain ⟨rfl, rfl⟩ := Prod.mk.inj (Option.some.inj same)
    obtain ⟨object, there, present⟩ := Option.bind_eq_some_iff.mp valued
    exact ⟨numbered.mp named, object, there, presentHandle?_eq_some_iff.mp present⟩
  · rintro ⟨named, object, there, present⟩
    simp [item?, numbered.mpr named, there, presentHandle?_eq_some_iff.mpr present]

def IsItem (property : Property) : Prop := ∃ number handle, property.Holds number handle

private theorem isSome_item?_iff {property : Property} : property.item?.isSome = true ↔ property.IsItem := by
  rw [Option.isSome_iff_exists, Prod.exists]
  exact exists_congr fun number => exists_congr fun handle => item?_eq_some_iff

instance : DecidablePred IsItem := fun _ => decidable_of_iff _ isSome_item?_iff

/-- The handles of the properties that are items, one for each of these, by increasing number. -/
def InOrder (properties : List Property) (handles : List Handle) : Prop :=
  ∃ (chosen : List Property) (items : List (Nat × Handle)),
    chosen.Perm (properties.filter fun property => property.IsItem) ∧
    List.Forall₂ (fun property item => property.Holds item.1 item.2) chosen items ∧
    items.Pairwise (fun first second => first.1 ≤ second.1) ∧ handles = items.map Prod.snd

def Apart (properties : List Property) : Prop :=
  properties.Pairwise fun first second => ∀ number one other, first.Holds number one → ¬second.Holds number other

private theorem forall₂_items (properties : List Property) :
    List.Forall₂ (fun property item => property.Holds item.1 item.2) (properties.filter fun property => property.IsItem)
      (properties.filterMap item?) := by
  induction properties with
  | nil => exact .nil
  | cons property rest ih =>
      cases read : property.item? with
      | none =>
          have other : ¬property.IsItem := by simp [← isSome_item?_iff, read]
          rwa [List.filter_cons_of_neg (by simpa using other), List.filterMap_cons_none read]
      | some item =>
          have held := item?_eq_some_iff.mp read
          have is : property.IsItem := ⟨item.1, item.2, held⟩
          rw [List.filter_cons_of_pos (by simpa using is), List.filterMap_cons_some read]
          exact .cons held ih

private theorem filterMap_of_holds {chosen : List Property} {items : List (Nat × Handle)}
    (held : List.Forall₂ (fun property item => property.Holds item.1 item.2) chosen items) :
    chosen.filterMap item? = items := by
  induction held with
  | nil => rfl
  | cons first _ ih => rw [List.filterMap_cons_some (item?_eq_some_iff.mpr first), ih]

private theorem filterMap_filter_items (properties : List Property) :
    (properties.filter fun property => property.IsItem).filterMap item? = properties.filterMap item? :=
  filterMap_of_holds (forall₂_items properties)

theorem inOrder_items (properties : List Property) : InOrder properties (items properties) := by
  have sorted := List.mergeSort_perm (properties.filterMap item?) fun first second => first.1 ≤ second.1
  obtain ⟨chosen, held, same⟩ := List.perm_comp_forall₂ sorted (forall₂_items properties).flip
  refine ⟨chosen, _, same, held.flip, ?_, rfl⟩
  have pairwise := @List.pairwise_mergeSort (Nat × Handle) (fun first second => decide (first.1 ≤ second.1))
    (fun _ _ _ early late => by simp only [decide_eq_true_eq] at *; omega)
    (fun _ _ => by simp only [Bool.or_eq_true, decide_eq_true_eq]; omega) (properties.filterMap item?)
  simpa using pairwise

/-- Where no number comes twice the order in which the properties are told makes no difference. -/
theorem InOrder.unique {properties shuffled : List Property} {handles others : List Handle}
    (order : InOrder properties handles) (apart : Apart properties) (same : shuffled.Perm properties)
    (again : InOrder shuffled others) : others = handles := by
  obtain ⟨chosen, items, from_properties, held, increasing, rfl⟩ := order
  obtain ⟨chosen', items', from_shuffled, held', increasing', rfl⟩ := again
  have alike : items'.Perm items := by
    rw [← filterMap_of_holds held, ← filterMap_of_holds held']
    exact ((from_shuffled.trans (same.filter _)).trans from_properties.symm).filterMap item?
  have read : items.Perm (properties.filterMap item?) := by
    rw [← filterMap_of_holds held, ← filterMap_filter_items properties]
    exact from_properties.filterMap item?
  have numbers : (items.map Prod.fst).Nodup := by
    refine (read.map Prod.fst).nodup_iff.mpr (List.pairwise_map.mpr (List.pairwise_filterMap.mpr ?_))
    refine apart.imp fun {first second} different one is_one other is_other equal => ?_
    exact different one.1 one.2 other.2 (item?_eq_some_iff.mp is_one) (item?_eq_some_iff.mp (equal ▸ is_other))
  rw [alike.eq_of_pairwise ?_ increasing' increasing]
  intro one other member member' early late
  exact List.inj_on_of_nodup_map numbers (alike.subset member) member' (Nat.le_antisymm early late)

end Property

end RemoteDom
