/-! JSON values. Numbers without fraction or exponent that fit in sixty-four bits are integers; all
others are binary64 numbers, kept as their bits so that equality of values is decidable. The members
of an object are kept in increasing order of their names, each name once; only what is to be written may have them in
another order. -/

namespace RemoteDom

/-- A number of the IEEE 754 binary64 format, as its bits. -/
structure Binary64 where
  bits : UInt64
deriving DecidableEq, Repr, Inhabited

namespace Binary64

def ofFloat (x : Float) : Binary64 := ⟨x.toBits⟩

def toFloat (x : Binary64) : Float := Float.ofBits x.bits

/-- The integer nearest to `n`; ties go to the even neighbour. -/
def ofInt (n : Int) : Binary64 :=
  ofFloat (if n < 0 then -(UInt64.ofNat n.natAbs).toFloat else (UInt64.ofNat n.natAbs).toFloat)

def isNegative (x : Binary64) : Bool := x.bits.toNat >>> 63 == 1

def exponentField (x : Binary64) : Nat := (x.bits.toNat >>> 52) % 2048

def fractionField (x : Binary64) : Nat := x.bits.toNat % (1 <<< 52)

def isFinite (x : Binary64) : Bool := x.exponentField != 2047

def isNaN (x : Binary64) : Bool := x.exponentField == 2047 && x.fractionField != 0

def isZero (x : Binary64) : Bool := x.exponentField == 0 && x.fractionField == 0

end Binary64

inductive Json where
  | null
  | bool (value : Bool)
  | integer (value : Int)
  | real (value : Binary64)
  | string (value : String)
  | array (items : List Json)
  | object (members : List (String × Json))
deriving Repr, Inhabited

namespace Json

mutual

def same : Json → Json → Bool
  | .null, .null => true
  | .bool a, .bool b => a == b
  | .integer a, .integer b => a == b
  | .real a, .real b => a == b
  | .string a, .string b => a == b
  | .array a, .array b => sameItems a b
  | .object a, .object b => sameMembers a b
  | _, _ => false

def sameItems : List Json → List Json → Bool
  | [], [] => true
  | a :: as, b :: bs => same a b && sameItems as bs
  | _, _ => false

def sameMembers : List (String × Json) → List (String × Json) → Bool
  | [], [] => true
  | (k, a) :: as, (l, b) :: bs => k == l && same a b && sameMembers as bs
  | _, _ => false

end

mutual

theorem eq_of_same : (a b : Json) → same a b = true → a = b
  | .null, b, equal => by cases b <;> simp_all [same]
  | .bool _, b, equal => by cases b <;> simp_all [same]
  | .integer _, b, equal => by cases b <;> simp_all [same]
  | .real _, b, equal => by cases b <;> simp_all [same]
  | .string _, b, equal => by cases b <;> simp_all [same]
  | .array xs, b, equal => by
      cases b with
      | array ys => rw [eq_of_sameItems xs ys (by simpa [same] using equal)]
      | _ => simp [same] at equal
  | .object xs, b, equal => by
      cases b with
      | object ys => rw [eq_of_sameMembers xs ys (by simpa [same] using equal)]
      | _ => simp [same] at equal

theorem eq_of_sameItems : (xs ys : List Json) → sameItems xs ys = true → xs = ys
  | [], ys, equal => by cases ys <;> simp_all [sameItems]
  | x :: xs, ys, equal => by
      cases ys with
      | nil => simp [sameItems] at equal
      | cons y ys =>
          simp only [sameItems, Bool.and_eq_true] at equal
          rw [eq_of_same x y equal.1, eq_of_sameItems xs ys equal.2]

theorem eq_of_sameMembers : (xs ys : List (String × Json)) → sameMembers xs ys = true → xs = ys
  | [], ys, equal => by cases ys <;> simp_all [sameMembers]
  | (k, x) :: xs, ys, equal => by
      cases ys with
      | nil => simp [sameMembers] at equal
      | cons pair ys =>
          obtain ⟨l, y⟩ := pair
          simp only [sameMembers, Bool.and_eq_true, beq_iff_eq] at equal
          rw [equal.1.1, eq_of_same x y equal.1.2, eq_of_sameMembers xs ys equal.2]

end

mutual

theorem same_self : (a : Json) → same a a = true
  | .null => by simp [same]
  | .bool _ => by simp [same]
  | .integer _ => by simp [same]
  | .real _ => by simp [same]
  | .string _ => by simp [same]
  | .array xs => by simpa [same] using sameItems_self xs
  | .object xs => by simpa [same] using sameMembers_self xs

theorem sameItems_self : (xs : List Json) → sameItems xs xs = true
  | [] => rfl
  | x :: xs => by simp [sameItems, same_self x, sameItems_self xs]

theorem sameMembers_self : (xs : List (String × Json)) → sameMembers xs xs = true
  | [] => rfl
  | (_, x) :: xs => by simp [sameMembers, same_self x, sameMembers_self xs]

end

theorem same_iff {a b : Json} : same a b = true ↔ a = b :=
  ⟨eq_of_same a b, fun equal => equal ▸ same_self a⟩

instance : DecidableEq Json := fun a b =>
  if equal : same a b = true then .isTrue (same_iff.1 equal)
  else .isFalse fun h => equal (same_iff.2 h)

/-- Puts a member in its place; one of the same name is replaced. -/
def putMember (name : String) (value : Json) : List (String × Json) → List (String × Json)
  | [] => [(name, value)]
  | (other, held) :: rest =>
      if name = other then (name, value) :: rest
      else if name < other then (name, value) :: (other, held) :: rest
      else (other, held) :: putMember name value rest

/-- The object with the given members; of two with one name the later counts. -/
def ofMembers (members : List (String × Json)) : Json :=
  .object (members.foldl (fun sorted member => putMember member.1 member.2 sorted) [])

def get? (name : String) : Json → Option Json
  | .object members => members.lookup name
  | _ => none

def asString? : Json → Option String
  | .string value => some value
  | _ => none

/-- An integer that fits in sixty-four bits without sign. -/
def asUnsigned? : Json → Option Nat
  | .integer value => if 0 ≤ value ∧ value < 18446744073709551616 then some value.toNat else none
  | _ => none

mutual

/-- How many arrays and objects are nested in one another at most. -/
def height : Json → Nat
  | .array items => heightOfItems items + 1
  | .object members => heightOfMembers members + 1
  | _ => 0

def heightOfItems : List Json → Nat
  | [] => 0
  | item :: rest => max item.height (heightOfItems rest)

def heightOfMembers : List (String × Json) → Nat
  | [] => 0
  | (_, value) :: rest => max value.height (heightOfMembers rest)

end

theorem lookup_putMember_self (name : String) (value : Json) (members : List (String × Json)) :
    (putMember name value members).lookup name = some value := by
  induction members with
  | nil => simp [putMember]
  | cons member rest ih =>
      obtain ⟨other, held⟩ := member
      by_cases equal : name = other
      · simp [putMember, equal]
      · by_cases before : name < other
        · simp [putMember, equal, before]
        · have different : (name == other) = false := by simp [equal]
          simp [putMember, equal, before, List.lookup_cons, different, ih]

theorem lookup_putMember_ne {name other : String} (different : other ≠ name) (value : Json)
    (members : List (String × Json)) :
    (putMember name value members).lookup other = members.lookup other := by
  have apart : (other == name) = false := by simp [different]
  induction members with
  | nil => simp [putMember, List.lookup_cons, apart]
  | cons member rest ih =>
      obtain ⟨held, kept⟩ := member
      by_cases equal : name = held
      · subst equal
        simp [putMember, List.lookup_cons, apart]
      · by_cases before : name < held
        · simp [putMember, equal, before, List.lookup_cons, apart]
        · simp only [putMember, equal, before, if_false, List.lookup_cons]
          split <;> simp_all

end Json

end RemoteDom
