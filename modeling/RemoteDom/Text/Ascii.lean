/-! Comparing texts up to the case of ASCII letters, and the digits of numbers. -/

namespace RemoteDom.Text

/-- Equal once the capital letters of ASCII are written small. -/
def equalsIgnoringCase (first second : List Char) : Bool :=
  first.map Char.toLower == second.map Char.toLower

def hexDigit (n : Nat) : Char :=
  if n < 10 then Char.ofNat (48 + n) else Char.ofNat (87 + n)

/-- The digits of a number in a base, without leading zeros; zero has one digit. -/
def digits (base : Nat) (n : Nat) : List Char :=
  (Nat.toDigits base n)

/-- The last `width` hexadecimal digits, with leading zeros. -/
def hexPadded : Nat → Nat → List Char
  | 0, _ => []
  | width + 1, n => hexPadded width (n / 16) ++ [hexDigit (n % 16)]

def hexValue? (c : Char) : Option Nat :=
  if '0' ≤ c ∧ c ≤ '9' then some (c.toNat - 48)
  else if 'a' ≤ c ∧ c ≤ 'f' then some (c.toNat - 87)
  else if 'A' ≤ c ∧ c ≤ 'F' then some (c.toNat - 55)
  else none

theorem equalsIgnoringCase_refl (text : List Char) : equalsIgnoringCase text text = true := by
  simp [equalsIgnoringCase]

theorem hexValue?_hexDigit {n : Nat} (small : n < 16) : hexValue? (hexDigit n) = some n := by
  have all : ∀ m ∈ List.range 16, hexValue? (hexDigit m) = some m := by decide
  exact all n (List.mem_range.mpr small)

end RemoteDom.Text
