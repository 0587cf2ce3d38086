import RemoteDom.Text.Ascii

/-! Punycode: the letters of a label beyond ASCII, written with the letters and digits of ASCII. The plain
characters come first; after a hyphen follow the places and the values of the others as one sequence of
differences, each a number of variable length in base 36. -/

namespace RemoteDom.Punycode

def digitChar (n : Nat) : Char := if n < 26 then Char.ofNat (97 + n) else Char.ofNat (22 + n)

def digitValue? (c : Char) : Option Nat :=
  if c.isLower then some (c.toNat - 97)
  else if c.isUpper then some (c.toNat - 65)
  else if c.isDigit then some (c.toNat - 22)
  else none

/-- The least digit that does not end a number at this place. -/
def threshold (place bias : Nat) : Nat := min 26 (max 1 (place - bias))

theorem one_le_threshold (place bias : Nat) : 1 ≤ threshold place bias := by
  unfold threshold; omega

/-- Divides until little is left; gives the rest and how many places that took. -/
def shrink (delta places : Nat) : Nat × Nat :=
  if 455 < delta then shrink (delta / 35) (places + 36) else (delta, places)
termination_by delta
decreasing_by exact Nat.div_lt_self (by omega) (by omega)

/-- The bias after a difference: it follows the size of the last one. -/
def adapt (delta count : Nat) (first : Bool) : Nat :=
  let halved := if first then delta / 700 else delta / 2
  let (rest, places) := shrink (halved + halved / count) 0
  places + 36 * rest / (rest + 38)

def digits (bias place delta : Nat) : List Char :=
  let t := threshold place bias
  if delta < t then [digitChar delta]
  else digitChar (t + (delta - t) % (36 - t)) :: digits bias (place + 36) ((delta - t) / (36 - t))
termination_by delta
decreasing_by
  have positive := one_le_threshold place bias
  have shorter := Nat.div_le_self (delta - threshold place bias) (36 - threshold place bias)
  omega

structure Writer where
  written : List Char
  delta : Nat
  bias : Nat
  /-- How many characters have been written. -/
  count : Nat

/-- Goes past one character of the label while characters of that value are written. -/
def Writer.pass (plain value : Nat) (writer : Writer) (c : Char) : Writer :=
  if c.toNat < value then { writer with delta := writer.delta + 1 }
  else if c.toNat = value then
    { written := writer.written ++ digits writer.bias 36 writer.delta
      delta := 0
      bias := adapt writer.delta (writer.count + 1) (writer.count == plain)
      count := writer.count + 1 }
  else writer

def Writer.passAll (label : List Char) (plain : Nat) : Nat → List Nat → Writer → Writer
  | _, [], writer => writer
  | next, value :: rest, writer =>
      let writer := { writer with delta := writer.delta + (value - next) * (writer.count + 1) }
      let writer := label.foldl (Writer.pass plain value) writer
      passAll label plain (value + 1) rest { writer with delta := writer.delta + 1 }

def insertValue (value : Nat) : List Nat → List Nat
  | [] => [value]
  | other :: rest =>
      if value < other then value :: other :: rest
      else if value = other then other :: rest
      else other :: insertValue value rest

/-- The values of the characters beyond ASCII, each once, in increasing order. -/
def valuesBeyondAscii (label : List Char) : List Nat :=
  (label.filter fun c => 128 ≤ c.toNat).foldr (fun c values => insertValue c.toNat values) []

def encode (label : List Char) : List Char :=
  let plain := label.filter fun c => c.toNat < 128
  let start := if plain.isEmpty then [] else plain ++ ['-']
  (Writer.passAll label plain.length 128 (valuesBeyondAscii label)
    ⟨start, 0, 72, plain.length⟩).written

/-- Numbers in Punycode have at most 32 bits. -/
def limit : Nat := 1 <<< 32

/-- Adds a difference to the number given; gives the sum with what follows. -/
def readDelta? (bias : Nat) : Nat → Nat → Nat → List Char → Option (Nat × List Char)
  | _, _, _, [] => none
  | place, weight, sum, c :: rest =>
      match digitValue? c with
      | none => none
      | some digit =>
          let sum := sum + digit * weight
          let t := threshold place bias
          let weight := weight * (36 - t)
          if limit ≤ sum then none
          else if digit < t then some (sum, rest)
          else if limit ≤ weight then none
          else readDelta? bias (place + 36) weight sum rest

/-- Puts the characters that are given by differences in their places. -/
def decodeFrom : Nat → Nat → Nat → Nat → List Char → List Char → Option (List Char)
  | _, _, _, _, label, [] => some label
  | 0, _, _, _, _, _ => none
  | fuel + 1, value, place, bias, label, text =>
      match readDelta? bias 36 1 place text with
      | none => none
      | some (sum, rest) =>
          let count := label.length + 1
          let value' := value + sum / count
          let place' := sum % count
          if value'.isValidChar then
            decodeFrom fuel value' (place' + 1)
              (adapt (sum - place) count (label.all fun c => c.toNat < 128))
              (label.take place' ++ Char.ofNat value' :: label.drop place') rest
          else none

/-- What stands before the last hyphen and what stands behind it. A hyphen at the very beginning is a
character like others. -/
def splitAtLastHyphen (text : List Char) : List Char × List Char :=
  let behind := (text.reverse.takeWhile (· != '-')).reverse
  let before := text.take (text.length - behind.length)
  if before.length ≤ 1 then ([], text) else (before.dropLast, behind)

/-- The label that a text in Punycode stands for, if it stands for one. -/
def decode? (text : List Char) : Option (List Char) :=
  let (plain, rest) := splitAtLastHyphen text
  if plain.all fun c => c.toNat < 128 then decodeFrom rest.length 128 0 72 plain rest else none

end RemoteDom.Punycode
