import RemoteDom.Text.Ascii

/-! The numeric addresses of hosts. -/

namespace RemoteDom.Address

def splitAt (mark : Char) : List Char → List (List Char)
  | [] => [[]]
  | c :: rest =>
      if c = mark then [] :: splitAt mark rest
      else
        match splitAt mark rest with
        | [] => [[c]]
        | part :: parts => (c :: part) :: parts

def valueIn (base : Nat) (digits : List Char) : Nat :=
  digits.foldl (fun value c => value * base + (Text.hexValue? c).getD 0) 0

def allBelow (base : Nat) (digits : List Char) : Bool :=
  digits.all fun c => (Text.hexValue? c).any (· < base)

/-- A number in decimal, in octal after a zero or in hexadecimal after `0x`; a lone mark is zero. -/
def number? (text : List Char) : Option Nat :=
  let (base, digits) :=
    match text with
    | '0' :: 'x' :: digits | '0' :: 'X' :: digits => (16, digits)
    | '0' :: digit :: digits => (8, digit :: digits)
    | digits => (10, digits)
  if text.isEmpty || !allBelow base digits then none else some (valueIn base digits)

/-- The parts of a name; a point at its end counts for nothing. -/
def parts (name : List Char) : List (List Char) :=
  let parts := splitAt '.' name
  if 1 < parts.length && parts.getLast? == some [] then parts.dropLast else parts

/-- Whether a name has to be an address because its last part is a number. -/
def endsInNumber (name : List Char) : Bool :=
  match (parts name).getLast? with
  | some last => (!last.isEmpty && last.all Char.isDigit) || (number? last).isSome
  | none => false

/-- All but the last number fill one byte each; the last one fills what is left. -/
def combine? (numbers : List Nat) : Option Nat :=
  match numbers.getLast? with
  | none => none
  | some last =>
      let front := numbers.dropLast
      if 4 < numbers.length || front.any (255 < ·) || 1 <<< (8 * (4 - front.length)) ≤ last then none
      else
        some (front.zipIdx.foldl (fun value entry => value + entry.1 <<< (8 * (3 - entry.2))) last)

def dotted (value : Nat) : List Char :=
  let byte (place : Nat) := Text.digits 10 ((value >>> (8 * place)) % 256)
  byte 3 ++ '.' :: byte 2 ++ '.' :: byte 1 ++ '.' :: byte 0

/-- The address in four decimal parts that a name of numbers stands for. -/
def version4? (name : List Char) : Option (List Char) :=
  (((parts name).mapM number?).bind combine?).map dotted

def byte? (text : List Char) : Option Nat :=
  if text.isEmpty || !text.all Char.isDigit || (text.head? == some '0' && text.length != 1) then none
  else if valueIn 10 text < 256 then some (valueIn 10 text) else none

def tail4? (text : List Char) : Option (List Nat) :=
  match (splitAt '.' text).mapM byte? with
  | some [a, b, c, d] => some [a * 256 + b, c * 256 + d]
  | _ => none

def group? (text : List Char) : Option Nat :=
  if text.isEmpty || 4 < text.length || !allBelow 16 text then none else some (valueIn 16 text)

/-- Groups of sixteen bits; the last two may be written as four bytes if that is allowed here. -/
def groups? (atEnd : Bool) : List (List Char) → Option (List Nat)
  | [] => some []
  | [last] => if atEnd && last.contains '.' then tail4? last else (group? last).map fun g => [g]
  | text :: rest => do
      let group ← group? text
      let groups ← groups? atEnd rest
      return group :: groups

def groupsOrNone? (atEnd : Bool) (text : List Char) : Option (List Nat) :=
  if text.isEmpty then some [] else groups? atEnd (splitAt ':' text)

/-- What stands before and behind the first two colons in a row. -/
def splitAtGap : List Char → Option (List Char × List Char)
  | ':' :: ':' :: rest => some ([], rest)
  | c :: rest => (splitAtGap rest).map fun (before, behind) => (c :: before, behind)
  | [] => none

/-- The eight groups that a text stands for; two colons in a row stand for one zero or more. -/
def version6Groups? (text : List Char) : Option (List Nat) :=
  match splitAtGap text with
  | none =>
      match groupsOrNone? true text with
      | some groups => if groups.length = 8 then some groups else none
      | none => none
  | some (before, behind) => do
      let front ← groupsOrNone? false before
      let back ← groupsOrNone? true behind
      if 7 < front.length + back.length then none
      else return front ++ List.replicate (8 - front.length - back.length) 0 ++ back

def leadingZeros (groups : List Nat) : Nat := (groups.takeWhile (· == 0)).length

/-- Where the first longest run of zeros begins and how long it is. -/
def longestZeros (groups : List Nat) : Nat × Nat :=
  (List.range groups.length).foldl
    (fun best start =>
      let run := leadingZeros (groups.drop start)
      if best.2 < run then (start, run) else best) (0, 0)

def joined (groups : List Nat) : List Char :=
  (":".toList).intercalate (groups.map fun group => Text.digits 16 group)

/-- The shortest text of eight groups: the longest run of at least two zeros is left out. -/
def version6Text (groups : List Nat) : List Char :=
  let (start, run) := longestZeros groups
  if run < 2 then joined groups
  else joined (groups.take start) ++ "::".toList ++ joined (groups.drop (start + run))

def version6? (text : List Char) : Option (List Char) := (version6Groups? text).map version6Text

end RemoteDom.Address
