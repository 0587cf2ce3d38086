import RemoteDom.Json.Basic

/-! Reading the decimal text of a number. Digits are gathered into a significand of sixty-four bits;
the digits that no longer fit are dropped and only their places are counted. The significand is then
rounded once, and scaled by a power of ten that is rounded once. -/

namespace RemoteDom.Json.Decimal

def isDigit (c : Char) : Bool := '0' ≤ c && c ≤ '9'

def digitValue (c : Char) : Nat := c.toNat - 48

structure Scaled where
  significand : Nat
  exponent : Int
deriving Repr

def fits (significand digit : Nat) : Bool := significand * 10 + digit < 1 <<< 64

/-- Gathers the digits before the point. From the first digit that does not fit on, each digit only
raises the power of ten. -/
def gatherWhole : List Char → Scaled → Scaled
  | [], number => number
  | c :: rest, number =>
      if fits number.significand (digitValue c) then
        gatherWhole rest { number with significand := number.significand * 10 + digitValue c }
      else { number with exponent := number.exponent + (rest.length + 1) }

/-- Gathers the digits after the point, up to the first that does not fit. -/
def gatherFraction : List Char → Scaled → Scaled
  | [], number => number
  | c :: rest, number =>
      if fits number.significand (digitValue c) then
        gatherFraction rest
          ⟨number.significand * 10 + digitValue c, number.exponent - 1⟩
      else number

def powerOfTen (exponent : Nat) : Float := Float.ofScientific 1 false exponent

/-- Divides by a power of ten, the largest of the table at a time. -/
def shrink (x : Float) (exponent : Nat) : Float :=
  if exponent ≤ 308 then x / powerOfTen exponent
  else if x == 0.0 then x
  else shrink (x / powerOfTen 308) (exponent - 308)
termination_by exponent

/-- The number that a significand and a power of ten stand for, unless it is too large. -/
def Scaled.toBinary64? (number : Scaled) (negative : Bool) : Option Binary64 :=
  let start := (UInt64.ofNat number.significand).toFloat
  let signed (x : Float) : Binary64 := .ofFloat (if negative then -x else x)
  if number.exponent < 0 then
    some (signed (shrink start number.exponent.natAbs))
  else if number.exponent ≤ 308 then
    let scaled := start * powerOfTen number.exponent.natAbs
    if scaled.isInf then none else some (signed scaled)
  else if number.significand = 0 then some (signed start)
  else none

/-- Reads the text after the `e`: a sign and at least one digit. The exponent itself has thirty-two
bits; a larger one makes zero of a number that it would make small. -/
def readExponent (number : Scaled) (negative : Bool) (text : List Char) :
    Option (Binary64 × List Char) :=
  let (down, text) :=
    match text with
    | '+' :: rest => (false, rest)
    | '-' :: rest => (true, rest)
    | _ => (false, text)
  let shown := text.takeWhile isDigit
  let rest := text.dropWhile isDigit
  if shown.isEmpty then none
  else
    let size := shown.foldl (fun sum c => sum * 10 + digitValue c) 0
    if 1 <<< 31 ≤ size then
      if number.significand ≠ 0 && !down then none
      else some (.ofFloat (if negative then -0.0 else 0.0), rest)
    else
      let exponent := if down then number.exponent - size else number.exponent + size
      (Scaled.toBinary64? ⟨number.significand, exponent⟩ negative).map (·, rest)

def readTail (whole : List Char) (negative : Bool) (text : List Char) :
    Option (Json × List Char) :=
  let number := gatherWhole whole ⟨0, 0⟩
  match text with
  | '.' :: text =>
      let fraction := text.takeWhile isDigit
      let rest := text.dropWhile isDigit
      if fraction.isEmpty then none
      else
        let number := gatherFraction fraction number
        match rest with
        | 'e' :: rest => (readExponent number negative rest).map fun (x, rest) => (.real x, rest)
        | 'E' :: rest => (readExponent number negative rest).map fun (x, rest) => (.real x, rest)
        | _ => (number.toBinary64? negative).map fun x => (.real x, rest)
  | 'e' :: rest => (readExponent number negative rest).map fun (x, rest) => (.real x, rest)
  | 'E' :: rest => (readExponent number negative rest).map fun (x, rest) => (.real x, rest)
  | _ =>
      if number.exponent = 0 then
        if negative then
          if number.significand = 0 ∨ 1 <<< 63 < number.significand then
            (number.toBinary64? true).map fun x => (.real x, text)
          else some (.integer (-number.significand), text)
        else some (.integer number.significand, text)
      else (number.toBinary64? negative).map fun x => (.real x, text)

/-- Reads a number: no leading zero but a single one, and a digit on each side of the point. -/
def read (text : List Char) : Option (Json × List Char) :=
  let (negative, text) :=
    match text with
    | '-' :: rest => (true, rest)
    | _ => (false, text)
  let whole := text.takeWhile isDigit
  let rest := text.dropWhile isDigit
  match whole with
  | [] => none
  | '0' :: _ :: _ => none
  | _ => readTail whole negative rest

end RemoteDom.Json.Decimal
