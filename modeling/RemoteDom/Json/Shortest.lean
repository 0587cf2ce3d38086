import RemoteDom.Json.Basic
import RemoteDom.Text.Ascii

/-! The shortest decimal text that reads back as a given number, and of those the nearest one.
Numbers between a hundred-thousandth and ten to the sixteenth are written with a point, all others
with an exponent. -/

namespace RemoteDom.Binary64

/-- The magnitude of a finite number is `mantissa * 2 ^ power`. -/
def mantissa (x : Binary64) : Nat :=
  if x.exponentField = 0 then x.fractionField else x.fractionField + (1 <<< 52)

def power (x : Binary64) : Int :=
  (if x.exponentField = 0 then 1 else (x.exponentField : Int)) - 1075

/-- The reals that round to a number, in quarters of its last place: the number itself is `4 * mantissa`,
and below a power of two the lower half is half as wide. -/
structure Interval where
  low : Nat
  value : Nat
  high : Nat
  closed : Bool
  power : Int

def interval (x : Binary64) : Interval :=
  let m := x.mantissa
  { low := if x.fractionField = 0 ∧ 1 < x.exponentField then 4 * m - 1 else 4 * m - 2
    value := 4 * m
    high := 4 * m + 2
    closed := m % 2 == 0
    power := x.power - 2 }

/-- The size of a number on the grid of ten to the `place`, as a quotient of two naturals. -/
def Interval.onGrid (i : Interval) (place : Int) (quarters : Nat) : Nat × Nat :=
  let up := (1 <<< i.power.toNat) * Nat.pow 10 (-place).toNat
  let down := (1 <<< (-i.power).toNat) * Nat.pow 10 place.toNat
  (quarters * up, down)

def Interval.holds (i : Interval) (place : Int) (digits : Nat) : Bool :=
  let (low, unit) := i.onGrid place i.low
  let (high, _) := i.onGrid place i.high
  if i.closed then low ≤ digits * unit && digits * unit ≤ high
  else low < digits * unit && digits * unit < high

/-- The point of the grid nearest to the number among its two neighbours, if one rounds to it. -/
def Interval.nearest? (i : Interval) (place : Int) : Option Nat :=
  let (value, unit) := i.onGrid place i.value
  let below := value / unit
  let above := below + 1
  match i.holds place below, i.holds place above with
  | true, true =>
      let rest := 2 * (value % unit)
      if rest < unit then some below
      else if unit < rest then some above
      else some (if below % 2 = 0 then below else above)
  | true, false => some below
  | false, true => some above
  | false, false => none

/-- The coarsest grid that has a point rounding to the number, and that point. -/
def Interval.coarsest (i : Interval) : Nat → Int → Nat × Int
  | 0, place => (0, place)
  | fuel + 1, place =>
      match i.nearest? place with
      | some digits => if digits = 0 then i.coarsest fuel (place - 1) else (digits, place)
      | none => i.coarsest fuel (place - 1)

/-- The significant digits and the power of ten of the last one. -/
def shortest (x : Binary64) : Nat × Int := x.interval.coarsest 700 310

def magnitudeText (x : Binary64) : String :=
  if x.isZero then "0.0"
  else
    let (number, place) := x.shortest
    let shown := Text.digits 10 number
    let point : Int := shown.length + place
    if 0 ≤ place ∧ point ≤ 16 then
      String.ofList (shown ++ List.replicate place.toNat '0') ++ ".0"
    else if 0 < point ∧ point ≤ 16 then
      String.ofList (shown.take point.toNat ++ '.' :: shown.drop point.toNat)
    else if -5 < point ∧ point ≤ 0 then
      "0." ++ String.ofList (List.replicate point.natAbs '0' ++ shown)
    else
      let exponent := point - 1
      let sign := if exponent < 0 then "-" else "+"
      let head :=
        match shown with
        | [only] => String.ofList [only]
        | first :: others => String.ofList (first :: '.' :: others)
        | [] => ""
      head ++ "e" ++ sign ++ toString exponent.natAbs

/-- The text of a number; those that are not finite have none. -/
def text? (x : Binary64) : Option String :=
  if x.isFinite then some ((if x.isNegative then "-" else "") ++ x.magnitudeText) else none

end RemoteDom.Binary64
