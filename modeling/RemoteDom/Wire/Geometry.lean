import RemoteDom.Wire.Fields

/-! The boxes of a node on the screen. -/

namespace RemoteDom

structure Rect where
  x : Binary64
  y : Binary64
  width : Binary64
  height : Binary64
deriving DecidableEq, Repr

/-- The corners of a box, abscissas and ordinates in turn. -/
structure Quad where
  numbers : List Binary64
deriving DecidableEq, Repr

namespace Quad

def abscissas : List Binary64 → List Binary64
  | x :: _ :: rest => x :: abscissas rest
  | rest => rest

def ordinates (numbers : List Binary64) : List Binary64 := abscissas numbers.tail

def sum (numbers : List Binary64) : Float := numbers.foldl (fun total x => total + x.toFloat) (-0.0)

/-- A quarter of the sums; there is no centre without four corners. -/
def center? (quad : Quad) : Option (Binary64 × Binary64) :=
  if quad.numbers.length < 8 then none
  else some (.ofFloat (sum (abscissas quad.numbers) / 4), .ofFloat (sum (ordinates quad.numbers) / 4))

def infinity : Float := Float.ofBits 0x7ff0000000000000

def least (numbers : List Binary64) : Float :=
  numbers.foldl (fun least x => if x.toFloat < least then x.toFloat else least) infinity

def greatest (numbers : List Binary64) : Float :=
  numbers.foldl (fun most x => if most < x.toFloat then x.toFloat else most) (-infinity)

/-- The smallest upright rectangle around the corners. -/
def bounds? (quad : Quad) : Option Rect :=
  if quad.numbers.length < 8 then none
  else
    let xs := abscissas quad.numbers
    let ys := ordinates quad.numbers
    some ⟨.ofFloat (least xs), .ofFloat (least ys), .ofFloat (greatest xs - least xs),
      .ofFloat (greatest ys - least ys)⟩

def ofJson? (value : Json) : Option Quad := (Wire.list Wire.number value).map Quad.mk

end Quad

structure BoxModel where
  content : Quad
  padding : Quad
  border : Quad
  margin : Quad
  width : Binary64
  height : Binary64
deriving DecidableEq, Repr

namespace BoxModel

def ofJson? : Json → Option BoxModel := Wire.record do
  let content ← Wire.required "content" Quad.ofJson?
  let padding ← Wire.required "padding" Quad.ofJson?
  let border ← Wire.required "border" Quad.ofJson?
  let margin ← Wire.required "margin" Quad.ofJson?
  let width ← Wire.required "width" Wire.number
  let height ← Wire.required "height" Wire.number
  return ⟨content, padding, border, margin, width, height⟩

/-- The model inside the answer to a request for it. -/
def ofAnswer? : Json → Option BoxModel := Wire.sole "model" ofJson?

end BoxModel

end RemoteDom
