import RemoteDom.Endpoint.Mapping
import RemoteDom.Endpoint.Punycode
import RemoteDom.Text.Composition
import RemoteDom.Text.Joining

/-! The labels between the points of a name. A label beyond ASCII has a form in ASCII, and either form
may be given. What such a label may consist of depends on how its characters are joined, and in a name
with letters that run to the left, on where each label begins and ends. -/

namespace RemoteDom

open Text

structure Label where
  /-- The characters that are shown. -/
  letters : List Char
  /-- The form in ASCII. -/
  written : List Char
deriving DecidableEq, Repr

namespace Label

def isAscii (text : List Char) : Bool := text.all fun c => c.toNat < 128

/-! Joiners. -/

/-- Characters without width that join their neighbours or keep them apart. -/
def isJoiner (c : Char) : Bool := c == '\u200c' || c == '\u200d'

/-- Whether a joiner has a use at its place: behind a mark that takes the vowel from a letter, or, if it
keeps letters apart, between letters that would be joined. What stands before it is given in reverse. -/
def joinerFits (before : List Char) (joiner : Char) (rest : List Char) : Bool :=
  before.head?.any fun last =>
    Composition.markClass last.toNat == Composition.vowelKiller
      || joiner == '\u200c' && Joining.leadsTo Joining.joinsNext before
        && Joining.leadsTo Joining.joinsPrevious rest

/-- Whether all joiners of a text fit, whose part before the current place is given in reverse. -/
def joinersFit : List Char → List Char → Bool
  | _, [] => true
  | before, c :: rest =>
      (!isJoiner c || joinerFits before c rest) && joinersFit (c :: before) rest

/-! Directions. -/

def hasLeftward (label : Label) : Bool :=
  label.letters.any fun c => [.right, .arabicDigit].contains (Direction.ofChar c)

/-- Whether characters of these directions form a run to the right: it begins with a letter and ends with
a letter or a digit. -/
def runsRight (directions : List Direction) : Bool :=
  directions.all [.left, .digit, .neutral, .mark].contains
    && directions.getLast?.all [.left, .digit].contains

/-- Whether characters of these directions form a run to the left, which has digits of one kind only. -/
def runsLeft (directions : List Direction) : Bool :=
  directions.all [.right, .digit, .arabicDigit, .neutral, .mark].contains
    && directions.getLast?.all [.right, .digit, .arabicDigit].contains
    && !(directions.contains .digit && directions.contains .arabicDigit)

/-- Whether a label runs in one direction, as its first letter does. Marks at its end do not count. -/
def runsOneWay (label : Label) : Bool :=
  let directions := label.letters.map Direction.ofChar
  let directions := (directions.reverse.dropWhile (· == .mark)).reverse
  match directions with
  | .left :: _ => runsRight directions
  | .right :: _ => runsLeft directions
  | _ => label.letters.isEmpty

/-! Reading. -/

/-- Characters that no name of a host contains, however it is written. -/
def isForbidden (c : Char) : Bool :=
  c == '\x00' || c == '\t' || c == '\n' || c == '\r' || " #/:<>?@[\\]^|".toList.contains c

/-- Characters that the name of a domain does not contain. -/
def isForbiddenInDomain (c : Char) : Bool :=
  isForbidden c || c.toNat < 32 || c == '%' || c.toNat = 127

/-- Whether characters can be those of a label: no mark is first, and joiners fit. -/
def areLetters (letters : List Char) : Bool := !letters.head?.any isMark && joinersFit [] letters

/-- The most characters that are encoded, and the most that an encoded label has. -/
def maxLetters : Nat := 1000

def maxEncoded : Nat := 2000

/-- The letters of an encoded label, if it is encoded as it has to be. -/
def decode? (encoded : List Char) : Option (List Char) :=
  if encoded.getLast?.all (· == '-') || maxEncoded < encoded.length then none
  else
    match Punycode.decode? encoded with
    | none => none
    | some letters =>
        if letters.all (fun c => Mapping.isPlain c && c != '.' && !isForbiddenInDomain c)
            && compose letters == letters && areLetters letters
          then some letters else none

def encodedMark : List Char := "xn--".toList

/-- The label that is given in small letters and composed, in either form. -/
def ofText? (text : List Char) : Option Label :=
  if encodedMark.isPrefixOf text then
    (decode? (text.drop encodedMark.length)).map fun letters => ⟨letters, text⟩
  else if isAscii text then some ⟨text, text⟩
  else if areLetters text && text.length ≤ maxLetters then
    some ⟨text, encodedMark ++ Punycode.encode text⟩
  else none

end Label

end RemoteDom
