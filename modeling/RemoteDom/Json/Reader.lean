import RemoteDom.Json.Decimal
import RemoteDom.Text.Ascii

/-! Reading JSON text. The reader is strict: no byte order mark, comments, trailing commas, raw control
characters or lone surrogates, and nothing after the value but blanks. Arrays and objects nest at most
one hundred and twenty-seven deep. Of two members with one name the later counts. -/

namespace RemoteDom.Json.Reader

def isBlank (c : Char) : Bool := c == ' ' || c == '\n' || c == '\t' || c == '\r'

def skipBlanks (text : List Char) : List Char := text.dropWhile isBlank

def hexUnit? (a b c d : Char) : Option Nat := do
  let a ← Text.hexValue? a
  let b ← Text.hexValue? b
  let c ← Text.hexValue? c
  let d ← Text.hexValue? d
  return ((a * 16 + b) * 16 + c) * 16 + d

def simpleEscape? : Char → Option Char
  | '"' => some '"'
  | '\\' => some '\\'
  | '/' => some '/'
  | 'b' => some '\x08'
  | 'f' => some '\x0c'
  | 'n' => some '\n'
  | 'r' => some '\r'
  | 't' => some '\t'
  | _ => none

/-- Reads the rest of a quoted text; what was read so far is given in reverse. A high surrogate must
be followed by a low one, and the two make one character. -/
def readQuoted : List Char → List Char → Option (String × List Char)
  | read, '"' :: rest => some (String.ofList read.reverse, rest)
  | read, '\\' :: 'u' :: a :: b :: c :: d :: rest =>
      match hexUnit? a b c d with
      | none => none
      | some unit =>
          if 0xD800 ≤ unit ∧ unit < 0xDC00 then
            match rest with
            | '\\' :: 'u' :: e :: f :: g :: h :: rest =>
                match hexUnit? e f g h with
                | none => none
                | some low =>
                    if 0xDC00 ≤ low ∧ low < 0xE000 then
                      readQuoted
                        (Char.ofNat (0x10000 + (unit - 0xD800) * 1024 + (low - 0xDC00)) :: read) rest
                    else none
            | _ => none
          else if 0xDC00 ≤ unit ∧ unit < 0xE000 then none
          else readQuoted (Char.ofNat unit :: read) rest
  | read, '\\' :: c :: rest =>
      match simpleEscape? c with
      | some meant => readQuoted (meant :: read) rest
      | none => none
  | read, c :: rest => if c.toNat < 32 then none else readQuoted (c :: read) rest
  | _, [] => none

mutual

/-- Reads one value, in which arrays and objects may nest `levels` deep. -/
def readValue : Nat → Nat → List Char → Option (Json × List Char)
  | 0, _, _ => none
  | fuel + 1, levels, text =>
      match skipBlanks text with
      | 'n' :: 'u' :: 'l' :: 'l' :: rest => some (.null, rest)
      | 't' :: 'r' :: 'u' :: 'e' :: rest => some (.bool true, rest)
      | 'f' :: 'a' :: 'l' :: 's' :: 'e' :: rest => some (.bool false, rest)
      | '"' :: rest => (readQuoted [] rest).map fun (value, rest) => (.string value, rest)
      | '[' :: rest =>
          match levels with
          | 0 => none
          | levels + 1 =>
              match skipBlanks rest with
              | ']' :: rest => some (.array [], rest)
              | _ => readItems fuel levels [] rest
      | '\x7b' :: rest =>
          match levels with
          | 0 => none
          | levels + 1 =>
              match skipBlanks rest with
              | '\x7d' :: rest => some (.object [], rest)
              | _ => readMembers fuel levels [] rest
      | text => Decimal.read text

def readItems : Nat → Nat → List Json → List Char → Option (Json × List Char)
  | 0, _, _, _ => none
  | fuel + 1, levels, items, text =>
      match readValue fuel levels text with
      | none => none
      | some (item, rest) =>
          match skipBlanks rest with
          | ',' :: rest => readItems fuel levels (item :: items) rest
          | ']' :: rest => some (.array (item :: items).reverse, rest)
          | _ => none

def readMembers : Nat → Nat → List (String × Json) → List Char → Option (Json × List Char)
  | 0, _, _, _ => none
  | fuel + 1, levels, members, text =>
      match skipBlanks text with
      | '"' :: rest =>
          match readQuoted [] rest with
          | none => none
          | some (name, rest) =>
              match skipBlanks rest with
              | ':' :: rest =>
                  match readValue fuel levels rest with
                  | none => none
                  | some (value, rest) =>
                      let members := putMember name value members
                      match skipBlanks rest with
                      | ',' :: rest => readMembers fuel levels members rest
                      | '\x7d' :: rest => some (.object members, rest)
                      | _ => none
              | _ => none
      | _ => none

end

end RemoteDom.Json.Reader

namespace RemoteDom.Json

/-- The value that a text holds, if it is valid. Each value takes at least one character, so twice the
length of the text bounds the work. -/
def read? (text : String) : Option Json :=
  let chars := text.toList
  match Reader.readValue (2 * chars.length + 2) 127 chars with
  | some (value, rest) => if (Reader.skipBlanks rest).isEmpty then some value else none
  | none => none

end RemoteDom.Json
