import RemoteDom.Text.Ascii

/-! Writing any text as a CSS identifier. Letters and digits of ASCII, hyphens, underscores and all
characters beyond ASCII stand for themselves; a digit at the start, or after a hyphen at the start, and
the control characters are written as their code points; anything else is escaped by a backslash. NUL
cannot be written and becomes the replacement character. -/

namespace RemoteDom.Selector.Identifier

/-- A backslash, the code point in hexadecimal, and a space that ends it. -/
def codePoint (c : Char) : List Char := '\\' :: Text.digits 16 c.toNat ++ [' ']

def isPlain (c : Char) : Bool := c.isAlphanum || c == '-' || c == '_' || 128 ≤ c.toNat

/-- One character, where a digit may or may not stand for itself. -/
def escapeChar (digitAllowed : Bool) (c : Char) : List Char :=
  if c = '\x00' then ['\ufffd']
  else if c.toNat < 32 ∨ c.toNat = 127 then codePoint c
  else if c.isDigit ∧ ¬ digitAllowed then codePoint c
  else if isPlain c then [c]
  else ['\\', c]

def escape : List Char → List Char
  | [] => []
  | ['-'] => ['\\', '-']
  | [c] => escapeChar false c
  | c :: d :: rest =>
      escapeChar false c ++ escapeChar (c ≠ '-') d ++ rest.flatMap (escapeChar true)

end RemoteDom.Selector.Identifier
