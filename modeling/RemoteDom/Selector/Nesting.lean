/-! The nesting of quotes, brackets and parentheses along a selector. Inside quotes nothing but the same
quote counts. Brackets and parentheses are counted apart, and a closing one without its opening one
makes its count negative. -/

namespace RemoteDom.Selector

structure Nesting where
  quote : Option Char := none
  brackets : Int := 0
  parens : Int := 0
deriving DecidableEq, Repr

namespace Nesting

def outside (n : Nesting) : Bool := n.quote.isNone && n.brackets == 0 && n.parens == 0

def feed (n : Nesting) (c : Char) : Nesting :=
  match n.quote with
  | some quote => if c = quote then { n with quote := none } else n
  | none =>
      if c = '\'' ∨ c = '"' then { n with quote := some c }
      else if c = '[' then { n with brackets := n.brackets + 1 }
      else if c = ']' then { n with brackets := n.brackets - 1 }
      else if c = '(' then { n with parens := n.parens + 1 }
      else if c = ')' then { n with parens := n.parens - 1 }
      else n

def isDelimiter (c : Char) : Bool :=
  c == '\'' || c == '"' || c == '[' || c == ']' || c == '(' || c == ')'

theorem feed_of_not_delimiter (n : Nesting) (c : Char) (plain : isDelimiter c = false)
    (unquoted : n.quote = none) : n.feed c = n := by
  simp only [isDelimiter, Bool.or_eq_false_iff, beq_eq_false_iff_ne] at plain
  obtain ⟨⟨⟨⟨⟨single, double⟩, openBracket⟩, closeBracket⟩, openParen⟩, closeParen⟩ := plain
  simp [feed, unquoted, single, double, openBracket, closeBracket, openParen, closeParen]

end Nesting

end RemoteDom.Selector
