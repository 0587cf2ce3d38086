import RemoteDom.Selector.Compound
import RemoteDom.Selector.Identifier
import RemoteDom.Selector.Literal
import RemoteDom.Selector.Path

/-! Locators: the ways to say which node is meant. Each compiles to an expression of one of the two
dialects that a browser evaluates, and a written-out expression may cross frames. -/

namespace RemoteDom

inductive Dialect where
  | css
  | xpath
deriving DecidableEq, Repr

namespace Dialect

def name : Dialect → String
  | .css => "CSS"
  | .xpath => "XPath"

/-- An expression that starts with a slash, behind a dot or a parenthesis or not, is XPath. -/
def detect (expression : List Char) : Dialect :=
  match expression with
  | '/' :: _ => .xpath
  | '.' :: '/' :: _ => .xpath
  | '(' :: '/' :: _ => .xpath
  | _ => .css

end Dialect

inductive Strategy where
  | css
  | xpath
  | identifier
  | className
  | tagName
  | nameAttribute
  | textContent
deriving DecidableEq, Repr

namespace Strategy

def all : List Strategy :=
  [.css, .xpath, .identifier, .className, .tagName, .nameAttribute, .textContent]

def wireName : Strategy → String
  | .css => "css"
  | .xpath => "xpath"
  | .identifier => "id"
  | .className => "class"
  | .tagName => "tag"
  | .nameAttribute => "name"
  | .textContent => "text"

def ofWireName? (name : String) : Option Strategy := all.find? fun s => s.wireName == name

theorem ofWireName?_wireName (strategy : Strategy) :
    ofWireName? strategy.wireName = some strategy := by
  cases strategy <;> decide

def dialect : Strategy → Dialect
  | .xpath | .textContent => .xpath
  | _ => .css

end Strategy

structure Locator where
  strategy : Strategy
  value : String
deriving DecidableEq, Repr

namespace Locator

def css (selector : String) : Locator := ⟨.css, selector⟩

def xpath (expression : String) : Locator := ⟨.xpath, expression⟩

def dialect (locator : Locator) : Dialect := locator.strategy.dialect

/-- Takes a bare expression in the dialect it looks like. -/
def detect (expression : String) : Locator :=
  match Dialect.detect expression.toList with
  | .xpath => .xpath expression
  | .css => .css expression

def expression (locator : Locator) : String :=
  let value := locator.value.toList
  match locator.strategy with
  | .css | .xpath | .tagName => locator.value
  | .identifier => String.ofList ('#' :: Selector.Identifier.escape value)
  | .className => String.ofList ('.' :: Selector.Identifier.escape value)
  | .nameAttribute => "[name=" ++ String.ofList (Selector.Literal.cssString value) ++ "]"
  | .textContent =>
      "//*[contains(text(), " ++ String.ofList (Selector.Literal.xpath value) ++ ")]"

def display (locator : Locator) : String := locator.strategy.wireName ++ "=" ++ locator.value

/-- The expression as it is evaluated below a node. -/
def relativeTo (expression : String) : String :=
  String.ofList (Selector.Path.relative expression.toList)

/-- One locator for each document that the locator crosses. All but the last find the frame to enter.
Only written-out expressions cross frames. -/
def segments (locator : Locator) : List Locator :=
  let parts :=
    match locator.strategy with
    | .css => Selector.Compound.split? locator.value.toList
    | .xpath => Selector.Path.split? locator.value.toList
    | _ => none
  match parts with
  | some parts => parts.map fun part => ⟨locator.strategy, String.ofList part⟩
  | none => [locator]

def crossesFrames (locator : Locator) : Bool := 1 < locator.segments.length

end Locator

end RemoteDom
