import RemoteDom.Selector.Nesting
import RemoteDom.Selector.Runs
import RemoteDom.Text.Ascii
import RemoteDom.Text.Blank

/-! CSS selectors as compounds joined by combinators. A compound whose type selector is `iframe` reaches
a frame element; what follows it is searched in the document of that frame. -/

namespace RemoteDom.Selector

structure Compound where
  text : List Char
  combinator : Option Char
deriving DecidableEq, Repr

namespace Compound

def isCombinator (c : Char) : Bool := c == ' ' || c == '>' || c == '+' || c == '~'

def isBlankText (text : List Char) : Bool := (Text.trim text).isEmpty

mutual

/-- The compounds of the rest of a selector while a compound is read; its text so far is given in
reverse. A combinator before any text becomes part of the text. -/
def gather : Nesting → List Char → List Char → List Compound
  | _, read, [] =>
      let text := Text.trim read.reverse
      if text.isEmpty then [] else [⟨text, none⟩]
  | nesting, read, c :: rest =>
      if nesting.outside ∧ isCombinator c ∧ ¬ isBlankText read.reverse then
        between nesting read.reverse c rest
      else gather (nesting.feed c) (c :: read) rest

/-- The same after a compound, within its combinator: blanks around at most one other sign. -/
def between : Nesting → List Char → Char → List Char → List Compound
  | _, text, combinator, [] => [⟨text, some combinator⟩]
  | nesting, text, combinator, c :: rest =>
      if c = ' ' then between nesting text combinator rest
      else if combinator = ' ' ∧ isCombinator c then between nesting text c rest
      else ⟨text, some combinator⟩ :: gather (nesting.feed c) [c] rest

end

def ofSelector (selector : List Char) : List Compound := gather {} [] selector

def isAsciiLetter (c : Char) : Bool := c.isAlpha

/-- The type selector of a compound: a letter, then letters, digits and hyphens. -/
def typeName (text : List Char) : List Char :=
  match text with
  | c :: _ =>
      if isAsciiLetter c then text.takeWhile fun d => d.isAlphanum || d == '-' else []
  | [] => []

def isFrame (compound : Compound) : Bool :=
  Text.equalsIgnoringCase (typeName (Text.trim compound.text)) ['i', 'f', 'r', 'a', 'm', 'e']

/-- A combinator between two compounds; all but the blank have blanks around them. -/
def renderCombinator (combinator : Option Char) : List Char :=
  match combinator with
  | some c => if c = ' ' then [' '] else [' ', c, ' ']
  | none => [' ']

/-- The selector of a run of compounds, without the last combinator. -/
def renderRun : List Compound → List Char
  | [] => []
  | [last] => last.text
  | compound :: rest => compound.text ++ renderCombinator compound.combinator ++ renderRun rest

/-- One selector for each document that the selector crosses, if it crosses any frame. -/
def split? (selector : List Char) : Option (List (List Char)) :=
  match runs isFrame (ofSelector selector) with
  | first :: second :: others => some ((first :: second :: others).map renderRun)
  | _ => none

end Compound

end RemoteDom.Selector
