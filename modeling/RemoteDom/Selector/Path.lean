import RemoteDom.Selector.Nesting
import RemoteDom.Selector.Runs
import RemoteDom.Text.Ascii
import RemoteDom.Text.Word

/-! XPath expressions as location steps. A step that tests for the name `iframe` reaches a frame element;
what follows it is searched in the whole document of that frame. -/

namespace RemoteDom.Selector.Path

structure Step where
  separator : List Char
  text : List Char
deriving DecidableEq, Repr

/-- The separator that an expression starts with; one that starts with a parenthesis has none. -/
def leadingSeparator : List Char → List Char
  | '.' :: '/' :: '/' :: _ => ['.', '/', '/']
  | '/' :: '/' :: _ => ['/', '/']
  | '.' :: '/' :: _ => ['.', '/']
  | '/' :: _ => ['/']
  | _ => []

def finish (separator read : List Char) : List Step :=
  if read.isEmpty then [] else [⟨separator, read.reverse⟩]

/-- The steps of the rest of an expression; the text of the current step is given in reverse. -/
def stepsFrom : Nesting → List Char → List Char → List Char → List Step
  | _, separator, read, [] => finish separator read
  | nesting, separator, read, c :: rest =>
      if nesting.outside ∧ c = '/' then
        match rest with
        | '/' :: rest => finish separator read ++ stepsFrom nesting ['/', '/'] [] rest
        | rest => finish separator read ++ stepsFrom nesting ['/'] [] rest
      else stepsFrom (nesting.feed c) separator (c :: read) rest

def steps (expression : List Char) : List Step :=
  let separator := leadingSeparator expression
  stepsFrom {} separator [] (expression.drop separator.length)

def frameName : List Char := ['i', 'f', 'r', 'a', 'm', 'e']

def startsWithFrame (text : List Char) : Bool :=
  Text.equalsIgnoringCase (text.take 6) frameName

/-- The node test is the name of a frame element, and nothing but predicates follows. -/
def isFrameTest (text : List Char) : Bool :=
  startsWithFrame text &&
    match text.drop 6 with
    | [] => true
    | c :: _ => c == '['

/-- What follows an axis made of word characters and two colons. -/
def afterAxis? (text : List Char) : Option (List Char) :=
  match text.takeWhile Text.isWordChar, text.dropWhile Text.isWordChar with
  | _ :: _, ':' :: ':' :: rest => some rest
  | _, _ => none

def mentionsFrame : Bool → List Char → Bool
  | _, [] => false
  | inWord, c :: rest =>
      (!inWord && startsWithFrame (c :: rest) &&
        match (c :: rest).drop 6 with
        | [] => true
        | d :: _ => !Text.isWordChar d) ||
      mentionsFrame (Text.isWordChar c) rest

/-- A step that reaches a frame element. In a parenthesised step the name may stand anywhere. -/
def isFrameStep (step : Step) : Bool :=
  match step.text with
  | '(' :: _ => mentionsFrame false step.text
  | text =>
      isFrameTest text ||
        match afterAxis? text with
        | some rest => isFrameTest rest
        | none => false

def Step.render (step : Step) : List Char := step.separator ++ step.text

/-- The expression of a run of steps inside a frame: its first step searches the whole document. -/
def renderInside : List Step → List Char
  | [] => []
  | step :: rest => ['/', '/'] ++ step.text ++ rest.flatMap Step.render

/-- One expression for each document that the expression crosses, if it crosses any frame. -/
def split? (expression : List Char) : Option (List (List Char)) :=
  match runs isFrameStep (steps expression) with
  | first :: second :: others =>
      some (first.flatMap Step.render :: (second :: others).map renderInside)
  | _ => none

/-- Makes an absolute expression start at the context node: a dot is put before its
first slash, behind any parentheses. -/
def relative : List Char → List Char
  | '(' :: rest => '(' :: relative rest
  | '/' :: rest => '.' :: '/' :: rest
  | expression => expression

end RemoteDom.Selector.Path
