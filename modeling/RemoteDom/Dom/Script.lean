import RemoteDom.Json.Writer
import RemoteDom.Selector.Locator

/-! The scripts that find nodes. In a document the expression stands in the script as a literal; below a
node it is the argument of a function that is called on the node. -/

namespace RemoteDom.Script

def firstType : String := "XPathResult.FIRST_ORDERED_NODE_TYPE"

def snapshotType : String := "XPathResult.ORDERED_NODE_SNAPSHOT_TYPE"

def gather : String :=
  "const nodes = []; "
    ++ "for (let i = 0; i < snapshot.snapshotLength; i++) nodes.push(snapshot.snapshotItem(i)); "
    ++ "return nodes; "

/-- What stands before and after the literal in the script for a document. -/
def aroundLiteral : Dialect → Bool → String × String
  | .css, false => ("document.querySelector(", ")")
  | .css, true => ("Array.from(document.querySelectorAll(", "))")
  | .xpath, false =>
      ("document.evaluate(", ", document, null, " ++ firstType ++ ", null).singleNodeValue")
  | .xpath, true =>
      ("(() => \x7b const snapshot = document.evaluate(",
        ", document, null, " ++ snapshotType ++ ", null); " ++ gather ++ "\x7d)()")

/-- The script that finds the first match or all matches in a document. -/
def inDocument (dialect : Dialect) (all : Bool) (expression : String) : String :=
  (aroundLiteral dialect all).1 ++ Json.quote expression ++ (aroundLiteral dialect all).2

/-- The function that finds the first match or all matches below the node that it is called on. -/
def belowNode : Dialect → Bool → String
  | .css, false => "function(selector) \x7b return this.querySelector(selector); \x7d"
  | .css, true => "function(selector) \x7b return Array.from(this.querySelectorAll(selector)); \x7d"
  | .xpath, false =>
      "function(xpath) \x7b const doc = this.ownerDocument || this; return doc.evaluate(xpath, this, null, "
        ++ firstType ++ ", null).singleNodeValue; \x7d"
  | .xpath, true =>
      "function(xpath) \x7b const doc = this.ownerDocument || this; "
        ++ "const snapshot = doc.evaluate(xpath, this, null, " ++ snapshotType ++ ", null); "
        ++ gather ++ "\x7d"

def textContent : String := "function() \x7b return this.textContent; \x7d"

end RemoteDom.Script
