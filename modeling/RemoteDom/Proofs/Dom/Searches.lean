import RemoteDom.Proofs.Dom.Capability
import RemoteDom.Proofs.Dom.ScriptStrings
import RemoteDom.Proofs.Program.Confinement

/-! What a search asks for. The script for a document and the function for a node are two forms of one search, which
differ in the root they search below and in how the selector is given: as a literal or as a parameter. -/

namespace RemoteDom

namespace Script

def resultType : Bool → String
  | false => firstType
  | true => snapshotType

/-- The call that looks for a selector below a root, both being expressions of the script. XPath is evaluated by the
document of the root. -/
def search (document root selector : String) : Dialect → Bool → String
  | .css, false => root ++ ".querySelector(" ++ selector ++ ")"
  | .css, true => "Array.from(" ++ root ++ ".querySelectorAll(" ++ selector ++ "))"
  | .xpath, all =>
      document ++ ".evaluate(" ++ selector ++ ", " ++ root ++ ", null, " ++ resultType all ++ ", null)"

def asExpression (call : String) : Dialect → Bool → String
  | .css, _ => call
  | .xpath, false => call ++ ".singleNodeValue"
  | .xpath, true => "(() => \x7b const snapshot = " ++ call ++ "; " ++ gather ++ "\x7d)()"

def parameter : Dialect → String
  | .css => "selector"
  | .xpath => "xpath"

def asFunction (call : String) : Dialect → Bool → String
  | .css, _ => "function(selector) \x7b return " ++ call ++ "; \x7d"
  | .xpath, false =>
      "function(xpath) \x7b const doc = this.ownerDocument || this; return " ++ call ++ ".singleNodeValue; \x7d"
  | .xpath, true =>
      "function(xpath) \x7b const doc = this.ownerDocument || this; const snapshot = " ++ call ++ "; "
        ++ gather ++ "\x7d"

theorem around_eq (dialect : Dialect) (all : Bool) (literal : String) :
    (aroundLiteral dialect all).1 ++ literal ++ (aroundLiteral dialect all).2 =
      asExpression (search "document" "document" literal dialect all) dialect all := by
  unfold aroundLiteral asExpression search resultType
  cases dialect <;> cases all
  all_goals simp only [← String.append_assoc, String.reduceAppend]
  all_goals simp only [String.append_assoc, String.reduceAppend]

private theorem belowNode_eq (dialect : Dialect) (all : Bool) :
    belowNode dialect all = asFunction (search "doc" "this" (parameter dialect) dialect all) dialect all := by
  cases dialect <;> cases all <;> decide +kernel

private theorem plain_around (dialect : Dialect) (all : Bool) :
    ((aroundLiteral dialect all).1 ++ (aroundLiteral dialect all).2).toList.all isPlain = true := by
  unfold aroundLiteral firstType snapshotType gather
  cases dialect <;> cases all <;> (simp only [String.toList_append, List.all_append]; simp [isPlain])

end Script

/-- Runs no script, nor is it sent as it is, which could be one. -/
def Command.scriptless : Command → Bool
  | .evaluate .. | .callFunctionOn .. | .raw .. => false
  | _ => true

def Act.Scriptless : Act → Prop
  | .request _ command => command.scriptless = true
  | _ => True

/-- A command that looks for an expression in an extent. In a document the expression is the only string of the script,
a literal around which the text is always the same; elsewhere it is the only argument of the function, made relative if
it is XPath below a node. -/
inductive Seeks (dialect : Dialect) (all : Bool) (expression : String) : Extent → Command → Prop
  | document {script before literal behind : String} (parts : script = before ++ literal ++ behind)
      (around : ∀ selector, before ++ selector ++ behind =
        Script.asExpression (Script.search "document" "document" selector dialect all) dialect all)
      (complete : Script.IsLiteral literal expression)
      (sole : Script.strings script.toList = some [Script.codeUnits expression.toList]) :
      Seeks dialect all expression .document (.evaluate script false false)
  | node {function : String} (handle : Handle)
      (same : function =
        Script.asFunction (Script.search "doc" "this" (Script.parameter dialect) dialect all) dialect all) :
      Seeks dialect all expression (.node handle)
        (.callFunctionOn function handle
          [.value (.string (if dialect = .xpath then Locator.relativeTo expression else expression))] false false)
  | shadow {function : String} (handle : Handle) (mode : ShadowMode)
      (same : function =
        Script.asFunction (Script.search "doc" "this" (Script.parameter dialect) dialect all) dialect all) :
      Seeks dialect all expression (.shadow handle mode)
        (.callFunctionOn function handle [.value (.string expression)] false false)

/-- Whatever text an expression has, the literal that it is written as is the only string around it. -/
private theorem seeks_inDocument (dialect : Dialect) (all : Bool) (expression : String) :
    Seeks dialect all expression .document (.evaluate (Script.inDocument dialect all expression) false false) := by
  have plain := Script.plain_around dialect all
  rw [String.toList_append, List.all_append, Bool.and_eq_true, List.all_eq_true, List.all_eq_true] at plain
  have literal := Script.isLiteral_quote expression
  refine .document rfl (Script.around_eq dialect all) literal ?_
  rw [Script.inDocument, literal.strings plain.1, ← List.append_nil (Script.aroundLiteral dialect all).2.toList,
    Script.strings_append plain.2, Script.strings]
  rfl

/-- No text makes the script that looks for it look for another. -/
private theorem Seeks.expression_unique {dialect dialect' : Dialect} {all all' : Bool} {expression other : String}
    {command : Command} (seeks : Seeks dialect all expression .document command)
    (also : Seeks dialect' all' other .document command) : expression = other := by
  cases seeks with
  | document _ _ _ sole =>
      cases also with
      | document _ _ _ sole' =>
          have units := List.singleton_inj.mp (Option.some.inj (sole.symm.trans sole'))
          exact String.toList_injective (Script.codeUnits_injective units)

theorem Scope.seeks_matching (scope : Scope) (dialect : Dialect) (all : Bool) (expression : String) :
    Seeks dialect all expression scope.extent (scope.matching dialect all expression) := by
  unfold matching
  split
  next same => rw [same]; exact seeks_inDocument dialect all expression
  next handle same => rw [same]; exact .node handle (Script.belowNode_eq dialect all)
  next handle mode same => rw [same]; exact .shadow handle mode (Script.belowNode_eq dialect all)

namespace Element

private theorem scriptless_make (handle : Handle) (context : Context) : Confined Act.Scriptless (make handle context) :=
  Confined.bind (confined_ask trivial) fun _ => confined_pure _

end Element

namespace Scope

private theorem scriptless_takeItems (context : Context) (list : Handle) :
    Confined Act.Scriptless (takeItems context list) := by
  refine Confined.bind (confined_callAbout rfl) fun properties => ?_
  refine Confined.lift (confined_execute rfl) fun outcome => ?_
  exact confined_mapM fun handle => Element.scriptless_make handle context

variable {scope : Scope} {allowed : Act → Prop}

theorem confined_evaluate {command : Command} (is : allowed (.request scope.context.session command)) :
    Confined allowed (scope.evaluate command) := by
  unfold evaluate
  split
  · exact confined_callAbout is
  · exact confined_call is

private theorem confined_queryHere {locator : Locator} {all : Bool} (mild : ∀ act, act.Scriptless → allowed act)
    (is : allowed (.request scope.context.session (scope.matching locator.dialect all locator.expression))) :
    Confined allowed (scope.queryHere locator all) := by
  refine (confined_outcome (scope.check locator.dialect)).bind fun _ => ?_
  refine (confined_evaluate is).bind fun evaluation => ?_
  split
  · exact confined_throw _
  split
  · exact confined_pure []
  next handle _ =>
    split
    · exact (scriptless_takeItems scope.context handle).mono mild
    · exact ((Element.scriptless_make handle scope.context).mono mild).bind fun element => confined_pure [element]

/-- In whatever part of a page one searches, the same expression is looked for by the same call: in a document it is
the one string of the script, which looks for no other expression, below a node or a shadow root the argument of the
function. It is the first that the browser is asked, and no other script follows, however it answers. Where the dialect
is not supported nothing is asked. -/
theorem queryHere_seeks (scope : Scope) (locator : Locator) (all : Bool) :
    (scope.extent.supports locator.dialect = false ∧
      scope.queryHere locator all = throw (.capability locator.dialect.name scope.extent.name)) ∨
    scope.extent.supports locator.dialect = true ∧ ∃ command,
      Seeks locator.dialect all locator.expression scope.extent command ∧
      (∃ next, (scope.queryHere locator all).run = .act (.request scope.context.session command) next) ∧
      Confined (fun act => act.Scriptless ∨ act = .request scope.context.session command)
        (scope.queryHere locator all) ∧
      (scope.extent = .document →
        ∀ dialect all other, Seeks dialect all other .document command → other = locator.expression) := by
  cases supported : scope.extent.supports locator.dialect with
  | false =>
      refine .inl ⟨rfl, ?_⟩
      unfold queryHere
      rw [scope.check_of_unsupported supported]
      rfl
  | true =>
      have seeks := scope.seeks_matching locator.dialect all locator.expression
      refine .inr ⟨rfl, scope.matching locator.dialect all locator.expression, seeks, ?_,
        confined_queryHere (fun _ => .inl) (.inr rfl), fun document dialect all other also => ?_⟩
      · unfold queryHere
        rw [scope.check_of_supports supported]
        unfold evaluate
        cases scope.extent.handle? <;> exact ⟨_, rfl⟩
      · rw [document] at seeks
        exact also.expression_unique seeks

end Scope

end RemoteDom
