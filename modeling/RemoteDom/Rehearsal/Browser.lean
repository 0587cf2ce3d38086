import RemoteDom.Json.Reader
import RemoteDom.Json.Writer
import RemoteDom.Text.Search

/-! A browser that plays a part. Its rules say which requests they are for and how these are answered, one
reply after another. -/

namespace RemoteDom.Rehearsal

inductive Packet where
  | text (text : String)
  /-- Anything that the client does not look at. -/
  | ignored
  /-- Asks the client for a sign of life. -/
  | ping
  | close
  | loss
deriving DecidableEq, Repr

inductive Reply where
  | result (value : Json)
  | refusal (value : Json)
  /-- A text in which every `$ID` stands for the number of the request. -/
  | verbatim (text : String)
  | silence
  | close
  | loss
deriving DecidableEq, Repr

/-- One turn of the browser: frames that come first, and a reply. A frame is sent after some time; the end
of the connection comes at once. -/
structure Turn where
  before : List String
  reply : Reply
  delay : Nat
deriving DecidableEq, Repr

/-- Which requests are answered, and how the first, the second and so on are. The last turn is repeated. -/
structure Rule where
  method : Option String
  session : Option String
  /-- A part of the script that the request runs. -/
  has : Option String
  parameters : List (String × Json)
  turns : List Turn
  /-- How many requests have been answered. -/
  hits : Nat
deriving DecidableEq, Repr

/-- Puts one text in the place of another, wherever it occurs. -/
def replace (needle value : List Char) : Nat → List Char → List Char
  | 0, text => text
  | _, [] => []
  | fuel + 1, c :: rest =>
      if needle.isPrefixOf (c :: rest) then value ++ replace needle value fuel ((c :: rest).drop needle.length)
      else c :: replace needle value fuel rest

def Reply.packet? (number : Json) : Reply → Option Packet
  | .result value => some (.text (Json.ofMembers [("id", number), ("result", value)]).compact)
  | .refusal value => some (.text (Json.ofMembers [("id", number), ("error", value)]).compact)
  | .verbatim text =>
      let characters := text.toList
      some (.text (String.ofList
        (replace "$ID".toList number.compact.toList characters.length characters)))
  | .silence => none
  | .close => some .close
  | .loss => some .loss

def Turn.pause (turn : Turn) : Nat :=
  match turn.reply with
  | .close | .loss => 0
  | _ => turn.delay

namespace Rule

def textMember (name : String) (value : Json) : String :=
  ((value.get? name).bind Json.asString?).getD ""

/-- The parameter of that name; `arg` names the value of the first argument of a call. -/
def parameter? (name : String) (params : Json) : Option Json :=
  if name = "arg" then
    match params.get? "arguments" with
    | some (.array (first :: _)) => first.get? "value"
    | _ => none
  else params.get? name

def isFor (rule : Rule) (request : Json) : Bool :=
  let params := (request.get? "params").getD .null
  rule.method.all (fun method => method == textMember "method" request)
    && rule.session.all (fun session => session == textMember "sessionId" request)
    && rule.has.all (fun part =>
      Text.contains (textMember "expression" params) part
        || Text.contains (textMember "functionDeclaration" params) part)
    && rule.parameters.all fun wanted => parameter? wanted.1 params == some wanted.2

/-- The turn that is next, the last one over and over. -/
def turn? (rule : Rule) : Option Turn := (rule.turns[rule.hits]?).or rule.turns.getLast?

end Rule

/-- How requests are answered for which there is no rule. -/
def unknownMethod (request : Json) : Turn where
  before := []
  reply := .refusal (.ofMembers
    [("code", .integer (-32601)),
      ("message", .string ("'" ++ Rule.textMember "method" request ++ "' wasn't found"))])
  delay := 0

/-- The turn for a request by the first rule that is for it, and the rules from then on. -/
def answer (request : Json) : List Rule → Turn × List Rule
  | [] => (unknownMethod request, [])
  | rule :: rest =>
      if rule.isFor request then
        (rule.turn?.getD (unknownMethod request), { rule with hits := rule.hits + 1 } :: rest)
      else
        let (turn, rest) := answer request rest
        (turn, rule :: rest)

end RemoteDom.Rehearsal
