import RemoteDom.Endpoint.Host
import RemoteDom.Error
import RemoteDom.Text.Blank

/-! The addresses under which browsers can be reached. -/

namespace RemoteDom

structure Endpoint where
  scheme : String
  host : String
  /-- Set unless it is the usual port of the scheme. -/
  port : Option Nat
deriving DecidableEq, Repr

namespace Endpoint

inductive Kind where
  /-- A host is required; a backslash is as good as a slash. -/
  | hosted
  | file
  | unknown
deriving DecidableEq, Repr

def Kind.ofScheme (scheme : String) : Kind :=
  if ["ws", "wss", "http", "https", "ftp"].contains scheme then .hosted
  else if scheme == "file" then .file
  else .unknown

def usualPort : String → Option Nat
  | "ws" | "http" => some 80
  | "wss" | "https" => some 443
  | "ftp" => some 21
  | _ => none

/-- The text without blanks and control characters around it and without tabs and line ends in it. -/
def cleaned (text : List Char) : List Char :=
  let isOuter (c : Char) : Bool := c.toNat ≤ 32
  let inner := ((text.dropWhile isOuter).reverse.dropWhile isOuter).reverse
  inner.filter fun c => c != '\t' && c != '\n' && c != '\r'

def isSchemeChar (c : Char) : Bool := c.isAlphanum || c == '+' || c == '-' || c == '.'

/-- The scheme in small letters, and what follows the colon. -/
def splitScheme? (text : List Char) : Option (String × List Char) :=
  let scheme := text.takeWhile isSchemeChar
  match text.head?, text.dropWhile isSchemeChar with
  | some first, ':' :: rest =>
      if first.isAlpha then some (String.ofList (scheme.map Char.toLower), rest) else none
  | _, _ => none

def isSlash (kind : Kind) (c : Char) : Bool := c == '/' || (c == '\\' && kind != .unknown)

def endsAuthority (kind : Kind) (c : Char) : Bool := isSlash kind c || c == '?' || c == '#'

/-- What stands before the last at sign, if there is one, and what stands behind it. -/
def splitUser (authority : List Char) : Option (List Char) × List Char :=
  let behind := (authority.reverse.takeWhile (· != '@')).reverse
  if authority.contains '@' then (some (authority.take (authority.length - behind.length - 1)), behind)
  else (none, behind)

/-- Splits before the first colon outside brackets. -/
def splitPort : Bool → List Char → List Char × Option (List Char)
  | _, [] => ([], none)
  | bracketed, c :: rest =>
      if c = ':' && !bracketed then ([], some rest)
      else
        let bracketed := if c = '[' then true else if c = ']' then false else bracketed
        let (host, port) := splitPort bracketed rest
        (c :: host, port)

/-- A port of at most sixteen bits; none if it is left out or the usual one. Gives nothing for a text that is
no port. -/
def port? (scheme : String) (text : List Char) : Option (Option Nat) :=
  let digits := text.takeWhile Char.isDigit
  let value := Address.valueIn 10 digits
  match text.dropWhile Char.isDigit with
  | [] | '\\' :: _ =>
      if 1 <<< 16 ≤ value then none
      else if digits.isEmpty || usualPort scheme = some value then some none
      else some (some value)
  | _ => none

/-- Whether something that belongs to a host is there. An empty user counts only if something follows. -/
def needsHost (user port : Option (List Char)) (more : Bool) : Bool :=
  port.isSome || user.any fun name => if name.isEmpty then more else name != [':']

def readAuthority? (scheme : String) (kind : Kind) (rest : List Char) : Option Endpoint :=
  let authority := rest.takeWhile fun c => !endsAuthority kind c
  let (user, place) := splitUser authority
  let (host, port) := splitPort false place
  if host.isEmpty && (kind = .hosted || needsHost user port (authority.length < rest.length)) then none
  else
    let name :=
      match kind with
      | .unknown => if Host.isOpaque host then some host else none
      | _ => Host.ofText? host
    match name, port? scheme (port.getD []) with
    | some name, some port => some ⟨scheme, String.ofList name, port⟩
    | _, _ => none

def isDrive : List Char → Bool
  | [letter, mark] => letter.isAlpha && (mark == ':' || mark == '|')
  | _ => false

/-- Reads a URL of a file; only behind two slashes does it name a host. -/
def readFile? (rest : List Char) : Option Endpoint :=
  match rest with
  | first :: second :: rest =>
      if isSlash .file first && isSlash .file second then
        let host := rest.takeWhile fun c => !endsAuthority .file c
        if host.isEmpty || isDrive host || (Host.ofText? host).isSome then some ⟨"file", "", none⟩
        else none
      else some ⟨"file", "", none⟩
  | _ => some ⟨"file", "", none⟩

/-- Reads a URL as far as it says where to connect. -/
def ofUrl? (text : String) : Option Endpoint := do
  let (scheme, rest) ← splitScheme? (cleaned text.toList)
  match Kind.ofScheme scheme with
  | .hosted => readAuthority? scheme .hosted (rest.dropWhile (isSlash .hosted))
  | .file => readFile? rest
  | .unknown =>
      match rest with
      | '/' :: '/' :: rest => readAuthority? scheme .unknown rest
      | _ => some ⟨scheme, "", none⟩

/-- The endpoint that a URL names; it has to be one of a web socket. -/
def parse (text : String) : Except Error Endpoint :=
  if (Text.trim text.toList).isEmpty then .error (.configuration "endpoint URL is empty")
  else
    match ofUrl? text with
    | none => .error (.configuration ("invalid endpoint URL " ++ text))
    | some endpoint =>
        if endpoint.scheme == "ws" || endpoint.scheme == "wss" then .ok endpoint
        else .error (.configuration ("endpoint must use ws or wss, got " ++ endpoint.scheme))

end Endpoint

end RemoteDom
