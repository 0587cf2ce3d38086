import RemoteDom.Endpoint.Basic
import RemoteDom.Polling

/-! The options of a client. -/

namespace RemoteDom

structure Options where
  /-- How long a command may take, in milliseconds. -/
  commandTimeout : Nat
  connectTimeout : Nat
  patience : Patience
  /-- How many tasks may run at once. -/
  maxConcurrency : Nat
deriving DecidableEq, Repr

namespace Options

def usual : Options := ⟨30000, 30000, .usual, 8⟩

/-- Refuses times of zero and a client that could not run any task. -/
def validate (options : Options) : Except Error Unit :=
  if options.commandTimeout = 0 then
    .error (.configuration "command timeout must be greater than zero")
  else if options.connectTimeout = 0 then
    .error (.configuration "connect timeout must be greater than zero")
  else if options.patience.timeout = 0 ∨ options.patience.interval = 0 then
    .error (.configuration "wait timeout and interval must be greater than zero")
  else if options.maxConcurrency = 0 then
    .error (.configuration "max concurrency must be at least 1")
  else .ok ()

def endpointMissing : String :=
  "endpoint is required. Use .endpoint() to set it.\n"
    ++ "Example: Client::builder().endpoint(\"ws://127.0.0.1:9222/devtools/browser/ID\")"

/-- Checks the options, then whether an endpoint is given, then the endpoint. -/
def validateWith (options : Options) (endpoint : Option String) : Except Error Endpoint := do
  options.validate
  match endpoint with
  | none => throw (.configuration endpointMissing)
  | some text => Endpoint.parse text

end Options

end RemoteDom
