import RouteFlow.Clock
import RouteFlow.Entries
import RouteFlow.Http.Method
import RouteFlow.Url.Basic

/-!
# Outbound calls

What is sent to another server and what comes of it: a response, or an error of the call. Headers
are sorted by name; of equal names the last value counts.
-/

namespace RouteFlow.Http

/-- A request to another server. -/
structure Request where
  method : Method
  url : Url
  headers : Entries String
  body : List UInt8
  deriving DecidableEq

/-- The answer of another server. -/
structure Response where
  status : Nat
  headers : Entries String
  body : List UInt8
  deriving DecidableEq

/-- Why a call brings no answer. -/
inductive CallError where
  | timeout
  | network (detail : String)
  | tooLarge (limit : Nat)
  | malformed (detail : String)
  | other (detail : String)
  deriving DecidableEq

/-- The wording of an error of a call. -/
def CallError.message : CallError → String
  | .timeout => "timeout"
  | .network detail => "connect/dns/tls error: " ++ detail
  | .tooLarge limit => "response too large (>" ++ toString limit ++ " bytes)"
  | .malformed detail => "malformed response: " ++ detail
  | .other detail => "http error: " ++ detail

/-- A call as it is sent: the request, how long the answer may take and how large it may be. -/
structure Call where
  request : Request
  timeout : Nanos
  limit : Nat
  deriving DecidableEq

/-- The value of the first header with a name, whatever its case. -/
def header? (headers : Entries String) (name : String) : Option String :=
  (headers.find? fun h => Text.sameLetters h.1 name).map (·.2)

end RouteFlow.Http
