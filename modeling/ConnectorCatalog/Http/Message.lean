import ConnectorCatalog.Causes
import ConnectorCatalog.Http.Status
import ConnectorCatalog.Text.Lossy

/-!
# Requests and responses

What goes over a network. A `Network` answers requests and has a state of its own; no answer at all
is a failure with causes.
-/

namespace ConnectorCatalog.Http

/-- What a request asks a server to do. -/
inductive Method where
  | get | post | put | delete
deriving DecidableEq, Repr

/-- The name of a method. -/
def Method.name : Method → String
  | get => "GET"
  | post => "POST"
  | put => "PUT"
  | delete => "DELETE"

/-- A request. -/
structure Request where
  method : Method
  url : String
  headers : List (String × String)
  body : Bytes
deriving DecidableEq, Repr

/-- A response. -/
structure Response where
  status : Nat
  body : Bytes
deriving DecidableEq, Repr

namespace Response

/-- Whether a response reports success. -/
def isSuccess (r : Response) : Bool := Http.isSuccess r.status

/-- The status of a response as it is shown. -/
def statusText (r : Response) : String := Http.statusText r.status

/-- The body of a response as text. -/
def text (r : Response) : String := Text.ofUtf8Lossy r.body

end Response

/-- A network: its answers in each state, and the states that follow. -/
abbrev Network (σ : Type) := Request → StateM σ (Except Causes Response)

/-- A network that reaches no server. -/
def unreachable (σ : Type) : Network σ := fun request =>
  return .error ["error sending request for url (" ++ request.url ++ ")", "no route to host"]

end ConnectorCatalog.Http
