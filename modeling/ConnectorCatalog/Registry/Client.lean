import ConnectorCatalog.Config
import ConnectorCatalog.Http.Message
import ConnectorCatalog.Json.Reader
import ConnectorCatalog.Json.Writer
import ConnectorCatalog.Registry.Request
import ConnectorCatalog.Services

/-!
# The registry's service

The registry answers queries over the network. Every request carries the role in which it is made
and the key that allows it. A response that lists errors is a failure, whatever its status.
-/

namespace ConnectorCatalog

open Http (Network Request Response)

/-- A client of the registry. -/
structure RegistryClient where
  url : String
  role : String
  publicationKey : String
deriving DecidableEq, Repr

/-- What the registry answers to a query. -/
structure RegistryAnswer where
  /-- The data, unless there is none. -/
  data : Option Json
  errors : List String
deriving Repr

namespace RegistryAnswer

/-- The answer that a value stands for. As a list it holds at least the data. -/
def ofJson? (value : Json) : Option RegistryAnswer := do
  let [data, errors] ← value.members? ["data", "errors"] 1 | none
  return ⟨← Json.optional some data, ← Json.withDefault (Json.items? Json.message?) [] errors⟩

end RegistryAnswer

namespace ConnectorInfo

/-- Whether a row of the registry is linked to a connector for several tenants. -/
def isLinked? (value : Json) : Option Bool := do
  let [link] ← value.members? ["multitenant_connector"] 1 | none
  return (← Json.optional (Json.any? 4) link).isSome

/-- What the data of an answer say of a connector. -/
def ofData? (data : Json) : Option (Option ConnectorInfo) := do
  let [rows] ← data.members? ["hub_registry_connector"] 1 | none
  let links ← Json.required (Json.items? isLinked?) rows
  return links.head?.map ConnectorInfo.mk

end ConnectorInfo

namespace RegistryClient

/-- The name of the operation that looks a connector up. -/
def lookupOperation : String := "GetConnectorInfo"

/-- The query that looks a connector up. -/
def lookupQuery : String :=
  Text.joinTexts "\n" [
    "query GetConnectorInfo($name: String!, $namespace: String!) \x7b",
    "  hub_registry_connector(where: \x7b_and: [\x7bname: \x7b_eq: $name\x7d\x7d, " ++
      "\x7bnamespace: \x7b_eq: $namespace\x7d\x7d]\x7d) \x7b",
    "    name",
    "    multitenant_connector \x7b",
    "      id",
    "    \x7d",
    "  \x7d",
    "\x7d"]

/-- The request that looks a connector up. -/
def lookupRequest (connector : Identity) : PublishRequest :=
  ⟨lookupOperation, lookupQuery,
    .obj [("name", .str connector.name), ("namespace", .str connector.ns)]⟩

/-- The body of a request. -/
def bodyOf (request : PublishRequest) : Json :=
  .obj [("query", .str request.query), ("variables", request.inputs),
    ("operationName", .str request.operation)]

/-- A request as it is sent. -/
def message (client : RegistryClient) (request : PublishRequest) : Request where
  method := .post
  url := client.url
  headers := [("x-hasura-role", client.role),
    ("x-connector-publication-key", client.publicationKey), ("Content-Type", "application/json")]
  body := Text.utf8 (bodyOf request).compact

/-- What a response to an operation says; `read?` reads the data.  A body has to be UTF-8 throughout,
although a reader of bytes would pass over a text that is not where nobody asks for it. -/
def answer {α : Type} (operation : String) (read? : Json → Option α) (response : Response) :
    Except Causes (Option α) :=
  if !response.isSuccess then
    .error [operation ++ " failed (HTTP " ++ response.statusText ++ "): " ++ response.text]
  else
    let answer? := do
      let answer ← Text.ofUtf8? response.body >>= Json.parse? >>= RegistryAnswer.ofJson?
      match answer.data with
      | some data => return (answer.errors, some (← read? data))
      | none => return (answer.errors, none)
    match answer? with
    | none => .error ["Invalid response to " ++ operation, "error decoding response body"]
    | some (errors, data) =>
      if errors.isEmpty then .ok data
      else .error [operation ++ " returned errors: " ++ Text.joinTexts "; " errors]

variable {σ : Type}

/-- Sends a request and reads the response. -/
def send {α : Type} (client : RegistryClient) (network : Network σ) (request : PublishRequest)
    (read? : Json → Option α) : StateM σ (Except Causes (Option α)) := do
  match ← network (client.message request) with
  | .error causes =>
    return .error (("Failed to send " ++ request.operation ++ " to " ++ client.url) :: causes)
  | .ok response => return answer request.operation read? response

/-- Looks a connector up. -/
def lookup (client : RegistryClient) (network : Network σ) (connector : Identity) :
    StateM σ (Except Causes (Option ConnectorInfo)) := do
  let result ← client.send network (lookupRequest connector) ConnectorInfo.ofData?
  return result.map Option.join

/-- Hands rows over. -/
def publish (client : RegistryClient) (network : Network σ) (request : PublishRequest) :
    StateM σ (Except Causes Unit) := do
  let result ← client.send network request (Json.any? 1)
  return result.map fun _ => ()

end RegistryClient

end ConnectorCatalog
