import ConnectorCatalog.Config
import ConnectorCatalog.Encoding.Percent
import ConnectorCatalog.Http.Message
import ConnectorCatalog.Storage.Signature

/-!
# The object store

Packages are kept in a bucket of an object store, each under its key.

* `StorageSettings.objectPath` is the path of an object in requests: every segment of the key is
  percent encoded on its own, the bucket as a whole.
* `StorageClient.put` stores the bytes of a package and gives the address under which it is found;
  `delete` takes it away, and does not mind if nothing is there.
-/

namespace ConnectorCatalog

open Http (Network Request Response)

namespace StorageSettings

/-- A text without the given beginning, as often as it stands there. The number bounds how often
that is. -/
def stripAll (start : String) : Nat → String → String
  | 0, s => s
  | n + 1, s =>
    match Text.stripStart? start s with
    | some rest => stripAll start n rest
    | none => s

/-- The host that requests are sent to, as it is signed. -/
def host (s : StorageSettings) : String :=
  let bound := s.endpoint.length
  Text.trimSlashes (stripAll "http://" bound (stripAll "https://" bound s.endpoint))

/-- The path of the object with a key. -/
def objectPath (s : StorageSettings) (key : String) : String :=
  "/" ++ Percent.encode s.bucket ++ "/" ++
    Text.joinTexts "/" ((Text.segments key).map Percent.encode)

/-- The address that requests for the object with a key are sent to. -/
def objectUrl (s : StorageSettings) (key : String) : String :=
  Text.trimSlashes s.endpoint ++ s.objectPath key

/-- The address under which the object with a key is found. -/
def publicUrl (s : StorageSettings) (key : String) : String := s.effectiveBaseUrl ++ "/" ++ key

end StorageSettings

/-- A client of an object store. -/
structure StorageClient where
  settings : StorageSettings
  keyId : String
  key : String
deriving DecidableEq, Repr

namespace StorageClient

/-- What is signed of a request for the object with a key. -/
def signatureInput (client : StorageClient) (method : Http.Method) (key : String)
    (payloadHash : String) : Signature.Input where
  method := method.name
  host := client.settings.host
  path := client.settings.objectPath key
  payloadHash
  region := client.settings.region
  keyId := client.keyId
  key := client.key

/-- A signed request for the object with a key. -/
def signed (client : StorageClient) (now : Moment) (method : Http.Method) (key : String)
    (headers : List (String × String)) (body : Bytes) : Request :=
  let payloadHash := Sha256.hexDigest body
  let input := client.signatureInput method key payloadHash
  { method
    url := client.settings.objectUrl key
    headers := [("Authorization", Signature.authorization input now),
      ("x-amz-content-sha256", payloadHash), ("x-amz-date", now.stamp)] ++ headers
    body }

/-- The request that stores a package. -/
def putRequest (client : StorageClient) (now : Moment) (key : String) (content : Bytes) :
    Request :=
  client.signed now .put key [("Content-Type", "application/gzip")] content

/-- The request that deletes a package. -/
def deleteRequest (client : StorageClient) (now : Moment) (key : String) : Request :=
  client.signed now .delete key [] []

/-- What the response to storing a package says. -/
def putAnswer (client : StorageClient) (key : String) (response : Response) :
    Except Causes String :=
  if response.isSuccess then .ok (client.settings.publicUrl key)
  else .error ["PutObject failed (HTTP " ++ response.statusText ++ ") for key '" ++ key ++ "': " ++
    response.text]

/-- What the response to deleting a package says. -/
def deleteAnswer (key : String) (response : Response) : Except Causes Unit :=
  if response.isSuccess || response.status = Http.notFound then .ok ()
  else .error ["DeleteObject failed (HTTP " ++ response.statusText ++ ") for key '" ++ key ++ "'"]

/-- The name of an object in messages. -/
def subject (client : StorageClient) (key : String) : String :=
  client.settings.bucket ++ "/" ++ key

variable {σ : Type}

/-- Stores the content of a package. -/
def put (client : StorageClient) (network : Network σ) (now : Moment) (key : String)
    (content : Bytes) : StateM σ (Except Causes String) := do
  match ← network (client.putRequest now key content) with
  | .error causes => return .error (("Failed to upload " ++ client.subject key) :: causes)
  | .ok response => return client.putAnswer key response

/-- Deletes a package. -/
def delete (client : StorageClient) (network : Network σ) (now : Moment) (key : String) :
    StateM σ (Except Causes Unit) := do
  match ← network (client.deleteRequest now key) with
  | .error causes => return .error (("Failed to delete " ++ client.subject key) :: causes)
  | .ok response => return deleteAnswer key response

end StorageClient

end ConnectorCatalog
