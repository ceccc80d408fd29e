import ConnectorCatalog.Change
import ConnectorCatalog.Config
import ConnectorCatalog.Digest.Sha256
import ConnectorCatalog.Encoding.Base64
import ConnectorCatalog.Encoding.Form
import ConnectorCatalog.Http.Message
import ConnectorCatalog.Json.Reader
import ConnectorCatalog.Json.Record
import ConnectorCatalog.Moment

/-!
# The image host

Logos are sent to an image host as a signed form. The signature is a digest of the form's
parameters in the order of their names, followed by a secret. An upload replaces the image that the
host keeps under the same name.
-/

namespace ConnectorCatalog

open Http (Network Request Response)

/-- An image as an address that carries its content. -/
def dataUri (content : Bytes) (format : LogoFormat) : String :=
  "data:" ++ format.mediaType ++ ";base64," ++ Base64.encode content

/-- The signature of the parameters of a form. -/
def signParameters (parameters : List (String × String)) (secret : String) : String :=
  let sorted := Text.sortBy (fun a b => Text.compareTexts a.1 b.1) parameters
  let line := Text.joinTexts "&" (sorted.map fun p => p.1 ++ "=" ++ p.2)
  Sha256.hexDigest (Text.utf8 line ++ Text.utf8 secret)

/-- The address that logos are sent to. -/
def ImageSettings.uploadUrl (s : ImageSettings) : String :=
  "https://api.cloudinary.com/v1_1/" ++ s.cloudName ++ "/image/upload"

/-- A client of the image host. -/
structure ImageClient where
  settings : ImageSettings
  key : String
  secret : String
deriving DecidableEq, Repr

/-- What the image host answers. -/
structure UploadAnswer where
  url : Option String
  error : Option String
deriving DecidableEq, Repr

namespace UploadAnswer

/-- The answer that a text stands for. -/
def ofText? (text : String) : Option UploadAnswer := do
  let [url, error] ← (← Json.parse? text).members? ["secure_url", "error"] 2 | none
  return ⟨← Json.optional Json.text? url, ← Json.optional Json.message? error⟩

end UploadAnswer

namespace ImageClient

/-- The parameters that are signed. -/
def parameters (client : ImageClient) (now : Moment) (publicId : String) : List (String × String) :=
  [("overwrite", "true"), ("public_id", publicId), ("timestamp", toString now.unixSeconds)] ++
    (client.settings.folder.map (("folder", ·))).toList

/-- The request that uploads a logo. -/
def uploadRequest (client : ImageClient) (now : Moment) (content : Bytes) (publicId : String)
    (format : LogoFormat) : Request :=
  let signed := client.parameters now publicId
  let fields := signed ++ [("file", dataUri content format), ("api_key", client.key),
    ("signature", signParameters signed client.secret), ("signature_algorithm", "sha256")]
  { method := .post
    url := client.settings.uploadUrl
    headers := [("Content-Type", "application/x-www-form-urlencoded")]
    body := Text.utf8 (Form.encode fields) }

/-- The address of the logo in the response to its upload.  A body has to be UTF-8 throughout, also
where nobody asks for a text. -/
def uploadAnswer (publicId : String) (response : Response) : Except Causes String :=
  let http := "(HTTP " ++ response.statusText ++ ")"
  match Text.ofUtf8? response.body >>= UploadAnswer.ofText? with
  | none => .error ["Invalid image host response " ++ http, "error decoding response body"]
  | some ⟨url, error⟩ =>
    match error with
    | some message => .error ["image host rejected " ++ publicId ++ " " ++ http ++ ": " ++ message]
    | none =>
      if !response.isSuccess then
        .error ["image host upload failed " ++ http ++ " for " ++ publicId]
      else match url with
        | some url =>
          if url = "" then
            .error ["image host response for " ++ publicId ++ " has no secure_url"]
          else .ok url
        | none => .error ["image host response for " ++ publicId ++ " has no secure_url"]

/-- Uploads a logo. -/
def upload {σ : Type} (client : ImageClient) (network : Network σ) (now : Moment)
    (content : Bytes) (publicId : String) (format : LogoFormat) :
    StateM σ (Except Causes String) := do
  match ← network (client.uploadRequest now content publicId format) with
  | .error causes => return .error (("Failed to upload logo " ++ publicId) :: causes)
  | .ok response => return uploadAnswer publicId response

end ImageClient

end ConnectorCatalog
