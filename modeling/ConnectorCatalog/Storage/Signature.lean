import ConnectorCatalog.Digest.Hmac
import ConnectorCatalog.Moment
import ConnectorCatalog.Text.Segment

/-!
# Signed storage requests

A request to an object store carries a signature, made of the request and a secret key, by which
the store knows who sends it. What is signed is the method, the path, the host, the digest of the
body and the time; the key for it depends on the day, the region and the service.
-/

namespace ConnectorCatalog.Signature

/-- The method of signing. -/
def algorithm : String := "AWS4-HMAC-SHA256"

/-- The service that requests are signed for. -/
def service : String := "s3"

/-- What is signed, and with which credentials. -/
structure Input where
  method : String
  host : String
  /-- The path of the request, percent encoded. -/
  path : String
  /-- The digest of the body in hexadecimal digits. -/
  payloadHash : String
  region : String
  keyId : String
  key : String
deriving DecidableEq, Repr

/-- The keyed digest of a text. -/
def keyed (key : Bytes) (text : String) : Bytes := Hmac.digest key (Text.utf8 text)

/-- The key for the signatures of a day, in a region and for a service. -/
def signingKey (key date region service : String) : Bytes :=
  keyed (keyed (keyed (keyed (Text.utf8 ("AWS4" ++ key)) date) region) service) "aws4_request"

/-- The headers that are signed. -/
def signedHeaders (input : Input) (now : Moment) : List (String × String) :=
  [("host", input.host), ("x-amz-content-sha256", input.payloadHash), ("x-amz-date", now.stamp)]

/-- The names of the signed headers. -/
def headerNames (input : Input) (now : Moment) : String :=
  Text.joinTexts ";" ((signedHeaders input now).map (·.1))

/-- The request as it is signed. -/
def canonicalRequest (input : Input) (now : Moment) : String :=
  let headers := (signedHeaders input now).map fun h => h.1 ++ ":" ++ h.2 ++ "\n"
  Text.joinTexts "\n" [input.method, input.path, "", Text.joinTexts "" headers,
    headerNames input now, input.payloadHash]

/-- The day, the region and the service that a signature is good for. -/
def scope (input : Input) (now : Moment) : String :=
  Text.joinTexts "/" [now.dateStamp, input.region, service, "aws4_request"]

/-- The text that the signature is made of. -/
def textToSign (input : Input) (now : Moment) : String :=
  Text.joinTexts "\n" [algorithm, now.stamp, scope input now,
    Sha256.hexDigest (Text.utf8 (canonicalRequest input now))]

/-- The signature in hexadecimal digits. -/
def sign (input : Input) (now : Moment) : String :=
  Text.hex (keyed (signingKey input.key now.dateStamp input.region service) (textToSign input now))

/-- The header that carries the signature. -/
def authorization (input : Input) (now : Moment) : String :=
  algorithm ++ " Credential=" ++ input.keyId ++ "/" ++ scope input now ++ ", SignedHeaders=" ++
    headerNames input now ++ ", Signature=" ++ sign input now

end ConnectorCatalog.Signature
