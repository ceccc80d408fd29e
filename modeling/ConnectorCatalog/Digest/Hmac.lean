import ConnectorCatalog.Digest.Sha256

/-!
# Keyed digests

`Hmac.digest` is the HMAC construction over SHA-256: the message is hashed behind the key masked
one way, and that digest behind the key masked another way.
-/

namespace ConnectorCatalog.Hmac

/-- The key brought to one block: hashed if it is longer, then filled up with zeros. -/
def blockKey (key : Bytes) : Bytes :=
  let key := if 64 < key.length then Sha256.digest key else key
  key ++ List.replicate (64 - key.length) 0

/-- The keyed digest of a message. -/
def digest (key message : Bytes) : Bytes :=
  let key := blockKey key
  let inner := Sha256.digest (key.map (· ^^^ 0x36) ++ message)
  Sha256.digest (key.map (· ^^^ 0x5c) ++ inner)

end ConnectorCatalog.Hmac
