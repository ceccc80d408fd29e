import ConnectorCatalog.Digest.Sha256
import ConnectorCatalog.Document.Metadata
import ConnectorCatalog.Document.Packaging
import ConnectorCatalog.Document.TestConfig
import ConnectorCatalog.Preflight.Finding
import ConnectorCatalog.Text.Blank

/-!
# Rules for the files of the registry tree

What each kind of document must say, whatever file it was read from.

* `PackagingDescriptor.findings`: the version is that of the directory, and there is an address.
* `TestConfig.findingsOf`: the document can be read, and its fields are filled in.
* `latestFinding?`: the declared latest version has the precedence of the highest stable release.
* `Checksum.verify`: a package has the digest that is declared for it.
-/

namespace ConnectorCatalog

namespace PackagingDescriptor

/-- What is wrong with a declared version in a directory for releases of one version. -/
def versionFinding? (declared directory : String) : Option Finding :=
  match ReleaseVersion.parse declared with
  | .error fault => some (.invalidVersion fault)
  | .ok _ => if declared ≠ directory then some (.otherVersion declared directory) else none

/-- What is wrong with the address of a package. -/
def uriFinding? (uri : String) : Option Finding :=
  if Text.isAllBlank uri then some .emptyUri else none

/-- What is wrong with the packaging descriptor in a directory. -/
def findings (descriptor : PackagingDescriptor) (directory : String) : List Finding :=
  (versionFinding? descriptor.version directory).toList ++ (uriFinding? descriptor.uri).toList

end PackagingDescriptor

namespace TestConfig

/-- What is missing in a test config. -/
def findings (config : TestConfig) : List Finding :=
  (if config.hubId = "" then [.emptyHubId] else []) ++
    (if config.snapshotsDir = "" then [.emptySnapshotsDir] else [])

/-- What is wrong with the text of a test config. -/
def findingsOf (text : String) : List Finding :=
  match ofText? text with
  | some config => config.findings
  | none => [.malformedTestConfig]

end TestConfig

/-- What is wrong with the declared latest version of a connector that has releases in directories
with the given names. Without a stable release every declaration will do; build metadata does not
count. -/
def latestFinding? (declared : String) (directories : List String) : Option Finding :=
  match ReleaseVersion.latestStable? directories with
  | none => none
  | some (latest, version) =>
    match ReleaseVersion.parse declared with
    | .error fault => some (.invalidLatest fault)
    | .ok v => if v.samePrecedence version then none else some (.otherLatest declared latest)

namespace Checksum

/-- Whether a package has a declared checksum. Letters of both cases are alike, and blanks around
the declared digest do not count. -/
def verify (sum : Checksum) (content : Bytes) : Except ChecksumFault Unit :=
  if Text.asciiLower sum.kind ≠ "sha256" then .error (.unsupported sum.kind)
  else
    let actual := Sha256.hexDigest content
    if Text.asciiLower (Text.trim sum.value) = actual then .ok ()
    else .error (.mismatch sum.value actual)

end Checksum

end ConnectorCatalog
