import ConnectorCatalog.Causes
import ConnectorCatalog.Document.Fault
import ConnectorCatalog.Version.Release

/-!
# Findings

What can be wrong with a file of the registry tree, and the line that reports it.
-/

namespace ConnectorCatalog

/-- Why a package does not have its declared checksum. -/
inductive ChecksumFault where
  | unsupported (kind : String)
  | mismatch (declared actual : String)
deriving DecidableEq, Repr

/-- The text of a fault. -/
def ChecksumFault.message : ChecksumFault → String
  | unsupported kind => "unsupported checksum type '" ++ kind ++ "'"
  | mismatch declared actual =>
    "checksum mismatch: declared " ++ declared ++ " but downloaded " ++ actual

/-- What is wrong with a file. -/
inductive Finding where
  | document (fault : DocumentFault)
  | invalidVersion (fault : ReleaseVersion.Fault)
  | otherVersion (declared directory : String)
  | emptyUri
  | unreadableTestConfig (path : String) (fault : ReadFault)
  | malformedTestConfig
  | emptyHubId
  | emptySnapshotsDir
  | invalidLatest (fault : ReleaseVersion.Fault)
  | otherLatest (declared latest : String)
  | notDownloaded (causes : Causes)
  | checksum (fault : ChecksumFault)
deriving DecidableEq, Repr

/-- The text of a finding. -/
def Finding.message : Finding → String
  | document fault => Causes.text fault.causes
  | invalidVersion fault => fault.message
  | otherVersion declared directory =>
    "version " ++ declared ++ " does not match release directory " ++ directory
  | emptyUri => "uri is empty"
  | unreadableTestConfig path fault => "test config " ++ path ++ " unreadable: " ++ fault.message
  | malformedTestConfig => "invalid test config: the text does not have the expected form"
  | emptyHubId => "hub_id is empty"
  | emptySnapshotsDir => "snapshots_dir is empty"
  | invalidLatest fault => "latest_version is invalid: " ++ fault.message
  | otherLatest declared latest =>
    "latest_version is '" ++ declared ++ "' but the highest stable release is " ++ latest
  | notDownloaded causes => causes.text
  | checksum fault => fault.message

/-- A finding and the file that it is about. -/
structure Issue where
  path : String
  finding : Finding
deriving DecidableEq, Repr

/-- The line that reports an issue. -/
def Issue.line (issue : Issue) : String := issue.path ++ ": " ++ issue.finding.message

end ConnectorCatalog
