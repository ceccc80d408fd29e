import ConnectorCatalog.Causes
import ConnectorCatalog.Classify
import ConnectorCatalog.Document.Fault

/-!
# Why publishing fails

`PublishFault` names what a publish run can fail of, with the connector, the release and the field
or file concerned. Failures to get hold of one release concern that release alone
(`isReleaseScoped`); every other fault ends the run.
-/

namespace ConnectorCatalog

/-- How far the rows of a run have got. -/
inductive TransactionState where
  | collecting | submitting | committed | rolledBack
deriving DecidableEq, Repr

namespace TransactionState

/-- The state as it is shown. -/
def display : TransactionState → String
  | collecting => "collecting"
  | submitting => "submitting"
  | committed => "committed"
  | rolledBack => "rolled back"

/-- The name of a state in documents. -/
def label : TransactionState → String
  | collecting => "collecting"
  | submitting => "submitting"
  | committed => "committed"
  | rolledBack => "rolled_back"

end TransactionState

/-- Why a release could not be got hold of. -/
inductive ResolutionFault where
  | noUri
  | notFetched (causes : Causes)
  | malformedDocument
deriving DecidableEq, Repr

/-- The field of a release that is at fault. -/
def ResolutionFault.field : ResolutionFault → String
  | noUri => "uri"
  | notFetched _ => "uri"
  | malformedDocument => "connector-metadata.yaml"

/-- What is wrong with it. -/
def ResolutionFault.detail : ResolutionFault → String
  | noUri => "no source URI declared"
  | notFetched causes => causes.text
  | malformedDocument =>
    "Failed to parse connector-metadata.yaml: the text does not have the expected form"

/-- Why no rows can be derived from documents that can be read. -/
inductive ConsistencyFault where
  | noNamespace
  | otherNamespace (declared actual : String)
  | noTitle
  | existsInProduction
  | nothingToUpdate
  | invalidVersion (fault : ReleaseVersion.Fault)
  | otherVersion (declared actual : String)
  | noPackaging
  | noPackagingType
  | unknownPackagingType (name : String)
  | noImage
  | unknownConnector
deriving DecidableEq, Repr

/-- The field at fault. -/
def ConsistencyFault.field : ConsistencyFault → String
  | noNamespace => "overview.namespace"
  | otherNamespace _ _ => "overview.namespace"
  | noTitle => "overview.title"
  | existsInProduction => "connector"
  | nothingToUpdate => "overview"
  | invalidVersion _ => "version"
  | otherVersion _ _ => "version"
  | noPackaging => "packagingDefinition"
  | noPackagingType => "packagingDefinition.type"
  | unknownPackagingType _ => "packagingDefinition.type"
  | noImage => "packagingDefinition.dockerImage"
  | unknownConnector => "connector"

/-- What is wrong with it. -/
def ConsistencyFault.message : ConsistencyFault → String
  | noNamespace => "missing"
  | otherNamespace declared actual =>
    "declares '" ++ declared ++ "' but the connector lives under registry/" ++ actual
  | noTitle => "missing"
  | existsInProduction => "already exists in the production registry"
  | nothingToUpdate => "none of latest_version, title, description is set"
  | invalidVersion fault => fault.message
  | otherVersion declared actual =>
    "packaging file declares " ++ declared ++ " but lives under releases/" ++ actual
  | noPackaging => "missing"
  | noPackagingType => "missing"
  | unknownPackagingType name => "unknown packaging type '" ++ name ++ "'"
  | noImage => "required for PrebuiltDockerImage"
  | unknownConnector => "release targets a connector that does not exist in the registry"

/-- Why a file that must be there cannot be used. -/
inductive MissingFault where
  | document (fault : DocumentFault)
  | file (fault : ReadFault)
  | noLogo
deriving DecidableEq, Repr

/-- What is wrong with the file. -/
def MissingFault.detail : MissingFault → String
  | document fault => Causes.text fault.causes
  | file fault => fault.message
  | noLogo => "no logo.png or logo.svg found"

/-- Why the rows of a run were not written. -/
inductive SubmissionFault where
  | rejected (causes : Causes)
  /-- The rows had been submitted or given up before. -/
  | closed (state : TransactionState)
deriving DecidableEq, Repr

/-- What went wrong with the submission. -/
def SubmissionFault.detail : SubmissionFault → String
  | rejected causes => causes.text
  | closed state => "transaction is already " ++ state.display

/-- Why publishing fails. -/
inductive PublishFault where
  | classification (fault : ClassifyFault)
  | resolution (release : ReleaseId) (fault : ResolutionFault)
  | consistency (connector : Identity) (version : Option String) (fault : ConsistencyFault)
  | missing (connector : Identity) (path : String) (fault : MissingFault)
  | storage (release : ReleaseId) (key : String) (causes : Causes)
  | imageUpload (connector : Identity) (path : String) (causes : Causes)
  | registry (connector : Identity) (causes : Causes)
  | submission (versions : Nat) (fault : SubmissionFault)
deriving DecidableEq, Repr

namespace PublishFault

/-- A connector with the version concerned, if there is one. -/
def subject (connector : Identity) : Option String → String
  | some version => (ReleaseId.mk connector version).toText
  | none => connector.toText

/-- The text of a fault. -/
def message : PublishFault → String
  | classification fault => fault.path ++ ": " ++ fault.message
  | resolution release fault =>
    release.toText ++ ": failed to resolve release (" ++ fault.field ++ "): " ++ fault.detail
  | consistency connector version fault =>
    subject connector version ++ ": " ++ fault.field ++ ": " ++ fault.message
  | missing connector path fault =>
    connector.toText ++ ": failed to read " ++ path ++ ": " ++ fault.detail
  | storage release key causes =>
    release.toText ++ ": failed to upload package to " ++ key ++ ": " ++ causes.text
  | imageUpload connector path causes =>
    connector.toText ++ ": failed to upload logo " ++ path ++ ": " ++ causes.text
  | registry connector causes => connector.toText ++ ": registry lookup failed: " ++ causes.text
  | submission versions fault =>
    "publish mutation failed (" ++ toString versions ++ " version records rolled back): " ++
      fault.detail

/-- Whether a fault concerns one release only. -/
def isReleaseScoped : PublishFault → Bool
  | resolution _ _ => true
  | _ => false

end PublishFault

end ConnectorCatalog
