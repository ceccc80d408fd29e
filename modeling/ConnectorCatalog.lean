import ConnectorCatalog.Archive.Fetch
import ConnectorCatalog.Archive.Gzip
import ConnectorCatalog.Archive.Inflate
import ConnectorCatalog.Archive.Tar
import ConnectorCatalog.Archive.Unpack
import ConnectorCatalog.Causes
import ConnectorCatalog.Change
import ConnectorCatalog.ChangeSet
import ConnectorCatalog.Classify
import ConnectorCatalog.Command.Arguments
import ConnectorCatalog.Command.Program
import ConnectorCatalog.Config
import ConnectorCatalog.Decimal
import ConnectorCatalog.Digest.Crc32
import ConnectorCatalog.Digest.Hmac
import ConnectorCatalog.Digest.Sha256
import ConnectorCatalog.Document.Diff
import ConnectorCatalog.Document.Fault
import ConnectorCatalog.Document.Metadata
import ConnectorCatalog.Document.Packaging
import ConnectorCatalog.Document.Release
import ConnectorCatalog.Document.TestConfig
import ConnectorCatalog.Encoding.Base64
import ConnectorCatalog.Encoding.Form
import ConnectorCatalog.Encoding.Percent
import ConnectorCatalog.Files.Access
import ConnectorCatalog.Files.Path
import ConnectorCatalog.Files.Tree
import ConnectorCatalog.Http.Message
import ConnectorCatalog.Http.Status
import ConnectorCatalog.Identity
import ConnectorCatalog.Images.Client
import ConnectorCatalog.Json.Basic
import ConnectorCatalog.Json.Reader
import ConnectorCatalog.Json.Record
import ConnectorCatalog.Json.Writer
import ConnectorCatalog.Keyed
import ConnectorCatalog.Main
import ConnectorCatalog.Memory
import ConnectorCatalog.Moment
import ConnectorCatalog.Preflight.Finding
import ConnectorCatalog.Preflight.Rules
import ConnectorCatalog.Preflight.Validation
import ConnectorCatalog.Progress.Display
import ConnectorCatalog.Progress.Event
import ConnectorCatalog.Publish.Artifacts
import ConnectorCatalog.Publish.Build
import ConnectorCatalog.Publish.Fault
import ConnectorCatalog.Publish.Resolve
import ConnectorCatalog.Publish.Run
import ConnectorCatalog.Publish.Transaction
import ConnectorCatalog.Registry.Client
import ConnectorCatalog.Registry.Request
import ConnectorCatalog.Registry.RowFormat
import ConnectorCatalog.Registry.Rows
import ConnectorCatalog.RegistryTree
import ConnectorCatalog.Remote
import ConnectorCatalog.Report
import ConnectorCatalog.Services
import ConnectorCatalog.Storage.Client
import ConnectorCatalog.Storage.Signature
import ConnectorCatalog.TestMatrix
import ConnectorCatalog.Text.Blank
import ConnectorCatalog.Text.Grouped
import ConnectorCatalog.Text.Hex
import ConnectorCatalog.Text.Lossy
import ConnectorCatalog.Text.Order
import ConnectorCatalog.Text.Printable
import ConnectorCatalog.Text.Segment
import ConnectorCatalog.Toml.Literal
import ConnectorCatalog.Toml.Reader
import ConnectorCatalog.Toml.Value
import ConnectorCatalog.Version.Basic
import ConnectorCatalog.Version.Order
import ConnectorCatalog.Version.Release
import ConnectorCatalog.Yaml.Layout
import ConnectorCatalog.Yaml.Node
import ConnectorCatalog.Yaml.Number
import ConnectorCatalog.Yaml.Property
import ConnectorCatalog.Yaml.Scalar
import ConnectorCatalog.Yaml.Spot
import ConnectorCatalog.Yaml.Token
import ConnectorCatalog.Yaml.Value
import ConnectorCatalog.Proofs.Text.Order
import ConnectorCatalog.Proofs.Version.Order
import ConnectorCatalog.Proofs.Text.ByteOrder
import ConnectorCatalog.Proofs.Version.Numbers
import ConnectorCatalog.Proofs.Version.Spelling
import ConnectorCatalog.Proofs.Version.Precedence
import ConnectorCatalog.Proofs.Keyed
import ConnectorCatalog.Proofs.Text.Segment
import ConnectorCatalog.Proofs.Classify
import ConnectorCatalog.Proofs.Identity
import ConnectorCatalog.Proofs.Change
import ConnectorCatalog.Proofs.ChangeSet
import ConnectorCatalog.Proofs.Run
import ConnectorCatalog.Proofs.Publish.Builder
import ConnectorCatalog.Proofs.Publish.Visit
import ConnectorCatalog.Proofs.Publish.Ledger
import ConnectorCatalog.Proofs.Publish.Consistency
import ConnectorCatalog.Proofs.Publish.Keeping
import ConnectorCatalog.Proofs.Publish.Packages
import ConnectorCatalog.Proofs.Memory
import ConnectorCatalog.Proofs.Omission
import ConnectorCatalog.Proofs.Publish.Steady
import ConnectorCatalog.Proofs.Publish.Isolation
import ConnectorCatalog.Proofs.PathTable
import ConnectorCatalog.Proofs.Immutability
import ConnectorCatalog.Proofs.Publish.Conservation
import ConnectorCatalog.Proofs.Publish.Transaction
import ConnectorCatalog.Proofs.Aggregation
import ConnectorCatalog.Proofs.Files.Path
import ConnectorCatalog.Proofs.Archive.Fetch
import ConnectorCatalog.Proofs.Publish.Footprint
import ConnectorCatalog.Proofs.Publish.Confinement
import ConnectorCatalog.Proofs.Rounds
import ConnectorCatalog.Proofs.Publish.Progress
import ConnectorCatalog.Proofs.Publish.Logos
import ConnectorCatalog.Proofs.Publish.Columns
import ConnectorCatalog.Proofs.AddedReleases
import ConnectorCatalog.Proofs.ReleaseIndex
import ConnectorCatalog.Proofs.Publish.Artifacts
import ConnectorCatalog.Proofs.Publish.Admission
import ConnectorCatalog.Proofs.Document.Generation
import ConnectorCatalog.Proofs.Publish.Images
import ConnectorCatalog.Proofs.Publish.Generation
import ConnectorCatalog.Proofs.Json.Record
import ConnectorCatalog.Proofs.Registry.Client
import ConnectorCatalog.Proofs.Remote
import ConnectorCatalog.Proofs.Encoding.Percent
import ConnectorCatalog.Proofs.Storage.Address
import ConnectorCatalog.Proofs.Publish.Addresses
import ConnectorCatalog.Proofs.Files.Tree
import ConnectorCatalog.Proofs.Files.Access
import ConnectorCatalog.Proofs.RegistryTree
import ConnectorCatalog.Proofs.TestMatrix.Latest
import ConnectorCatalog.Proofs.Files.Clean
import ConnectorCatalog.Proofs.TestMatrix.Confinement
import ConnectorCatalog.Proofs.Preflight.Latest
import ConnectorCatalog.Proofs.Preflight.Verdict
import ConnectorCatalog.Proofs.Preflight.Releases
import ConnectorCatalog.Proofs.Preflight.Report
import ConnectorCatalog.Proofs.TestMatrix.Validated
import ConnectorCatalog.Proofs.TestMatrix.Changed
import ConnectorCatalog.Proofs.Files.Cancelling
import ConnectorCatalog.Proofs.Storage.RequestPath
import ConnectorCatalog.Proofs.Registry.RowFormat
import ConnectorCatalog.Proofs.Registry.Request
import ConnectorCatalog.Proofs.Storage.Signature
import ConnectorCatalog.Proofs.Images.Signature
import ConnectorCatalog.Proofs.Text.Grouped
