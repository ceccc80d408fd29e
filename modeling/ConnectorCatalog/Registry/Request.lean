import ConnectorCatalog.Registry.RowFormat
import ConnectorCatalog.Text.Blank
import ConnectorCatalog.Text.Segment

/-!
# The publish request

All rows of a run go to the registry in one request, so that either every row is written or none.
`PublishRequest.ofBatch` makes the request; only what happens to rows that already exist depends on
the environment. `Batch.ofInputs?` reads the rows back.
-/

namespace ConnectorCatalog

/-- A registry that a run publishes to. -/
inductive Environment where
  | staging | production
deriving DecidableEq, Repr, Inhabited

/-- What an insert does with a connector or an overview that already exists. -/
inductive ConflictPolicy where
  | fail | upsert
deriving DecidableEq, Repr

/-- Why a text names no environment. -/
inductive EnvironmentFault where
  | unknown (name : String)
deriving DecidableEq, Repr

/-- The text of a fault. -/
def EnvironmentFault.message : EnvironmentFault → String
  | unknown name => "Unknown environment: '" ++ name ++ "'. Must be staging or production."

namespace Environment

/-- The name of an environment. -/
def label : Environment → String
  | staging => "staging"
  | production => "production"

/-- The environment with a name in letters of either case. -/
def ofLabel (text : String) : Except EnvironmentFault Environment :=
  let name := Text.asciiLower text
  if name = staging.label then .ok staging
  else if name = production.label then .ok production
  else .error (.unknown name)

/-- In production nothing is overwritten. -/
def policy : Environment → ConflictPolicy
  | production => .fail
  | staging => .upsert

end Environment

/-- A request to the registry. -/
structure PublishRequest where
  operation : String
  query : String
  inputs : Json
deriving Repr, Inhabited

namespace PublishRequest

/-- The name of the operation that writes a batch. -/
def publishOperation : String := "PublishBatch"

/-- The part of a query that says which columns of an existing row are overwritten. -/
def onConflict (constraint : String) (columns : List String) : String :=
  ", on_conflict: \x7bconstraint: " ++ constraint ++ ", update_columns: [" ++
    Text.joinTexts ", " columns ++ "]\x7d"

/-- The treatment of a connector that exists. -/
def connectorConflict : ConflictPolicy → String
  | .fail => ""
  | .upsert => onConflict "hub_registry_connector_namespace_name_key" ["title"]

/-- The treatment of an overview that exists. -/
def overviewConflict : ConflictPolicy → String
  | .fail => ""
  | .upsert => onConflict "connector_overview_namespace_name_key"
    ["title", "description", "logo", "docs", "is_verified", "is_hosted"]

/-- The treatment of a version that exists, the same under each policy. -/
def versionConflict : String :=
  onConflict "connector_version_namespace_name_version_key"
    ["image", "package_definition_url", "is_multitenant"]

/-- The query that writes a batch. -/
def publishQuery (policy : ConflictPolicy) : String :=
  Text.joinTexts "\n" [
    "mutation " ++ publishOperation ++ "(",
    "  $connectorInserts: [hub_registry_connector_insert_input!]!,",
    "  $overviewInserts: [connector_overview_insert_input!]!,",
    "  $overviewUpdates: [connector_overview_updates!]!,",
    "  $versionInserts: [hub_registry_connector_version_insert_input!]!",
    ") \x7b",
    "  insert_hub_registry_connector(objects: $connectorInserts" ++ connectorConflict policy ++
      ") \x7b",
    "    affected_rows",
    "  \x7d",
    "  insert_connector_overview(objects: $overviewInserts" ++ overviewConflict policy ++ ") \x7b",
    "    affected_rows",
    "  \x7d",
    "  update_connector_overview_many(updates: $overviewUpdates) \x7b",
    "    affected_rows",
    "  \x7d",
    "  insert_hub_registry_connector_version(objects: $versionInserts" ++ versionConflict ++
      ") \x7b",
    "    affected_rows",
    "    returning \x7b",
    "      id",
    "    \x7d",
    "  \x7d",
    "\x7d"]

/-- The rows of a batch as the variables of a request. -/
def inputsOf (batch : Batch) : Json :=
  .obj [
    ("connectorInserts", .arr (batch.connectors.map ConnectorRow.toJson)),
    ("overviewInserts", .arr (batch.overviews.map OverviewRow.toJson)),
    ("overviewUpdates", .arr (batch.updates.map OverviewUpdate.toJson)),
    ("versionInserts", .arr (batch.versions.map VersionRow.toJson))]

/-- The request that writes a batch. -/
def ofBatch (batch : Batch) (policy : ConflictPolicy) : PublishRequest :=
  ⟨publishOperation, publishQuery policy, inputsOf batch⟩

/-- The body of a request. -/
def toJson (r : PublishRequest) : Json :=
  .obj [("operationName", .str r.operation), ("query", .str r.query), ("variables", r.inputs)]

end PublishRequest

namespace Batch

/-- The batch whose rows are the members of a record with the given names. -/
def ofMembers? (connectors overviews updates versions : String) (value : Json) :
    Option Batch := do
  let rows {α : Type} (read : Json → Option α) (name : String) : Option (List α) :=
    Json.required (Json.items? read) (value.member? name)
  return ⟨← rows ConnectorRow.ofJson? connectors, ← rows OverviewRow.ofJson? overviews,
    ← rows OverviewUpdate.ofJson? updates, ← rows VersionRow.ofJson? versions⟩

/-- The rows in the variables of a request. -/
def ofInputs? (inputs : Json) : Option Batch :=
  ofMembers? "connectorInserts" "overviewInserts" "overviewUpdates" "versionInserts" inputs

end Batch

end ConnectorCatalog
