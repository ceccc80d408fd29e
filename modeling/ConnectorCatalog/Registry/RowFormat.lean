import ConnectorCatalog.Json.Record
import ConnectorCatalog.Registry.Rows

/-!
# The JSON form of rows

Each kind of row has a form in JSON (`toJson`) and a reader (`ofJson?`). A column that is not set
and an image that is not there are left out of the form. Readers take records with members in any
order and also the list of all members; they refuse rows with members missing.
-/

namespace ConnectorCatalog

open Json (required optional text? truth?)

/-- The members of a record that have a value. -/
def Json.ofPresent (members : List (String × Option String)) : Json :=
  .obj (members.filterMap fun m => m.2.map fun value => (m.1, .str value))

namespace ConnectorRow

/-- The form of a row. -/
def toJson (row : ConnectorRow) : Json :=
  .obj [("name", .str row.name), ("title", .str row.title), ("namespace", .str row.ns)]

/-- The row with a form. -/
def ofJson? (value : Json) : Option ConnectorRow := do
  let [name, title, ns] ← value.members? ["name", "title", "namespace"] 3 | none
  return ⟨← required text? name, ← required text? title, ← required text? ns⟩

end ConnectorRow

namespace AuthorRow

/-- The form of an author, wrapped as a row to insert. -/
def toJson (row : AuthorRow) : Json :=
  .obj [("data", .obj [("name", .str row.name), ("support_email", .str row.supportEmail),
    ("website", .str row.website)])]

/-- The author with an unwrapped form. -/
def ofData? (value : Json) : Option AuthorRow := do
  let [name, supportEmail, website] ←
    value.members? ["name", "support_email", "website"] 3 | none
  return ⟨← required text? name, ← required text? supportEmail, ← required text? website⟩

/-- The author with a form. -/
def ofJson? (value : Json) : Option AuthorRow := do
  let [data] ← value.members? ["data"] 1 | none
  required ofData? data

end AuthorRow

namespace OverviewRow

/-- The form of a row. -/
def toJson (row : OverviewRow) : Json :=
  .obj [("namespace", .str row.ns), ("name", .str row.name), ("title", .str row.title),
    ("description", .str row.description), ("logo", .str row.logo), ("docs", .str row.docs),
    ("is_verified", .bool row.isVerified), ("is_hosted", .bool row.isHosted),
    ("author", row.author.toJson)]

/-- The row with a form. -/
def ofJson? (value : Json) : Option OverviewRow := do
  let [ns, name, title, description, logo, docs, isVerified, isHosted, author] ← value.members?
    ["namespace", "name", "title", "description", "logo", "docs", "is_verified", "is_hosted",
      "author"] 9 | none
  return {
    ns := ← required text? ns
    name := ← required text? name
    title := ← required text? title
    description := ← required text? description
    logo := ← required text? logo
    docs := ← required text? docs
    isVerified := ← required truth? isVerified
    isHosted := ← required truth? isHosted
    author := ← required AuthorRow.ofJson? author }

end OverviewRow

namespace OverviewChange

/-- The form of a change. -/
def toJson (c : OverviewChange) : Json :=
  Json.ofPresent [("docs", c.docs), ("logo", c.logo), ("latest_version", c.latestVersion),
    ("title", c.title), ("description", c.description)]

/-- The change with a form. -/
def ofJson? (value : Json) : Option OverviewChange := do
  let [docs, logo, latestVersion, title, description] ←
    value.members? ["docs", "logo", "latest_version", "title", "description"] 5 | .none
  return ⟨← optional text? docs, ← optional text? logo, ← optional text? latestVersion,
    ← optional text? title, ← optional text? description⟩

end OverviewChange

namespace OverviewFilter

/-- The form of a condition. -/
def toJson : OverviewFilter → Json
  | name value => .obj [("name", .obj [("_eq", .str value)])]
  | ns value => .obj [("namespace", .obj [("_eq", .str value)])]

/-- The text that a condition compares with. -/
def comparand? (value : Json) : Option String := do
  let [text] ← value.members? ["_eq"] 1 | none
  required text? text

/-- The condition with a form. -/
def ofJson? : Json → Option OverviewFilter
  | .obj [("name", value)] => (comparand? value).map name
  | .obj [("namespace", value)] => (comparand? value).map ns
  | _ => none

end OverviewFilter

namespace OverviewUpdate

/-- The form of an update. -/
def toJson (u : OverviewUpdate) : Json :=
  .obj [("_set", u.change.toJson),
    ("where", .obj [("_and", .arr (u.filters.map OverviewFilter.toJson))])]

/-- The conditions with a form. -/
def filters? (value : Json) : Option (List OverviewFilter) := do
  let [filters] ← value.members? ["_and"] 1 | none
  required (Json.items? OverviewFilter.ofJson?) filters

/-- The update with a form. -/
def ofJson? (value : Json) : Option OverviewUpdate := do
  let [change, filters] ← value.members? ["_set", "where"] 2 | none
  return ⟨← required OverviewChange.ofJson? change, ← required filters? filters⟩

end OverviewUpdate

namespace PackagingKind

/-- The form of a kind. -/
def toJson (kind : PackagingKind) : Json := .str kind.label

/-- The kind with a form. -/
def ofJson? : Json → Option PackagingKind
  | .str label => ofLabel? label
  | .obj [(label, .null)] => ofLabel? label
  | _ => none

end PackagingKind

namespace VersionRow

/-- The form of a row. -/
def toJson (row : VersionRow) : Json :=
  .obj ([("namespace", .str row.ns), ("name", .str row.name), ("version", .str row.version)] ++
    (row.image.map fun image => ("image", Json.str image)).toList ++
    [("package_definition_url", .str row.packageUrl), ("is_multitenant", .bool row.isMultitenant),
      ("type", row.kind.toJson)])

/-- The row with a form. -/
def ofJson? (value : Json) : Option VersionRow := do
  let [ns, name, version, image, packageUrl, isMultitenant, kind] ← value.members?
    ["namespace", "name", "version", "image", "package_definition_url", "is_multitenant",
      "type"] 7 | none
  return {
    ns := ← required text? ns
    name := ← required text? name
    version := ← required text? version
    image := ← optional text? image
    packageUrl := ← required text? packageUrl
    isMultitenant := ← required truth? isMultitenant
    kind := ← required PackagingKind.ofJson? kind }

end VersionRow

end ConnectorCatalog
