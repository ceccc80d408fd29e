import ConnectorCatalog.Proofs.Json.Record
import ConnectorCatalog.Proofs.Registry.Overview
import ConnectorCatalog.Registry.RowFormat

/-!
# Forms of rows

The documents that stand for a row (`IsForm`): objects with the columns of the row, in any order.  A
column that is not set has no member, and the members of lists stand in the order of the rows.

What is written of a row is a form of it (`isForm_toJson`), and from each of its forms the row is
read back (`ofJson?_eq`).  So no document is the form of two rows.
-/

namespace ConnectorCatalog

open Json (required optional text? truth? Holds)

/-! ### Lists of rows -/

section

variable {α : Type} {IsForm IsForm' : Json → α → Prop} {read : Json → Option α} {forms : List Json}
  {rows : List α} {document : Json} {key : String}

theorem forall₂_toJson {toJson : α → Json} (h : ∀ row, IsForm (toJson row) row) (rows : List α) :
    List.Forall₂ IsForm (rows.map toJson) rows :=
  List.forall₂_map_left_iff.2 (List.forall₂_same.2 fun row _ => h row)

theorem items?_of_forall₂ (h : ∀ form row, IsForm form row → read form = some row)
    (hforms : List.Forall₂ IsForm forms rows) : (Json.arr forms).items? read = some rows :=
  Json.items?_eq_some.2 ⟨forms, rfl, hforms.imp h⟩

/-- Under a key of a document stands a list with a form of each row. -/
def Json.RowsUnder (document : Json) (key : String) (IsForm : Json → α → Prop) (rows : List α) :
    Prop :=
  ∃ forms, document.member? key = some (.arr forms) ∧ List.Forall₂ IsForm forms rows

theorem Json.RowsUnder.imp (hrows : document.RowsUnder key IsForm rows)
    (h : ∀ form row, IsForm form row → IsForm' form row) : document.RowsUnder key IsForm' rows := by
  obtain ⟨forms, hmember, hforms⟩ := hrows
  exact ⟨forms, hmember, hforms.imp h⟩

theorem Json.RowsUnder.required_eq (hrows : document.RowsUnder key IsForm rows)
    (h : ∀ form row, IsForm form row → read form = some row) :
    required (Json.items? read) (document.member? key) = some rows := by
  obtain ⟨forms, hmember, hforms⟩ := hrows
  rw [hmember]
  exact items?_of_forall₂ h hforms

end

theorem Json.holds_ofPresent (texts : List (String × Option String)) :
    (ofPresent texts).Holds (texts.map fun m => (m.1, m.2.map .str)) := by
  refine ⟨_, rfl, .of_eq ?_⟩
  simp [present, List.filterMap_map, Function.comp_def]

variable {form : Json}

theorem optional_text?_map (value : Option String) :
    optional text? (value.map .str) = some value := by
  cases value <;> rfl

/-! ### Connectors -/

namespace ConnectorRow

variable {row : ConnectorRow}

def IsForm (form : Json) (row : ConnectorRow) : Prop :=
  form.Holds [("name", some (.str row.name)), ("title", some (.str row.title)),
    ("namespace", some (.str row.ns))]

theorem isForm_toJson (row : ConnectorRow) : row.IsForm row.toJson := ⟨_, rfl, .refl _⟩

theorem IsForm.ofJson?_eq (h : row.IsForm form) : ofJson? form = some row := by
  have hread : form.members? ["name", "title", "namespace"] 3 = some
      [some (.str row.name), some (.str row.title), some (.str row.ns)] :=
    h.members?_eq rfl (by decide)
  rw [ofJson?, hread]
  rfl

end ConnectorRow

/-! ### Overviews -/

namespace AuthorRow

variable {row : AuthorRow}

/-- The columns stand in an object of their own. -/
def IsForm (form : Json) (row : AuthorRow) : Prop :=
  ∃ data, form.Holds [("data", some data)] ∧
    data.Holds [("name", some (.str row.name)), ("support_email", some (.str row.supportEmail)),
      ("website", some (.str row.website))]

theorem isForm_toJson (row : AuthorRow) : row.IsForm row.toJson :=
  ⟨_, ⟨_, rfl, .refl _⟩, ⟨_, rfl, .refl _⟩⟩

theorem IsForm.ofJson?_eq (h : row.IsForm form) : ofJson? form = some row := by
  obtain ⟨data, hform, hdata⟩ := h
  have houter : form.members? ["data"] 1 = some [some data] := hform.members?_eq rfl (by decide)
  have hinner : data.members? ["name", "support_email", "website"] 3 = some
      [some (.str row.name), some (.str row.supportEmail), some (.str row.website)] :=
    hdata.members?_eq rfl (by decide)
  have hread : ofData? data = some row := by
    rw [ofData?, hinner]
    rfl
  rw [ofJson?, houter]
  exact hread

end AuthorRow

namespace OverviewRow

variable {row : OverviewRow}

def IsForm (form : Json) (row : OverviewRow) : Prop :=
  ∃ author, row.author.IsForm author ∧
    form.Holds [("namespace", some (.str row.ns)), ("name", some (.str row.name)),
      ("title", some (.str row.title)), ("description", some (.str row.description)),
      ("logo", some (.str row.logo)), ("docs", some (.str row.docs)),
      ("is_verified", some (.bool row.isVerified)), ("is_hosted", some (.bool row.isHosted)),
      ("author", some author)]

theorem isForm_toJson (row : OverviewRow) : row.IsForm row.toJson :=
  ⟨_, row.author.isForm_toJson, ⟨_, rfl, .refl _⟩⟩

theorem IsForm.ofJson?_eq (h : row.IsForm form) : ofJson? form = some row := by
  obtain ⟨author, hauthor, hform⟩ := h
  have hread : form.members? ["namespace", "name", "title", "description", "logo", "docs",
      "is_verified", "is_hosted", "author"] 9 = some [some (.str row.ns), some (.str row.name),
        some (.str row.title), some (.str row.description), some (.str row.logo),
        some (.str row.docs), some (.bool row.isVerified), some (.bool row.isHosted),
        some author] :=
    hform.members?_eq rfl (by decide)
  have hrequired : required AuthorRow.ofJson? (some author) = some row.author := hauthor.ofJson?_eq
  simp only [ofJson?, hread, Option.bind_eq_bind, Option.bind_some, hrequired]
  rfl

end OverviewRow

/-! ### Updates of overviews -/

/-- The key of a column. -/
def OverviewColumn.label : OverviewColumn → String
  | docs => "docs"
  | logo => "logo"
  | latestVersion => "latest_version"
  | title => "title"
  | description => "description"

namespace OverviewChange

variable {c : OverviewChange}

/-- What a change sets, by the keys of the columns. -/
def fields (c : OverviewChange) : List (String × Option Json) :=
  [("docs", c.docs.map .str), ("logo", c.logo.map .str),
    ("latest_version", c.latestVersion.map .str), ("title", c.title.map .str),
    ("description", c.description.map .str)]

theorem map_fields (c : OverviewChange) :
    c.fields.map (·.1) = ["docs", "logo", "latest_version", "title", "description"] := rfl

def IsForm (form : Json) (c : OverviewChange) : Prop := form.Holds c.fields

theorem isForm_toJson (c : OverviewChange) : c.IsForm c.toJson := Json.holds_ofPresent _

theorem IsForm.ofJson?_eq (h : c.IsForm form) : ofJson? form = some c := by
  have hread : form.members? ["docs", "logo", "latest_version", "title", "description"] 5 = some
      [c.docs.map .str, c.logo.map .str, c.latestVersion.map .str, c.title.map .str,
        c.description.map .str] :=
    h.members?_eq c.map_fields (by decide)
  simp only [ofJson?, hread, Option.bind_eq_bind, Option.bind_some, optional_text?_map]
  rfl

theorem mem_fields (c : OverviewChange) (column : OverviewColumn) :
    (column.label, (c.get? column).map .str) ∈ c.fields := by
  cases column <;> simp [fields, OverviewColumn.label, get?]

/-- A column has a member exactly if it is set. -/
theorem IsForm.member?_label (h : c.IsForm form) (column : OverviewColumn) :
    form.member? column.label = (c.get? column).map .str :=
  h.member?_eq c.map_fields (by decide) (c.mem_fields column)

example : OverviewChange.toJson { OverviewChange.none with logo := some "" } =
    .obj [("logo", .str "")] := rfl

theorem IsForm.member?_eq_none {key : String} (h : c.IsForm form)
    (hkey : ∀ column : OverviewColumn, key ≠ column.label) : form.member? key = .none := by
  refine Holds.member?_eq_none h fun hmem => ?_
  rw [map_fields] at hmem
  simp only [List.mem_cons, List.not_mem_nil, or_false] at hmem
  rcases hmem with hdocs | hlogo | hlatest | htitle | hdescription
  · exact hkey .docs hdocs
  · exact hkey .logo hlogo
  · exact hkey .latestVersion hlatest
  · exact hkey .title htitle
  · exact hkey .description hdescription

end OverviewChange

namespace OverviewFilter

variable {filter : OverviewFilter}

/-- The column that a condition is about, and the text that it is to hold. -/
def column : OverviewFilter → String × String
  | name value => ("name", value)
  | ns value => ("namespace", value)

def IsForm (form : Json) (filter : OverviewFilter) : Prop :=
  ∃ test, form.Holds [(filter.column.1, some test)] ∧
    test.Holds [("_eq", some (.str filter.column.2))]

/-- Its objects have one member each, so there is one form of a condition. -/
theorem isForm_iff : filter.IsForm form ↔ form = filter.toJson := by
  simp only [IsForm, Json.holds_singleton, exists_eq_right]
  cases filter <;> exact Iff.rfl

theorem IsForm.ofJson?_eq (h : filter.IsForm form) : ofJson? form = some filter := by
  rw [isForm_iff.1 h]
  cases filter <;> rfl

theorem toJson_injective : Function.Injective toJson := fun _ _ h =>
  Option.some.inj ((isForm_iff.2 rfl).ofJson?_eq.symm.trans (isForm_iff.2 h).ofJson?_eq)

end OverviewFilter

namespace OverviewUpdate

variable {u : OverviewUpdate}

/-- What an update sets, and the list of its conditions. -/
def IsForm (form : Json) (u : OverviewUpdate) : Prop :=
  ∃ change filters clause, u.change.IsForm change ∧
    List.Forall₂ OverviewFilter.IsForm filters u.filters ∧
    clause.Holds [("_and", some (.arr filters))] ∧
    form.Holds [("_set", some change), ("where", some clause)]

theorem isForm_toJson (u : OverviewUpdate) : u.IsForm u.toJson :=
  ⟨_, _, _, u.change.isForm_toJson,
    forall₂_toJson (fun _ => OverviewFilter.isForm_iff.2 rfl) u.filters, ⟨_, rfl, .refl _⟩,
    ⟨_, rfl, .refl _⟩⟩

theorem IsForm.ofJson?_eq (h : u.IsForm form) : ofJson? form = some u := by
  obtain ⟨change, filters, clause, hchange, hfilters, hclause, hform⟩ := h
  have houter : form.members? ["_set", "where"] 2 = some [some change, some clause] :=
    hform.members?_eq rfl (by decide)
  have hinner : clause.members? ["_and"] 1 = some [some (.arr filters)] :=
    hclause.members?_eq rfl (by decide)
  have hlist : (Json.arr filters).items? OverviewFilter.ofJson? = some u.filters :=
    items?_of_forall₂ (fun _ _ => OverviewFilter.IsForm.ofJson?_eq) hfilters
  have hset : required OverviewChange.ofJson? (some change) = some u.change := hchange.ofJson?_eq
  have hwhere : required filters? (some clause) = some u.filters := by
    rw [required, filters?, hinner]
    exact hlist
  simp only [ofJson?, houter, Option.bind_eq_bind, Option.bind_some, hset, hwhere]
  rfl

end OverviewUpdate

/-! ### Versions -/

namespace VersionRow

variable {row : VersionRow}

/-- What a version is, by the keys of the columns. -/
def fields (row : VersionRow) : List (String × Option Json) :=
  [("namespace", some (.str row.ns)), ("name", some (.str row.name)),
    ("version", some (.str row.version)), ("image", row.image.map .str),
    ("package_definition_url", some (.str row.packageUrl)),
    ("is_multitenant", some (.bool row.isMultitenant)), ("type", some (.str row.kind.label))]

theorem map_fields (row : VersionRow) : row.fields.map (·.1) =
    ["namespace", "name", "version", "image", "package_definition_url", "is_multitenant", "type"] :=
  rfl

def IsForm (form : Json) (row : VersionRow) : Prop := form.Holds row.fields

theorem isForm_toJson (row : VersionRow) : row.IsForm row.toJson := by
  obtain ⟨ns, name, version, image, packageUrl, isMultitenant, kind⟩ := row
  refine ⟨_, rfl, .of_eq ?_⟩
  cases image <;> rfl

theorem IsForm.ofJson?_eq (h : row.IsForm form) : ofJson? form = some row := by
  have hread : form.members? ["namespace", "name", "version", "image", "package_definition_url",
      "is_multitenant", "type"] 7 = some [some (.str row.ns), some (.str row.name),
        some (.str row.version), row.image.map .str, some (.str row.packageUrl),
        some (.bool row.isMultitenant), some (.str row.kind.label)] :=
    h.members?_eq row.map_fields (by decide)
  have hkind : required PackagingKind.ofJson? (some (.str row.kind.label)) = some row.kind := by
    cases row.kind <;> rfl
  simp only [ofJson?, hread, Option.bind_eq_bind, Option.bind_some, optional_text?_map, hkind]
  rfl

theorem IsForm.member?_image (h : row.IsForm form) : form.member? "image" = row.image.map .str :=
  h.member?_eq row.map_fields (by decide) (by simp [fields])

end VersionRow

end ConnectorCatalog
