import ConnectorCatalog.Proofs.Registry.RowFormat
import ConnectorCatalog.Registry.Request

/-!
# What a publish request carries

The variables of a request are a form of its batch (`Batch.IsForm`): the rows of each kind in a list
of their own, in their order.  **From any form of a batch the batch is read back**, so a request
loses nothing of it (`PublishRequest.ofBatch_lossless`).  The order of members makes no difference to
what a document is a form of, so batches that differ are told apart by more than that.

A form also shows what an update does (`OverviewUpdate.ShownBy`): it names the columns that are set,
those with an empty text among them, and no others, and the overviews that are updated.
-/

namespace ConnectorCatalog

namespace OverviewUpdate

variable {form : Json} {u : OverviewUpdate}

/-- The condition that an overview is that of a connector. -/
def clauseOf (connector : Identity) : Json :=
  .obj [("_and", .arr [.obj [("name", .obj [("_eq", .str connector.name)])],
    .obj [("namespace", .obj [("_eq", .str connector.ns)])]])]

/-- A document shows which columns an update sets, and to what, and for which connector. -/
structure ShownBy (form : Json) (u : OverviewUpdate) : Prop where
  change : ∃ set, form.member? "_set" = some set ∧
    (∀ column : OverviewColumn, set.member? column.label = (u.change.get? column).map .str) ∧
    ∀ key, (∀ column : OverviewColumn, key ≠ column.label) → set.member? key = none
  connector : ∀ connector,
    form.member? "where" = some (clauseOf connector) ↔ u = ofConnector connector u.change

theorem clauseOf_eq (connector : Identity) (change : OverviewChange) : clauseOf connector =
    .obj [("_and", .arr ((ofConnector connector change).filters.map OverviewFilter.toJson))] := rfl

theorem eq_ofConnector_iff {connector : Identity} :
    u = ofConnector connector u.change ↔ u.filters = (ofConnector connector u.change).filters := by
  obtain ⟨change, filters⟩ := u
  simp [ofConnector]

theorem IsForm.shownBy (h : u.IsForm form) : u.ShownBy form := by
  obtain ⟨set, filters, clause, hset, hfilters, hclause, hform⟩ := h
  have hnames : [("_set", some set), ("where", some clause)].map (·.1) = ["_set", "where"] := rfl
  refine ⟨⟨set, hform.member?_eq hnames (by decide) (by simp), hset.member?_label,
    fun _ => hset.member?_eq_none⟩, fun connector => ?_⟩
  have hwhere : form.member? "where" = some clause :=
    hform.member?_eq hnames (by decide) (by simp)
  have hsame : filters = u.filters.map OverviewFilter.toJson := by
    rw [← List.forall₂_eq_eq_eq, List.forall₂_map_right_iff]
    exact hfilters.imp fun _ _ => OverviewFilter.isForm_iff.1
  -- Conditions have one form, so to compare the clauses is to compare the conditions.
  rw [hwhere, Json.holds_singleton.1 hclause, hsame, clauseOf_eq connector u.change,
    eq_ofConnector_iff]
  simp only [Option.some_inj, Json.obj.injEq, List.cons.injEq, Prod.mk.injEq, Json.arr.injEq,
    true_and, and_true, (List.map_injective_iff.2 OverviewFilter.toJson_injective).eq_iff]

end OverviewUpdate

namespace Batch

variable {form : Json} {batch : Batch}

/-- The rows of each kind, in their order. -/
def IsForm (form : Json) (batch : Batch) : Prop :=
  ∃ connectors overviews updates versions,
    List.Forall₂ ConnectorRow.IsForm connectors batch.connectors ∧
    List.Forall₂ OverviewRow.IsForm overviews batch.overviews ∧
    List.Forall₂ OverviewUpdate.IsForm updates batch.updates ∧
    List.Forall₂ VersionRow.IsForm versions batch.versions ∧
    form.Holds [("connectorInserts", some (.arr connectors)),
      ("overviewInserts", some (.arr overviews)), ("overviewUpdates", some (.arr updates)),
      ("versionInserts", some (.arr versions))]

/-- A document shows what updates do, and the images of versions. -/
structure ShownBy (form : Json) (batch : Batch) : Prop where
  updates : form.RowsUnder "overviewUpdates" OverviewUpdate.ShownBy batch.updates
  images : form.RowsUnder "versionInserts"
    (fun version row => version.member? "image" = row.image.map .str) batch.versions

theorem isForm_inputsOf (batch : Batch) : batch.IsForm (PublishRequest.inputsOf batch) :=
  ⟨_, _, _, _, forall₂_toJson ConnectorRow.isForm_toJson batch.connectors,
    forall₂_toJson OverviewRow.isForm_toJson batch.overviews,
    forall₂_toJson OverviewUpdate.isForm_toJson batch.updates,
    forall₂_toJson VersionRow.isForm_toJson batch.versions, ⟨_, rfl, .refl _⟩⟩

theorem IsForm.rowsUnder (h : batch.IsForm form) :
    form.RowsUnder "connectorInserts" ConnectorRow.IsForm batch.connectors ∧
    form.RowsUnder "overviewInserts" OverviewRow.IsForm batch.overviews ∧
    form.RowsUnder "overviewUpdates" OverviewUpdate.IsForm batch.updates ∧
    form.RowsUnder "versionInserts" VersionRow.IsForm batch.versions := by
  obtain ⟨connectors, overviews, updates, versions, hconnectors, hoverviews, hupdates, hversions,
    hform⟩ := h
  have hnodup : ["connectorInserts", "overviewInserts", "overviewUpdates",
      "versionInserts"].Nodup := by decide
  exact ⟨⟨connectors, hform.member?_eq rfl hnodup (by simp), hconnectors⟩,
    ⟨overviews, hform.member?_eq rfl hnodup (by simp), hoverviews⟩,
    ⟨updates, hform.member?_eq rfl hnodup (by simp), hupdates⟩,
    ⟨versions, hform.member?_eq rfl hnodup (by simp), hversions⟩⟩

/-- **A batch is read back from each of its forms.** -/
theorem IsForm.ofInputs?_eq (h : batch.IsForm form) : ofInputs? form = some batch := by
  obtain ⟨hconnectors, hoverviews, hupdates, hversions⟩ := h.rowsUnder
  unfold ofInputs? ofMembers?
  dsimp only
  rw [hconnectors.required_eq fun _ _ => ConnectorRow.IsForm.ofJson?_eq,
    hoverviews.required_eq fun _ _ => OverviewRow.IsForm.ofJson?_eq,
    hupdates.required_eq fun _ _ => OverviewUpdate.IsForm.ofJson?_eq,
    hversions.required_eq fun _ _ => VersionRow.IsForm.ofJson?_eq]
  rfl

theorem IsForm.shownBy (h : batch.IsForm form) : batch.ShownBy form := by
  obtain ⟨-, -, hupdates, hversions⟩ := h.rowsUnder
  exact ⟨hupdates.imp fun _ _ => OverviewUpdate.IsForm.shownBy,
    hversions.imp fun _ _ => VersionRow.IsForm.member?_image⟩

/-- A document is the form of one batch at most. -/
theorem IsForm.unique {other : Batch} (h : batch.IsForm form) (hother : other.IsForm form) :
    other = batch :=
  Option.some.inj (hother.ofInputs?_eq.symm.trans h.ofInputs?_eq)

end Batch

/-- **A publish request loses nothing of its batch.**  Its variables are a form of the batch,
whatever the policy, and from these, as from any form of the batch, the batch is read back.  A form
has a member for a column that an update sets and for an image exactly if there is one, and it has
the condition for a connector exactly if the update is for this.  No form of a batch is one of
another batch. -/
theorem PublishRequest.ofBatch_lossless (batch : Batch) (policy : ConflictPolicy) :
    Batch.ofInputs? (ofBatch batch policy).inputs = some batch ∧
    batch.IsForm (ofBatch batch policy).inputs ∧
    ∀ form, batch.IsForm form → Batch.ofInputs? form = some batch ∧ batch.ShownBy form ∧
      ∀ other : Batch, other.IsForm form → other = batch := by
  have hinputs : batch.IsForm (ofBatch batch policy).inputs := batch.isForm_inputsOf
  exact ⟨hinputs.ofInputs?_eq, hinputs, fun form hform =>
    ⟨hform.ofInputs?_eq, hform.shownBy, fun _ hother => hform.unique hother⟩⟩

end ConnectorCatalog
