import Mathlib.Data.List.Pairwise
import Mathlib.Data.List.Perm.Basic
import ConnectorCatalog.Registry.Rows

/-!
# Overviews under updates

What a list of updates makes of the overview of a connector (`OverviewUpdate.appliedTo`).  Two
updates `Clash` if they set one column of one overview.  **Updates of which no two clash can be
applied in any order** (`OverviewUpdate.appliedTo_perm`).
-/

namespace ConnectorCatalog

/-- A column of an overview that updates may set. -/
inductive OverviewColumn where
  | docs | logo | latestVersion | title | description
deriving DecidableEq, Repr

/-- An overview: what its columns hold. -/
abbrev OverviewCells := OverviewColumn → Option String

/-- What a change sets a column to, if it sets it. -/
def OverviewChange.get? (c : OverviewChange) : OverviewColumn → Option String
  | .docs => c.docs
  | .logo => c.logo
  | .latestVersion => c.latestVersion
  | .title => c.title
  | .description => c.description

/-- Whether a change sets a column. -/
def OverviewChange.Sets (c : OverviewChange) (column : OverviewColumn) : Prop :=
  (c.get? column).isSome = true

theorem OverviewChange.exists_sets {c : OverviewChange} (h : ¬c.isEmpty) :
    ∃ column, c.Sets column := by
  by_contra hnone
  have hcolumn : ∀ column, c.get? column = Option.none := fun column =>
    Option.not_isSome_iff_eq_none.1 fun hset => hnone ⟨column, hset⟩
  obtain ⟨docs, logo, latestVersion, title, description⟩ := c
  obtain rfl : docs = .none := hcolumn .docs
  obtain rfl : logo = .none := hcolumn .logo
  obtain rfl : latestVersion = .none := hcolumn .latestVersion
  obtain rfl : title = .none := hcolumn .title
  obtain rfl : description = .none := hcolumn .description
  exact h rfl

/-- Whether a connector meets a condition. -/
def OverviewFilter.accepts (connector : Identity) : OverviewFilter → Bool
  | .name value => connector.name = value
  | .ns value => connector.ns = value

namespace OverviewUpdate

/-- Whether an update is for the overview of a connector. -/
def targets (u : OverviewUpdate) (connector : Identity) : Bool :=
  u.filters.all (·.accepts connector)

theorem targets_ofConnector {connector other : Identity} {change : OverviewChange} :
    (ofConnector connector change).targets other = true ↔ other = connector := by
  obtain ⟨ns, name⟩ := connector
  obtain ⟨otherNs, otherName⟩ := other
  simp [targets, ofConnector, OverviewFilter.accepts, and_comm]

/-- The overview of a connector after an update. -/
def applyTo (u : OverviewUpdate) (connector : Identity) (cells : OverviewCells) : OverviewCells :=
  if u.targets connector then fun column => (u.change.get? column).or (cells column) else cells

/-- The overview of a connector after updates, one after the other. -/
def appliedTo (updates : List OverviewUpdate) (connector : Identity) (cells : OverviewCells) :
    OverviewCells :=
  updates.foldl (fun cells u => u.applyTo connector cells) cells

/-- Two updates set one column of the overview of a connector. -/
structure Clash (connector : Identity) (u v : OverviewUpdate) : Prop where
  left : u.targets connector = true
  right : v.targets connector = true
  column : ∃ column, u.change.Sets column ∧ v.change.Sets column

variable {connector : Identity} {u v : OverviewUpdate}

theorem Clash.symm (h : Clash connector u v) : Clash connector v u :=
  ⟨h.right, h.left, h.column.imp fun _ hset => hset.symm⟩

instance : Std.Symm fun u v => ¬Clash connector u v := ⟨fun _ _ h hclash => h hclash.symm⟩

theorem applyTo_comm (h : ¬Clash connector u v) (cells : OverviewCells) :
    v.applyTo connector (u.applyTo connector cells) =
      u.applyTo connector (v.applyTo connector cells) := by
  unfold applyTo
  cases hu : u.targets connector with
  | false => rfl
  | true =>
    cases hv : v.targets connector with
    | false => rfl
    | true =>
      funext column
      -- Of the two updates at most one sets the column.
      have hone : ¬(u.change.Sets column ∧ v.change.Sets column) := fun hset =>
        h ⟨hu, hv, column, hset⟩
      unfold OverviewChange.Sets at hone
      simp only [if_true]
      cases hcu : u.change.get? column with
      | none => rfl
      | some a =>
        cases hcv : v.change.get? column with
        | none => rfl
        | some b => exact absurd (by simp [hcu, hcv]) hone

/-- **Updates of which no two clash can be applied in any order.** -/
theorem appliedTo_perm {updates updates' : List OverviewUpdate} (hperm : updates.Perm updates')
    (h : updates.Pairwise fun u v => ¬Clash connector u v) (cells : OverviewCells) :
    appliedTo updates connector cells = appliedTo updates' connector cells := by
  refine hperm.foldl_eq' (fun u hu v hv cells => ?_) cells
  by_cases heq : u = v
  · rw [heq]
  · exact applyTo_comm (h.forall hu hv heq) cells

end OverviewUpdate

end ConnectorCatalog
