import Mathlib.Data.List.Forall2
import ConnectorCatalog.Yaml.Value

/-!
# Reading records from YAML nodes

What a reader has made of a node says what the node stands for, aliases followed: a text that is
read is one that the node spells (`Node.text_eq_some`), and the fields of a record go by the texts
that its keys spell (`Node.record_eq_some`).  The other way round, the texts that are there are read
as long as aliases may be followed (`Node.exists_text`, `Node.exists_record`).
-/

namespace ConnectorCatalog.Yaml

/-! ### Readers -/

namespace Reader

variable {α β : Type} {left left' : Nat}

theorem bind_eq_some {read : Reader α} {next : α → Reader β} {b : β} :
    (read >>= next).run left = some (b, left') ↔ ∃ a between,
      read.run left = some (a, between) ∧ (next a).run between = some (b, left') := by
  rw [StateT.run_bind, Option.bind_eq_bind, Option.bind_eq_some_iff, Prod.exists]

theorem pure_eq_some {a b : α} :
    (pure a : Reader α).run left = some (b, left') ↔ a = b ∧ left = left' := by
  rw [StateT.run_pure, Option.pure_def, Option.some_inj, Prod.mk.injEq]

theorem lift_eq_some {value : Option α} {a : α} :
    (liftM value : Reader α).run left = some (a, left') ↔ value = some a ∧ left = left' := by
  cases value with
  | none => simp
  | some b => simp

theorem mapM_eq_some {read : α → Reader β} {items : List α} {values : List β}
    (h : (items.mapM read).run left = some (values, left')) :
    List.Forall₂ (fun a b => ∃ before after, (read a).run before = some (b, after)) items
      values := by
  induction items generalizing values left with
  | nil =>
    obtain ⟨rfl, -⟩ := pure_eq_some.1 h
    exact .nil
  | cons item rest ih =>
    rw [List.mapM_cons] at h
    obtain ⟨b, between, hitem, h⟩ := bind_eq_some.1 h
    obtain ⟨more, after, hrest, h⟩ := bind_eq_some.1 h
    obtain ⟨rfl, rfl⟩ := pure_eq_some.1 h
    exact .cons ⟨_, _, hitem⟩ (ih hrest)

/-- If for each item at most one alias is followed, then for a list as many as it is long. -/
theorem exists_mapM {read : α → Reader β} {R : α → β → Prop}
    (hread : ∀ a b, R a b → ∀ left, 0 < left → ∃ left', (read a).run left = some (b, left') ∧
      left ≤ left' + 1)
    {items : List α} {values : List β} (h : List.Forall₂ R items values)
    (hleft : items.length ≤ left) :
    ∃ left', (items.mapM read).run left = some (values, left') ∧ left ≤ left' + items.length := by
  induction h generalizing left with
  | nil => exact ⟨left, rfl, by simp⟩
  | @cons a b items values hab _ ih =>
    rw [List.length_cons] at hleft ⊢
    obtain ⟨between, hitem, hbetween⟩ := hread a b hab left (by omega)
    obtain ⟨left', hrest, hleft'⟩ := @ih between (by omega)
    refine ⟨left', ?_, by omega⟩
    rw [List.mapM_cons]
    exact bind_eq_some.2 ⟨b, between, hitem,
      bind_eq_some.2 ⟨values, left', hrest, pure_eq_some.2 ⟨rfl, rfl⟩⟩⟩

end Reader

namespace Node

variable {anchored : Anchored} {node node' : Node} {left left' : Nat}

/-! ### Texts -/

/-- The node that an alias names, or the node itself. -/
def target? (anchored : Anchored) : Node → Option Node
  | reference number => (anchored.filter (·.1 == number)).getLast?.map (·.2)
  | node => some node

/-- A node stands for a text. -/
def Spells (anchored : Anchored) (node : Node) (text : String) : Prop :=
  ∃ mark isPlain, node.target? anchored = some (scalar mark isPlain text)

theorem Spells.unique {s t : String} (h : node.Spells anchored s) (h' : node.Spells anchored t) :
    s = t := by
  obtain ⟨mark, isPlain, hs⟩ := h
  obtain ⟨mark', isPlain', ht⟩ := h'
  cases hs.symm.trans ht
  rfl

/-- The text that a node stands for, if it stands for one. -/
def spelling? (anchored : Anchored) (node : Node) : Option String :=
  match node.target? anchored with
  | some (scalar _ _ text) => some text
  | _ => none

theorem spelling?_eq_some {s : String} :
    node.spelling? anchored = some s ↔ node.Spells anchored s := by
  unfold spelling? Spells
  split
  · rename_i mark isPlain text htarget
    simp [htarget]
  · rename_i hother
    exact ⟨nofun, fun ⟨mark, isPlain, htarget⟩ => absurd htarget (hother mark isPlain s)⟩

/-- An alias is followed while any may be. -/
theorem run_follow_reference (number : Nat) :
    ((reference number).follow anchored).run (left + 1) =
      ((reference number).target? anchored).map (·, left) := by
  rw [follow, target?]
  cases (anchored.filter (·.1 == number)).getLast? <;> rfl

theorem follow_eq_some (h : (node.follow anchored).run left = some (node', left')) :
    node.target? anchored = some node' := by
  cases node with
  | reference number =>
    cases left with
    | zero => cases h
    | succ left =>
      rw [run_follow_reference, Option.map_eq_some_iff] at h
      obtain ⟨target, htarget, h⟩ := h
      cases h
      exact htarget
  | _ =>
    obtain ⟨rfl, -⟩ := Reader.pure_eq_some.1 h
    rfl

theorem exists_follow (h : node.target? anchored = some node') (hleft : 0 < left) :
    ∃ left', (node.follow anchored).run left = some (node', left') ∧ left ≤ left' + 1 := by
  cases node with
  | reference number =>
    obtain ⟨left, rfl⟩ := Nat.exists_eq_add_one_of_ne_zero (by omega : left ≠ 0)
    refine ⟨left, ?_, Nat.le_refl _⟩
    rw [run_follow_reference, h]
    rfl
  | _ =>
    cases h
    exact ⟨left, rfl, by omega⟩

theorem text_eq_some {s : String} (h : (node.text anchored).run left = some (s, left')) :
    node.Spells anchored s := by
  obtain ⟨target, between, hfollow, h⟩ := Reader.bind_eq_some.1 h
  have htarget := follow_eq_some hfollow
  cases target with
  | scalar mark isPlain text =>
    obtain ⟨rfl, -⟩ := Reader.pure_eq_some.1 h
    exact ⟨mark, isPlain, htarget⟩
  | _ => cases h

theorem exists_text {s : String} (h : node.Spells anchored s) (hleft : 0 < left) :
    ∃ left', (node.text anchored).run left = some (s, left') ∧ left ≤ left' + 1 := by
  obtain ⟨mark, isPlain, htarget⟩ := h
  obtain ⟨left', hfollow, hleft'⟩ := exists_follow htarget hleft
  exact ⟨left', Reader.bind_eq_some.2 ⟨_, _, hfollow, rfl⟩, hleft'⟩

/-! ### Fields -/

variable {named : List (String × Node)}

theorem fieldOnce?_of_mem {name : String} {value : Node} {field : Option Node}
    (hmem : (name, value) ∈ named) (h : fieldOnce? named name = some field) :
    field = some value := by
  have hfilter : (name, value) ∈ named.filter (·.1 == name) :=
    List.mem_filter.2 ⟨hmem, beq_self_eq_true name⟩
  unfold fieldOnce? at h
  split at h
  · rename_i hnone
    rw [hnone] at hfilter
    cases hfilter
  · rename_i entry hone
    rw [hone] at hfilter
    cases List.mem_singleton.1 hfilter
    exact (Option.some.inj h).symm
  · cases h

theorem mapM_fieldOnce?_eq_none {names : List String} (h : ∀ field ∈ named, field.1 ∉ names) :
    names.mapM (fieldOnce? named) = some (names.map fun _ => none) := by
  induction names with
  | nil => rfl
  | cons name rest ih =>
    have hnone : named.filter (·.1 == name) = [] := List.filter_eq_nil_iff.2 fun field hfield heq =>
      h field hfield (by simp [beq_iff_eq.1 heq])
    rw [List.mapM_cons, fieldOnce?, hnone,
      ih fun field hfield hmem => h field hfield (List.mem_cons_of_mem _ hmem)]
    rfl

/-! ### Records -/

/-- The entries of a node that is no alias, by the texts of their keys. -/
def entries (anchored : Anchored) : Node → Reader (List (String × Node))
  | mapping _ entries => entries.mapM fun entry => do return (← entry.1.text anchored, entry.2)
  | scalar _ true "" => return []
  | _ => failure

/-- The entries of a record by the texts of their keys. -/
def record (anchored : Anchored) (node : Node) : Reader (List (String × Node)) := do
  entries anchored (← node.follow anchored)

/-- The fields of a record are picked from its entries. -/
theorem fields_eq (names : List String) : node.fields anchored names = (do
    let entries ← node.record anchored
    (names.mapM (fieldOnce? entries) : Option _)) := by
  have hnone : names.mapM (fieldOnce? []) = some (names.map fun _ => none) :=
    mapM_fieldOnce?_eq_none (by simp)
  rw [fields, record, bind_assoc]
  refine bind_congr fun target => ?_
  split
  · rfl
  · change _ = liftM (names.mapM (fieldOnce? []))
    rw [hnone]
    rfl
  · rename_i hmapping hempty
    have hother : entries anchored target = failure := by
      unfold entries
      split
      · exact absurd rfl (hmapping _ _)
      · exact absurd rfl (hempty _)
      · rfl
    rw [hother]
    rfl

/-- The name of an entry is the text of its key. -/
def Names (anchored : Anchored) (entry : Node × Node) (named : String × Node) : Prop :=
  entry.1.Spells anchored named.1 ∧ entry.2 = named.2

variable {mark : Mark} {entries : List (Node × Node)}

theorem record_eq_some
    (h : ((mapping mark entries).record anchored).run left = some (named, left')) :
    List.Forall₂ (Names anchored) entries named := by
  refine (Reader.mapM_eq_some h).imp fun entry field hread => ?_
  obtain ⟨before, after, hread⟩ := hread
  obtain ⟨s, between, htext, h⟩ := Reader.bind_eq_some.1 hread
  obtain ⟨rfl, -⟩ := Reader.pure_eq_some.1 h
  exact ⟨text_eq_some htext, rfl⟩

theorem exists_record (h : List.Forall₂ (Names anchored) entries named)
    (hleft : entries.length ≤ left) : ∃ left',
    ((mapping mark entries).record anchored).run left = some (named, left') ∧
      left ≤ left' + entries.length := by
  refine Reader.exists_mapM (fun entry field hnames left hleft => ?_) h hleft
  obtain ⟨left', htext, hleft'⟩ := exists_text hnames.1 hleft
  refine ⟨left', Reader.bind_eq_some.2 ⟨_, _, htext, ?_⟩, hleft'⟩
  rw [hnames.2]
  rfl

/-- Every entry has its name. -/
theorem exists_named (h : List.Forall₂ (Names anchored) entries named) {entry : Node × Node}
    (hentry : entry ∈ entries) {name : String} (hname : entry.1.Spells anchored name) :
    (name, entry.2) ∈ named := by
  induction h with
  | nil => cases hentry
  | @cons head field _ _ hnames _ ih =>
    rcases List.mem_cons.1 hentry with rfl | hentry
    · obtain ⟨hspells, hsame⟩ := hnames
      rw [hname.unique hspells, hsame]
      exact List.mem_cons_self
    · exact List.mem_cons_of_mem _ (ih hentry)

theorem length_lt_size (mark : Mark) (entries : List (Node × Node)) :
    entries.length < (mapping mark entries).size := by
  have hentries : entries.length ≤ sizeOfEntries entries := by
    induction entries with
    | nil => exact Nat.zero_le _
    | cons entry rest ih =>
      have hkey : 0 < entry.1.size := by
        cases entry.1 <;> simp only [size] <;> omega
      rw [List.length_cons, sizeOfEntries]
      omega
  rw [size]
  omega

end Node

end ConnectorCatalog.Yaml
