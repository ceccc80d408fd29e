import ConnectorCatalog.Classify
import ConnectorCatalog.Proofs.Except
import ConnectorCatalog.Proofs.Text.Segment

/-!
# What a classified path says

The segments of a path that is understood spell out the connector, and what the file holds, in one
way only.

* `recognize?_eq_some_iff` gives the table of paths in both directions.
* `Change.Placed` says that the path of a change spells out its connector and what it is about;
  every change of a diff is placed (`mem_classifyAll`).
-/

namespace ConnectorCatalog

open Text

/-! ### Spelling -/

section

variable {s : String}

theorem toList_slashed (s : String) :
    (slashed s).toList = s.toList.map fun c => if c = '\\' then '/' else c := String.toList_ofList

theorem slashed_append (s t : String) : slashed (s ++ t) = slashed s ++ slashed t := by
  apply String.toList_injective
  simp only [toList_slashed, String.toList_append, List.map_append]

theorem slashed_of_not_mem (h : '\\' ∉ s.toList) : slashed s = s := by
  apply String.toList_injective
  have hsame : ∀ c ∈ s.toList, (if c = '\\' then '/' else c) = id c := by
    intro c hc
    refine if_neg ?_
    rintro rfl
    exact h hc
  rw [toList_slashed, List.map_congr_left hsame, List.map_id]

theorem not_mem_slashed (s : String) : '\\' ∉ (slashed s).toList := by
  rw [toList_slashed, List.mem_map]
  rintro ⟨c, -, hc⟩
  split at hc
  · cases hc
  · contradiction

/-- Every backslash becomes one more slash. -/
theorem count_slashed (s : String) :
    (slashed s).toList.count '/' = s.toList.count '/' + s.toList.count '\\' := by
  rw [toList_slashed]
  induction s.toList with
  | nil => rfl
  | cons c cs ih =>
    rw [List.map_cons, List.count_cons, List.count_cons, List.count_cons, ih]
    by_cases hback : c = '\\'
    · subst hback
      simp
      omega
    · by_cases hslash : c = '/' <;> simp [hback, hslash]
      omega

theorem slashed_joinTexts (parts : List String) :
    slashed (joinTexts "/" parts) = joinTexts "/" (parts.map slashed) := by
  induction parts with
  | nil => decide
  | cons s rest ih =>
    cases rest with
    | nil => rfl
    | cons t rest =>
      have hslash : slashed "/" = "/" := by decide
      rw [joinTexts, slashed_append, slashed_append, hslash, ih]
      rfl

end

/-! ### The table of paths -/

theorem LogoFormat.ofExtension?_eq_some_iff {extension : String} {format : LogoFormat} :
    ofExtension? extension = some format ↔ format.extension = extension := by
  constructor
  · intro h
    unfold ofExtension? at h
    split at h <;> cases h <;> rfl
  · rintro rfl
    cases format <;> rfl

theorem RegistryItem.ofFileName?_eq_some_iff {file : String} {item : RegistryItem} :
    ofFileName? file = some item ↔
      item.segments = [file] := by
  constructor
  · intro h
    unfold ofFileName? at h
    split_ifs at h with hmetadata hreadme
    · cases h
      rw [hmetadata]
      rfl
    · cases h
      rw [hreadme]
      rfl
    · obtain ⟨extension, hextension, h⟩ := Option.bind_eq_some_iff.1 h
      obtain ⟨format, hformat, h⟩ := Option.bind_eq_some_iff.1 h
      cases h
      rw [segments, LogoFormat.ofExtension?_eq_some_iff.1 hformat, stripStart?_eq_some.1 hextension]
  · intro h
    cases item with
    | packaging version => cases h
    | logo format => cases format <;> cases h <;> decide
    | metadata => cases h; rfl
    | readme => cases h; rfl

/-- Whether the connector and the item have names for everything that their path spells out. -/
def IsNamed (connector : Identity) (item : RegistryItem) : Prop :=
  connector.ns ≠ "" ∧ connector.name ≠ "" ∧ ∀ version, item = .packaging version → version ≠ ""

theorem recognize?_eq_some_iff {segments : List String} {connector : Identity}
    {item : RegistryItem} :
    recognize? segments = some (connector, item) ↔
      segments = "registry" :: connector.ns :: connector.name :: item.segments ∧
        IsNamed connector item := by
  constructor
  · intro h
    unfold recognize? at h
    split at h
    · split at h
      · cases h
      · rename_i hne
        obtain ⟨item, hitem, hpair⟩ := Option.map_eq_some_iff.1 h
        cases hpair
        rw [RegistryItem.ofFileName?_eq_some_iff] at hitem
        refine ⟨by rw [hitem], (not_or.1 hne).1, (not_or.1 hne).2, ?_⟩
        rintro version rfl
        cases hitem
    · split at h
      · cases h
      · rename_i hne
        cases h
        simp only [not_or] at hne
        exact ⟨rfl, hne.1, hne.2.1, fun _ hv => by cases hv; exact hne.2.2⟩
    · cases h
  · rintro ⟨rfl, hns, hname, hversion⟩
    cases item with
    | packaging version =>
      simp [recognize?, RegistryItem.segments, packagingFile, hns, hname, hversion version rfl]
    | metadata => simp [recognize?, RegistryItem.segments, RegistryItem.ofFileName?, hns, hname]
    | readme => simp [recognize?, RegistryItem.segments, RegistryItem.ofFileName?, hns, hname]
    | logo format =>
      have hfile : RegistryItem.ofFileName? ("logo." ++ format.extension) = some (.logo format) :=
        RegistryItem.ofFileName?_eq_some_iff.2 rfl
      simp [recognize?, RegistryItem.segments, hfile, hns, hname]

/-! ### Changes -/

/-- What the file of a change holds. -/
def ChangeKind.item : ChangeKind → RegistryItem
  | metadata _ => .metadata
  | logo _ format => .logo format
  | readme _ => .readme
  | release version => .packaging version

/-- The kind of change is one that a file of a list of a diff can ask for. -/
def ChangeKind.IsFrom (origin : Origin) : ChangeKind → Prop
  | metadata o => o = origin
  | logo o _ => o = origin
  | readme o => o = origin
  | release _ => origin = .added

/-- The path of a change spells out its connector and what it is about. -/
structure Change.Placed (c : Change) : Prop where
  segments_path : segments c.path =
    "registry" :: c.connector.ns :: c.connector.name :: c.kind.item.segments
  named : IsNamed c.connector c.kind.item
  not_reserved : ∀ s ∈ segments c.path, isReserved s = false

theorem changeOf_eq_ok {path : String} {origin : Origin} {connector : Identity}
    {item : RegistryItem} {c : Change} (h : changeOf path origin connector item = .ok c) :
    c.path = path ∧ c.connector = connector ∧ c.kind.item = item ∧ c.kind.IsFrom origin := by
  cases item with
  | packaging version =>
    cases origin with
    | added => cases h; exact ⟨rfl, rfl, rfl, rfl⟩
    | modified => cases h
  | metadata => cases h; exact ⟨rfl, rfl, rfl, rfl⟩
  | logo format => cases h; exact ⟨rfl, rfl, rfl, rfl⟩
  | readme => cases h; exact ⟨rfl, rfl, rfl, rfl⟩

/-- **A path that is understood gives a placed change** with the path in its usual spelling. -/
theorem classify_eq_some {path : String} {origin : Origin} {c : Change}
    (h : classify path origin = .ok (some c)) :
    c.path = normalize path ∧ c.Placed ∧ c.kind.IsFrom origin := by
  simp only [classify] at h
  split at h
  · cases h
  · rename_i hres
    split at h
    · cases h
    · rename_i connector item hrec
      cases hc : changeOf (normalize path) origin connector item with
      | error fault => rw [hc] at h; cases h
      | ok c' =>
        rw [hc] at h
        cases h
        obtain ⟨hpath, rfl, rfl, hfrom⟩ := changeOf_eq_ok hc
        obtain ⟨hseg, hnamed⟩ := recognize?_eq_some_iff.1 hrec
        refine ⟨hpath, ⟨hpath ▸ hseg, hnamed, ?_⟩, hfrom⟩
        simpa [hpath] using hres

theorem classifyList_eq (origin : Origin) (paths : List String) :
    classifyList origin paths = collect (classify · origin) paths := by
  induction paths with
  | nil => rfl
  | cons path rest ih => rw [classifyList, collect, ih]

theorem classifyList_cons_eq_ok {origin : Origin} {path : String} {rest : List String}
    {changes : List Change} :
    classifyList origin (path :: rest) = .ok changes ↔ ∃ change? more,
      classify path origin = .ok change? ∧ classifyList origin rest = .ok more ∧
        changes = change?.toList ++ more := by
  simp only [classifyList_eq]
  exact collect_cons_eq_ok

theorem mem_classifyList {origin : Origin} {paths : List String} {changes : List Change}
    (h : classifyList origin paths = .ok changes) {c : Change} (hc : c ∈ changes) :
    ∃ path ∈ paths, classify path origin = .ok (some c) := by
  rw [classifyList_eq] at h
  exact (mem_collect h).1 hc

theorem classifyAll_eq_ok {files : ChangedFiles} {changes : List Change} :
    classifyAll files = .ok changes ↔ ∃ added modified,
      classifyList .added files.added = .ok added ∧
        classifyList .modified files.modified = .ok modified ∧ changes = added ++ modified := by
  simp only [classifyAll, Except.bind_eq_ok, Except.return_eq_ok, eq_comm (b := changes)]
  exact ⟨fun ⟨a, ha, m, hm, h⟩ => ⟨a, m, ha, hm, h⟩, fun ⟨a, m, ha, hm, h⟩ => ⟨a, ha, m, hm, h⟩⟩

/-- **Every change of a diff is placed**, and comes from a path of one of its two lists. -/
theorem mem_classifyAll {files : ChangedFiles} {changes : List Change}
    (h : classifyAll files = .ok changes) {c : Change} (hc : c ∈ changes) :
    c.Placed ∧ ((∃ path ∈ files.added, classify path .added = .ok (some c)) ∨
      ∃ path ∈ files.modified, classify path .modified = .ok (some c)) := by
  obtain ⟨added, modified, hadded, hmodified, rfl⟩ := classifyAll_eq_ok.1 h
  rcases List.mem_append.1 hc with hc | hc
  · obtain ⟨path, hmem, hpath⟩ := mem_classifyList hadded hc
    exact ⟨(classify_eq_some hpath).2.1, .inl ⟨path, hmem, hpath⟩⟩
  · obtain ⟨path, hmem, hpath⟩ := mem_classifyList hmodified hc
    exact ⟨(classify_eq_some hpath).2.1, .inr ⟨path, hmem, hpath⟩⟩

end ConnectorCatalog
