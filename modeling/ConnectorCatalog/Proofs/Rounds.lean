import ConnectorCatalog.Proofs.ChangeSet

/-!
# A change set heading by heading

The agenda of a run leaves some of the changes of a report out and keeps the others in their order.
The same changes in the same order are found by going through the headings one after the other, and
under the last heading through the connectors and the releases of each
(`ChangeSet.agenda_eq_rounds`).
-/

namespace ConnectorCatalog

open Keyed Std

namespace Change

variable {a b : Change}

theorem compare_of_rank_lt (h : a.bucket.rank < b.bucket.rank) : compare a b = .lt := by
  rw [compare, Nat.compare_eq_lt.2 h]
  rfl

/-- Under one heading connectors come in their order. -/
theorem compare_of_connector_lt (hbucket : a.bucket = b.bucket)
    (h : Identity.compare a.connector b.connector = .lt) : compare a b = .lt := by
  rw [compare, hbucket, h, Nat.compare_eq_eq.2 rfl]
  rfl

end Change

/-- The connectors of changes, each once and in their order. -/
def connectorsOf (changes : List Change) : List Identity :=
  changes.foldr (fun c connectors => Keyed.insert Identity.compare c.connector connectors) []

theorem sorted_connectorsOf (changes : List Change) :
    Sorted Identity.compare (connectorsOf changes) := by
  induction changes with
  | nil => exact .nil
  | cons c rest ih => exact sorted_insert ih

theorem mem_connectorsOf {changes : List Change} {connector : Identity} :
    connector ∈ connectorsOf changes ↔ ∃ c ∈ changes, c.connector = connector := by
  induction changes with
  | nil => simp [connectorsOf]
  | cons c rest ih =>
    have hcons : connectorsOf (c :: rest) =
        Keyed.insert Identity.compare c.connector (connectorsOf rest) := rfl
    rw [hcons, mem_insert (sorted_connectorsOf rest), ih, List.exists_mem_cons_iff]
    by_cases heq : connector = c.connector
    · simp [heq]
    · have hne : Identity.compare c.connector connector ≠ .eq :=
        fun h => heq (LawfulEqCmp.eq_of_compare h).symm
      simp [heq, hne, Ne.symm heq]

namespace ChangeSet

variable {set : ChangeSet} {files : ChangedFiles} {c : Change}

/-- The changes that make the releases of one connector, in the order of versions. -/
def releaseRound (set : ChangeSet) (connector : Identity) : List Change :=
  (set.releasesOf connector).map fun (version, path) => ⟨connector, .release version, path⟩

/-- The changes of a set heading by heading: connectors, then the logos and the documentation of
those that are not new, then the releases of one connector after the other. -/
def rounds (set : ChangeSet) : List Change :=
  [Bucket.newConnector, .modifiedConnector].flatMap set.inBucket ++
    ([Bucket.newLogo, .modifiedLogo, .newReadme, .modifiedReadme].flatMap set.inBucket).filter
      (!set.isNewConnector ·.connector) ++
    (connectorsOf (set.inBucket .newVersion)).flatMap set.releaseRound

/-! ### What is found -/

theorem mem_inBucket {bucket : Bucket} :
    c ∈ set.inBucket bucket ↔ c ∈ set.changes ∧ c.bucket = bucket := by
  simp [inBucket]

theorem releaseRound_eq (set : ChangeSet) (connector : Identity) : set.releaseRound connector =
    set.changes.filter fun c => c.connector = connector && c.bucket = .newVersion := by
  rw [releaseRound, releasesOf, List.map_filterMap, ← List.filterMap_eq_filter]
  refine List.filterMap_congr fun c _ => ?_
  obtain ⟨other, kind, path⟩ := c
  by_cases hconnector : other = connector
  · subst hconnector
    rcases kind with (_ | _) | ⟨_ | _, _⟩ | (_ | _) | _ <;>
      simp [Change.version?, ChangeKind.version?, Change.bucket, ChangeKind.bucket, Option.guard]
  · simp [hconnector, Option.guard]

theorem mem_releaseRound {connector : Identity} : c ∈ set.releaseRound connector ↔
    c ∈ set.changes ∧ c.connector = connector ∧ c.bucket = .newVersion := by
  simp [releaseRound_eq]

theorem mem_rounds : c ∈ set.rounds ↔ c ∈ set.agenda := by
  have hreleases : c ∈ (connectorsOf (set.inBucket .newVersion)).flatMap set.releaseRound ↔
      c ∈ set.changes ∧ c.bucket = .newVersion := by
    simp only [List.mem_flatMap, mem_connectorsOf, mem_releaseRound, mem_inBucket]
    constructor
    · rintro ⟨_, -, hc, -, hbucket⟩
      exact ⟨hc, hbucket⟩
    · rintro ⟨hc, hbucket⟩
      exact ⟨c.connector, ⟨c, ⟨hc, hbucket⟩, rfl⟩, hc, rfl, hbucket⟩
  -- Every kind of change stands under one heading.
  simp only [rounds, agenda, List.mem_append, hreleases, List.mem_filter, List.mem_flatMap,
    mem_inBucket]
  obtain ⟨connector, kind, path⟩ := c
  rcases kind with (_ | _) | ⟨_ | _, _⟩ | (_ | _) | _ <;>
    simp [Change.bucket, ChangeKind.bucket, isFolded]

/-! ### In which order -/

theorem sorted_inBuckets (h : Sorted Change.compare set.changes) {buckets : List Bucket}
    (hbuckets : buckets.Pairwise fun b b' => b.rank < b'.rank) :
    Sorted Change.compare (buckets.flatMap set.inBucket) := by
  refine List.pairwise_flatMap.2 ⟨fun b _ => h.sublist List.filter_sublist, ?_⟩
  refine hbuckets.imp fun {b b'} hlt c hc d hd => Change.compare_of_rank_lt ?_
  rw [(mem_inBucket.1 hc).2, (mem_inBucket.1 hd).2]
  exact hlt

theorem sorted_releaseRounds (h : Sorted Change.compare set.changes) {connectors : List Identity}
    (hconnectors : Sorted Identity.compare connectors) :
    Sorted Change.compare (connectors.flatMap set.releaseRound) := by
  refine List.pairwise_flatMap.2 ⟨fun connector _ => ?_, ?_⟩
  · rw [releaseRound_eq]
    exact h.sublist List.filter_sublist
  · refine hconnectors.imp fun {a b} hlt c hc d hd => ?_
    obtain ⟨-, hca, hcb⟩ := mem_releaseRound.1 hc
    obtain ⟨-, hda, hdb⟩ := mem_releaseRound.1 hd
    exact Change.compare_of_connector_lt (hcb.trans hdb.symm) (by rwa [hca, hda])

theorem sorted_rounds (h : Sorted Change.compare set.changes) :
    Sorted Change.compare set.rounds := by
  -- All headings but the last, with nothing left out.
  let buckets : List Bucket :=
    [.newConnector, .modifiedConnector, .newLogo, .modifiedLogo, .newReadme, .modifiedReadme]
  have hbuckets : Sorted Change.compare (buckets.flatMap set.inBucket) :=
    sorted_inBuckets h (by decide)
  have hsublist : ([Bucket.newConnector, .modifiedConnector].flatMap set.inBucket ++
      ([Bucket.newLogo, .modifiedLogo, .newReadme, .modifiedReadme].flatMap set.inBucket).filter
        (!set.isNewConnector ·.connector)).Sublist (buckets.flatMap set.inBucket) := by
    have hsplit : buckets = [.newConnector, .modifiedConnector] ++
      [.newLogo, .modifiedLogo, .newReadme, .modifiedReadme] := rfl
    rw [hsplit, List.flatMap_append]
    exact (List.Sublist.refl _).append List.filter_sublist
  -- Releases come last, behind every change under another heading.
  refine List.pairwise_append.2 ⟨hbuckets.sublist hsublist,
    sorted_releaseRounds h (sorted_connectorsOf _), fun c hc d hd => Change.compare_of_rank_lt ?_⟩
  obtain ⟨bucket, hbucket, hc⟩ := List.mem_flatMap.1 (hsublist.subset hc)
  obtain ⟨connector, -, hd⟩ := List.mem_flatMap.1 hd
  rw [(mem_inBucket.1 hc).2, (mem_releaseRound.1 hd).2.2]
  exact (by decide : ∀ b ∈ buckets, b.rank < Bucket.newVersion.rank) bucket hbucket

/-- **A run goes through its changes heading by heading**, which is the order of reports. -/
theorem agenda_eq_rounds (h : ofFiles files = .ok set) : set.agenda = set.rounds :=
  (sorted_agenda h).eq_of_mem_iff (sorted_rounds (sorted_of_ofFiles h)) fun _ => mem_rounds.symm

end ChangeSet

end ConnectorCatalog
