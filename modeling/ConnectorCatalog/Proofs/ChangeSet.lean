import ConnectorCatalog.ChangeSet
import ConnectorCatalog.Proofs.Change

/-!
# The change set of a diff

The changes of a change set strictly increase and come from placed paths of the diff
(`sorted_of_ofFiles`, `placed_of_ofFiles`).  A set takes changes in unless two of them create one
connector (`exists_insertAll_eq_ok_iff`), and keeps the last of each operation (`mem_insertAll`).
-/

namespace ConnectorCatalog

open Keyed

namespace ChangeSet

variable {set set' : ChangeSet} {change c : Change} {changes : List Change}

/-! ### Adding changes -/

theorem insert_eq_ok : set.insert change = .ok set' ↔
    ¬(change.bucket = .newConnector ∧ set.isNewConnector change.connector) ∧
      set'.changes = Keyed.insert Change.compare change set.changes := by
  unfold insert
  split
  · rename_i h; simp [h]
  · rename_i h
    simp only [h, not_false_eq_true, true_and, Except.ok.injEq]
    cases set'
    simp [eq_comm]

theorem insertAll_cons_eq_ok {rest : List Change} : set.insertAll (change :: rest) = .ok set' ↔
    ∃ next, set.insert change = .ok next ∧ next.insertAll rest = .ok set' := by
  rw [insertAll]
  cases set.insert change <;> simp

/-- What holds of a set and is kept by adding any of some changes holds of the set with them. -/
theorem insertAll_induction {motive : ChangeSet → Prop} (hset : motive set)
    (hstep : ∀ set change set', change ∈ changes → motive set → set.insert change = .ok set' →
      motive set')
    (h : set.insertAll changes = .ok set') : motive set' := by
  induction changes generalizing set with
  | nil => cases h; exact hset
  | cons change rest ih =>
    obtain ⟨next, hnext, hrest⟩ := insertAll_cons_eq_ok.1 h
    exact ih (hstep _ _ _ List.mem_cons_self hset hnext)
      (fun _ _ _ hc => hstep _ _ _ (List.mem_cons_of_mem _ hc)) hrest

theorem sorted_of_insertAll (hset : Sorted Change.compare set.changes)
    (h : set.insertAll changes = .ok set') : Sorted Change.compare set'.changes :=
  insertAll_induction (motive := fun s => Sorted Change.compare s.changes) hset
    (fun _ _ _ _ hs hins => by rw [(insert_eq_ok.1 hins).2]; exact sorted_insert hs) h

/-- Of changes that ask for the same operation the last one stays. -/
theorem mem_insertAll (hset : Sorted Change.compare set.changes)
    (h : set.insertAll changes = .ok set') : c ∈ set'.changes ↔
      Stays Change.compare changes c ∨
        c ∈ set.changes ∧ ∀ d ∈ changes, Change.compare d c = .eq → d = c := by
  induction changes generalizing set with
  | nil =>
    cases h
    simp [Stays]
  | cons change rest ih =>
    obtain ⟨next, hnext, hrest⟩ := insertAll_cons_eq_ok.1 h
    obtain ⟨-, hchanges⟩ := insert_eq_ok.1 hnext
    have hsorted : Sorted Change.compare next.changes := by
      rw [hchanges]
      exact sorted_insert hset
    have hmem : c ∈ next.changes ↔
        c = change ∨ c ∈ set.changes ∧ Change.compare change c ≠ .eq := by
      rw [hchanges, mem_insert hset]
    rw [ih hsorted hrest, stays_cons, hmem, List.forall_mem_cons, or_assoc]
    refine or_congr_right ?_
    constructor
    · rintro ⟨rfl | ⟨hc, hne⟩, hlater⟩
      · exact .inl ⟨rfl, hlater⟩
      · exact .inr ⟨hc, fun heq => absurd heq hne, hlater⟩
    · rintro (⟨rfl, hlater⟩ | ⟨hc, hsame, hlater⟩)
      · exact ⟨.inl rfl, hlater⟩
      · by_cases heq : Change.compare change c = .eq
        · exact ⟨.inl (hsame heq).symm, hlater⟩
        · exact ⟨.inr ⟨hc, heq⟩, hlater⟩

theorem mem_of_mem_insertAll (hset : Sorted Change.compare set.changes)
    (h : set.insertAll changes = .ok set') (hc : c ∈ set'.changes) :
    c ∈ set.changes ∨ c ∈ changes := by
  rcases (mem_insertAll hset h).1 hc with ⟨earlier, later, rfl, -⟩ | ⟨hc, -⟩
  · exact .inr (by simp)
  · exact .inl hc

/-! ### New connectors -/

theorem isNewConnector_iff {connector : Identity} : set.isNewConnector connector = true ↔
    ∃ c ∈ set.changes, c.bucket = .newConnector ∧ c.connector = connector := by
  simp [isNewConnector]

theorem isNewConnector_insert (hset : Sorted Change.compare set.changes)
    (h : set.insert change = .ok set') {connector : Identity} :
    set'.isNewConnector connector = true ↔
      change.newConnector? = some connector ∨ set.isNewConnector connector = true := by
  simp only [isNewConnector_iff, (insert_eq_ok.1 h).2, mem_insert hset, Change.newConnector?,
    Option.ite_none_right_eq_some, Option.some.injEq]
  constructor
  · rintro ⟨c, rfl | ⟨hc, -⟩, hbucket, hconn⟩
    · exact .inl ⟨hbucket, hconn⟩
    · exact .inr ⟨c, hc, hbucket, hconn⟩
  · rintro (⟨hbucket, hconn⟩ | ⟨c, hc, hbucket, hconn⟩)
    · exact ⟨change, .inl rfl, hbucket, hconn⟩
    · by_cases heq : Change.compare change c = .eq
      · -- What takes the place of a new connector is the same new connector.
        obtain ⟨hb, hconn', -⟩ := Change.compare_eq_iff.1 heq
        exact ⟨change, .inl rfl, hb.trans hbucket, hconn'.trans hconn⟩
      · exact ⟨c, .inr ⟨hc, heq⟩, hbucket, hconn⟩

/-- Changes make a set unless a connector is created twice. -/
theorem exists_insertAll_eq_ok_iff (hset : Sorted Change.compare set.changes) :
    (∃ set', set.insertAll changes = .ok set') ↔
      (changes.filterMap Change.newConnector?).Nodup ∧
        ∀ connector ∈ changes.filterMap Change.newConnector?,
          set.isNewConnector connector = false := by
  induction changes generalizing set with
  | nil => simp [insertAll]
  | cons change rest ih =>
    cases hnext : set.insert change with
    | ok next =>
      obtain ⟨hfree, hchanges⟩ := insert_eq_ok.1 hnext
      have hsorted : Sorted Change.compare next.changes := by
        rw [hchanges]
        exact sorted_insert hset
      have hnew (connector : Identity) : next.isNewConnector connector = true ↔
          change.newConnector? = some connector ∨ set.isNewConnector connector = true :=
        isNewConnector_insert hset hnext
      simp only [insertAll, hnext, ih hsorted, List.filterMap_cons]
      cases hc : change.newConnector? with
      | none => simp [← Bool.not_eq_true, hnew, hc]
      | some connector =>
        have hnot : set.isNewConnector connector = false := by
          simp only [Change.newConnector?, Option.ite_none_right_eq_some, Option.some.injEq] at hc
          obtain ⟨hbucket, rfl⟩ := hc
          simpa [hbucket] using hfree
        simp only [List.nodup_cons, List.forall_mem_cons, hnot, ← Bool.not_eq_true, hnew, hc,
          Option.some.injEq, not_or]
        constructor
        · rintro ⟨hnodup, hall⟩
          exact ⟨⟨fun hmem => (hall connector hmem).1 rfl, hnodup⟩, by simp, fun x hx => (hall x hx).2⟩
        · rintro ⟨⟨hnotMem, hnodup⟩, -, hall⟩
          exact ⟨hnodup, fun x hx => ⟨fun heq => hnotMem (heq ▸ hx), hall x hx⟩⟩
    | error fault =>
      have hnot : ¬(change.bucket = .newConnector ∧ set.isNewConnector change.connector) → False := by
        intro h
        rw [insert, if_neg h] at hnext
        cases hnext
      obtain ⟨hbucket, htaken⟩ := Classical.not_not.1 hnot
      simp only [insertAll, hnext, reduceCtorEq, exists_false, false_iff, not_and]
      intro _ hall
      have := hall change.connector (by simp [Change.newConnector?, hbucket])
      rw [htaken] at this
      cases this

/-! ### The set of a diff -/

variable {files : ChangedFiles}

theorem ofFiles_eq_ok : ofFiles files = .ok set ↔
    ∃ changes, classifyAll files = .ok changes ∧ empty.insertAll changes = .ok set := by
  rw [ofFiles, Except.bind_eq_ok]
  rfl

theorem sorted_of_ofFiles (h : ofFiles files = .ok set) : Sorted Change.compare set.changes := by
  obtain ⟨changes, -, hins⟩ := ofFiles_eq_ok.1 h
  exact sorted_of_insertAll List.Pairwise.nil hins

theorem mem_classifyAll_of_ofFiles (h : ofFiles files = .ok set) (hc : c ∈ set.changes) :
    ∃ changes, classifyAll files = .ok changes ∧ c ∈ changes := by
  obtain ⟨changes, hcls, hins⟩ := ofFiles_eq_ok.1 h
  refine ⟨changes, hcls, ?_⟩
  rcases mem_of_mem_insertAll List.Pairwise.nil hins hc with hc | hc
  · cases hc
  · exact hc

theorem placed_of_ofFiles (h : ofFiles files = .ok set) (hc : c ∈ set.changes) : c.Placed := by
  obtain ⟨changes, hcls, hmem⟩ := mem_classifyAll_of_ofFiles h hc
  exact (mem_classifyAll hcls hmem).1

/-! ### What a run has to do -/

theorem agenda_sublist (set : ChangeSet) : set.agenda.Sublist set.changes := List.filter_sublist

theorem sorted_agenda (h : ofFiles files = .ok set) : Sorted Change.compare set.agenda :=
  (sorted_of_ofFiles h).sublist set.agenda_sublist

/-- A run builds the rows of every connector that it creates. -/
theorem exists_mem_agenda_of_isNewConnector {connector : Identity}
    (h : set.isNewConnector connector = true) :
    ∃ c ∈ set.agenda, c.kind = .metadata .added ∧ c.connector = connector := by
  obtain ⟨c, hc, hb, hconn⟩ := isNewConnector_iff.1 h
  have hk := Change.bucket_eq_newConnector.1 hb
  exact ⟨c, List.mem_filter.2 ⟨hc, by simp [isFolded, hk]⟩, hk, hconn⟩

end ChangeSet

end ConnectorCatalog
