import Mathlib.Data.List.Forall2
import ConnectorCatalog.Keyed
import ConnectorCatalog.Proofs.Text.Order

/-!
# Lists in the order of a key, lemmas

A list is `Sorted` if it strictly increases.  Putting a member in its place keeps a list sorted,
takes away what compares equal to the new member and nothing else (`mem_insert`), and commutes with
leaving out the members of some keys (`filter_insert`).  Where only equal members compare equal, a
list that is put together member by member is the set of its members (`mem_foldl_insert`).

Of members that are put in place one after the other, those remain that `Stays` singles out.
Sorted lists with the same keys match member by member (`Sorted.forall₂`), so a sorted list is known
by its members (`Sorted.eq_of_mem_iff`).  A table is a list of entries in the order of their keys: a
new entry is found under its key (`lookup_insert`).
-/

namespace ConnectorCatalog

namespace Keyed

open Std

variable {α : Type} {cmp : α → α → Ordering}

/-- A list that strictly increases. -/
def Sorted (cmp : α → α → Ordering) (items : List α) : Prop :=
  items.Pairwise fun a b => cmp a b = .lt

variable {item : α} {items : List α}

theorem Sorted.nodup_filterMap {β : Type} {f : α → Option β} (h : Sorted cmp items)
    (hf : ∀ a b c, f a = some c → f b = some c → cmp a b = .eq) : (items.filterMap f).Nodup := by
  rw [List.Nodup, List.pairwise_filterMap]
  refine h.imp fun {a b} hlt c ha d hb hcd => ?_
  subst hcd
  rw [hf a b c ha hb] at hlt
  cases hlt

theorem Sorted.nodup_map {β : Type} {f : α → β} (h : Sorted cmp items)
    (hf : ∀ a b, f a = f b → cmp a b = .eq) : (items.map f).Nodup := by
  rw [← List.filterMap_eq_map]
  exact h.nodup_filterMap fun a b c ha hb =>
    hf a b (Option.some.inj (ha.trans hb.symm))

theorem insert_of_lt (h : ∀ a ∈ items, cmp item a = .lt) :
    insert cmp item items = item :: items := by
  cases items with
  | nil => rfl
  | cons b rest => simp only [insert, h b List.mem_cons_self]

variable [TransCmp cmp]

theorem mem_insert (h : Sorted cmp items) {a : α} :
    a ∈ insert cmp item items ↔ a = item ∨ a ∈ items ∧ cmp item a ≠ .eq := by
  induction items with
  | nil => simp [insert]
  | cons b rest ih =>
    obtain ⟨hb, hrest⟩ := List.pairwise_cons.1 h
    cases hc : cmp item b with
    | lt =>
      have hlt : ∀ c ∈ rest, cmp item c ≠ .eq := fun c hcm => by
        rw [TransCmp.lt_trans hc (hb c hcm)]; simp
      simp only [insert, hc, List.mem_cons]
      grind
    | eq =>
      have hlt : ∀ c ∈ rest, cmp item c ≠ .eq := fun c hcm => by
        rw [TransCmp.lt_of_eq_of_lt hc (hb c hcm)]; simp
      simp only [insert, hc, List.mem_cons]
      grind
    | gt =>
      simp only [insert, hc, List.mem_cons, ih hrest]
      grind

theorem sorted_insert (h : Sorted cmp items) : Sorted cmp (insert cmp item items) := by
  induction items with
  | nil => simp [insert, Sorted]
  | cons b rest ih =>
    obtain ⟨hb, hrest⟩ := List.pairwise_cons.1 h
    cases hc : cmp item b with
    | lt =>
      simp only [insert, hc]
      refine List.pairwise_cons.2 ⟨fun c hcm => ?_, h⟩
      rcases List.mem_cons.1 hcm with rfl | hcm
      · exact hc
      · exact TransCmp.lt_trans hc (hb c hcm)
    | eq =>
      simp only [insert, hc]
      exact List.pairwise_cons.2 ⟨fun c hcm => TransCmp.lt_of_eq_of_lt hc (hb c hcm), hrest⟩
    | gt =>
      simp only [insert, hc]
      refine List.pairwise_cons.2 ⟨fun c hcm => ?_, ih hrest⟩
      rcases (mem_insert hrest).1 hcm with rfl | ⟨hcm, -⟩
      · exact OrientedCmp.lt_of_gt hc
      · exact hb c hcm

/-- Leaving out the members of some keys commutes with putting a member in its place. -/
theorem filter_insert (h : Sorted cmp items) {keep : α → Bool}
    (hkeep : ∀ a b, cmp a b = .eq → keep a = keep b) :
    (insert cmp item items).filter keep =
      if keep item then insert cmp item (items.filter keep) else items.filter keep := by
  induction items with
  | nil => cases hk : keep item <;> simp [insert, hk]
  | cons b rest ih =>
    obtain ⟨hb, hrest⟩ := List.pairwise_cons.1 h
    cases hc : cmp item b with
    | lt =>
      have hlt : ∀ c ∈ (b :: rest).filter keep, cmp item c = .lt := by
        intro c hcm
        rcases List.mem_cons.1 (List.mem_filter.1 hcm).1 with rfl | hcm
        · exact hc
        · exact TransCmp.lt_trans hc (hb c hcm)
      rw [insert_of_lt hlt, insert, hc]
      cases hk : keep item <;> simp [hk]
    | eq =>
      have hlt : ∀ c ∈ rest.filter keep, cmp item c = .lt := fun c hcm =>
        TransCmp.lt_of_eq_of_lt hc (hb c (List.mem_filter.1 hcm).1)
      have hkb := hkeep item b hc
      simp only [insert, hc, List.filter_cons, ← hkb]
      cases hk : keep item
      · simp
      · simp [insert, hc]
    | gt =>
      simp only [insert, hc, List.filter_cons, ih hrest]
      cases hkb : keep b <;> cases hk : keep item <;> simp [insert, hc]

/-- Members that only compare equal to themselves are all there when they have been put in place. -/
theorem mem_foldl_insert [LawfulEqCmp cmp] {more : List α} {a : α} (h : Sorted cmp items) :
    a ∈ more.foldl (fun items item => insert cmp item items) items ↔ a ∈ more ∨ a ∈ items := by
  induction more generalizing items with
  | nil => simp
  | cons b rest ih =>
    have hsame : cmp b a = .eq ↔ b = a := LawfulEqCmp.compare_eq_iff_eq
    rw [List.foldl_cons, ih (sorted_insert h), mem_insert h, List.mem_cons]
    grind

/-- Members of which no two share a key are sorted into a strict order. -/
theorem sorted_sortBy (h : items.Pairwise fun a b => cmp a b ≠ .eq) :
    Sorted cmp (Text.sortBy cmp items) := by
  have hdistinct : (Text.sortBy cmp items).Pairwise fun a b => cmp a b ≠ .eq :=
    h.perm (List.mergeSort_perm items _).symm fun hne heq => hne (OrientedCmp.eq_symm heq)
  refine (Text.pairwise_sortBy.and hdistinct).imp fun {a b} hab => ?_
  exact (Ordering.isLE_iff_eq_lt_or_eq_eq.1 hab.1).resolve_right hab.2

/-! ### What remains of a list -/

/-- A member of a list behind which no other member of its key stands. -/
def Stays (cmp : α → α → Ordering) (items : List α) (a : α) : Prop :=
  ∃ earlier later, items = earlier ++ a :: later ∧ ∀ b ∈ later, cmp b a = .eq → b = a

omit [TransCmp cmp] in
theorem stays_cons {a : α} : Stays cmp (item :: items) a ↔
    Stays cmp items a ∨ a = item ∧ ∀ b ∈ items, cmp b a = .eq → b = a := by
  constructor
  · rintro ⟨earlier, later, hsplit, hlater⟩
    cases earlier with
    | nil =>
      obtain ⟨rfl, rfl⟩ := List.cons.inj hsplit
      exact .inr ⟨rfl, hlater⟩
    | cons b earlier =>
      obtain ⟨rfl, rfl⟩ := List.cons.inj hsplit
      exact .inl ⟨earlier, later, rfl, hlater⟩
  · rintro (⟨earlier, later, rfl, hlater⟩ | ⟨rfl, hlater⟩)
    · exact ⟨item :: earlier, later, rfl, hlater⟩
    · exact ⟨[], items, rfl, hlater⟩

omit [TransCmp cmp] in
theorem stays_append {more : List α} {a : α} : Stays cmp (items ++ more) a ↔
    Stays cmp more a ∨ Stays cmp items a ∧ ∀ b ∈ more, cmp b a = .eq → b = a := by
  induction items with
  | nil =>
    have hnil : ¬Stays cmp [] a := by simp [Stays]
    simp [hnil]
  | cons b rest ih =>
    rw [List.cons_append, stays_cons, stays_cons, ih]
    simp only [List.mem_append, or_imp, forall_and]
    constructor
    · rintro ((hmore | ⟨hrest, hmore⟩) | ⟨rfl, hrest, hmore⟩)
      · exact .inl hmore
      · exact .inr ⟨.inl hrest, hmore⟩
      · exact .inr ⟨.inr ⟨rfl, hrest⟩, hmore⟩
    · rintro (hmore | ⟨hrest | ⟨rfl, hrest⟩, hmore⟩)
      · exact .inl (.inl hmore)
      · exact .inl (.inr ⟨hrest, hmore⟩)
      · exact .inr ⟨rfl, hrest, hmore⟩

omit [TransCmp cmp] in
/-- What remains of the members that `f` finds, told by where it finds them. -/
theorem stays_filterMap {β : Type} {f : β → Option α} {l : List β} {a : α} :
    Stays cmp (l.filterMap f) a ↔ ∃ earlier b later, l = earlier ++ b :: later ∧ f b = some a ∧
      ∀ c ∈ later, ∀ d, f c = some d → cmp d a = .eq → d = a := by
  constructor
  · rintro ⟨earlier, later, hsplit, hlater⟩
    obtain ⟨l₁, l₂, rfl, -, hl₂⟩ := List.filterMap_eq_append_iff.1 hsplit
    obtain ⟨m₁, b, m₂, rfl, -, hb, rfl⟩ := List.filterMap_eq_cons_iff.1 hl₂
    refine ⟨l₁ ++ m₁, b, m₂, by simp, hb, fun c hc d hd => ?_⟩
    exact hlater d (List.mem_filterMap.2 ⟨c, hc, hd⟩)
  · rintro ⟨earlier, b, later, rfl, hb, hlater⟩
    refine ⟨earlier.filterMap f, later.filterMap f, by simp [hb], fun d hd => ?_⟩
    obtain ⟨c, hc, hcd⟩ := List.mem_filterMap.1 hd
    exact hlater c hc d hcd

/-- Of the members with one key one remains. -/
theorem exists_stays_of_mem {a : α} (h : a ∈ items) : ∃ b, Stays cmp items b ∧ cmp b a = .eq := by
  induction items generalizing a with
  | nil => cases h
  | cons c rest ih =>
    by_cases hlater : ∃ b ∈ rest, cmp b a = .eq
    · obtain ⟨b, hb, hba⟩ := hlater
      obtain ⟨d, hd, hdb⟩ := ih hb
      exact ⟨d, stays_cons.2 (.inl hd), TransCmp.eq_trans hdb hba⟩
    · rcases List.mem_cons.1 h with rfl | h
      · exact ⟨a, stays_cons.2 (.inr ⟨rfl, fun b hb hba => absurd ⟨b, hb, hba⟩ hlater⟩),
          ReflCmp.compare_self⟩
      · exact absurd ⟨a, h, ReflCmp.compare_self⟩ hlater

/-! ### Lists with the same keys -/

/-- Sorted lists whose members have counterparts of the same key match member by member. -/
theorem Sorted.forall₂ {items' : List α} {R : α → α → Prop} (h : Sorted cmp items)
    (h' : Sorted cmp items') (hR : ∀ a b, R a b → cmp a b = .eq)
    (hleft : ∀ a ∈ items, ∃ b ∈ items', R a b) (hright : ∀ b ∈ items', ∃ a ∈ items, R a b) :
    List.Forall₂ R items items' := by
  induction items generalizing items' with
  | nil =>
    cases items' with
    | nil => exact .nil
    | cons b rest' =>
      obtain ⟨a, ha, -⟩ := hright b List.mem_cons_self
      cases ha
  | cons a rest ih =>
    cases items' with
    | nil =>
      obtain ⟨b, hb, -⟩ := hleft a List.mem_cons_self
      cases hb
    | cons b rest' =>
      obtain ⟨ha, hrest⟩ := List.pairwise_cons.1 h
      obtain ⟨hb, hrest'⟩ := List.pairwise_cons.1 h'
      have hne : ∀ {c d : α}, cmp c d = .lt → cmp c d ≠ .eq := fun hlt heq => by
        rw [hlt] at heq
        cases heq
      -- The least members have the same key, since each has a counterpart in the other list.
      obtain ⟨d, hd, had⟩ := hleft a List.mem_cons_self
      obtain ⟨c, hc, hcb⟩ := hright b List.mem_cons_self
      have hab : R a b := by
        rcases List.mem_cons.1 hd with rfl | hd
        · exact had
        rcases List.mem_cons.1 hc with rfl | hc
        · exact hcb
        have hlt : cmp a b = .lt := TransCmp.lt_of_lt_of_eq (ha c hc) (hR c b hcb)
        have hgt : cmp b a = .lt :=
          TransCmp.lt_of_lt_of_eq (hb d hd) (OrientedCmp.eq_symm (hR a d had))
        exact absurd hgt (OrientedCmp.not_lt_of_lt hlt)
      -- No later member has their key, so the later members match among themselves.
      refine .cons hab (ih hrest hrest' (fun e he => ?_) fun e he => ?_)
      · obtain ⟨f, hf, hef⟩ := hleft e (List.mem_cons_of_mem _ he)
        rcases List.mem_cons.1 hf with rfl | hf
        · exact absurd (TransCmp.eq_trans (hR a f hab) (OrientedCmp.eq_symm (hR e f hef)))
            (hne (ha e he))
        · exact ⟨f, hf, hef⟩
      · obtain ⟨f, hf, hfe⟩ := hright e (List.mem_cons_of_mem _ he)
        rcases List.mem_cons.1 hf with rfl | hf
        · exact absurd (TransCmp.eq_trans (OrientedCmp.eq_symm (hR f b hab)) (hR f e hfe))
            (hne (hb e he))
        · exact ⟨f, hf, hfe⟩

/-- **A sorted list is known by its members.** -/
theorem Sorted.eq_of_mem_iff {items' : List α} (h : Sorted cmp items) (h' : Sorted cmp items')
    (hmem : ∀ a, a ∈ items ↔ a ∈ items') : items = items' := by
  have hmatch : List.Forall₂ Eq items items' :=
    h.forall₂ h' (fun a b hab => hab ▸ ReflCmp.compare_self)
      (fun a ha => ⟨a, (hmem a).1 ha, rfl⟩) fun b hb => ⟨b, (hmem b).2 hb, rfl⟩
  rwa [List.forall₂_eq_eq_eq] at hmatch

/-! ### Tables -/

section

variable {κ ν : Type} {cmp : κ → κ → Ordering}

/-- Entries of a table by their keys. -/
def byKey (cmp : κ → κ → Ordering) (a b : κ × ν) : Ordering := cmp a.1 b.1

instance [TransCmp cmp] : TransCmp (@byKey κ ν cmp) := Text.transCmp_on Prod.fst cmp

/-- A table whose keys are different is put into a strict order of its keys. -/
theorem sorted_sortBy_byKey [TransCmp cmp] [LawfulEqCmp cmp] {entries : List (κ × ν)}
    (h : (entries.map Prod.fst).Nodup) : Sorted (byKey cmp) (Text.sortBy (byKey cmp) entries) := by
  have hdistinct : entries.Pairwise fun a b => a.1 ≠ b.1 := List.pairwise_map.1 h
  exact sorted_sortBy (hdistinct.imp fun hne heq => hne (LawfulEqCmp.eq_of_compare heq))

/-- An entry changes what is found under its key and nothing else. -/
theorem lookup_insert [LawfulEqCmp cmp] [DecidableEq κ] (key key' : κ) (value : ν)
    (entries : List (κ × ν)) : (insert (byKey cmp) (key, value) entries).lookup key' =
      if key' = key then some value else entries.lookup key' := by
  induction entries with
  | nil =>
    simp only [insert, List.lookup_cons, List.lookup_nil]
    grind
  | cons entry rest ih =>
    obtain ⟨other, value'⟩ := entry
    have hsame : cmp key other = .eq ↔ key = other := LawfulEqCmp.compare_eq_iff_eq
    cases hcmp : cmp key other <;> simp only [insert, byKey, hcmp, List.lookup_cons, ih] <;> grind

end

end Keyed

end ConnectorCatalog
