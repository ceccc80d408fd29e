import Mathlib.Data.List.Forall2
import ConnectorCatalog.Json.Record
import ConnectorCatalog.Proofs.Except

/-!
# Reading records from JSON values

What a value says as a record (`Json.HasMembers`) is what is read from it (`Json.members?_eq_some`):
a value under each declared key of an object, of which there must not be a second, or the items of a
list in their order.  The readers of single members go along with it.

An object `Holds` some members if these are all it has, in whatever order.  Where their keys differ,
a record is read from it by its members (`Json.Holds.members?_eq`).
-/

namespace ConnectorCatalog.Json

variable {α β : Type} {members : List (String × Json)} {items : List Json} {names : List String}
  {needed : Nat} {values : List (Option Json)}

theorem exists_forall₂_iff {R : α → β → Prop} {as : List α} :
    (∃ bs, List.Forall₂ R as bs) ↔ ∀ a ∈ as, ∃ b, R a b := by
  induction as with
  | nil => simp
  | cons a rest ih =>
    rw [List.forall_mem_cons, ← ih]
    constructor
    · rintro ⟨_, hall⟩
      cases hall with
      | cons hab hrest => exact ⟨⟨_, hab⟩, _, hrest⟩
    · rintro ⟨⟨b, hab⟩, bs, hrest⟩
      exact ⟨b :: bs, .cons hab hrest⟩

/-! ### Members of a record -/

/-- The values under a key of an object. -/
def under (members : List (String × Json)) (key : String) : List Json :=
  (members.filter (·.1 == key)).map (·.2)

theorem memberOnce?_eq_some {key : String} {value : Option Json} :
    memberOnce? members key = some value ↔ under members key = value.toList := by
  unfold memberOnce? under
  generalize members.filter (·.1 == key) = found
  cases value <;> rcases found with - | ⟨first, - | ⟨second, rest⟩⟩ <;> simp

theorem padItems_eq {n : Nat} (h : items.length ≤ n) :
    padItems n items = items.map some ++ List.replicate (n - items.length) none := by
  induction n generalizing items with
  | zero =>
    obtain rfl := List.length_eq_zero_iff.1 (Nat.le_zero.1 h)
    rfl
  | succ n ih =>
    cases items with
    | nil => exact congrArg _ (@ih [] (Nat.zero_le n))
    | cons item rest =>
      rw [padItems, ih (Nat.le_of_succ_le_succ h)]
      simp

/-- The values that a document has for the members `names` of a record: those under these keys, at
most one under each, or the items of a list in this order, with at least the first `needed`. -/
def HasMembers (names : List String) (needed : Nat) : Json → List (Option Json) → Prop
  | obj members, values =>
    List.Forall₂ (fun name value => under members name = value.toList) names values
  | arr items, values => needed ≤ items.length ∧ items.length ≤ names.length ∧
    values = items.map some ++ List.replicate (names.length - items.length) none
  | _, _ => False

/-- **A record is read as what it says.** -/
theorem members?_eq_some {document : Json} :
    document.members? names needed = some values ↔ document.HasMembers names needed values := by
  cases document with
  | obj members => simp only [members?, HasMembers, Option.mapM_eq_some, memberOnce?_eq_some]
  | arr items =>
    rw [members?, Option.ite_none_right_eq_some, HasMembers, and_assoc]
    refine and_congr_right fun _ => and_congr_right fun hlength => ?_
    rw [padItems_eq hlength, Option.some_inj, eq_comm]
  | _ => simp [members?, HasMembers]

/-- What is made of a record with one member, and of nothing else. -/
theorem bind_member_eq_some {document : Json} {name : String} {next : Option Json → Option β}
    {b : β} :
    (do let [value] ← document.members? [name] needed | none
        next value) = some b ↔
      ∃ value, document.HasMembers [name] needed [value] ∧ next value = some b := by
  simp only [← members?_eq_some]
  cases document.members? [name] needed with
  | none => simp
  | some values => rcases values with - | ⟨value, - | ⟨second, rest⟩⟩ <;> simp

/-- What is made of a record with two members, and of nothing else. -/
theorem bind_members_eq_some {document : Json} {name other : String}
    {next : Option Json → Option Json → Option β} {b : β} :
    (do let [value, more] ← document.members? [name, other] needed | none
        next value more) = some b ↔
      ∃ value more, document.HasMembers [name, other] needed [value, more] ∧
        next value more = some b := by
  simp only [← members?_eq_some]
  cases document.members? [name, other] needed with
  | none => simp
  | some values =>
    rcases values with - | ⟨value, - | ⟨more, - | ⟨third, rest⟩⟩⟩ <;> simp

/-! ### Objects in any order -/

section

variable {object : Json} {fields : List (String × Option Json)} {key : String} {value : Option Json}

/-- The fields that have a value, as members of an object. -/
def present (fields : List (String × Option Json)) : List (String × Json) :=
  fields.filterMap fun field => field.2.map fun value => (field.1, value)

/-- An object whose members are the fields that have a value, in any order. -/
def Holds (object : Json) (fields : List (String × Option Json)) : Prop :=
  ∃ members, object = obj members ∧ members.Perm (present fields)

theorem under_cons {given : String} {document : Json} :
    under ((given, document) :: members) key =
      if given = key then document :: under members key else under members key := by
  unfold under
  rw [List.filter_cons]
  by_cases h : given = key <;> simp [h]

theorem under_present_cons {given : String} {kept : Option Json} :
    under (present ((given, kept) :: fields)) key =
      (if given = key then kept.toList else []) ++ under (present fields) key := by
  cases kept with
  | none => simp [present]
  | some document =>
    have hpresent : present ((given, some document) :: fields) =
        (given, document) :: present fields := rfl
    rw [hpresent, under_cons]
    split <;> rfl

theorem under_present_of_not_mem (h : key ∉ fields.map (·.1)) :
    under (present fields) key = [] := by
  induction fields with
  | nil => rfl
  | cons field rest ih =>
    obtain ⟨hne, hrest⟩ := List.ne_and_not_mem_of_not_mem_cons h
    rw [under_present_cons, if_neg hne.symm, ih hrest]
    rfl

theorem under_present (hnodup : (fields.map (·.1)).Nodup) (h : (key, value) ∈ fields) :
    under (present fields) key = value.toList := by
  induction fields with
  | nil => cases h
  | cons field rest ih =>
    obtain ⟨hnot, hrest⟩ := List.nodup_cons.1 hnodup
    rcases List.mem_cons.1 h with rfl | hmem
    · rw [under_present_cons, if_pos rfl, under_present_of_not_mem hnot, List.append_nil]
    · have hne : field.1 ≠ key := fun heq => hnot (List.mem_map.2 ⟨_, hmem, heq.symm⟩)
      rw [under_present_cons, if_neg hne, ih hrest hmem]
      rfl

theorem under_eq_of_perm {members' : List (String × Json)} (h : members.Perm members')
    (hunder : under members' key = value.toList) : under members key = value.toList := by
  have hperm : (under members key).Perm value.toList := hunder ▸ (h.filter _).map _
  cases value with
  | none => exact hperm.eq_nil
  | some document => exact List.perm_singleton.1 hperm

theorem member?_obj : (obj members).member? key = (under members key).head? := by
  induction members with
  | nil => rfl
  | cons member rest ih =>
    obtain ⟨given, document⟩ := member
    rw [under_cons, member?, List.lookup_cons]
    by_cases h : given = key
    · simp [h]
    · rw [if_neg h, ← ih]
      simp [beq_eq_false_iff_ne.2 (Ne.symm h), member?]

/-- **An object is read by its members**, if no two have one key. -/
theorem Holds.members?_eq (h : object.Holds fields) (hnames : fields.map (·.1) = names)
    (hnodup : names.Nodup) : object.members? names needed = some (fields.map (·.2)) := by
  obtain ⟨members, rfl, hperm⟩ := h
  subst hnames
  rw [members?_eq_some, HasMembers, List.forall₂_map_left_iff, List.forall₂_map_right_iff,
    List.forall₂_same]
  exact fun field hfield => under_eq_of_perm hperm (under_present hnodup hfield)

theorem Holds.member?_eq (h : object.Holds fields) (hnames : fields.map (·.1) = names)
    (hnodup : names.Nodup) (hfield : (key, value) ∈ fields) : object.member? key = value := by
  obtain ⟨members, rfl, hperm⟩ := h
  subst hnames
  rw [member?_obj, under_eq_of_perm hperm (under_present hnodup hfield)]
  cases value <;> rfl

theorem Holds.member?_eq_none (h : object.Holds fields) (hkey : key ∉ fields.map (·.1)) :
    object.member? key = none := by
  obtain ⟨members, rfl, hperm⟩ := h
  have hunder : under members key = (none : Option Json).toList :=
    under_eq_of_perm hperm (under_present_of_not_mem hkey)
  rw [member?_obj, hunder]
  rfl

theorem holds_singleton {document : Json} :
    object.Holds [(key, some document)] ↔ object = obj [(key, document)] := by
  constructor
  · rintro ⟨members, rfl, hperm⟩
    rw [List.perm_singleton.1 hperm]
  · rintro rfl
    exact ⟨_, rfl, .refl _⟩

end

/-! ### Values of members -/

variable {read : Json → Option α} {value : Option Json}

theorem items?_eq_some {document : Json} {as : List α} : document.items? read = some as ↔
    ∃ items, document = arr items ∧ List.Forall₂ (fun item a => read item = some a) items as := by
  cases document with
  | arr items => simp [items?, Option.mapM_eq_some]
  | _ => simp [items?]

theorem required_eq_some {a : α} :
    required read value = some a ↔ ∃ given, value = some given ∧ read given = some a := by
  cases value <;> simp [required]

theorem optional_eq_none :
    optional read value = some none ↔ value = none ∨ value = some null := by
  unfold optional
  split <;> simp_all

theorem optional_eq_some {a : α} : optional read value = some (some a) ↔
    ∃ given, value = some given ∧ given ≠ null ∧ read given = some a := by
  unfold optional
  split <;> simp_all

theorem any?_eq_some {around : Nat} {given kept : Json} :
    any? around given = some kept ↔ given.canKeep (maxDepth - around) = true ∧ given = kept := by
  rw [any?, Option.ite_none_right_eq_some, Option.some_inj]

/-- A member may be picked first and read afterwards. -/
theorem optional_eq_of_some {kept : Option Json} (h : optional some value = some kept) :
    optional read value = kept.elim (some none) fun given => (read given).map some := by
  unfold optional at h ⊢
  split at h <;> cases h <;> rfl

theorem exists_optional_some (value : Option Json) :
    ∃ kept, optional some value = some kept := by
  unfold optional
  split <;> exact ⟨_, rfl⟩

/-- A value of any form is kept within bounds, and kept as nothing if it is missing or `null`. -/
theorem isSome_optional_any? {around : Nat} {isGiven : Bool} :
    (optional (any? around) value).map Option.isSome = some isGiven ↔
      (∀ given, value = some given → given.canKeep (maxDepth - around) = true) ∧
      (isGiven = true ↔ ∃ given, value = some given ∧ given ≠ null) := by
  cases value with
  | none => simp [optional]
  | some given =>
    by_cases hnull : given = null
    · subst hnull
      simp [optional, canKeep]
    · rw [optional, any?]
      · by_cases hkeep : given.canKeep (maxDepth - around) = true
        · simp [hkeep, hnull]
        · simp [hkeep]
      · exact hnull

end ConnectorCatalog.Json
