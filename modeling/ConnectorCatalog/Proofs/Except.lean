import Mathlib.Data.List.Forall2

/-!
# Steps that may fail, one after the other

A chain of steps comes to a value exactly if each of them does.  So does a step for each member of a
list, and what is found on the way is found for its members one by one (`mem_collect`).
-/

namespace ConnectorCatalog

namespace Except

variable {ε ε' α β : Type}

@[simp] theorem ok_bind (a : α) (next : α → Except ε β) : (.ok a >>= next) = next a := rfl

@[simp] theorem error_bind (e : ε) (next : α → Except ε β) :
    ((.error e : Except ε α) >>= next) = .error e := rfl

theorem bind_eq_ok {step : Except ε α} {next : α → Except ε β} {b : β} :
    step >>= next = .ok b ↔ ∃ a, step = .ok a ∧ next a = .ok b := by
  cases step <;> simp

theorem return_eq_ok {a b : α} : (return a : Except ε α) = .ok b ↔ a = b :=
  ⟨Except.ok.inj, congrArg Except.ok⟩

theorem map_eq_ok {step : Except ε α} {f : α → β} {b : β} :
    step.map f = .ok b ↔ ∃ a, step = .ok a ∧ f a = b := by
  cases step <;> simp [Except.map]

theorem toOption_eq_some {step : Except ε α} {a : α} : step.toOption = some a ↔ step = .ok a := by
  cases step <;> simp [Except.toOption]

theorem mapError_eq_ok {step : Except ε α} {f : ε → ε'} {a : α} :
    step.mapError f = .ok a ↔ step = .ok a := by
  cases step with
  | ok b =>
    constructor
    · intro h
      cases h
      rfl
    · intro h
      cases h
      rfl
  | error e =>
    constructor
    · intro h
      cases h
    · intro h
      cases h

theorem mapError_eq_error {step : Except ε α} {f : ε → ε'} {e' : ε'} :
    step.mapError f = .error e' ↔ ∃ e, step = .error e ∧ f e = e' := by
  cases step with
  | ok b =>
    constructor
    · intro h
      cases h
    · rintro ⟨e, he, -⟩
      cases he
  | error e =>
    constructor
    · intro h
      exact ⟨e, rfl, Except.error.inj h⟩
    · rintro ⟨e, he, rfl⟩
      cases he
      rfl

end Except

/-! ### One step for each member of a list -/

section

variable {ε α β γ : Type} {find? other? : α → Except ε (Option β)} {items : List α} {found : List β}

/-- What is found for members of a list, one after the other up to the first fault. -/
def collect (find? : α → Except ε (Option β)) : List α → Except ε (List β)
  | [] => .ok []
  | a :: rest => do
    let first ← find? a
    return first.toList ++ (← collect find? rest)

theorem collect_cons_eq_ok {a : α} {rest : List α} :
    collect find? (a :: rest) = .ok found ↔ ∃ first more, find? a = .ok first ∧
      collect find? rest = .ok more ∧ found = first.toList ++ more := by
  simp only [collect, Except.bind_eq_ok, Except.return_eq_ok, eq_comm (b := found)]
  exact ⟨fun ⟨c, hc, m, hm, h⟩ => ⟨c, m, hc, hm, h⟩, fun ⟨c, m, hc, hm, h⟩ => ⟨c, hc, m, hm, h⟩⟩

theorem mem_collect (h : collect find? items = .ok found) {b : β} :
    b ∈ found ↔ ∃ a ∈ items, find? a = .ok (some b) := by
  induction items generalizing found with
  | nil =>
    cases h
    simp
  | cons a rest ih =>
    obtain ⟨first, more, hfirst, hmore, rfl⟩ := collect_cons_eq_ok.1 h
    simp only [List.mem_append, ih hmore, Option.mem_toList, List.mem_cons, exists_eq_or_imp, hfirst,
      Except.ok.injEq]

theorem exists_of_mem_collect (h : collect find? items = .ok found) {a : α} (ha : a ∈ items) :
    ∃ b?, find? a = .ok b? := by
  induction items generalizing found with
  | nil => cases ha
  | cons first rest ih =>
    obtain ⟨b?, more, hfirst, hmore, -⟩ := collect_cons_eq_ok.1 h
    rcases List.mem_cons.1 ha with rfl | ha
    · exact ⟨b?, hfirst⟩
    · exact ih hmore ha

/-- What is told by the members for which it is found comes in the order of these. -/
theorem sublist_of_collect {key : β → γ} {of : α → γ}
    (hkey : ∀ a b, find? a = .ok (some b) → key b = of a)
    (h : collect find? items = .ok found) : (found.map key).Sublist (items.map of) := by
  induction items generalizing found with
  | nil =>
    cases h
    exact .slnil
  | cons a rest ih =>
    obtain ⟨first, more, hfirst, hmore, rfl⟩ := collect_cons_eq_ok.1 h
    cases first with
    | none => exact (ih hmore).cons _
    | some b =>
      rw [Option.toList_some, List.singleton_append, List.map_cons, List.map_cons, hkey a b hfirst]
      exact (ih hmore).cons_cons _

/-- A step that never fails leaves out what it finds nothing for. -/
theorem collect_eq_filterMap {step : α → Option β} (h : ∀ a, find? a = .ok (step a))
    (items : List α) : collect find? items = .ok (items.filterMap step) := by
  induction items with
  | nil => rfl
  | cons a rest ih =>
    rw [collect, ih, h, List.filterMap_cons]
    cases step a <;> rfl

/-- A step that fails where another one finds nothing finds the same as that, if there is something
to be found for each member. -/
theorem collect_eq_ok_iff_of_some
    (h : ∀ a b?, find? a = .ok b? ↔ ∃ b, b? = some b ∧ other? a = .ok (some b)) :
    collect find? items = .ok found ↔
      collect other? items = .ok found ∧ ∀ a ∈ items, ∃ b, other? a = .ok (some b) := by
  induction items generalizing found with
  | nil => simp [collect]
  | cons a rest ih =>
    simp only [collect_cons_eq_ok, h, ih, List.forall_mem_cons]
    constructor
    · rintro ⟨_, more, ⟨b, rfl, hb⟩, ⟨hmore, hrest⟩, rfl⟩
      exact ⟨⟨some b, more, hb, hmore, rfl⟩, ⟨b, hb⟩, hrest⟩
    · rintro ⟨⟨b?, more, hb?, hmore, rfl⟩, ⟨b, hb⟩, hrest⟩
      obtain rfl : b? = some b := Except.ok.inj (hb?.symm.trans hb)
      exact ⟨some b, more, ⟨b, rfl, hb⟩, ⟨hmore, hrest⟩, rfl⟩

end

namespace Option

variable {α β : Type}

theorem mapM_eq_some {read : α → Option β} {as : List α} {bs : List β} :
    as.mapM read = some bs ↔ List.Forall₂ (fun a b => read a = some b) as bs := by
  induction as generalizing bs with
  | nil => simp [eq_comm]
  | cons a rest ih =>
    rw [List.mapM_cons, List.forall₂_cons_left_iff, Option.bind_eq_bind, Option.bind_eq_some_iff]
    refine exists_congr fun b => ?_
    rw [Option.bind_eq_bind, Option.bind_eq_some_iff]
    simp only [ih, Option.pure_def, Option.some_inj, exists_and_left, eq_comm (b := bs)]

end Option

end ConnectorCatalog
