import ConnectorCatalog.Proofs.Call
import ConnectorCatalog.Proofs.Run

/-!
# Stores that keep packages

In a store a put replaces what is kept under a key and a delete removes it; calls that fail and all
other calls leave it alone (`Services.Stores`).  What is kept in the end then follows from the calls
alone (`Leads.contents_eq`).
-/

namespace ConnectorCatalog

variable {σ : Type}

namespace Call

/-- The key whose package a call has deleted. -/
def removedKey? : Call → Option String
  | .delete key (.ok _) => some key
  | _ => none

/-- The keys whose packages have been deleted, in order. -/
def removedKeys (calls : List Call) : List String := calls.filterMap removedKey?

@[simp] theorem removedKeys_append (calls more : List Call) :
    removedKeys (calls ++ more) = removedKeys calls ++ removedKeys more :=
  List.filterMap_append

/-- A key has been removed if a call to delete its package has succeeded. -/
theorem mem_removedKeys {calls : List Call} {key : String} :
    key ∈ removedKeys calls ↔ .delete key (.ok ()) ∈ calls := by
  constructor
  · intro h
    obtain ⟨call, hcall, hkey⟩ := List.mem_filterMap.1 h
    cases call with
    | delete k result =>
      cases result with
      | ok _ =>
        obtain rfl := Option.some.inj hkey
        exact hcall
      | error causes => cases hkey
    | _ => cases hkey
  · exact fun h => List.mem_filterMap.2 ⟨_, h, rfl⟩

/-- What is kept under each key after a call. -/
def effect (call : Call) (kept : String → Option String) : String → Option String :=
  match call with
  | .put key path (.ok _) => fun k => if k = key then some path else kept k
  | .delete key (.ok _) => fun k => if k = key then none else kept k
  | _ => kept

/-- What is kept under each key after calls. -/
def effects (calls : List Call) (kept : String → Option String) : String → Option String :=
  calls.foldl (fun kept call => call.effect kept) kept

variable {calls more : List Call} {kept : String → Option String} {key : String}

theorem effects_append : effects (calls ++ more) kept = effects more (effects calls kept) :=
  List.foldl_append

theorem effect_of_ne {call : Call} (hstored : call.storedKey? ≠ some key)
    (hremoved : call.removedKey? ≠ some key) : call.effect kept key = kept key := by
  cases call with
  | put k path result =>
    cases result with
    | ok url => exact if_neg fun h => hstored (congrArg some h.symm)
    | error causes => rfl
  | delete k result =>
    cases result with
    | ok _ => exact if_neg fun h => hremoved (congrArg some h.symm)
    | error causes => rfl
  | _ => rfl

theorem effect_of_storedKey? {call : Call} (h : call.storedKey? = some key) :
    (call.effect kept key).isSome = true := by
  cases call with
  | put k path result =>
    cases result with
    | ok url => 
      obtain rfl := Option.some.inj h
      simp [effect]
    | error causes => cases h
  | _ => cases h

theorem effect_of_removedKey? {call : Call} (h : call.removedKey? = some key) :
    call.effect kept key = none := by
  cases call with
  | delete k result =>
    cases result with
    | ok _ => 
      obtain rfl := Option.some.inj h
      exact if_pos rfl
    | error causes => cases h
  | _ => cases h

theorem mem_storedKeys_cons {call : Call} :
    key ∈ storedKeys (call :: calls) ↔ call.storedKey? = some key ∨ key ∈ storedKeys calls := by
  simp [storedKeys]

theorem mem_removedKeys_cons {call : Call} :
    key ∈ removedKeys (call :: calls) ↔ call.removedKey? = some key ∨ key ∈ removedKeys calls := by
  simp [removedKeys]

theorem effects_of_not_mem (hstored : key ∉ storedKeys calls) (hremoved : key ∉ removedKeys calls) :
    effects calls kept key = kept key := by
  induction calls generalizing kept with
  | nil => rfl
  | cons call rest ih =>
    rw [mem_storedKeys_cons, not_or] at hstored
    rw [mem_removedKeys_cons, not_or] at hremoved
    exact (ih hstored.2 hremoved.2).trans (effect_of_ne hstored.1 hremoved.1)

theorem isSome_effects (hstored : key ∈ storedKeys calls) (hremoved : key ∉ removedKeys calls) :
    (effects calls kept key).isSome = true := by
  induction calls generalizing kept with
  | nil => cases hstored
  | cons call rest ih =>
    rw [mem_removedKeys_cons, not_or] at hremoved
    by_cases hlater : key ∈ storedKeys rest
    · exact ih hlater hremoved.2
    · have hcall := (mem_storedKeys_cons.1 hstored).resolve_right hlater
      have hrest : effects rest (call.effect kept) key = call.effect kept key :=
        effects_of_not_mem hlater hremoved.2
      exact (congrArg Option.isSome hrest).trans (effect_of_storedKey? hcall)

theorem effects_eq_none (hstored : key ∉ storedKeys calls) (hremoved : key ∈ removedKeys calls) :
    effects calls kept key = none := by
  induction calls generalizing kept with
  | nil => cases hremoved
  | cons call rest ih =>
    rw [mem_storedKeys_cons, not_or] at hstored
    by_cases hlater : key ∈ removedKeys rest
    · exact ih hstored.2 hlater
    · have hcall := (mem_removedKeys_cons.1 hremoved).resolve_right hlater
      exact (effects_of_not_mem hstored.2 hlater).trans (effect_of_removedKey? hcall)

end Call

namespace Services

variable {services : Services σ} {contents : σ → String → Option String}

/-- The services keep packages as a store does: `contents` says what a world keeps under a key. -/
def Stores (services : Services σ) (contents : σ → String → Option String) : Prop :=
  ∀ before after call, services.Answers before after call →
    contents after = call.effect (contents before)

theorem Leads.contents_eq {before after : σ} {actions : List Action}
    (h : services.Leads before actions after) (hstores : services.Stores contents) :
    contents after = Call.effects (callsOf actions) (contents before) := by
  induction h with
  | nil => rfl
  | opened _ ih => exact ih
  | reported _ ih => exact ih
  | called hcall _ ih => rw [ih, hstores _ _ _ hcall]; rfl

end Services

end ConnectorCatalog
