import ConnectorCatalog.Services

/-!
# The calls among actions

Of what a run has done, the calls of services, and of these the keys of the packages that were
stored and of those that were to be deleted.
-/

namespace ConnectorCatalog

variable {σ : Type}

/-- The call that an action is. -/
def Action.call? : Action → Option Call
  | .called call => some call
  | _ => none

/-- The calls among actions. -/
def callsOf (actions : List Action) : List Call := actions.filterMap Action.call?

/-- The calls of the services that have been made. -/
def Journal.calls (journal : Journal σ) : List Call := callsOf journal.log

@[simp] theorem callsOf_nil : callsOf [] = [] := rfl

@[simp] theorem callsOf_opened (path : String) (rest : List Action) :
    callsOf (.opened path :: rest) = callsOf rest := rfl

@[simp] theorem callsOf_reported (event : ProgressEvent) (rest : List Action) :
    callsOf (.reported event :: rest) = callsOf rest := rfl

@[simp] theorem callsOf_called (call : Call) (rest : List Action) :
    callsOf (.called call :: rest) = call :: callsOf rest := rfl

@[simp] theorem callsOf_append (actions more : List Action) :
    callsOf (actions ++ more) = callsOf actions ++ callsOf more :=
  List.filterMap_append

@[simp] theorem callsOf_map_reported (events : List ProgressEvent) :
    callsOf (events.map .reported) = [] := by
  induction events with
  | nil => rfl
  | cons event rest ih => exact ih

namespace Call

/-- The key under which a call has stored a package. -/
def storedKey? : Call → Option String
  | .put key _ (.ok _) => some key
  | _ => none

/-- The key whose package a call asks to delete. -/
def deletedKey? : Call → Option String
  | .delete key _ => some key
  | _ => none

/-- Whether a call asks to delete a package. -/
def isDelete : Call → Bool
  | .delete _ _ => true
  | _ => false

/-- Whether a call asks for a release. -/
def isFetch : Call → Bool
  | .fetch _ _ _ => true
  | _ => false

/-- Whether a call hands rows over. -/
def isPublish : Call → Bool
  | .publish _ _ => true
  | _ => false

/-- Whether a call hands rows over that are accepted. -/
def isAccepted : Call → Bool
  | .publish _ (.ok _) => true
  | _ => false

/-- Whether a call is one of those that rows are built with. -/
def isBuilding : Call → Bool
  | .upload _ _ _ _ | .lookup _ _ | .fetch _ _ _ | .put _ _ _ => true
  | .delete _ _ | .publish _ _ => false

/-- The keys under which packages have been stored, in order. -/
def storedKeys (calls : List Call) : List String := calls.filterMap storedKey?

/-- The keys whose packages were to be deleted, in order. -/
def deletedKeys (calls : List Call) : List String := calls.filterMap deletedKey?

@[simp] theorem storedKeys_append (calls more : List Call) :
    storedKeys (calls ++ more) = storedKeys calls ++ storedKeys more :=
  List.filterMap_append

@[simp] theorem deletedKeys_append (calls more : List Call) :
    deletedKeys (calls ++ more) = deletedKeys calls ++ deletedKeys more :=
  List.filterMap_append

/-! ### Kinds of calls -/

variable {call : Call} {calls : List Call}

theorem isAccepted_iff : call.isAccepted = true ↔ ∃ request, call = .publish request (.ok ()) := by
  constructor
  · intro h
    cases call with
    | publish request answer =>
      cases answer with
      | ok _ => exact ⟨request, rfl⟩
      | error causes => cases h
    | _ => cases h
  · rintro ⟨request, rfl⟩
    rfl

theorem isPublish_of_isBuilding (h : call.isBuilding = true) : call.isPublish = false := by
  cases call <;> first | rfl | cases h

theorem isDelete_of_isBuilding (h : call.isBuilding = true) : call.isDelete = false := by
  cases call <;> first | rfl | cases h

theorem isPublish_of_isDelete (h : call.isDelete = true) : call.isPublish = false := by
  cases call <;> first | rfl | cases h

theorem filter_isPublish_of_isBuilding (h : ∀ call ∈ calls, call.isBuilding = true) :
    calls.filter isPublish = [] :=
  List.filter_eq_nil_iff.2 fun call hcall =>
    Bool.eq_false_iff.1 (isPublish_of_isBuilding (h call hcall))

theorem filter_isPublish_of_isDelete (h : ∀ call ∈ calls, call.isDelete = true) :
    calls.filter isPublish = [] :=
  List.filter_eq_nil_iff.2 fun call hcall =>
    Bool.eq_false_iff.1 (isPublish_of_isDelete (h call hcall))

theorem deletedKeys_of_isBuilding (h : ∀ call ∈ calls, call.isBuilding = true) :
    deletedKeys calls = [] := by
  refine List.filterMap_eq_nil_iff.2 fun call hcall => ?_
  have hcall := h call hcall
  cases call <;> first | rfl | cases hcall

theorem storedKeys_of_isDelete (h : ∀ call ∈ calls, call.isDelete = true) :
    storedKeys calls = [] := by
  refine List.filterMap_eq_nil_iff.2 fun call hcall => ?_
  have hcall := h call hcall
  cases call <;> first | rfl | cases hcall

end Call

end ConnectorCatalog
