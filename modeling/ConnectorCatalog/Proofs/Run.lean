import ConnectorCatalog.Proofs.Call
import ConnectorCatalog.Proofs.Except
import ConnectorCatalog.Publish.Resolve

/-!
# What a run does

A run only adds to the log of its journal.  `Run.Yields` states what its value and the added actions
are, from every journal; the statement for a run put together from parts follows from those for
the parts (`Yields.bind`, `Yields.bindTask`).

The added actions also account for the state of the services (`Services.Leads`): every call among
them is answered as it is taken down, one after the other, and nothing else changes that state.
-/

namespace ConnectorCatalog

variable {σ α β : Type}

/-! ### Actions and worlds -/

namespace Services

variable (services : Services σ)

/-- A call that is answered in the world `before` as it is taken down, which leaves `after`. -/
def Answers (before after : σ) : Call → Prop
  | .upload content publicId format result =>
    services.upload content publicId format before = (result, after)
  | .lookup connector result => services.lookup connector before = (result, after)
  | .fetch uri release result => services.fetch uri release before = (result, after)
  | .put key path result => services.put key path before = (result, after)
  | .delete key result => services.delete key before = (result, after)
  | .publish request result => services.publish request before = (result, after)

/-- Actions that lead from one world to another. -/
inductive Leads : σ → List Action → σ → Prop where
  | nil {world : σ} : Leads world [] world
  | opened {before after : σ} {path : String} {rest : List Action} :
    Leads before rest after → Leads before (.opened path :: rest) after
  | reported {before after : σ} {event : ProgressEvent} {rest : List Action} :
    Leads before rest after → Leads before (.reported event :: rest) after
  | called {before next after : σ} {call : Call} {rest : List Action} :
    services.Answers before next call → Leads next rest after →
      Leads before (.called call :: rest) after

variable {services}

theorem Leads.append {before next after : σ} {actions more : List Action}
    (h : services.Leads before actions next) (hmore : services.Leads next more after) :
    services.Leads before (actions ++ more) after := by
  induction h with
  | nil => exact hmore
  | opened _ ih => exact .opened (ih hmore)
  | reported _ ih => exact .reported (ih hmore)
  | called hcall _ ih => exact .called hcall (ih hmore)

/-- A call that has been made was answered in some world. -/
theorem Leads.exists_answers {before after : σ} {actions : List Action}
    (h : services.Leads before actions after) {call : Call} (hcall : call ∈ callsOf actions) :
    ∃ world next, services.Answers world next call := by
  induction h with
  | nil => cases hcall
  | opened _ ih => exact ih hcall
  | reported _ ih => exact ih hcall
  | called hanswer _ ih =>
    rcases List.mem_cons.1 hcall with rfl | hcall
    · exact ⟨_, _, hanswer⟩
    · exact ih hcall

end Services

/-! ### Values and actions of a run -/

namespace Run

variable {services : Services σ} {P P' : α → List Action → Prop} {Q : β → List Action → Prop}

/-- From every journal a run adds actions to the log, which account for the state of the services,
and `P` holds of its value and of these actions. -/
def Yields (services : Services σ) (P : α → List Action → Prop) (run : Run σ α) : Prop :=
  ∀ journal, ∃ actions, (run journal).2.log = journal.log ++ actions ∧
    services.Leads journal.world actions (run journal).2.world ∧ P (run journal).1 actions

namespace Yields

theorem mono {run : Run σ α} (h : Yields services P run)
    (hP : ∀ a actions, P a actions → P' a actions) : Yields services P' run := by
  intro journal
  obtain ⟨actions, hlog, hleads, hp⟩ := h journal
  exact ⟨actions, hlog, hleads, hP _ _ hp⟩

theorem pure {a : α} (h : P a []) : Yields services P (Pure.pure a) :=
  fun _ => ⟨[], (List.append_nil _).symm, .nil, h⟩

/-- The actions of the first part come in front of those of the second. -/
theorem bind {run : Run σ α} {next : α → Run σ β} (h : Yields services P run)
    (hnext : ∀ a actions, P a actions →
      Yields services (fun b more => Q b (actions ++ more)) (next a)) :
    Yields services Q (run >>= next) := by
  intro journal
  obtain ⟨actions, hlog, hleads, hp⟩ := h journal
  obtain ⟨more, hlog', hleads', hq⟩ := hnext _ _ hp (run journal).2
  refine ⟨actions ++ more, ?_, hleads.append hleads', hq⟩
  rw [← List.append_assoc, ← hlog]
  exact hlog'

theorem report (event : ProgressEvent) :
    Yields services (fun _ actions => actions = [.reported event]) (Run.report event) :=
  fun _ => ⟨[.reported event], rfl, .reported .nil, rfl⟩

theorem reports (events : List ProgressEvent) :
    Yields services (fun _ actions => actions = events.map .reported)
      (events.forM Run.report) := by
  induction events with
  | nil => exact pure rfl
  | cons event rest ih =>
    refine (report event).bind ?_
    rintro - _ rfl
    exact ih.mono fun _ _ h => by rw [h]; rfl

theorem opened (path : String) :
    Yields services (fun _ actions => actions = [.opened path]) (Run.note (.opened path)) :=
  fun _ => ⟨[.opened path], rfl, .opened .nil, rfl⟩

theorem call {service : σ → Except Causes α × σ} {describe : Except Causes α → Call}
    (h : ∀ world, services.Answers world (service world).2 (describe (service world).1)) :
    Yields services (fun result actions => actions = [.called (describe result)])
      (Run.call service describe) :=
  fun journal => ⟨[.called (describe (service journal.world).1)], rfl,
    .called (h journal.world) .nil, rfl⟩

/-! ### Calls -/

theorem upload (content : Bytes) (publicId : String) (format : LogoFormat) :
    Yields services (fun result actions =>
        actions = [.called (.upload content publicId format result)])
      (services.runUpload content publicId format) :=
  call fun _ => rfl

theorem lookup (connector : Identity) :
    Yields services (fun result actions => actions = [.called (.lookup connector result)])
      (services.runLookup connector) :=
  call fun _ => rfl

theorem fetch (uri : String) (release : ReleaseId) :
    Yields services (fun result actions => actions = [.called (.fetch uri release result)])
      (services.runFetch uri release) :=
  call fun _ => rfl

theorem put (key path : String) :
    Yields services (fun result actions => actions = [.called (.put key path result)])
      (services.runPut key path) :=
  call fun _ => rfl

theorem delete (key : String) :
    Yields services (fun result actions => actions = [.called (.delete key result)])
      (services.runDelete key) :=
  call fun _ => rfl

theorem publish (request : PublishRequest) :
    Yields services (fun result actions => actions = [.called (.publish request result)])
      (services.runPublish request) :=
  call fun _ => rfl

/-! ### Parts that may end with a fault -/

variable {T : Except PublishFault α → List Action → Prop}
  {U : Except PublishFault β → List Action → Prop}

theorem returnTask {a : α} (h : T (.ok a) []) : Yields services T (Pure.pure a : Task σ α).run :=
  pure h

theorem throwTask {fault : PublishFault} (h : T (.error fault) []) :
    Yields services T (throw fault : Task σ α).run :=
  pure h

/-- A fault of the first part ends the whole. -/
theorem bindTask {task : Task σ α} {next : α → Task σ β} (h : Yields services T task.run)
    (hok : ∀ a actions, T (.ok a) actions →
      Yields services (fun b more => U b (actions ++ more)) (next a).run)
    (herror : ∀ fault actions, T (.error fault) actions → U (.error fault) actions) :
    Yields services U (task >>= next).run := by
  change Yields services U (task.run >>= ExceptT.bindCont next)
  refine bind h fun result actions hT => ?_
  cases result with
  | ok a => exact hok a actions hT
  | error fault => exact pure (by simpa using herror fault actions hT)

theorem mapTask {task : Task σ α} {f : α → β} (h : Yields services T task.run)
    (hT : ∀ result actions, T result actions → U (result.map f) actions) :
    Yields services U (do return f (← task) : Task σ β).run :=
  h.bindTask
    (fun a actions ha => returnTask ((List.append_nil actions).symm ▸ hT (.ok a) actions ha))
    fun fault actions hf => hT (.error fault) actions hf

theorem liftTask {result : Except PublishFault α} (h : T result []) :
    Yields services T (liftM result : Task σ α).run :=
  pure h

theorem bindLift {result : Except PublishFault α} {next : α → Task σ β}
    (hok : ∀ a, result = .ok a → Yields services U (next a).run)
    (herror : ∀ fault, result = .error fault → U (.error fault) []) :
    Yields services U ((liftM result : Task σ α) >>= next).run := by
  cases result with
  | ok a => exact hok a rfl
  | error fault => exact throwTask (herror fault rfl)

theorem perform {run : Run σ α} (h : Yields services P run) :
    Yields services (fun result actions => ∃ a, result = .ok a ∧ P a actions)
      (Task.perform run).run :=
  bind h fun a _ hp => pure ⟨a, rfl, by simpa using hp⟩

theorem bindPerform {run : Run σ α} {next : α → Task σ β} (h : Yields services P run)
    (hnext : ∀ a actions, P a actions →
      Yields services (fun b more => U b (actions ++ more)) (next a).run) :
    Yields services U (Task.perform run >>= next).run := by
  refine h.perform.bindTask ?_ ?_
  · rintro a actions ⟨_, ⟨⟩, hp⟩
    exact hnext a actions hp
  · rintro fault actions ⟨_, h, -⟩
    cases h

theorem require {call : Run σ (Except Causes α)} {fault : Causes → PublishFault}
    {C : Except Causes α → List Action → Prop} (h : Yields services C call) :
    Yields services (fun result actions => ∃ answer, C answer actions ∧
      result = answer.mapError fault) (Task.require call fault).run := by
  refine h.bindPerform fun answer actions hC => ?_
  cases answer with
  | ok a => exact returnTask ⟨_, by simpa using hC, rfl⟩
  | error causes => exact throwTask ⟨_, by simpa using hC, rfl⟩

theorem bindRequire {call : Run σ (Except Causes α)} {fault : Causes → PublishFault}
    {described : Except Causes α → List Action} {next : α → Task σ β}
    (h : Yields services (fun answer actions => actions = described answer) call)
    (hok : ∀ a, Yields services (fun b more => U b (described (.ok a) ++ more)) (next a).run)
    (herror : ∀ causes, U (.error (fault causes)) (described (.error causes))) :
    Yields services U (Task.require call fault >>= next).run := by
  refine h.require.bindTask ?_ ?_
  · rintro a actions ⟨answer, rfl, hanswer⟩
    obtain rfl := Except.mapError_eq_ok.1 hanswer.symm
    exact hok a
  · rintro _ actions ⟨answer, rfl, hanswer⟩
    obtain ⟨causes, rfl, rfl⟩ := Except.mapError_eq_error.1 hanswer.symm
    exact herror causes

theorem bindKnown {ε : Type} {task : Task σ α} {next : α → Task σ β} {known : Except ε α}
    {fault : ε → PublishFault} {made : List Action}
    (h : Yields services
      (fun result actions => actions = made ∧ result = known.mapError fault) task.run)
    (hok : ∀ a, known = .ok a → Yields services (fun b more => U b (made ++ more)) (next a).run)
    (herror : ∀ e, known = .error e → U (.error (fault e)) made) :
    Yields services U (task >>= next).run := by
  refine h.bindTask ?_ ?_
  · rintro a actions ⟨rfl, hknown⟩
    exact hok a (Except.mapError_eq_ok.1 hknown.symm)
  · rintro _ actions ⟨rfl, hknown⟩
    obtain ⟨e, he, rfl⟩ := Except.mapError_eq_error.1 hknown.symm
    exact herror e he

end Yields

end Run

end ConnectorCatalog
