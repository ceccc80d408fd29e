import ConnectorCatalog.Publish.Resolve

/-!
# Runs that do not depend on what was done before

With services whose answers depend on the arguments alone (`Services.Stateless`), what a part of a
run comes to and what it does are the same from every journal (`Run.Steady`), whatever was done
before.
-/

namespace ConnectorCatalog

variable {σ α β : Type}

/-- The answers of the services do not depend on their state. -/
structure Services.Stateless (services : Services σ) : Prop where
  upload : ∀ content publicId format world world',
    (services.upload content publicId format world).1 =
      (services.upload content publicId format world').1
  lookup : ∀ connector world world',
    (services.lookup connector world).1 = (services.lookup connector world').1
  fetch : ∀ uri release world world',
    (services.fetch uri release world).1 = (services.fetch uri release world').1
  put : ∀ key path world world', (services.put key path world).1 = (services.put key path world').1
  delete : ∀ key world world', (services.delete key world).1 = (services.delete key world').1
  publish : ∀ request world world',
    (services.publish request world).1 = (services.publish request world').1

namespace Run

/-- From every journal a run comes to a value and adds actions to the log. -/
def Does (run : Run σ α) (a : α) (actions : List Action) : Prop :=
  ∀ journal, (run journal).1 = a ∧ (run journal).2.log = journal.log ++ actions

/-- A run comes to the same and does the same from every journal. -/
def Steady (run : Run σ α) : Prop := ∃ a actions, Does run a actions

theorem Does.pure (a : α) : Does (Pure.pure a : Run σ α) a [] :=
  fun _ => ⟨rfl, (List.append_nil _).symm⟩

theorem Does.bind {run : Run σ α} {next : α → Run σ β} {a : α} {b : β} {actions more : List Action}
    (h : Does run a actions) (hnext : Does (next a) b more) :
    Does (run >>= next) b (actions ++ more) := by
  intro journal
  obtain ⟨hvalue, hlog⟩ := h journal
  obtain ⟨hvalue', hlog'⟩ := hnext (run journal).2
  rw [← List.append_assoc, ← hlog, ← hvalue', ← hlog', ← hvalue]
  exact ⟨rfl, rfl⟩

theorem Does.map {run : Run σ α} {a : α} {actions : List Action} (h : Does run a actions)
    (f : α → β) : Does (do return f (← run)) (f a) actions := by
  rw [← List.append_nil actions]
  exact h.bind (pure (f a))

theorem Does.mapTask {task : Task σ α} {result : Except PublishFault α} {actions : List Action}
    (h : Does task.run result actions) (f : α → β) :
    Does (do return f (← task) : Task σ β).run (result.map f) actions := by
  rw [← List.append_nil actions]
  change Does (task.run >>= ExceptT.bindCont _) _ _
  refine h.bind ?_
  cases result with
  | ok a => exact .pure _
  | error fault => exact .pure _

theorem Does.bindTask {task : Task σ α} {next : α → Task σ β} {a : α}
    {result : Except PublishFault β} {actions more : List Action}
    (h : Does task.run (.ok a) actions) (hnext : Does (next a).run result more) :
    Does (task >>= next).run result (actions ++ more) := by
  change Does (task.run >>= ExceptT.bindCont next) _ _
  exact h.bind hnext

theorem Does.note (action : Action) : Does (Run.note action : Run σ Unit) () [action] :=
  fun _ => ⟨rfl, rfl⟩

theorem Does.reports (events : List ProgressEvent) :
    Does (events.forM Run.report : Run σ PUnit) ⟨⟩ (events.map .reported) := by
  induction events with
  | nil => exact .pure _
  | cons event rest ih => exact (note _).bind ih

/-- What a run comes to and does from one journal is what it does from all. -/
theorem Does.eq {run : Run σ α} {a : α} {actions actions' : List Action} (h : Does run a actions)
    {journal : Journal σ} (hlog : (run journal).2.log = journal.log ++ actions') :
    (run journal).1 = a ∧ actions = actions' :=
  ⟨(h journal).1, List.append_cancel_left ((h journal).2.symm.trans hlog)⟩

theorem Does.unique [Nonempty σ] {run : Run σ α} {a a' : α} {actions actions' : List Action}
    (h : Does run a actions) (h' : Does run a' actions') : a = a' ∧ actions = actions' := by
  obtain ⟨world⟩ := ‹Nonempty σ›
  obtain ⟨hvalue, hactions⟩ := h.eq (h' (.start world)).2
  exact ⟨hvalue.symm.trans (h' (.start world)).1, hactions⟩

namespace Steady

theorem pure (a : α) : Steady (Pure.pure a : Run σ α) := ⟨a, [], .pure a⟩

theorem bind {run : Run σ α} {next : α → Run σ β} (h : Steady run)
    (hnext : ∀ a, Steady (next a)) : Steady (run >>= next) := by
  obtain ⟨a, actions, hrun⟩ := h
  obtain ⟨b, more, hmore⟩ := hnext a
  exact ⟨b, actions ++ more, hrun.bind hmore⟩

theorem note (action : Action) : Steady (Run.note action : Run σ Unit) :=
  ⟨(), [action], .note action⟩

theorem reports (events : List ProgressEvent) :
    Steady (events.forM Run.report : Run σ PUnit) := ⟨_, _, Does.reports events⟩

theorem call [Nonempty σ] {service : σ → Except Causes α × σ} {describe : Except Causes α → Call}
    (h : ∀ world world', (service world).1 = (service world').1) :
    Steady (Run.call service describe) := by
  obtain ⟨world⟩ := ‹Nonempty σ›
  refine ⟨(service world).1, [.called (describe (service world).1)], fun journal => ?_⟩
  rw [h world journal.world]
  exact ⟨rfl, rfl⟩

/-! ### Parts that may end with a fault -/

theorem returnTask (a : α) : Steady (Pure.pure a : Task σ α).run := pure _

theorem throwTask (fault : PublishFault) : Steady (throw fault : Task σ α).run := pure _

theorem bindTask {task : Task σ α} {next : α → Task σ β} (h : Steady task.run)
    (hnext : ∀ a, Steady (next a).run) : Steady (task >>= next).run := by
  change Steady (task.run >>= ExceptT.bindCont next)
  refine h.bind fun result => ?_
  cases result with
  | ok a => exact hnext a
  | error fault => exact pure _

theorem liftTask (result : Except PublishFault α) : Steady (liftM result : Task σ α).run := pure _

theorem perform {run : Run σ α} (h : Steady run) : Steady (Task.perform run).run :=
  h.bind fun _ => pure _

theorem require {call : Run σ (Except Causes α)} {fault : Causes → PublishFault}
    (h : Steady call) : Steady (Task.require call fault).run := by
  refine h.perform.bindTask fun answer => ?_
  cases answer with
  | ok a => exact returnTask a
  | error causes => exact throwTask _

end Steady

end Run

end ConnectorCatalog
