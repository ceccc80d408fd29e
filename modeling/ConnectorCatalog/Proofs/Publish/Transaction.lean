import ConnectorCatalog.Proofs.Publish.Ledger
import Mathlib.Data.List.TakeWhile

/-!
# Transactions under any requests

A transaction is asked for one thing after the other, in any order (`Request`): to take rows in, to
commit and to abort.  `Transaction.steps` keeps a `Step` for each request: what it was answered,
how it left the transaction, and which services it called.

* `HandleTrace` says how a request can be handled.
* `Reached` relates a transaction to the requests behind it; every request keeps this relation and
  is handled lawfully (`Reached.handle`).
* **A transaction is lawful from its start, whatever it is asked and whatever the services answer**
  (`steps_lawful`): it ends once, hands its rows over at most once, deletes the packages of its
  versions exactly if it is rolled back, and has nothing to do with the services after its end.
-/

namespace ConnectorCatalog

open Run

variable {σ : Type}

/-- A cleanup that has gone over a number of versions. -/
structure CleanupReport.Covers (report : CleanupReport) (versions : Nat) : Prop where
  attempted : report.attempted = versions
  split : report.attempted = report.deleted + report.failed.length

theorem CleanupTrace.covers {rows : List VersionRow} {report : CleanupReport}
    {actions : List Action} (h : CleanupTrace rows report actions) :
    report.Covers rows.length := by
  induction h with
  | nil => exact ⟨rfl, rfl⟩
  | deleted row _ ih =>
    exact ⟨congrArg (· + 1) ih.attempted, by have := ih.split; simp; omega⟩
  | kept row causes _ ih =>
    exact ⟨congrArg (· + 1) ih.attempted, by have := ih.split; simp; omega⟩

namespace Transaction

/-! ### Requests -/

/-- What a transaction can be asked for. -/
inductive Request where
  | connector (rows : NewConnectorRows)
  | update (update : OverviewUpdate)
  | version (row : VersionRow)
  | commit
  | abort

namespace Request

/-- Whether a request ends the transaction. -/
def isEnd : Request → Bool
  | commit => true
  | abort => true
  | _ => false

/-- The rows of a new connector. -/
def connector? : Request → Option NewConnectorRows
  | connector rows => some rows
  | _ => none

/-- The update of an overview. -/
def update? : Request → Option OverviewUpdate
  | update changes => some changes
  | _ => none

/-- The row of a version. -/
def version? : Request → Option VersionRow
  | version row => some row
  | _ => none

/-- The rows that requests bring. -/
def rowsOf (requests : List Request) : Batch where
  connectors := (requests.filterMap connector?).map (·.connector)
  overviews := (requests.filterMap connector?).map (·.overview)
  updates := requests.filterMap update?
  versions := requests.filterMap version?

/-- The rows that requests bring before the first of them that ends the transaction. -/
def collected (requests : List Request) : Batch := rowsOf (requests.takeWhile (!·.isEnd))

/-- None of the requests ends the transaction. -/
def Open (requests : List Request) : Prop := ∀ request ∈ requests, request.isEnd = false

variable {requests more : List Request} {request : Request}

theorem open_append : Open (requests ++ more) ↔ Open requests ∧ Open more := List.forall_mem_append

theorem open_singleton : Open [request] ↔ request.isEnd = false := List.forall_mem_singleton

theorem collected_of_open (h : Open requests) : collected requests = rowsOf requests := by
  rw [collected, List.takeWhile_eq_self_iff.2 fun request hmem => by simp [h request hmem]]

theorem collected_append_of_not_open (h : ¬Open requests) :
    collected (requests ++ more) = collected requests := by
  rw [collected, List.takeWhile_append, if_neg, ← collected]
  intro hlength
  refine h fun request hmem => ?_
  rw [← (List.takeWhile_prefix _).eq_of_length hlength] at hmem
  simpa using List.mem_takeWhile_imp hmem

theorem collected_append_of_isEnd (h : Open requests) (hend : request.isEnd = true) :
    collected (requests ++ [request]) = rowsOf requests := by
  rw [collected, List.takeWhile_append_of_pos fun r hr => by simp [h r hr],
    List.takeWhile_cons_of_neg (by simp [hend]), List.append_nil]

end Request

/-! ### Steps -/

/-- What a request is answered. -/
inductive Reply where
  | added
  | committed (result : Except PublishFault CommitReport)
  | aborted (report : CleanupReport)

variable (services : Services σ)

/-- Does what is asked for. -/
def handle (t : Transaction) : Request → Run σ (Reply × Transaction)
  | .connector rows => return (.added, t.addNewConnector rows)
  | .update update => return (.added, t.addUpdate update)
  | .version row => return (.added, t.addVersion row)
  | .commit => do
    let (result, t) ← t.commit services
    return (.committed result, t)
  | .abort => do
    let (report, t) ← t.abort services
    return (.aborted report, t)

/-- A request, what it was answered, how it left the transaction and which services it called. -/
structure Step where
  request : Request
  reply : Reply
  after : Transaction
  calls : List Call

/-- Handles a request in a world of the services. -/
def step (t : Transaction) (request : Request) (world : σ) : Step × σ :=
  let result := t.handle services request (.start world)
  (⟨request, result.1.1, result.1.2, result.2.calls⟩, result.2.world)

/-- Handles requests one after the other. -/
def steps : Transaction → List Request → σ → List Step
  | _, [], _ => []
  | t, request :: rest, world =>
    let (step, world) := t.step services request world
    step :: steps step.after rest world

/-! ### Handling a request -/

/-- How a request can be handled. -/
inductive HandleTrace (t : Transaction) : Request → Reply × Transaction → List Action → Prop where
  | connector (rows : NewConnectorRows) :
    HandleTrace t (.connector rows) (.added, t.addNewConnector rows) []
  | update (update : OverviewUpdate) :
    HandleTrace t (.update update) (.added, t.addUpdate update) []
  | version (row : VersionRow) : HandleTrace t (.version row) (.added, t.addVersion row) []
  | commit {result : Except PublishFault CommitReport} {t' : Transaction} {actions : List Action} :
    t.state = .collecting → CommitTrace t (result, t') actions →
    HandleTrace t .commit (.committed result, t') actions
  | commitClosed : t.state ≠ .collecting →
    HandleTrace t .commit (.committed (.error (.submission 0 (.closed t.state))), t) []
  | abort (report : CleanupReport) {t' : Transaction} {actions : List Action} :
    t.state = .collecting → RollBackTrace t t' actions → t'.cleanup = some report →
    HandleTrace t .abort (.aborted report, t') actions
  | abortClosed : t.state ≠ .collecting →
    HandleTrace t .abort (.aborted (t.cleanup.getD .empty), t) []

theorem yields_handle (t : Transaction) (request : Request) :
    Yields services (HandleTrace t request) (t.handle services request) := by
  cases request with
  | connector rows => exact .pure (.connector rows)
  | update update => exact .pure (.update update)
  | version row => exact .pure (.version row)
  | commit =>
    by_cases h : t.state = .collecting
    · refine (yields_commit services h).bind fun result actions hcommit => .pure ?_
      simpa using .commit h hcommit
    · rw [handle, Transaction.commit, if_pos h]
      exact .pure (.commitClosed h)
  | abort =>
    by_cases h : t.state = .collecting
    · refine (yields_abort services h).bind fun result actions habort => .pure ?_
      simpa using .abort result.1 h habort.1 habort.2
    · rw [handle, Transaction.abort, if_neg h]
      exact .pure (.abortClosed h)

theorem step_trace (t : Transaction) (request : Request) (world : σ) :
    ∃ reply after actions next,
      t.step services request world = (⟨request, reply, after, callsOf actions⟩, next) ∧
      HandleTrace t request (reply, after) actions := by
  obtain ⟨actions, hlog, -, htrace⟩ := yields_handle services t request (.start world)
  refine ⟨_, _, actions, (t.step services request world).2, ?_, htrace⟩
  simp only [step, Journal.calls, hlog]
  rfl

/-! ### What requests lead to -/

open Request

/-- What a transaction is like after requests. -/
inductive Reached (policy : ConflictPolicy) (earlier : List Request) : Transaction → Prop where
  | collecting : Open earlier →
    Reached policy earlier { start policy with batch := rowsOf earlier }
  | committed {t : Transaction} : ¬Open earlier → t.state = .committed → t.cleanup = none →
    Reached policy earlier t
  | rolledBack {t : Transaction} (report : CleanupReport) : ¬Open earlier →
    t.state = .rolledBack → t.cleanup = some report →
    report.Covers (collected earlier).versions.length → Reached policy earlier t

/-- The first request that ends the transaction is a commit, and there are rows. -/
def Submits (earlier : List Request) (request : Request) : Prop :=
  Open earlier ∧ request = .commit ∧ collected earlier ≠ .empty

/-- The step that ends the transaction rolls it back. -/
def Step.RollsBack (earlier : List Request) (s : Step) : Prop :=
  Open earlier ∧ s.after.state = .rolledBack

/-- The calls of a step after requests are as they should be. -/
structure Step.CallsLawfully (policy : ConflictPolicy) (earlier : List Request) (s : Step) :
    Prop where
  /-- All rows that have been collected are handed over at once. -/
  submits : Submits earlier s.request → ∃ answer,
    s.calls.filter Call.isPublish = [.publish (.ofBatch (collected earlier) policy) answer]
  submits_only : ¬Submits earlier s.request → s.calls.filter Call.isPublish = []
  /-- The package of every version is deleted, whether or not other deletes succeed. -/
  deletes : s.RollsBack earlier →
    Call.deletedKeys s.calls = (collected earlier).versions.map (·.release.packageKey)
  deletes_only : ¬s.RollsBack earlier → Call.deletedKeys s.calls = []
  /-- A transaction that has ended has nothing to do with the services. -/
  ended : ¬Open earlier → s.calls = []

/-- A step after requests is as it should be. -/
structure Step.Lawful (policy : ConflictPolicy) (earlier : List Request) (s : Step) : Prop
    extends s.CallsLawfully policy earlier where
  /-- No request leaves rows half submitted. -/
  settled : s.after.state ≠ .submitting
  /-- The first commit or abort ends the transaction. -/
  collecting_iff : s.after.state = .collecting ↔ Open (earlier ++ [s.request])
  reported_iff : s.after.cleanup.isSome = true ↔ s.after.state = .rolledBack
  covers : ∀ report, s.after.cleanup = some report →
    report.Covers (collected (earlier ++ [s.request])).versions.length
  /-- A commit succeeds exactly if the transaction ends with it as committed. -/
  commit_ok_iff : Open earlier → s.request = .commit →
    ((∃ report, s.reply = .committed (.ok report)) ↔ s.after.state = .committed)
  commit_ended : ¬Open earlier → s.request = .commit →
    ∃ fault, s.reply = .committed (.error fault)
  abort : s.request = .abort → s.reply = .aborted (s.after.cleanup.getD .empty)

variable {policy : ConflictPolicy} {earlier : List Request} {t after : Transaction}
  {request : Request} {reply : Reply} {actions : List Action}

namespace Reached

theorem settled (h : Reached policy earlier t) : t.state ≠ .submitting := by
  cases h with
  | collecting => simp [start]
  | committed _ hstate => simp [hstate]
  | rolledBack _ _ hstate => simp [hstate]

theorem collecting_iff (h : Reached policy earlier t) : t.state = .collecting ↔ Open earlier := by
  cases h with
  | collecting hopen => simp [start, hopen]
  | committed hclosed hstate => simp [hstate, hclosed]
  | rolledBack _ hclosed hstate => simp [hstate, hclosed]

theorem reported_iff (h : Reached policy earlier t) :
    t.cleanup.isSome = true ↔ t.state = .rolledBack := by
  cases h with
  | collecting => simp [start]
  | committed _ hstate hclean => simp [hstate, hclean]
  | rolledBack _ _ hstate hclean => simp [hstate, hclean]

theorem covers (h : Reached policy earlier t) {report : CleanupReport}
    (hreport : t.cleanup = some report) :
    report.Covers (collected earlier).versions.length := by
  cases h with
  | collecting => simp [start] at hreport
  | committed _ _ hclean => simp [hclean] at hreport
  | rolledBack _ _ _ hclean hcovers =>
    obtain rfl := Option.some.inj (hclean.symm.trans hreport)
    exact hcovers

end Reached

/-- A transaction that has ended stays as it is but for its rows, and calls no service. -/
theorem HandleTrace.ended (h : HandleTrace t request (reply, after) actions)
    (hended : t.state ≠ .collecting) :
    actions = [] ∧ after.state = t.state ∧ after.cleanup = t.cleanup := by
  cases h with
  | commit hstate => exact absurd hstate hended
  | abort _ hstate => exact absurd hstate hended
  | _ => exact ⟨rfl, rfl, rfl⟩

theorem HandleTrace.commit_ok_iff (h : HandleTrace t .commit (reply, after) actions)
    (hstate : t.state = .collecting) :
    (∃ report, reply = .committed (.ok report)) ↔ after.state = .committed := by
  cases h with
  | commit _ hcommit =>
    cases hcommit with
    | rejected causes _ hroll =>
      cases hroll
      simp
    | _ => simp
  | commitClosed hended => exact absurd hstate hended

theorem HandleTrace.commit_ended (h : HandleTrace t .commit (reply, after) actions)
    (hended : t.state ≠ .collecting) : ∃ fault, reply = .committed (.error fault) := by
  cases h with
  | commit hstate => exact absurd hstate hended
  | commitClosed => exact ⟨_, rfl⟩

theorem HandleTrace.abort_eq (h : HandleTrace t .abort (reply, after) actions) :
    reply = .aborted (after.cleanup.getD .empty) := by
  cases h with
  | abort report _ _ hclean => rw [hclean]; rfl
  | abortClosed => rfl

/-! ### One request -/

theorem reached_added (hopen : Open earlier) (hadd : request.isEnd = false)
    (hafter : after = { start policy with batch := rowsOf (earlier ++ [request]) }) :
    Reached policy (earlier ++ [request]) after := by
  rw [hafter]
  exact .collecting (open_append.2 ⟨hopen, open_singleton.2 hadd⟩)

theorem not_open_of_isEnd (hend : request.isEnd = true) : ¬Open (earlier ++ [request]) := by
  intro h
  rw [open_append, open_singleton, hend] at h
  cases h.2

theorem reached_rolledBack (hopen : Open earlier) (hend : request.isEnd = true)
    (h : RollBackTrace { start policy with batch := rowsOf earlier } after actions) :
    Reached policy (earlier ++ [request]) after := by
  cases h with
  | intro hclean =>
    refine .rolledBack _ (not_open_of_isEnd hend) rfl rfl ?_
    rw [collected_append_of_isEnd hopen hend]
    exact hclean.covers

/-- Every request keeps a transaction as its requests make it. -/
theorem Reached.handle (h : Reached policy earlier t)
    (htrace : HandleTrace t request (reply, after) actions) :
    Reached policy (earlier ++ [request]) after := by
  have hmore (hclosed : ¬Open earlier) : ¬Open (earlier ++ [request]) :=
    fun hopen => hclosed (open_append.1 hopen).1
  cases h with
  | collecting hopen =>
    cases htrace with
    | connector rows =>
      refine reached_added hopen rfl ?_
      simp [addNewConnector, rowsOf, connector?, Request.update?, Request.version?]
    | update update =>
      refine reached_added hopen rfl ?_
      simp [addUpdate, rowsOf, connector?, Request.update?, Request.version?]
    | version row =>
      refine reached_added hopen rfl ?_
      simp [addVersion, rowsOf, connector?, Request.update?, Request.version?]
    | commit _ hcommit =>
      cases hcommit with
      | vacant => exact .committed (not_open_of_isEnd rfl) rfl rfl
      | accepted => exact .committed (not_open_of_isEnd rfl) rfl rfl
      | rejected causes _ hroll => exact reached_rolledBack hopen rfl hroll
    | abort _ _ hroll => exact reached_rolledBack hopen rfl hroll
    | commitClosed hstate => exact absurd rfl hstate
    | abortClosed hstate => exact absurd rfl hstate
  | committed hclosed hstate hclean =>
    obtain ⟨-, hsame, hreport⟩ := htrace.ended (by simp [hstate])
    exact .committed (hmore hclosed) (hsame.trans hstate) (hreport.trans hclean)
  | rolledBack report hclosed hstate hclean hcovers =>
    obtain ⟨-, hsame, hreport⟩ := htrace.ended (by simp [hstate])
    refine .rolledBack report (hmore hclosed) (hsame.trans hstate) (hreport.trans hclean) ?_
    rwa [collected_append_of_not_open hclosed]

theorem Step.CallsLawfully.of_nil {s : Step} (hcalls : s.calls = [])
    (hsubmits : ¬Submits earlier s.request) (hrolls : ¬s.RollsBack earlier) :
    s.CallsLawfully policy earlier where
  submits h := absurd h hsubmits
  submits_only _ := by rw [hcalls]; rfl
  deletes h := absurd h hrolls
  deletes_only _ := by rw [hcalls]; rfl
  ended _ := hcalls

/-- A step that rolls the transaction back when its rows have been rejected or were not to be handed
over. -/
theorem callsLawfully_rolledBack (hopen : Open earlier) (handing : List Call)
    (hroll : RollBackTrace { start policy with batch := rowsOf earlier } after actions)
    (honce : handing = [] ∧ ¬Submits earlier request ∨ Submits earlier request ∧
      ∃ answer, handing = [.publish (.ofBatch (collected earlier) policy) answer]) :
    Step.CallsLawfully policy earlier ⟨request, reply, after, handing ++ callsOf actions⟩ := by
  cases hroll with
  | intro hclean =>
    have hpublish := Call.filter_isPublish_of_isDelete hclean.isDelete
    have hdeletes : Call.deletedKeys (handing ++ callsOf actions) =
        (collected earlier).versions.map (·.release.packageKey) := by
      rw [Call.deletedKeys_append, hclean.deletedKeys, collected_of_open hopen]
      rcases honce with ⟨rfl, -⟩ | ⟨-, answer, rfl⟩ <;> rfl
    refine ⟨fun hsubmits => ?_, fun hnot => ?_, fun _ => hdeletes,
      fun hnot => absurd ⟨hopen, rfl⟩ hnot, fun hclosed => absurd hopen hclosed⟩
    · obtain ⟨answer, rfl⟩ := (honce.resolve_left fun h => h.2 hsubmits).2
      exact ⟨answer, by rw [List.filter_append, hpublish]; rfl⟩
    · obtain ⟨rfl, -⟩ := honce.resolve_right fun h => hnot h.1
      exact hpublish

theorem CommitTrace.callsLawfully (hopen : Open earlier)
    {result : Except PublishFault CommitReport}
    (h : CommitTrace { start policy with batch := rowsOf earlier } (result, after) actions) :
    Step.CallsLawfully policy earlier ⟨.commit, .committed result, after, callsOf actions⟩ := by
  have hrows (hempty : ¬(rowsOf earlier).isEmpty) : Submits earlier .commit := by
    refine ⟨hopen, rfl, fun hnone => hempty ?_⟩
    rw [← collected_of_open hopen]
    exact Batch.isEmpty_iff.2 hnone
  cases h with
  | vacant hempty =>
    refine .of_nil rfl (fun hsubmits => hsubmits.2.2 ?_) (nomatch ·.2)
    rw [collected_of_open hopen]
    exact Batch.isEmpty_iff.1 hempty
  | accepted hempty =>
    refine ⟨fun _ => ⟨.ok (), ?_⟩, fun hnot => absurd (hrows hempty) hnot,
      (nomatch ·.2), fun _ => rfl, fun hclosed => absurd hopen hclosed⟩
    rw [collected_of_open hopen]
    rfl
  | rejected causes hempty hroll =>
    refine callsLawfully_rolledBack hopen [_] hroll (.inr ⟨hrows hempty, .error causes, ?_⟩)
    rw [collected_of_open hopen]
    rfl

theorem Reached.callsLawfully (h : Reached policy earlier t)
    (htrace : HandleTrace t request (reply, after) actions) :
    Step.CallsLawfully policy earlier ⟨request, reply, after, callsOf actions⟩ := by
  by_cases hopen : Open earlier
  · cases h with
    | collecting =>
      cases htrace with
      | commit _ hcommit => exact hcommit.callsLawfully hopen
      | abort _ _ hroll =>
        exact callsLawfully_rolledBack hopen [] hroll (.inl ⟨rfl, (nomatch ·.2.1)⟩)
      | commitClosed hstate => exact absurd rfl hstate
      | abortClosed hstate => exact absurd rfl hstate
      | _ => exact .of_nil rfl (nomatch ·.2.1) (nomatch ·.2)
    | committed hclosed => exact absurd hopen hclosed
    | rolledBack _ hclosed => exact absurd hopen hclosed
  · obtain ⟨rfl, -, -⟩ := htrace.ended (mt h.collecting_iff.1 hopen)
    exact .of_nil rfl (fun hsubmits => hopen hsubmits.1) fun hrolls => hopen hrolls.1

/-- **A transaction answers every request as it should.** -/
theorem Reached.lawful (h : Reached policy earlier t)
    (htrace : HandleTrace t request (reply, after) actions) :
    Step.Lawful policy earlier ⟨request, reply, after, callsOf actions⟩ := by
  have hafter := h.handle htrace
  refine ⟨h.callsLawfully htrace, hafter.settled, hafter.collecting_iff, hafter.reported_iff,
    fun _ => hafter.covers, ?_, ?_, ?_⟩
  · rintro hopen rfl
    exact htrace.commit_ok_iff (h.collecting_iff.2 hopen)
  · rintro hclosed rfl
    exact htrace.commit_ended (mt h.collecting_iff.1 hclosed)
  · rintro rfl
    exact htrace.abort_eq

/-! ### Many requests -/

variable {services : Services σ}

theorem map_request_steps (requests : List Request) (world : σ) :
    (t.steps services requests world).map (·.request) = requests := by
  induction requests generalizing t world with
  | nil => rfl
  | cons request rest ih => exact congrArg _ (ih _)

/-- After its end a transaction stays as it is but for its rows, and calls no service. -/
theorem mem_steps_of_ended (hended : t.state ≠ .collecting) {requests : List Request} {world : σ} :
    ∀ s ∈ t.steps services requests world,
      s.calls = [] ∧ s.after.state = t.state ∧ s.after.cleanup = t.cleanup := by
  induction requests generalizing t world with
  | nil => exact fun _ hmem => nomatch hmem
  | cons request rest ih =>
    obtain ⟨reply, after, actions, next, hstep, htrace⟩ := step_trace services t request world
    obtain ⟨rfl, hstate, hclean⟩ := htrace.ended hended
    rw [steps, hstep]
    refine List.forall_mem_cons.2 ⟨⟨rfl, hstate, hclean⟩, fun s hmem => ?_⟩
    obtain ⟨hcalls, hstate', hclean'⟩ := ih (hstate ▸ hended) s hmem
    exact ⟨hcalls, hstate'.trans hstate, hclean'.trans hclean⟩

/-- Every step is as it should be after the steps before. -/
theorem Reached.lawful_of_steps (h : Reached policy earlier t) {requests : List Request} {world : σ}
    {before later : List Step} {s : Step}
    (hsteps : t.steps services requests world = before ++ s :: later) :
    s.Lawful policy (earlier ++ before.map (·.request)) := by
  induction requests generalizing t world earlier before with
  | nil => simp [steps] at hsteps
  | cons request rest ih =>
    obtain ⟨reply, after, actions, next, hstep, htrace⟩ := step_trace services t request world
    rw [steps, hstep] at hsteps
    cases before with
    | nil =>
      obtain ⟨rfl, -⟩ := List.cons.inj hsteps
      simpa using h.lawful htrace
    | cons first before =>
      obtain ⟨rfl, hrest⟩ := List.cons.inj hsteps
      simpa using ih (h.handle htrace) hrest

/-- Once a transaction has left the state in which it collects rows, nothing but rows changes. -/
theorem pairwise_steps (requests : List Request) (world : σ) :
    (t.steps services requests world).Pairwise fun s later => s.after.state ≠ .collecting →
      later.after.state = s.after.state ∧ later.after.cleanup = s.after.cleanup := by
  induction requests generalizing t world with
  | nil => exact .nil
  | cons request rest ih =>
    exact List.pairwise_cons.2
      ⟨fun later hlater hended => (mem_steps_of_ended hended later hlater).2, ih _⟩

/-- Rows are handed over once at most. -/
theorem Reached.length_publishes_le_one (h : Reached policy earlier t) (requests : List Request)
    (world : σ) : (((t.steps services requests world).flatMap (·.calls)).filter
      Call.isPublish).length ≤ 1 := by
  induction requests generalizing t world earlier with
  | nil => exact Nat.zero_le 1
  | cons request rest ih =>
    obtain ⟨reply, after, actions, next, hstep, htrace⟩ := step_trace services t request world
    have hlawful := h.lawful htrace
    simp only [steps, hstep]
    rw [List.flatMap_cons, List.filter_append, List.length_append]
    by_cases hsubmits : Submits earlier request
    · -- The step ends the transaction, so nothing is called for after it.
      have hended : after.state ≠ .collecting := by
        obtain ⟨-, rfl, -⟩ := hsubmits
        exact mt hlawful.collecting_iff.1 (not_open_of_isEnd rfl)
      have hnone : (after.steps services rest next).flatMap (·.calls) = [] :=
        List.flatMap_eq_nil_iff.2 fun s hmem => (mem_steps_of_ended hended s hmem).1
      obtain ⟨answer, hpublish⟩ := hlawful.submits hsubmits
      rw [hpublish, hnone]
      exact Nat.le_refl 1
    · rw [hlawful.submits_only hsubmits]
      simpa using ih (h.handle htrace) _

/-- **A transaction is lawful whatever it is asked and whatever the services answer.**  Each step of
it is as it should be after the requests before; what is known of the end does not change any more;
and rows are handed over once at most. -/
theorem steps_lawful (services : Services σ) (policy : ConflictPolicy) (requests : List Request)
    (world : σ) :
    let steps := (start policy).steps services requests world
    steps.map (·.request) = requests ∧
    (∀ before s later, steps = before ++ s :: later →
      s.Lawful policy (before.map (·.request))) ∧
    steps.Pairwise (fun s later => s.after.state ≠ .collecting →
      later.after.state = s.after.state ∧ later.after.cleanup = s.after.cleanup) ∧
    ((steps.flatMap (·.calls)).filter Call.isPublish).length ≤ 1 := by
  have hstart : Reached policy [] (start policy) := .collecting fun _ hmem => nomatch hmem
  exact ⟨map_request_steps requests world, fun _ _ _ => hstart.lawful_of_steps,
    pairwise_steps requests world, hstart.length_publishes_le_one requests world⟩

end Transaction

end ConnectorCatalog
