import ConnectorCatalog.Proofs.Publish.Ledger
import ConnectorCatalog.Proofs.Registry.Client
import ConnectorCatalog.Remote

/-!
# Runs over a network

A run that reaches its services over a network relies on what the registry's responses are taken
for.  It succeeds only if it has no rows or the registry has confirmed them, and it goes by what the
registry has said of a connector (`registry_responses`).  Either may rest on a response without data
(`blank_commits`).
-/

namespace ConnectorCatalog

open Http (Network Response)

variable {σ : Type}

/-- The outcome of a run that had no rows to hand over. -/
def PublishOutcome.HasNoRows (outcome : PublishOutcome) : Prop :=
  outcome.connectors = 0 ∧ outcome.overviews = 0 ∧ outcome.updates = 0 ∧ outcome.versions = 0

theorem BuildSite.PublishTrace.of_ok {site : BuildSite σ} {files : ChangedFiles}
    {visits : List Visit} {outcome : PublishOutcome} {actions : List Action}
    (h : site.PublishTrace files visits (.ok outcome) actions) : outcome.state = .committed ∧
      (outcome.HasNoRows ∨ ∃ request, .publish request (.ok ()) ∈ callsOf actions) := by
  generalize hresult : (.ok outcome : Except PublishFault PublishOutcome) = result at h
  cases h with
  | refused => cases hresult
  | nothing =>
    cases hresult
    exact ⟨rfl, .inl ⟨rfl, rfl, rfl, rfl⟩⟩
  | ended hset hempty hvisits hend =>
    subst hresult
    obtain ⟨-, rfl, hhanded⟩ := hend.of_ok
    refine ⟨rfl, ?_⟩
    rw [callsOf_reported, callsOf_append]
    rcases hhanded with ⟨hnone, -⟩ | hcalls
    · have hbatch : (Collection.ofVisits site.environment.policy visits).transaction.batch =
          .empty := hnone
      rw [PublishOutcome.HasNoRows, Collection.outcome, hbatch]
      exact .inl ⟨rfl, rfl, rfl, rfl⟩
    · rw [hcalls]
      exact .inr ⟨_, List.mem_append_right _ List.mem_cons_self⟩

/-- **What a run over a network takes the registry's responses for.**  Rows are written, or a
connector is known, exactly if a response is taken to say so; every other response is a failure.  So
a run succeeds only if it had no rows or a response has confirmed them, and what it has been told of
a connector is what a response is taken to say of it. -/
theorem registry_responses (remote : Remote) (network : Network σ) (now : Moment)
    (site : BuildSite (Machine σ)) (files : ChangedFiles) (machine : Machine σ) :
    let services := remote.services network now
    let run := publish { site with services } files (.start machine)
    (∀ request machine, (services.publish request machine).1 = .ok () ↔
      ∃ response, remote.registry.Answered network request machine.network response ∧
        response.Confirms) ∧
    (∀ connector info? machine, (services.lookup connector machine).1 = .ok info? ↔
      ∃ response, remote.registry.Answered network (RegistryClient.lookupRequest connector)
        machine.network response ∧ response.Describes info?) ∧
    (∀ outcome, run.1 = .ok outcome → outcome.state = .committed ∧ (outcome.HasNoRows ∨
      ∃ request world response, .publish request (.ok ()) ∈ run.2.calls ∧
        remote.registry.Answered network request world response ∧ response.Confirms)) ∧
    (∀ connector info?, .lookup connector (.ok info?) ∈ run.2.calls →
      ∃ world response, remote.registry.Answered network (RegistryClient.lookupRequest connector)
        world response ∧ response.Describes info?) := by
  intro services run
  have hpublish : ∀ request machine, (services.publish request machine).1 = .ok () ↔
      ∃ response, remote.registry.Answered network request machine.network response ∧
        response.Confirms := fun _ _ => RegistryClient.publish_eq_ok
  have hlookup : ∀ connector info? machine, (services.lookup connector machine).1 = .ok info? ↔
      ∃ response, remote.registry.Answered network (RegistryClient.lookupRequest connector)
        machine.network response ∧ response.Describes info? :=
    fun _ _ _ => RegistryClient.lookup_eq_ok
  obtain ⟨actions, hcalls, hleads, htrace⟩ :=
    BuildSite.publish_calls { site with services } files machine
  refine ⟨hpublish, hlookup, fun outcome hok => ?_, fun connector info? hcall => ?_⟩
  · rw [hok] at htrace
    obtain ⟨hstate, hrows⟩ := htrace.of_ok
    refine ⟨hstate, hrows.imp_right ?_⟩
    rintro ⟨request, hcall⟩
    obtain ⟨before, after, hanswer⟩ := hleads.exists_answers hcall
    obtain ⟨response, hresponse, hconfirms⟩ :=
      (hpublish request before).1 (congrArg Prod.fst hanswer)
    exact ⟨request, before.network, response, hcalls ▸ hcall, hresponse, hconfirms⟩
  · obtain ⟨before, after, hanswer⟩ := hleads.exists_answers (hcalls ▸ hcall)
    obtain ⟨response, hresponse, hdescribes⟩ :=
      (hlookup connector info? before).1 (congrArg Prod.fst hanswer)
    exact ⟨before.network, response, hresponse, hdescribes⟩

section

/-- A response without data. -/
def blankResponse : Response := ⟨200, Text.utf8 "\x7b\x7d"⟩

/-- A network on which the registry gives this response, and everyone else says where a logo is. -/
def blankNetwork : Network Unit := fun request =>
  if request.url = "https://registry.test" then return .ok blankResponse
  else return .ok ⟨200, Text.utf8 "\x7b\"secure_url\": \"https://images.test/logo.png\"\x7d"⟩

/-- The services on this network. -/
def blankRemote : Remote where
  images := ⟨⟨"images", none⟩, "key", "secret"⟩
  registry := ⟨"https://registry.test", "publisher", "key"⟩
  storage := ⟨⟨"packages", "https://storage.test", "auto", none⟩, "id", "key"⟩
  scratchDir := "scratch"

/-- A tree with one new connector. -/
def blankSite : BuildSite (Machine Unit) where
  environment := .production
  repoRoot := "repo"
  tree := (FileTree.empty.write ["repo", "registry", "acme", "db", "logo.png"] (Text.utf8 "logo"))
    |>.write ["repo", "registry", "acme", "db", "README.md"] (Text.utf8 "docs")
    |>.write ["repo", "registry", "acme", "db", "metadata.json"] (Text.utf8
      "\x7b\"overview\": \x7b\"namespace\": \"acme\", \"title\": \"Database\"\x7d\x7d")
  services := blankRemote.services blankNetwork default

/-- The outcome of a run that publishes this connector. -/
def blankOutcome : PublishOutcome where
  state := .committed
  connectors := 1
  overviews := 1
  updates := 0
  versions := 0
  skipped := []
  failed := []

/-- Without having learnt anything from the registry, a run in production commits a connector. -/
theorem blank_commits : blankResponse.ReportsNothing ∧
    (∀ request response, blankRemote.registry.Answered blankNetwork request () response ↔
      response = blankResponse) ∧
    (∀ connector machine, (blankSite.services.lookup connector machine).1 = .ok none) ∧
    (∀ request machine, (blankSite.services.publish request machine).1 = .ok ()) ∧
    (publish blankSite ⟨["registry/acme/db/metadata.json"], [], []⟩
      (.start ⟨blankSite.tree, ()⟩)).1 = .ok blankOutcome := by
  have hread : RegistryClient.answer "" (fun _ => some ()) blankResponse = .ok none :=
    Except.toOption_eq_some.1 (by decide +kernel)
  have hblank : blankResponse.ReportsNothing :=
    Response.reportsNothing_iff.2 (RegistryClient.answer_eq_ok.1 hread)
  have hanswered (request : PublishRequest) :
      blankRemote.registry.Answered blankNetwork request () blankResponse := rfl
  obtain ⟨hpublish, hlookup, -⟩ := registry_responses blankRemote blankNetwork default blankSite
    ⟨[], [], []⟩ ⟨blankSite.tree, ()⟩
  refine ⟨hblank, fun request response => ⟨fun h => ?_, ?_⟩, fun connector machine => ?_,
    fun request machine => ?_, Except.toOption_eq_some.1 (by decide +kernel)⟩
  · exact Except.ok.inj (h.symm.trans (hanswered request))
  · rintro rfl
    exact hanswered request
  · exact (hlookup connector none machine).2 ⟨blankResponse, hanswered _, .inl hblank⟩
  · exact (hpublish request machine).2 ⟨blankResponse, hanswered _, .inl hblank⟩

end

end ConnectorCatalog
