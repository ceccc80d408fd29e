import ConnectorCatalog.Proofs.Except
import ConnectorCatalog.Proofs.Json.Record
import ConnectorCatalog.Registry.Client

/-!
# What responses of the registry are taken for

A response of the registry is read if it reports success, is a record in JSON and lists no errors
(`Response.Reports`); every other response is a failure (`RegistryClient.answer_eq_ok`).

That the record has data is not asked for.  So a response without data is taken for a confirmation
that rows have been written (`RegistryClient.publish_eq_ok`), and it is taken to say of any
connector that there is none (`RegistryClient.lookup_eq_ok`).
-/

namespace ConnectorCatalog

open Http (Network Response)

/-! ### Rows -/

namespace ConnectorInfo

/-- A row of the registry, and whether its connector is linked to one for several tenants: the row
has a link that is not `null`. -/
def LinkOf (row : Json) (isLinked : Bool) : Prop :=
  ∃ link, row.HasMembers ["multitenant_connector"] 1 [link] ∧
    (∀ value, link = some value → value.canKeep (Json.maxDepth - 4) = true) ∧
    (isLinked = true ↔ ∃ value, link = some value ∧ value ≠ .null)

/-- Data with the rows of connectors. -/
def RowsOf (data : Json) (rows : List Json) : Prop :=
  data.HasMembers ["hub_registry_connector"] 1 [some (.arr rows)]

theorem isLinked?_eq_some {row : Json} {isLinked : Bool} :
    isLinked? row = some isLinked ↔ LinkOf row isLinked := by
  refine Json.bind_member_eq_some.trans (exists_congr fun link => and_congr_right fun _ => ?_)
  rw [← Json.isSome_optional_any?]
  cases Json.optional (Json.any? 4) link <;> rfl

theorem ofData?_eq_some {data : Json} {info? : Option ConnectorInfo} :
    ofData? data = some info? ↔ ∃ rows links, RowsOf data rows ∧ List.Forall₂ LinkOf rows links ∧
      links.head?.map mk = info? := by
  refine Json.bind_member_eq_some.trans ?_
  simp only [Option.bind_eq_bind, Option.bind_eq_some_iff, Json.required_eq_some,
    Json.items?_eq_some, Option.pure_def, Option.some_inj, isLinked?_eq_some]
  constructor
  · rintro ⟨_, hmembers, links, ⟨_, rfl, rows, rfl, hlinks⟩, hinfo⟩
    exact ⟨rows, links, hmembers, hlinks, hinfo⟩
  · rintro ⟨rows, links, hmembers, hlinks, hinfo⟩
    exact ⟨_, hmembers, links, ⟨_, rfl, rows, rfl, hlinks⟩, hinfo⟩

theorem ofData?_eq_some_none {data : Json} : ofData? data = some none ↔ RowsOf data [] := by
  rw [ofData?_eq_some]
  constructor
  · rintro ⟨rows, links, hrows, hlinks, hnone⟩
    obtain rfl := List.head?_eq_none_iff.1 (Option.map_eq_none_iff.1 hnone)
    cases hlinks
    exact hrows
  · exact fun hrows => ⟨[], [], hrows, .nil, rfl⟩

theorem ofData?_eq_some_some {data : Json} {info : ConnectorInfo} :
    ofData? data = some (some info) ↔ ∃ row rest, RowsOf data (row :: rest) ∧
      LinkOf row info.isMultitenant ∧ ∀ other ∈ rest, ∃ isLinked, LinkOf other isLinked := by
  rw [ofData?_eq_some]
  constructor
  · rintro ⟨rows, links, hrows, hlinks, hinfo⟩
    obtain ⟨link, hhead, rfl⟩ := Option.map_eq_some_iff.1 hinfo
    cases hlinks with
    | nil => cases hhead
    | cons hlink hrest =>
      cases hhead
      exact ⟨_, _, hrows, hlink, Json.exists_forall₂_iff.1 ⟨_, hrest⟩⟩
  · rintro ⟨row, rest, hrows, hlink, hrest⟩
    obtain ⟨links, hlinks⟩ := Json.exists_forall₂_iff.2 hrest
    exact ⟨_, _, hrows, .cons hlink hlinks, rfl⟩

theorem RowsOf.ne_null {data : Json} {rows : List Json} (h : RowsOf data rows) : data ≠ .null := by
  rintro rfl
  exact h

end ConnectorInfo

/-! ### Responses -/

namespace Http.Response

/-- A response that reports success and lists no errors, with the member `data` of its record. -/
structure Reports (response : Response) (data : Option Json) : Prop where
  isSuccess : 200 ≤ response.status ∧ response.status < 300
  record : ∃ document errors, Text.ofUtf8? response.body >>= Json.parse? = some document ∧
    document.HasMembers ["data", "errors"] 1 [data, errors] ∧
    (errors = none ∨ errors = some (.arr []))

/-- A response that reports success without any data: they are missing or `null`. -/
def ReportsNothing (response : Response) : Prop :=
  response.Reports none ∨ response.Reports (some .null)

/-- A response that is taken for a confirmation: it has no data, or data that can be kept. -/
def Confirms (response : Response) : Prop :=
  response.ReportsNothing ∨
    ∃ data, data ≠ .null ∧ data.canKeep (Json.maxDepth - 1) = true ∧ response.Reports (some data)

/-- What a response is taken to say of a connector: that there is none if it has no data or no rows,
and otherwise what its first row says, where all rows can be read. -/
def Describes (response : Response) : Option ConnectorInfo → Prop
  | none => response.ReportsNothing ∨
    ∃ data, response.Reports (some data) ∧ ConnectorInfo.RowsOf data []
  | some info => ∃ data row rest, response.Reports (some data) ∧
    ConnectorInfo.RowsOf data (row :: rest) ∧ ConnectorInfo.LinkOf row info.isMultitenant ∧
    ∀ other ∈ rest, ∃ isLinked, ConnectorInfo.LinkOf other isLinked

variable {response : Response}

theorem reportsNothing_iff {α : Type} {read? : Json → Option α} : response.ReportsNothing ↔
    ∃ data, response.Reports data ∧ Json.optional read? data = some none := by
  simp only [Json.optional_eq_none, and_or_left, exists_or, exists_eq_right, ReportsNothing]

theorem confirms_iff : response.Confirms ↔ ∃ data kept, response.Reports data ∧
    Json.optional (Json.any? 1) data = some kept := by
  constructor
  · rintro (hnothing | ⟨data, hne, hkeep, hreports⟩)
    · obtain ⟨data, hreports, hnone⟩ := reportsNothing_iff.1 hnothing
      exact ⟨data, none, hreports, hnone⟩
    · exact ⟨some data, some data, hreports,
        Json.optional_eq_some.2 ⟨data, rfl, hne, Json.any?_eq_some.2 ⟨hkeep, rfl⟩⟩⟩
  · rintro ⟨data, kept, hreports, hread⟩
    cases kept with
    | none => exact .inl (reportsNothing_iff.2 ⟨data, hreports, hread⟩)
    | some kept =>
      obtain ⟨given, rfl, hne, hkept⟩ := Json.optional_eq_some.1 hread
      exact .inr ⟨given, hne, (Json.any?_eq_some.1 hkept).1, hreports⟩

theorem describes_iff {info? : Option ConnectorInfo} : response.Describes info? ↔
    ∃ data read, response.Reports data ∧
      Json.optional ConnectorInfo.ofData? data = some read ∧ read.join = info? := by
  cases info? with
  | none =>
    constructor
    · rintro (hnothing | ⟨data, hreports, hrows⟩)
      · obtain ⟨data, hreports, hnone⟩ := reportsNothing_iff.1 hnothing
        exact ⟨data, none, hreports, hnone, rfl⟩
      · exact ⟨some data, some none, hreports, Json.optional_eq_some.2
          ⟨data, rfl, hrows.ne_null, ConnectorInfo.ofData?_eq_some_none.2 hrows⟩, rfl⟩
    · rintro ⟨data, read, hreports, hread, hjoin⟩
      rcases read with - | - | info
      · exact .inl (reportsNothing_iff.2 ⟨data, hreports, hread⟩)
      · obtain ⟨given, rfl, -, hof⟩ := Json.optional_eq_some.1 hread
        exact .inr ⟨given, hreports, ConnectorInfo.ofData?_eq_some_none.1 hof⟩
      · cases hjoin
  | some info =>
    constructor
    · rintro ⟨data, row, rest, hreports, hrows, hlinks⟩
      exact ⟨some data, some (some info), hreports, Json.optional_eq_some.2 ⟨data, rfl,
        hrows.ne_null, ConnectorInfo.ofData?_eq_some_some.2 ⟨row, rest, hrows, hlinks⟩⟩, rfl⟩
    · rintro ⟨data, read, hreports, hread, hjoin⟩
      obtain rfl := Option.join_eq_some_iff.1 hjoin
      obtain ⟨given, rfl, -, hof⟩ := Json.optional_eq_some.1 hread
      obtain ⟨row, rest, hrows, hlinks⟩ := ConnectorInfo.ofData?_eq_some_some.1 hof
      exact ⟨given, row, rest, hreports, hrows, hlinks⟩

end Http.Response

namespace RegistryAnswer

theorem ofJson?_eq_some {document : Json} {answer : RegistryAnswer} :
    ofJson? document = some answer ↔ ∃ data errors,
      document.HasMembers ["data", "errors"] 1 [data, errors] ∧
      Json.optional some data = some answer.data ∧
      Json.withDefault (Json.items? Json.message?) [] errors = some answer.errors := by
  refine Json.bind_members_eq_some.trans ?_
  refine exists_congr fun data => exists_congr fun errors => and_congr_right fun _ => ?_
  simp only [Option.bind_eq_bind, Option.bind_eq_some_iff, Option.pure_def, Option.some_inj]
  constructor
  · rintro ⟨_, hdata, _, herrors, rfl⟩
    exact ⟨hdata, herrors⟩
  · rintro ⟨hdata, herrors⟩
    exact ⟨_, hdata, _, herrors, rfl⟩

theorem errors_eq_nil {errors : Option Json} :
    Json.withDefault (Json.items? Json.message?) [] errors = some [] ↔
      errors = none ∨ errors = some (.arr []) := by
  cases errors with
  | none => simp [Json.withDefault]
  | some value => simp [Json.withDefault, Json.items?_eq_some]

end RegistryAnswer

namespace RegistryClient

variable {α : Type} {operation : String} {read? : Json → Option α} {response : Response}

/-- What the body of a response is read as: the errors it lists, and what its data say. -/
theorem read_eq_some {body : Bytes} {listed : List String} {result : Option α} :
    (do
      let answer ← Text.ofUtf8? body >>= Json.parse? >>= RegistryAnswer.ofJson?
      match answer.data with
      | some data => return (answer.errors, some (← read? data))
      | none => return (answer.errors, none)) = some (listed, result) ↔
    ∃ document data errors, Text.ofUtf8? body >>= Json.parse? = some document ∧
      document.HasMembers ["data", "errors"] 1 [data, errors] ∧
      Json.withDefault (Json.items? Json.message?) [] errors = some listed ∧
      Json.optional read? data = some result := by
  rw [Option.bind_eq_bind, Option.bind_eq_some_iff]
  constructor
  · rintro ⟨⟨kept, listed⟩, hanswer, hread⟩
    obtain ⟨document, hdocument, hanswer⟩ := Option.bind_eq_some_iff.1 hanswer
    obtain ⟨data, errors, hmembers, hdata, herrors⟩ := RegistryAnswer.ofJson?_eq_some.1 hanswer
    refine ⟨document, data, errors, hdocument, hmembers, ?_⟩
    rw [Json.optional_eq_of_some hdata]
    cases kept with
    | none =>
      cases hread
      exact ⟨herrors, rfl⟩
    | some given =>
      obtain ⟨a, ha, hpair⟩ := Option.bind_eq_some_iff.1 hread
      cases hpair
      exact ⟨herrors, Option.map_eq_some_iff.2 ⟨a, ha, rfl⟩⟩
  · rintro ⟨document, data, errors, hdocument, hmembers, herrors, hresult⟩
    obtain ⟨kept, hdata⟩ := Json.exists_optional_some data
    refine ⟨⟨kept, listed⟩, Option.bind_eq_some_iff.2 ⟨document, hdocument,
      RegistryAnswer.ofJson?_eq_some.2 ⟨data, errors, hmembers, hdata, herrors⟩⟩, ?_⟩
    rw [Json.optional_eq_of_some hdata] at hresult
    cases kept with
    | none =>
      cases hresult
      rfl
    | some given =>
      obtain ⟨a, ha, rfl⟩ := Option.map_eq_some_iff.1 hresult
      exact Option.bind_eq_some_iff.2 ⟨a, ha, rfl⟩

/-- **A response is a failure unless it reports success, is a record and lists no errors.** -/
theorem answer_eq_ok {result : Option α} : answer operation read? response = .ok result ↔
    ∃ data, response.Reports data ∧ Json.optional read? data = some result := by
  have hstatus : response.isSuccess = true ↔ 200 ≤ response.status ∧ response.status < 300 := by
    simp [Response.isSuccess, Http.isSuccess]
  unfold answer
  by_cases hsuccess : response.isSuccess = true
  · rw [if_neg (by simp [hsuccess])]
    extract_lets answer?
    have hread : answer? = some ([], result) ↔ ∃ data, response.Reports data ∧
        Json.optional read? data = some result := by
      refine read_eq_some.trans ?_
      simp only [RegistryAnswer.errors_eq_nil]
      constructor
      · rintro ⟨document, data, errors, hdocument, hmembers, hnone, hresult⟩
        exact ⟨data, ⟨hstatus.1 hsuccess, document, errors, hdocument, hmembers, hnone⟩, hresult⟩
      · rintro ⟨data, ⟨-, document, errors, hdocument, hmembers, hnone⟩, hresult⟩
        exact ⟨document, data, errors, hdocument, hmembers, hnone, hresult⟩
    rw [← hread]
    clear_value answer?
    rcases answer? with - | ⟨- | ⟨error, rest⟩, data⟩ <;> simp
  · rw [if_pos (by simp [hsuccess])]
    refine iff_of_false nofun ?_
    rintro ⟨data, hreports, -⟩
    exact hsuccess (hstatus.2 hreports.isSuccess)

/-! ### Requests -/

variable {σ : Type} {client : RegistryClient} {network : Network σ} {world : σ}

/-- A network answers a request of a client in a state of its own with a response. -/
def Answered (client : RegistryClient) (network : Network σ) (request : PublishRequest) (world : σ)
    (response : Response) : Prop :=
  ((network (client.message request)).run world).1 = .ok response

theorem send_eq_ok {request : PublishRequest} {result : Option α} :
    ((client.send network request read?).run world).1 = .ok result ↔
      ∃ response, client.Answered network request world response ∧
        ∃ data, response.Reports data ∧ Json.optional read? data = some result := by
  unfold Answered send
  rw [StateT.run_bind]
  obtain ⟨received, after⟩ := (network (client.message request)).run world
  cases received with
  | error causes => exact iff_of_false nofun nofun
  | ok response =>
    have hanswer : answer request.operation read? response = .ok result ↔ ∃ data,
        response.Reports data ∧ Json.optional read? data = some result := answer_eq_ok
    refine hanswer.trans ⟨fun h => ⟨response, rfl, h⟩, ?_⟩
    rintro ⟨_, hsame, h⟩
    cases hsame
    exact h

/-- Rows are written exactly if a response confirms it. -/
theorem publish_eq_ok {request : PublishRequest} :
    ((client.publish network request).run world).1 = .ok () ↔
      ∃ response, client.Answered network request world response ∧ response.Confirms := by
  have hmap : ((client.publish network request).run world).1 =
      ((client.send network request (Json.any? 1)).run world).1.map fun _ => () := rfl
  rw [hmap]
  simp only [Except.map_eq_ok, and_true, send_eq_ok, Response.confirms_iff]
  constructor
  · rintro ⟨kept, response, hresponse, data, hreports, hread⟩
    exact ⟨response, hresponse, data, kept, hreports, hread⟩
  · rintro ⟨response, hresponse, data, kept, hreports, hread⟩
    exact ⟨kept, response, hresponse, data, hreports, hread⟩

/-- A connector is known, or known not to be there, exactly if a response says so. -/
theorem lookup_eq_ok {connector : Identity} {info? : Option ConnectorInfo} :
    ((client.lookup network connector).run world).1 = .ok info? ↔
      ∃ response, client.Answered network (lookupRequest connector) world response ∧
        response.Describes info? := by
  have hmap : ((client.lookup network connector).run world).1 =
      ((client.send network (lookupRequest connector) ConnectorInfo.ofData?).run world).1.map
        Option.join := rfl
  rw [hmap]
  simp only [Except.map_eq_ok, send_eq_ok, Response.describes_iff]
  constructor
  · rintro ⟨read, ⟨response, hresponse, data, hreports, hread⟩, hjoin⟩
    exact ⟨response, hresponse, data, read, hreports, hread, hjoin⟩
  · rintro ⟨response, hresponse, data, read, hreports, hread, hjoin⟩
    exact ⟨read, ⟨response, hresponse, data, hreports, hread⟩, hjoin⟩

end RegistryClient

end ConnectorCatalog
