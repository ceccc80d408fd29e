import ConnectorCatalog.Proofs.Storage.RequestPath

/-!
# What the signature of a request covers

A server that checks a signature makes it anew from the request that it has received: from the
method, the host and the path that were sent for the address, and the body
(`Signature.Input.ofRequest`).  The client takes the host and the path from its settings instead.

An endpoint is an origin, or an origin and a path below it (`StorageSettings.ReachedAt`).  Where an
authority is sent as it is written, what is signed is what is sent if and only if there is no such
path, and no segment of the bucket and the key is taken for a step between directories on the way
(`StorageClient.signed_covers`).
-/

namespace ConnectorCatalog

open Text

/-! ### Addresses -/

namespace Address

/-- The authority of an address `scheme://authority/path`, as it is written. -/
def authority (address : String) : String := (segments (untilEnd address)).getD 2 ""

/-- The path of an address, as it is written. -/
def pathText (address : String) : String := "/" ++ joinTexts "/" (path address)

/-- A segment that stands for a directory seen from where it is: this one, or the one above. -/
def IsDots (segment : String) : Prop := segment = "." ∨ segment = ".."

instance {segment : String} : Decidable (IsDots segment) := inferInstanceAs (Decidable (_ ∨ _))

/-- One segment more behind those that are kept, newest first. -/
def resolveSegment (kept : List String) (segment : String) : List String :=
  if segment = "." then kept else if segment = ".." then kept.tail else segment :: kept

/-- The segments of a path with `.` and `..` resolved.  At the end of a path they leave an empty
segment, above its start there is nothing to go back to. -/
def resolve (segs : List String) : List String :=
  let kept := (segs.foldl resolveSegment []).reverse
  if segs.getLast?.any (IsDots ·) then kept ++ [""] else kept

/-- The path that is sent to a server for an address. -/
def sentPath (address : String) : String := "/" ++ joinTexts "/" (resolve (path address))

variable {s host base rest scheme address : String} {kept segs : List String}

/-! #### Resolved paths -/

theorem foldl_resolveSegment (h : ∀ s ∈ segs, ¬IsDots s) :
    segs.foldl resolveSegment kept = segs.reverse ++ kept := by
  induction segs generalizing kept with
  | nil => rfl
  | cons s rest ih =>
    obtain ⟨hs, hrest⟩ := List.forall_mem_cons.1 h
    rw [IsDots, not_or] at hs
    rw [List.foldl_cons, ih hrest, resolveSegment, if_neg hs.1, if_neg hs.2, List.reverse_cons,
      List.append_assoc, List.singleton_append]

/-- Nothing but segments of no special meaning is kept. -/
theorem mem_foldl_resolveSegment (h : s ∈ segs.foldl resolveSegment kept) :
    s ∈ kept ∨ s ∈ segs ∧ ¬IsDots s := by
  induction segs generalizing kept with
  | nil => exact .inl h
  | cons t rest ih =>
    rw [List.foldl_cons] at h
    rcases ih h with hkept | ⟨hrest, hs⟩
    · rw [resolveSegment] at hkept
      split_ifs at hkept with hdot hdots
      · exact .inl hkept
      · exact .inl (List.mem_of_mem_tail hkept)
      · rcases List.mem_cons.1 hkept with rfl | hkept
        · exact .inr ⟨List.mem_cons_self, by simp [IsDots, hdot, hdots]⟩
        · exact .inl hkept
    · exact .inr ⟨List.mem_cons_of_mem t hrest, hs⟩

theorem mem_resolve (h : s ∈ resolve segs) : s = "" ∨ s ∈ segs ∧ ¬IsDots s := by
  have hkept (hs : s ∈ (segs.foldl resolveSegment []).reverse) : s ∈ segs ∧ ¬IsDots s :=
    (mem_foldl_resolveSegment (List.mem_reverse.1 hs)).resolve_left List.not_mem_nil
  rw [resolve] at h
  split_ifs at h
  · rcases List.mem_append.1 h with h | h
    · exact .inr (hkept h)
    · exact .inl (List.mem_singleton.1 h)
  · exact .inr (hkept h)

/-- **A path is left as it is exactly if none of its segments is `.` or `..`.** -/
theorem resolve_eq_self_iff : resolve segs = segs ↔ ∀ s ∈ segs, ¬IsDots s := by
  constructor
  · intro h s hs
    rcases mem_resolve (h ▸ hs) with rfl | ⟨-, hdots⟩
    · decide
    · exact hdots
  · intro h
    have hlast : segs.getLast?.any (IsDots ·) = false := by
      rw [Option.any_eq_false]
      intro s hs
      simpa using h s (List.mem_of_getLast? hs)
    rw [resolve, foldl_resolveSegment h, hlast]
    simp

example : resolve ["b", "a", "..", "", "k", "."] = ["b", "", "k", ""] := by decide

theorem isSegment_of_mem_path (h : s ∈ path address) : IsSegment s :=
  isSegment_of_mem_segments (List.mem_of_mem_drop h)

/-- An address is sent with the path that is written unless there is something to resolve. -/
theorem sentPath_eq_pathText_iff :
    sentPath address = pathText address ↔ ∀ s ∈ path address, ¬IsDots s := by
  rw [← resolve_eq_self_iff, sentPath, pathText, String.append_right_inj]
  refine ⟨fun h => ?_, congrArg _⟩
  have hresolved : ∀ s ∈ resolve (path address), IsSegment s := fun s hs => by
    rcases mem_resolve hs with rfl | ⟨hs, -⟩
    · decide
    · exact isSegment_of_mem_path hs
  by_cases hpath : path address = []
  · rw [hpath]
    rfl
  · have hcut := congrArg segments h
    rw [segments_joinTexts hpath fun _ => isSegment_of_mem_path] at hcut
    by_cases hempty : resolve (path address) = []
    · -- Then the path is one empty segment, and that would have been kept.
      rw [hempty] at hcut
      have hself : path address = [""] := hcut.symm
      rw [hself] at hempty
      cases hempty
    · rwa [segments_joinTexts hempty hresolved] at hcut

/-! #### Endpoints -/

/-- The authority of an address: not empty, and without an empty port, which would stand for the
default one. -/
structure IsAuthority (host : String) : Prop where
  ne_empty : host ≠ ""
  isSegment : IsSegment host
  isOpen : IsOpen host
  port : host.toList.getLast? ≠ some ':'

/-- What may stand behind an authority: nothing, or a path that begins with a slash. -/
structure IsRooted (path : String) : Prop where
  lead : path = "" ∨ ∃ names, path = "/" ++ names
  isOpen : IsOpen path

/-- Without the slashes at its end, a path still begins with a slash unless nothing is left. -/
theorem IsRooted.trimmed (h : IsRooted base) : IsRooted (trimSlashes base) := by
  have hfront := trimSlashes_prefix base
  refine ⟨?_, fun c hc => h.isOpen c (hfront.subset hc)⟩
  rcases h.lead with rfl | ⟨names, rfl⟩
  · exact .inl rfl
  · cases hchars : (trimSlashes ("/" ++ names)).toList with
    | nil => exact .inl (String.toList_injective hchars)
    | cons c cs =>
      obtain ⟨more, hmore⟩ := hfront
      rw [hchars, String.toList_append, List.cons_append] at hmore
      obtain rfl : c = '/' := (List.cons.inj hmore).1
      refine .inr ⟨String.ofList cs, ?_⟩
      apply String.toList_injective
      simp [hchars]

theorem IsAuthority.parts (h : IsAuthority host) (hscheme : scheme = "http" ∨ scheme = "https")
    (hrest : IsOpen rest) : authority (scheme ++ "://" ++ host ++ ("/" ++ rest)) = host ∧
      path (scheme ++ "://" ++ host ++ ("/" ++ rest)) = segments rest := by
  have hplain : IsSegment scheme ∧ IsOpen scheme := by
    rcases hscheme with rfl | rfl <;> decide
  have horigin : IsOrigin (scheme ++ "://" ++ host) :=
    ⟨scheme, host, rfl, h.ne_empty, hplain, h.isSegment, h.isOpen⟩
  have hopen : IsOpen (scheme ++ "://" ++ host ++ "/" ++ rest) :=
    isOpen_append.2 ⟨isOpen_append.2 ⟨horigin.isOpen, by decide⟩, hrest⟩
  rw [← String.append_assoc]
  constructor
  · rw [authority, untilEnd_of_isOpen hopen, segments_slash, segments_scheme hplain.1,
      segments_of_isSegment h.isSegment]
    rfl
  · rw [horigin.path, untilEnd_of_isOpen hrest]

theorem stripStart?_of_ne {other : String} (hscheme : IsSegment scheme) (hother : IsSegment other)
    (hne : scheme ≠ other) (rest : String) :
    stripStart? (other ++ "://") (scheme ++ "://" ++ rest) = none := by
  rw [Option.eq_none_iff_forall_ne_some]
  intro more hmore
  have hcut := congrArg segments (stripStart?_eq_some.1 hmore)
  rw [segments_scheme hscheme, segments_scheme hother, List.cons.injEq, String.append_left_inj]
    at hcut
  exact hne hcut.1

theorem IsAuthority.stripStart?_eq_none (h : IsAuthority host)
    (hrest : rest = "" ∨ ∃ names, rest = "/" ++ names) (hscheme : IsSegment scheme) :
    stripStart? (scheme ++ "://") (host ++ rest) = none := by
  rw [Option.eq_none_iff_forall_ne_some]
  intro more hmore
  have hfirst : (segments (host ++ rest)).head? = some host := by
    rcases hrest with rfl | ⟨names, rfl⟩
    · rw [String.append_empty, segments_of_isSegment h.isSegment, List.head?_cons]
    · rw [← String.append_assoc, segments_append h.isSegment, List.head?_cons]
  rw [stripStart?_eq_some.1 hmore, segments_scheme hscheme, List.head?_cons, Option.some_inj]
    at hfirst
  refine h.port ?_
  rw [← hfirst, String.toList_append]
  exact List.getLast?_concat

end Address

/-! ### Settings -/

namespace StorageSettings

theorem stripAll_of_none {start s : String} (h : stripStart? start s = none) (n : Nat) :
    stripAll start n s = s := by
  cases n with
  | zero => rfl
  | succ n => rw [stripAll, h]

theorem stripAll_append {start s : String} (h : stripStart? start s = none) {n : Nat}
    (hn : 0 < n) : stripAll start n (start ++ s) = s := by
  cases n with
  | zero => exact absurd hn (Nat.lt_irrefl 0)
  | succ n =>
    rw [stripAll, stripStart?_eq_some.2 rfl]
    exact stripAll_of_none h n

/-- Either scheme is taken off, and nothing behind it. -/
theorem stripAll_schemes {scheme tail : String} (hscheme : scheme = "http" ∨ scheme = "https")
    (htail : ∀ other, IsSegment other → stripStart? (other ++ "://") tail = none) {n : Nat}
    (hn : 0 < n) :
    stripAll "http://" n (stripAll "https://" n (scheme ++ "://" ++ tail)) = tail := by
  have hplain : stripStart? "http://" tail = none := htail "http" (by decide)
  have hsecure : stripStart? "https://" tail = none := htail "https" (by decide)
  rcases hscheme with rfl | rfl
  · have hother : stripStart? ("https" ++ "://") ("http" ++ "://" ++ tail) = none :=
      Address.stripStart?_of_ne (by decide) (by decide) (by decide) tail
    have hfirst : stripAll "https://" n ("http" ++ "://" ++ tail) = "http" ++ "://" ++ tail :=
      stripAll_of_none hother n
    rw [hfirst]
    exact stripAll_append hplain hn
  · have hfirst : stripAll "https://" n ("https" ++ "://" ++ tail) = tail :=
      stripAll_append hsecure hn
    rw [hfirst, stripAll_of_none hplain]

/-- A store is reached at an endpoint `http(s)://authority` or `http(s)://authority/path`, where the
path may consist of slashes or end in slashes. -/
structure ReachedAt (s : StorageSettings) (host path : String) : Prop where
  endpoint : ∃ scheme, (scheme = "http" ∨ scheme = "https") ∧
    s.endpoint = scheme ++ "://" ++ host ++ path
  isAuthority : Address.IsAuthority host
  isRooted : Address.IsRooted path

variable {s : StorageSettings} {host path key : String}

theorem isOpen_objectPath (s : StorageSettings) (key : String) :
    Address.IsOpen (s.objectPath key) := by
  rw [objectPath_eq, Address.isOpen_append]
  exact ⟨by decide, Address.isOpen_joinTexts <| List.forall_mem_map.2 fun part _ =>
    Percent.isOpen_encode part⟩

/-- **What is signed as the host is all that stands behind the scheme, less the slashes at the
end.** -/
theorem ReachedAt.host_eq (h : s.ReachedAt host path) : s.host = host ++ trimSlashes path := by
  obtain ⟨⟨scheme, hscheme, hendpoint⟩, hauthority, hrooted⟩ := h
  rw [String.append_assoc] at hendpoint
  have hpos : 0 < s.endpoint.length := by
    have hmark : "://".length = 3 := by decide
    simp only [hendpoint, String.length_append]
    omega
  rw [StorageSettings.host]
  generalize s.endpoint.length = bound at hpos ⊢
  -- What stands behind the scheme begins with an authority, so with no other scheme.
  rw [hendpoint, stripAll_schemes hscheme (fun other hother =>
    hauthority.stripStart?_eq_none hrooted.lead hother) hpos,
    trimSlashes_append hauthority.isSegment.getLast?_ne]

theorem ReachedAt.objectUrl_eq (h : s.ReachedAt host path) (key : String) :
    ∃ scheme, (scheme = "http" ∨ scheme = "https") ∧
      s.objectUrl key = scheme ++ "://" ++ host ++ (trimSlashes path ++ s.objectPath key) := by
  obtain ⟨⟨scheme, hscheme, hendpoint⟩, hauthority, hrooted⟩ := h
  have hlast := getLast?_append_ne (s := scheme ++ "://") hauthority.ne_empty
    hauthority.isSegment.getLast?_ne
  refine ⟨scheme, hscheme, ?_⟩
  rw [objectUrl, hendpoint, trimSlashes_append hlast, String.append_assoc]

theorem ReachedAt.objectUrl_parts (h : s.ReachedAt host path) (key : String) :
    Address.authority (s.objectUrl key) = host ∧
      Address.pathText (s.objectUrl key) = trimSlashes path ++ s.objectPath key := by
  obtain ⟨scheme, hscheme, hurl⟩ := h.objectUrl_eq key
  have hbase := h.isRooted.trimmed
  obtain ⟨rest, hrest⟩ : ∃ rest, trimSlashes path ++ s.objectPath key = "/" ++ rest := by
    rcases hbase.lead with hempty | ⟨names, hnames⟩
    · exact ⟨_, by rw [hempty, String.empty_append, objectPath_eq]⟩
    · exact ⟨names ++ s.objectPath key, by rw [hnames, String.append_assoc]⟩
  have hopen : Address.IsOpen ("/" ++ rest) :=
    hrest ▸ Address.isOpen_append.2 ⟨hbase.isOpen, s.isOpen_objectPath key⟩
  obtain ⟨hauthority, hpath⟩ :=
    h.isAuthority.parts hscheme (Address.isOpen_append.1 hopen).2
  rw [hurl, hrest, Address.pathText, hauthority, hpath, joinTexts_segments]
  exact ⟨rfl, rfl⟩

/-- At an origin the path of a request consists of the escaped bucket and the segments of the
key. -/
theorem ReachedAt.path_objectUrl (h : s.ReachedAt host path) (hpath : trimSlashes path = "")
    (key : String) :
    Address.path (s.objectUrl key) = (s.bucket :: segments key).map Percent.encode := by
  obtain ⟨scheme, hscheme, hurl⟩ := h.objectUrl_eq key
  have hopen := s.isOpen_objectPath key
  rw [objectPath_eq, Address.isOpen_append] at hopen
  rw [hurl, hpath, String.empty_append, objectPath_eq, (h.isAuthority.parts hscheme hopen.2).2]
  exact segments_joinTexts (by simp) (List.forall_mem_map.2 fun _ _ => Percent.isSegment_encode _)

end StorageSettings

theorem Percent.isDots_encode_iff {s : String} :
    Address.IsDots (Percent.encode s) ↔ Address.IsDots s := by
  rw [Address.IsDots, Address.IsDots, encode_eq_iff encode_dot, encode_eq_iff encode_dots]

/-! ### Requests -/

/-- What a server takes to be signed in a request that it has received: the host that is sent for
the address, and the path as it arrives.  A network may send an authority otherwise than it is
written, such as in small letters or without the default port of the scheme (`sentHost`). -/
def Signature.Input.ofRequest (sentHost : String → String) (request : Http.Request)
    (region keyId key : String) : Signature.Input where
  method := request.method.name
  host := sentHost request.url
  path := Address.sentPath request.url
  payloadHash := Sha256.hexDigest request.body
  region
  keyId
  key

/-- Of what is signed only the host and the path may differ from what arrives. -/
theorem StorageClient.signatureInput_eq_iff {client : StorageClient} (sentHost : String → String)
    (now : Moment) (method : Http.Method) (key : String) (headers : List (String × String))
    (body : Bytes) :
    client.signatureInput method key (Sha256.hexDigest body) =
        .ofRequest sentHost (client.signed now method key headers body) client.settings.region
          client.keyId client.key ↔
      client.settings.host = sentHost (client.settings.objectUrl key) ∧
      client.settings.objectPath key = Address.sentPath (client.settings.objectUrl key) := by
  simp only [signatureInput, Signature.Input.ofRequest, signed, Signature.Input.mk.injEq, true_and,
    and_true]

/-- **What is signed is what is sent exactly if the endpoint is an origin and nothing is resolved.**
The authority of a request's address is that of the endpoint; what is signed as the host is the
authority and behind it the path of the endpoint, less the slashes at its end.  The path of the
address is this path of the endpoint and behind it what is signed as the path.  So either agrees
exactly if the path of the endpoint consists of slashes.  The path that arrives is the one that is
written unless a segment of the bucket or the key is `.` or `..`; the host that arrives is only
spoken of where the authority of the address is sent as it is written. -/
theorem StorageClient.signed_covers {client : StorageClient} {host path : String}
    (h : client.settings.ReachedAt host path) (now : Moment) (method : Http.Method) (key : String)
    (headers : List (String × String)) (body : Bytes) :
    let request := client.signed now method key headers body
    let input := client.signatureInput method key (Sha256.hexDigest body)
    let base := trimSlashes path
    ("Authorization", Signature.authorization input now) ∈ request.headers ∧
    (Address.authority request.url = host ∧ input.host = host ++ base) ∧
    Address.pathText request.url = base ++ input.path ∧
    (input.host = Address.authority request.url ↔ base = "") ∧
    (input.path = Address.pathText request.url ↔ base = "") ∧
    ∀ sentHost : String → String, sentHost request.url = Address.authority request.url →
      (input = .ofRequest sentHost request client.settings.region client.keyId client.key ↔
        base = "" ∧ ∀ part ∈ client.settings.bucket :: segments key, ¬Address.IsDots part) := by
  intro request input base
  obtain ⟨hauthority, hpath⟩ := h.objectUrl_parts key
  have hhost : input.host = host ++ base := h.host_eq
  have hsame : input.host = Address.authority request.url ↔ base = "" := by
    rw [hhost]
    exact hauthority.symm ▸ String.append_eq_left_iff
  have hwritten : input.path = Address.pathText request.url ↔ base = "" := by
    constructor
    · intro heq
      have hwhole : "" ++ input.path = base ++ input.path :=
        String.empty_append.trans (heq.trans hpath)
      exact (String.append_left_inj _).1 hwhole.symm
    · intro hbase
      calc input.path = base ++ input.path := by rw [hbase, String.empty_append]
        _ = Address.pathText request.url := hpath.symm
  refine ⟨List.mem_cons_self, ⟨hauthority, hhost⟩, hpath, hsame, hwritten, fun sentHost hsent => ?_⟩
  have hsentHost : input.host = sentHost request.url ↔ base = "" := by rw [hsent, hsame]
  rw [signatureInput_eq_iff]
  refine (and_congr_left' hsentHost).trans (and_congr_right fun hbase => ?_)
  -- At an origin the path is signed as it is written; it arrives so if nothing is resolved.
  have hpaths : client.settings.objectPath key = Address.pathText request.url := hwritten.2 hbase
  rw [hpaths, eq_comm]
  refine Address.sentPath_eq_pathText_iff.trans ?_
  rw [h.path_objectUrl hbase key, List.forall_mem_map]
  simp only [Percent.isDots_encode_iff]

/-- The authority of an address in small letters. -/
def Address.plainHost (address : String) : String := asciiLower (authority address)

/-- A configuration with an endpoint that has a path. -/
def basedText : String := "[registry]\ngraphql_url = \"https://registry.test/v1/graphql\"\n" ++
  "[storage]\nbucket = \"packages\"\nendpoint = \"https://storage.test/base/\"\n" ++
  "[images]\ncloud_name = \"acme\"\n"

/-- The configuration is accepted, and the signatures are made for another host and another path
than the requests are sent to. -/
theorem basedEndpoint_uncovered : ∃ config, Config.parse "/tmp" basedText = .ok config ∧
    ∀ (now : Moment) (content : Bytes),
      let client : StorageClient := ⟨config.storage, "id", "key"⟩
      let request := client.putRequest now "k" content
      let input := client.signatureInput .put "k" (Sha256.hexDigest content)
      ("Authorization", Signature.authorization input now) ∈ request.headers ∧
      (input.host = "storage.test/base" ∧ Address.authority request.url = "storage.test") ∧
      (input.path = "/packages/k" ∧ Address.pathText request.url = "/base/packages/k") ∧
      input ≠ .ofRequest Address.plainHost request "auto" "id" "key" := by
  have hread : (Config.parse "/tmp" basedText).toOption.map Config.storage =
      some ⟨"packages", "https://storage.test/base/", "auto", none⟩ := by decide +kernel
  obtain ⟨config, hparse, hstorage⟩ := Option.map_eq_some_iff.1 hread
  refine ⟨config, Except.toOption_eq_some.1 hparse, fun now content => ?_⟩
  intro client request input
  have hreached : client.settings.ReachedAt "storage.test" "/base/" := by
    refine ⟨⟨"https", .inr rfl, ?_⟩, ?_, ?_⟩
    · exact (congrArg StorageSettings.endpoint hstorage).trans (by decide)
    · exact ⟨by decide, by decide, by decide, by decide⟩
    · exact ⟨.inr ⟨"base/", by decide⟩, by decide⟩
  obtain ⟨hheader, ⟨hauthority, hhost⟩, hpath, -, -, hsame⟩ :=
    StorageClient.signed_covers hreached now .put "k" [("Content-Type", "application/gzip")] content
  have hregion : client.settings.region = "auto" := congrArg StorageSettings.region hstorage
  rw [hregion] at hsame
  have hobject : input.path = "/packages/k" :=
    (congrArg (StorageSettings.objectPath · "k") hstorage).trans (by decide +kernel)
  have hbase : trimSlashes "/base/" = "/base" := by decide
  rw [hbase] at hhost hpath hsame
  have hlower : asciiLower "storage.test" = "storage.test" := by decide
  have hsent : Address.plainHost request.url = Address.authority request.url :=
    (congrArg asciiLower hauthority).trans (hlower.trans hauthority.symm)
  refine ⟨hheader, ⟨hhost.trans (by decide), hauthority⟩, ⟨hobject, ?_⟩, fun heq => ?_⟩
  · exact (hpath.trans (congrArg ("/base" ++ ·) hobject)).trans (by decide)
  · exact absurd ((hsame Address.plainHost hsent).1 heq).1 (by decide)

end ConnectorCatalog
