import ConnectorCatalog.Proofs.Archive.Fetch
import ConnectorCatalog.Proofs.Files.Clean
import ConnectorCatalog.Proofs.Storage.Address

/-!
# The paths of requests to the object store

The path of an object in requests is written with slashes, characters that stand for themselves, and
escapes of bytes (`IsPathText`).  Its segments are read back as the bucket and the segments of the
key, so **different objects have different paths, and no request for the package of one release
concerns that of another** (`StorageSettings.objectPath_faithful`).
-/

namespace ConnectorCatalog

open Text

/-! ### What a path is written with -/

/-- A character that stands for itself in addresses. -/
def IsUnreserved (c : Char) : Prop := c.isAlphanum = true ∨ c ∈ ['-', '_', '.', '~']

/-- A digit of an escape. -/
def IsEscapeDigit (c : Char) : Prop := c.isDigit = true ∨ c ∈ ['A', 'B', 'C', 'D', 'E', 'F']

instance {c : Char} : Decidable (IsUnreserved c) := inferInstanceAs (Decidable (_ ∨ _))

instance {c : Char} : Decidable (IsEscapeDigit c) := inferInstanceAs (Decidable (_ ∨ _))

/-- Slashes, characters that stand for themselves, and escapes of one byte each. -/
inductive IsPathText : List Char → Prop where
  | nil : IsPathText []
  | slash {rest : List Char} : IsPathText rest → IsPathText ('/' :: rest)
  | plain {c : Char} {rest : List Char} : IsUnreserved c → IsPathText rest → IsPathText (c :: rest)
  | escape {high low : Char} {rest : List Char} : IsEscapeDigit high → IsEscapeDigit low →
      IsPathText rest → IsPathText ('%' :: high :: low :: rest)

theorem IsPathText.append {cs ds : List Char} (h : IsPathText cs) (h' : IsPathText ds) :
    IsPathText (cs ++ ds) := by
  induction h with
  | nil => exact h'
  | slash _ ih => exact ih.slash
  | plain hc _ ih => exact ih.plain hc
  | escape hhigh hlow _ ih => exact ih.escape hhigh hlow

theorem isPathText_joinTexts {parts : List String} (h : ∀ s ∈ parts, IsPathText s.toList) :
    IsPathText (joinTexts "/" parts).toList := by
  induction parts with
  | nil => exact .nil
  | cons s rest ih =>
    obtain ⟨hs, hrest⟩ := List.forall_mem_cons.1 h
    cases rest with
    | nil => exact hs
    | cons t rest =>
      rw [joinTexts, String.toList_append, String.toList_append]
      exact (hs.append (.slash .nil)).append (ih hrest)

namespace Percent

theorem isUnreserved_ofNat : ∀ n < 256, isUnreserved (UInt8.ofNat n) = true →
    IsUnreserved (Char.ofNat n) := by
  decide +kernel

theorem isEscapeDigit_upperDigit : ∀ n < 16, IsEscapeDigit (upperDigit n) := by decide

theorem isPathText_encodeByte (b : UInt8) : IsPathText (encodeByte b) := by
  have hlt : b.toNat < 256 := b.toNat_lt
  unfold encodeByte
  split
  · rename_i hplain
    rw [← UInt8.ofNat_toNat (x := b)] at hplain
    exact .plain (isUnreserved_ofNat b.toNat hlt hplain) .nil
  · exact .escape (isEscapeDigit_upperDigit _ (by omega))
      (isEscapeDigit_upperDigit _ (by omega)) .nil

theorem isPathText_encode (s : String) : IsPathText (encode s).toList := by
  rw [encode, String.toList_ofList, encodeBytes]
  induction utf8 s with
  | nil => exact .nil
  | cons b bytes ih =>
    rw [List.flatMap_cons]
    exact (isPathText_encodeByte b).append ih

theorem encode_inj {s t : String} : encode s = encode t ↔ s = t := by
  refine ⟨fun h => ?_, congrArg encode⟩
  rw [← Option.some_inj, ← decode?_encode s, ← decode?_encode t, h]

theorem encode_empty : encode "" = "" := by decide +kernel

theorem encode_dot : encode "." = "." := by decide +kernel

theorem encode_dots : encode ".." = ".." := by decide +kernel

/-- Only a text itself is escaped as a text that needs no escape. -/
theorem encode_eq_iff {s t : String} (ht : encode t = t) : encode s = t ↔ s = t := by
  rw [← encode_inj (s := s), ht]

/-- Nothing that is escaped turns into a detour. -/
theorem isDetour_encode_iff {s : String} : Path.IsDetour (encode s) ↔ Path.IsDetour s := by
  rw [Path.IsDetour, Path.IsDetour, encode_eq_iff encode_empty, encode_eq_iff encode_dot,
    encode_eq_iff encode_dots]

theorem mapM_decode?_encode (parts : List String) :
    (parts.map encode).mapM decode? = some parts := by
  rw [Option.mapM_eq_some, List.forall₂_map_left_iff]
  exact List.forall₂_same.2 fun s _ => decode?_encode s

end Percent

/-! ### Paths and requests -/

namespace StorageSettings

variable {s t : StorageSettings} {key other : String}

/-- A path is cut into the escaped bucket, as one segment, and the escaped segments of the key. -/
theorem segments_objectPath (s : StorageSettings) (key : String) : segments (s.objectPath key) =
    ("" :: s.bucket :: segments key).map Percent.encode := by
  have hparts : ∀ part ∈ (s.bucket :: segments key).map Percent.encode, IsSegment part :=
    List.forall_mem_map.2 fun part _ => Percent.isSegment_encode part
  have hpath : s.objectPath key = "" ++ "/" ++
      joinTexts "/" ((s.bucket :: segments key).map Percent.encode) := by
    rw [objectPath_eq, String.empty_append]
  rw [hpath, segments_append (by decide), segments_joinTexts (by simp) hparts,
    List.map_cons (a := ""), Percent.encode_empty]

/-- **The bucket and the segments of the key are read back from a path.** -/
theorem decode?_objectPath (s : StorageSettings) (key : String) :
    (segments (s.objectPath key)).mapM Percent.decode? = some ("" :: s.bucket :: segments key) := by
  rw [segments_objectPath, Percent.mapM_decode?_encode]

/-- **Different objects have different paths.** -/
theorem objectPath_eq_iff :
    s.objectPath key = t.objectPath other ↔ s.bucket = t.bucket ∧ key = other := by
  constructor
  · intro h
    have hread : some ("" :: s.bucket :: segments key) =
        some ("" :: t.bucket :: segments other) := by
      rw [← decode?_objectPath, ← decode?_objectPath, h]
    simp only [Option.some_inj, List.cons.injEq, true_and] at hread
    exact ⟨hread.1, segments_injective hread.2⟩
  · rintro ⟨hbucket, rfl⟩
    rw [objectPath, objectPath, hbucket]

theorem objectUrl_eq_iff : s.objectUrl key = s.objectUrl other ↔ key = other := by
  rw [objectUrl, objectUrl, String.append_right_inj, objectPath_eq_iff, and_iff_right rfl]

theorem isPathText_objectPath (s : StorageSettings) (key : String) :
    IsPathText (s.objectPath key).toList := by
  have hparts : ∀ part ∈ (s.bucket :: segments key).map Percent.encode, IsPathText part.toList :=
    List.forall_mem_map.2 fun part _ => Percent.isPathText_encode part
  rw [objectPath_eq, String.toList_append]
  exact (IsPathText.slash .nil).append (isPathText_joinTexts hparts)

end StorageSettings

/-- A request that stores or deletes the object with a key. -/
inductive StorageClient.Asks (client : StorageClient) (key : String) : Http.Request → Prop where
  | put (now : Moment) (content : Bytes) : Asks client key (client.putRequest now key content)
  | delete (now : Moment) : Asks client key (client.deleteRequest now key)

theorem StorageClient.Asks.url_eq {client : StorageClient} {key : String} {request : Http.Request}
    (h : client.Asks key request) : request.url = client.settings.objectUrl key := by
  cases h <;> rfl

namespace ReleaseId

variable {r : ReleaseId}

theorem isPlain_of_parts (h : ∀ part ∈ Archive.parts r, Path.isPlainName part = true) :
    r.IsPlain where
  ns := Path.isSegment_of_isPlainName (h _ (by simp [Archive.parts]))
  name := Path.isSegment_of_isPlainName (h _ (by simp [Archive.parts]))
  version := Path.isSegment_of_isPlainName (h _ (by simp [Archive.parts]))

theorem isPlainName_packageKey (h : ∀ part ∈ Archive.parts r, Path.isPlainName part = true) :
    ∀ part ∈ segments r.packageKey, Path.isPlainName part = true := by
  have hfirst : Path.isPlainName "packages" = true := by decide
  have hlast : Path.isPlainName "package.tgz" = true := by decide
  rw [segments_packageKey (isPlain_of_parts h)]
  simp only [Archive.parts, List.forall_mem_cons] at h ⊢
  exact ⟨hfirst, h.1, h.2.1, h.2.2.1, hlast, h.2.2.2⟩

end ReleaseId

/-- **The path of an object tells which object it is.**  It is written with slashes, characters that
stand for themselves and escapes of bytes.  Its segments are read back as nothing, the bucket and
the segments of the key; so different objects have different paths, and requests of one client go to
one address exactly if they concern one object.  For the package of a release whose parts are plain
names no segment behind the bucket is a detour, and that of another such release has another path.
-/
theorem StorageSettings.objectPath_faithful (s : StorageSettings) (key : String) :
    IsPathText (s.objectPath key).toList ∧
    (segments (s.objectPath key)).mapM Percent.decode? = some ("" :: s.bucket :: segments key) ∧
    (∀ (t : StorageSettings) (other : String),
      s.objectPath key = t.objectPath other ↔ s.bucket = t.bucket ∧ key = other) ∧
    (∀ (client : StorageClient) (other : String) (request request' : Http.Request),
      client.settings = s → client.Asks key request → client.Asks other request' →
      (request.url = request'.url ↔ key = other)) ∧
    ∀ r : ReleaseId, key = r.packageKey →
      (∀ part ∈ Archive.parts r, Path.isPlainName part = true) →
      (∀ part ∈ (segments (s.objectPath key)).drop 2, ¬Path.IsDetour part) ∧
      ∀ r' : ReleaseId, (∀ part ∈ Archive.parts r', Path.isPlainName part = true) →
        (s.objectPath key = s.objectPath r'.packageKey ↔ r = r') := by
  refine ⟨s.isPathText_objectPath key, s.decode?_objectPath key, fun t other => objectPath_eq_iff,
    ?_, ?_⟩
  · rintro client other request request' - hrequest hrequest'
    rw [hrequest.url_eq, hrequest'.url_eq, objectUrl_eq_iff]
  · rintro r rfl hparts
    refine ⟨fun part hpart => ?_, fun r' hparts' => ?_⟩
    · rw [segments_objectPath, List.map_cons, List.map_cons, List.drop_succ_cons,
        List.drop_succ_cons, List.drop_zero] at hpart
      obtain ⟨name, hname, rfl⟩ := List.mem_map.1 hpart
      rw [Percent.isDetour_encode_iff]
      exact Path.not_isDetour_of_isPlainName (ReleaseId.isPlainName_packageKey hparts name hname)
    · rw [objectPath_eq_iff, and_iff_right rfl]
      constructor
      · exact ReleaseId.packageKey_injective (ReleaseId.isPlain_of_parts hparts)
          (ReleaseId.isPlain_of_parts hparts')
      · exact congrArg ReleaseId.packageKey

-- Not even the escape of a dot makes a detour: it is escaped again.
example : (⟨"b/c", "https://storage.test", "auto", none⟩ : StorageSettings).objectPath "%2e/ä" =
    "/b%2Fc/%252e/%C3%A4" := by decide +kernel

end ConnectorCatalog
