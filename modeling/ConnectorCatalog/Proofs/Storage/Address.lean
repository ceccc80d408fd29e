import Mathlib.Data.List.TakeWhile
import ConnectorCatalog.Proofs.Encoding.Percent
import ConnectorCatalog.Proofs.Except
import ConnectorCatalog.Proofs.Text.Segment
import ConnectorCatalog.Storage.Client

/-!
# The objects that addresses name

An address `scheme://authority/bucket/key` names an object of a store: its path ends at the first
`?` or `#`, and of the segments of the path, each percent decoded, the first is the bucket and the
others are the key (`objectAt?`).

Requests go to addresses that name their objects, whatever these are called
(`objectAt?_objectUrl`).  The address under which an object is said to be found is not escaped; so it
names the object only if nothing in it needs to be (`objectAt?_publicUrl_iff`).
-/

namespace ConnectorCatalog

open Text

/-! ### Reading addresses -/

namespace Address

/-- Whether a character ends the path of an address. -/
def endsPath (c : Char) : Bool := c == '?' || c == '#'

/-- A text up to the character that ends a path. -/
def untilEnd (s : String) : String := String.ofList (s.toList.takeWhile (!endsPath ·))

/-- The segments of the path of an address `scheme://authority/path`. -/
def path (address : String) : List String := (segments (untilEnd address)).drop 3

/-- A text in which no character ends a path. -/
def IsOpen (s : String) : Prop := ∀ c ∈ s.toList, endsPath c = false

/-- A text that stands for itself in a path: no character ends the path or begins an escape. -/
def IsLiteral (s : String) : Prop := IsOpen s ∧ '%' ∉ s.toList

/-- A text of the form `scheme://authority`. -/
def IsOrigin (origin : String) : Prop :=
  ∃ scheme authority, origin = scheme ++ "://" ++ authority ∧ authority ≠ "" ∧
    (IsSegment scheme ∧ IsOpen scheme) ∧ IsSegment authority ∧ IsOpen authority

end Address

/-- The bucket and the key of the object that an address names, if it names one. -/
def objectAt? (address : String) : Option (String × String) :=
  match (Address.path address).mapM Percent.decode? with
  | some (bucket :: name :: names) => some (bucket, joinTexts "/" (name :: names))
  | _ => none

namespace Address

variable {s t rest origin : String}

instance (s : String) : Decidable (IsOpen s) :=
  List.decidableBAll (fun c => endsPath c = false) s.toList

instance (s : String) : Decidable (IsLiteral s) := inferInstanceAs (Decidable (_ ∧ _))

theorem isOpen_append : IsOpen (s ++ t) ↔ IsOpen s ∧ IsOpen t := by
  simp only [IsOpen, String.toList_append, List.forall_mem_append]

theorem isLiteral_append : IsLiteral (s ++ t) ↔ IsLiteral s ∧ IsLiteral t := by
  simp only [IsLiteral, isOpen_append, String.toList_append, List.mem_append, not_or]
  exact and_and_and_comm

theorem isOpen_joinTexts {parts : List String} (h : ∀ s ∈ parts, IsOpen s) :
    IsOpen (joinTexts "/" parts) := by
  intro c hc
  rcases mem_joinTexts hc with rfl | ⟨s, hs, hc⟩
  · decide
  · exact h s hs c hc

theorem untilEnd_append (h : IsOpen s) : untilEnd (s ++ t) = s ++ untilEnd t := by
  apply String.toList_injective
  rw [untilEnd, untilEnd, String.toList_append, String.toList_append, String.toList_ofList,
    String.toList_ofList, List.takeWhile_append_of_pos fun c hc => by rw [h c hc]; rfl]

theorem untilEnd_of_isOpen (h : IsOpen s) : untilEnd s = s := by
  have hwhole : s.toList.takeWhile (!endsPath ·) = s.toList :=
    List.takeWhile_eq_self_iff.2 fun c hc => by rw [h c hc]; rfl
  rw [untilEnd, hwhole, String.ofList_toList]

/-- Only the whole of a text is as long as the text. -/
theorem isOpen_of_size_untilEnd (h : s.utf8ByteSize ≤ (untilEnd s).utf8ByteSize) : IsOpen s := by
  have hsplit : untilEnd s ++ String.ofList (s.toList.dropWhile (!endsPath ·)) = s := by
    apply String.toList_injective
    rw [untilEnd, String.toList_append, String.toList_ofList, String.toList_ofList,
      List.takeWhile_append_dropWhile]
  have hsize := congrArg String.utf8ByteSize hsplit
  rw [String.utf8ByteSize_append] at hsize
  have hrest : String.ofList (s.toList.dropWhile (!endsPath ·)) = "" :=
    String.utf8ByteSize_eq_zero_iff.1 (by omega)
  have hdrop : s.toList.dropWhile (!endsPath ·) = [] := by
    simpa using congrArg String.toList hrest
  intro c hc
  simpa using List.dropWhile_eq_nil_iff.1 hdrop c hc

theorem segments_scheme {scheme : String} (h : IsSegment scheme) (rest : String) :
    Text.segments (scheme ++ "://" ++ rest) = (scheme ++ ":") :: "" :: Text.segments rest := by
  have hcolon : IsSegment (scheme ++ ":") := by
    simpa [IsSegment] using h
  have hsplit : scheme ++ "://" ++ rest = scheme ++ ":" ++ "/" ++ ("" ++ "/" ++ rest) := by
    have hmark : "://" = ":" ++ ("/" ++ ("" ++ "/")) := by decide
    rw [hmark]
    simp only [String.append_assoc]
  rw [hsplit, segments_append hcolon, segments_append (by decide)]

theorem IsOrigin.segments (h : IsOrigin origin) : ∃ scheme authority,
    Text.segments origin = [scheme, "", authority] := by
  obtain ⟨scheme, authority, rfl, -, ⟨hscheme, -⟩, hauthority, -⟩ := h
  refine ⟨scheme ++ ":", authority, ?_⟩
  rw [segments_scheme hscheme, segments_of_isSegment hauthority]

theorem IsOrigin.isOpen (h : IsOrigin origin) : IsOpen origin := by
  obtain ⟨scheme, authority, rfl, -, ⟨-, hscheme⟩, -, hauthority⟩ := h
  exact isOpen_append.2 ⟨isOpen_append.2 ⟨hscheme, by decide⟩, hauthority⟩

theorem IsOrigin.path (h : IsOrigin origin) (rest : String) :
    path (origin ++ "/" ++ rest) = Text.segments (untilEnd rest) := by
  obtain ⟨scheme, authority, hsegments⟩ := h.segments
  rw [Address.path, String.append_assoc, untilEnd_append h.isOpen,
    untilEnd_append (s := "/") (by decide), ← String.append_assoc, segments_slash, hsegments]
  rfl

end Address

/-! ### Texts in paths -/

namespace Percent

theorem size_joinTexts {parts decoded : List String}
    (h : List.Forall₂ (fun s t => decode? s = some t) parts decoded) :
    (joinTexts "/" decoded).utf8ByteSize + 2 * (joinTexts "/" parts).toList.count '%' =
      (joinTexts "/" parts).utf8ByteSize := by
  induction h with
  | nil => rfl
  | @cons s t parts decoded hs hrest ih =>
    have hsize := size_of_decode? hs
    cases hrest with
    | nil => exact hsize
    | cons hnext hrest =>
      simp only [joinTexts, String.utf8ByteSize_append, String.toList_append,
        List.count_append] at ih ⊢
      have hslash : "/".toList.count '%' = 0 := by decide
      omega

/-- Segments of a text without `%` are read as themselves. -/
theorem forall₂_decode?_iff {s : String} {decoded : List String} (h : '%' ∉ s.toList) :
    List.Forall₂ (fun s t => decode? s = some t) (segments s) decoded ↔ segments s = decoded := by
  have hself : List.Forall₂ (fun s t => decode? s = some t) (segments s) (segments s) :=
    List.forall₂_same.2 fun part hpart =>
      decode?_eq_self_iff.2 fun hmem => h (mem_of_mem_segments hpart hmem)
  rw [← Option.mapM_eq_some] at hself ⊢
  rw [hself, Option.some_inj]

theorem isOpen_encode (s : String) : Address.IsOpen (encode s) := by
  intro c hc
  obtain ⟨-, hquery, hfragment⟩ := mem_encode hc
  simp [Address.endsPath, hquery, hfragment]

theorem isSegment_encode (s : String) : IsSegment (encode s) := fun h => (mem_encode h).1 rfl

end Percent

/-! ### Objects -/

section

variable {origin bucket key : String}

open Address

/-- What stands behind an origin names an object by its segments. -/
theorem objectAt?_eq_some (horigin : IsOrigin origin) {rest : String} :
    objectAt? (origin ++ "/" ++ rest) = some (bucket, key) ↔ ∃ names, names ≠ [] ∧
      joinTexts "/" names = key ∧
      List.Forall₂ (fun s t => Percent.decode? s = some t) (segments (untilEnd rest))
        (bucket :: names) := by
  simp only [objectAt?, horigin.path rest, ← Option.mapM_eq_some]
  constructor
  · intro h
    split at h
    · rename_i first name names hread
      cases h
      exact ⟨name :: names, List.cons_ne_nil _ _, rfl, hread⟩
    · cases h
  · rintro ⟨names, hne, rfl, hread⟩
    obtain ⟨name, names, rfl⟩ := List.exists_cons_of_ne_nil hne
    rw [hread]

/-- **An escaped bucket and key name their object.** -/
theorem objectAt?_encode (horigin : IsOrigin origin) (bucket key : String) :
    objectAt? (origin ++ "/" ++ joinTexts "/" ((bucket :: segments key).map Percent.encode)) =
      some (bucket, key) := by
  have hsegment : ∀ s ∈ (bucket :: segments key).map Percent.encode, IsSegment s :=
    List.forall_mem_map.2 fun t _ => Percent.isSegment_encode t
  have hopen : ∀ s ∈ (bucket :: segments key).map Percent.encode, IsOpen s :=
    List.forall_mem_map.2 fun t _ => Percent.isOpen_encode t
  refine (objectAt?_eq_some horigin).2
    ⟨segments key, segments_ne_nil key, joinTexts_segments key, ?_⟩
  rw [untilEnd_of_isOpen (isOpen_joinTexts hopen), segments_joinTexts (by simp) hsegment,
    List.forall₂_map_left_iff]
  exact List.forall₂_same.2 fun s _ => Percent.decode?_encode s

/-- **A bucket and a key that are not escaped name their object only if nothing in them needs to
be.** -/
theorem objectAt?_eq_some_iff (horigin : IsOrigin origin) :
    objectAt? (origin ++ "/" ++ (bucket ++ "/" ++ key)) = some (bucket, key) ↔
      IsSegment bucket ∧ IsLiteral bucket ∧ IsLiteral key := by
  rw [objectAt?_eq_some horigin]
  constructor
  · rintro ⟨names, hne, hkey, hread⟩
    obtain ⟨name, names, rfl⟩ := List.exists_cons_of_ne_nil hne
    -- What is read is as long as the whole text, so nothing is cut off and nothing is an escape.
    have hsize := Percent.size_joinTexts hread
    rw [joinTexts_segments, joinTexts, hkey] at hsize
    have hopen : IsOpen (bucket ++ "/" ++ key) := isOpen_of_size_untilEnd (by omega)
    rw [untilEnd_of_isOpen hopen] at hsize hread
    have hpercent : '%' ∉ (bucket ++ "/" ++ key).toList := List.count_eq_zero.1 (by omega)
    have hliteral : IsLiteral (bucket ++ "/" ++ key) := ⟨hopen, hpercent⟩
    rw [isLiteral_append, isLiteral_append] at hliteral
    refine ⟨?_, hliteral.1.1, hliteral.2⟩
    rw [Percent.forall₂_decode?_iff hpercent] at hread
    exact isSegment_of_mem_segments (hread ▸ List.mem_cons_self)
  · rintro ⟨hsegment, hbucket, hkey⟩
    have hliteral : IsLiteral (bucket ++ "/" ++ key) := by
      rw [isLiteral_append, isLiteral_append]
      exact ⟨⟨hbucket, by decide⟩, hkey⟩
    refine ⟨segments key, segments_ne_nil key, joinTexts_segments key, ?_⟩
    rw [untilEnd_of_isOpen hliteral.1, Percent.forall₂_decode?_iff hliteral.2,
      segments_append hsegment]

end

/-! ### Stores -/

theorem trimSlashes_append {s : String} (h : s.toList.getLast? ≠ some '/') (t : String) :
    trimSlashes (s ++ t) = s ++ trimSlashes t := by
  have hself : s.toList.reverse.dropWhile (· == '/') = s.toList.reverse := by
    rw [List.dropWhile_eq_self_iff]
    intro hpos hlast
    refine h ?_
    rw [← List.head?_reverse, List.head?_eq_getElem?, List.getElem?_eq_getElem hpos]
    exact congrArg some (beq_iff_eq.1 hlast)
  apply String.toList_injective
  rw [trimSlashes, trimSlashes, String.toList_ofList, String.toList_append, String.toList_append,
    String.toList_ofList, List.reverse_append, List.dropWhile_append]
  split
  · rename_i hempty
    rw [hself, List.isEmpty_iff.1 hempty, List.reverse_reverse, List.reverse_nil, List.append_nil]
  · rw [List.reverse_append, List.reverse_reverse]

theorem trimSlashes_prefix (s : String) : (trimSlashes s).toList <+: s.toList := by
  rw [trimSlashes, String.toList_ofList, ← List.reverse_suffix, List.reverse_reverse]
  exact List.dropWhile_suffix _

theorem trimSlashes_replicate (n : Nat) :
    trimSlashes (String.ofList (List.replicate n '/')) = "" := by
  have hdrop : (List.replicate n '/').dropWhile (· == '/') = [] :=
    List.dropWhile_eq_nil_iff.2 fun c hc => beq_iff_eq.2 (List.eq_of_mem_replicate hc)
  rw [trimSlashes, String.toList_ofList, List.reverse_replicate, hdrop]
  rfl

namespace StorageSettings

/-- A store is reached at an origin, written with any number of slashes behind it, and its objects
are said to be found there. -/
structure ServedAt (s : StorageSettings) (origin : String) : Prop where
  isOrigin : Address.IsOrigin origin
  endpoint : ∃ n, s.endpoint = origin ++ String.ofList (List.replicate n '/')
  publicBaseUrl : s.publicBaseUrl = none

variable {s : StorageSettings} {origin : String}

theorem ServedAt.trimSlashes_endpoint (h : s.ServedAt origin) :
    trimSlashes s.endpoint = origin := by
  obtain ⟨n, hendpoint⟩ := h.endpoint
  obtain ⟨scheme, authority, rfl, hne, -, hsegment, -⟩ := h.isOrigin
  rw [hendpoint]
  rw [trimSlashes_append (getLast?_append_ne hne hsegment.getLast?_ne), trimSlashes_replicate,
    String.append_empty]

/-- The path of an object consists of the escaped bucket and the escaped segments of the key. -/
theorem objectPath_eq (s : StorageSettings) (key : String) : s.objectPath key =
    "/" ++ joinTexts "/" ((s.bucket :: segments key).map Percent.encode) := by
  have hne : (segments key).map Percent.encode ≠ [] := by simpa using segments_ne_nil key
  rw [objectPath, List.map_cons, joinTexts_cons hne]
  simp only [String.append_assoc]

/-- **Requests go to addresses that name their objects.** -/
theorem ServedAt.objectAt?_objectUrl (h : s.ServedAt origin) (key : String) :
    objectAt? (s.objectUrl key) = some (s.bucket, key) := by
  rw [objectUrl, objectPath_eq, h.trimSlashes_endpoint, ← String.append_assoc]
  exact objectAt?_encode h.isOrigin s.bucket key

/-- **The address that is given for an object names it only if nothing in it needs to be
escaped.** -/
theorem ServedAt.objectAt?_publicUrl_iff (h : s.ServedAt origin) {key : String} :
    objectAt? (s.publicUrl key) = some (s.bucket, key) ↔
      IsSegment s.bucket ∧ Address.IsLiteral s.bucket ∧ Address.IsLiteral key := by
  have hurl : s.publicUrl key = origin ++ "/" ++ (s.bucket ++ "/" ++ key) := by
    rw [publicUrl, effectiveBaseUrl, h.publicBaseUrl, h.trimSlashes_endpoint]
    simp only [String.append_assoc]
  rw [hurl]
  exact objectAt?_eq_some_iff h.isOrigin

end StorageSettings

theorem StorageClient.put_eq_ok {σ : Type} {client : StorageClient} {network : Http.Network σ}
    {now : Moment} {key url : String} {content : Bytes} {world : σ}
    (h : ((client.put network now key content).run world).1 = .ok url) :
    url = client.settings.publicUrl key := by
  unfold put at h
  rw [StateT.run_bind] at h
  generalize (network (client.putRequest now key content)).run world = answered at h
  obtain ⟨received, after⟩ := answered
  cases received with
  | error causes => cases h
  | ok response =>
    have hanswer : client.putAnswer key response = .ok url := h
    unfold putAnswer at hanswer
    split at hanswer
    · exact (Except.ok.inj hanswer).symm
    · cases hanswer

end ConnectorCatalog
