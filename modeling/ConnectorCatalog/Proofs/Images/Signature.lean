import ConnectorCatalog.Images.Client
import ConnectorCatalog.Proofs.Keyed
import ConnectorCatalog.Proofs.Text.ByteOrder

/-!
# Signatures of uploads

The parameters of a form are signed in the order of their names.  If no two of them share a name,
there is one such order (`InNameOrder.eq_of_perm`); so the signature does not tell in which order
they were given (`signParameters_of_perm`).

An upload has parameters of different names, with a folder or without one
(`signParameters_canonical`).
-/

namespace ConnectorCatalog

open Keyed Std Text

variable {parameters sorted : List (String × String)}

/-- Parameters in the strict order of their names, byte by byte. -/
def InNameOrder (parameters : List (String × String)) : Prop :=
  parameters.Pairwise fun p q => compareBytes (utf8 p.1) (utf8 q.1) = .lt

/-- Names and values joined by `=`, parameters by `&`. -/
def parameterLine (parameters : List (String × String)) : String :=
  joinTexts "&" (parameters.map fun p => p.1 ++ "=" ++ p.2)

theorem inNameOrder_iff : InNameOrder parameters ↔ Sorted (byKey compareTexts) parameters := by
  simp only [InNameOrder, compareBytes_utf8]
  exact Iff.rfl

/-- **There is one order by name.** -/
theorem InNameOrder.eq_of_perm (h : InNameOrder parameters) (hsorted : InNameOrder sorted)
    (hperm : parameters.Perm sorted) : parameters = sorted :=
  (inNameOrder_iff.1 h).eq_of_mem_iff (inNameOrder_iff.1 hsorted) fun _ => hperm.mem_iff

theorem inNameOrder_sortBy (h : (parameters.map Prod.fst).Nodup) :
    InNameOrder (sortBy (byKey compareTexts) parameters) :=
  inNameOrder_iff.2 (sorted_sortBy_byKey h)

theorem InNameOrder.nodup (h : InNameOrder parameters) : (parameters.map Prod.fst).Nodup :=
  (inNameOrder_iff.1 h).nodup_map fun p q hname => by
    rw [byKey, hname]
    exact ReflCmp.compare_self

/-- **However they are given, parameters are signed in their order.** -/
theorem signParameters_of_perm (hsorted : InNameOrder sorted) (hperm : parameters.Perm sorted)
    (secret : String) : signParameters parameters secret =
      Sha256.hexDigest (utf8 (parameterLine sorted ++ secret)) := by
  have hnames : (parameters.map Prod.fst).Nodup :=
    (hperm.map Prod.fst).nodup_iff.2 hsorted.nodup
  have horder : sortBy (byKey compareTexts) parameters = sorted :=
    (inNameOrder_sortBy hnames).eq_of_perm hsorted ((List.mergeSort_perm _ _).trans hperm)
  calc signParameters parameters secret
      = Sha256.hexDigest (utf8 (parameterLine (sortBy (byKey compareTexts) parameters)) ++
          utf8 secret) := rfl
    _ = Sha256.hexDigest (utf8 (parameterLine sorted ++ secret)) := by rw [horder, utf8_append]

/-! ### Uploads -/

namespace ImageClient

variable (client : ImageClient) (now : Moment) (publicId : String)

/-- The parameters of an upload in their order. -/
def sortedParameters : List (String × String) :=
  (client.settings.folder.map (("folder", ·))).toList ++
    [("overwrite", "true"), ("public_id", publicId), ("timestamp", toString now.unixSeconds)]

theorem sortedParameters_perm :
    (client.sortedParameters now publicId).Perm (client.parameters now publicId) :=
  List.perm_append_comm

theorem inNameOrder_sortedParameters : InNameOrder (client.sortedParameters now publicId) := by
  have hfirst : compareTexts "folder" "overwrite" = .lt := by decide
  have hsecond : compareTexts "overwrite" "public_id" = .lt := by decide
  have hthird : compareTexts "public_id" "timestamp" = .lt := by decide
  have hlater := TransCmp.lt_trans hsecond hthird
  rw [inNameOrder_iff, sortedParameters]
  cases client.settings.folder with
  | none => simp [Sorted, byKey, hsecond, hthird, hlater]
  | some folder =>
    simp [Sorted, byKey, hfirst, hsecond, hthird, hlater, TransCmp.lt_trans hfirst hsecond,
      TransCmp.lt_trans hfirst hlater]

end ImageClient

/-- **The signature of a form does not depend on the order of its parameters.**  If their names are
different, there is one order by name, and every arrangement of them has the signature that is made
of the parameters in this order, followed by the secret.  The parameters of an upload have different
names; the folder, which is given last, is signed first, and the form carries this signature. -/
theorem signParameters_canonical (hnames : (parameters.map Prod.fst).Nodup) (secret : String) :
    (∃ sorted, sorted.Perm parameters ∧ InNameOrder sorted ∧
      ∀ arranged, arranged.Perm parameters →
        (InNameOrder arranged → arranged = sorted) ∧
        signParameters arranged secret =
          Sha256.hexDigest (utf8 (parameterLine sorted ++ secret))) ∧
    ∀ (client : ImageClient) (now : Moment) (content : Bytes) (publicId : String)
      (format : LogoFormat),
      let given := client.parameters now publicId
      let sorted := client.sortedParameters now publicId
      ((given.map Prod.fst).Nodup ∧ sorted.Perm given ∧ InNameOrder sorted) ∧
      (client.uploadRequest now content publicId format).body = utf8 (Form.encode (given ++
        [("file", dataUri content format), ("api_key", client.key),
          ("signature", Sha256.hexDigest (utf8 (parameterLine sorted ++ client.secret))),
          ("signature_algorithm", "sha256")])) := by
  constructor
  · have hsorted := inNameOrder_sortBy hnames
    have hperm : (sortBy (byKey compareTexts) parameters).Perm parameters :=
      List.mergeSort_perm _ _
    refine ⟨_, hperm, hsorted, fun arranged harranged => ⟨fun h => ?_, ?_⟩⟩
    · exact h.eq_of_perm hsorted (harranged.trans hperm.symm)
    · exact signParameters_of_perm hsorted (harranged.trans hperm.symm) secret
  · intro client now content publicId format given sorted
    have hperm : sorted.Perm given := client.sortedParameters_perm now publicId
    have hsorted : InNameOrder sorted := client.inNameOrder_sortedParameters now publicId
    refine ⟨⟨(hperm.map Prod.fst).nodup_iff.1 hsorted.nodup, hperm, hsorted⟩, ?_⟩
    rw [← signParameters_of_perm hsorted hperm.symm client.secret]
    rfl

/-- Parameters that are given in the order of their names and the other way round. -/
theorem signParameters_swapped :
    ([("public_id", "acme-db"), ("timestamp", "1700000000")].map Prod.fst).Nodup ∧
    ∀ secret, signParameters [("timestamp", "1700000000"), ("public_id", "acme-db")] secret =
      signParameters [("public_id", "acme-db"), ("timestamp", "1700000000")] secret := by
  have hnames : ([("public_id", "acme-db"), ("timestamp", "1700000000")].map Prod.fst).Nodup := by
    decide
  refine ⟨hnames, fun secret => ?_⟩
  obtain ⟨sorted, -, -, hsigned⟩ := (signParameters_canonical hnames secret).1
  rw [(hsigned _ (List.Perm.swap ..)).2, (hsigned _ (List.Perm.refl _)).2]

-- Two parameters of one name are signed in the order in which they are given.
example : sortBy (byKey compareTexts) [("a", "1"), ("a", "0")] = [("a", "1"), ("a", "0")] := by
  cbv

end ConnectorCatalog
