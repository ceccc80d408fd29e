import ConnectorCatalog.Document.Release
import ConnectorCatalog.Proofs.Yaml.Record

/-!
# The generation that a document declares

A document declares its generation in a field of its own (`ReleaseDocument.Declares`).  Documents
are read as a whole: one that can be read is of the generation that it declares
(`generation_of_declares`), but a document of another generation whose other fields have a form of
their own cannot be read at all.  **A document that declares a generation and has none of the other
fields can always be read**, whatever else it holds (`isSome_ofText?_of_declaresOnly`).
-/

namespace ConnectorCatalog.ReleaseDocument

open Yaml (Node Anchored Reader)

variable {content generation : String}

/-- A document is a mapping in which a key `version` stands in front of a generation. -/
def Declares (content generation : String) : Prop :=
  ∃ mark entries, Node.ofText? content = some (.mapping mark entries) ∧
    ∃ entry ∈ entries,
      entry.1.Spells (Node.mapping mark entries).anchors "version" ∧
      entry.2.Spells (Node.mapping mark entries).anchors generation

/-- Whether a mapping has an entry with a key and a text. -/
def hasEntry (key text : String) : Node → Bool
  | .mapping mark entries =>
    let anchored := (Node.mapping mark entries).anchors
    entries.any fun entry =>
      entry.1.spelling? anchored == some key && entry.2.spelling? anchored == some text
  | _ => false

theorem declares_iff : Declares content generation ↔
    (Node.ofText? content).any (hasEntry "version" generation) = true := by
  unfold Declares
  cases Node.ofText? content with
  | none => simp
  | some node => cases node <;> simp [hasEntry, Node.spelling?_eq_some]

instance : Decidable (Declares content generation) := decidable_of_iff' _ declares_iff

/-- The fields of a document besides its generation. -/
def furtherFields : List String :=
  ["ndcSpecGeneration", "packagingDefinition", "cliPlugin", "commands", "documentationPage"]

/-- A document declares a generation once, without a tag, and has none of the further fields.  Other
keys may stand in front of anything. -/
def DeclaresOnly (content generation : String) : Prop :=
  ∃ mark entries named value anchor isPlain,
    Node.ofText? content = some (.mapping mark entries) ∧
    List.Forall₂ (Node.Names (Node.mapping mark entries).anchors) entries named ∧
    named.filter (·.1 == "version") = [("version", value)] ∧
    value.target? (Node.mapping mark entries).anchors =
      some (.scalar ⟨anchor, none⟩ isPlain generation) ∧
    ∀ field ∈ named, field.1 ∉ furtherFields

/-! ### Reading the generation -/

theorem isNothing_eq_false {mark : Yaml.Mark} {isPlain isNothing : Bool} (hempty : generation ≠ "")
    (hnull : Yaml.isNullWord generation = false)
    (h : Node.isNothing (.scalar mark isPlain generation) = some isNothing) :
    isNothing = false := by
  cases isPlain with
  | false => exact (Option.some.inj h).symm
  | true =>
    obtain ⟨anchor, tag⟩ := mark
    cases tag with
    | none =>
      have hwritten : (generation == "") = false := beq_eq_false_iff_ne.2 hempty
      simpa [Node.isNothing, hwritten, hnull] using h.symm
    | some tag =>
      simp only [Node.isNothing, hnull] at h
      split at h
      · cases h
      · exact (Option.some.inj h).symm

section

variable {anchored : Anchored} {value : Node} {left left' : Nat}

theorem eq_some_of_optionalText (hspells : value.Spells anchored generation)
    (hempty : generation ≠ "") (hnull : Yaml.isNullWord generation = false) {text : Option String}
    (h : (Node.optionalField anchored (·.text anchored) (some value)).run left =
      some (text, left')) : text = some generation := by
  obtain ⟨target, between, hfollow, h⟩ := Reader.bind_eq_some.1 h
  obtain ⟨mark, isPlain, htarget⟩ := hspells
  cases htarget.symm.trans (Node.follow_eq_some hfollow)
  obtain ⟨isNothing, _, hcheck, h⟩ := Reader.bind_eq_some.1 h
  obtain ⟨hnothing, rfl⟩ := Reader.lift_eq_some.1 hcheck
  obtain rfl := isNothing_eq_false hempty hnull hnothing
  obtain ⟨s, _, htext, h⟩ := Reader.bind_eq_some.1 h
  obtain ⟨rfl, -⟩ := Reader.pure_eq_some.1 h
  exact congrArg some ((Node.text_eq_some htext).unique ⟨mark, isPlain, rfl⟩)

theorem exists_optionalText {anchor : Option Nat} {isPlain : Bool}
    (htarget : value.target? anchored = some (.scalar ⟨anchor, none⟩ isPlain generation))
    (hempty : generation ≠ "") (hnull : Yaml.isNullWord generation = false) (hleft : 0 < left) :
    ∃ left', (Node.optionalField anchored (·.text anchored) (some value)).run left =
      some (some generation, left') := by
  obtain ⟨left', hfollow, -⟩ := Node.exists_follow htarget hleft
  have hnothing : Node.isNothing (.scalar ⟨anchor, none⟩ isPlain generation) = some false := by
    cases isPlain <;> simp [Node.isNothing, hempty, hnull]
  refine ⟨left', Reader.bind_eq_some.2 ⟨_, _, hfollow, ?_⟩⟩
  rw [hnothing]
  rfl

end

/-! ### Reading the whole document -/

variable {anchored : Anchored} {node : Node} {left left' : Nat}

theorem ofNode_eq_some {document : ReleaseDocument}
    (h : (ofNode anchored node).run left = some (document, left')) :
    ∃ named before field between, (node.record anchored).run left = some (named, before) ∧
      Node.fieldOnce? named "version" = some field ∧
      (Node.optionalField anchored (·.text anchored) field).run before =
        some (document.generation, between) := by
  obtain ⟨fields, before, hfields, hread⟩ := Reader.bind_eq_some.1 h
  rw [Node.fields_eq] at hfields
  obtain ⟨named, _, hrecord, hlift⟩ := Reader.bind_eq_some.1 hfields
  obtain ⟨hmapM, rfl⟩ := Reader.lift_eq_some.1 hlift
  rw [List.mapM_cons, Option.bind_eq_bind] at hmapM
  obtain ⟨field, hversion, hmore⟩ := Option.bind_eq_some_iff.1 hmapM
  obtain ⟨more, -, hcons⟩ := Option.bind_eq_some_iff.1 hmore
  obtain rfl := Option.some.inj hcons
  split at hread
  · rename_i generation _ _ _ commands _ heq
    obtain ⟨rfl, rfl⟩ := List.cons.inj heq
    obtain ⟨g, between, hgeneration, hread⟩ := Reader.bind_eq_some.1 hread
    refine ⟨named, _, field, between, hrecord, hversion, ?_⟩
    -- What is read behind the generation leaves it as it is.
    obtain ⟨_, _, -, hread⟩ := Reader.bind_eq_some.1 hread
    obtain ⟨_, _, -, hread⟩ := Reader.bind_eq_some.1 hread
    obtain ⟨_, _, -, hread⟩ := Reader.bind_eq_some.1 hread
    cases commands <;>
    · obtain ⟨_, _, -, hread⟩ := Reader.bind_eq_some.1 hread
      obtain ⟨_, _, -, hread⟩ := Reader.bind_eq_some.1 hread
      obtain ⟨rfl, -⟩ := Reader.pure_eq_some.1 hread
      exact hgeneration
  · cases hread

/-- Without further fields, reading the generation is all there is to read. -/
theorem exists_ofNode {named : List (String × Node)} {value : Node} {before between : Nat}
    {generation : Option String} (hrecord : (node.record anchored).run left = some (named, before))
    (hversion : named.filter (·.1 == "version") = [("version", value)])
    (hfurther : ∀ field ∈ named, field.1 ∉ furtherFields)
    (hgeneration : (Node.optionalField anchored (·.text anchored) (some value)).run before =
      some (generation, between)) :
    ∃ document, (ofNode anchored node).run left = some (document, between) := by
  have honce : Node.fieldOnce? named "version" = some (some value) := by
    rw [Node.fieldOnce?, hversion]
  have hfields : (node.fields anchored ("version" :: furtherFields)).run left =
      some (some value :: furtherFields.map fun _ => none, before) := by
    rw [Node.fields_eq]
    refine Reader.bind_eq_some.2 ⟨named, before, hrecord, Reader.lift_eq_some.2 ⟨?_, rfl⟩⟩
    rw [List.mapM_cons, honce, Node.mapM_fieldOnce?_eq_none hfurther]
    rfl
  refine ⟨⟨generation, none, none, none, default, none⟩, ?_⟩
  refine Reader.bind_eq_some.2 ⟨_, _, hfields, ?_⟩
  exact Reader.bind_eq_some.2 ⟨generation, between, hgeneration, rfl⟩

theorem ofText?_eq_some {document : ReleaseDocument} :
    ofText? content = some document ↔ ∃ node left, Node.ofText? content = some node ∧
      (ofNode node.anchors node).run (Yaml.aliasFactor * node.size) = some (document, left) := by
  rw [ofText?, Option.bind_eq_bind, Option.bind_eq_some_iff]
  refine exists_congr fun node => ?_
  rw [exists_and_left]
  refine and_congr_right fun _ => Option.map_eq_some_iff.trans ?_
  constructor
  · rintro ⟨⟨_, left⟩, hread, rfl⟩
    exact ⟨left, hread⟩
  · rintro ⟨left, hread⟩
    exact ⟨_, hread, rfl⟩

/-- **A document that can be read is of the generation that it declares.** -/
theorem generation_of_declares (hdeclares : Declares content generation) (hempty : generation ≠ "")
    (hnull : Yaml.isNullWord generation = false) {document : ReleaseDocument}
    (h : ofText? content = some document) : document.generation = some generation := by
  obtain ⟨mark, entries, hnode, entry, hentry, hkey, hvalue⟩ := hdeclares
  obtain ⟨node, left, hnode', hread⟩ := ofText?_eq_some.1 h
  obtain rfl := Option.some.inj (hnode.symm.trans hnode')
  obtain ⟨named, _, field, _, hrecord, hversion, htext⟩ := ofNode_eq_some hread
  -- The field that is read is the one with the key that is there.
  obtain rfl := Node.fieldOnce?_of_mem
    (Node.exists_named (Node.record_eq_some hrecord) hentry hkey) hversion
  exact eq_some_of_optionalText hvalue hempty hnull htext

/-- **A document that declares a generation and none of the further fields can be read.** -/
theorem isSome_ofText?_of_declaresOnly (h : DeclaresOnly content generation)
    (hempty : generation ≠ "") (hnull : Yaml.isNullWord generation = false) :
    (ofText? content).isSome = true := by
  obtain ⟨mark, entries, named, value, anchor, isPlain, hnode, hnamed, hversion, htarget,
    hfurther⟩ := h
  have hsize := Node.length_lt_size mark entries
  -- There are enough aliases for all keys and for the generation.
  have hbudget : entries.length + 1 ≤ Yaml.aliasFactor * (Node.mapping mark entries).size := by
    rw [Yaml.aliasFactor]
    omega
  obtain ⟨before, hrecord, hbefore⟩ :=
    @Node.exists_record _ _ _ mark _ hnamed (Nat.le_of_succ_le hbudget)
  obtain ⟨between, hgeneration⟩ :=
    @exists_optionalText _ _ _ before _ _ htarget hempty hnull (by omega)
  obtain ⟨document, hread⟩ := exists_ofNode hrecord hversion hfurther hgeneration
  exact Option.isSome_iff_exists.2 ⟨document, ofText?_eq_some.2 ⟨_, between, hnode, hread⟩⟩

end ConnectorCatalog.ReleaseDocument
