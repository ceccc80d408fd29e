import ConnectorCatalog.Proofs.Keyed
import ConnectorCatalog.Proofs.Text.Blank
import ConnectorCatalog.Proofs.Text.Order
import ConnectorCatalog.Publish.Build

/-!
# The images of a release document

A document refers to the image of its packaging, of its plugin and of its commands; these and no
others are listed (`mem_images`).  What is published of a packaging is its image without the blanks
around it, while the list has the image as it is written.  So **the list and the publication agree
exactly if there are no blanks around the image of the packaging** (`listed_published`).
-/

namespace ConnectorCatalog.ReleaseDocument

open Text

variable {document : ReleaseDocument} {image written : String} {kind : PackagingKind}

/-! ### What is listed -/

/-- The list holds the images that a document refers to and nothing else. -/
theorem mem_images : image ∈ document.images ↔
    document.packagingImage? = some image ∨ document.pluginImage? = some image ∨
      ∃ command ∈ document.commands.toList, command.image? = some image := by
  rw [images, Keyed.mem_foldl_insert .nil]
  simp only [List.mem_append, Option.mem_toList, List.mem_filterMap, List.not_mem_nil, or_false,
    or_assoc]

theorem packagingImage?_eq_some : document.packagingImage? = some written ↔
    ∃ packaging, document.packaging = some packaging ∧ packaging.kind = prebuiltImage ∧
      packaging.image = some written ∧ written ≠ "" := by
  rw [packagingImage?, Option.bind_eq_bind, Option.bind_eq_some_iff]
  refine exists_congr fun packaging => and_congr_right fun _ => ?_
  by_cases hkind : packaging.kind = prebuiltImage <;> simp [hkind, Option.filter_eq_some_iff]

/-! ### What is published -/

/-- Of an image that is listed for the packaging, the text without the blanks around it is
published; a blank image is none. -/
theorem packagingOf_eq (h : document.packagingImage? = some written) :
    packagingOf document =
      if isAllBlank written then .error .noImage
      else .ok (.prebuiltImage, some (trim written)) := by
  obtain ⟨packaging, hpackaging, hkind, himage, -⟩ := packagingImage?_eq_some.1 h
  have htrimmed : packaging.image.map trim >>= nonEmpty? =
      if isAllBlank written then none else some (trim written) := by
    rw [himage, Option.map_some, Option.bind_eq_bind, Option.bind_some, nonEmpty?]
    simp only [trim_eq_empty_iff]
  rw [packagingOf, hpackaging]
  simp only [hkind, if_true, htrimmed]
  cases isAllBlank written <;> rfl

/-- An image is published only if one is listed for the packaging. -/
theorem exists_packagingImage? (h : packagingOf document = .ok (kind, some image)) :
    ∃ written, document.packagingImage? = some written := by
  unfold packagingOf at h
  split at h
  · cases h
  rename_i packaging hpackaging
  split at h
  · rename_i hkind
    split at h
    · rename_i found hfound
      obtain ⟨trimmed, htrimmed, hne⟩ := Option.bind_eq_some_iff.1 hfound
      obtain ⟨written, hwritten, rfl⟩ := Option.map_eq_some_iff.1 htrimmed
      refine ⟨written, packagingImage?_eq_some.2 ⟨packaging, hpackaging, hkind, hwritten, ?_⟩⟩
      rintro rfl
      cases hne
    · cases h
  · split at h
    · cases h
    · split at h <;> cases h

theorem packagingOf_eq_ok_iff : packagingOf document = .ok (kind, some image) ↔
    kind = .prebuiltImage ∧ ∃ written, document.packagingImage? = some written ∧
      isAllBlank written = false ∧ trim written = image := by
  constructor
  · intro h
    obtain ⟨written, hwritten⟩ := exists_packagingImage? h
    rw [packagingOf_eq hwritten] at h
    split at h
    · cases h
    · rename_i hblank
      cases h
      exact ⟨rfl, written, hwritten, Bool.eq_false_iff.2 hblank, rfl⟩
  · rintro ⟨rfl, written, hwritten, hblank, rfl⟩
    rw [packagingOf_eq hwritten, hblank]
    rfl

theorem packagingOf_eq_noImage_iff (h : document.packagingImage? = some written) :
    packagingOf document = .error .noImage ↔ isAllBlank written = true := by
  rw [packagingOf_eq h]
  cases isAllBlank written <;> simp

theorem isAllBlank_eq_false (h : document.packagingImage? = some written)
    (htrim : trim written = written) : isAllBlank written = false := by
  obtain ⟨-, -, -, -, hne⟩ := packagingImage?_eq_some.1 h
  rw [Bool.eq_false_iff, ne_eq, ← trim_eq_empty_iff, htrim]
  exact hne

/-! ### Agreement -/

/-- What is listed of a document agrees with what is published of it. -/
structure ImagesAgree (document : ReleaseDocument) : Prop where
  /-- The image that is published is listed. -/
  listed {kind : PackagingKind} {image : String} :
    packagingOf document = .ok (kind, some image) → image ∈ document.images
  /-- The image that is listed for the packaging is published. -/
  published {image : String} :
    document.packagingImage? = some image → packagingOf document = .ok (.prebuiltImage, some image)
  /-- Of a document that lacks the image to publish, none is listed for the packaging. -/
  refused : packagingOf document = .error .noImage → document.packagingImage? = none

theorem imagesAgree_of_trim
    (h : ∀ written, document.packagingImage? = some written → trim written = written) :
    document.ImagesAgree where
  listed := by
    intro kind image hpublished
    obtain ⟨-, written, hwritten, -, rfl⟩ := packagingOf_eq_ok_iff.1 hpublished
    rw [h written hwritten]
    exact mem_images.2 (.inl hwritten)
  published := by
    intro image hlisted
    have htrim := h image hlisted
    exact packagingOf_eq_ok_iff.2 ⟨rfl, image, hlisted, isAllBlank_eq_false hlisted htrim, htrim⟩
  refused := by
    intro hrefused
    refine Option.eq_none_iff_forall_ne_some.2 fun written hwritten => ?_
    have hblank := (packagingOf_eq_noImage_iff hwritten).1 hrefused
    exact Bool.false_ne_true ((isAllBlank_eq_false hwritten (h written hwritten)).symm.trans hblank)

/-- **What is listed agrees with what is published exactly if there are no blanks around the image
of the packaging.**  In any case an image is published only if one is listed for the packaging: what
is published is the listed text without the blanks around it, and nothing of a blank text, which is
listed nevertheless. -/
theorem listed_published (document : ReleaseDocument) :
    (document.ImagesAgree ↔
      ∀ written, document.packagingImage? = some written → trim written = written) ∧
    (∀ kind image, packagingOf document = .ok (kind, some image) ↔
      kind = .prebuiltImage ∧ ∃ written, document.packagingImage? = some written ∧
        isAllBlank written = false ∧ trim written = image) ∧
    (∀ written, document.packagingImage? = some written →
      (packagingOf document = .error .noImage ↔ isAllBlank written = true)) ∧
    ∀ image, image ∈ document.images ↔
      document.packagingImage? = some image ∨ document.pluginImage? = some image ∨
        ∃ command ∈ document.commands.toList, command.image? = some image := by
  refine ⟨⟨fun hagree written hwritten => ?_, imagesAgree_of_trim⟩,
    fun _ _ => packagingOf_eq_ok_iff, fun _ => packagingOf_eq_noImage_iff, fun _ => mem_images⟩
  obtain ⟨-, _, hlisted, -, htrim⟩ := packagingOf_eq_ok_iff.1 (hagree.published hwritten)
  obtain rfl := Option.some.inj (hlisted.symm.trans hwritten)
  exact htrim

/-- The text of a document of a release that consists of an image. -/
def prebuiltText (image : String) : String :=
  "packagingDefinition:\n  type: PrebuiltDockerImage\n  dockerImage: \"" ++ image ++ "\"\n"

/-- The document of a release that consists of an image. -/
def prebuilt (image : String) : ReleaseDocument :=
  ⟨none, none, some ⟨prebuiltImage, some image⟩, none, default, none⟩

/-- An image is published without the blanks around it and listed with them; of a document that is
refused because its image is blank, this image is listed. -/
theorem blanksAround_disagree :
    (ofText? (prebuiltText " ghcr.io/acme/db:v1 ") = some (prebuilt " ghcr.io/acme/db:v1 ") ∧
      packagingOf (prebuilt " ghcr.io/acme/db:v1 ") =
        .ok (.prebuiltImage, some "ghcr.io/acme/db:v1") ∧
      (prebuilt " ghcr.io/acme/db:v1 ").images = [" ghcr.io/acme/db:v1 "] ∧
      ¬(prebuilt " ghcr.io/acme/db:v1 ").ImagesAgree) ∧
    (ofText? (prebuiltText "   ") = some (prebuilt "   ") ∧
      packagingOf (prebuilt "   ") = .error .noImage ∧
      (prebuilt "   ").images = ["   "] ∧ ¬(prebuilt "   ").ImagesAgree) := by
  have hpadded := listed_published (prebuilt " ghcr.io/acme/db:v1 ")
  have hblank := listed_published (prebuilt "   ")
  refine ⟨⟨by decide +kernel, ?_, by decide +kernel, fun hagree => ?_⟩,
    ⟨by decide +kernel, ?_, by decide +kernel, fun hagree => ?_⟩⟩
  · exact (hpadded.2.1 _ _).2 ⟨rfl, " ghcr.io/acme/db:v1 ", by decide +kernel⟩
  · exact absurd (hpadded.1.1 hagree " ghcr.io/acme/db:v1 " rfl) (by decide +kernel)
  · exact (hblank.2.2.1 "   " rfl).2 (by decide +kernel)
  · exact absurd (hblank.1.1 hagree "   " rfl) (by decide +kernel)

end ConnectorCatalog.ReleaseDocument
