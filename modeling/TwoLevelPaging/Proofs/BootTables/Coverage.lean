import TwoLevelPaging.Proofs.BootTables.Translation

/-!
# Which bytes of the kernel image are mapped

The boot tables map `image.pageCount` pages from the page of the first byte on.  That
number is computed from the length of the image alone, so it is enough if the image
starts at the base of a page.  An image that starts inside a page may end in one page
more, and the bytes in that last page are not mapped.

`build_maps_image_iff` says for every byte of an accepted image where it is found, and
for which images all bytes are; `build_leaves_last_byte` shows an image whose last byte
is left out.
-/

namespace TwoLevelPaging

namespace KernelImage

/-- The address is that of a byte of the image. -/
def Contains (image : KernelImage) (address : Address .virtual) : Prop :=
  image.start.toNat ≤ address.toNat ∧ address.toNat < image.stop.toNat

/-- The page of the address is one of those that are mapped for the image. -/
def Covers (image : KernelImage) (address : Address .virtual) : Prop :=
  (Page.containing address : VirtualPage).number <
    (BootBlock.firstPage image).number + image.pageCount

instance (image : KernelImage) (address : Address .virtual) : Decidable (image.Covers address) := by
  unfold Covers
  infer_instance

/-- The bytes in front of the image in its first page, and those of the image behind
its last whole page, fit into one page together. -/
def FitsPages (image : KernelImage) : Prop :=
  image.start.toNat % Layout.pageBytes +
    (image.stop.toNat - image.start.toNat - 1) % Layout.pageBytes < Layout.pageBytes

variable {image : KernelImage} {address : Address .virtual}

/-- An image at the base of a page fits. -/
theorem fitsPages_of_aligned (hAligned : image.start.isAligned .small = true) :
    image.FitsPages := by
  simp only [Address.isAligned, beq_iff_eq, PageSize.bytes] at hAligned
  have hRest := Nat.mod_lt (image.stop.toNat - image.start.toNat - 1)
    (show 0 < Layout.pageBytes by decide)
  simp only [FitsPages, Layout.pageBytes] at hRest ⊢
  omega

/-- At most one page of an image is not covered, the one behind the covered ones. -/
theorem Contains.page_le (hContains : image.Contains address) :
    (Page.containing address : VirtualPage).number ≤
      (BootBlock.firstPage image).number + image.pageCount := by
  obtain ⟨hStart, hStop⟩ := hContains
  simp only [BootBlock.firstPage, Page.number_containing, PageSize.bytes, pageCount, roundUpDiv,
    Layout.pageBytes]
  omega

theorem Contains.first_le (hContains : image.Contains address) :
    (BootBlock.firstPage image).number ≤ (Page.containing address : VirtualPage).number := by
  simp only [BootBlock.firstPage, Page.number_containing, PageSize.bytes]
  exact Nat.div_le_div_right hContains.1

/-- All bytes of an image are covered exactly if it fits. -/
theorem forall_covers_iff :
    (∀ address, image.Contains address → image.Covers address) ↔ image.FitsPages := by
  simp only [Covers, FitsPages, BootBlock.firstPage, Page.number_containing, PageSize.bytes,
    pageCount, roundUpDiv, Layout.pageBytes]
  constructor
  · intro hAll
    by_cases hEmpty : image.stop.toNat ≤ image.start.toNat
    · omega
    · -- The last byte decides.
      have hTop := image.stop.toNat_lt
      have hNumber : (Address.ofNat (image.stop.toNat - 1) : Address .virtual).toNat =
          image.stop.toNat - 1 := by
        rw [Address.toNat_ofNat]
        omega
      have hLast := hAll (Address.ofNat (image.stop.toNat - 1))
        (by rw [Contains, hNumber]; omega)
      rw [hNumber] at hLast
      omega
  · rintro hFits address ⟨hStart, hStop⟩
    omega

end KernelImage

namespace Memory.BootSpace

variable {memory : Memory} {root : Frame} {image : KernelImage} {block : Address .physical}
  {address : Address .virtual}

/-- A covered byte of the image is found where the image is loaded. -/
theorem translate?_of_covers (hSpace : memory.BootSpace root image)
    (hAccepts : BootBlock.Accepts block image) (hContains : image.Contains address)
    (hCovers : image.Covers address) :
    memory.translate? root address = some ⟨KernelImage.physical address, true, false⟩ := by
  have hFirst := hContains.first_le
  have hHigher := hAccepts.slots.1
  obtain ⟨frame, hFrame, hTranslate⟩ := hSpace.kernel address
    ((Page.containing address : VirtualPage).number - (BootBlock.firstPage image).number)
    (by simp only [KernelImage.Covers] at hCovers; omega) (by omega)
  rw [hTranslate]
  congr 2
  apply Address.toNat_injective
  have hPhysical : (KernelImage.physical address).toNat = address.toNat - Layout.higherHalf := by
    apply BootBlock.toNat_physical
    simp only [BootBlock.firstPage, Page.directorySlot, Page.number_containing,
      PageSize.bytes] at hFirst hHigher
    simp only [Layout.higherHalf]
    omega
  rw [Page.toNat_join, hFrame, hPhysical, Page.number_containing, hAccepts.toNat_physicalStart]
  have hStart := hContains.1
  simp only [BootBlock.firstPage, Page.directorySlot, Page.number_containing, PageSize.bytes,
    Offset.ofAddress, Layout.higherHalf] at hFirst hHigher ⊢
  omega

/-- A byte of the image that is not covered is not mapped at all. -/
theorem translate?_of_not_covers (hSpace : memory.BootSpace root image)
    (hAccepts : BootBlock.Accepts block image) (hContains : image.Contains address)
    (hCovers : ¬ image.Covers address) : memory.translate? root address = none := by
  have hLast := hContains.page_le
  have hRoom := hAccepts.room
  have hLow : BootBlock.identityPages image ≤ 1024 := hAccepts.low
  obtain ⟨hHigher, hBelow⟩ := hAccepts.slots
  have hFirst := hContains.first_le
  simp only [KernelImage.Covers, Nat.not_lt] at hCovers
  simp only [Page.directorySlot, Page.tableSlot] at hHigher hBelow hRoom
  refine hSpace.nothing address ?_ ?_ ?_
  · simp only [Page.number_containing, PageSize.bytes] at hFirst
    simp only [Layout.pageBytes]
    omega
  · intro index hIndex
    omega
  · -- The kernel tables end below the table of the scratch page.
    intro hSlot
    have hNumber := congrArg Fin.val hSlot
    simp only [Page.directorySlot, Layout.selfMapSlot] at hNumber
    change _ = 1023 at hNumber
    omega

end Memory.BootSpace

namespace BootBlock

variable {block : BootBlock} {memory : Memory} {address : Address .physical}
  {image : KernelImage}

/-- A build that yields a directory has made the address space of its image. -/
theorem bootSpace_of_build_eq {built : BootBlock} {directory : Frame}
    (hBuild : block.build address image = .ok (.ok directory, built))
    (hPlaced : built.PlacedAt memory address) :
    Accepts address image ∧ memory.BootSpace directory image := by
  obtain ⟨-, hAccepts, rfl, hBuilt⟩ := built_of_build_eq hBuild
  exact ⟨hAccepts, hBuilt.bootSpace hPlaced hAccepts⟩

/-- A byte of an accepted image is found at its load address if it is covered, and
nowhere otherwise.  All bytes of the image are found exactly if the image fits its
pages. -/
theorem build_maps_image_iff {built : BootBlock} {directory : Frame}
    (hBuild : block.build address image = .ok (.ok directory, built))
    (hPlaced : built.PlacedAt memory address) :
    (∀ virtual, image.Contains virtual → memory.translate? directory virtual =
      if image.Covers virtual then some ⟨KernelImage.physical virtual, true, false⟩
      else none) ∧
    ((∀ virtual, image.Contains virtual → memory.translate? directory virtual =
      some ⟨KernelImage.physical virtual, true, false⟩) ↔ image.FitsPages) := by
  obtain ⟨hAccepts, hSpace⟩ := bootSpace_of_build_eq hBuild hPlaced
  have hEach : ∀ virtual, image.Contains virtual → memory.translate? directory virtual =
      if image.Covers virtual then some ⟨KernelImage.physical virtual, true, false⟩
      else none := by
    intro virtual hContains
    by_cases hCovers : image.Covers virtual
    · rw [if_pos hCovers]
      exact hSpace.translate?_of_covers hAccepts hContains hCovers
    · rw [if_neg hCovers]
      exact hSpace.translate?_of_not_covers hAccepts hContains hCovers
  refine ⟨hEach, ?_⟩
  rw [← KernelImage.forall_covers_iff]
  constructor
  · intro hAll virtual hContains
    refine Decidable.byContradiction fun hCovers => ?_
    have hFound := hAll virtual hContains
    rw [hEach virtual hContains, if_neg hCovers] at hFound
    cases hFound
  · intro hAll virtual hContains
    rw [hEach virtual hContains, if_pos (hAll virtual hContains)]

/-- The sample image starts at the base of a page, so all its bytes are found. -/
theorem build_sampleImage_maps_image :
    Fits (Address.ofNat 0x1000) ∧ ∃ built : BootBlock,
      zero.build (Address.ofNat 0x1000) sampleImage =
        .ok (.ok (Page.containing (Address.ofNat 0x1000)), built) ∧
      built.PlacedAt built.inMemory (Address.ofNat 0x1000) ∧
      ∀ virtual, sampleImage.Contains virtual →
        built.inMemory.translate? (Page.containing (Address.ofNat 0x1000)) virtual =
          some ⟨KernelImage.physical virtual, true, false⟩ := by
  have hFits : Fits (Address.ofNat 0x1000) := by
    show _ ≤ _
    decide
  obtain ⟨built, hBuild, -⟩ := exists_build_eq hFits accepts_sampleImage
  have hPlaced := built.placedAt_inMemory hFits
  have hMaps := build_maps_image_iff (hBuild zero) hPlaced
  exact ⟨hFits, built, hBuild zero, hPlaced,
    hMaps.2.mpr (KernelImage.fitsPages_of_aligned (by decide))⟩

/-- An image that starts in the middle of one page and ends with the first byte of the
next one. -/
def straddlingImage : KernelImage :=
  ⟨Address.ofNat 0xC0100800, Address.ofNat 0xC0101001, Address.ofNat 0x00101000⟩

/-- The straddling image is accepted, and its last byte is not mapped. -/
theorem build_leaves_last_byte :
    Fits (Address.ofNat 0x1000) ∧ ∃ built : BootBlock,
      zero.build (Address.ofNat 0x1000) straddlingImage =
        .ok (.ok (Page.containing (Address.ofNat 0x1000)), built) ∧
      built.PlacedAt built.inMemory (Address.ofNat 0x1000) ∧
      straddlingImage.Contains (Address.ofNat 0xC0101000) ∧
      built.inMemory.translate? (Page.containing (Address.ofNat 0x1000))
        (Address.ofNat 0xC0101000) = none := by
  have hFits : Fits (Address.ofNat 0x1000) := by
    show _ ≤ _
    decide
  have hAccepts : Accepts (Address.ofNat 0x1000) straddlingImage :=
    ⟨by decide, by decide, by decide, by decide⟩
  obtain ⟨built, hBuild, hBuilt⟩ := exists_build_eq hFits hAccepts
  have hPlaced := built.placedAt_inMemory hFits
  have hContains : straddlingImage.Contains (Address.ofNat 0xC0101000) := by
    show _ ≤ _ ∧ _ < _
    decide
  refine ⟨hFits, built, hBuild zero, hPlaced, hContains, ?_⟩
  exact (hBuilt.bootSpace hPlaced hAccepts).translate?_of_not_covers hAccepts hContains (by decide)

end BootBlock
end TwoLevelPaging
