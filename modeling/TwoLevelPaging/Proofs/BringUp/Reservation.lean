import TwoLevelPaging.Proofs.BringUp.Booted
import TwoLevelPaging.Proofs.BringUp.Seeding

/-!
# Boot tables and the frames that are kept back

The boot tables reference three kinds of frames: those of the block itself, those of low
memory and the loader, which are mapped to themselves, and those of the kernel image
(`Built.references_iff`).  Filling the bitmap keeps back the frames below the end of the
image.  This covers the image whatever it is (`IsImageFrame.lt_frames`), and the other two
kinds only as far as they lie below its end.  They do where the loader, which holds the block,
is placed below the kernel (`BelowKernel`); nothing checks that.

`seeding_frees_iff` says exactly which referenced frames are free.  For a loader that lies
above the image these are its own, with the directory among them (`seeding_frees_directory`).
-/

namespace TwoLevelPaging

namespace BootBlock

variable {address : Address .physical} {image : KernelImage} {block : BootBlock} {frame : Frame}

/-- A present entry of the block stores the frame: it links a table or maps a page. -/
def References (block : BootBlock) (frame : Frame) : Prop :=
  (∃ slot, (block.directory.get slot).presentFrame? = some frame) ∨
    ∃ table slot, (block.leafAt table slot).presentFrame? = some frame

/-- The frame is one of the six of a block at this address. -/
def IsBlockFrame (address : Address .physical) (frame : Frame) : Prop :=
  ∃ position, position < 6 ∧ frame = Action.blockFrame address position

/-- The frame holds a page of the image, counted from its first one on. -/
def IsImageFrame (image : KernelImage) (frame : Frame) : Prop :=
  ∃ index, index < image.pageCount ∧
    frame.number = (Page.containing image.physicalStart : Frame).number + index

/-- The pages of an accepted image lie below its end, and so below the top of memory. -/
theorem Accepts.page_lt_frames (hAccepts : Accepts address image) {index : Nat}
    (hIndex : index < image.pageCount) :
    (Page.containing image.physicalStart : Frame).number + index < image.frames ∧
      image.frames ≤ 0x40000 := by
  obtain ⟨hHigher, hOrdered⟩ := hAccepts.extent
  have hTop := image.stop.toNat_lt
  have hStart := hAccepts.toNat_physicalStart
  have hStop := hAccepts.toNat_physicalStop
  simp only [KernelImage.pageCount, KernelImage.frames, roundUpDiv, Layout.pageBytes,
    Layout.higherHalf, Page.number_containing, PageSize.bytes] at *
  omega

theorem IsImageFrame.lt_frames (hImage : IsImageFrame image frame)
    (hAccepts : Accepts address image) : frame.number < image.frames := by
  obtain ⟨index, hIndex, hNumber⟩ := hImage
  rw [hNumber]
  exact (hAccepts.page_lt_frames hIndex).1

/-- The layout that the kernel is linked for: low memory and the loader end no higher than the
kernel image, and the block lies in one of them. -/
structure BelowKernel (address : Address .physical) (image : KernelImage) : Prop where
  low : Layout.lowMemoryBytes ≤ image.physicalStop.toNat
  loader : image.loaderEnd.toNat ≤ image.physicalStop.toNat
  block : address.toNat + bytes ≤ max image.loaderEnd.toNat Layout.lowMemoryBytes

theorem BelowKernel.identityPages_le (hBelow : BelowKernel address image) :
    identityPages image ≤ image.frames := by
  obtain ⟨hLow, hLoader, -⟩ := hBelow
  have hStop := Nat.max_le.mpr ⟨hLoader, hLow⟩
  simp only [identityPages, KernelImage.frames, roundUpDiv, Layout.pageBytes]
  omega

theorem BelowKernel.block_lt (hBelow : BelowKernel address image)
    (hFrame : IsBlockFrame address frame) : frame.number < image.frames := by
  obtain ⟨hLow, hLoader, hBlock⟩ := hBelow
  obtain ⟨position, hPosition, rfl⟩ := hFrame
  have hStop := Nat.le_trans hBlock (Nat.max_le.mpr ⟨hLoader, hLow⟩)
  have hTop := image.physicalStop.toNat_lt
  have hFits : Fits address := by
    unfold Fits
    omega
  rw [hFits.number_blockFrame hPosition]
  simp only [KernelImage.frames, roundUpDiv, Layout.pageBytes, show bytes = 24576 from rfl] at *
  omega

/-! ## The referenced frames -/

/-- Every frame of the block is linked. -/
theorem Built.exists_slot (hAccepts : Accepts address image)
    (hBuilt : Built address image block) {position : Nat} (hPosition : position < 6) :
    ∃ slot, (block.directory.get slot).presentFrame? =
      some (Action.blockFrame address position) := by
  have hSlots := hAccepts.slots
  by_cases hSelf : position = 0
  · exists Layout.selfMapSlot
    rw [hBuilt.linkSelf, Entry.presentFrame?_link, hSelf, Action.blockFrame, Nat.add_zero,
      Page.ofNumber_number]
  · by_cases hLow : position = 1
    · exists 0
      rw [hBuilt.linkLow 0 rfl, Entry.presentFrame?_link, hLow]
    · by_cases hScratch : position = 5
      · exists Layout.scratchSlot
        rw [hBuilt.linkScratch, Entry.presentFrame?_link, hScratch]
      · -- What is left are the three kernel tables.
        have hTable : position - 2 < Layout.kernelTables := by
          show position - 2 < 3
          omega
        exists ⟨(firstPage image).directorySlot.val + (position - 2), by omega⟩
        rw [hBuilt.linkKernel _ (position - 2) hTable rfl, Entry.presentFrame?_link]
        congr 2
        omega

/-- A frame that a table of the block maps belongs to low memory, the loader or the image. -/
theorem Built.identity_or_image (hBuilt : Built address image block) {table : Fin 5}
    {slot : Slot} (hAccepts : Accepts address image)
    (hLeaf : (block.leafAt table slot).presentFrame? = some frame) :
    frame.number < identityPages image ∨ IsImageFrame image frame := by
  rcases hBuilt.leafAt_cases hAccepts table slot with
    ⟨hLow, hEntry⟩ | ⟨index, hIndex, hEntry⟩ | hEntry
  · rw [hEntry] at hLeaf
    obtain rfl : Page.ofNumber slot.val = frame := Option.some.inj hLeaf
    left
    rw [Page.number_ofNumber]
    exact Nat.lt_of_le_of_lt (Nat.mod_le _ _) hLow
  · rw [hEntry] at hLeaf
    obtain rfl := Option.some.inj hLeaf
    have hBelow := hAccepts.page_lt_frames hIndex
    right
    exists index, hIndex
    show (Page.ofNumber _ : Frame).number = _
    rw [Page.number_ofNumber]
    exact Nat.mod_eq_of_lt (show _ < 0x100000 by omega)
  · rw [hEntry, Entry.presentFrame?_zero] at hLeaf
    cases hLeaf

/-- Low memory and the loader are mapped to themselves. -/
theorem Built.exists_identity (hBuilt : Built address image block)
    (hAccepts : Accepts address image) (hLow : frame.number < identityPages image) :
    ∃ table slot, (block.leafAt table slot).presentFrame? = some frame := by
  have hPages : identityPages image ≤ 1024 := hAccepts.low
  exists 0, ⟨frame.number, by omega⟩
  rw [hBuilt.leafLow _ hLow]
  show some (Page.ofNumber frame.number) = some frame
  rw [Page.ofNumber_number]

/-- All pages of the image are mapped. -/
theorem Built.exists_image (hBuilt : Built address image block)
    (hAccepts : Accepts address image) (hImage : IsImageFrame image frame) :
    ∃ table slot, (block.leafAt table slot).presentFrame? = some frame := by
  obtain ⟨index, hIndex, hNumber⟩ := hImage
  have hRoom := hAccepts.room
  have hTable : (1024 + (firstPage image).tableSlot.val + index) / 1024 < 5 := by omega
  have hSlot : (1024 + (firstPage image).tableSlot.val + index) % 1024 < 1024 := by omega
  have hLeaf := hBuilt.leafKernel ⟨_, hTable⟩ ⟨_, hSlot⟩ index hIndex (Nat.div_add_mod' _ 1024)
  exists ⟨_, hTable⟩, ⟨_, hSlot⟩
  rw [hLeaf, ← hNumber, Page.ofNumber_number]
  rfl

/-- What the boot tables reference: the block itself, low memory with the loader, and the
kernel image. -/
theorem Built.references_iff (hBuilt : Built address image block)
    (hAccepts : Accepts address image) :
    block.References frame ↔
      IsBlockFrame address frame ∨ frame.number < identityPages image ∨
        IsImageFrame image frame := by
  constructor
  · rintro (⟨slot, hLink⟩ | ⟨table, slot, hLeaf⟩)
    · obtain ⟨position, hLinks, hFrame⟩ := hBuilt.exists_linksFrame hLink
      exact .inl ⟨position, hLinks.position_lt, hFrame⟩
    · exact .inr (hBuilt.identity_or_image hAccepts hLeaf)
  · rintro (⟨position, hPosition, rfl⟩ | hLow | hImage)
    · exact .inl (hBuilt.exists_slot hAccepts hPosition)
    · exact .inr (hBuilt.exists_identity hAccepts hLow)
    · exact .inr (hBuilt.exists_image hAccepts hImage)

/-! ## The frames that are free -/

section Seeding

variable {size : Nat} {before seeded : Machine (FrameBitmap size)} {boot : BootInfo}
  {regions : List MemoryRegion}

/-- A referenced frame is free after the seeding exactly if it belongs to low memory, the
loader or the block, and the memory map offers it beyond the end of the image. -/
theorem Built.free_iff (hBuilt : Built address image block) (hAccepts : Accepts address image)
    (hSeeded : before.Seeded seeded boot regions image) :
    block.References frame ∧ seeded.Free frame ↔
      (IsBlockFrame address frame ∨ frame.number < identityPages image) ∧
        Machine.FreeAfterSeeding size boot regions image frame.number := by
  rw [Machine.Free, hSeeded.free_iff, hBuilt.references_iff hAccepts, ← or_assoc]
  constructor
  · rintro ⟨hKind | hImage, hFree⟩
    · exact ⟨hKind, hFree⟩
    · -- The image is kept back as a whole.
      have hBelow := hImage.lt_frames hAccepts
      exact absurd hFree.2.2.1 (Nat.not_le.mpr hBelow)
  · rintro ⟨hKind, hFree⟩
    exact ⟨.inl hKind, hFree⟩

/-- If low memory, the loader and the block lie below the end of the image, no referenced
frame is free. -/
theorem Built.not_free (hBuilt : Built address image block) (hAccepts : Accepts address image)
    (hSeeded : before.Seeded seeded boot regions image)
    (hLow : identityPages image ≤ image.frames)
    (hBlock : ∀ frame, IsBlockFrame address frame → frame.number < image.frames)
    (hReferenced : block.References frame) : ¬ seeded.Free frame := by
  intro hFree
  obtain ⟨hKind, -, -, hBeyond, -⟩ := (hBuilt.free_iff hAccepts hSeeded).mp ⟨hReferenced, hFree⟩
  rcases hKind with hPosition | hIdentity
  · have hBelow := hBlock frame hPosition
    omega
  · omega

end Seeding

/-- The memory between 1 and 5 MiB. -/
def extendedRegion : MemoryRegion :=
  ⟨0x100000, 0x400000, MemoryRegion.availableKind⟩

/-- A machine without tables yet, whose bitmap has room for 4 MiB. -/
def bareMachine : Machine (FrameBitmap 128) :=
  .start 1 (.empty 128) (Page.ofNumber 0)

/-- Filling the bitmap leaves a referenced frame free exactly if it belongs to low memory, the
loader or the block, and the memory map offers it beyond the end of the image.  If all
these frames lie below that end, no referenced frame is free or handed out, and in the layout
that the kernel is linked for they do. -/
theorem seeding_frees_iff {size : Nat} (hSize : size ≤ FrameBitmap.fullSize)
    {built : BootBlock} {directory : Frame}
    (hBuild : block.build address image = .ok (.ok directory, built))
    (machine : Machine (FrameBitmap size)) (boot : BootInfo) (regions : List MemoryRegion) :
    ∃ free seeded,
      (Action.seedFrames boot regions image).run (machine.under {}) = .done free seeded ∧
      (∀ frame, built.References frame ∧ seeded.Free frame ↔
        (IsBlockFrame address frame ∨ frame.number < identityPages image) ∧
          Machine.FreeAfterSeeding size boot regions image frame.number) ∧
      (identityPages image ≤ image.frames →
        (∀ frame, IsBlockFrame address frame → frame.number < image.frames) →
        ∀ frame, built.References frame →
          ¬ seeded.Free frame ∧ seeded.source.Retains frame.number) ∧
      (BelowKernel address image → ∀ frame, built.References frame →
        ¬ seeded.Free frame ∧ seeded.source.Retains frame.number) := by
  obtain ⟨-, hAccepts, -, hBuilt⟩ := built_of_build_eq hBuild
  have hWords : size * 8 < 0x100000000 := by
    unfold FrameBitmap.fullSize at hSize
    omega
  obtain ⟨free, seeded, hRun, hSeeded, -⟩ :=
    (Action.leads_seedFrames hWords (machine.under {}) boot regions image).run
      (Machine.seenThrough_physical _)
  have hNone : identityPages image ≤ image.frames →
      (∀ frame, IsBlockFrame address frame → frame.number < image.frames) →
      ∀ frame, built.References frame →
        ¬ (seeded.under {}).Free frame ∧ seeded.source.Retains frame.number := by
    intro hLow hBlock frame hReferenced
    have hOccupied := hBuilt.not_free hAccepts hSeeded hLow hBlock hReferenced
    exact ⟨hOccupied, FrameBitmap.retains_of_not_freeAt hSeeded.sound hOccupied⟩
  refine ⟨free, seeded.under {}, hRun, ?_, hNone, ?_⟩
  · intro frame
    show built.References frame ∧ seeded.Free frame ↔ _
    exact hBuilt.free_iff hAccepts hSeeded
  · intro hBelow
    exact hNone hBelow.identityPages_le fun frame => hBelow.block_lt

/-- The sample image lies above its loader and the block, so nothing referenced is free or
handed out. -/
theorem seeding_frees_sampleImage : ∃ (built : BootBlock) (free : Nat)
    (seeded : Machine (FrameBitmap 128)),
    zero.build (Address.ofNat 0x1000) sampleImage =
      .ok (.ok (Page.containing (Address.ofNat 0x1000)), built) ∧
    (Action.seedFrames ⟨640, 4096, 0, 0⟩ [extendedRegion] sampleImage).run bareMachine =
      .done free seeded ∧
    ∀ frame, built.References frame →
      ¬ seeded.Free frame ∧ seeded.source.Retains frame.number := by
  have hFits : Fits (Address.ofNat 0x1000) := by
    show _ ≤ _
    decide
  obtain ⟨built, hBuild, -⟩ := exists_build_eq hFits accepts_sampleImage
  have hSize : 128 ≤ FrameBitmap.fullSize := by decide
  have hBelow : BelowKernel (Address.ofNat 0x1000) sampleImage :=
    ⟨by decide, by decide, by decide⟩
  obtain ⟨free, seeded, hRun, -, -, hNone⟩ :=
    seeding_frees_iff hSize (hBuild zero) bareMachine ⟨640, 4096, 0, 0⟩ [extendedRegion]
  exact ⟨built, free, seeded, hBuild zero, hRun, hNone hBelow⟩

/-- An image that is loaded below its loader. -/
def lateLoaderImage : KernelImage :=
  ⟨Address.ofNat 0xC0010000, Address.ofNat 0xC0020000, Address.ofNat 0x0010E000⟩

/-- With the block in the loader of this image, which is accepted, the frame of the directory
is free after the bitmap has been filled. -/
theorem seeding_frees_directory : ∃ (built : BootBlock) (free : Nat)
    (seeded : Machine (FrameBitmap 128)),
    zero.build (Address.ofNat 0x108000) lateLoaderImage =
      .ok (.ok (Page.ofNumber 0x108), built) ∧
    (Action.seedFrames ⟨640, 4096, 0, 0⟩ [extendedRegion] lateLoaderImage).run bareMachine =
      .done free seeded ∧
    built.References (Page.ofNumber 0x108) ∧ seeded.Free (Page.ofNumber 0x108) := by
  have hFits : Fits (Address.ofNat 0x108000) := by
    show _ ≤ _
    decide
  have hAccepts : Accepts (Address.ofNat 0x108000) lateLoaderImage :=
    ⟨by decide, by decide, by decide, by decide⟩
  obtain ⟨built, hBuild, hBuilt⟩ := exists_build_eq hFits hAccepts
  obtain ⟨free, seeded, hRun, hSeeded, -⟩ :=
    (Action.leads_seedFrames (by decide) bareMachine ⟨640, 4096, 0, 0⟩ [extendedRegion]
      lateLoaderImage).run (Machine.seenThrough_physical _)
  have hReferenced : built.References (Page.ofNumber 0x108) :=
    (hBuilt.references_iff hAccepts).mpr (.inr (.inl (by decide)))
  have hOffered : extendedRegion.Offers 0x108 := by
    have hRange : extendedRegion.wholeFrames = ⟨0x100, 0x400⟩ := by decide +kernel
    constructor
    · decide
    · rw [hRange]
      show 0x100 ≤ 0x108 ∧ 0x108 < 0x100 + 0x400
      decide
  have hFree : (seeded.under {}).Free (Page.ofNumber 0x108) := by
    apply (hSeeded.free_iff 0x108).mpr
    exact ⟨by decide, ⟨extendedRegion, by simp, hOffered⟩, by decide, by decide⟩
  exact ⟨built, free, seeded.under {}, hBuild zero, hRun, hReferenced, hFree⟩

end BootBlock
end TwoLevelPaging
