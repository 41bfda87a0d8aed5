import TwoLevelPaging.Proofs.BringUp.Seeding
import TwoLevelPaging.Proofs.Identity.Regions

/-!
# The memory map decides which frames are free

After the bitmap has been filled, a frame is free exactly if it is `Usable`: it is managed, one
available region has all its bytes, and neither the kernel image nor the text buffer is in the
way.  The bitmap is determined by this, down to its last bit.  So it does not matter what the
bitmap was before, in what order the firmware lists the regions, or how often it lists them
(`Action.seedFrames_frees_usable`).
-/

namespace TwoLevelPaging

/-- The frame may be handed out when memory has been brought up.  The image ends at the
physical address behind its last byte, which is counted modulo the size of the address
space. -/
structure Usable (size : Nat) (boot : BootInfo) (regions : List MemoryRegion)
    (image : KernelImage) (frame : Nat) : Prop where
  managed : frame < min (boot.memoryLimit / 4096) (size * 8)
  available : ∃ region ∈ regions, region.isAvailable = true ∧
    ∀ byte, frame * 4096 ≤ byte → byte < (frame + 1) * 4096 → region.Holds byte
  above_image :
    roundUpDiv ((image.stop.toNat + 0x100000000 - 0xC0000000) % 0x100000000) 4096 ≤ frame
  not_text : frame ≠ 0xB8

/-- The end of the image, as a physical address. -/
theorem KernelImage.toNat_physicalStop (image : KernelImage) :
    image.physicalStop.toNat =
      (image.stop.toNat + 0x100000000 - 0xC0000000) % 0x100000000 := by
  have hHalf : (UInt32.ofNat Layout.higherHalf).toNat = 0xC0000000 := rfl
  have hStop : image.stop.toNat = image.stop.word.toNat := rfl
  rw [KernelImage.physicalStop, KernelImage.physical, Address.toNat, UInt32.toNat_sub, hHalf,
    hStop]
  omega

/-- A region offers a frame if it is available and has all bytes of the frame. -/
theorem MemoryRegion.offers_iff (region : MemoryRegion) (frame : Nat) :
    region.Offers frame ↔ region.isAvailable = true ∧
      ∀ byte, frame * 4096 ≤ byte → byte < (frame + 1) * 4096 → region.Holds byte := by
  rw [Offers, mem_wholeFrames_iff, Contains]
  refine and_congr_right fun _ => forall_congr' fun byte => ?_
  have hFrame : byte / Layout.pageBytes = frame ↔
      frame * 4096 ≤ byte ∧ byte < (frame + 1) * 4096 := by
    simp only [Layout.pageBytes]
    omega
  rw [hFrame, and_imp]

theorem freeAfterSeeding_iff_usable (size : Nat) (boot : BootInfo) (regions : List MemoryRegion)
    (image : KernelImage) (frame : Nat) :
    Machine.FreeAfterSeeding size boot regions image frame ↔
      Usable size boot regions image frame := by
  have hImage : image.frames =
      roundUpDiv ((image.stop.toNat + 0x100000000 - 0xC0000000) % 0x100000000) 4096 := by
    rw [KernelImage.frames, KernelImage.toNat_physicalStop]
    rfl
  have hText : Layout.textFrame.number = 0xB8 := rfl
  have hLimit : FrameBitmap.framesBelow boot.memoryLimit = boot.memoryLimit / 4096 := rfl
  simp only [Machine.FreeAfterSeeding, MemoryRegion.offers_iff, hImage, hText, hLimit]
  constructor
  · rintro ⟨hManaged, hAvailable, hAbove, hText⟩
    exact ⟨hManaged, hAvailable, hAbove, hText⟩
  · rintro ⟨hManaged, hAvailable, hAbove, hText⟩
    exact ⟨hManaged, hAvailable, hAbove, hText⟩

/-- Lists with the same regions make the same frames usable. -/
theorem Usable.congr {size : Nat} {boot : BootInfo} {regions others : List MemoryRegion}
    {image : KernelImage} {frame : Nat} (hSame : ∀ region, region ∈ others ↔ region ∈ regions) :
    Usable size boot others image frame ↔ Usable size boot regions image frame := by
  constructor
  · rintro ⟨hManaged, ⟨region, hMember, hOffers⟩, hAbove, hText⟩
    exact ⟨hManaged, ⟨region, (hSame region).mp hMember, hOffers⟩, hAbove, hText⟩
  · rintro ⟨hManaged, ⟨region, hMember, hOffers⟩, hAbove, hText⟩
    exact ⟨hManaged, ⟨region, (hSame region).mpr hMember, hOffers⟩, hAbove, hText⟩

namespace Action

variable {size : Nat}

/-- Filling the bitmap frees exactly the usable frames and answers with their number.  The
answer and the bitmap are the same for every machine, whatever its bitmap was before, and for
every list of the same regions, whatever their order is and however often they are listed. -/
theorem seedFrames_frees_usable (hSize : size ≤ FrameBitmap.fullSize) (boot : BootInfo)
    (regions : List MemoryRegion) (image : KernelImage) :
    ∃ free, ∃ pool : FrameBitmap size,
      (∀ frame, pool.freeAt frame = true ↔ Usable size boot regions image frame) ∧
      (∃ frames : Finset Nat, (∀ frame, frame ∈ frames ↔ Usable size boot regions image frame) ∧
        free = frames.card) ∧
      ∀ (machine : Machine (FrameBitmap size)) (list : List MemoryRegion),
        (∀ region, region ∈ list ↔ region ∈ regions) →
          ∃ events, (seedFrames boot list image).run machine =
            .done free (machine.draw pool events) := by
  have hWords : size * 8 < 0x100000000 := by
    unfold FrameBitmap.fullSize at hSize
    omega
  have hDraws : ∀ (bitmap : FrameBitmap size) (list : List MemoryRegion),
      (∀ region, region ∈ list ↔ region ∈ regions) →
        Draws (seedFrames boot list image) bitmap fun free after =>
          (bitmap.start boot.memoryLimit).Refills after (Usable size boot regions image) ∧
            free = after.freeSet.card := by
    intro bitmap list hSame
    refine (draws_seedFrames hWords bitmap boot list image).mono ?_
    rintro free after ⟨hRefills, hFree⟩
    exact ⟨hRefills.congr fun frame => (freeAfterSeeding_iff_usable _ _ _ _ _).trans
      (Usable.congr hSame), hFree⟩
  obtain ⟨free, pool, -, ⟨hRefills, rfl⟩, -⟩ :=
    hDraws (.empty size) regions fun _ => Iff.rfl
  refine ⟨pool.freeSet.card, pool, hRefills.free_iff, ⟨pool.freeSet, ?_, rfl⟩, ?_⟩
  · intro frame
    rw [FrameBitmap.mem_freeSet, hRefills.free_iff]
  · intro machine list hSame
    obtain ⟨other, reached, events, ⟨hReached, rfl⟩, hRun⟩ := hDraws machine.source list hSame
    -- Both bitmaps have been filled with the same frames from the same start.
    obtain rfl := hReached.unique hRefills
    exact ⟨events, hRun machine rfl⟩

/-- Two available regions that share frame 6.  Neither has a base or an end on a frame
boundary. -/
def overlappingRegions : List MemoryRegion :=
  [⟨0x2800, 0x4FFF, MemoryRegion.availableKind⟩, ⟨0x5001, 0x4000, MemoryRegion.availableKind⟩]

/-- An image that ends with the first byte of frame 3. -/
def unalignedImage : KernelImage :=
  ⟨Address.ofNat 0xC0000000, Address.ofNat 0xC0003001, Address.ofNat 0x100000⟩

/-- Listed twice and backwards, the two regions free what they free when they are listed
once. -/
theorem seedFrames_frees_overlapping : 4 ≤ FrameBitmap.fullSize ∧
    ∃ (free : Nat) (pool : FrameBitmap 4),
      pool.freeAt 3 = false ∧ pool.freeAt 4 = true ∧ pool.freeAt 8 = true ∧
        pool.freeAt 9 = false ∧
      ∀ list ∈ [overlappingRegions, overlappingRegions.reverse ++ overlappingRegions.reverse],
        ∀ machine : Machine (FrameBitmap 4), ∃ events,
          (seedFrames ⟨640, 0, 0, 0⟩ list unalignedImage).run machine =
            .done free (machine.draw pool events) := by
  have hSize : 4 ≤ FrameBitmap.fullSize := by decide
  obtain ⟨free, pool, hUsable, -, hRun⟩ :=
    seedFrames_frees_usable hSize ⟨640, 0, 0, 0⟩ overlappingRegions unalignedImage
  have hMember : ∀ region, region ∈ overlappingRegions ↔
      region = ⟨0x2800, 0x4FFF, MemoryRegion.availableKind⟩ ∨
        region = ⟨0x5001, 0x4000, MemoryRegion.availableKind⟩ := by
    simp [overlappingRegions]
  refine ⟨hSize, free, pool, ?_, ?_, ?_, ?_, ?_⟩
  · rw [← Bool.not_eq_true, hUsable]
    intro hFrame
    exact absurd hFrame.above_image (by decide)
  · refine (hUsable 4).mpr
      ⟨by decide, ⟨_, (hMember _).mpr (.inl rfl), rfl, ?_⟩, by decide, by decide⟩
    intro byte hFirst hLast
    exact ⟨Nat.le_trans (by decide) hFirst, Nat.lt_of_lt_of_le hLast (by decide)⟩
  · refine (hUsable 8).mpr
      ⟨by decide, ⟨_, (hMember _).mpr (.inr rfl), rfl, ?_⟩, by decide, by decide⟩
    intro byte hFirst hLast
    exact ⟨Nat.le_trans (by decide) hFirst, Nat.lt_of_lt_of_le hLast (by decide)⟩
  · rw [← Bool.not_eq_true, hUsable]
    intro hFrame
    obtain ⟨region, hListed, -, hBytes⟩ := hFrame.available
    -- The last byte of the frame is behind the end of both regions.
    obtain ⟨-, hStop⟩ := hBytes 0x9FFF (by decide) (by decide)
    rcases (hMember region).mp hListed with rfl | rfl <;> exact absurd hStop (by decide)
  · intro list hList machine
    refine hRun machine list ?_
    intro region
    simp only [List.mem_cons, List.not_mem_nil, or_false] at hList
    rcases hList with rfl | rfl <;> simp

end Action
end TwoLevelPaging
