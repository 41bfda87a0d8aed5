import TwoLevelPaging.Identity

/-!
# Regions byte by byte

A region is a run of bytes, and frames are runs of 4096 bytes.  The two roundings of a region
are told by its bytes here: the whole frames are those with all their bytes in the region
(`mem_wholeFrames_iff`), and the covering frames of a region with a byte at all are those with
some byte in it (`covers_iff_touches`).  A region without bytes is rounded outward as well, to
the frame that its base cuts in two (`covers_iff`).  `wholeFrames_coveringFrames` puts both
together for every 64-bit base and length.

`exists_reservedFrames_eq` lists the frames below 4 GiB that are covered by the regions that
the firmware keeps.
-/

namespace TwoLevelPaging
namespace MemoryRegion

variable {region : MemoryRegion} {regions : List MemoryRegion} {frame : Nat}

/-! ## Bytes of a region -/

/-- The byte belongs to the region. -/
def Holds (region : MemoryRegion) (byte : Nat) : Prop :=
  region.base.toNat ≤ byte ∧ byte < region.stop

/-- Some byte of the frame belongs to the region. -/
def Touches (region : MemoryRegion) (frame : Nat) : Prop :=
  ∃ byte, byte / Layout.pageBytes = frame ∧ region.Holds byte

/-- All bytes of the frame belong to the region. -/
def Contains (region : MemoryRegion) (frame : Nat) : Prop :=
  ∀ byte, byte / Layout.pageBytes = frame → region.Holds byte

/-- A frame is in a region as a whole if its first byte and its last one are. -/
theorem contains_iff : region.Contains frame ↔
    region.base.toNat ≤ frame * 4096 ∧ frame * 4096 + 4096 ≤ region.stop := by
  constructor
  · intro hContains
    have hFirst := hContains (frame * 4096) (by simp only [Layout.pageBytes]; omega)
    have hLast := hContains (frame * 4096 + 4095) (by simp only [Layout.pageBytes]; omega)
    exact ⟨hFirst.1, hLast.2⟩
  · rintro ⟨hBase, hStop⟩ byte hByte
    simp only [Layout.pageBytes] at hByte
    constructor <;> omega

/-- Rounding inward leaves the frames that are in the region as a whole. -/
theorem mem_wholeFrames_iff : frame ∈ region.wholeFrames ↔ region.Contains frame := by
  rw [contains_iff]
  show region.wholeFrames.first ≤ frame ∧
    frame < region.wholeFrames.first + region.wholeFrames.count ↔ _
  by_cases hSome : roundUpDiv region.base.toNat Layout.pageBytes < region.stop / Layout.pageBytes
  · simp only [wholeFrames, if_pos hSome]
    simp only [roundUpDiv, Layout.pageBytes] at *
    omega
  · simp only [wholeFrames, if_neg hSome]
    simp only [roundUpDiv, Layout.pageBytes] at *
    omega

/-- The frame is not in front of the base, and starts below the end. -/
def Covers (region : MemoryRegion) (frame : Nat) : Prop :=
  region.base.toNat / Layout.pageBytes ≤ frame ∧ frame * Layout.pageBytes < region.stop

theorem base_le_stop (region : MemoryRegion) : region.base.toNat ≤ region.stop := by
  have hBase := region.base.toNat_lt
  rw [stop]
  omega

/-- Rounding outward never goes below zero: the end is not in front of the base. -/
theorem coveringFrames_eq (region : MemoryRegion) :
    region.coveringFrames = .ok ⟨region.base.toNat / Layout.pageBytes,
      roundUpDiv region.stop Layout.pageBytes - region.base.toNat / Layout.pageBytes⟩ := by
  have hStop := region.base_le_stop
  have hOrder : region.base.toNat / Layout.pageBytes ≤
      roundUpDiv region.stop Layout.pageBytes := by
    simp only [roundUpDiv, Layout.pageBytes]
    omega
  have hCount := (Checked.difference_eq_ok_iff _ _ _).mpr ⟨hOrder, rfl⟩
  rw [coveringFrames, hCount]
  rfl

/-- Rounding outward leaves the covered frames. -/
theorem exists_coveringFrames_eq (region : MemoryRegion) :
    ∃ range, region.coveringFrames = .ok range ∧
      ∀ frame, frame ∈ range ↔ region.Covers frame := by
  have hStop := region.base_le_stop
  refine ⟨_, region.coveringFrames_eq, ?_⟩
  intro frame
  show _ ≤ frame ∧ frame < _ + _ ↔ _
  simp only [Covers, roundUpDiv, Layout.pageBytes]
  omega

/-- A region with bytes covers the frames that it shares a byte with. -/
theorem covers_iff_touches (hBytes : region.base.toNat < region.stop) :
    region.Covers frame ↔ region.Touches frame := by
  simp only [Covers, Touches, Holds, Layout.pageBytes]
  constructor
  · rintro ⟨hBase, hStop⟩
    -- The first byte of the frame is in the region, or the base is in the frame.
    exact ⟨max (frame * 4096) region.base.toNat, by omega, by omega, by omega⟩
  · rintro ⟨byte, rfl, hBase, hStop⟩
    omega

/-- The region has no bytes, and its base lies inside the frame, behind the first byte. -/
def Cuts (region : MemoryRegion) (frame : Nat) : Prop :=
  region.stop = region.base.toNat ∧ region.base.toNat % Layout.pageBytes ≠ 0 ∧
    region.base.toNat / Layout.pageBytes = frame

theorem Cuts.not_touches (hCuts : region.Cuts frame) (other : Nat) : ¬ region.Touches other := by
  rintro ⟨byte, -, hBase, hStop⟩
  have hEmpty := hCuts.1
  omega

/-- Only a region without bytes covers a frame that it does not share a byte with. -/
theorem covers_iff : region.Covers frame ↔ region.Touches frame ∨ region.Cuts frame := by
  by_cases hBytes : region.base.toNat < region.stop
  · have hCuts : ¬ region.Cuts frame := fun hCuts => absurd hCuts.1 (by omega)
    rw [covers_iff_touches hBytes, or_iff_left hCuts]
  · have hEmpty : region.stop = region.base.toNat :=
      Nat.le_antisymm (Nat.not_lt.mp hBytes) region.base_le_stop
    have hTouches : ¬ region.Touches frame := by
      rintro ⟨byte, -, hBase, hStop⟩
      omega
    rw [or_iff_right hTouches]
    simp only [Covers, Cuts, hEmpty, true_and, Layout.pageBytes]
    omega

/-- A frame with all its bytes in the region has one in it. -/
theorem Contains.touches (hContains : region.Contains frame) : region.Touches frame :=
  ⟨frame * Layout.pageBytes, Nat.mul_div_cancel frame (by decide),
    hContains _ (Nat.mul_div_cancel frame (by decide))⟩

/-- The number of frames in a 64-bit address space. -/
def frameNumbers : Nat := 0x10000000000000

/-- The end of a region, rounded up to a frame, is at most the end of the 64-bit address space. -/
theorem roundUpDiv_stop_le (region : MemoryRegion) :
    roundUpDiv region.stop Layout.pageBytes ≤ frameNumbers := by
  simp only [stop, roundUpDiv, Layout.pageBytes, frameNumbers]
  omega

theorem wholeFrames_le (region : MemoryRegion) :
    region.wholeFrames.first + region.wholeFrames.count ≤ frameNumbers := by
  have hBase := region.base.toNat_lt
  have hStop := region.roundUpDiv_stop_le
  by_cases hSome : roundUpDiv region.base.toNat Layout.pageBytes < region.stop / Layout.pageBytes
  · simp only [wholeFrames, if_pos hSome]
    simp only [roundUpDiv, Layout.pageBytes, frameNumbers] at *
    omega
  · simp only [wholeFrames, if_neg hSome]
    simp only [roundUpDiv, Layout.pageBytes, frameNumbers]
    omega

/-- Both roundings of any region, the saturated ones and those without bytes included: neither
overflows nor goes below zero.  Inward, exactly the frames with all their bytes in the region are
left.  Outward, they are those with some byte in it, and the frame that a region without bytes
cuts; so the outward one is exact just for regions that have bytes or start with a frame. -/
theorem wholeFrames_coveringFrames (region : MemoryRegion) :
    ∃ covering, region.coveringFrames = .ok covering ∧
      (∀ frame, frame ∈ covering ↔ region.Touches frame ∨ region.Cuts frame) ∧
      (∀ frame, frame ∈ region.wholeFrames ↔ region.Contains frame) ∧
      (∀ frame, frame ∈ region.wholeFrames → frame ∈ covering) ∧
      covering.first + covering.count ≤ frameNumbers ∧
      region.wholeFrames.first + region.wholeFrames.count ≤ frameNumbers ∧
      ((∀ frame, frame ∈ covering ↔ region.Touches frame) ↔
        region.base.toNat < region.stop ∨ region.base.toNat % Layout.pageBytes = 0) := by
  obtain ⟨covering, hCovering, hCovers⟩ := region.exists_coveringFrames_eq
  have hMembers : ∀ frame, frame ∈ covering ↔ region.Touches frame ∨ region.Cuts frame :=
    fun frame => (hCovers frame).trans covers_iff
  refine ⟨covering, hCovering, hMembers, fun _ => mem_wholeFrames_iff, ?_, ?_,
    region.wholeFrames_le, ?_⟩
  · intro frame hWhole
    exact (hMembers frame).mpr (.inl (mem_wholeFrames_iff.mp hWhole).touches)
  · have hStop := region.roundUpDiv_stop_le
    have hOrder := region.base_le_stop
    rw [coveringFrames_eq] at hCovering
    obtain rfl := Except.ok.inj hCovering
    simp only [roundUpDiv, Layout.pageBytes] at *
    omega
  · constructor
    · intro hExact
      by_cases hBytes : region.base.toNat < region.stop
      · exact .inl hBytes
      · by_cases hStart : region.base.toNat % Layout.pageBytes = 0
        · exact .inr hStart
        · -- The frame of the base would be touched, but no byte is in the region.
          have hCuts : region.Cuts (region.base.toNat / Layout.pageBytes) :=
            ⟨Nat.le_antisymm (Nat.not_lt.mp hBytes) region.base_le_stop, hStart, rfl⟩
          exact absurd ((hExact _).mp ((hMembers _).mpr (.inr hCuts))) (hCuts.not_touches _)
    · intro hSome frame
      have hCuts : ¬ region.Cuts frame := by
        rintro ⟨hEmpty, hInside, -⟩
        omega
      rw [hMembers, or_iff_left hCuts]

/-- The empty region at `0x1800` shares no byte with any frame, but is rounded outward to one. -/
theorem coveringFrames_of_empty :
    (⟨0x1800, 0, reservedKind⟩ : MemoryRegion).coveringFrames = .ok ⟨1, 1⟩ ∧
      ∀ frame, ¬ (⟨0x1800, 0, reservedKind⟩ : MemoryRegion).Touches frame := by
  have hCuts : (⟨0x1800, 0, reservedKind⟩ : MemoryRegion).Cuts 1 := by
    refine ⟨?_, ?_, ?_⟩ <;> decide +kernel
  exact ⟨coveringFrames_eq _, hCuts.not_touches⟩

/-! ## Memory maps -/

/-- The frame shares a byte with a region that the firmware keeps. -/
def Kept (regions : List MemoryRegion) (frame : Nat) : Prop :=
  ∃ region ∈ regions, region.isAvailable = false ∧ region.Touches frame

/-- No byte belongs both to an available region and to one that the firmware keeps. -/
def Apart (regions : List MemoryRegion) : Prop :=
  ∀ usable ∈ regions, usable.isAvailable = true → ∀ kept ∈ regions, kept.isAvailable = false →
    ∀ byte, ¬ (usable.Holds byte ∧ kept.Holds byte)

/-- Every region that the firmware keeps has bytes or starts with a frame. -/
def Sharp (regions : List MemoryRegion) : Prop :=
  ∀ region ∈ regions, region.isAvailable = false →
    region.base.toNat < region.stop ∨ region.base.toNat % Layout.pageBytes = 0

/-- Both kinds of regions claim the frame: an available region has all its bytes, and one that
the firmware keeps claims it, as `claims` says. -/
def Disputed (regions : List MemoryRegion) (claims : MemoryRegion → Nat → Prop) (frame : Nat) :
    Prop :=
  ∃ usable ∈ regions, usable.isAvailable = true ∧ usable.Contains frame ∧
    ∃ kept ∈ regions, kept.isAvailable = false ∧ claims kept frame

/-- Where the two kinds of regions are apart, no frame with a kept byte is in an available
region as a whole. -/
theorem Apart.not_disputed (hApart : Apart regions) : ¬ Disputed regions Touches frame := by
  rintro ⟨usable, hUsable, hAvailable, hContains, kept, hKept, hReserved, byte, hByte, hHolds⟩
  exact hApart usable hUsable hAvailable kept hKept hReserved byte
    ⟨hContains byte hByte, hHolds⟩

/-- Regions with bytes, and those that start with a frame, cover the frames that they share a
byte with. -/
theorem Sharp.touches_of_covers (hSharp : Sharp regions) {region : MemoryRegion}
    (hMember : region ∈ regions) (hReserved : region.isAvailable = false)
    (hCovers : region.Covers frame) : region.Touches frame := by
  rcases covers_iff.mp hCovers with hTouches | ⟨hEmpty, hInside, -⟩
  · exact hTouches
  · rcases hSharp region hMember hReserved with hBytes | hStart
    · omega
    · exact absurd hStart hInside

/-- If moreover the regions that the firmware keeps have bytes or start with a frame, rounding
them outward does not make them meet the available ones. -/
theorem Apart.not_disputed_of_sharp (hApart : Apart regions) (hSharp : Sharp regions) :
    ¬ Disputed regions Covers frame := by
  rintro ⟨usable, hUsable, hAvailable, hContains, kept, hKept, hReserved, hCovers⟩
  exact hApart.not_disputed ⟨usable, hUsable, hAvailable, hContains, kept, hKept, hReserved,
    hSharp.touches_of_covers hKept hReserved hCovers⟩

theorem exists_lowFrames_eq (region : MemoryRegion) :
    ∃ frames, region.lowFrames = .ok frames ∧
      ∀ frame, frame ∈ frames ↔ frame < frameLimit ∧ region.Covers frame := by
  obtain ⟨range, hRange, hCovers⟩ := region.exists_coveringFrames_eq
  refine ⟨_, by rw [lowFrames, hRange]; rfl, ?_⟩
  intro frame
  rw [← hCovers, List.mem_range'_1]
  show _ ↔ frame < frameLimit ∧ range.first ≤ frame ∧ frame < range.first + range.count
  simp only [frameLimit]
  omega

/-- The frames that are mapped to themselves are those below 4 GiB that a region covers which
the firmware keeps. -/
theorem exists_reservedFrames_eq (regions : List MemoryRegion) :
    ∃ frames, reservedFrames regions = .ok frames ∧
      ∀ frame, frame ∈ frames ↔ frame < frameLimit ∧
        ∃ region ∈ regions, region.isAvailable = false ∧ region.Covers frame := by
  induction regions with
  | nil => exact ⟨[], rfl, by simp⟩
  | cons region rest ih =>
      obtain ⟨others, hOthers, hRest⟩ := ih
      cases hAvailable : region.isAvailable with
      | true =>
          refine ⟨others, by rw [reservedFrames, hAvailable, hOthers]; rfl, ?_⟩
          intro frame
          simp [hRest, hAvailable]
      | false =>
          obtain ⟨frames, hFrames, hLow⟩ := region.exists_lowFrames_eq
          refine ⟨frames ++ others,
            by rw [reservedFrames, hAvailable, hFrames, hOthers]; rfl, ?_⟩
          intro frame
          simp only [List.mem_append, hLow, hRest, List.mem_cons, exists_eq_or_imp, hAvailable,
            true_and, ← and_or_left]

end MemoryRegion
end TwoLevelPaging
