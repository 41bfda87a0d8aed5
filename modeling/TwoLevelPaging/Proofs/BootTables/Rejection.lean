import TwoLevelPaging.Proofs.BootTables.Build

/-!
# Which images are refused

`BootBlock.build` makes four checks of an image, and writes the mapping of low memory between
the first one and the others.  `Refuses` states for each error the arithmetic condition on the
three addresses of the image under which it is the answer; at most one error applies, and an
image is accepted exactly if none does.

`build_result` says how every build ends, whatever the block has held: with the error that
applies or with the directory, and in which state it leaves the block.  A refused image leaves
no entry of the kernel, and no entry that was in the block before.
-/

namespace TwoLevelPaging

namespace KernelImage

/-- The loader stub ends within the 4 MiB that one table maps. -/
def LoaderFits (image : KernelImage) : Prop :=
  image.loaderEnd.toNat ≤ PageSize.large.bytes

/-- The image is a range of the higher half, and the slots of its tables are below the one of
the scratch page. -/
structure InKernelSpace (image : KernelImage) : Prop where
  higher : Layout.higherHalf ≤ image.start.toNat
  ordered : image.start.toNat ≤ image.stop.toNat
  below : image.start.toNat / PageSize.large.bytes + Layout.kernelTables ≤ Layout.scratchSlot.val

/-- The number of tables for the pages of the image, the entries in front of the first page
included. -/
def tablesNeeded (image : KernelImage) : Nat :=
  roundUpDiv (image.start.toNat / Layout.pageBytes % Layout.entriesPerTable + image.pageCount)
    Layout.entriesPerTable

end KernelImage

namespace BootBlock

variable {address : Address .physical} {image : KernelImage} {error : BootError}

/-! ## The checks -/

theorem identityPages_le_iff : identityPages image ≤ Layout.entriesPerTable ↔ image.LoaderFits := by
  simp only [identityPages, roundUpDiv, Layout.entriesPerTable, Layout.lowMemoryBytes,
    Layout.pageBytes, KernelImage.LoaderFits, PageSize.bytes]
  omega

theorem isValidKernel_iff : isValidKernel image = true ↔ image.InKernelSpace := by
  have hSlot : (firstPage image).directorySlot.val = image.start.toNat / PageSize.large.bytes := by
    simp only [firstPage, Page.directorySlot, Page.number_containing, PageSize.bytes]
    omega
  simp only [isValidKernel, hSlot, Bool.and_eq_true, decide_eq_true_eq]
  constructor
  · rintro ⟨⟨hHigher, hOrdered⟩, hBelow⟩
    exact ⟨hHigher, hOrdered, hBelow⟩
  · rintro ⟨hHigher, hOrdered, hBelow⟩
    exact ⟨⟨hHigher, hOrdered⟩, hBelow⟩

theorem neededTables_eq (image : KernelImage) : neededTables image = image.tablesNeeded :=
  rfl

/-- The error with which an image is refused.  A check is only reached by an image that passes
those before it. -/
inductive Refuses (image : KernelImage) : BootError → Prop where
  | loader (hLoader : ¬ image.LoaderFits) : Refuses image (.loaderTooLarge image.loaderEnd)
  | range (hLoader : image.LoaderFits) (hRange : ¬ image.InKernelSpace) :
      Refuses image (.invalidKernel image.start image.stop)
  | size (hLoader : image.LoaderFits) (hRange : image.InKernelSpace)
      (hSize : Layout.kernelTables < image.tablesNeeded) :
      Refuses image (.kernelTooLarge image.tablesNeeded)

theorem Refuses.unique {other : BootError} (hRefuses : Refuses image error)
    (hOther : Refuses image other) : error = other := by
  cases hRefuses with
  | loader hLoader =>
      cases hOther with
      | loader => rfl
      | range hFits => exact absurd hFits hLoader
      | size hFits => exact absurd hFits hLoader
  | range hFits hRange =>
      cases hOther with
      | loader hLoader => exact absurd hFits hLoader
      | range => rfl
      | size _ hValid => exact absurd hValid hRange
  | size hFits hValid =>
      cases hOther with
      | loader hLoader => exact absurd hFits hLoader
      | range _ hRange => exact absurd hValid hRange
      | size => rfl

theorem Accepts.not_refuses (hAccepts : Accepts address image) (error : BootError) :
    ¬ Refuses image error := by
  intro hRefuses
  cases hRefuses with
  | loader hLoader => exact hLoader (identityPages_le_iff.mp hAccepts.low)
  | range _ hRange => exact hRange (isValidKernel_iff.mp hAccepts.valid)
  | size _ _ hSize => exact Nat.not_le.mpr hSize hAccepts.tables

/-- An image that no check refuses is accepted. -/
theorem accepts_or_refuses (hAligned : address.isAligned .small = true) (image : KernelImage) :
    Accepts address image ∨ ∃ error, Refuses image error := by
  by_cases hLow : identityPages image ≤ Layout.entriesPerTable
  · have hLoader := identityPages_le_iff.mp hLow
    by_cases hValid : isValidKernel image = true
    · have hRange := isValidKernel_iff.mp hValid
      by_cases hTables : neededTables image ≤ Layout.kernelTables
      · exact .inl ⟨hAligned, hLow, hValid, hTables⟩
      · exact .inr ⟨_, .size hLoader hRange (Nat.not_le.mp hTables)⟩
    · exact .inr ⟨_, .range hLoader fun hRange => hValid (isValidKernel_iff.mpr hRange)⟩
  · exact .inr ⟨_, .loader fun hLoader => hLow (identityPages_le_iff.mpr hLoader)⟩

/-! ## What a refusal leaves -/

/-- The block maps low memory and the loader stub to themselves, and has no other entry. -/
structure LowOnly (address : Address .physical) (image : KernelImage) (block : BootBlock) :
    Prop where
  directory : ∀ slot : Slot, block.directory.get slot =
    if slot.val = 0 then Entry.link (Action.blockFrame address 1) .kernelReadWrite
    else Entry.zero
  leaves : ∀ (table : Fin 5) (slot : Slot), block.leafAt table slot =
    if table.val = 0 ∧ slot.val < identityPages image then
      Entry.leaf (Page.ofNumber slot.val) Flags.kernelReadWrite.word
    else Entry.zero

/-- What is in the block after an error: nothing if the loader stub is too large, and the
mapping of low memory if the kernel is refused. -/
def Leaves (address : Address .physical) (image : KernelImage) (block : BootBlock) :
    BootError → Prop
  | .loaderTooLarge _ => block = zero
  | .invalidKernel .. => LowOnly address image block
  | .kernelTooLarge _ => LowOnly address image block

theorem Fits.exists_lowOnly (hFits : Fits address) (hLoader : image.LoaderFits) :
    ∃ after, buildIdentity zero address image = .ok after ∧ LowOnly address image after := by
  have hLow := identityPages_le_iff.mpr hLoader
  obtain ⟨after, hBuild, hFilled, hDirectory⟩ := hFits.exists_buildIdentity_eq hLow
  refine ⟨after, hBuild, ?_, ?_⟩
  · intro slot
    rw [hDirectory]
    simp only [Fin.ext_iff, Fin.val_zero]
  · intro table slot
    by_cases hInside : table.val = 0 ∧ slot.val < identityPages image
    · rw [if_pos hInside]
      exact hFilled.inside table slot slot.val hInside.2 (by omega)
    · rw [if_neg hInside, hFilled.outside, leafAt_zero]
      -- An entry of another table lies behind the 1024 positions of the first one.
      intro index hIndex hPosition
      have hRoom : identityPages image ≤ 1024 := hLow
      omega

/-- A refused image ends the build with its error, and the block in the same state whatever it
has held. -/
theorem Refuses.exists_build_eq (hRefuses : Refuses image error)
    (hAligned : address.isAligned .small = true) (hFits : Fits address) :
    ∃ after, Leaves address image after error ∧
      ∀ block : BootBlock, block.build address image = .ok (.error error, after) := by
  cases hRefuses with
  | loader hLoader =>
      have hLow : Layout.entriesPerTable < identityPages image :=
        Nat.not_le.mp fun hLow => hLoader (identityPages_le_iff.mp hLow)
      refine ⟨zero, rfl, ?_⟩
      intro block
      rw [build, hAligned, Checked.require, if_pos rfl, Checked.ok_bind, wipe_eq_zero,
        if_pos hLow]
      rfl
  | range hLoader hRange =>
      obtain ⟨after, hIdentity, hLeft⟩ := hFits.exists_lowOnly hLoader
      have hLow := Nat.not_lt.mpr (identityPages_le_iff.mpr hLoader)
      have hInvalid : isValidKernel image = false :=
        Bool.eq_false_iff.mpr fun hValid => hRange (isValidKernel_iff.mp hValid)
      refine ⟨after, hLeft, ?_⟩
      intro block
      rw [build, hAligned, Checked.require, if_pos rfl, Checked.ok_bind, wipe_eq_zero,
        if_neg hLow, hIdentity, Checked.ok_bind, hInvalid, if_pos (by decide)]
      rfl
  | size hLoader hRange hSize =>
      obtain ⟨after, hIdentity, hLeft⟩ := hFits.exists_lowOnly hLoader
      have hLow := Nat.not_lt.mpr (identityPages_le_iff.mpr hLoader)
      have hValid := isValidKernel_iff.mpr hRange
      refine ⟨after, hLeft, ?_⟩
      intro block
      rw [build, hAligned, Checked.require, if_pos rfl, Checked.ok_bind, wipe_eq_zero,
        if_neg hLow, hIdentity, Checked.ok_bind, hValid, if_neg (by decide), neededTables_eq,
        if_pos hSize]
      rfl

/-! ## How a build ends -/

/-- The registers that turn paging on with the directory in this frame. -/
def switchTo (current : Cr0) (directory : Frame) : PagingSwitch :=
  ⟨⟨directory.base.word⟩, current.set .paging true⟩

/-- Preparing the registers adds no failure of its own: it passes an error on. -/
theorem prepare_eq_of_build_eq (hAligned : address.isAligned .small = true)
    {block after : BootBlock} {result : Except BootError Frame}
    (hBuild : block.build address image = .ok (result, after))
    (hDirectory : ∀ directory, result = .ok directory → directory = Page.containing address)
    (current : Cr0) :
    PagingSwitch.prepare block address image current =
      .ok (result.map (switchTo current), after) := by
  rw [PagingSwitch.prepare, hBuild, Checked.ok_bind]
  cases result with
  | error error => rfl
  | ok directory =>
      obtain rfl := hDirectory directory rfl
      have hBase : (Page.containing address : Frame).base = address := Page.base_containing hAligned
      have hRegister : Cr3.ofDirectory (Page.containing address : Frame).base false false =
          .ok ⟨(Page.containing address : Frame).base.word⟩ := by
        rw [hBase, Cr3.ofDirectory, hAligned]
        show Except.ok (Cr3.mk (UInt32.ofNat (0 + 0 + address.toNat))) = _
        rw [Nat.zero_add, Address.toNat, UInt32.ofNat_toNat]
      show (Cr3.ofDirectory (Page.containing address : Frame).base false false >>= _) = _
      rw [hRegister]
      rfl

/-- Every build in a block at the base of a frame ends with an answer.  The error is the one
with which the image is refused, and the directory is there exactly if none is; after an error
only the mapping of low memory can be in the block, and the registers are not prepared. -/
theorem build_result (hAligned : address.isAligned .small = true) (hFits : Fits address)
    (block : BootBlock) (image : KernelImage) :
    ∃ (result : Except BootError Frame) (after : BootBlock),
      block.build address image = .ok (result, after) ∧
      (∀ error, result = .error error ↔ Refuses image error) ∧
      (∀ directory, result = .ok directory ↔
        directory = Page.containing address ∧ ∀ error, ¬ Refuses image error) ∧
      (∀ error, result = .error error → Leaves address image after error) ∧
      ∀ current, PagingSwitch.prepare block address image current =
        .ok (result.map (switchTo current), after) := by
  rcases accepts_or_refuses hAligned image with hAccepts | ⟨error, hRefuses⟩
  · have hNone := hAccepts.not_refuses
    obtain ⟨built, hBuild, -⟩ := exists_build_eq hFits hAccepts
    refine ⟨_, built, hBuild block, ?_, ?_, ?_, ?_⟩
    · intro error
      exact iff_of_false (fun hError => by cases hError) (hNone error)
    · intro directory
      constructor
      · intro hOk
        exact ⟨(Except.ok.inj hOk).symm, hNone⟩
      · rintro ⟨rfl, -⟩
        rfl
    · intro error hError
      cases hError
    · exact prepare_eq_of_build_eq hAligned (hBuild block) fun directory hOk =>
        (Except.ok.inj hOk).symm
  · obtain ⟨after, hLeaves, hBuild⟩ := hRefuses.exists_build_eq hAligned hFits
    refine ⟨.error error, after, hBuild block, ?_, ?_, ?_, ?_⟩
    · intro other
      constructor
      · intro hOther
        obtain rfl := Except.error.inj hOther
        exact hRefuses
      · intro hOther
        rw [hRefuses.unique hOther]
    · intro directory
      constructor
      · intro hOk
        cases hOk
      · rintro ⟨-, hNone⟩
        exact absurd hRefuses (hNone error)
    · intro other hOther
      obtain rfl := Except.error.inj hOther
      exact hLeaves
    · exact prepare_eq_of_build_eq hAligned (hBuild block) fun directory hOk => by cases hOk

/-- An image of 3073 pages, one more than the kernel tables have entries. -/
def oversizedImage : KernelImage :=
  ⟨Address.ofNat 0xC0000000, Address.ofNat 0xC0C01000, Address.ofNat 0x00101000⟩

/-- A block that still links a table at the last slot. -/
def staleBlock : BootBlock :=
  ⟨Table.zero.set Layout.selfMapSlot (Entry.link (Page.ofNumber 7) .kernelReadWrite), zero.tables⟩

/-- The oversized image is refused after low memory has been mapped, and the stale link is gone. -/
theorem build_oversizedImage :
    (Address.ofNat 0x1000 : Address .physical).isAligned .small = true ∧
    Fits (Address.ofNat 0x1000) ∧ ∃ after : BootBlock,
      staleBlock.build (Address.ofNat 0x1000) oversizedImage =
        .ok (.error (.kernelTooLarge 4), after) ∧
      LowOnly (Address.ofNat 0x1000) oversizedImage after ∧
      ∀ current, PagingSwitch.prepare staleBlock (Address.ofNat 0x1000) oversizedImage current =
        .ok (.error (.kernelTooLarge 4), after) := by
  have hAligned : (Address.ofNat 0x1000 : Address .physical).isAligned .small = true := by decide
  have hFits : Fits (Address.ofNat 0x1000) := by
    show _ ≤ _
    decide
  have hLoader : oversizedImage.LoaderFits := by
    show _ ≤ _
    decide
  have hRange : oversizedImage.InKernelSpace := ⟨by decide, by decide, by decide⟩
  have hRefuses : Refuses oversizedImage (.kernelTooLarge 4) :=
    .size hLoader hRange (by decide)
  obtain ⟨result, after, hBuild, hErrors, -, hLeaves, hPrepare⟩ :=
    build_result hAligned hFits staleBlock oversizedImage
  have hResult := (hErrors _).mpr hRefuses
  subst hResult
  exact ⟨hAligned, hFits, after, hBuild, hLeaves _ rfl, hPrepare⟩

end BootBlock
end TwoLevelPaging
