import TwoLevelPaging.Proofs.SelfMap

/-!
# No request faults

Every check that a request makes holds on a well-formed machine: the last directory slot is
never given a table, no position leaves a table, the bitmap or memory, and no sum leaves its
register.  What is mapped does not matter for this, because a frame that an entry stores is
only ever handed to the bitmap, which refuses those that it does not manage.
-/

namespace TwoLevelPaging

namespace Command

variable {size : Nat} {machine : Machine (FrameBitmap size)}

/-- Whatever is asked of a well-formed machine, with whichever addresses, sizes and words of
flags, and through whichever unrestricted view, it is answered. -/
theorem perform_never_faults (hWellFormed : machine.WellFormed)
    (hOpen : machine.view.Unrestricted) (command : Command) :
    (∃ reply after, command.perform.run machine = .done reply after) ∧
      ∀ fault after, command.perform.run machine ≠ .fault fault after := by
  obtain ⟨reply, after, hRun, -⟩ := exists_run_ends hWellFormed hOpen command
  refine ⟨⟨reply, after, hRun⟩, ?_⟩
  intro fault last hFault
  rw [hRun] at hFault
  cases hFault

end Command

namespace Machine

/-- A page beside the scratch page. -/
def strayPage : VirtualPage :=
  Page.containing (Address.ofNat 0xFF800000)

/-- The last frame of the address space, which is not installed. -/
def strayFrame : Frame :=
  Page.ofNumber 0xFFFFF

/-- The tiny machine with a page that maps a frame outside memory. -/
def tinyWithStray : Machine (FrameBitmap 1) :=
  tinyWithScratch.store (Page.ofNumber 2) strayPage.tableSlot
    (Entry.leaf strayFrame Flags.kernelReadWrite.word)

theorem wellFormed_tinyWithStray : tinyWithStray.WellFormed := by
  have hRoot : (Page.ofNumber 2 : Frame) ≠ tinyWithScratch.root := by decide +kernel
  have hSource : tinyWithStray.source = tinyWithScratch.source := source_store _ _ _ _
  refine wellFormed_tinyWithScratch.congr (tinyWithScratch.stays_store _ _ _) ?_ ?_ ?_
  · intro slot
    exact tinyWithScratch.link?_store_of_ne hRoot _ slot _
  · intro number hFree
    rwa [hSource] at hFree
  · rw [hSource]
    exact wellFormed_tinyWithScratch.sound

end Machine

/-- The frame outside memory is handed to the bitmap, which refuses it, and the page is
cleared. -/
theorem Command.unmapPage_tinyWithStray_done :
    Machine.tinyWithStray.entryAt Machine.strayPage =
        Entry.leaf Machine.strayFrame Flags.kernelReadWrite.word ∧
      ¬ Machine.tinyWithStray.Installed Machine.strayFrame ∧
      ∃ reply after, (unmapPage Machine.strayPage.base).perform.run Machine.tinyWithStray =
        .done reply after := by
  have hOpen : Machine.tinyWithStray.view.Unrestricted := by
    show Machine.tinyWithStray.view.lendsFrames = true ∧
      Machine.tinyWithStray.view.hiddenSlots = []
    decide +kernel
  refine ⟨by decide +kernel, ?_, ?_⟩
  · show ¬ Machine.tinyWithStray.memory.contains Machine.strayFrame = true
    decide +kernel
  · exact (perform_never_faults Machine.wellFormed_tinyWithStray hOpen
      (unmapPage Machine.strayPage.base)).1

end TwoLevelPaging
