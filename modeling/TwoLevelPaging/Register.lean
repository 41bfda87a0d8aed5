import TwoLevelPaging.Page
import TwoLevelPaging.Text.Record

/-!
# Control registers

`Cr0` holds the switches of the processor, among them the one that turns paging
on; `Cr3` names the frame of the page directory and how it is cached.  Both are
kept as raw words, because writing a register must give back the reserved bits
that were read from it.
-/

namespace TwoLevelPaging

/-- The word of register CR0. -/
structure Cr0 where
  word : UInt32
  deriving DecidableEq, Inhabited

namespace Cr0

/-- The switches of CR0 that have a meaning. -/
inductive Switch where
  | protectionEnable
  | monitorCoprocessor
  | emulation
  | taskSwitched
  | extensionType
  | numericError
  | writeProtect
  | alignmentMask
  | notWriteThrough
  | cacheDisable
  | paging
  deriving DecidableEq

namespace Switch

/-- The switches in the order of their bits. -/
def all : List Switch :=
  [protectionEnable, monitorCoprocessor, emulation, taskSwitched, extensionType, numericError,
    writeProtect, alignmentMask, notWriteThrough, cacheDisable, paging]

/-- The bit of the switch. -/
def bit : Switch → Nat
  | protectionEnable => 0
  | monitorCoprocessor => 1
  | emulation => 2
  | taskSwitched => 3
  | extensionType => 4
  | numericError => 5
  | writeProtect => 16
  | alignmentMask => 18
  | notWriteThrough => 29
  | cacheDisable => 30
  | paging => 31

/-- The name of the switch as it is shown. -/
def name : Switch → String
  | protectionEnable => "pe_protection_enable"
  | monitorCoprocessor => "mp_monitor_coprocessor"
  | emulation => "em_emulation"
  | taskSwitched => "ts_task_switched"
  | extensionType => "et_extension_type"
  | numericError => "ne_numeric_error"
  | writeProtect => "wp_write_protect"
  | alignmentMask => "am_alignment_mask"
  | notWriteThrough => "nw_not_write_through"
  | cacheDisable => "cd_cache_disable"
  | paging => "pg_paging"

end Switch

/-- Whether the switch is on. -/
def get (register : Cr0) (switch : Switch) : Bool :=
  register.word.toNat.testBit switch.bit

/-- The register with the switch in the given position. -/
def set (register : Cr0) (switch : Switch) (on : Bool) : Cr0 :=
  let mask := (1 : UInt32) <<< UInt32.ofNat switch.bit
  ⟨if on then register.word ||| mask else register.word &&& ~~~mask⟩

/-- The register with its switches by name. -/
def debug (register : Cr0) : String :=
  Text.record "Cr0" (Switch.all.map fun switch => (switch.name, Text.bool (register.get switch)))

end Cr0

/-- The word of register CR3. -/
structure Cr3 where
  word : UInt32
  deriving DecidableEq, Inhabited

namespace Cr3

/-- The register that names the directory at this address, which must be the
base of a frame. -/
def ofDirectory (directory : Address .physical) (writeThrough cacheDisabled : Bool) :
    Except Fault Cr3 := do
  Checked.require (directory.isAligned .small) .violated
  return ⟨UInt32.ofNat (8 * writeThrough.toNat + 16 * cacheDisabled.toNat + directory.toNat)⟩

/-- The frame of the directory. -/
def directoryFrame (register : Cr3) : Frame :=
  Page.containing ⟨register.word⟩

/-- Whether the directory is cached writing through. -/
def writeThrough (register : Cr3) : Bool :=
  register.word.toNat.testBit 3

/-- Whether the directory is not cached. -/
def cacheDisabled (register : Cr3) : Bool :=
  register.word.toNat.testBit 4

/-- The register with its fields by name. -/
def debug (register : Cr3) : String :=
  Text.record "Cr3" [("pwt", Text.bool register.writeThrough),
    ("pcd", Text.bool register.cacheDisabled),
    ("directory_frame", Text.decimal register.directoryFrame.number)]

end Cr3

end TwoLevelPaging
