import TwoLevelPaging.BringUp
import TwoLevelPaging.FrameBitmap.View
import TwoLevelPaging.HandOver
import TwoLevelPaging.Identity
import TwoLevelPaging.Inspect
import TwoLevelPaging.Table.Runs
import TwoLevelPaging.Proofs.AddressSpace.View
import TwoLevelPaging.Proofs.FrameBitmap.Exchange
import TwoLevelPaging.Proofs.AddressSpace.Access
import TwoLevelPaging.Proofs.AddressSpace.Edit
import TwoLevelPaging.Proofs.AddressSpace.Search
import TwoLevelPaging.Proofs.AddressSpace.Views
import TwoLevelPaging.Proofs.AddressSpace.WellFormed
import TwoLevelPaging.Proofs.AddressSpace.Requests
import TwoLevelPaging.Proofs.Ownership.Ledger
import TwoLevelPaging.Proofs.Ownership.Moves
import TwoLevelPaging.Proofs.Ownership.PageRuns
import TwoLevelPaging.Proofs.AddressSpace.Pristine
import TwoLevelPaging.Proofs.Ownership.Rollback
import TwoLevelPaging.Command
import TwoLevelPaging.Proofs.Ownership.Client
import TwoLevelPaging.Proofs.Ownership.Requests
import TwoLevelPaging.Proofs.AddressSpace.NewDirectory
import TwoLevelPaging.Proofs.SelfMap
import TwoLevelPaging.Proofs.Edited
import TwoLevelPaging.Proofs.Invalidation
import TwoLevelPaging.Proofs.Protection
import TwoLevelPaging.Proofs.AddressSpace.Translation
import TwoLevelPaging.Proofs.BootTables.Build
import TwoLevelPaging.Proofs.BootTables.Translation
import TwoLevelPaging.Proofs.BootTables.Coverage
import TwoLevelPaging.Proofs.FrameBitmap.Count
import TwoLevelPaging.Proofs.FrameBitmap.Ranges
import TwoLevelPaging.Proofs.BringUp.Seeding
import TwoLevelPaging.Proofs.BringUp.Booted
import TwoLevelPaging.Proofs.BringUp.Completion
import TwoLevelPaging.Proofs.BringUp.KernelPages
import TwoLevelPaging.FrameBitmap.Operation
import TwoLevelPaging.Proofs.FrameBitmap.Effect
import TwoLevelPaging.Proofs.FrameBitmap.History
import TwoLevelPaging.Proofs.FrameBitmap.Representation
import TwoLevelPaging.Proofs.BringUp.Reservation
import TwoLevelPaging.Proofs.Faultless
import TwoLevelPaging.Proofs.AccessRights.Transparent
import TwoLevelPaging.Proofs.AccessRights.Requests
import TwoLevelPaging.Proofs.FrameBitmap.NextFit
import TwoLevelPaging.Proofs.Identity.Regions
import TwoLevelPaging.Proofs.Remapping
import TwoLevelPaging.Proofs.Identity.Lock
import TwoLevelPaging.Proofs.AddressSpace.Placement
import TwoLevelPaging.Proofs.BringUp.MemoryMap
import TwoLevelPaging.Proofs.Displacement
import TwoLevelPaging.Proofs.LowestPage
import TwoLevelPaging.Proofs.Ownership.Demand
import TwoLevelPaging.Proofs.Provision
import TwoLevelPaging.Proofs.FrameBitmap.Reuse
import TwoLevelPaging.Proofs.HiddenTables
import TwoLevelPaging.Proofs.Identity.Loader
import TwoLevelPaging.Proofs.Identity.LockedPages
import TwoLevelPaging.Proofs.BootTables.Rejection
import TwoLevelPaging.Proofs.FreshDirectory
import TwoLevelPaging.Proofs.Identity.LockCounts
import TwoLevelPaging.Proofs.FrameBitmap.Registers
