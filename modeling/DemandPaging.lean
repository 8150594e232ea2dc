import DemandPaging.Session
import DemandPaging.SpinLock
import DemandPaging.Proofs.LockNesting
import DemandPaging.Proofs.Ending
import DemandPaging.Proofs.Views
import DemandPaging.Proofs.Transfer
import DemandPaging.Proofs.Transition
import DemandPaging.Proofs.TransitionViews
import DemandPaging.Proofs.Consistency.Frames
import DemandPaging.Proofs.Consistency.Spaces
import DemandPaging.Proofs.Consistency.Tables
import DemandPaging.Proofs.Consistency.Slots
import DemandPaging.Proofs.Consistency.Names
import DemandPaging.Proofs.Consistency
import DemandPaging.Proofs.Residency
import DemandPaging.Proofs.Fault
import DemandPaging.Proofs.UserCopy
import DemandPaging.Proofs.Removal
import DemandPaging.Proofs.Fork
import DemandPaging.Proofs.Layout
import DemandPaging.Proofs.PageArithmetic
import DemandPaging.Proofs.Mapping
import DemandPaging.Proofs.Operation
import DemandPaging.Proofs.Run
import DemandPaging.Proofs.Mapping.Exactness
import DemandPaging.Proofs.Agreement
import DemandPaging.Proofs.Bystander
import DemandPaging.Proofs.Ownership
import DemandPaging.Proofs.Mapping.Rollback
import DemandPaging.Proofs.Content
import DemandPaging.Proofs.Flat.Memory
import DemandPaging.Proofs.Flat.View
import DemandPaging.Proofs.Flat.Access
import DemandPaging.Proofs.Flat.Copy
import DemandPaging.Proofs.Flat.Spaces
import DemandPaging.Proofs.Flat.Operation
import DemandPaging.Proofs.Transparency
import DemandPaging.Proofs.Locality
import DemandPaging.Proofs.Window.Files
import DemandPaging.Proofs.Keeping
import DemandPaging.Proofs.Shape
import DemandPaging.Proofs.Trail
import DemandPaging.Proofs.Replica
import DemandPaging.Proofs.Conduct
import DemandPaging.Proofs.GuardedRun
import DemandPaging.Proofs.Coverage
import DemandPaging.Proofs.Safety
import DemandPaging.Proofs.WriteBack
import DemandPaging.Proofs.Window
import DemandPaging.Proofs.Course.Access
import DemandPaging.Proofs.Course
import DemandPaging.Proofs.Eviction.Order
import DemandPaging.Proofs.History
import DemandPaging.Proofs.Eviction.Counts
import DemandPaging.Proofs.Eviction
import DemandPaging.Proofs.Materialisation
import DemandPaging.Proofs.FileBytes
import DemandPaging.Proofs.Separation
import DemandPaging.Proofs.Durability
import DemandPaging.Proofs.Placement
import DemandPaging.Proofs.Permission
import DemandPaging.Proofs.UserCopy.Cut
import DemandPaging.Proofs.UserCopy.Stored
import DemandPaging.Proofs.ReadOnly
import DemandPaging.Proofs.WriteBack.Delivery
import DemandPaging.Proofs.Unmapping
import DemandPaging.Proofs.Teardown
import DemandPaging.Proofs.Loading
import DemandPaging.Proofs.Loading.Residue
import DemandPaging.Proofs.Resolver
import DemandPaging.Proofs.Access
import DemandPaging.Proofs.Registration
import DemandPaging.Proofs.FailedLoad
import DemandPaging.Proofs.UserCopy.Fading
import DemandPaging.Proofs.UserCopy.Stop
import DemandPaging.Proofs.UserCopy.Prefix
import DemandPaging.Proofs.UserCopy.RoundTrip
import DemandPaging.Proofs.UserCopy.Limit
import DemandPaging.Proofs.PartialCopy
import DemandPaging.Proofs.Acquisition
import DemandPaging.Proofs.Stopping
import DemandPaging.Proofs.Shortage
import DemandPaging.Proofs.Requests
import DemandPaging.Proofs.Supply
