import Texel.Device.Simulated
import Texel.Session
import Texel.Version
import Texel.Vulkan.Device
import Texel.Proofs.Act
import Texel.Proofs.Alignment
import Texel.Proofs.Log
import Texel.Proofs.Table
import Texel.Proofs.Device.Timeline
import Texel.Proofs.Device.Objects
import Texel.Proofs.Descriptor.Heap
import Texel.Proofs.Descriptor.Views
import Texel.Proofs.Descriptor.Lending
import Texel.Proofs.Descriptor.Fleet
import Texel.Proofs.Ring.Order
import Texel.Proofs.Ring.Reserve
import Texel.Proofs.Ring.Inside
import Texel.Proofs.Ring.Traffic
import Texel.Proofs.Ring.Idle
import Texel.Proofs.Ring.Stray
import Texel.Proofs.Upload.Rows
import Texel.Proofs.Upload.Layout
import Texel.Proofs.Upload.Words
import Texel.Proofs.Upload.Copying
import Texel.Proofs.Staging
import Texel.Proofs.Upload.Source
import Texel.Proofs.Staging.Empty
import Texel.Proofs.Retirement
import Texel.Proofs.Context.Steady
import Texel.Proofs.Context.Evolution
import Texel.Proofs.Context.Streaming
import Texel.Proofs.Context.Ledger
import Texel.Proofs.Context.Custody
import Texel.Proofs.Context.Disposal
import Texel.Proofs.Context.Quiet
import Texel.Proofs.Context.Shutdown
import Texel.Proofs.Context.Upkeep
import Texel.Proofs.Texture.Commands
import Texel.Proofs.Texture.Stream
import Texel.Proofs.Texture.Upload
import Texel.Proofs.Texture.Dwindling
import Texel.Proofs.Texture.Pixels
import Texel.Proofs.Texture.Update
import Texel.Proofs.Texture.Lifecycle
import Texel.Proofs.Texture.Work
import Texel.Proofs.Texture.Quiet
import Texel.Proofs.Texture.Rollback
import Texel.Proofs.Texture.Usage
import Texel.Proofs.Texture.Fallback
import Texel.Proofs.Session.Operation
import Texel.Proofs.Session.InFlight
import Texel.Proofs.Session.Ownership
import Texel.Proofs.Session.Custody
import Texel.Proofs.Session.Deferral
import Texel.Proofs.Session.Retirement
import Texel.Proofs.Session.Conservation
import Texel.Proofs.Session.Carrying
import Texel.Proofs.Session.Usage
import Texel.Proofs.Session.Pixels
import Texel.Proofs.Session.Refusal
import Texel.Proofs.Session.Room
import Texel.Proofs.Session.Replacement
import Texel.Proofs.Session.Staging
import Texel.Proofs.Session.Abort
import Texel.Proofs.Session.Update
import Texel.Proofs.Session.Consistency
import Texel.Proofs.Session.Shutdown
import Texel.Proofs.Session.Fallback
import Texel.Proofs.Staging.Words
import Texel.Proofs.Session.Rounding
import Texel.Proofs.Vulkan.History
import Texel.Proofs.Vulkan.Roster
import Texel.Proofs.Vulkan.Work
import Texel.Proofs.Vulkan.Operations
import Texel.Proofs.Vulkan.Run
import Texel.Proofs.Vulkan.Accounts
import Texel.Proofs.Vulkan.Completion
import Texel.Proofs.Vulkan.Pending
import Texel.Proofs.Vulkan.Layout
import Texel.Proofs.Vulkan.Context
import Texel.Proofs.Vulkan.Texture
import Texel.Proofs.Vulkan.Session
import Texel.Proofs.Vulkan.Lifetime
import Texel.Proofs.Vulkan.Usage
import Texel.Proofs.Vulkan.Copies
import Texel.Proofs.Vulkan.Addressing
import Texel.Proofs.Vulkan.Uploads
import Texel.Proofs.Vulkan.Fetching
import Texel.Proofs.Vulkan.Readiness
import Texel.Proofs.Vulkan.Placement
import Texel.Proofs.Twins.Act
import Texel.Proofs.Twins.Device
import Texel.Proofs.Twins.Context
import Texel.Proofs.Twins.Texture
import Texel.Proofs.Twins.Native
import Texel.Proofs.Twins.Vulkan
import Texel.Proofs.Twins.Backends
import Texel.Proofs.Twins.Session
import Texel.Proofs.Twins.Interchange
