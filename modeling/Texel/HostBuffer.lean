import Texel.Memory
import Texel.Resource

namespace Texel

/-- A buffer of the device together with the host's view of all its bytes. -/
structure HostBuffer where
  resource : ResourceId
  memory : Memory
  deriving DecidableEq

end Texel
