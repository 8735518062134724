import Texel.Proofs.Session.Deferral
import Texel.Proofs.Texture.Pixels

namespace Texel

open Simulated Context

namespace Session

end Session

end Texel
