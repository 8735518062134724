namespace Texel

/-- How the device is permitted to access a resource. A barrier moves it from one to another. -/
inductive UsageState where
  | common
  | renderTarget
  | depthWrite
  | depthRead
  | pixelShaderResource
  | nonPixelShaderResource
  | copyDest
  | copySource
  | present
  deriving DecidableEq, Repr, Inhabited

namespace UsageState

def all : List UsageState :=
  [.common, .renderTarget, .depthWrite, .depthRead, .pixelShaderResource, .nonPixelShaderResource,
    .copyDest, .copySource, .present]

def name : UsageState → String
  | .common => "Common"
  | .renderTarget => "RenderTarget"
  | .depthWrite => "DepthWrite"
  | .depthRead => "DepthRead"
  | .pixelShaderResource => "PixelShaderResource"
  | .nonPixelShaderResource => "NonPixelShaderResource"
  | .copyDest => "CopyDest"
  | .copySource => "CopySource"
  | .present => "Present"

def ofName? (text : String) : Option UsageState :=
  all.find? fun state => state.name == text

/-- The states in which the device may write. -/
def isWrite : UsageState → Bool
  | .renderTarget | .depthWrite | .copyDest => true
  | _ => false

end UsageState

end Texel
