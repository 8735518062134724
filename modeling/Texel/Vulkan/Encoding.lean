import Texel.Resource

namespace Texel.Vulkan

/-- Image formats, with their numbers in the standard. -/
inductive ImageFormat where
  | undefined
  | b5g6r5UnormPack16
  | b5g5r5a1UnormPack16
  | r8Unorm
  | r8g8b8a8Unorm
  | b8g8r8a8Unorm
  | r16Unorm
  | r32Sfloat
  | d16Unorm
  | d32Sfloat
  deriving DecidableEq, Repr

def ImageFormat.code : ImageFormat → Nat
  | .undefined => 0
  | .b5g6r5UnormPack16 => 5
  | .b5g5r5a1UnormPack16 => 7
  | .r8Unorm => 9
  | .r8g8b8a8Unorm => 37
  | .b8g8r8a8Unorm => 44
  | .r16Unorm => 70
  | .r32Sfloat => 100
  | .d16Unorm => 124
  | .d32Sfloat => 126

/-- The image format of a native format. Typeless formats of one channel are those of depth
textures that are also sampled. -/
def imageFormat : NativeFormat → ImageFormat
  | .unknown => .undefined
  | .rgba8Typeless | .rgba8Unorm => .r8g8b8a8Unorm
  | .bgra8Unorm => .b8g8r8a8Unorm
  | .b5g6r5Unorm => .b5g6r5UnormPack16
  | .b5g5r5a1Unorm => .b5g5r5a1UnormPack16
  | .r8Unorm => .r8Unorm
  | .r16Unorm => .r16Unorm
  | .r16Typeless | .d16Unorm => .d16Unorm
  | .r32Float => .r32Sfloat
  | .r32Typeless | .d32Float => .d32Sfloat

/-- Images of this native format are made with a depth format. -/
def isDepthImage : NativeFormat → Bool
  | .r16Typeless | .d16Unorm | .r32Typeless | .d32Float => true
  | _ => false

inductive Aspect where
  | color
  | depth
  deriving DecidableEq, Repr

def Aspect.code : Aspect → Nat
  | .color => 1
  | .depth => 2

/-- The aspect that barriers and copies of an image cover. -/
def imageAspect (format : NativeFormat) : Aspect :=
  if isDepthImage format then .depth else .color

/-- Image usage bits: copies in both directions always, the others as the flags allow. -/
def imageUsage (flags : UsageFlags) : Nat :=
  let bit (isSet : Bool) (value : Nat) : Nat := if isSet then value else 0
  3 ||| bit (!flags.contains .denyShaderResource) 4 ||| bit (flags.contains .renderTarget) 16 |||
    bit (flags.contains .depthStencil) 32 ||| bit (flags.contains .unorderedAccess) 8

/-- The sample count bit of a number of samples, one sample where there is no such bit. -/
def sampleCount (samples : Nat) : Nat :=
  if samples = 2 ∨ samples = 4 ∨ samples = 8 ∨ samples = 16 ∨ samples = 32 ∨ samples = 64 then
    samples
  else 1

inductive ImageLayout where
  | undefined
  | general
  | colorAttachment
  | depthStencilAttachment
  | depthStencilReadOnly
  | shaderReadOnly
  | transferSource
  | transferDestination
  | presentSource
  deriving DecidableEq, Repr

def ImageLayout.code : ImageLayout → Nat
  | .undefined => 0
  | .general => 1
  | .colorAttachment => 2
  | .depthStencilAttachment => 3
  | .depthStencilReadOnly => 4
  | .shaderReadOnly => 5
  | .transferSource => 6
  | .transferDestination => 7
  | .presentSource => 1000001002

/-- The layout of an image in a usage state. -/
def stateLayout : UsageState → ImageLayout
  | .common => .general
  | .renderTarget => .colorAttachment
  | .depthWrite => .depthStencilAttachment
  | .depthRead => .depthStencilReadOnly
  | .pixelShaderResource | .nonPixelShaderResource => .shaderReadOnly
  | .copyDest => .transferDestination
  | .copySource => .transferSource
  | .present => .presentSource

/-- The accesses made in a usage state, as bits. -/
def stateAccess : UsageState → Nat
  | .common => 0x8000 ||| 0x10000
  | .renderTarget => 0x80 ||| 0x100
  | .depthWrite => 0x200 ||| 0x400
  | .depthRead => 0x200
  | .pixelShaderResource | .nonPixelShaderResource => 0x20
  | .copyDest => 0x1000
  | .copySource => 0x800
  | .present => 0

/-- The pipeline stage at the top of the pipe. -/
def topOfPipe : Nat := 1

/-- The pipeline stages that access a resource in a usage state, as bits. -/
def stateStage : UsageState → Nat
  | .common => 0x10000
  | .renderTarget => 0x400
  | .depthWrite | .depthRead => 0x100 ||| 0x200
  | .pixelShaderResource => 0x80
  | .nonPixelShaderResource => 0x8 ||| 0x800
  | .copyDest | .copySource => 0x1000
  | .present => 0x2000

end Texel.Vulkan
