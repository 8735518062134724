namespace Texel

/-- The encoding of pixels on the device. -/
inductive NativeFormat where
  | unknown
  | rgba8Typeless
  | rgba8Unorm
  | bgra8Unorm
  | b5g6r5Unorm
  | b5g5r5a1Unorm
  | r8Unorm
  | r16Typeless
  | r16Unorm
  | d16Unorm
  | r32Typeless
  | r32Float
  | d32Float
  deriving DecidableEq, Repr, Inhabited

namespace NativeFormat

def all : List NativeFormat :=
  [.unknown, .rgba8Typeless, .rgba8Unorm, .bgra8Unorm, .b5g6r5Unorm, .b5g5r5a1Unorm, .r8Unorm,
    .r16Typeless, .r16Unorm, .d16Unorm, .r32Typeless, .r32Float, .d32Float]

def name : NativeFormat → String
  | .unknown => "Unknown"
  | .rgba8Typeless => "Rgba8Typeless"
  | .rgba8Unorm => "Rgba8Unorm"
  | .bgra8Unorm => "Bgra8Unorm"
  | .b5g6r5Unorm => "B5G6R5Unorm"
  | .b5g5r5a1Unorm => "B5G5R5A1Unorm"
  | .r8Unorm => "R8Unorm"
  | .r16Typeless => "R16Typeless"
  | .r16Unorm => "R16Unorm"
  | .d16Unorm => "D16Unorm"
  | .r32Typeless => "R32Typeless"
  | .r32Float => "R32Float"
  | .d32Float => "D32Float"

def ofName? (text : String) : Option NativeFormat :=
  all.find? fun format => format.name == text

/-- The size of one pixel; an unknown format has none. -/
def bytesPerPixel : NativeFormat → Nat
  | .unknown => 0
  | .r8Unorm => 1
  | .b5g6r5Unorm | .b5g5r5a1Unorm | .r16Typeless | .r16Unorm | .d16Unorm => 2
  | .rgba8Typeless | .rgba8Unorm | .bgra8Unorm | .r32Typeless | .r32Float | .d32Float => 4

def isDepth : NativeFormat → Bool
  | .d16Unorm | .d32Float => true
  | _ => false

/-- No format takes more than four bytes for a pixel. -/
theorem bytesPerPixel_le_four (format : NativeFormat) : format.bytesPerPixel ≤ 4 := by
  cases format <;> decide

end NativeFormat

/-- What the pixels of a texture mean, apart from how a device encodes them. -/
inductive PixelFormat where
  | unknown
  | rgba8
  | bgra8
  | rgb565
  | rgba5551
  | r8
  | d16
  deriving DecidableEq, Repr, Inhabited

namespace PixelFormat

/-- Every pixel format but the unknown one. -/
def known : List PixelFormat := [.rgba8, .bgra8, .rgb565, .rgba5551, .r8, .d16]

def name : PixelFormat → String
  | .unknown => "Unknown"
  | .rgba8 => "Rgba8"
  | .bgra8 => "Bgra8"
  | .rgb565 => "Rgb565"
  | .rgba5551 => "Rgba5551"
  | .r8 => "R8"
  | .d16 => "D16"

def ofName? (text : String) : Option PixelFormat :=
  (.unknown :: known).find? fun format => format.name == text

/-- The native format of textures with this pixel format. -/
def native : PixelFormat → NativeFormat
  | .unknown => .unknown
  | .rgba8 => .rgba8Unorm
  | .bgra8 => .bgra8Unorm
  | .rgb565 => .b5g6r5Unorm
  | .rgba5551 => .b5g5r5a1Unorm
  | .r8 => .r8Unorm
  | .d16 => .d16Unorm

/-- The pixel format that a native format encodes, unknown if there is none. -/
def ofNative (native : NativeFormat) : PixelFormat :=
  (known.find? fun format => format.native = native).getD .unknown

def pixelSize (format : PixelFormat) : Nat :=
  format.native.bytesPerPixel

def isDepth (format : PixelFormat) : Bool :=
  format = .d16

/-- The pixel format of a texture can be told from its native format. -/
@[simp] theorem ofNative_native (format : PixelFormat) : ofNative format.native = format := by
  cases format <;> rfl

end PixelFormat

end Texel
