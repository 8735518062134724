import Texel.Format
import Texel.Region
import Texel.Usage

namespace Texel

/-- The identifier of a resource within one device. Whoever holds it is its owner. -/
structure ResourceId where
  raw : Nat
  deriving DecidableEq, Repr, Inhabited

def ResourceId.describe (id : ResourceId) : String :=
  Text.call "ResourceId" [toString id.raw]

/-- What a texture may be used for, one bit for each use. Bits without a meaning are kept. -/
structure UsageFlags where
  bits : UInt32 := 0
  deriving DecidableEq, Repr, Inhabited

namespace UsageFlags

def renderTarget : UsageFlags := ⟨1⟩

def depthStencil : UsageFlags := ⟨2⟩

def unorderedAccess : UsageFlags := ⟨4⟩

/-- The texture is never sampled. -/
def denyShaderResource : UsageFlags := ⟨8⟩

/-- Every flag that has a meaning, with its name. -/
def named : List (String × UsageFlags) :=
  [("ALLOW_RENDER_TARGET", renderTarget), ("ALLOW_DEPTH_STENCIL", depthStencil),
    ("ALLOW_UNORDERED_ACCESS", unorderedAccess), ("DENY_SHADER_RESOURCE", denyShaderResource)]

/-- Every flag that has a meaning, as one set. -/
def all : UsageFlags := ⟨15⟩

def union (first second : UsageFlags) : UsageFlags := ⟨first.bits ||| second.bits⟩

def inter (first second : UsageFlags) : UsageFlags := ⟨first.bits &&& second.bits⟩

def minus (first second : UsageFlags) : UsageFlags := ⟨first.bits &&& ~~~second.bits⟩

/-- Drops the bits that have no meaning. -/
def truncate (bits : UInt32) : UsageFlags := inter ⟨bits⟩ all

/-- The flags with these bits, if each of them has a meaning. -/
def ofBits? (bits : UInt32) : Option UsageFlags :=
  if truncate bits = ⟨bits⟩ then some ⟨bits⟩ else none

/-- The flags with a meaning that are not in the set. -/
def complement (flags : UsageFlags) : UsageFlags := truncate (~~~flags.bits)

def contains (flags part : UsageFlags) : Bool := inter flags part = part

def intersects (first second : UsageFlags) : Bool := inter first second ≠ ⟨0⟩

def isEmpty (flags : UsageFlags) : Bool := flags = ⟨0⟩

/-- Every flag with a meaning is set. -/
def isAll (flags : UsageFlags) : Bool := flags.contains all

private def hexadecimal (bits : UInt32) : String :=
  "0x" ++ String.ofList (Nat.toDigits 16 bits.toNat)

/-- The names of the flags set, then the bits that have none as one hexadecimal number. -/
def describe (flags : UsageFlags) : String :=
  let names := (named.filter fun flag => flags.contains flag.2).map Prod.fst
  let rest := flags.minus all
  let parts := names ++ if rest.isEmpty then [] else [hexadecimal rest.bits]
  Text.call "ResourceFlags" [if flags.isEmpty then hexadecimal 0 else " | ".intercalate parts]

end UsageFlags

/-- The shape and format of a two-dimensional texture. -/
structure TextureDesc where
  width : Nat := 0
  height : Nat := 0
  layers : Nat := 0
  levels : Nat := 0
  samples : Nat := 0
  format : NativeFormat := .unknown
  flags : UsageFlags := {}
  deriving DecidableEq, Repr, Inhabited

namespace TextureDesc

def isMultisampled (desc : TextureDesc) : Bool := desc.samples > 1

def allow (desc : TextureDesc) (use : UsageFlags) : TextureDesc :=
  { desc with flags := desc.flags.union use }

def describe (desc : TextureDesc) : String :=
  Text.record "ResourceDesc" [("width", toString desc.width), ("height", toString desc.height),
    ("layers", toString desc.layers), ("levels", toString desc.levels),
    ("samples", toString desc.samples), ("format", desc.format.name),
    ("flags", desc.flags.describe)]

end TextureDesc

/-- A copy of pixel rows from a buffer into a region of a texture. -/
structure BufferCopy where
  source : ResourceId
  /-- Where the first row starts in the buffer. -/
  sourceOffset : Nat
  /-- The distance between rows in the buffer, in bytes. -/
  rowPitch : Nat
  format : NativeFormat
  destination : ResourceId
  region : Region
  deriving DecidableEq, Repr

def BufferCopy.describe (copy : BufferCopy) : String :=
  Text.record "BufferTextureCopy" [("source", copy.source.describe),
    ("source_offset", toString copy.sourceOffset), ("row_pitch", toString copy.rowPitch),
    ("format", copy.format.name), ("destination", copy.destination.describe),
    ("region", copy.region.describe)]

end Texel
