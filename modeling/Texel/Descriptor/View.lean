import Texel.Descriptor.Heap
import Texel.Resource

namespace Texel

/-- How a view lays out the resource. -/
inductive ViewDimension where
  | texture2D
  | texture2DMultisampled
  | texture2DArray (layers : Nat)
  | texture2DMultisampledArray (layers : Nat)
  deriving DecidableEq, Repr

namespace ViewDimension

def ofDesc (desc : TextureDesc) : ViewDimension :=
  if desc.layers > 1 then
    if desc.isMultisampled then .texture2DMultisampledArray desc.layers
    else .texture2DArray desc.layers
  else if desc.isMultisampled then .texture2DMultisampled
  else .texture2D

def isMultisampled : ViewDimension → Bool
  | .texture2DMultisampled | .texture2DMultisampledArray _ => true
  | _ => false

/-- The number of layers an array covers. -/
def layers? : ViewDimension → Option Nat
  | .texture2DArray layers | .texture2DMultisampledArray layers => some layers
  | _ => none

def name : ViewDimension → String
  | .texture2D => "Texture2D"
  | .texture2DMultisampled => "Texture2DMultisampled"
  | .texture2DArray _ => "Texture2DArray"
  | .texture2DMultisampledArray _ => "Texture2DMultisampledArray"

def describe (dimension : ViewDimension) : String :=
  match dimension.layers? with
  | none => dimension.name
  | some layers => Text.record dimension.name [("layers", toString layers)]

end ViewDimension

/-- What a view shows of a resource. -/
structure ViewDesc where
  kind : ViewKind
  format : NativeFormat
  dimension : ViewDimension
  /-- Mip levels seen through the view, none if it is multisampled. -/
  mipLevels : Nat
  deriving DecidableEq, Repr

namespace ViewDesc

/-- A view of `kind` of a resource shaped like `desc`, seen as `format`. -/
def ofResource (kind : ViewKind) (format : NativeFormat) (desc : TextureDesc) : ViewDesc :=
  let dimension := ViewDimension.ofDesc desc
  ⟨kind, format, dimension, if dimension.isMultisampled then 0 else 1⟩

def describe (view : ViewDesc) : String :=
  Text.record "ViewDesc" [("kind", view.kind.name), ("format", view.format.name),
    ("dimension", view.dimension.describe), ("mip_levels", toString view.mipLevels)]

end ViewDesc

/-- The formats of the views a texture wants; the unknown format asks for none. A texture has a
render-target view or a depth-stencil view, not both. -/
structure ViewFormats where
  shaderResource : NativeFormat := .unknown
  renderTarget : NativeFormat := .unknown
  depthStencil : NativeFormat := .unknown
  deriving DecidableEq, Repr, Inhabited

namespace ViewFormats

/-- The kind and format of the target view wanted. -/
def target? (formats : ViewFormats) : Option (ViewKind × NativeFormat) :=
  if formats.renderTarget ≠ .unknown then some (.renderTarget, formats.renderTarget)
  else if formats.depthStencil ≠ .unknown then some (.depthStencil, formats.depthStencil)
  else none

/-- The state of a new texture follows the views it is created for. -/
def initialState (formats : ViewFormats) : UsageState :=
  if formats.renderTarget ≠ .unknown then .renderTarget
  else if formats.depthStencil ≠ .unknown then .depthWrite
  else .pixelShaderResource

/-- The description with the uses that the views need. -/
def allowIn (formats : ViewFormats) (desc : TextureDesc) : TextureDesc :=
  let desc := if formats.renderTarget ≠ .unknown then desc.allow .renderTarget else desc
  if formats.depthStencil ≠ .unknown then desc.allow .depthStencil else desc

end ViewFormats

end Texel
