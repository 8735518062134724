import Texel.Resource

namespace Texel

/-- Why creating, adopting or filling a texture is refused. -/
inductive TextureError where
  /-- A resource, a host buffer or a view could not be allocated. -/
  | allocationFailure (reason : String)
  /-- A dimension exceeds its fixed maximum. -/
  | capacityExceeded (dimension : String) (requested max : Nat)
  /-- The stream buffer has no room, even after a forced submission. -/
  | streamExhausted (size : Nat)
  /-- A staging texture could not be created or written. -/
  | stagingFailure (reason : String)
  | invalidParameter (reason : String)
  /-- The texture owns no resource. -/
  | invalidTexture
  deriving DecidableEq, Repr

def TextureError.message : TextureError → String
  | .allocationFailure reason => s!"allocation failed: {reason}"
  | .capacityExceeded dimension requested max =>
    s!"{dimension} of {requested} exceeds maximum of {max}"
  | .streamExhausted size => s!"stream buffer exhausted while reserving {size} bytes"
  | .stagingFailure reason => s!"staging upload failed: {reason}"
  | .invalidParameter reason => s!"invalid parameter: {reason}"
  | .invalidTexture => "texture has no resource"

/-- A resource that could not be adopted is handed back with the reason. -/
structure AdoptRefusal where
  error : TextureError
  resource : ResourceId
  deriving DecidableEq, Repr

def AdoptRefusal.message (refusal : AdoptRefusal) : String :=
  s!"failed to adopt {refusal.resource.describe}: {refusal.error.message}"

/-- How an operation on sizes and host memory can end short of its result. -/
inductive Fault where
  | refused (error : TextureError)
  /-- It would have left its memory or its 32 bits; the program ends there. -/
  | abort
  deriving DecidableEq, Repr

end Texel
