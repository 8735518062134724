import Texel.Error

namespace Texel

/-- The parameters of a context. -/
structure Config where
  /-- Size of the stream buffer in bytes. -/
  streamSize : Nat := 16 * 1024 * 1024
  /-- Alignment of each uploaded row in bytes. -/
  pitchAlignment : Nat := 256
  /-- Alignment of each upload within the stream buffer. -/
  placementAlignment : Nat := 512
  /-- Slots for sampled views. -/
  shaderResourceSlots : Nat := 1024
  /-- Slots for render-target views. -/
  renderTargetSlots : Nat := 128
  /-- Slots for depth-stencil views. -/
  depthStencilSlots : Nat := 128
  deriving DecidableEq, Repr, Inhabited

namespace Config

/-- Refuses an alignment that is no power of two, by the name of the parameter. -/
def checkAlignment (what : String) (alignment : Nat) : Except TextureError Unit :=
  if alignment.isPowerOfTwo then .ok ()
  else .error (.invalidParameter s!"{what} must be a power of 2, got {alignment}")

/-- A stream buffer has at least one byte, and alignments are powers of two. Heaps may be empty. -/
def validate (config : Config) : Except TextureError Unit :=
  if config.streamSize = 0 then
    .error (.invalidParameter "stream buffer size cannot be zero")
  else do
    checkAlignment "pitch alignment" config.pitchAlignment
    checkAlignment "placement alignment" config.placementAlignment

/-- The parameters that are accepted. -/
theorem validate_eq_ok_iff {config : Config} :
    config.validate = .ok () ↔ config.streamSize ≠ 0 ∧ config.pitchAlignment.isPowerOfTwo ∧
      config.placementAlignment.isPowerOfTwo := by
  unfold validate checkAlignment
  by_cases hs : config.streamSize = 0 <;> by_cases hp : config.pitchAlignment.isPowerOfTwo <;>
    by_cases ha : config.placementAlignment.isPowerOfTwo <;>
    simp [hs, hp, ha, bind, Except.bind]

end Config

end Texel
