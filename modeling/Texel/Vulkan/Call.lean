import Texel.Vulkan.Encoding

namespace Texel.Vulkan

/-- What a call answers. Zero is success; a caller takes every other code, also a positive one, as a
failure. -/
structure ResultCode where
  code : Int
  deriving DecidableEq, Repr

namespace ResultCode

def timeout : ResultCode := ⟨2⟩

/-- The answer, unless it is success. -/
def failure? (result : ResultCode) : Option ResultCode :=
  if result.code = 0 then none else some result

/-- The codes that the standard or one of its extensions names; an extension's codes lie a
thousand apart, from a thousand million on. -/
private def names : List (Int × String) :=
  [(0, "SUCCESS"), (1, "NOT_READY"), (2, "TIMEOUT"), (3, "EVENT_SET"), (4, "EVENT_RESET"),
    (5, "INCOMPLETE"), (-1, "ERROR_OUT_OF_HOST_MEMORY"), (-2, "ERROR_OUT_OF_DEVICE_MEMORY"),
    (-3, "ERROR_INITIALIZATION_FAILED"), (-4, "ERROR_DEVICE_LOST"),
    (-5, "ERROR_MEMORY_MAP_FAILED"), (-6, "ERROR_LAYER_NOT_PRESENT"),
    (-7, "ERROR_EXTENSION_NOT_PRESENT"), (-8, "ERROR_FEATURE_NOT_PRESENT"),
    (-9, "ERROR_INCOMPATIBLE_DRIVER"), (-10, "ERROR_TOO_MANY_OBJECTS"),
    (-11, "ERROR_FORMAT_NOT_SUPPORTED"), (-12, "ERROR_FRAGMENTED_POOL"), (-13, "ERROR_UNKNOWN"),
    (-1000000000, "ERROR_SURFACE_LOST_KHR"),
    (-1000000001, "ERROR_NATIVE_WINDOW_IN_USE_KHR"),
    (1000001003, "SUBOPTIMAL_KHR"),
    (-1000001004, "ERROR_OUT_OF_DATE_KHR"),
    (-1000003001, "ERROR_INCOMPATIBLE_DISPLAY_KHR"),
    (-1000011001, "ERROR_VALIDATION_FAILED_EXT"),
    (-1000012000, "ERROR_INVALID_SHADER_NV"),
    (-1000023000, "ERROR_IMAGE_USAGE_NOT_SUPPORTED_KHR"),
    (-1000023001, "ERROR_VIDEO_PICTURE_LAYOUT_NOT_SUPPORTED_KHR"),
    (-1000023002, "ERROR_VIDEO_PROFILE_OPERATION_NOT_SUPPORTED_KHR"),
    (-1000023003, "ERROR_VIDEO_PROFILE_FORMAT_NOT_SUPPORTED_KHR"),
    (-1000023004, "ERROR_VIDEO_PROFILE_CODEC_NOT_SUPPORTED_KHR"),
    (-1000023005, "ERROR_VIDEO_STD_VERSION_NOT_SUPPORTED_KHR"),
    (-1000069000, "ERROR_OUT_OF_POOL_MEMORY"),
    (-1000072003, "ERROR_INVALID_EXTERNAL_HANDLE"),
    (-1000158000, "ERROR_INVALID_DRM_FORMAT_MODIFIER_PLANE_LAYOUT_EXT"),
    (-1000161000, "ERROR_FRAGMENTATION"),
    (-1000174001, "ERROR_NOT_PERMITTED_KHR"),
    (-1000255000, "ERROR_FULL_SCREEN_EXCLUSIVE_MODE_LOST_EXT"),
    (-1000257000, "ERROR_INVALID_OPAQUE_CAPTURE_ADDRESS"),
    (1000268000, "THREAD_IDLE_KHR"),
    (1000268001, "THREAD_DONE_KHR"),
    (1000268002, "OPERATION_DEFERRED_KHR"),
    (1000268003, "OPERATION_NOT_DEFERRED_KHR"),
    (1000297000, "PIPELINE_COMPILE_REQUIRED"),
    (-1000299000, "ERROR_INVALID_VIDEO_STD_PARAMETERS_KHR"),
    (-1000338000, "ERROR_COMPRESSION_EXHAUSTED_EXT"),
    (1000482000, "INCOMPATIBLE_SHADER_BINARY_EXT")]

/-- The name that the standard gives the code; a code that it does not name is its number. -/
def name (result : ResultCode) : String :=
  (names.lookup result.code).getD (toString result.code)

end ResultCode

/-- What makes an image. -/
structure ImageInfo where
  format : ImageFormat
  width : Nat
  height : Nat
  levels : Nat
  layers : Nat
  samples : Nat
  usage : Nat
  deriving DecidableEq, Repr

/-- What makes a view of all layers in `layers`, from the first on. -/
structure ViewInfo where
  image : Nat
  /-- The view is an array of images. -/
  isArray : Bool
  format : ImageFormat
  aspect : Aspect
  levels : Nat
  layers : Nat
  deriving DecidableEq, Repr

/-- A barrier on all levels and layers of an image. -/
structure ImageBarrier where
  image : Nat
  oldLayout : ImageLayout
  newLayout : ImageLayout
  sourceAccess : Nat
  destinationAccess : Nat
  sourceStage : Nat
  destinationStage : Nat
  aspect : Aspect
  levels : Nat
  layers : Nat
  deriving DecidableEq, Repr

/-- A copy of one region from a buffer to the first level and layer of an image. -/
structure ImageCopy where
  buffer : Nat
  image : Nat
  layout : ImageLayout
  offset : Nat
  /-- The distance between rows in the buffer, in pixels. -/
  rowLength : Nat
  aspect : Aspect
  x : Int
  y : Int
  width : Nat
  height : Nat
  deriving DecidableEq, Repr

/-- A call that was made. Those that make an object answer with its handle or with a failure; those
that make none carry the answer they were told to give, and succeeded if there is none. -/
inductive Call where
  | createCommandPool (family : Nat) (answer : Except ResultCode Nat)
  | destroyCommandPool (pool : Nat)
  | createImage (info : ImageInfo) (answer : Except ResultCode Nat)
  | bindImageMemory (image : Nat) (told : Option ResultCode)
  | destroyImage (image : Nat)
  | createBuffer (size : Nat) (answer : Except ResultCode Nat)
  | bindBufferMemory (buffer : Nat) (told : Option ResultCode)
  | destroyBuffer (buffer : Nat)
  | createImageView (info : ViewInfo) (answer : Except ResultCode Nat)
  | destroyImageView (view : Nat)
  | createFence (answer : Except ResultCode Nat)
  | destroyFence (fence : Nat)
  | allocateCommandBuffer (pool : Nat) (answer : Except ResultCode Nat)
  | freeCommandBuffer (commandBuffer : Nat)
  | beginCommandBuffer (commandBuffer : Nat) (told : Option ResultCode)
  | endCommandBuffer (commandBuffer : Nat) (told : Option ResultCode)
  | pipelineBarrier (commandBuffer : Nat) (barrier : ImageBarrier)
  | copyBufferToImage (commandBuffer : Nat) (copy : ImageCopy)
  | queueSubmit (commandBuffer : Option Nat) (fence : Nat) (told : Option ResultCode)
  | waitForFence (fence timeout : Nat) (told : Option ResultCode)
  | deviceWaitIdle (told : Option ResultCode)

namespace Call

/-- The call's name in the Vulkan interface. -/
def name : Call → String
  | .createCommandPool .. => "createCommandPool"
  | .destroyCommandPool .. => "destroyCommandPool"
  | .createImage .. => "createImage"
  | .bindImageMemory .. => "bindImageMemory"
  | .destroyImage .. => "destroyImage"
  | .createBuffer .. => "createBuffer"
  | .bindBufferMemory .. => "bindBufferMemory"
  | .destroyBuffer .. => "destroyBuffer"
  | .createImageView .. => "createImageView"
  | .destroyImageView .. => "destroyImageView"
  | .createFence .. => "createFence"
  | .destroyFence .. => "destroyFence"
  | .allocateCommandBuffer .. => "allocateCommandBuffers"
  | .freeCommandBuffer .. => "freeCommandBuffers"
  | .beginCommandBuffer .. => "beginCommandBuffer"
  | .endCommandBuffer .. => "endCommandBuffer"
  | .pipelineBarrier .. => "cmdPipelineBarrier"
  | .copyBufferToImage .. => "cmdCopyBufferToImage"
  | .queueSubmit .. => "queueSubmit"
  | .waitForFence .. => "waitForFences"
  | .deviceWaitIdle .. => "deviceWaitIdle"

/-- What a call that makes an object answered; the others have no such answer. -/
def answer? : Call → Option (Except ResultCode Nat)
  | .createCommandPool _ answer | .createImage _ answer | .createBuffer _ answer
  | .createImageView _ answer | .createFence answer | .allocateCommandBuffer _ answer =>
    some answer
  | _ => none

/-- The answer that a call which makes no object was told to give. -/
def told? : Call → Option ResultCode
  | .bindImageMemory _ told | .bindBufferMemory _ told | .beginCommandBuffer _ told
  | .endCommandBuffer _ told | .queueSubmit _ _ told | .waitForFence _ _ told
  | .deviceWaitIdle told => told
  | _ => none

/-- The view that the call destroys. -/
def destroyedView? : Call → Option Nat
  | .destroyImageView view => some view
  | _ => none

/-- The buffer or image that the call destroys, buffers first. -/
def destroyedObject? : Call → Option (Nat × Nat)
  | .destroyBuffer buffer => some (0, buffer)
  | .destroyImage image => some (1, image)
  | _ => none

/-- Both calls destroy views, or both destroy buffers or images. -/
private def destroyAlike (first second : Call) : Bool :=
  (first.destroyedView?.isSome && second.destroyedView?.isSome) ||
    (first.destroyedObject?.isSome && second.destroyedObject?.isSome)

/-- The order of calls that destroy objects: buffers before images, then by handle. -/
private def destroysBefore (first second : Call) : Bool :=
  match first.destroyedView?, second.destroyedView? with
  | some left, some right => left ≤ right
  | _, _ =>
    match first.destroyedObject?, second.destroyedObject? with
    | some left, some right => left.1 < right.1 || (left.1 == right.1 && left.2 ≤ right.2)
    | _, _ => true

/-- A device that is given up destroys what it still holds in no particular order. Sorting each run
of such calls makes two lists of calls comparable. -/
def sortDestroyed (calls : List Call) : List Call :=
  (calls.splitBy destroyAlike).flatMap fun run => run.mergeSort destroysBefore

end Call

end Texel.Vulkan
