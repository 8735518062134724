import Texel.Act
import Texel.Error
import Texel.HostBuffer
import Texel.Ring

namespace Texel

/-- A host buffer used as a ring, shared by all uploads that fit it. -/
structure StreamBuffer where
  resource : ResourceId
  memory : Memory
  ring : Ring
  deriving DecidableEq

namespace StreamBuffer

/-- Positions in a ring are 32-bit numbers, and a ring has at least one byte. -/
def checkCapacity (size : Nat) : Except TextureError Unit :=
  if size = 0 then .error (.invalidParameter "stream buffer capacity cannot be zero")
  else if maxWord < size then
    .error (.invalidParameter s!"stream buffer of {size} bytes exceeds 4 GiB")
  else .ok ()

/-- Uses all of a host buffer as a ring. A buffer that cannot be one is handed back. -/
def ofBuffer (buffer : HostBuffer) : Except (TextureError × HostBuffer) StreamBuffer :=
  match checkCapacity buffer.memory.size with
  | .error error => .error (error, buffer)
  | .ok () => .ok ⟨buffer.resource, buffer.memory, { capacity := buffer.memory.size }⟩

/-- Reserves `size` bytes at an aligned cursor, if there is room. -/
def reserve (size alignment : Nat) : Attempt Fault StreamBuffer Bool := do
  let buffer ← .get
  match buffer.ring.reserve size alignment with
  | .granted ring =>
    .modify fun buffer => { buffer with ring }
    pure true
  | .refused =>
    if buffer.ring.capacity < size then
      .log .error
        s!"Stream buffer reservation of {size} bytes exceeds capacity of {buffer.ring.capacity}"
      pure false
    else pure false
  | .abort => .refuse .abort

/-- Takes `size` bytes of the reservation as written. -/
def commit (size : Nat) : Act StreamBuffer Bool := do
  let buffer ← Act.get
  match buffer.ring.commit? size with
  | some ring =>
    Act.set { buffer with ring }
    pure true
  | none =>
    let reserved := Text.option (buffer.ring.reserved.map toString)
    Act.log .error
      s!"Stream buffer commit of {size} bytes without a matching reservation ({reserved})"
    pure false

def track (buffer : StreamBuffer) (fence : Nat) : StreamBuffer :=
  { buffer with ring := buffer.ring.track fence }

def reclaim (buffer : StreamBuffer) (completed : Nat) : StreamBuffer :=
  { buffer with ring := buffer.ring.reclaim completed }

/-- Writes up to `count` bytes at the cursor. -/
def writeAtCursor (buffer : StreamBuffer) (source : ByteArray) (count : Nat) : StreamBuffer :=
  { buffer with memory := buffer.memory.write buffer.ring.cursor source 0 count }

def describe (buffer : StreamBuffer) : String :=
  Text.record "UploadRingBuffer" [("capacity", toString buffer.ring.capacity),
    ("current_offset", toString buffer.ring.cursor),
    ("gpu_position", toString buffer.ring.readPosition),
    ("in_flight", toString buffer.ring.tracked.length),
    ("wrap_count", toString buffer.ring.wraps),
    ("reserved", Text.option (buffer.ring.reserved.map toString)),
    ("buffer", buffer.resource.describe)]

end StreamBuffer

end Texel
