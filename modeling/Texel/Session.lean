import Texel.Table
import Texel.Texture.Upload

namespace Texel

/-- A context together with the textures, staging textures and loose resources that a caller holds,
each in a numbered slot. Slots own what they hold: putting something into an occupied slot leaks
what was there. -/
structure Session (D : Type) where
  context : Context D
  textures : Table Nat Texture := {}
  staging : Table Nat StagingTexture := {}
  resources : Table Nat ResourceId := {}

namespace Session

variable {D α ε : Type}

/-- The texture in a slot; a slot that was never filled has an empty one. -/
def texture (session : Session D) (slot : Nat) : Texture :=
  (session.textures.get? slot).getD {}

def onContext (act : Act (Context D) α) : Act (Session D) α :=
  Act.focus (fun session => session.context) (fun session context => { session with context }) act

def tryContext (attempt : Attempt ε (Context D) α) : Attempt ε (Session D) α :=
  Attempt.focus (fun session => session.context)
    (fun session context => { session with context }) attempt

def onDevice (act : Act D α) : Act (Session D) α := onContext (Context.onDevice act)

def tryDevice (attempt : Attempt ε D α) : Attempt ε (Session D) α :=
  tryContext (Context.tryDevice attempt)

/-- Puts a texture into a slot in place of what was there, which is forgotten. -/
def setTexture (slot : Nat) (texture : Texture) : Act (Session D) Unit :=
  Act.modify fun session => { session with textures := session.textures.insert slot texture }

/-- Changes the texture in a slot, which stays as it is if the change is refused. -/
def changeTexture (slot : Nat) (change : Texture → Attempt ε (Context D) Texture) :
    Attempt ε (Session D) Unit := do
  let session ← .get
  let changed ← tryContext (change (session.texture slot))
  .lift (setTexture slot changed)

/-- Runs an operation on the resource in a slot, if there is one. -/
def withResource (slot : Nat) (act : ResourceId → Act (Session D) α) :
    Act (Session D) (Option α) := do
  let session ← Act.get
  match session.resources.get? slot with
  | none => pure none
  | some id => some <$> act id

/-- Runs an operation on the staging texture in a slot, if there is one. -/
def withStaging (slot : Nat) (act : StagingTexture → Act (Session D) α) :
    Act (Session D) (Option α) := do
  let session ← Act.get
  match session.staging.get? slot with
  | none => pure none
  | some texture => some <$> act texture

/-- Takes the resource out of a slot. -/
def clearResource (slot : Nat) : Act (Session D) Unit :=
  Act.modify fun session => { session with resources := session.resources.erase slot }

/-- Puts a resource into a slot. -/
def holdResource (slot : Nat) (id : ResourceId) : Act (Session D) Unit := do
  let session ← Act.get
  (session.resources.get? slot).forM ResourceId.leak
  Act.modify fun session => { session with resources := session.resources.insert slot id }

/-- Puts a staging texture into a slot. -/
def holdStaging (slot : Nat) (texture : StagingTexture) : Act (Session D) Unit := do
  let session ← Act.get
  (session.staging.get? slot).forM fun previous => previous.buffer.resource.leak
  Act.modify fun session => { session with staging := session.staging.insert slot texture }

/-- Gives up the texture in a slot without destroying it. -/
def dropTexture (slot : Nat) : Act (Session D) Unit := do
  let session ← Act.get
  (session.texture slot).leak
  setTexture slot {}

/-- Moves the texture in one slot to another and leaves an empty one behind. -/
def takeTexture (source target : Nat) : Act (Session D) Unit := do
  let session ← Act.get
  setTexture source {}
  dropTexture target
  setTexture target (session.texture source)

/-- Gives up the resource in a slot without freeing it. -/
def dropResource (slot : Nat) : Act (Session D) (Option Unit) :=
  withResource slot fun id => do
    clearResource slot
    id.leak

variable [Device D]

def create (slot : Nat) (desc : TextureDesc) (formats : ViewFormats) :
    Attempt TextureError (Session D) Unit :=
  changeTexture slot fun texture => texture.create desc formats

/-- Lets a texture adopt the resource in a slot. A resource that is refused stays in its slot. -/
def adopt (slot source : Nat) (formats : ViewFormats) (state : UsageState) :
    Act (Session D) (Option (Except AdoptRefusal Unit)) :=
  withResource source fun id => do
    match ← (changeTexture slot fun texture => texture.adopt id formats state).act with
    | .ok () =>
      clearResource source
      pure (.ok ())
    | .error refusal => pure (.error refusal)

def destroyTexture (slot : Nat) (deferred : Bool) : Act (Session D) Unit := do
  let session ← Act.get
  onContext ((session.texture slot).destroy deferred)
  setTexture slot {}

def transition (slot : Nat) (state : UsageState) : Act (Session D) Unit := do
  let session ← Act.get
  let moved ← onContext ((session.texture slot).transition state)
  setTexture slot moved

def load (slot : Nat) (region : Region) (data : ByteArray) (pitch : Nat) :
    Attempt Fault (Session D) Unit :=
  changeTexture slot fun texture => texture.load region data pitch

/-- Begins an update of a region and writes as much of `data` as the region has bytes. -/
def beginUpdate (slot : Nat) (region : Region) (data : ByteArray) :
    Attempt Fault (Session D) UploadLayout := do
  let session ← .get
  let layout ← tryContext ((session.texture slot).beginUpdate region)
  .lift (onContext (Context.onStream (Act.modify fun stream =>
    stream.writeAtCursor data layout.uploadSize)))
  pure layout

def endUpdate (slot : Nat) (region : Region) : Attempt Fault (Session D) Unit :=
  changeTexture slot fun texture => texture.endUpdate region

def copyFromBuffer (slot : Nat) (region : Region) (rowPitch : Nat) (buffer : ResourceId)
    (offset : Nat) : Attempt TextureError (Session D) Unit :=
  changeTexture slot fun texture => texture.copyFromBuffer region rowPitch buffer offset

def createStaging (slot width height : Nat) (format : NativeFormat) (writable : Bool) :
    Attempt TextureError (Session D) StagingTexture := do
  let texture ← tryContext (StagingTexture.create width height format writable)
  .lift (holdStaging slot texture)
  pure texture

def writeStaging (slot : Nat) (region : Region) (data : ByteArray) (stride : Nat) :
    Act (Session D) (Option (Except Fault Unit)) :=
  withStaging slot fun texture =>
    match texture.write region data stride with
    | .error fault => pure (.error fault)
    | .ok written => do
      Act.modify fun session => { session with staging := session.staging.insert slot written }
      pure (.ok ())

/-- Records a copy from a staging texture to the resource in a slot. -/
def copyStaging (slot : Nat) (source : Region) (destination x y : Nat) :
    Act (Session D) (Option Unit) := do
  let session ← Act.get
  match session.staging.get? slot with
  | none => pure none
  | some texture =>
    withResource destination fun id => onContext (texture.copyTo source id x y)

/-- Records a copy from a staging texture to the resource of the texture in a slot. -/
def copyStagingInto (slot : Nat) (source : Region) (target x y : Nat) :
    Act (Session D) (Option Unit) := do
  let session ← Act.get
  match (session.texture target).resource with
  | none => pure none
  | some id => withStaging slot fun texture => onContext (texture.copyTo source id x y)

def destroyStaging (slot : Nat) (deferred : Bool) : Act (Session D) (Option Unit) :=
  withStaging slot fun texture => do
    Act.modify fun session => { session with staging := session.staging.erase slot }
    onContext (texture.destroy deferred)

/-- A new resource of the device, held in a slot. -/
def createResource (slot : Nat) (desc : TextureDesc) (state : UsageState) :
    Attempt TextureError (Session D) ResourceId := do
  let id ← tryDevice (Device.createTexture desc state)
  .lift (holdResource slot id)
  pure id

/-- A new host buffer of the device, of which the resource is held in a slot. -/
def createBuffer (slot size : Nat) : Attempt TextureError (Session D) HostBuffer := do
  let buffer ← tryDevice (Device.createHostBuffer size)
  .lift (holdResource slot buffer.resource)
  pure buffer

/-- Records a barrier on the resource in a slot, on the device itself. -/
def recordBarrier (slot : Nat) (before after : UsageState) : Act (Session D) (Option Unit) :=
  withResource slot fun id => onDevice (Device.recordBarrier id before after)

/-- Frees the resource in a slot through the context. -/
def destroyResource (slot : Nat) (deferred : Bool) : Act (Session D) (Option Unit) :=
  withResource slot fun id => do
    clearResource slot
    onContext (Context.destroyResource id deferred)

/-- Frees the resource in a slot through the device. -/
def deviceDestroy (slot : Nat) : Act (Session D) (Option Unit) :=
  withResource slot fun id => do
    clearResource slot
    onDevice (Device.destroyResource id)

end Session

end Texel
