import Texel.Proofs.Session.Operation
import Texel.Proofs.Vulkan.Texture

namespace Texel

namespace Vulkan

open Context

/-- Where a session has a resource. -/
inductive Place where
  | stream
  | texture (slot : Nat)
  | staging (slot : Nat)
  | loose (slot : Nat)
  deriving DecidableEq

namespace Place

/-- The resource in a place. -/
def resource? (session : Session VulkanDevice) : Place → Option ResourceId
  | .stream => some session.context.stream.resource
  | .texture slot => (session.texture slot).resource
  | .staging slot => (session.staging.get? slot).map fun staging => staging.buffer.resource
  | .loose slot => session.resources.get? slot

/-- The layout that an image in the place is taken to be in. -/
def layout? (session : Session VulkanDevice) : Place → Option ImageLayout
  | .texture slot => some (stateLayout (session.texture slot).state)
  | _ => none

end Place

/-- A session at rest: no resource is in two places, and the roster bears out what is taken of
it. -/
structure Held (rules : Rules) (start : Work) (roster : Roster) (session : Session VulkanDevice) :
    Prop where
  stands : Stands rules start session.context.stream.resource [] roster session.context
  apart : ∀ first second id, Place.resource? session first = some id →
    Place.resource? session second = some id → first = second
  borne : ∀ place id, Place.resource? session place = some id →
    roster.Bears id (Place.layout? session place)

/-- A session is at rest with some roster. -/
def Holds (rules : Rules) (start : Work) (session : Session VulkanDevice) : Prop :=
  ∃ roster, Held rules start roster session

/-- Callers give up what they have to the queue only. -/
def DestroysDeferred : Texel.Operation → Prop
  | .destroyTexture _ deferred => deferred = true
  | .destroyStaging _ deferred => deferred = true
  | .destroyResource _ deferred => deferred = true
  | .deviceDestroy _ => False
  | _ => True

/-- No copy is from a buffer that is in the queue. -/
def SparesQueue (session : Session VulkanDevice) : Texel.Operation → Prop
  | .copyFromBuffer _ _ _ buffer _ => ¬Waits session.context.retirement buffer
  | _ => True

/-- A caller who copies from a staging texture by hand has made the texture a copy destination. -/
def OpensDestination (session : Session VulkanDevice) : Texel.Operation → Prop
  | .copyStagingInto _ _ target _ _ => (session.texture target).state = .copyDest
  | _ => True

/-- What happens to a session. -/
inductive SessionTurn where
  | operation (operation : Texel.Operation)
  /-- An image that belongs to someone else is wrapped and held in a slot. -/
  | importImage (slot image : Nat) (desc : TextureDesc)
  /-- The implementation moves on its own. -/
  | move (move : Move)

namespace SessionTurn

/-- What happens in a turn of a session. -/
def act : SessionTurn → Act (Session VulkanDevice) Unit
  | .operation asked => discard asked.perform
  | .importImage slot image desc => do
    let id ← Session.onDevice (VulkanDevice.importImage image desc)
    Session.holdResource slot id
  | .move made => Session.onDevice (VulkanDevice.onNative made.act)

/-- The session after a turn. -/
def after (session : Session VulkanDevice) (turn : SessionTurn) : Session VulkanDevice :=
  (turn.act.run session).state

/-- The turn keeps to the rules. -/
def Obeys (rules : Rules) (session : Session VulkanDevice) : SessionTurn → Prop
  | .operation asked => (rules.careful → DestroysDeferred asked ∧ SparesQueue session asked) ∧
    (rules.tracked → OpensDestination session asked)
  | .importImage _ image _ => session.context.device.native.Foreign image
  | .move made => made.Spares rules.reliable

end SessionTurn

/-- The session after turns, one after the other. -/
def runSession (session : Session VulkanDevice) (turns : List SessionTurn) :
    Session VulkanDevice :=
  turns.foldl SessionTurn.after session

/-- Each turn keeps to the rules when it comes. -/
def Obeying (rules : Rules) : Session VulkanDevice → List SessionTurn → Prop
  | _, [] => True
  | session, turn :: rest => turn.Obeys rules session ∧ Obeying rules (turn.after session) rest

/-- A run in two parts obeys the rules if both parts do, the second from where the first ends. -/
theorem obeying_append {rules : Rules} {session : Session VulkanDevice}
    {first rest : List SessionTurn} :
    Obeying rules session (first ++ rest) ↔
      Obeying rules session first ∧ Obeying rules (runSession session first) rest := by
  induction first generalizing session with
  | nil => simp [Obeying, runSession]
  | cons turn others ih =>
    simp only [List.cons_append, Obeying, and_assoc]
    exact and_congr_right fun _ => ih

/-- A session that was just opened on a new implementation, with nothing in its slots. -/
def SessionOpened (script : Vulkan.Operation → List ResultCode) (config : Config)
    (session : Session VulkanDevice) : Prop :=
  ∃ device context, VulkanDevice.Opened script device ∧
    (ofDevice device config).1 = .ok context ∧ session = { context }

/-- The session that opens if a command pool and a stream buffer can be made, over an allocator that
grants all memory unless it is told not to. -/
def openingSession (script : Vulkan.Operation → List ResultCode) (signalsAtOnce : Bool)
    (config : Config) : Session VulkanDevice where
  context :=
    { device := ((VulkanDevice.createHostBuffer config.streamSize).run
        (VulkanDevice.withPool script (fun _ => none) signalsAtOnce 0)).state
      heaps := Heaps.ofCapacities config.shaderResourceSlots config.renderTargetSlots
        config.depthStencilSlots
      stream := ⟨⟨1⟩, .zeroed config.streamSize, { capacity := config.streamSize }⟩
      config }

/-- A session opens on a device whose command pool and ring could be made. -/
theorem sessionOpened_opening {script : Vulkan.Operation → List ResultCode} {signalsAtOnce : Bool}
    {config : Config}
    (hpool : Native.failure? { script, signalsAtOnce } .createCommandPool = none)
    (hopen : (ofDevice (VulkanDevice.withPool script (fun _ => none) signalsAtOnce 0) config).1 =
      .ok (openingSession script signalsAtOnce config).context) :
    SessionOpened script config (openingSession script signalsAtOnce config) :=
  ⟨_, _, VulkanDevice.opened_withPool _ signalsAtOnce 0 hpool, hopen, rfl⟩

section Sessions

variable {α ε : Type} {rules : Rules} {start : Work} {id : ResourceId} {roster after : Roster}
  {session next : Session VulkanDevice} {context : Context VulkanDevice} {slot : Nat}

namespace Held

/-- The roster agrees with the texture in every slot. -/
theorem agrees (h : Held rules start roster session) (slot : Nat) :
    roster.Agrees (session.texture slot) :=
  fun id hid => h.borne (.texture slot) id hid

/-- The context of a session at rest stands. -/
theorem stands_of_eq (h : Held rules start roster session) (context : Context VulkanDevice)
    (hcontext : context = session.context) :
    Stands rules start session.context.stream.resource [] roster context := by
  subst hcontext
  exact h.stands

/-- One place changes, and all others have what they had. -/
theorem change (h : Held rules start roster session) (place : Place)
    (hstands : Stands rules start session.context.stream.resource [] after next.context)
    (hspares : roster.Spares (place.resource? session) after)
    (hothers : ∀ other, other ≠ place → other.resource? next = other.resource? session ∧
      other.layout? next = other.layout? session)
    (hplace : ∀ id, place.resource? next = some id → after.Bears id (place.layout? next) ∧
      ∀ other, other ≠ place → other.resource? session ≠ some id) :
    Held rules start after next := by
  have hkept : ∀ other id, other ≠ place → other.resource? next = some id →
      other.resource? session = some id := fun other id hne hid => (hothers other hne).1 ▸ hid
  refine
    { stands := by
        rw [hstands.ring]
        exact hstands
      apart := fun first second id hfirst hsecond => ?_
      borne := fun other id hid => ?_ }
  · by_cases hone : first = place
    · subst hone
      by_contra hne
      exact (hplace id hfirst).2 second (Ne.symm hne) (hkept second id (Ne.symm hne) hsecond)
    · by_cases htwo : second = place
      · subst htwo
        exact absurd (hkept first id hone hfirst) ((hplace id hsecond).2 first hone)
      · exact h.apart first second id (hkept first id hone hfirst) (hkept second id htwo hsecond)
  · by_cases heq : other = place
    · subst heq
      exact (hplace id hid).1
    · have hold := hkept other id heq hid
      rw [(hothers other heq).2]
      refine (h.borne other id hold).congr
        (hspares id (h.borne other id hold).1 fun hmine => heq ?_)
      exact h.apart other place id hold hmine

/-- The context goes on, and a resource that no place has may go. -/
theorem shed (h : Held rules start roster session) {mine : Option ResourceId}
    (hfree : ∀ id, mine = some id → ∀ place, Place.resource? session place ≠ some id)
    (hcontext : Standing rules start session.context.stream.resource (roster.Spares mine) context) :
    Holds rules start { session with context } := by
  obtain ⟨after, hstands, hspares⟩ := hcontext
  have hring : context.stream.resource = session.context.stream.resource := hstands.ring
  have hsame (place : Place) : place.resource? { session with context } =
      place.resource? session := by
    cases place with
    | stream => exact congrArg some hring
    | _ => rfl
  refine ⟨after,
    { stands := by
        change Stands rules start context.stream.resource [] after context
        rw [hring]
        exact hstands
      apart := fun first second id hfirst hsecond =>
        h.apart first second id (hsame first ▸ hfirst) (hsame second ▸ hsecond)
      borne := fun place id hid => ?_ }⟩
  rw [hsame] at hid
  have hborne := h.borne place id hid
  have hlayout : place.layout? { session with context } = place.layout? session := by
    cases place <;> rfl
  rw [hlayout]
  exact hborne.congr (hspares id hborne.1 fun hmine => hfree id hmine place hid)

/-- What the context does on its own leaves every place alone. -/
theorem turn (h : Held rules start roster session)
    (hcontext : Standing rules start session.context.stream.resource (roster.Spares none) context) :
    Holds rules start { session with context } :=
  h.shed (fun _ hnone => absurd hnone (Option.some_ne_none _).symm) hcontext

/-- A place keeps to itself what it has. -/
theorem free_of_own (h : Held rules start roster session) (place : Place)
    (hid : place.resource? session = some id) (other : Place) (hne : other ≠ place) :
    other.resource? session ≠ some id :=
  fun hother => hne (h.apart other place id hother hid)

/-- A new resource is in no place. -/
theorem free_of_new (h : Held rules start roster session) (hnew : roster.tenure? id = none)
    (other : Place) : other.resource? session ≠ some id :=
  fun hother => Roster.ne_of_live_of_new (h.borne other id hother).1 hnew rfl

/-- No slot holds the buffer of the ring. -/
theorem ne_stream (h : Held rules start roster session) (place : Place)
    (hplace : place ≠ .stream) :
    place.resource? session ≠ some session.context.stream.resource :=
  fun hid => hplace (h.apart place .stream _ hid rfl)

/-- A place gives away what it has. Then no place has it. -/
theorem vacate (h : Held rules start roster session) (place : Place)
    (hcontext : next.context = session.context)
    (hothers : ∀ other, other ≠ place → other.resource? next = other.resource? session ∧
      other.layout? next = other.layout? session)
    (hplace : place.resource? next = none) :
    Held rules start roster next ∧ ∀ id, place.resource? session = some id →
      ∀ other, Place.resource? next other ≠ some id := by
  refine ⟨h.change place (h.stands_of_eq _ hcontext) (.refl _ _) hothers fun id hid => ?_,
    fun id hid other hother => ?_⟩
  · exact nomatch hplace.symm.trans hid
  · by_cases heq : other = place
    · subst heq
      exact nomatch hplace.symm.trans hother
    · exact h.free_of_own place hid other heq ((hothers other heq).1 ▸ hother)

end Held

/-- A texture that goes into a slot is in that one only. -/
theorem texture_insert (session : Session VulkanDevice) (context : Context VulkanDevice)
    (slot other : Nat) (texture : Texture) :
    ({ session with context, textures := session.textures.insert slot texture } :
      Session VulkanDevice).texture other =
        if other = slot then texture else session.texture other := by
  rw [Session.texture, Table.get?_insert]
  split <;> rfl

/-- A change of the texture in one slot leaves every other place as it is. -/
theorem others_texture (hring : context.stream.resource = session.context.stream.resource)
    (texture : Texture) (other : Place) (hne : other ≠ .texture slot) :
    other.resource? { session with context, textures := session.textures.insert slot texture } =
        other.resource? session ∧
      other.layout? { session with context, textures := session.textures.insert slot texture } =
        other.layout? session := by
  cases other with
  | stream => exact ⟨congrArg some hring, rfl⟩
  | texture other =>
    have hother : other ≠ slot := fun heq => hne (congrArg Place.texture heq)
    simp only [Place.resource?, Place.layout?, texture_insert, if_neg hother, and_self]
  | staging | loose => exact ⟨rfl, rfl⟩

theorem others_loose (hring : context.stream.resource = session.context.stream.resource)
    {resources : Table Nat ResourceId}
    (h : ∀ other, other ≠ slot → resources.get? other = session.resources.get? other)
    (other : Place) (hne : other ≠ .loose slot) :
    other.resource? { session with context, resources } = other.resource? session ∧
      other.layout? { session with context, resources } = other.layout? session := by
  cases other with
  | stream => exact ⟨congrArg some hring, rfl⟩
  | loose other => exact ⟨h other fun heq => hne (congrArg Place.loose heq), rfl⟩
  | texture | staging => exact ⟨rfl, rfl⟩

theorem others_staging (hring : context.stream.resource = session.context.stream.resource)
    {staging : Table Nat StagingTexture}
    (h : ∀ other, other ≠ slot → staging.get? other = session.staging.get? other)
    (other : Place) (hne : other ≠ .staging slot) :
    other.resource? { session with context, staging } = other.resource? session ∧
      other.layout? { session with context, staging } = other.layout? session := by
  cases other with
  | stream => exact ⟨congrArg some hring, rfl⟩
  | staging other =>
    refine ⟨?_, rfl⟩
    simp only [Place.resource?, h other fun heq => hne (congrArg Place.staging heq)]
  | texture | loose => exact ⟨rfl, rfl⟩

namespace Held

/-- The texture in a slot is replaced. -/
theorem setTexture (h : Held rules start roster session) (slot : Nat) {texture : Texture}
    (hstands : Stands rules start session.context.stream.resource [] after context)
    (hspares : roster.Spares (session.texture slot).resource after) (hagrees : after.Agrees texture)
    (hfree : ∀ id, texture.resource = some id →
      ∀ other, other ≠ Place.texture slot → other.resource? session ≠ some id) :
    Held rules start after
      { session with context, textures := session.textures.insert slot texture } := by
  refine h.change (.texture slot) hstands hspares (others_texture hstands.ring texture)
    fun id hid => ?_
  simp only [Place.resource?, Place.layout?, texture_insert, if_true] at hid ⊢
  exact ⟨hagrees id hid, hfree id hid⟩

/-- A new loose resource takes the place of what was in a slot. -/
theorem setLoose (h : Held rules start roster session) (slot : Nat)
    (hstands :
      Stands rules start session.context.stream.resource [] (roster.enroll id none) context)
    (hnew : roster.tenure? id = none) :
    Held rules start (roster.enroll id none)
      { session with context, resources := session.resources.insert slot id } := by
  refine h.change (.loose slot) hstands ((Roster.spares_enroll hnew none).but _)
    (others_loose hstands.ring fun other hne => ?_) fun other hother => ?_
  · rw [Table.get?_insert, if_neg hne]
  · simp only [Place.resource?, Table.get?_insert, if_true] at hother
    obtain rfl := Option.some.inj hother
    exact ⟨Roster.bears_enroll _ _, fun other _ => h.free_of_new hnew other⟩

/-- The staging texture in a slot is replaced. -/
theorem setStaging (h : Held rules start roster session) (slot : Nat) (texture : StagingTexture)
    (hstands : Stands rules start session.context.stream.resource [] after context)
    (hspares : roster.Spares none after) (hborne : after.Bears texture.buffer.resource none)
    (hfree : ∀ other, other ≠ Place.staging slot →
      other.resource? session ≠ some texture.buffer.resource) :
    Held rules start after
      { session with context, staging := session.staging.insert slot texture } := by
  refine h.change (.staging slot) hstands (hspares.but _)
    (others_staging hstands.ring fun other hne => ?_) fun id hid => ?_
  · rw [Table.get?_insert, if_neg hne]
  · simp only [Place.resource?, Table.get?_insert, if_true, Option.map_some] at hid
    obtain rfl := Option.some.inj hid
    exact ⟨hborne, hfree⟩

/-- A texture that is taken out of its slot leaves its resource in no place. -/
theorem clearTexture (h : Held rules start roster session) (slot : Nat) :
    Held rules start roster { session with textures := session.textures.insert slot {} } ∧
      ∀ id, (session.texture slot).resource = some id → ∀ other, Place.resource?
        { session with textures := session.textures.insert slot {} } other ≠ some id := by
  refine h.vacate (.texture slot) rfl (others_texture rfl {}) ?_
  have hempty := texture_insert session session.context slot slot {}
  rw [if_pos rfl] at hempty
  exact congrArg Texture.resource hempty

/-- A bare resource that is taken out of its slot is in no place. -/
theorem clearLoose (h : Held rules start roster session) (slot : Nat) :
    Held rules start roster { session with resources := session.resources.erase slot } ∧
      ∀ id, session.resources.get? slot = some id → ∀ other, Place.resource?
        { session with resources := session.resources.erase slot } other ≠ some id := by
  refine h.vacate (.loose slot) rfl (others_loose rfl fun other hne => ?_) ?_
  · rw [Table.get?_erase, if_neg hne]
  · simp only [Place.resource?, Table.get?_erase, if_true]

/-- A staging texture that is taken out of its slot leaves its buffer in no place. -/
theorem clearStaging (h : Held rules start roster session) (slot : Nat) :
    Held rules start roster { session with staging := session.staging.erase slot } ∧
      ∀ id, Place.resource? session (.staging slot) = some id → ∀ other, Place.resource?
        { session with staging := session.staging.erase slot } other ≠ some id := by
  refine h.vacate (.staging slot) rfl (others_staging rfl fun other hne => ?_) ?_
  · rw [Table.get?_erase, if_neg hne]
  · simp only [Place.resource?, Table.get?_erase, if_true, Option.map_none]

end Held

/-- A session stays at rest when its context does something that spares all resources. -/
theorem holds_onContext (h : Held rules start roster session) {act : Act (Context VulkanDevice) α}
    (hact : act.Meets (Stands rules start session.context.stream.resource [] roster)
      fun _ => Standing rules start session.context.stream.resource (roster.Spares none)) :
    (Session.onContext act).Meets (fun now => now = session) fun _ => Holds rules start := by
  rintro _ rfl
  exact h.turn (hact _ h.stands)

/-- The same for an operation that changes nothing that is known. -/
theorem holds_onContext_of_keeps (h : Held rules start roster session)
    {act : Act (Context VulkanDevice) α}
    (hact : act.Keeps (Stands rules start session.context.stream.resource [] roster)) :
    (Session.onContext act).Meets (fun now => now = session) fun _ => Holds rules start :=
  holds_onContext h fun context hstands => ⟨roster, hact context hstands, .refl _ _⟩

/-- A texture is changed; a change that is refused leaves it as it was. -/
theorem holds_changeTexture (h : Held rules start roster session) (slot : Nat)
    {change : Texture → Attempt ε (Context VulkanDevice) Texture}
    (hchange : (change (session.texture slot)).Meets
      (fun context => context = session.context)
      (fun value context => (∀ id, value.resource = some id →
          ∀ other, other ≠ Place.texture slot → other.resource? session ≠ some id) ∧
        Standing rules start session.context.stream.resource (fun after =>
          roster.Spares (session.texture slot).resource after ∧ after.Agrees value) context)
      fun _ => Standing rules start session.context.stream.resource (roster.Spares none)) :
    (Session.changeTexture slot change).Meets (fun now => now = session)
      (fun _ => Holds rules start) fun _ => Holds rules start := by
  refine .get_of_eq ?_
  refine .bind (.focus fun now hnow => ?_) fun value => .lift fun _ hheld => hheld
  subst hnow
  refine .mono hchange (fun _ hcontext => hcontext) ?_ fun _ context hstanding => h.turn hstanding
  rintro value context ⟨hfree, after, hstands, hspares, hagrees⟩
  exact ⟨after, h.setTexture slot hstands hspares hagrees hfree⟩

/-- A change that gives the texture back as it was. -/
theorem holds_upload (h : Held rules start roster session) (slot : Nat)
    {change : Texture → Attempt ε (Context VulkanDevice) Texture}
    (hchange : (change (session.texture slot)).Meets
      (fun context => context = session.context)
      (fun value context => value = session.texture slot ∧
        Standing rules start session.context.stream.resource
          (roster.Upholds (session.texture slot)) context)
      fun _ => Standing rules start session.context.stream.resource (roster.Spares none)) :
    (Session.changeTexture slot change).Meets (fun now => now = session)
      (fun _ => Holds rules start) fun _ => Holds rules start := by
  refine holds_changeTexture h slot (.answering hchange ?_)
  rintro value context ⟨rfl, hstanding⟩
  exact ⟨fun id hid => h.free_of_own (.texture slot) hid, hstanding⟩

/-- A new texture has a resource whose layout is followed. -/
theorem held_create (h : Held rules start roster session) (slot : Nat) (desc : TextureDesc)
    (formats : ViewFormats) :
    (Session.create slot desc formats).Meets (fun now => now = session)
      (fun _ now => ∃ id after, (now.texture slot).resource = some id ∧
        Held rules start after now ∧ (rules.tracked → (after.layout? id).isSome))
      fun _ => Holds rules start := by
  refine .get_of_eq ?_
  refine .bind (.focus fun now hnow => ?_) fun value => .lift fun _ hheld => hheld
  subst hnow
  refine .mono (stands_create (h.agrees slot) h.stands.live
    (h.ne_stream (.texture slot) Place.noConfusion) desc formats)
    h.stands_of_eq ?_ fun _ context hstanding => h.turn hstanding
  rintro value context ⟨id, hvalue, hnew, after, hstands, hspares, hagrees, hfollowed⟩
  refine ⟨id, after, ?_, h.setTexture slot hstands hspares hagrees fun other hother place _ => ?_,
    hfollowed⟩
  · have hslot := texture_insert now context slot slot value
    rw [if_pos rfl] at hslot
    exact (congrArg Texture.resource hslot).trans hvalue
  · obtain rfl := Option.some.inj (hvalue.symm.trans hother)
    exact h.free_of_new hnew place

/-- A session stays at rest when a texture is destroyed, deferred if callers are careful. -/
theorem holds_destroyTexture (h : Held rules start roster session) (slot : Nat) (deferred : Bool)
    (hcareful : rules.careful → deferred = true) :
    (Session.destroyTexture slot deferred).Meets (fun now => now = session)
      fun _ => Holds rules start := by
  refine .get fun _ => ?_
  refine .bind (.focus fun now hnow => ?_) fun _ => .modify fun _ hheld => hheld
  obtain ⟨rfl, rfl⟩ := hnow
  refine .mono (stands_destroy (h.agrees slot) (h.ne_stream (.texture slot)
    Place.noConfusion) deferred hcareful) h.stands_of_eq ?_
  rintro _ context ⟨after, hstands, hspares⟩
  exact ⟨after, h.setTexture slot hstands hspares (fun _ hnone => nomatch hnone)
    fun _ hnone => nomatch hnone⟩

/-- A session stays at rest when a texture makes a transition: the roster moves its image with it.
-/
theorem holds_transition (h : Held rules start roster session) (slot : Nat) (state : UsageState) :
    (Session.transition slot state).Meets (fun now => now = session)
      fun _ => Holds rules start := by
  refine .get fun _ => ?_
  refine .bind (.focus fun now hnow => ?_) fun _ => .modify fun _ hheld => hheld
  obtain ⟨rfl, rfl⟩ := hnow
  have hown (id : ResourceId) (hid : (now.texture slot).resource = some id) (other : Place)
      (hne : other ≠ .texture slot) : other.resource? now ≠ some id :=
    h.free_of_own (.texture slot) hid other hne
  cases hresource : (now.texture slot).resource with
  | none =>
    simp only [Texture.transition, hresource]
    refine .pure ?_
    rintro _ rfl
    exact ⟨roster, h.setTexture slot h.stands (.refl _ _) (h.agrees slot) hown⟩
  | some id =>
    refine .mono (stands_transition _ hresource (h.agrees slot) state) h.stands_of_eq ?_
    rintro _ context ⟨rfl, after, hstands, hshifts, hagrees⟩
    refine ⟨after, h.setTexture slot hstands ?_ hagrees hown⟩
    rw [hresource]
    exact hshifts.spares

theorem meets_dropTexture (slot : Nat) :
    (Session.dropTexture slot).Meets (fun now => now = session) fun _ now =>
      now = { session with textures := session.textures.insert slot {} } := by
  refine .get_of_eq (.through (fun _ now => now = session) ?_ fun _ => .modify ?_)
  · rintro _ rfl
    unfold Texture.leak
    split <;> rfl
  · rintro _ rfl
    rfl

theorem holds_takeTexture (h : Held rules start roster session) (source target : Nat) :
    (Session.takeTexture source target).Meets (fun now => now = session)
      fun _ => Holds rules start := by
  obtain ⟨htaken, hfree⟩ := h.clearTexture source
  obtain ⟨hdropped, -⟩ := htaken.clearTexture target
  refine .get_of_eq ?_
  refine .through (fun _ now =>
    now = { session with textures := session.textures.insert source {} }) (.modify ?_) fun _ => ?_
  · rintro _ rfl
    rfl
  refine .bind (meets_dropTexture target) fun _ => .modify ?_
  rintro _ rfl
  refine ⟨roster, hdropped.setTexture target hdropped.stands (.refl _ _) (h.agrees source) ?_⟩
  intro id hid other hne
  rw [(others_texture rfl {} other hne).1]
  exact hfree id hid other

/-- An operation on the resource in a slot does nothing if there is none. -/
theorem meets_withResource (slot : Nat) {act : ResourceId → Act (Session VulkanDevice) α}
    {final : Session VulkanDevice → Prop} (hnone : final session)
    (hsome : ∀ id, session.resources.get? slot = some id →
      (act id).Meets (fun now => now = session) fun _ => final) :
    (Session.withResource slot act).Meets (fun now => now = session) fun _ => final := by
  refine .get_of_eq ?_
  split
  · rintro _ rfl
    exact hnone
  · next id hid => exact .map (hsome id hid)

/-- The resource goes from its slot into the texture. -/
theorem holds_adopt (h : Held rules start roster session) (slot source : Nat)
    (formats : ViewFormats) (state : UsageState) :
    (Session.adopt slot source formats state).Meets (fun now => now = session)
      fun _ => Holds rules start := by
  refine meets_withResource source ⟨roster, h⟩ fun id hid => ?_
  have hborne := h.borne (.loose source) id hid
  have hfollowed : roster.layout? id = none :=
    Option.eq_none_iff_forall_ne_some.mpr fun layout hlayout => nomatch hborne.2 layout hlayout
  have hother : (session.texture slot).resource ≠ some id := fun hother =>
    Place.noConfusion (h.apart (.texture slot) (.loose source) id hother hid)
  -- The session as if the resource had left its slot first.
  obtain ⟨hcleared, hfree⟩ := h.clearLoose source
  have hchanged : (Session.changeTexture slot fun texture => texture.adopt id formats state).Meets
      (fun now => now = session)
      (fun _ now => Holds rules start { now with resources := now.resources.erase source })
      fun _ => Holds rules start := by
    refine .get_of_eq ?_
    refine .bind (.focus fun now hnow => ?_) fun value => .lift fun _ hheld => hheld
    subst hnow
    refine .mono (stands_adopt (h.agrees slot) (h.ne_stream (.texture slot)
      Place.noConfusion) hborne.1 hfollowed hother formats state) h.stands_of_eq ?_
      fun _ context hstands => h.turn (hstands.spares _)
    rintro value context ⟨hvalue, after, hstands, hspares, hagrees⟩
    refine ⟨after, hcleared.setTexture slot hstands hspares hagrees fun other hother place _ => ?_⟩
    obtain rfl := Option.some.inj (hvalue.symm.trans hother)
    exact hfree id hid place
  refine Act.Meets.bind hchanged fun answer => ?_
  cases answer with
  | ok => exact .bind (.modify fun _ hheld => hheld) fun _ => .pure fun _ hheld => hheld
  | error refusal => exact .pure fun _ hheld => hheld

/-- A new resource is on its way to a place. -/
def Arriving (rules : Rules) (start : Work) (id : ResourceId) (now : Session VulkanDevice) : Prop :=
  ∃ roster session context, Held rules start roster session ∧ roster.tenure? id = none ∧
    Stands rules start session.context.stream.resource [] (roster.enroll id none) context ∧
    now = { session with context }

theorem arriving_tryContext (h : Held rules start roster session)
    {attempt : Attempt ε (Context VulkanDevice) α} {made : α → ResourceId}
    (hattempt : attempt.Meets (Stands rules start session.context.stream.resource [] roster)
      (fun value context => Stands rules start session.context.stream.resource []
          (roster.enroll (made value) none) context ∧ roster.tenure? (made value) = none)
      fun _ => Stands rules start session.context.stream.resource [] roster) :
    (Session.tryContext attempt).Meets (fun now => now = session)
      (fun value => Arriving rules start (made value)) fun _ => Holds rules start := by
  refine .focus fun now hnow => ?_
  subst hnow
  refine .mono hattempt h.stands_of_eq ?_ fun _ context hstands =>
    h.turn (hstands.spares _)
  exact fun _ context ⟨hstands, hnew⟩ => ⟨roster, now, context, h, hnew, hstands, rfl⟩

/-- A resource that nobody holds may go into any slot. -/
theorem holds_holdResource (slot : Nat) (id : ResourceId) :
    (Session.holdResource slot id : Act (Session VulkanDevice) Unit).Meets
      (Arriving rules start id) fun _ => Holds rules start := by
  refine .get fun origin => .through (fun _ => Arriving rules start id) ?_ fun _ => .modify ?_
  · cases origin.resources.get? slot with
    | none => exact .pure fun _ h => h.2
    | some previous => exact .log fun _ h => h.2
  · rintro _ ⟨roster, session, context, hheld, hnew, hstands, rfl⟩
    exact ⟨_, hheld.setLoose slot hstands hnew⟩

theorem holds_createResource (h : Held rules start roster session) (slot : Nat)
    (desc : TextureDesc) (state : UsageState) :
    (Session.createResource slot desc state).Meets (fun now => now = session)
      (fun _ => Holds rules start) fun _ => Holds rules start := by
  refine .bind (arriving_tryContext h (stands_tryDevice
    (VulkanDevice.meets_createTexture desc state none fun _ hnone => nomatch hnone))) fun id => ?_
  refine .bind (.lift (holds_holdResource slot id)) fun _ => ?_
  exact .pure fun _ hheld => hheld

theorem holds_createBuffer (h : Held rules start roster session) (slot size : Nat) :
    (Session.createBuffer slot size).Meets (fun now => now = session)
      (fun _ => Holds rules start) fun _ => Holds rules start := by
  refine .bind (arriving_tryContext h (stands_tryDevice (VulkanDevice.meets_createHostBuffer size)))
    fun buffer => ?_
  refine .bind (.lift (holds_holdResource slot buffer.resource)) fun _ => ?_
  exact .pure fun _ hheld => hheld

/-- A barrier on a resource whose layout nobody follows. -/
theorem holds_recordBarrier (h : Held rules start roster session) (slot : Nat)
    (before after : UsageState) :
    (Session.recordBarrier slot before after).Meets (fun now => now = session)
      fun _ => Holds rules start := by
  refine meets_withResource slot ⟨roster, h⟩ fun id hid => ?_
  have hborne := h.borne (.loose slot) id hid
  have hsame : roster.move id (stateLayout after) = roster :=
    Roster.move_eq_self fun layout hlayout => nomatch hborne.2 layout hlayout
  refine holds_onContext_of_keeps h fun context hstands => ?_
  have hmoved := stands_recordBarrier hborne.1 before after
    (fun layout hlayout => nomatch hborne.2 layout hlayout) context hstands
  rwa [hsame] at hmoved

/-- What a caller takes out of a slot and gives up. -/
theorem holds_destroyLoose (h : Held rules start roster session) (slot : Nat) (deferred : Bool)
    (hcareful : rules.careful → deferred = true) :
    (Session.destroyResource slot deferred).Meets (fun now => now = session)
      fun _ => Holds rules start := by
  refine meets_withResource slot ⟨roster, h⟩ fun id hid => ?_
  obtain ⟨hcleared, hfree⟩ := h.clearLoose slot
  refine .through (fun _ now =>
    now = { session with resources := session.resources.erase slot }) (.modify ?_) fun _ => ?_
  · rintro _ rfl
    rfl
  rintro _ rfl
  refine hcleared.shed (fun other hother => Option.some.inj hother ▸ hfree id hid) ?_
  exact stands_destroyResource deferred (h.borne (.loose slot) id hid).1
    (fun heq => h.ne_stream (.loose slot) Place.noConfusion (hid.trans (congrArg some heq)))
    (fun hrules => .inl (hcareful hrules)) session.context h.stands

/-- The same through the device, at once. -/
theorem holds_deviceDestroy (h : Held rules start roster session) (slot : Nat)
    (hcareful : ¬rules.careful) :
    (Session.deviceDestroy slot).Meets (fun now => now = session) fun _ => Holds rules start :=
  holds_destroyLoose h slot false fun hrules => absurd hrules hcareful

theorem holds_dropResource (h : Held rules start roster session) (slot : Nat) :
    (Session.dropResource slot).Meets (fun now => now = session) fun _ => Holds rules start := by
  refine meets_withResource slot ⟨roster, h⟩ fun id hid => ?_
  refine .through (fun _ => Holds rules start) (.modify ?_) fun _ => .log fun _ hheld => hheld
  rintro _ rfl
  exact ⟨roster, (h.clearLoose slot).1⟩

/-- An operation on the staging texture in a slot does nothing if there is none. -/
theorem meets_withStaging (slot : Nat) {act : StagingTexture → Act (Session VulkanDevice) α}
    {final : Session VulkanDevice → Prop} (hnone : final session)
    (hsome : ∀ texture, session.staging.get? slot = some texture →
      (act texture).Meets (fun now => now = session) fun _ => final) :
    (Session.withStaging slot act).Meets (fun now => now = session) fun _ => final := by
  refine .get_of_eq ?_
  split
  · rintro _ rfl
    exact hnone
  · next texture hfound => exact .map (hsome texture hfound)

theorem resource?_staging {texture : StagingTexture}
    (hfound : session.staging.get? slot = some texture) :
    Place.resource? session (.staging slot) = some texture.buffer.resource := by
  simp only [Place.resource?, hfound, Option.map_some]

/-- A staging texture whose buffer nobody holds may go into any slot. -/
theorem holds_holdStaging (slot : Nat) (texture : StagingTexture) :
    (Session.holdStaging slot texture : Act (Session VulkanDevice) Unit).Meets
      (Arriving rules start texture.buffer.resource) fun _ => Holds rules start := by
  refine .get fun origin => .through (fun _ => Arriving rules start texture.buffer.resource) ?_
    fun _ => .modify ?_
  · cases origin.staging.get? slot with
    | none => exact .pure fun _ h => h.2
    | some previous => exact .log fun _ h => h.2
  · rintro _ ⟨roster, session, context, hheld, hnew, hstands, rfl⟩
    exact ⟨_, hheld.setStaging slot texture hstands (Roster.spares_enroll hnew none)
      (Roster.bears_enroll _ _) fun other _ => hheld.free_of_new hnew other⟩

theorem holds_createStaging (h : Held rules start roster session) (slot width height : Nat)
    (format : NativeFormat) (writable : Bool) :
    (Session.createStaging slot width height format writable).Meets (fun now => now = session)
      (fun _ => Holds rules start) fun _ => Holds rules start := by
  refine .bind (arriving_tryContext h (stands_createStaging width height format writable))
    fun texture => ?_
  refine .bind (.lift (holds_holdStaging slot texture)) fun _ => ?_
  exact .pure fun _ hheld => hheld

/-- A session stays at rest when a staging texture is written, which stays in its buffer. -/
theorem holds_writeStaging (h : Held rules start roster session) (slot : Nat) (region : Region)
    (data : ByteArray) (stride : Nat) :
    (Session.writeStaging slot region data stride).Meets (fun now => now = session)
      fun _ => Holds rules start := by
  refine meets_withStaging slot ⟨roster, h⟩ fun texture hfound => ?_
  have hid := resource?_staging hfound
  split
  · exact .pure fun _ hnow => hnow ▸ ⟨roster, h⟩
  · next written hwritten =>
    rw [← resource_write hwritten] at hid
    refine .through (fun _ => Holds rules start) (.modify ?_) fun _ => .pure fun _ hheld => hheld
    rintro _ rfl
    exact ⟨roster, h.setStaging slot written h.stands (.refl _ _) (h.borne (.staging slot) _ hid)
      (h.free_of_own (.staging slot) hid)⟩

/-- A copy from a staging texture into an image that is taken to be a copy destination. -/
theorem keeps_copyTo (h : Held rules start roster session) {texture : StagingTexture}
    (hfound : session.staging.get? slot = some texture)
    (hborne : roster.Bears id (some .transferDestination)) (source : Region) (x y : Nat) :
    (Session.onContext (texture.copyTo source id x y)).Meets (fun now => now = session)
      fun _ => Holds rules start := by
  refine holds_onContext h fun context hstands => ⟨roster, ?_, .refl _ _⟩
  refine keeps_recordCopy hborne context ⟨hstands, fun _ => ?_⟩
  exact hstands.not_waits (h.borne (.staging slot) _ (resource?_staging hfound)).1

theorem holds_copyStaging (h : Held rules start roster session) (slot : Nat) (source : Region)
    (destination x y : Nat) :
    (Session.copyStaging slot source destination x y).Meets (fun now => now = session)
      fun _ => Holds rules start := by
  refine .get_of_eq ?_
  split
  · exact .pure fun _ hnow => hnow ▸ ⟨roster, h⟩
  · next texture hfound =>
    exact meets_withResource destination ⟨roster, h⟩ fun id hid =>
      keeps_copyTo h hfound (h.borne (.loose destination) id hid).of_none source x y

/-- A session stays at rest when a staging texture is destroyed, deferred if callers are careful. -/
theorem holds_destroyStaging (h : Held rules start roster session) (slot : Nat) (deferred : Bool)
    (hcareful : rules.careful → deferred = true) :
    (Session.destroyStaging slot deferred).Meets (fun now => now = session)
      fun _ => Holds rules start := by
  refine meets_withStaging slot ⟨roster, h⟩ fun texture hfound => ?_
  have hid := resource?_staging hfound
  obtain ⟨hcleared, hfree⟩ := h.clearStaging slot
  refine .through (fun _ now =>
    now = { session with staging := session.staging.erase slot }) (.modify ?_) fun _ => ?_
  · rintro _ rfl
    rfl
  rintro _ rfl
  refine hcleared.shed (fun other hother => Option.some.inj hother ▸ hfree _ hid) ?_
  exact stands_destroyStaging texture deferred (h.borne (.staging slot) _ hid).1
    (fun heq => h.ne_stream (.staging slot) Place.noConfusion (hid.trans (congrArg some heq)))
    (fun hrules => .inl (hcareful hrules)) session.context h.stands

theorem holds_beginUpdate (h : Held rules start roster session) (slot : Nat) (region : Region)
    (data : ByteArray) :
    (Session.beginUpdate slot region data).Meets (fun now => now = session)
      (fun _ => Holds rules start) fun _ => Holds rules start := by
  refine .get_of_eq ?_
  refine .through (fun _ => Holds rules start) (.focus fun now hnow => ?_) fun layout => ?_
  · subst hnow
    exact .mono (stands_beginUpdate _ region) h.stands_of_eq (fun _ context => h.turn)
      fun _ context => h.turn
  refine .through (fun _ => Holds rules start) (.lift ?_) fun _ => .pure fun _ hheld => hheld
  rintro now ⟨after, hheld⟩
  exact holds_onContext_of_keeps hheld (keeps_onStream fun _ => rfl) now rfl

/-- A session stays at rest when a buffer is copied that does not wait to be freed. -/
theorem holds_copyFromBuffer (h : Held rules start roster session) (slot : Nat) (region : Region)
    (rowPitch : Nat) (buffer : ResourceId) (offset : Nat)
    (hcareful : rules.careful → ¬Waits session.context.retirement buffer) :
    (Session.copyFromBuffer slot region rowPitch buffer offset).Meets (fun now => now = session)
      (fun _ => Holds rules start) fun _ => Holds rules start := by
  refine holds_upload h slot (.mono (stands_copyFromBuffer (h.agrees slot) region rowPitch buffer
    offset) (fun context hcontext => ⟨h.stands_of_eq context hcontext, ?_⟩) (fun _ _ h => h)
    fun _ context hstands => hstands.spares _)
  rwa [hcontext]

/-- A session stays at rest when a staging texture is copied into a texture that its callers have
made a destination. -/
theorem holds_copyStagingInto (h : Held rules start roster session) (slot : Nat) (source : Region)
    (target x y : Nat)
    (htracked : rules.tracked →
      OpensDestination session (.copyStagingInto slot source target x y)) :
    (Session.copyStagingInto slot source target x y).Meets (fun now => now = session)
      fun _ => Holds rules start := by
  refine .get_of_eq ?_
  split
  · exact .pure fun _ hnow => hnow ▸ ⟨roster, h⟩
  · next id hid =>
    have hborne := h.borne (.texture target) id hid
    refine meets_withStaging slot ⟨roster, h⟩ fun texture hfound =>
      keeps_copyTo h hfound ⟨hborne.1, fun layout hlayout => ?_⟩ source x y
    have hstate := htracked (h.stands.rest.validNow.imaged id layout hlayout).1
    have hlayout' := hborne.2 layout hlayout
    rwa [Place.layout?, show (session.texture target).state = .copyDest from hstate] at hlayout'

theorem holds_operation (h : Held rules start roster session) (operation : Texel.Operation)
    (hcareful : rules.careful → DestroysDeferred operation ∧ SparesQueue session operation)
    (htracked : rules.tracked → OpensDestination session operation) :
    (discard operation.perform).Meets (fun now => now = session) fun _ => Holds rules start := by
  have hdone {α : Type} {act : Act (Session VulkanDevice) α}
      (hact : act.Meets (fun now => now = session) fun _ => Holds rules start) :
      (discard act).Meets (fun now => now = session) fun _ => Holds rules start :=
    .discard hact fun _ _ hheld => hheld
  have htried {α ε : Type} {attempt : Attempt ε (Session VulkanDevice) α}
      (hattempt : attempt.Meets (fun now => now = session) (fun _ => Holds rules start)
        fun _ => Holds rules start) :
      (discard attempt.act).Meets (fun now => now = session) fun _ => Holds rules start :=
    Attempt.Meets.discard hattempt (fun _ _ hheld => hheld) fun _ _ hheld => hheld
  have hdeferred : rules.careful → DestroysDeferred operation := fun hrules => (hcareful hrules).1
  cases operation with
  | create slot desc formats =>
    exact htried (.answering (held_create h slot desc formats)
      (fun _ _ ⟨_, after, _, hheld, _⟩ => ⟨after, hheld⟩))
  | adopt slot source formats state => exact hdone (holds_adopt h slot source formats state)
  | destroyTexture slot deferred => exact hdone (holds_destroyTexture h slot deferred hdeferred)
  | takeTexture source target => exact hdone (holds_takeTexture h source target)
  | dropTexture slot =>
    exact hdone (.mono (meets_dropTexture slot) (fun _ hnow => hnow) fun _ _ hnow =>
      hnow ▸ ⟨roster, (h.clearTexture slot).1⟩)
  | transition slot state => exact hdone (holds_transition h slot state)
  | load slot region data pitch =>
    refine htried (holds_upload h slot (.narrow ?_ h.stands_of_eq))
    exact stands_load (h.agrees slot) h.stands.live region data pitch
  | beginUpdate slot region data => exact htried (holds_beginUpdate h slot region data)
  | endUpdate slot region =>
    exact htried (holds_upload h slot (.mono (stands_endUpdate (h.agrees slot) region)
      h.stands_of_eq (fun _ _ h => h) fun _ context hstands => hstands.spares _))
  | copyFromBuffer slot region rowPitch buffer offset =>
    exact htried (holds_copyFromBuffer h slot region rowPitch buffer offset fun hrules =>
      (hcareful hrules).2)
  | createStaging slot width height format writable =>
    exact htried (holds_createStaging h slot width height format writable)
  | writeStaging slot region data stride =>
    exact hdone (holds_writeStaging h slot region data stride)
  | copyStaging slot source destination x y =>
    exact hdone (holds_copyStaging h slot source destination x y)
  | copyStagingInto slot source target x y =>
    exact hdone (holds_copyStagingInto h slot source target x y htracked)
  | destroyStaging slot deferred => exact hdone (holds_destroyStaging h slot deferred hdeferred)
  | createResource slot desc state => exact htried (holds_createResource h slot desc state)
  | createBuffer slot size => exact htried (holds_createBuffer h slot size)
  | recordBarrier slot before after => exact hdone (holds_recordBarrier h slot before after)
  | destroyResource slot deferred => exact hdone (holds_destroyLoose h slot deferred hdeferred)
  | destroyDescriptor slot deferred =>
    exact hdone (holds_onContext_of_keeps h (keeps_destroySlots [slot] deferred))
  | destroyViews views deferred =>
    exact hdone (holds_onContext_of_keeps h (keeps_destroySlots _ deferred))
  | deviceDestroy slot => exact hdone (holds_deviceDestroy h slot hdeferred)
  | dropResource slot => exact hdone (holds_dropResource h slot)
  | submit wait => exact hdone (holds_onContext h (stands_submit wait))
  | reap => exact hdone (holds_onContext h stands_reapCompleted)
  | waitIdle =>
    exact hdone (holds_onContext h (.mono stands_waitIdle (fun _ h => h) fun _ _ hstanding =>
      hstanding.mono fun _ hafter => hafter.1))
  | setAutoComplete | failAllocations | failViews =>
    exact hdone (.pure fun _ hnow => hnow ▸ ⟨roster, h⟩)

theorem holds_turn (h : Held rules start roster session) {turn : SessionTurn}
    (hobeys : turn.Obeys rules session) : Holds rules start (turn.after session) := by
  cases turn with
  | operation asked => exact holds_operation h asked hobeys.1 hobeys.2 session rfl
  | importImage slot image desc =>
    refine holds_holdResource slot _ _ ?_
    obtain ⟨hreaches, hnew⟩ := VulkanDevice.meets_importImage image desc session.context.device
      ⟨h.stands.rest, fun _ => hobeys⟩
    refine ⟨roster, session, _, h, hnew, ?_, rfl⟩
    exact h.stands.turn_idle hreaches rfl rfl (Roster.continues_enroll hnew none)
      (h.stands.live.congr (Roster.spares_enroll hnew none _ h.stands.live
        (Option.some_ne_none _).symm))
  | move made =>
    have hkeeps : (onDevice (VulkanDevice.onNative made.act)).Keeps
        (Stands rules start session.context.stream.resource [] roster) :=
      fun context hstands => hstands.same (rest_move hobeys context.device hstands.rest) rfl rfl
    exact holds_onContext_of_keeps h hkeeps session rfl

/-- A run that keeps to the rules leaves the session at rest. -/
theorem holds_run {turns : List SessionTurn} (h : Held rules start roster session)
    (hobeys : Obeying rules session turns) : Holds rules start (runSession session turns) := by
  induction turns generalizing session roster with
  | nil => exact ⟨roster, h⟩
  | cons turn rest ih =>
    obtain ⟨hturn, hrest⟩ := hobeys
    obtain ⟨after, hafter⟩ := holds_turn h hturn
    exact ih hafter hrest

/-- A new session has its stream buffer and nothing else. -/
theorem held_opened {device : VulkanDevice} {config : Config}
    (hvalid : Valid rules (Work.opened device)) (hopen : (ofDevice device config).1 = .ok context) :
    Held rules (Work.opened device) (Roster.enroll {} context.stream.resource none)
      { context } where
  stands := stands_ofDevice (rest_opened hvalid) hopen
  apart first second id hfirst hsecond := by
    cases first <;> cases hfirst
    cases second <;> cases hsecond
    rfl
  borne place id hid := by
    cases place <;> cases hid
    exact Roster.bears_enroll _ _

end Sessions

end Vulkan

end Texel
