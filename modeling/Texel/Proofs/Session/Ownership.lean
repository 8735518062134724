import Texel.Proofs.Session.Operation
import Texel.Proofs.Table
import Texel.Proofs.Texture.Work

namespace Texel

open Simulated Context

/-- Items that change hands if an attempt on the context is accepted. -/
def Attempt.ifAccepted {ε α : Type} (attempt : Attempt ε (Context SimulatedDevice) α)
    (context : Context SimulatedDevice) (items : List Retired) : List Retired :=
  match (attempt.run context).value with
  | .ok _ => items
  | .error _ => []

/-- Nothing is given up, accepted or not, where there is nothing to give up. -/
theorem Attempt.ifAccepted_nil {ε α : Type} (attempt : Attempt ε (Context SimulatedDevice) α)
    (context : Context SimulatedDevice) : attempt.ifAccepted context [] = [] := by
  unfold ifAccepted
  split <;> rfl

namespace Session

/-- The resource in a slot. -/
def resourceAt (session : Session SimulatedDevice) (slot : Nat) : List Retired :=
  (session.resources.get? slot).toList.map .resource

/-- The buffer of the staging texture in a slot. -/
def bufferAt (session : Session SimulatedDevice) (slot : Nat) : List Retired :=
  (session.staging.get? slot).toList.map fun staging => .resource staging.buffer.resource

end Session

namespace Operation

/-- Callers destroy textures, resources and slots deferred. The buffer of a staging texture may be
freed at once. -/
def isDeferred : Operation → Bool
  | .destroyTexture _ deferred | .destroyResource _ deferred | .destroyDescriptor _ deferred
  | .destroyViews _ deferred => deferred
  | .deviceDestroy _ => false
  | _ => true

/-- Slots are given up with their texture, and not by themselves. -/
def isLinear : Operation → Bool
  | .destroyDescriptor .. | .destroyViews .. => false
  | _ => true

/-- What an operation gives up to the queue. -/
def retires (operation : Operation) (session : Session SimulatedDevice) : List Retired :=
  match operation with
  | .create slot desc formats =>
    ((session.texture slot).create desc formats).ifAccepted session.context
      (session.texture slot).holdings
  | .adopt slot source formats state =>
    match session.resources.get? source with
    | none => []
    | some id =>
      ((session.texture slot).adopt id formats state).ifAccepted session.context
        (session.texture slot).holdings
  | .destroyTexture slot deferred => queuedOf (session.texture slot).holdings deferred
  | .destroyStaging slot deferred => queuedOf (session.bufferAt slot) deferred
  | .destroyResource slot deferred => queuedOf (session.resourceAt slot) deferred
  | .destroyDescriptor slot deferred => queuedOf [.descriptor slot] deferred
  | .destroyViews views deferred => queuedOf (views.slots.map .descriptor) deferred
  | _ => []

/-- What nobody owns any more after an operation although it was not given up. -/
def leaks (operation : Operation) (session : Session SimulatedDevice) : List Retired :=
  match operation with
  | .takeTexture source target =>
    if source = target then [] else (session.texture target).holdings
  | .dropTexture slot => (session.texture slot).holdings
  | .createStaging slot width height format writable =>
    (StagingTexture.create width height format writable).ifAccepted session.context
      (session.bufferAt slot)
  | .createResource slot desc state =>
    (tryDevice (Device.createTexture desc state)).ifAccepted session.context
      (session.resourceAt slot)
  | .createBuffer slot size =>
    (tryDevice (Device.createHostBuffer size)).ifAccepted session.context (session.resourceAt slot)
  | .dropResource slot => session.resourceAt slot
  | _ => []

end Operation

namespace Session

variable {conduct : Conduct} {origin start : Context SimulatedDevice}
  {session : Session SimulatedDevice} {leaked items : List Retired}

/-- What commands may name: textures with their views, and loose resources. -/
def held (session : Session SimulatedDevice) : List Retired :=
  session.textures.gather Texture.holdings ++ session.resources.gather fun id => [.resource id]

/-- The buffers of staging textures, which no command names. -/
def unnamed (session : Session SimulatedDevice) : List Retired :=
  session.staging.gather fun staging => [.resource staging.buffer.resource]

/-- What is held outside the texture of a slot. -/
def besides (session : Session SimulatedDevice) (slot : Nat) : List Retired :=
  (session.textures.erase slot).gather Texture.holdings ++
    session.resources.gather fun id => [.resource id]

/-- Each slot is found once. -/
structure Keyed (session : Session SimulatedDevice) : Prop where
  textures : session.textures.keys.Nodup
  staging : session.staging.keys.Nodup
  resources : session.resources.keys.Nodup

/-- The books of the session are right. -/
structure InCustody (conduct : Conduct) (origin : Context SimulatedDevice) (leaked : List Retired)
    (session : Session SimulatedDevice) : Prop where
  keyed : session.Keyed
  custody : Context.InCustody conduct origin (leaked ++ session.held) session.unnamed
    session.context

/-- An operation that started at a context has left the books right. -/
structure Handled (conduct : Conduct) (origin start : Context SimulatedDevice)
    (leaked items : List Retired) (session : Session SimulatedDevice) : Prop where
  keyed : session.Keyed
  handled : Context.Handled conduct origin start (leaked ++ session.held) session.unnamed items
    session.context

/-- What the texture in a slot holds; an empty slot holds nothing. -/
theorem holdings_texture (session : Session SimulatedDevice) (slot : Nat) :
    (session.texture slot).holdings =
      (session.textures.get? slot).toList.flatMap Texture.holdings := by
  unfold texture
  cases session.textures.get? slot <;> simp [Texture.holdings, ViewSet.slots]

/-- What is held is what one texture holds and what is held beside it. -/
theorem held_split (h : session.Keyed) (slot : Nat) :
    session.held.Perm ((session.texture slot).holdings ++ session.besides slot) := by
  rw [holdings_texture, besides, ← List.append_assoc]
  exact (Table.gather_split h.textures slot Texture.holdings).append_right _

/-- What is held after the texture in a slot was replaced. -/
theorem held_insert (session : Session SimulatedDevice) (slot : Nat) (texture : Texture) :
    ({ session with textures := session.textures.insert slot texture } :
      Session SimulatedDevice).held.Perm (texture.holdings ++ session.besides slot) := by
  simp only [held, Table.gather_insert, besides, ← List.append_assoc]
  exact List.perm_append_comm.append_right _

/-- The context has nothing to do with the slots. -/
theorem Keyed.moved (h : session.Keyed) (context : Context SimulatedDevice) :
    ({ session with context } : Session SimulatedDevice).Keyed :=
  ⟨h.textures, h.staging, h.resources⟩

/-- Each slot holds one texture after another is put in. -/
theorem Keyed.insert (h : session.Keyed) (slot : Nat) (texture : Texture) :
    ({ session with textures := session.textures.insert slot texture } :
      Session SimulatedDevice).Keyed :=
  ⟨Table.nodup_keys_insert h.textures slot texture, h.staging, h.resources⟩

/-- What a texture holds, and everything else that callers hold or have leaked. -/
theorem InCustody.split (h : session.InCustody conduct origin leaked) (slot : Nat) :
    Context.InCustody conduct origin
      ((session.texture slot).holdings ++ (leaked ++ session.besides slot)) session.unnamed
      session.context := by
  refine h.custody.perm ?_ (.refl _)
  apply ((held_split h.keyed slot).append_left leaked).trans
  simp only [← List.append_assoc]
  exact List.perm_append_comm.append_right _

/-- A change of a texture concerns nothing that is held outside it. -/
theorem handled_changeTexture {ε : Type} (hkeyed : session.Keyed) (slot : Nat)
    (change : Texture → Attempt ε (Context SimulatedDevice) Texture)
    (h : (change (session.texture slot)).Meets (fun context => context = session.context)
      (fun value => Context.Handled conduct origin session.context
        (value.holdings ++ (leaked ++ session.besides slot)) session.unnamed items)
      fun _ => Context.Handled conduct origin session.context
        ((session.texture slot).holdings ++ (leaked ++ session.besides slot)) session.unnamed []) :
    Session.Handled conduct origin session.context leaked
      ((change (session.texture slot)).ifAccepted session.context items)
      ((discard (changeTexture slot change).act).run session).state := by
  have hswap (texture : Texture) {rest : List Retired}
      (hrest : rest.Perm (texture.holdings ++ session.besides slot)) :
      (texture.holdings ++ (leaked ++ session.besides slot)).Perm (leaked ++ rest) := by
    refine .trans ?_ (hrest.symm.append_left leaked)
    simp only [← List.append_assoc]
    exact List.perm_append_comm.append_right _
  obtain ⟨hok, herror⟩ := h.of_run rfl
  change Session.Handled _ _ _ _ _ ((changeTexture slot change).run session).state
  unfold Attempt.ifAccepted
  cases hvalue : ((change (session.texture slot)).run session.context).value with
  | ok value =>
    rw [(changeTexture_ok hvalue).2]
    exact ⟨(hkeyed.insert slot value).moved _,
      (hok value hvalue).perm (hswap value (session.held_insert slot value)) (.refl _)⟩
  | error error =>
    rw [(changeTexture_error hvalue).2]
    exact ⟨hkeyed.moved _, (herror error hvalue).perm (hswap _ (held_split hkeyed slot)) (.refl _)⟩

/-- The session without the resource in a slot. -/
def withoutResource (session : Session SimulatedDevice) (slot : Nat) : Session SimulatedDevice :=
  { session with resources := session.resources.erase slot }

/-- The session without the staging texture in a slot. -/
def withoutStaging (session : Session SimulatedDevice) (slot : Nat) : Session SimulatedDevice :=
  { session with staging := session.staging.erase slot }

/-- What is held is the loose resource of one slot and the rest. -/
theorem held_resourceAt (h : session.Keyed) (slot : Nat) :
    session.held.Perm (session.resourceAt slot ++ (session.withoutResource slot).held) := by
  have hsplit := Table.gather_split h.resources slot fun id => [Retired.resource id]
  have hat : (session.resources.get? slot).toList.flatMap (fun id => [Retired.resource id]) =
      session.resourceAt slot := by
    unfold resourceAt
    cases session.resources.get? slot <;> rfl
  rw [hat] at hsplit
  apply (hsplit.append_left _).trans
  simp only [held, withoutResource, ← List.append_assoc]
  exact List.perm_append_comm.append_right _

/-- What is held after a resource was put into a slot. -/
theorem held_hold (session : Session SimulatedDevice) (slot : Nat) (id : ResourceId) :
    ({ session with resources := session.resources.insert slot id } :
      Session SimulatedDevice).held.Perm
        (.resource id :: (session.withoutResource slot).held) := by
  simp only [held, withoutResource, Table.gather_insert, ← List.append_assoc]
  exact List.perm_append_singleton _ _

/-- What is held beside a texture is the loose resource of one slot and the rest. -/
theorem besides_resourceAt (h : session.Keyed) (slot source : Nat) :
    (session.besides slot).Perm
      (session.resourceAt source ++ (session.withoutResource source).besides slot) := by
  have hother : ({ session with textures := session.textures.erase slot } :
      Session SimulatedDevice).Keyed :=
    ⟨Table.nodup_keys_erase h.textures slot, h.staging, h.resources⟩
  exact held_resourceAt hother source

/-- The unnamed items are the buffer of one staging texture and the rest. -/
theorem unnamed_bufferAt (h : session.Keyed) (slot : Nat) :
    session.unnamed.Perm (session.bufferAt slot ++ (session.withoutStaging slot).unnamed) := by
  have hsplit := Table.gather_split h.staging slot fun staging =>
    [Retired.resource staging.buffer.resource]
  have hat : (session.staging.get? slot).toList.flatMap
      (fun staging => [Retired.resource staging.buffer.resource]) = session.bufferAt slot := by
    unfold bufferAt
    cases session.staging.get? slot <;> rfl
  rw [hat] at hsplit
  exact hsplit

/-- The unnamed items after a staging texture was put into a slot. -/
theorem unnamed_hold (session : Session SimulatedDevice) (slot : Nat) (staging : StagingTexture) :
    ({ session with staging := session.staging.insert slot staging } :
      Session SimulatedDevice).unnamed.Perm
        (.resource staging.buffer.resource :: (session.withoutStaging slot).unnamed) := by
  simp only [unnamed, withoutStaging, Table.gather_insert]
  exact List.perm_append_singleton _ _

/-- A slot with a loose resource holds that. -/
theorem resourceAt_eq {slot : Nat} {id : ResourceId} (h : session.resources.get? slot = some id) :
    session.resourceAt slot = [.resource id] := by
  rw [resourceAt, h]
  rfl

/-- A slot with a staging texture holds its buffer. -/
theorem bufferAt_eq {slot : Nat} {staging : StagingTexture}
    (h : session.staging.get? slot = some staging) :
    session.bufferAt slot = [.resource staging.buffer.resource] := by
  rw [bufferAt, h]
  rfl

/-- An operation on a loose resource is that on the one in the slot. -/
theorem state_withResource {α : Type} {slot : Nat} {id : ResourceId}
    (h : session.resources.get? slot = some id)
    (act : ResourceId → Act (Session SimulatedDevice) α) :
    ((withResource slot act).run session).state = ((act id).run session).state := by
  simp only [withResource, Act.run_bind, Act.run_get, h, Act.run_map]

/-- Where no resource is, nothing is done. -/
theorem state_withResource_none {α : Type} {slot : Nat} (h : session.resources.get? slot = none)
    (act : ResourceId → Act (Session SimulatedDevice) α) :
    ((withResource slot act).run session).state = session := by
  simp only [withResource, Act.run_bind, Act.run_get, h, Act.run_pure]

/-- An operation on a staging texture is that on the one in the slot. -/
theorem state_withStaging {α : Type} {slot : Nat} {staging : StagingTexture}
    (h : session.staging.get? slot = some staging)
    (act : StagingTexture → Act (Session SimulatedDevice) α) :
    ((withStaging slot act).run session).state = ((act staging).run session).state := by
  simp only [withStaging, Act.run_bind, Act.run_get, h, Act.run_map]

/-- Where no staging texture is, nothing is done. -/
theorem state_withStaging_none {α : Type} {slot : Nat} (h : session.staging.get? slot = none)
    (act : StagingTexture → Act (Session SimulatedDevice) α) :
    ((withStaging slot act).run session).state = session := by
  simp only [withStaging, Act.run_bind, Act.run_get, h, Act.run_pure]

/-- What a context has done by itself. -/
theorem InCustody.moved {conduct' : Conduct} {context : Context SimulatedDevice}
    (h : session.InCustody conduct origin leaked)
    (hcontext : Context.Handled conduct' origin session.context (leaked ++ session.held)
      session.unnamed items context) :
    Session.Handled conduct' origin session.context leaked items { session with context } :=
  ⟨h.keyed.moved context, hcontext⟩

/-- An operation that does nothing. -/
theorem InCustody.idle {conduct' : Conduct} (h : session.InCustody conduct origin leaked)
    (hconduct : conduct' ≤ conduct) :
    Session.Handled conduct' origin session.context leaked [] session :=
  ⟨h.keyed, (Midway.refl h.custody).handled.weaken hconduct⟩

end Session

end Texel
