import Texel.Proofs.Vulkan.Run

namespace Texel.Vulkan

/-- What was made is what was freed and what is in someone's place. -/
structure Accounts (work : Work) : Prop where
  balance : ∀ object, (Role.made work.device.native.roles).count object =
    (Role.freed work.device.native.roles).count object + work.objects.count object
  once : ∀ object, (Role.made work.device.native.roles).count object ≤ 1
  numbered : ∀ object ∈ Role.made work.device.native.roles,
    object.handle ≤ work.device.native.last object.kind
  resourceKeys : work.device.resources.keys.Nodup
  viewKeys : work.device.views.keys.Nodup
  live : Role.FreesLive work.device.native.roles

namespace Accounts

variable {rules : Rules} {before after : Work}

/-- Objects change places, and nothing happens that makes or frees one. -/
theorem moved (h : Accounts before) (events : List Role)
    (hroles : after.device.native.roles = before.device.native.roles ++ events)
    (hevents : events = [] ∨ ∃ role, events = [role] ∧ role.made? = none ∧ role.freed? = none)
    (hlast : ∀ kind, before.device.native.last kind ≤ after.device.native.last kind)
    (hresources : after.device.resources.keys.Nodup) (hviews : after.device.views.keys.Nodup)
    (hobjects : ∀ object, after.objects.count object = before.objects.count object) :
    Accounts after := by
  have hmade : Role.made events = [] := by
    rcases hevents with rfl | ⟨role, rfl, hrole, -⟩
    · rfl
    · simp [Role.made, hrole]
  have hfreed : Role.freed events = [] := by
    rcases hevents with rfl | ⟨role, rfl, -, hrole⟩
    · rfl
    · simp [Role.freed, hrole]
  refine
    { balance := fun object => ?_
      once := fun object => ?_
      numbered := fun object hobject => ?_
      resourceKeys := hresources
      viewKeys := hviews
      live := ?_ }
  · rw [hroles, Role.made_append, Role.freed_append, hmade, hfreed, List.append_nil,
      List.append_nil, hobjects]
    exact h.balance object
  · rw [hroles, Role.made_append, hmade, List.append_nil]
    exact h.once object
  · rw [hroles, Role.made_append, hmade, List.append_nil] at hobject
    exact Nat.le_trans (h.numbered object hobject) (hlast _)
  · rw [hroles]
    rcases hevents with rfl | ⟨role, rfl, -, hrole⟩
    · rw [List.append_nil]
      exact h.live
    · refine h.live.snoc fun object heq => ?_
      rw [heq] at hrole
      cases hrole

/-- Objects may change places as long as each is in as many as before. -/
theorem shuffled (h : Accounts before) (hnative : after.device.native = before.device.native)
    (hresources : after.device.resources.keys.Nodup) (hviews : after.device.views.keys.Nodup)
    (hobjects : ∀ object, after.objects.count object = before.objects.count object) :
    Accounts after :=
  h.moved [] (by rw [hnative, List.append_nil]) (.inl rfl)
    (fun kind => Nat.le_of_eq (congrArg (Native.last · kind) hnative.symm))
    hresources hviews hobjects

/-- Nobody's object is made or freed by an event. -/
theorem happened (h : Accounts before) (event : Event)
    (hroles : after.device.native.roles = before.device.native.roles ++ [event.role])
    (hevent : event.role.made? = none ∧ event.role.freed? = none)
    (hlast : after.device.native.last = before.device.native.last)
    (hresources : after.device.resources.keys.Nodup) (hviews : after.device.views.keys.Nodup)
    (hobjects : ∀ object, after.objects.count object = before.objects.count object) :
    Accounts after :=
  h.moved [event.role] hroles (.inr ⟨_, rfl, hevent⟩)
    (fun kind => Nat.le_of_eq (congrFun hlast.symm kind)) hresources hviews hobjects

/-- A handle that was not handed out before. -/
theorem created (h : Accounts before) (object : Object)
    (hroles : after.device.native.roles = before.device.native.roles ++ [.makes object])
    (hnew : object.handle = before.device.native.last object.kind + 1)
    (hlast : ∀ kind, after.device.native.last kind =
      before.device.native.last kind + if kind = object.kind then 1 else 0)
    (hresources : after.device.resources.keys.Nodup) (hviews : after.device.views.keys.Nodup)
    (hobjects : ∀ other, after.objects.count other =
      before.objects.count other + [object].count other) : Accounts after := by
  have hmade : Role.made after.device.native.roles =
      Role.made before.device.native.roles ++ [object] := by rw [hroles, Role.made_append]; rfl
  have hfreed : Role.freed after.device.native.roles = Role.freed before.device.native.roles := by
    rw [hroles, Role.freed_append]
    exact List.append_nil _
  have hunmade : (Role.made before.device.native.roles).count object = 0 :=
    List.count_eq_zero.mpr fun hmem => by
      have := h.numbered object hmem
      omega
  refine
    { balance := fun other => ?_
      once := fun other => ?_
      numbered := fun other hother => ?_
      resourceKeys := hresources
      viewKeys := hviews
      live := ?_ }
  · rw [hmade, hfreed, List.count_append, hobjects, h.balance other, Nat.add_assoc]
  · rw [hmade, List.count_append, List.count_singleton]
    split
    · next heq =>
      obtain rfl := eq_of_beq heq
      exact Nat.le_of_eq (by rw [hunmade])
    · exact h.once other
  · rw [hmade] at hother
    rw [hlast]
    rcases List.mem_append.mp hother with hold | hobject
    · exact Nat.le_trans (h.numbered other hold) (Nat.le_add_right _ _)
    · obtain rfl := List.mem_singleton.mp hobject
      exact Nat.le_of_eq (by rw [hnew, if_pos rfl])
  · rw [hroles]
    exact h.live.snoc fun _ heq => nomatch heq

/-- An object leaves its place and is freed. -/
theorem destroyed (h : Accounts before) (object : Object)
    (hroles : after.device.native.roles = before.device.native.roles ++ [.frees object])
    (hlast : after.device.native.last = before.device.native.last)
    (hresources : after.device.resources.keys.Nodup) (hviews : after.device.views.keys.Nodup)
    (hobjects : ∀ other, before.objects.count other =
      after.objects.count other + [object].count other) : Accounts after := by
  have hmade : Role.made after.device.native.roles = Role.made before.device.native.roles := by
    rw [hroles, Role.made_append]
    exact List.append_nil _
  have hfreed : Role.freed after.device.native.roles =
      Role.freed before.device.native.roles ++ [object] := by rw [hroles, Role.freed_append]; rfl
  refine
    { balance := fun other => ?_
      once := fun other => hmade ▸ h.once other
      numbered := ?_
      resourceKeys := hresources
      viewKeys := hviews
      live := ?_ }
  · rw [hmade, hfreed, List.count_append, h.balance other, hobjects other]
    omega
  · rw [hmade, hlast]
    exact h.numbered
  · rw [hroles]
    refine h.live.snoc fun other heq => ?_
    obtain rfl := Role.frees.inj heq
    have hbalance := h.balance object
    have hplace := hobjects object
    rw [List.count_singleton_self] at hplace
    omega

/-- An object is counted in each place that it can be in: in hand, as waste, in transit and with the
device. -/
theorem count_objects (work : Work) (object : Object) :
    work.objects.count object = work.holding.hand.count object + work.holding.waste.count object +
      (work.holding.transit.toList.flatMap Submission.objects).count object +
      ((work.device.resources.gather Resource.objects).count object +
        (work.device.views.gather fun view => [⟨.view, view⟩]).count object +
        (work.device.recording.toList.map (Object.mk .commandBuffer)).count object +
        (work.device.parked.flatMap Resource.objects).count object +
        (work.device.inFlight.flatMap Submission.objects).count object) := by
  simp only [Work.objects, VulkanDevice.objects, List.count_append]

/-- What is found at one key and in the rest of a table is counted once. -/
theorem count_gather_split {κ α : Type} [DecidableEq κ] {table : Table κ α} (h : table.keys.Nodup)
    (key : κ) (found : α → List Object) (object : Object) :
    (table.gather found).count object =
      ((table.get? key).toList.flatMap found).count object +
        ((table.erase key).gather found).count object := by
  rw [(Table.gather_split h key found).count_eq, List.count_append]

/-- Every step keeps the accounts: what it makes comes into hand, and what it frees goes out of the
waste. -/
theorem step (h : Accounts before) (hvalid : Valid rules before) (hstep : Step rules before after) :
    Accounts after := by
  -- Objects go from one place to another. Counted place by place, what each step does is a sum.
  cases hstep with
  | resumed native hnative =>
    refine h.moved [] ?_ (.inl rfl) hnative.last h.resourceKeys h.viewKeys fun _ => rfl
    rw [Native.roles, hnative.history, List.append_nil]
    rfl
  | noted event hevent =>
    exact h.happened event (Native.roles_note _ _) (by rw [hevent]; exact ⟨rfl, rfl⟩) rfl
      h.resourceKeys h.viewKeys fun _ => rfl
  | signalled fence hfence =>
    exact h.happened (.fenceSignalled fence) (Native.roles_note _ _) ⟨rfl, rfl⟩ rfl h.resourceKeys
      h.viewKeys fun _ => rfl
  | @made device holding kind event hevent =>
    refine h.created ⟨kind, device.native.last kind + 1⟩ ?_ rfl
      (fun other => Native.last_advance _ _ _) h.resourceKeys h.viewKeys fun other => ?_
    · simp [hevent]
    · simp only [count_objects, List.count_cons, List.count_nil]
      omega
  | discarded objects hhand =>
    refine h.shuffled rfl h.resourceKeys h.viewKeys fun other => ?_
    simp only [count_objects, hhand, List.count_append]
    omega
  | @freed device holding object rest event hwaste hevent =>
    refine h.destroyed object ?_ rfl h.resourceKeys h.viewKeys fun other => ?_
    · simp [VulkanDevice.note, hevent]
    · simp only [count_objects, hwaste, VulkanDevice.note, List.count_cons, List.count_nil]
      omega
  | sorted hwaste =>
    refine h.shuffled rfl h.resourceKeys h.viewKeys fun other => ?_
    simp only [count_objects, hwaste.count_eq]
  | begun event hidle hhand hevent =>
    refine h.happened event (Native.roles_note _ _) (by rw [hevent]; exact ⟨rfl, rfl⟩) rfl
      h.resourceKeys h.viewKeys fun other => ?_
    simp only [count_objects, hhand, hidle, VulkanDevice.note, Option.toList_some,
      Option.toList_none, List.map_cons, List.map_nil, List.count_cons, List.count_nil]
    omega
  | @cancelled device holding commandBuffer event hrecording hlost hevent =>
    refine h.destroyed ⟨.commandBuffer, commandBuffer⟩ ?_ rfl h.resourceKeys h.viewKeys
      fun other => ?_
    · simp [VulkanDevice.note, hevent]
    · simp only [count_objects, hrecording, VulkanDevice.note, Option.toList_some,
        Option.toList_none, List.map_cons, List.map_nil, List.count_nil]
      omega
  | barrier | copied =>
    exact h.happened (.call _) (Native.roles_note _ _) ⟨rfl, rfl⟩ rfl h.resourceKeys h.viewKeys
      fun _ => rfl
  | ended event hrecording hevent htransit =>
    refine h.happened event (Native.roles_note _ _) (by rw [hevent]; exact ⟨rfl, rfl⟩) rfl
      h.resourceKeys h.viewKeys fun other => ?_
    simp only [count_objects, htransit, VulkanDevice.note, VulkanDevice.turned,
      VulkanDevice.recorded, Submission.objects, Option.toList_some, Option.toList_none,
      List.map_nil, List.nil_append, List.flatMap_cons, List.flatMap_nil, List.append_nil,
      List.count_append, List.count_nil]
    omega
  | turned hrecording htransit =>
    refine h.shuffled rfl h.resourceKeys h.viewKeys fun other => ?_
    simp only [count_objects, htransit, VulkanDevice.turned,
      VulkanDevice.recorded, Submission.objects, Option.toList_some, Option.toList_none,
      List.map_nil, List.nil_append, List.flatMap_cons, List.flatMap_nil, List.append_nil,
      List.count_append, List.count_nil]
    omega
  | submitted event hhand htransit hfence hevent =>
    refine h.happened event (Native.roles_note _ _) (by rw [hevent]; exact ⟨rfl, rfl⟩) rfl
      h.resourceKeys h.viewKeys fun other => ?_
    simp only [count_objects, htransit, hhand, hfence, Submission.objects, Option.toList_some,
      Option.toList_none, List.map_cons, List.map_nil, List.nil_append, List.flatMap_append,
      List.flatMap_cons, List.flatMap_nil, List.append_nil, List.count_append, List.count_cons,
      List.count_nil]
    omega
  | abandoned htransit hlost hidle =>
    refine h.shuffled rfl h.resourceKeys h.viewKeys fun other => ?_
    simp only [count_objects, htransit, Option.toList_some, Option.toList_none, List.flatMap_cons,
      List.flatMap_nil, List.append_nil, List.count_append, List.count_nil]
    omega
  | popped hfront hfinished =>
    refine h.shuffled rfl h.resourceKeys h.viewKeys fun other => ?_
    simp only [count_objects, hfront, List.flatMap_cons, List.count_append]
    omega
  | completed | passed | settled | retired =>
    exact h.shuffled rfl h.resourceKeys h.viewKeys fun _ => rfl
  | @registered device holding rest resource layout? hhand hforeign hlayout =>
    refine h.shuffled rfl (Table.nodup_keys_insert h.resourceKeys _ _) h.viewKeys fun other => ?_
    have hsplit := count_gather_split h.resourceKeys ⟨device.nextId⟩ Resource.objects other
    have hfresh := hvalid.get?_nextId
    simp only [hfresh, Option.toList_none, List.flatMap_nil, List.count_nil, Nat.zero_add] at hsplit
    simp only [count_objects, hhand, VulkanDevice.holding, Table.gather_insert, List.count_append,
      hsplit]
    omega
  | @parked device holding id resource hfound hreferenced htransit hsettled =>
    refine h.shuffled rfl (Table.nodup_keys_erase h.resourceKeys id) h.viewKeys fun other => ?_
    have hsplit := count_gather_split h.resourceKeys id Resource.objects other
    simp only [hfound, Option.toList_some, List.flatMap_cons, List.flatMap_nil, List.append_nil]
      at hsplit
    simp only [count_objects, VulkanDevice.without, List.flatMap_append, List.flatMap_cons,
      List.flatMap_nil, List.append_nil, List.count_append, hsplit]
    omega
  | @removed device holding id resource hfound hreferenced htransit hsettled =>
    refine h.shuffled rfl (Table.nodup_keys_erase h.resourceKeys id) h.viewKeys fun other => ?_
    have hsplit := count_gather_split h.resourceKeys id Resource.objects other
    simp only [hfound, Option.toList_some, List.flatMap_cons, List.flatMap_nil, List.append_nil]
      at hsplit
    simp only [count_objects, VulkanDevice.without, List.count_append, hsplit]
    omega
  | @viewed device holding view rest slot hhand =>
    refine h.shuffled rfl h.resourceKeys (Table.nodup_keys_insert h.viewKeys slot view)
      fun other => ?_
    have hsplit := count_gather_split h.viewKeys slot (fun view => [⟨.view, view⟩]) other
    rw [← List.map_eq_flatMap] at hsplit
    simp only [count_objects, hhand, Table.gather_insert, List.count_append, List.count_cons,
      List.count_nil, hsplit]
    omega
  | @unviewed device holding view slot hview =>
    refine h.shuffled rfl h.resourceKeys (Table.nodup_keys_erase h.viewKeys slot) fun other => ?_
    have hsplit := count_gather_split h.viewKeys slot (fun view => [⟨.view, view⟩]) other
    simp only [hview, Option.toList_some, List.flatMap_cons, List.flatMap_nil, List.append_nil]
      at hsplit
    simp only [count_objects, List.count_cons, List.count_nil, hsplit]
    omega
  | unparked hrecording =>
    refine h.shuffled rfl h.resourceKeys h.viewKeys fun other => ?_
    simp only [count_objects, List.count_append, List.flatMap_nil, List.count_nil]
    omega
  | blinded =>
    refine h.shuffled rfl h.resourceKeys List.nodup_nil fun other => ?_
    have hnone : (({} : Table Slot Nat).gather fun view => [(⟨.view, view⟩ : Object)]) = [] := rfl
    simp only [count_objects, List.count_append, hnone, List.count_nil]
    omega
  | vacated =>
    refine h.shuffled rfl List.nodup_nil h.viewKeys fun other => ?_
    have hnone : (({} : Table ResourceId Resource).gather Resource.objects) = [] := rfl
    simp only [count_objects, List.count_append, hnone, List.count_nil]
    omega

/-- An object is in one place at most. -/
theorem count_objects_le_one {work : Work} (h : Accounts work) (object : Object) :
    work.objects.count object ≤ 1 := by
  have hbalance := h.balance object
  have honce := h.once object
  omega

/-- What is in someone's place has been made. -/
theorem mem_made {work : Work} (h : Accounts work) {object : Object}
    (hobject : object ∈ work.objects) : object ∈ Role.made work.device.native.roles := by
  have hbalance := h.balance object
  have hplace := List.count_pos_iff.mpr hobject
  exact List.count_pos_iff.mp (by omega)

/-- What is in hand was made. -/
theorem mem_made_of_hand {work : Work} (h : Accounts work) {object : Object}
    (hhand : object ∈ work.holding.hand) : object ∈ Role.made work.device.native.roles :=
  h.mem_made (List.mem_append_left _ (List.mem_append_left _ (List.mem_append_left _ hhand)))

/-- Each object in hand is there once. -/
theorem nodup_hand {work : Work} (h : Accounts work) : work.holding.hand.Nodup := by
  refine List.nodup_iff_count_le_one.mpr fun object => ?_
  have hone := h.count_objects_le_one object
  rw [count_objects] at hone
  omega

/-- An object in hand is not the command buffer being recorded. -/
theorem hand_apart {work : Work} (h : Accounts work) {object : Object}
    (hhand : object ∈ work.holding.hand) :
    object ∉ work.device.recording.toList.map (Object.mk .commandBuffer) := by
  intro hrecording
  have hone := h.count_objects_le_one object
  have hfirst := List.count_pos_iff.mpr hhand
  have hsecond := List.count_pos_iff.mpr hrecording
  rw [count_objects] at hone
  omega

/-- The command buffer being recorded is not one that was submitted. -/
theorem recording_apart {work : Work} (h : Accounts work) {commandBuffer : Nat}
    {submission : Submission} (hrecording : work.device.recording = some commandBuffer)
    (hsubmission : submission ∈ work.device.inFlight ++ work.holding.transit.toList) :
    submission.commandBuffer ≠ some commandBuffer := by
  intro hcommands
  have hone := h.count_objects_le_one ⟨.commandBuffer, commandBuffer⟩
  have hfirst : 0 < (work.device.recording.toList.map (Object.mk .commandBuffer)).count
      ⟨.commandBuffer, commandBuffer⟩ := by simp [hrecording]
  have hobject : ⟨.commandBuffer, commandBuffer⟩ ∈ submission.objects := by
    simp [Submission.objects, hcommands]
  rw [count_objects] at hone
  rcases List.mem_append.mp hsubmission with hqueued | htransit
  · have hsecond := List.count_pos_iff.mpr (List.mem_flatMap_of_mem hqueued hobject)
    omega
  · have hsecond := List.count_pos_iff.mpr (List.mem_flatMap_of_mem htransit hobject)
    omega

/-- Two resources in the table do not own the same object. -/
theorem resource_unique {work : Work} (h : Accounts work) {first second : ResourceId}
    {resource other : Resource} {object : Object}
    (hfirst : work.device.resources.get? first = some resource)
    (hsecond : work.device.resources.get? second = some other)
    (hresource : object ∈ resource.objects) (hother : object ∈ other.objects) :
    first = second := by
  by_contra hne
  have hone := h.count_objects_le_one object
  have hsplit := count_gather_split h.resourceKeys first Resource.objects object
  have herased : (work.device.resources.erase first).get? second = some other := by
    rw [Table.get?_erase, if_neg (Ne.symm hne)]
    exact hsecond
  have hpositive := List.count_pos_iff.mpr
    (Table.mem_gather (Table.nodup_keys_erase h.resourceKeys first) herased hother)
  have hthere := List.count_pos_iff.mpr hresource
  simp only [hfirst, Option.toList_some, List.flatMap_cons, List.flatMap_nil, List.append_nil]
    at hsplit
  rw [count_objects] at hone
  omega

/-- The accounts are right when a device opens: its pool is all that was made. -/
theorem opened {script : Operation → List ResultCode} {device : VulkanDevice}
    (h : VulkanDevice.Opened script device) : Accounts (Work.opened device) := by
  obtain ⟨refuses, signalsAtOnce, family, rfl⟩ := h.eq_withPool
  exact
    { balance := fun object => (Nat.zero_add _).symm
      once := fun object => List.nodup_iff_count_le_one.mp (List.nodup_singleton _) object
      numbered := fun object hobject => by
        obtain rfl := List.mem_singleton.mp hobject
        exact Nat.le_refl 1
      resourceKeys := List.nodup_nil
      viewKeys := List.nodup_nil
      live := Role.each_nil.snoc fun _ heq => nomatch heq }

end Accounts

/-- The accounts stay right along every chain of steps, so nothing is freed twice and nothing is
lost. -/
theorem Reaches.accounts {rules : Rules} {start : Work} {holding : Holding} {device : VulkanDevice}
    (h : Reaches rules start holding device) (hstart : Accounts start) :
    Accounts ⟨device, holding⟩ := by
  have hboth : Valid rules ⟨device, holding⟩ ∧ Accounts ⟨device, holding⟩ :=
    h.induction (P := fun work => Valid rules work ∧ Accounts work) ⟨h.valid, hstart⟩
      fun _ _ hbefore hstep => ⟨hbefore.1.step hstep, hbefore.2.step hbefore.1 hstep⟩
  exact hboth.2

namespace VulkanDevice

/-- Whatever fails on the way, each native object that was made is freed once by the time the device
is closed. Nothing is freed that was not made or that has been freed already; in particular an image
that was imported is left to whom it belongs. -/
theorem close_frees_each_object_once {script : Operation → List ResultCode} {device : VulkanDevice}
    (h : Opened script device) (turns : List Turn) :
    (Role.made (close.run (device.run turns)).state.native.roles).Nodup ∧
      (Role.freed (close.run (device.run turns)).state.native.roles).Perm
        (Role.made (close.run (device.run turns)).state.native.roles) ∧
      Role.FreesLive (close.run (device.run turns)).state.native.roles ∧
      ∀ image desc, Turn.request (.importImage image desc) ∈ turns →
        ⟨.image, image⟩ ∉ Role.made (close.run (device.run turns)).state.native.roles →
        Call.destroyImage image ∉ (close.run (device.run turns)).state.calls := by
  have hvalid : Valid (Rules.free fun _ => False) (Work.opened device) :=
    valid_opened h fun _ hnone => hnone.elim
  obtain ⟨roster, hrest⟩ := rest_run (fun turn _ => turn.spares_none) (rest_opened hvalid)
  obtain ⟨last, hclosed, hempty⟩ := meets_close False.elim device.pool roster _ ⟨hrest, hrest.pool⟩
  have haccounts := hclosed.accounts (.opened h)
  have hperm : (Role.freed (close.run (device.run turns)).state.native.roles).Perm
      (Role.made (close.run (device.run turns)).state.native.roles) := by
    refine List.perm_iff_count.mpr fun object => ?_
    have hbalance := haccounts.balance object
    simp only [Work.objects, hempty] at hbalance
    exact hbalance.symm
  refine ⟨List.nodup_iff_count_le_one.mpr haccounts.once, hperm, haccounts.live, ?_⟩
  intro image desc _ hforeign hdestroyed
  exact hforeign (hperm.subset (Native.mem_freed_of_mem_calls hdestroyed rfl))

/-- An image and a view are given up on the way, a view is replaced, a parked buffer goes with work
that never signals, an image is imported and taken out, and the last fence cannot be made. All that
was made until then is freed by the end. -/
theorem close_frees_each_object_once_in_flight :
    let script : Operation → List ResultCode := fun operation =>
      match operation with
      | .bindImageMemory => [⟨0⟩, ⟨-2⟩]
      | .createImageView => [⟨0⟩, ⟨0⟩, ⟨-1⟩]
      | .createFence => [⟨0⟩, ⟨-2⟩]
      | .deviceWaitIdle => [⟨-4⟩]
      | _ => []
    let desc : TextureDesc :=
      { width := 2, height := 1, layers := 1, levels := 1, samples := 1, format := .rgba8Unorm }
    let view := ViewDesc.ofResource .shaderResource .rgba8Unorm desc
    let turns : List Turn := [.request (.createTexture desc .common),
      .request (.createTexture desc .common), .move .makeImage, .request (.importImage 3 desc),
      .request (.createView ⟨1⟩ view ⟨.shaderResource, 0⟩),
      .request (.createView ⟨1⟩ view ⟨.shaderResource, 0⟩),
      .request (.createView ⟨1⟩ view ⟨.shaderResource, 1⟩), .request (.createHostBuffer 256),
      .request (.recordCopy ⟨⟨3⟩, 0, 8, .rgba8Unorm, ⟨1⟩, ⟨0, 0, 2, 1⟩⟩),
      .request (.destroyResource ⟨3⟩), .request (.submit false), .request (.destroyResource ⟨2⟩),
      .request (.recordBarrier ⟨1⟩ .common .copyDest), .request (.submit true)]
    let device := withPool script (fun _ => none) false 0
    Opened script device ∧
      (device.run turns).inFlight.map Submission.parked = [[.buffer 1 3 256]] ∧
      (Role.made (close.run (device.run turns)).state.native.roles).length = 12 ∧
      (Role.freed (close.run (device.run turns)).state.native.roles).Perm
        (Role.made (close.run (device.run turns)).state.native.roles) ∧
      Call.destroyImage 3 ∉ (close.run (device.run turns)).state.calls := by
  intro script desc view turns device
  have hopened : Opened script device := opened_withPool _ false 0 rfl
  obtain ⟨-, hperm, -, himported⟩ := close_frees_each_object_once hopened turns
  refine ⟨hopened, by decide +kernel, by decide +kernel, hperm, himported 3 desc ?_ ?_⟩
  · simp [turns]
  · decide +kernel

end VulkanDevice

end Texel.Vulkan
