import Texel.Context
import Texel.Proofs.Twins.Device

namespace Texel

variable {D E α ε : Type} {relation related : D → E → Prop} {config : Config}

namespace Context

/-- The devices of two contexts of these parameters are related, and everything else is the same. -/
structure Twins (relation : D → E → Prop) (config : Config) (left : Context D)
    (right : Context E) : Prop where
  device : relation left.device right.device
  heaps : left.heaps = right.heaps
  stream : left.stream = right.stream
  retirement : left.retirement = right.retirement
  stats : left.stats = right.stats
  config : left.config = config ∧ right.config = config

theorem Twins.viewPool {left : Context D} {right : Context E}
    (h : Twins relation config left right) : ViewPool.Twins relation left.viewPool right.viewPool :=
  ⟨h.device, h.heaps⟩

/-- Contexts stay twins when twin pools are put in place of theirs. -/
theorem Twins.setViewPool {left : Context D} {right : Context E}
    (h : Twins relation config left right) {pool : ViewPool D} {pool' : ViewPool E}
    (hpool : ViewPool.Twins related pool pool') :
    Twins related config (left.setViewPool pool) (right.setViewPool pool') :=
  ⟨hpool.device, hpool.heaps, h.stream, h.retirement, h.stats, h.config⟩

/-- What mirrors on two devices does so in contexts that work on them. -/
theorem mirrors_onDevice {first : Act D α} {second : Act E α}
    (h : first.Mirrors second relation) :
    (onDevice first).Mirrors (onDevice second) (Twins relation config) :=
  .focus h (fun _ _ htwins => htwins.device)
    fun _ _ htwins _ _ _ hdevice => { htwins with device := hdevice }

theorem mirrors_tryDevice {first : Attempt ε D α} {second : Attempt ε E α}
    (h : first.Mirrors second relation) :
    (tryDevice first).Mirrors (tryDevice second) (Twins relation config) :=
  mirrors_onDevice h

/-- Twin contexts have the same ring, so any operation of it does the same in both. -/
theorem mirrors_onStream (act : Act StreamBuffer α) :
    (onStream act : Act (Context D) α).Mirrors (onStream act) (Twins relation config) :=
  .focus (Act.Mirrors.refl act) (fun _ _ htwins => htwins.stream)
    fun _ _ htwins _ _ _ hstream => { htwins with stream := hstream }

theorem mirrors_tryStream (attempt : Attempt ε StreamBuffer α) :
    (tryStream attempt : Attempt ε (Context D) α).Mirrors (tryStream attempt)
      (Twins relation config) :=
  mirrors_onStream attempt.act

theorem mirrors_onViews {first : Act (ViewPool D) α} {second : Act (ViewPool E) α}
    (h : first.Mirrors second (ViewPool.Twins relation)) :
    (onViews first).Mirrors (onViews second) (Twins relation config) :=
  .focus h (fun _ _ htwins => htwins.viewPool)
    fun _ _ htwins _ _ _ hpool => htwins.setViewPool hpool

theorem mirrors_count (change : UploadStats → UploadStats) :
    (count change : Act (Context D) Unit).Mirrors (count change) (Twins relation config) :=
  .modify fun _ _ htwins => { htwins with stats := congrArg change htwins.stats }

section

variable [Device D] [Device E] (h : Device.Twins related)
include h

theorem mirrors_release (item : Retired) :
    (release item).Mirrors (release item) (Twins related config) := by
  cases item with
  | resource id => exact mirrors_onDevice (h.destroyResource id)
  | descriptor slot => exact mirrors_onViews (ViewPool.mirrors_release h slot)

theorem mirrors_releaseAll (items : List Retired) :
    (releaseAll items).Mirrors (releaseAll items) (Twins related config) := by
  induction items with
  | nil => exact .pure ()
  | cons item rest ih => exact .bind (mirrors_release h item) fun _ => ih

/-- An item is retired with the same fence in twin contexts, or released in both. -/
theorem mirrors_dispose (item : Retired) (deferred : Bool) :
    (dispose item deferred).Mirrors (dispose item deferred) (Twins related config) := by
  refine .ite (fun _ => .modify fun left right htwins => ?_) fun _ => mirrors_release h item
  have hfence := h.currentFence _ _ htwins.device
  have hretired := htwins.retirement
  exact { htwins with retirement := by rw [hfence, hretired] }

theorem mirrors_destroySlots (slots : List Slot) (deferred : Bool) :
    (destroySlots slots deferred).Mirrors (destroySlots slots deferred) (Twins related config) := by
  induction slots with
  | nil => exact .pure ()
  | cons slot rest ih => exact .bind (mirrors_dispose h _ deferred) fun _ => ih

/-- Both sides free the same items. -/
theorem mirrors_reapCompleted :
    (reapCompleted : Act (Context D) Nat).Mirrors reapCompleted (Twins related config) := by
  refine .bind (mirrors_onDevice h.completedFence) fun completed => ?_
  refine .bind (mirrors_onStream _) fun _ => ?_
  refine .get fun left right htwins => ?_
  -- from here on both sides speak of the queue on the left
  simp only [← htwins.retirement]
  refine .bind (.set { htwins with retirement := rfl }) fun _ => ?_
  refine .bind (mirrors_releaseAll h _) fun _ => ?_
  refine .bind (.ite (fun _ => .pure _) fun _ => .log) fun _ => ?_
  exact .pure _

/-- A submission gets the same fence in twin contexts and reclaims and releases the same. -/
theorem mirrors_submit (wait : Bool) :
    (submit wait : Act (Context D) Nat).Mirrors (submit wait) (Twins related config) := by
  refine .bind (mirrors_onDevice (h.submit wait)) fun _ => ?_
  refine .bind (mirrors_onStream _) fun _ => ?_
  exact .bind (mirrors_reapCompleted h) fun _ => .pure _

theorem mirrors_shutdown :
    (shutdown : Act (Context D) Unit).Mirrors shutdown (Twins related config) := by
  refine .bind (mirrors_onDevice (h.submit true)) fun _ => ?_
  refine .bind (mirrors_onDevice h.waitIdle) fun _ => ?_
  refine .get fun left right htwins => ?_
  simp only [← htwins.retirement]
  refine .bind (.set { htwins with retirement := rfl }) fun _ => ?_
  refine .bind (mirrors_releaseAll h _) fun _ => .get fun left right htwins => ?_
  simp only [← htwins.heaps, ← htwins.stream]
  refine .bind (.ite (fun _ => .pure _) fun _ => .log) fun _ => ?_
  refine .bind (mirrors_onDevice (h.destroyResource _)) fun _ => ?_
  exact .log

/-- The ring is opened on both devices or on neither, and only with parameters that are valid. -/
theorem matches_openStream :
    (openStream config : Attempt TextureError D StreamBuffer).Matches (openStream config) related
      (fun _ left right => config.validate = .ok () ∧ related left right) related := by
  refine .through (fun _ left right => config.validate = .ok () ∧ related left right)
    (.ofExcept (fun _ hvalid _ _ hrelated => ⟨hvalid, hrelated⟩) fun _ _ hrelated => hrelated)
    fun _ => .knowing fun hvalid => ?_
  have hpositive := Nat.pos_of_ne_zero (Config.validate_eq_ok_iff.mp hvalid).1
  refine .bind (.of_mirrors (h.createHostBuffer _ hpositive)) fun buffer => ?_
  cases StreamBuffer.ofBuffer buffer with
  | ok stream =>
    exact .bind (.of_mirrors .log) fun _ => .pure fun _ _ hrelated => ⟨hvalid, hrelated⟩
  | error refusal =>
    exact .bind (.lift (h.destroyResource _)) fun _ => .refuse fun _ _ hrelated => hrelated

/-- Contexts open on both devices, or on neither for the same reason. -/
theorem twins_ofDevice {left : D} {right : E} (hrelated : related left right) :
    (∃ first second, (ofDevice left config).1 = .ok first ∧ (ofDevice right config).1 = .ok second ∧
      config.validate = .ok () ∧ Twins related config first second) ∨
    ∃ error device device', (ofDevice left config).1 = .error (error, device) ∧
      (ofDevice right config).1 = .error (error, device') ∧ related device device' := by
  obtain ⟨hvalue, hstates⟩ : ((openStream config).run left).value =
      ((openStream config).run right).value ∧ _ := matches_openStream h left right hrelated
  simp only [ofDevice, ← hvalue]
  change Attempt.Relates _ _ ((openStream config).run left).value _ _ at hstates
  cases hopened : ((openStream config).run left).value with
  | ok stream =>
    rw [hopened] at hstates
    exact .inl ⟨_, _, rfl, rfl, hstates.1, hstates.2, rfl, rfl, rfl, rfl, rfl, rfl⟩
  | error error =>
    rw [hopened] at hstates
    exact .inr ⟨_, _, _, rfl, rfl, hstates⟩

end

end Context

end Texel
