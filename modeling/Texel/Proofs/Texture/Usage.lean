import Texel.Proofs.Texture.Upload

namespace Texel

open Simulated Context

/-- Moves lead from one usage state to another: each begins where the one before it ended and goes
somewhere else. -/
def UsageState.Leads (start : UsageState) : List (UsageState × UsageState) → UsageState → Prop
  | [], last => last = start
  | (before, after) :: rest, last => before = start ∧ after ≠ before ∧ after.Leads rest last

/-- Moves lead on from where earlier ones led. -/
theorem UsageState.Leads.append {start middle last : UsageState}
    {moves more : List (UsageState × UsageState)} (h : start.Leads moves middle)
    (h' : middle.Leads more last) : start.Leads (moves ++ more) last := by
  induction moves generalizing start with
  | nil =>
    obtain rfl : middle = start := h
    exact h'
  | cons move rest ih =>
    obtain ⟨hbefore, hmoves, hrest⟩ := h
    exact ⟨hbefore, hmoves, ih hrest⟩

/-- The move that a command makes, if it is a barrier for the resource. -/
def Simulated.Command.move? (id : ResourceId) : Command → Option (UsageState × UsageState)
  | .barrier resource before after => if resource = id then some (before, after) else none
  | .copy _ => none

/-- The barriers for a resource among commands, in the order they were recorded. -/
def movesOf (id : ResourceId) (commands : List Command) : List (UsageState × UsageState) :=
  commands.filterMap (Command.move? id)

/-- The moves of a resource in two lists of commands. -/
theorem movesOf_append (id : ResourceId) (first second : List Command) :
    movesOf id (first ++ second) = movesOf id first ++ movesOf id second :=
  List.filterMap_append

/-- Commands that name other resources do not move this one. -/
theorem movesOf_eq_nil {id : ResourceId} {commands : List Command}
    (h : ∀ command ∈ commands, command.target ≠ id) : movesOf id commands = [] := by
  refine List.filterMap_eq_nil_iff.mpr fun command hcommand => ?_
  have htarget := h command hcommand
  cases command with
  | barrier resource before after => exact if_neg htarget
  | copy request => rfl

namespace Texture

variable {texture : Texture} {resource : ResourceId}

/-- The barrier of a transition leads from the state of the texture to the one asked for. -/
theorem leads_barriersTo (texture : Texture) (resource : ResourceId) (state : UsageState) :
    texture.state.Leads (movesOf resource (texture.barriersTo resource state)) state := by
  unfold barriersTo
  by_cases hstate : texture.state = state
  · rw [if_pos hstate]
    exact hstate.symm
  · rw [if_neg hstate]
    simp only [movesOf, List.filterMap_cons, Command.move?, if_true]
    exact ⟨rfl, Ne.symm hstate, rfl⟩

/-- A copy stands between the barriers that open the texture for it and take it back, or alone if
the texture is open already. -/
theorem bracketed_copy (texture : Texture) (resource : ResourceId) (request : BufferCopy) :
    texture.bracketed resource [.copy request] =
      if texture.state = .copyDest then [.copy request]
      else [.barrier resource texture.state .copyDest, .copy request,
        .barrier resource .copyDest texture.state] := by
  unfold bracketed barriersTo
  by_cases hstate : texture.state = .copyDest
  · simp [hstate]
  · simp [hstate, Ne.symm hstate]

/-- Up to the copy, the barriers lead to the state that a copy needs. -/
theorem leads_take_bracketed {request other : BufferCopy} {index : Nat}
    (h : (texture.bracketed resource [.copy request])[index]? = some (.copy other)) :
    other = request ∧ texture.state.Leads
      (movesOf resource ((texture.bracketed resource [.copy request]).take index)) .copyDest := by
  have hleads := leads_barriersTo texture resource .copyDest
  rw [bracketed_copy] at h ⊢
  unfold barriersTo at hleads
  by_cases hstate : texture.state = .copyDest
  · rw [if_pos hstate] at h hleads ⊢
    cases index with
    | zero => exact ⟨(Command.copy.inj (Option.some.inj h)).symm, hleads⟩
    | succ index => cases h
  · rw [if_neg hstate] at h hleads ⊢
    match index, h with
    | 0, h => cases h
    | 1, h => exact ⟨(Command.copy.inj (Option.some.inj h)).symm, hleads⟩
    | 2, h => cases h
    | _ + 3, h => cases h

/-- The barriers round a copy lead back to where they began. -/
theorem leads_bracketed (texture : Texture) (resource : ResourceId) (request : BufferCopy) :
    texture.state.Leads (movesOf resource (texture.bracketed resource [.copy request]))
      texture.state := by
  have hcopy : movesOf resource [.copy request] = [] := rfl
  have hopen := leads_barriersTo texture resource .copyDest
  have hclose := leads_barriersTo { texture with state := .copyDest } resource texture.state
  unfold bracketed
  rw [movesOf_append, movesOf_append, hcopy, List.append_nil]
  exact hopen.append hclose

end Texture

namespace Texture

variable {texture : Texture} {origin context : Context SimulatedDevice}

/-- A copy into the texture was recorded, between the barriers that it takes. -/
def CopiedInto (texture : Texture) (origin context : Context SimulatedDevice) : Prop :=
  ∃ resource request, texture.resource = some resource ∧ request.destination = resource ∧
    context.device.commands =
      origin.device.commands ++ (texture.bracketed resource [.copy request]).toArray

/-- If the attempt is accepted it copies into the texture and gives it back as it was; if not, it
records nothing. -/
def Copies {ε : Type} (texture : Texture) (origin : Context SimulatedDevice)
    (attempt : Attempt ε (Context SimulatedDevice) Texture) : Prop :=
  attempt.Meets (fun context => context = origin)
    (fun value context => value = texture ∧ texture.CopiedInto origin context)
    fun _ context => context.device.commands = origin.device.commands

/-- A load that is accepted has copied into its texture. -/
theorem Loaded.copiedInto {resource : ResourceId} {layout : UploadLayout} {data : ByteArray}
    (hresource : texture.resource = some resource)
    (h : Loaded texture resource layout data origin context) :
    texture.CopiedInto origin context := by
  cases h with
  | @streaming base hsize hbase =>
    refine ⟨resource, texture.streamCopy resource layout (filled layout data base), hresource, rfl,
      ?_⟩
    rw [← hbase.commands]
    rfl
  | staging hsize hpitch =>
    let staging := texture.stagingOf layout data ⟨origin.device.nextId⟩
    obtain ⟨-, hsteady⟩ := meets_finishStaging hresource staging layout
      (StagingTexture.staged origin layout.uploadSize) rfl
    exact ⟨resource, staging.stagingCopy resource layout.region, hresource, rfl,
      hsteady.timeline.commands⟩

/-- A load copies into its texture or records nothing. -/
theorem copies_load (h : origin.Streams) (texture : Texture) (region : Region) (data : ByteArray)
    (pitch : Nat) : texture.Copies origin (texture.load region data pitch) := by
  refine .mono (meets_load h region data pitch) (fun _ h => h) ?_ ?_
  · rintro value context ⟨hvalue, resource, layout, hresource, -, -, hloaded⟩
    exact ⟨hvalue, hloaded.copiedInto hresource⟩
  · intro fault context hrefused
    rcases hrefused.leaves with rfl | rfl | rfl
    · rfl
    · exact (records_nothing_forced origin).1
    · rfl

/-- The end of an update copies into its texture or records nothing. -/
theorem copies_endUpdate (texture : Texture) (origin : Context SimulatedDevice) (region : Region) :
    texture.Copies origin (texture.endUpdate region) := by
  refine .mono (meets_endUpdate region) (fun _ h => h) ?_ ?_
  · rintro value _ ⟨hvalue, resource, layout, reserved, hresource, -, -, -, rfl⟩
    exact ⟨hvalue, resource, texture.streamCopy resource layout origin, hresource, rfl, rfl⟩
  · rintro error _ rfl
    rfl

/-- A copy from a buffer copies into its texture or records nothing. -/
theorem copies_copyFromBuffer (texture : Texture) (origin : Context SimulatedDevice)
    (region : Region) (rowPitch : Nat) (buffer : ResourceId) (offset : Nat) :
    texture.Copies origin (texture.copyFromBuffer region rowPitch buffer offset) := by
  rintro _ rfl
  change Attempt.Settles _ _ (Attempt.run _ _).value (Attempt.run _ _).state
  cases hresource : texture.resource with
  | none =>
    rw [run_copyFromBuffer_of_none hresource]
    rfl
  | some resource =>
    obtain ⟨hvalue, hstate⟩ := run_copyFromBuffer hresource region rowPitch buffer offset _
    rw [hvalue, hstate]
    exact ⟨rfl, resource, _, hresource, rfl, rfl⟩

end Texture

end Texel
