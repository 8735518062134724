import Texel.Proofs.Context.Streaming
import Texel.Proofs.Ring.Idle
import Texel.Proofs.Texture.Commands

namespace Texel

open Simulated SimulatedDevice

namespace Context

/-- The context with other counters. -/
def counted (context : Context SimulatedDevice) (change : UploadStats → UploadStats) :
    Context SimulatedDevice :=
  { context with stats := change context.stats }

/-- One more submission forced by a full stream buffer. -/
def forced (context : Context SimulatedDevice) : Context SimulatedDevice :=
  ((submit false).run (context.counted fun stats =>
    { stats with forcedSubmissions := stats.forcedSubmissions + 1 })).state

/-- A reservation moves the ring, or it is told that there is no room and changes nothing, or the
program ends. -/
theorem meets_reserve (origin : Context SimulatedDevice) (size alignment : Nat) :
    (tryStream (StreamBuffer.reserve size alignment)).Meets (fun context => context = origin)
      (fun found context => match found with
        | true => ∃ ring, origin.stream.ring.reserve size alignment = .granted ring ∧
            context = origin.withRing ring
        | false => origin.stream.ring.reserve size alignment = .refused ∧ context = origin)
      fun fault context => fault = .abort ∧
        origin.stream.ring.reserve size alignment = .abort ∧ context = origin := by
  refine .focus ?_
  rintro context rfl
  refine .get_of_eq ?_
  split
  · next ring hreserve =>
    rintro _ rfl
    exact ⟨ring, hreserve, rfl⟩
  · next hreserve =>
    split
    · refine .after_log (.pure ?_)
      rintro _ rfl
      exact ⟨hreserve, rfl⟩
    · refine .pure ?_
      rintro _ rfl
      exact ⟨hreserve, rfl⟩
  · next hreserve =>
    refine .refuse ?_
    rintro _ rfl
    exact ⟨rfl, hreserve, rfl⟩

/-- The context after `size` bytes of its reservation were taken as written. -/
def committed (context : Context SimulatedDevice) (size : Nat) : Context SimulatedDevice :=
  context.withRing { context.stream.ring with
    cursor := context.stream.ring.cursor + size, reserved := none }

/-- What was reserved can be taken as written. -/
theorem commit?_of_reserved {ring : Ring} {size reserved : Nat} (h : ring.reserved = some reserved)
    (hsize : size ≤ reserved) :
    ring.commit? size = some { ring with cursor := ring.cursor + size, reserved := none } := by
  unfold Ring.commit?
  rw [h]
  simp only [hsize, if_true]

/-- What taking the bytes as written leaves. -/
theorem state_commit {context : Context SimulatedDevice} {size reserved : Nat}
    (h : context.stream.ring.reserved = some reserved) (hsize : size ≤ reserved) :
    ((onStream (StreamBuffer.commit size)).run context).state = context.committed size := by
  unfold onStream StreamBuffer.commit
  simp only [Act.run_focus, Act.run_bind, Act.run_get, commit?_of_reserved h hsize]
  rfl

variable {origin context : Context SimulatedDevice}

/-- Counting leaves uploads alone. -/
theorem steady_counted (context : Context SimulatedDevice) (change : UploadStats → UploadStats) :
    Steady context (context.counted change) :=
  ⟨.refl _, rfl, rfl⟩

/-- A forced submission is a chain of small changes. -/
theorem evolves_forced (context : Context SimulatedDevice) : Evolves context context.forced :=
  (lasts_evolves context).keeps_submit false _ (.of_steady (steady_counted context _))

/-- Reaping records nothing and leaves the bytes of the stream buffer alone. -/
theorem records_nothing_reapCompleted (context : Context SimulatedDevice) :
    let next := ((reapCompleted : Act (Context SimulatedDevice) Nat).run context).state
    next.device.commands = context.device.commands ∧
      next.stream.memory = context.stream.memory := by
  simp only [state_reapCompleted]
  generalize hbase : ({ context.reclaimed with retirement := _ } :
    Context SimulatedDevice) = base
  have hsteady : Steady base ((releaseAll _).run base).state :=
    steady_releaseAll (context.retirement.reap context.device.completedFence).1 base (.refl base)
  rw [hsteady.timeline.commands, hsteady.stream, ← hbase]
  exact ⟨rfl, rfl⟩

/-- So does submitting. -/
theorem records_nothing_submit (wait : Bool) (context : Context SimulatedDevice) :
    ((submit wait).run context).state.device.commands = context.device.commands ∧
      ((submit wait).run context).state.stream.memory = context.stream.memory := by
  rw [state_submit]
  exact records_nothing_reapCompleted (context.submitted wait)

/-- Freeing what a submission has waited for leaves the stream buffer alone. -/
theorem stream_submit (wait : Bool) (context : Context SimulatedDevice) :
    ((submit wait).run context).state.stream = (context.submitted wait).reclaimed.stream := by
  rw [state_submit, state_reapCompleted]
  exact (steady_releaseAll _ _ (.refl _)).stream

/-- A submission moves the read position of the ring and leaves its write side alone. -/
theorem ring_submit (wait : Bool) (context : Context SimulatedDevice) :
    let ring := ((submit wait).run context).state.stream.ring
    ring.cursor = context.stream.ring.cursor ∧ ring.wraps = context.stream.ring.wraps ∧
      ring.reserved = context.stream.ring.reserved := by
  rw [stream_submit]
  simp [reclaimed, submitted, StreamBuffer.reclaim, StreamBuffer.track, Ring.reclaim]

/-- A forced submission leaves the cursor where it is. -/
theorem cursor_forced (context : Context SimulatedDevice) :
    context.forced.stream.ring.cursor = context.stream.ring.cursor :=
  (ring_submit false _).1

/-- A forced submission keeps the capacity of the ring. -/
theorem capacity_forced (context : Context SimulatedDevice) :
    context.forced.stream.ring.capacity = context.stream.ring.capacity := by
  unfold forced
  rw [stream_submit]
  exact Ring.capacity_track _ _

/-- A reservation has been made since `origin`, with nothing recorded and nothing written. -/
structure Reserved (origin : Context SimulatedDevice) (size : Nat)
    (context : Context SimulatedDevice) : Prop where
  evolves : Evolves origin context
  made : ∃ ring, context = origin.withRing ring ∨ context = origin.forced.withRing ring
  commands : context.device.commands = origin.device.commands
  memory : context.stream.memory = origin.stream.memory
  reserved : context.stream.ring.reserved = some size
  aligned : context.config.placementAlignment ∣ context.stream.ring.cursor

/-- A forced submission records nothing and leaves the bytes of the stream buffer alone. -/
theorem records_nothing_forced (context : Context SimulatedDevice) :
    context.forced.device.commands = context.device.commands ∧
      context.forced.stream.memory = context.stream.memory :=
  records_nothing_submit false _

/-- A reservation that is granted lies in the ring, at once or after a forced submission. -/
theorem reserved_withRing {size : Nat} {ring : Ring} (horigin : origin.Streams)
    (hmade : context = origin ∨ context = origin.forced)
    (h : context.stream.ring.reserve size context.config.placementAlignment = .granted ring) :
    Reserved origin size (context.withRing ring) := by
  have hevolves : Evolves origin context := by
    rcases hmade with rfl | rfl
    · exact .refl
    · exact evolves_forced origin
  have hstreams := hevolves.streams horigin
  have hread := hstreams.inside.read_le
  rw [← hstreams.capacity] at hread
  obtain ⟨-, -, hreserved, -, hdvd⟩ := Ring.reserve_spec hread h
  refine ⟨hevolves.step (.reserve h), ⟨ring, ?_⟩, ?_, ?_, hreserved, hdvd hstreams.placement⟩
  · exact hmade.imp (congrArg (withRing · ring)) (congrArg (withRing · ring))
  · rcases hmade with rfl | rfl
    · rfl
    · exact (records_nothing_forced origin).1
  · rcases hmade with rfl | rfl
    · rfl
    · exact (records_nothing_forced origin).2

end Context

namespace Texture

open Context

/-- The cursor of the stream buffer cannot be aligned in 32 bits. -/
def CursorOverflows (context : Context SimulatedDevice) : Prop :=
  maxWord < context.stream.ring.cursor + context.config.placementAlignment

/-- Why a reservation of `size` bytes is not found. -/
inductive RoomRefused (origin : Context SimulatedDevice) (size : Nat) :
    Fault → Context SimulatedDevice → Prop where
  /-- Pending work takes up the room, also after a forced submission. -/
  | exhausted (h : origin.forced.stream.ring.reserve size origin.config.placementAlignment =
      .refused) : RoomRefused origin size (.refused (.streamExhausted size)) origin.forced
  /-- The cursor cannot be aligned, and nothing is tried after that. -/
  | overflow (h : CursorOverflows origin) :
    RoomRefused origin size .abort origin

/-- A reservation that is refused leaves the context as it was or after a forced submission. -/
theorem RoomRefused.leaves {origin context : Context SimulatedDevice} {size : Nat} {fault : Fault}
    (h : RoomRefused origin size fault context) : context = origin ∨ context = origin.forced := by
  cases h with
  | exhausted => exact .inr rfl
  | overflow => exact .inl rfl

/-- A reservation is found at once, after one forced submission, or not at all. -/
theorem meets_reserveStream (origin : Context SimulatedDevice) (size : Nat) :
    (reserveStream size).Meets (fun context => context = origin)
      (fun _ context => ∃ base ring, (base = origin ∨ base = origin.forced) ∧
        base.stream.ring.reserve size origin.config.placementAlignment = .granted ring ∧
        context = base.withRing ring)
      fun fault context => RoomRefused origin size fault context := by
  refine .get_of_eq (.bind (.refusing (meets_reserve origin size _) ?_)
    fun found => ?_)
  · rintro _ _ ⟨rfl, habort, rfl⟩
    obtain ⟨-, hlimit⟩ := Ring.reserve_eq_abort_iff.mp habort
    exact .overflow (Nat.lt_of_lt_of_le hlimit (Nat.add_le_add_right (Ring.restart_cursor_le _) _))
  cases found with
  | true =>
    apply Attempt.Meets.pure
    rintro context ⟨ring, hring, rfl⟩
    exact ⟨origin, ring, .inl rfl, hring, rfl⟩
  | false =>
    simp only [Bool.false_eq_true, if_false]
    -- the first refusal is needed to the end: after it the cursor can be aligned
    let first := origin.stream.ring.reserve size origin.config.placementAlignment = .refused
    refine .after_log ?_
    refine .through (fun _ context => first ∧ context = origin.counted fun stats =>
      { stats with forcedSubmissions := stats.forcedSubmissions + 1 })
      (.lift fun context h => ⟨h.1, by rw [h.2]; rfl⟩) fun _ => ?_
    refine .through (fun _ context => first ∧ context = origin.forced)
      (.lift fun context h => ⟨h.1, by rw [h.2]; rfl⟩) fun _ => .each ?_
    rintro _ ⟨hfirst, rfl⟩
    refine .bind (.refusing (meets_reserve origin.forced size _) ?_)
      fun found => ?_
    · rintro _ _ ⟨-, habort, -⟩
      exact absurd habort (Ring.not_abort_after_refused hfirst (capacity_forced origin)
        (cursor_forced origin))
    cases found with
    | true =>
      apply Attempt.Meets.pure
      rintro context ⟨ring, hring, rfl⟩
      exact ⟨origin.forced, ring, .inr rfl, hring, rfl⟩
    | false =>
      simp only [Bool.false_eq_true, if_false]
      refine .get fun _ => .after_log (.refuse ?_)
      rintro _ ⟨-, hrefused, rfl⟩
      exact .exhausted hrefused

/-- A reservation is found at once, after one forced submission or not at all. -/
theorem meets_reserveStream_reserved {origin : Context SimulatedDevice} (h : origin.Streams)
    (size : Nat) :
    (reserveStream size).Meets (fun context => context = origin)
      (fun _ context => Reserved origin size context)
      fun fault context => RoomRefused origin size fault context := by
  refine .answering (meets_reserveStream origin size) ?_
  rintro _ _ ⟨base, ring, rfl | rfl, hring, rfl⟩
  · exact reserved_withRing h (.inl rfl) hring
  · have hevolves := evolves_forced origin
    rw [← hevolves.continues.config] at hring
    exact reserved_withRing h (.inr rfl) hring

/-- The copy that reads what was written at the cursor. -/
def streamCopy (texture : Texture) (resource : ResourceId) (layout : UploadLayout)
    (context : Context SimulatedDevice) : BufferCopy where
  source := context.stream.resource
  sourceOffset := context.stream.ring.cursor
  rowPitch := layout.uploadPitch
  format := texture.nativeFormat
  destination := resource
  region := layout.region

/-- The context after an upload that was written at the cursor. -/
def streamed (texture : Texture) (resource : ResourceId) (layout : UploadLayout)
    (context : Context SimulatedDevice) : Context SimulatedDevice :=
  ((context.committed layout.uploadSize).recorded
    (texture.bracketed resource [.copy (texture.streamCopy resource layout context)])).counted
      fun stats => { stats with streamingUploads := stats.streamingUploads + 1 }

variable {texture : Texture} {resource : ResourceId} {layout : UploadLayout}
  {origin context : Context SimulatedDevice}

/-- What was written is committed and copied by one command. -/
theorem run_finishStream (hresource : texture.resource = some resource) {reserved : Nat}
    (hreserved : context.stream.ring.reserved = some reserved)
    (hsize : layout.uploadSize ≤ reserved) :
    ((texture.finishStream layout).run context).value = .ok texture ∧
      ((texture.finishStream layout).run context).state =
        texture.streamed resource layout context := by
  have hmeets : (texture.finishStream layout).Meets (fun now => now = context)
      (fun value now => value = texture ∧ now = texture.streamed resource layout context)
      fun _ _ => False := by
    unfold finishStream
    refine .get_of_eq (.through (fun _ now => now = context.committed layout.uploadSize)
      (.lift ?_) fun _ => ?_)
    · rintro _ rfl
      exact state_commit hreserved hsize
    refine .through (fun value now => value = texture ∧ now =
      (context.committed layout.uploadSize).recorded
        (texture.bracketed resource [.copy (texture.streamCopy resource layout context)]))
      ?_ fun value => ?_
    · rintro _ rfl
      obtain ⟨hvalue, hstate⟩ := run_copyFromBuffer hresource layout.region layout.uploadPitch
        context.stream.resource context.stream.ring.cursor (context.committed layout.uploadSize)
      change Attempt.Settles _ _ (Attempt.run _ _).value (Attempt.run _ _).state
      rw [hvalue, hstate]
      exact ⟨rfl, rfl⟩
    · refine .through
        (fun _ now => value = texture ∧ now = texture.streamed resource layout context) (.lift ?_)
        fun _ => .pure fun _ h => h
      rintro _ ⟨rfl, rfl⟩
      exact ⟨rfl, rfl⟩
  obtain ⟨hok, herror⟩ := hmeets.of_run rfl
  cases hvalue : ((texture.finishStream layout).run context).value with
  | ok value =>
    obtain ⟨rfl, hstate⟩ := hok value hvalue
    exact ⟨rfl, hstate⟩
  | error error => exact (herror error hvalue).elim

/-- A streamed upload is a chain of small changes. -/
theorem evolves_streamed {reserved : Nat} (hreserved : context.stream.ring.reserved = some reserved)
    (hsize : layout.uploadSize ≤ reserved) :
    Evolves context (texture.streamed resource layout context) := by
  have hcommitted : Evolves context (context.committed layout.uploadSize) :=
    .step .refl (.commit (commit?_of_reserved hreserved hsize))
  exact (hcommitted.step (.record _ _)).step (.steady (steady_counted _ _))

/-- The copy of an upload reads bytes of the stream buffer that stay what they are until its
submission completes. -/
theorem shields_streamed {reserved : Nat} (h : context.Streams)
    (hreserved : context.stream.ring.reserved = some reserved)
    (hsize : layout.uploadSize ≤ reserved) :
    (texture.streamed resource layout context).Shields context.stream.memory
      context.stream.ring.cursor layout.uploadSize context.device.currentFence :=
  shields_committed h (commit?_of_reserved hreserved hsize)

/-- Every copy that an upload has recorded is its own. -/
theorem copy_streamed {index : Nat} {request : BufferCopy}
    (hindex : context.device.commands.size ≤ index)
    (h : (texture.streamed resource layout context).device.commands[index]? =
      some (.copy request)) : request = texture.streamCopy resource layout context :=
  copy_of_bracketed hindex h

end Texture

end Texel
