import Texel.Proofs.Vulkan.Accounts

namespace Texel.Vulkan

/-- The command buffer that the queue takes. -/
def Role.submitted? : Role → Option Nat
  | .submits commandBuffer _ => commandBuffer
  | _ => none

/-- The command buffer that a command is recorded into. -/
def Role.recorded? : Role → Option Nat
  | .names commandBuffer _ => some commandBuffer
  | _ => none

namespace Native

/-- The command buffers that the queue has taken, in order. -/
def submitted (native : Native) : List Nat :=
  native.roles.filterMap Role.submitted?

/-- The commands recorded into a command buffer, in order. -/
def commandsIn (native : Native) (commandBuffer : Nat) : List Call :=
  native.calls.filter fun call => call.role.recorded? = some commandBuffer

theorem calls_note_call (native : Native) (call : Call) :
    (native.note (.call call)).calls = native.calls ++ [call] := by
  simp [calls, note, Event.call?]

theorem calls_note_of_call? {native : Native} {event : Event} (h : event.call? = none) :
    (native.note event).calls = native.calls := by
  simp [calls, note, h]

/-- An entry in the history adds at most the one command buffer that it submits. -/
theorem submitted_note (native : Native) (event : Event) :
    (native.note event).submitted = native.submitted ++ event.role.submitted?.toList := by
  rw [submitted, roles_note, List.filterMap_append, submitted]
  cases h : event.role.submitted? <;> simp [h]

/-- A command goes to the end of its command buffer. -/
theorem commandsIn_note_call (native : Native) (call : Call) (commandBuffer : Nat) :
    (native.note (.call call)).commandsIn commandBuffer = native.commandsIn commandBuffer ++
      if call.role.recorded? = some commandBuffer then [call] else [] := by
  rw [commandsIn, calls_note_call, List.filter_append, commandsIn]
  split <;> simp_all

/-- An event that records nothing leaves every command buffer as it is. -/
theorem commandsIn_note_of_recorded? {native : Native} {event : Event}
    (h : event.role.recorded? = none) :
    (native.note event).commandsIn = native.commandsIn := by
  funext commandBuffer
  cases event with
  | call made =>
    have hrole : made.role.recorded? = none := h
    rw [commandsIn_note_call, hrole, if_neg (Option.some_ne_none _).symm, List.append_nil]
  | memoryAllocated | memoryFreed | fenceSignalled =>
    rw [commandsIn, calls_note_of_call? rfl, commandsIn]

/-- What has happened decides which commands there are. -/
theorem commandsIn_of_history {before after : Native} (h : after.history = before.history) :
    after.commandsIn = before.commandsIn := by
  funext commandBuffer
  rw [commandsIn, calls, h, commandsIn, calls]

/-- The command buffers that the queue took are read off the history alone. -/
theorem submitted_of_history {before after : Native} (h : after.history = before.history) :
    after.submitted = before.submitted := by
  rw [submitted, roles, h, submitted, roles]

end Native

/-- The commands in the order they run. Those in the command buffers that the queue has taken come
first, in the order it took them, and then those in the one being recorded. A command in a command
buffer that never came to the queue does not run. -/
def VulkanDevice.commands (device : VulkanDevice) : List Call :=
  (device.native.submitted ++ device.recording.toList).flatMap device.native.commandsIn

namespace Work

/-- The command buffers whose commands run. One that is on its way to the queue comes after those
that are there, and before the one being recorded. -/
def line (work : Work) : List Nat :=
  work.device.native.submitted ++ (work.holding.transit.bind Submission.commandBuffer).toList ++
    work.device.recording.toList

/-- The commands in the order they run. -/
def commands (work : Work) : List Call :=
  work.line.flatMap work.device.native.commandsIn

/-- Where nothing is on its way to the queue, the commands are those of the device. -/
theorem commands_of_transit {device : VulkanDevice} {holding : Holding}
    (h : holding.transit = none) : commands ⟨device, holding⟩ = device.commands := by
  rw [commands, line, VulkanDevice.commands, h]
  simp

/-- Nothing was done yet with the command buffer. -/
def Unused (work : Work) (commandBuffer : Nat) : Prop :=
  work.device.native.last .commandBuffer < commandBuffer ∨
    ⟨.commandBuffer, commandBuffer⟩ ∈ work.holding.hand

/-- Commands stay the same while the command buffers in line and what is in them do. -/
theorem commands_of_line {before after : Work} (hline : after.line = before.line)
    (hcommands : after.device.native.commandsIn = before.device.native.commandsIn) :
    after.commands = before.commands := by
  rw [commands, hline, hcommands, commands]

section Lines

variable {device : VulkanDevice} {holding : Holding}

/-- The line depends on what has happened, and not on what is in hand. -/
theorem line_of_history {native : Native} (h : native.history = device.native.history)
    (hand : List Object) :
    line ⟨{ device with native }, { holding with hand }⟩ = line ⟨device, holding⟩ := by
  rw [line, Native.submitted_of_history h]
  rfl

/-- An entry that submits nothing leaves the line as it is. -/
theorem line_note (event : Event) (h : event.role.submitted? = none) :
    line ⟨device.note event, holding⟩ = line ⟨device, holding⟩ := by
  have hqueue : (device.note event).native.submitted = device.native.submitted := by
    rw [VulkanDevice.note, Native.submitted_note, h]
    exact List.append_nil _
  rw [line, hqueue]
  rfl

/-- What was recorded leaves for the queue and keeps its place. -/
theorem line_turned (h : holding.transit = none) (roster : Roster) :
    line ⟨device.turned, { holding with transit := some device.recorded, roster }⟩ =
      line ⟨device, holding⟩ := by
  simp [line, VulkanDevice.turned, VulkanDevice.recorded, h]

/-- The queue takes what is on its way, which keeps its place. -/
theorem line_submitted {fence : Nat} {submission : Submission} (event : Event)
    (htransit : holding.transit = some submission)
    (hevent : event.role = .submits submission.commandBuffer fence) (waiting : List Nat)
    (inFlight : List Submission) (hand : List Object) (roster : Roster) :
    line ⟨{ device with native := { device.native.note event with waiting }, inFlight },
      { holding with hand, transit := none, roster }⟩ = line ⟨device, holding⟩ := by
  have hqueue : (device.native.note event).submitted =
      device.native.submitted ++ submission.commandBuffer.toList := by
    rw [Native.submitted_note, hevent]
    rfl
  change (device.native.note event).submitted ++ [] ++ device.recording.toList = _
  rw [hqueue, line, htransit, List.append_nil]
  rfl

/-- A command buffer that is begun comes to the end of the line. -/
theorem line_begun {commandBuffer : Nat} (event : Event) (hidle : device.recording = none)
    (hevent : event.role = .begins commandBuffer) (hand : List Object) :
    line ⟨{ device.note event with recording := some commandBuffer }, { holding with hand }⟩ =
      line ⟨device, holding⟩ ++ [commandBuffer] := by
  have hnoted : line ⟨device.note event, holding⟩ = line ⟨device, holding⟩ :=
    line_note event (by rw [hevent]; rfl)
  rw [← hnoted, line, line]
  simp [VulkanDevice.note, hidle]

end Lines

end Work

/-- Every command buffer is recorded and handed over once. -/
structure Lined (work : Work) : Prop where
  once : work.line.Nodup
  blank : ∀ commandBuffer, work.Unused commandBuffer →
    commandBuffer ∉ work.line ∧ work.device.native.commandsIn commandBuffer = []

namespace Lined

variable {rules : Rules} {device : VulkanDevice} {holding : Holding} {before after : Work}
  {commandBuffer : Nat}

/-- Command buffers leave the line at most, and none gets a command. -/
theorem moved (h : Lined before) (hline : after.line.Sublist before.line)
    (hcommands : after.device.native.commandsIn = before.device.native.commandsIn)
    (hunused : ∀ commandBuffer, after.Unused commandBuffer → before.Unused commandBuffer) :
    Lined after where
  once := h.once.sublist hline
  blank commandBuffer hnew := by
    obtain ⟨hout, hempty⟩ := h.blank commandBuffer (hunused commandBuffer hnew)
    exact ⟨fun hin => hout (hline.subset hin), hcommands ▸ hempty⟩

/-- An entry that neither records nor submits keeps the line. -/
theorem note (h : Lined ⟨device, holding⟩) (event : Event)
    (hrecorded : event.role.recorded? = none) (hsubmitted : event.role.submitted? = none) :
    Lined ⟨device.note event, holding⟩ := by
  refine h.moved ?_ (Native.commandsIn_note_of_recorded? hrecorded) fun _ hnew => hnew
  rw [Work.line_note event hsubmitted]

/-- What was being recorded goes into transit at its place in the line. -/
theorem turned (h : Lined ⟨device, holding⟩) (htransit : holding.transit = none) (roster : Roster) :
    Lined ⟨device.turned, { holding with transit := some device.recorded, roster }⟩ := by
  refine h.moved ?_ rfl fun _ hnew => hnew
  rw [Work.line_turned htransit roster]

section Beginning

variable {hand : List Object}

/-- A command buffer that is begun has no commands yet. -/
theorem commands_begun (h : Lined ⟨device, holding⟩) (event : Event)
    (hidle : device.recording = none)
    (hhand : holding.hand = ⟨.commandBuffer, commandBuffer⟩ :: hand)
    (hevent : event.role = .begins commandBuffer) :
    Work.commands ⟨{ device.note event with recording := some commandBuffer },
      { holding with hand }⟩ = Work.commands ⟨device, holding⟩ := by
  have hcommands : (device.note event).native.commandsIn = device.native.commandsIn :=
    Native.commandsIn_note_of_recorded? (by rw [hevent]; rfl)
  obtain ⟨-, hempty⟩ := h.blank commandBuffer (.inr (hhand ▸ List.mem_cons_self))
  rw [Work.commands, Work.line_begun event hidle hevent hand, hcommands, List.flatMap_append,
    List.flatMap_singleton, hempty, List.append_nil, Work.commands]

/-- A command buffer that was in hand joins the line at its end, and is in it once. -/
theorem begun (h : Lined ⟨device, holding⟩) (haccounts : Accounts ⟨device, holding⟩)
    (event : Event) (hidle : device.recording = none)
    (hhand : holding.hand = ⟨.commandBuffer, commandBuffer⟩ :: hand)
    (hevent : event.role = .begins commandBuffer) :
    Lined ⟨{ device.note event with recording := some commandBuffer },
      { holding with hand }⟩ := by
  have hline := @Work.line_begun device holding commandBuffer event hidle hevent hand
  have hcommands : (device.note event).native.commandsIn = device.native.commandsIn :=
    Native.commandsIn_note_of_recorded? (by rw [hevent]; rfl)
  have hunused : Work.Unused ⟨device, holding⟩ commandBuffer :=
    .inr (hhand ▸ List.mem_cons_self)
  refine { once := ?_, blank := fun other hother => ?_ }
  · rw [hline, ← List.concat_eq_append]
    exact h.once.concat (h.blank commandBuffer hunused).1
  · obtain ⟨hout, hempty⟩ := h.blank other (hother.imp_right fun hmem => hhand ▸ .tail _ hmem)
    have hne : other ≠ commandBuffer := by
      rintro rfl
      rcases hother with hlater | hagain
      · have hmade := haccounts.mem_made_of_hand (hhand ▸ List.mem_cons_self)
        exact Nat.not_lt.mpr (haccounts.numbered _ hmade) hlater
      · exact (List.nodup_cons.mp (hhand ▸ haccounts.nodup_hand)).1 hagain
    refine ⟨?_, hcommands ▸ hempty⟩
    rw [hline, List.mem_append, List.mem_singleton]
    exact not_or.mpr ⟨hout, hne⟩

end Beginning

section Recording

variable {call : Call}

/-- A command comes last of all: it goes into the command buffer being recorded, which stands once
in the line and at its end. -/
theorem commands_record (h : Lined ⟨device, holding⟩)
    (hrecording : device.recording = some commandBuffer)
    (hrecorded : call.role.recorded? = some commandBuffer)
    (hsubmitted : call.role.submitted? = none) :
    Work.commands ⟨device.note (.call call), holding⟩ =
      Work.commands ⟨device, holding⟩ ++ [call] := by
  obtain ⟨front, hline⟩ : ∃ front, Work.line ⟨device, holding⟩ = front ++ [commandBuffer] :=
    ⟨_, by rw [Work.line, hrecording]; rfl⟩
  have hunlike : ∀ other ∈ front, (device.note (.call call)).native.commandsIn other =
      device.native.commandsIn other := by
    intro other hother
    have honce := hline ▸ h.once
    have hne : commandBuffer ≠ other := by
      rintro rfl
      exact (List.nodup_append.mp honce).2.2 _ hother _ (List.mem_singleton_self _) rfl
    have hnone : ¬call.role.recorded? = some other := by
      rw [hrecorded]
      exact fun heq => hne (Option.some.inj heq)
    rw [VulkanDevice.note, Native.commandsIn_note_call, if_neg hnone, List.append_nil]
  have hlast : (device.note (.call call)).native.commandsIn commandBuffer =
      device.native.commandsIn commandBuffer ++ [call] := by
    rw [VulkanDevice.note, Native.commandsIn_note_call, if_pos hrecorded]
  rw [Work.commands, Work.commands, Work.line_note (.call call) hsubmitted, hline,
    List.flatMap_append,
    List.flatMap_append, List.flatMap_congr hunlike, List.flatMap_singleton,
    List.flatMap_singleton, hlast, List.append_assoc]

/-- Recording goes into the command buffer at the end of the line. -/
theorem record (h : Lined ⟨device, holding⟩) (hrecording : device.recording = some commandBuffer)
    (hrecorded : call.role.recorded? = some commandBuffer)
    (hsubmitted : call.role.submitted? = none) : Lined ⟨device.note (.call call), holding⟩ := by
  refine { once := ?_, blank := fun other hother => ?_ }
  · rw [Work.line_note (.call call) hsubmitted]
    exact h.once
  · obtain ⟨hout, hempty⟩ := h.blank other hother
    refine ⟨(Work.line_note (.call call) hsubmitted).symm ▸ hout, ?_⟩
    have hne : ¬call.role.recorded? = some other := by
      rintro heq
      refine hout (List.mem_append_right _ ?_)
      rw [hrecording, ← hrecorded, heq]
      exact List.mem_singleton_self _
    rw [VulkanDevice.note, Native.commandsIn_note_call, if_neg hne, List.append_nil]
    exact hempty

end Recording

/-- Every step keeps the line: a command buffer is in it once, and only the one that is recorded
grows. -/
theorem step (h : Lined before) (haccounts : Accounts before) (hstep : Step rules before after) :
    Lined after := by
  cases hstep with
  | resumed native hnative =>
    refine h.moved ?_ (Native.commandsIn_of_history hnative.history) fun commandBuffer hnew =>
      hnew.imp_left (Nat.lt_of_le_of_lt (hnative.last .commandBuffer))
    rw [Work.line_of_history hnative.history]
  | noted event hevent => exact h.note event (by rw [hevent]; rfl) (by rw [hevent]; rfl)
  | signalled fence => exact { h.note (.fenceSignalled fence) rfl rfl with }
  | @made device holding kind event hevent =>
    have hadvanced : Lined ⟨{ device with native := device.native.advance kind },
        { holding with hand := ⟨kind, device.native.last kind + 1⟩ :: holding.hand }⟩ := by
      have hhistory := Native.history_advance device.native kind
      refine h.moved ?_ (Native.commandsIn_of_history hhistory) fun commandBuffer hnew => ?_
      · rw [Work.line_of_history hhistory]
      · rcases hnew with hlater | hhand
        · rw [Native.last_advance] at hlater
          exact .inl (Nat.lt_of_le_of_lt (Nat.le_add_right _ _) hlater)
        · rcases List.mem_cons.mp hhand with heq | hrest
          · obtain ⟨rfl, rfl⟩ := Object.mk.inj heq
            exact .inl (Nat.lt_succ_self _)
          · exact .inr hrest
    exact hadvanced.note event (by rw [hevent]; rfl) (by rw [hevent]; rfl)
  | discarded objects hhand =>
    exact h.moved (List.Sublist.refl _) rfl fun _ hnew =>
      hnew.imp_right fun hmem => hhand ▸ List.mem_append_right _ hmem
  | freed event hwaste hevent =>
    exact { h.note event (by rw [hevent]; rfl) (by rw [hevent]; rfl) with }
  | begun event hidle hhand hevent => exact h.begun haccounts event hidle hhand hevent
  | cancelled event hrecording hlost hevent =>
    have hnoted := h.note event (by rw [hevent]; rfl) (by rw [hevent]; rfl)
    refine hnoted.moved ?_ rfl fun _ hnew => hnew
    rw [Work.line, Work.line]
    exact (List.Sublist.refl _).append (List.nil_sublist _)
  | barrier barrier hrecording =>
    exact { h.record hrecording rfl rfl with }
  | copied copy hrecording =>
    exact { h.record hrecording rfl rfl with }
  | ended event hrecording hevent htransit =>
    exact (h.turned htransit _).note event (by rw [hevent]; rfl) (by rw [hevent]; rfl)
  | turned hrecording htransit => exact h.turned htransit _
  | submitted event hhand htransit hfence hevent =>
    refine h.moved ?_ ?_
      fun _ hnew => hnew.imp_right fun hmem => hhand ▸ List.mem_cons_of_mem _ hmem
    · rw [Work.line_submitted event htransit hevent]
    · exact Native.commandsIn_note_of_recorded? (by rw [hevent]; rfl)
  | abandoned htransit =>
    refine h.moved ?_ rfl fun _ hnew => hnew
    rw [Work.line, Work.line]
    exact ((List.Sublist.refl _).append (List.nil_sublist _)).append (List.Sublist.refl _)
  | registered resource layout? hhand =>
    exact h.moved (List.Sublist.refl _) rfl fun _ hnew =>
      hnew.imp_right fun hmem => hhand ▸ List.mem_append_right _ hmem
  | viewed slot hhand =>
    exact h.moved (List.Sublist.refl _) rfl fun _ hnew =>
      hnew.imp_right fun hmem => hhand ▸ List.mem_cons_of_mem _ hmem
  | _ => exact { h with }

/-- The line is empty when a device opens. -/
theorem opened {script : Operation → List ResultCode}
    (h : VulkanDevice.Opened script device) : Lined (Work.opened device) := by
  obtain ⟨refuses, signalsAtOnce, family, rfl⟩ := h.eq_withPool
  exact { once := List.nodup_nil, blank := fun _ _ => ⟨List.not_mem_nil, rfl⟩ }

end Lined

end Texel.Vulkan
