import Mathlib.Data.List.Forall2
import SpokenCalculator.Proofs.Audio.Listening

namespace SpokenCalculator.MicrophoneSystem

open Window (soundCount)

/-- A capture, by the window that it asks for and how it ends. -/
structure Attempt where
  request : WindowRequest
  outcome : Except Failure Chunk

inductive Takes : Attempt → List (List Sample) → Prop
  | chunk {request : WindowRequest} {window : Window} {taken : List (List Sample)}
      (hcreate : Window.create request = .ok window) (hclosed : window.FirstClosedBy taken) :
      Takes ⟨request, .ok (window.addAll taken).chunk⟩ taken
  | silence {request : WindowRequest} {window : Window} {taken : List (List Sample)}
      {failure : Failure} (hcreate : Window.create request = .ok window)
      (hopen : ∀ first, first <+: taken → ¬ window.ClosedBy first) :
      Takes ⟨request, .error failure⟩ taken
  | nothing {request : WindowRequest} {failure : Failure} : Takes ⟨request, .error failure⟩ []

def brought (system : MicrophoneSystem) (call : MicrophoneCall) : List (List Sample) :=
  match call.request with
  | .deliver delivery => if system.microphone.isLate delivery then [] else [delivery.samples]
  | _ => []

def captured (system : MicrophoneSystem) (call : MicrophoneCall) : List Attempt :=
  match call.request with
  | .capture maxSeconds =>
      [⟨windowRequest system.settings maxSeconds,
        ((capture maxSeconds).perform { system with device := call.device }).1⟩]
  | _ => []

def along {α : Type} (read : MicrophoneSystem → MicrophoneCall → List α) :
    MicrophoneSystem → List MicrophoneCall → List α
  | _, [] => []
  | system, call :: calls => read system call ++ along read (system.step call) calls

variable {system : MicrophoneSystem} {maxSeconds : Quantity}

/-- A capture takes a beginning of the queue and leaves the rest. -/
theorem exists_takes_capture (h : system.microphone.muted = false) (maxSeconds : Quantity) :
    let outcome := (capture maxSeconds).perform system
    outcome.2.microphone.muted = false ∧
      ∃ taken, system.microphone.queue = taken ++ outcome.2.microphone.queue ∧
        Takes ⟨windowRequest system.settings maxSeconds, outcome.1⟩ taken := by
  intro outcome
  refine ⟨(gate_capture maxSeconds system).1.trans h, ?_⟩
  obtain ⟨begun, ⟨-, hqueue, -⟩, -, ⟨failure, -, hcapture⟩ |
    ⟨window, -, hcreate, ⟨failure, -, hcapture⟩ | ⟨-, hcapture⟩⟩⟩ :=
    perform_capture_cases h maxSeconds
  · rw [show outcome = _ from hcapture]
    exact ⟨[], hqueue.symm, .nothing⟩
  · rw [show outcome = _ from hcapture]
    exact ⟨[], hqueue.symm, .nothing⟩
  · rw [show outcome = _ from hcapture, ← hqueue]
    rcases fill_cases window begun with ⟨taken, rest, htaken, hclosed, hfill⟩ | ⟨hopen, hfill⟩
    · rw [hfill]
      exact ⟨taken, htaken, .chunk hcreate hclosed⟩
    · rw [hfill]
      exact ⟨_, (List.append_nil _).symm, .silence hcreate hopen⟩

theorem gate_unmute_of_unmuted (h : system.microphone.muted = false) :
    (unmute.perform system).2.microphone.muted = false ∧
      (unmute.perform system).2.microphone.queue = system.microphone.queue := by
  rw [perform_unmute]
  cases streamTime system with
  | error failure => exact ⟨h, rfl⟩
  | ok now =>
      dsimp only [update]
      rw [Microphone.unmuteAt_of_unmuted h]
      exact ⟨rfl, rfl⟩

/-- One call hands out blocks by at most one capture, and what it brings comes
behind the blocks that waited. -/
theorem exists_takes_step (h : system.microphone.muted = false) {call : MicrophoneCall}
    (hcall : call.request ≠ .mute) :
    (system.step call).microphone.muted = false ∧
      ∃ portions, system.microphone.queue ++ system.brought call =
          portions.flatten ++ (system.step call).microphone.queue ∧
        List.Forall₂ Takes (system.captured call) portions := by
  obtain ⟨device, request⟩ := call
  have hleaves : ∀ {action : Action MicrophoneSystem Unit}, LeavesGate action →
      (action.perform { system with device }).2.microphone.muted = false ∧
        (action.perform { system with device }).2.microphone.queue = system.microphone.queue := by
    intro action haction
    obtain ⟨-, hqueue, hmuted, -⟩ := haction.sameGate { system with device }
    exact ⟨hmuted.trans h, hqueue⟩
  -- Only a capture hands out blocks, and only a delivery brings some.
  have hnothing : ∀ {after : MicrophoneSystem}, after.microphone.muted = false ∧
      after.microphone.queue = system.microphone.queue → after.microphone.muted = false ∧
      ∃ portions : List (List (List Sample)), system.microphone.queue ++ [] =
          portions.flatten ++ after.microphone.queue ∧
        List.Forall₂ Takes [] portions := by
    rintro after ⟨hmuted, hqueue⟩
    exact ⟨hmuted, [], (List.append_nil _).trans hqueue.symm, .nil⟩
  cases request with
  | start => exact hnothing (hleaves leavesGate_start)
  | enter => exact hnothing (hleaves leavesGate_start)
  | close => exact hnothing (hleaves leavesGate_close)
  | leave => exact hnothing (hleaves leavesGate_close)
  | mute => exact absurd rfl hcall
  | unmute =>
      have hunmuted : ({ system with device } : MicrophoneSystem).microphone.muted = false := h
      exact hnothing (gate_unmute_of_unmuted hunmuted)
  | deliver delivery =>
      have hqueue := Microphone.queue_deliver_of_unmuted h system.settings.threshold delivery
      refine ⟨?_, [], ?_, .nil⟩
      · exact (Microphone.gate_deliver system.settings.threshold delivery _).1.trans h
      · change system.microphone.queue ++ (if system.microphone.isLate delivery then []
          else [delivery.samples]) = (Microphone.deliver ..).queue
        rw [hqueue]
        split
        · exact List.append_nil _
        · rfl
  | capture maxSeconds =>
      have hunmuted : ({ system with device } : MicrophoneSystem).microphone.muted = false := h
      obtain ⟨hmuted, taken, hqueue, htakes⟩ := exists_takes_capture hunmuted maxSeconds
      rw [step_capture]
      refine ⟨hmuted, [taken], ?_, .cons htakes .nil⟩
      rw [List.flatten_singleton, ← hqueue]
      exact List.append_nil _

/-- Whatever is called while the microphone stays unmuted, the blocks that waited
or came are handed out by captures, in order, or wait still. -/
theorem exists_takes_run (h : system.microphone.muted = false) {calls : List MicrophoneCall}
    (hcalls : ∀ call ∈ calls, call.request ≠ .mute) :
    ∃ portions, system.microphone.queue ++ along brought system calls =
        portions.flatten ++ (system.run calls).microphone.queue ∧
      List.Forall₂ Takes (along captured system calls) portions := by
  induction calls generalizing system with
  | nil => exact ⟨[], List.append_nil _, .nil⟩
  | cons call calls ih =>
      obtain ⟨hcall, hcalls⟩ := List.forall_mem_cons.mp hcalls
      obtain ⟨hmuted, portions, hqueue, htakes⟩ := exists_takes_step h hcall
      obtain ⟨later, hlater, htakesLater⟩ := ih hmuted hcalls
      refine ⟨portions ++ later, ?_, List.rel_append htakes htakesLater⟩
      change system.microphone.queue ++ (system.brought call ++ along brought _ calls) =
        (portions ++ later).flatten ++ ((system.step call).run calls).microphone.queue
      rw [← List.append_assoc, hqueue, List.append_assoc, hlater, List.flatten_append,
        List.append_assoc]

/-- Why a capture does not come to look at the queue. -/
inductive Prevented (system : MicrophoneSystem) (maxSeconds : Quantity) : Prop
  | muted (h : system.microphone.muted = true)
  | refused (hstream : system.microphone.stream = none) (h : system.device.refuses = true)
  | duration (h : maxSeconds.isPositive = false)
  | window (h : ∀ window, Window.create (windowRequest system.settings maxSeconds) ≠ .ok window)
  | timeout (h : (timeoutFailure? system.settings.timeout).isSome)

theorem start_fails_of_refuses (hstream : system.microphone.stream = none)
    (h : system.device.refuses = true) :
    ∃ failure after, start.perform system = (.error failure, after) := by
  rw [perform_start_of_none hstream]
  cases hopen : system.device.openFailure with
  | some failure =>
      rw [perform_openStream_of_openFailure hopen]
      dsimp only
      split <;> exact ⟨_, _, rfl⟩
  | none =>
      rw [perform_openStream system hopen]
      cases hstart : system.device.startFailure with
      | some failure =>
          dsimp only
          split <;> exact ⟨_, _, rfl⟩
      | none => simp [AudioDevice.refuses, hopen, hstart] at h

theorem Prevented.capture_fails (h : system.Prevented maxSeconds) :
    ∃ failure after, (capture maxSeconds).perform system = (.error failure, after) ∧
      after.microphone.queue = system.microphone.queue := by
  cases hmuted : system.microphone.muted with
  | true => exact ⟨_, system, perform_capture_of_muted hmuted maxSeconds, rfl⟩
  | false =>
      obtain ⟨begun, ⟨-, hqueue, -⟩, -, hcases⟩ := perform_capture_cases hmuted maxSeconds
      rcases hcases with ⟨failure, -, hcapture⟩ | ⟨window, hbegin, hcreate, hwait⟩
      · exact ⟨failure, begun, hcapture, hqueue⟩
      · rcases hwait with ⟨failure, -, hcapture⟩ | ⟨hwaits, -⟩
        · exact ⟨failure, begun, hcapture, hqueue⟩
        · exfalso
          cases h with
          | muted h => simp [hmuted] at h
          | refused hstream h =>
              obtain ⟨_, _, hfails⟩ := start_fails_of_refuses hstream h
              obtain ⟨_, _, hstart, -⟩ := Action.exists_perform_of_bind hbegin
              rw [hfails] at hstart
              cases hstart
          | duration h =>
              have hpositive : maxSeconds.isPositive = true :=
                (Window.isMadeFor_of_create hcreate).maxSeconds
              rw [h] at hpositive
              cases hpositive
          | window h => exact h window hcreate
          | timeout h => simp [hwaits] at h

/-- A capture with a stream takes the shortest beginning of the queue that closes
its window, or empties the queue. It does the latter once it has waited in vain,
and so never with an undefined timeout. -/
theorem capture_of_held {stream : Nat} (hstream : system.microphone.stream = some stream)
    (hmuted : system.microphone.muted = false)
    (hwait : timeoutFailure? system.settings.timeout = none) {window : Window}
    (hcreate : Window.create (windowRequest system.settings maxSeconds) = .ok window) :
    (∃ taken rest, system.microphone.queue = taken ++ rest ∧ window.FirstClosedBy taken ∧
        soundCount taken ≤ max 1 window.maxSamples.toNat ∧
        (capture maxSeconds).perform system =
          (.ok (window.addAll taken).chunk, system.withQueue rest)) ∨
      (∀ taken, taken <+: system.microphone.queue → ¬ window.ClosedBy taken) ∧
        soundCount system.microphone.queue ≤ max 1 window.maxSamples.toNat ∧
        (system.settings.timeout.isDefined = true →
          ∃ failure, (capture maxSeconds).perform system = (.error failure, system.withQueue []) ∧
            (system.settings.timeout.le .longestWait = true → failure.kind = .device)) := by
  have hfresh := (Window.isMadeFor_of_create hcreate).toIsFresh
  have hholds : system.Holds system.settings system.device false :=
    ⟨rfl, rfl, ⟨stream, hstream⟩, hmuted⟩
  rw [perform_capture_of_holds hholds hwait hcreate]
  rcases fill_cases window system with ⟨taken, rest, hqueue, hclosed, hfill⟩ | ⟨hopen, hfill⟩
  · exact Or.inl ⟨taken, rest, hqueue, hclosed, hclosed.soundCount_le hfresh, hfill⟩
  · refine Or.inr ⟨hopen, ?_, fun _ => ⟨silenceFailure system, hfill, kind_silenceFailure⟩⟩
    exact Window.soundCount_le_of_not_closedBy hfresh (hopen _ (List.prefix_refl _))

/-- Two samples in a second, and a window of fixed length unless another policy is
asked for. -/
def brief (policy : Json) (timeout : Quantity) : MicrophoneSettings :=
  { MicrophoneSettings.usual with policy, rate := .whole 2, silenceSeconds := .whole 1, timeout }

def fixedPolicy : Json := .string WindowPolicy.fixed.name

/-- A microphone that was started, and these blocks came. -/
def heardBy (settings : MicrophoneSettings) (blocks : List (List Sample)) : MicrophoneSystem :=
  (initial settings AudioDevice.working).run (⟨AudioDevice.working, .start⟩ ::
    blocks.map fun samples => ⟨AudioDevice.working, .deliver ⟨samples, none⟩⟩)

def briefWindow : Window := ⟨.fixed, 2, Level.usualThreshold, 2, 2, [], 0, 0, false⟩

end SpokenCalculator.MicrophoneSystem
