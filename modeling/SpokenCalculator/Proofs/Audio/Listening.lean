import SpokenCalculator.Proofs.Action.Lead
import SpokenCalculator.Proofs.Audio.Closing
import SpokenCalculator.Proofs.Audio.Streams

namespace SpokenCalculator

namespace Window

def refusal? (request : WindowRequest) : Option Failure :=
  match create request with
  | .ok _ => none
  | .error fault => some fault.failure

end Window

namespace AudioDevice

open MicrophoneSystem (isRefusal)

/-- The failures of the device are those that a microphone handles, and its clock
shows a binary number. -/
structure FailsAsHandled (device : AudioDevice) : Prop where
  opening : ∀ failure ∈ device.openFailure, isRefusal failure
  starting : ∀ failure ∈ device.startFailure, isRefusal failure
  clock : ∀ failure ∈ device.timeFailure, failure.kind.isA .audioHost
  time : device.time.toBinary?.isSome
  stopping : ∀ failure ∈ device.stopFailure, failure.kind.isA .audioHost

def refuses (device : AudioDevice) : Bool :=
  device.openFailure.isSome || device.startFailure.isSome

end AudioDevice

namespace MicrophoneSystem

open SpokenCalculator.Action (Ends Leads)

/-- A timeout that can be waited for. An undefined one is never over. -/
def IsWaitable (timeout : Quantity) : Prop :=
  timeoutFailure? timeout = none ∧ timeout.le .longestWait = true

structure Holds (settings : MicrophoneSettings) (device : AudioDevice) (muted : Bool)
    (system : MicrophoneSystem) : Prop where
  settings : system.settings = settings
  device : system.device = device
  stream : ∃ stream, system.microphone.stream = some stream
  muted : system.microphone.muted = muted

variable {settings : MicrophoneSettings} {device : AudioDevice} {muted : Bool}
  {system : MicrophoneSystem}

theorem perform_openWindow_of_holds (h : system.Holds settings device false)
    (maxSeconds : Quantity) :
    (openWindow maxSeconds).perform system =
      ((Window.create (windowRequest settings maxSeconds)).mapError AudioFault.failure,
        system) := by
  obtain ⟨stream, hstream⟩ := h.stream
  rw [perform_openWindow, h.muted, beginWindow, Action.perform_bind, perform_start_of_held hstream]
  dsimp only
  rw [Action.perform_bind, Action.perform_get, ← h.settings]
  rfl

theorem perform_capture_of_holds (h : system.Holds settings device false)
    (hwait : timeoutFailure? settings.timeout = none) {maxSeconds : Quantity} {window : Window}
    (hcreate : Window.create (windowRequest settings maxSeconds) = .ok window) :
    (capture maxSeconds).perform system = system.fill window := by
  have hopen : (openWindow maxSeconds).perform system = (.ok window, system) := by
    rw [perform_openWindow_of_holds h, hcreate]
    rfl
  rw [perform_capture, hopen]
  dsimp only
  rw [h.settings, hwait]

theorem kind_silenceFailure (h : system.settings.timeout.le .longestWait = true) :
    (silenceFailure system).kind = .device := by
  have hshort : system.settings.timeout.isTooLong = false := Quantity.lt_eq_false_of_le h
  unfold silenceFailure
  dsimp only
  rw [if_neg (ne_true_of_eq_false hshort)]

/-- The shortest beginning of the queue that closes the window is taken, or
everything in vain. -/
theorem fill_cases (window : Window) (system : MicrophoneSystem) :
    (∃ taken rest, system.microphone.queue = taken ++ rest ∧ window.FirstClosedBy taken ∧
        system.fill window = (.ok (window.addAll taken).chunk, system.withQueue rest)) ∨
      (∀ taken, taken <+: system.microphone.queue → ¬ window.ClosedBy taken) ∧
        system.fill window = (.error (silenceFailure system), system.withQueue []) := by
  rcases Microphone.collect_cases window system.microphone.queue with
    ⟨taken, rest, hqueue, hclosed, hcollect⟩ | ⟨hopen, hcollect⟩
  · refine Or.inl ⟨taken, rest, hqueue, hclosed, ?_⟩
    rw [fill, hcollect]
    rfl
  · refine Or.inr ⟨hopen, ?_⟩
    rw [fill, hcollect]
    rfl

/-- A chunk that is returned took a block. A failure is that of the window, or
that of a device without sound. -/
theorem leads_capture (hwait : IsWaitable settings.timeout) (maxSeconds : Quantity)
    (count : Nat) :
    (capture maxSeconds).Leads
      (fun system => system.Holds settings device false ∧ system.microphone.queue.length = count)
      fun outcome system => system.Holds settings device false ∧
        Ends (fun chunk => Window.refusal? (windowRequest settings maxSeconds) = none ∧
            settings.rate.truncate = .ok chunk.rate ∧ system.microphone.queue.length < count)
          (fun failure => system.microphone.queue.length ≤ count ∧
            (Window.refusal? (windowRequest settings maxSeconds) = some failure ∨
              Window.refusal? (windowRequest settings maxSeconds) = none ∧
                failure.kind.isA .device)) outcome := by
  rintro system ⟨h, rfl⟩
  rw [Window.refusal?]
  cases hcreate : Window.create (windowRequest settings maxSeconds) with
  | error fault =>
      rw [perform_capture, perform_openWindow_of_holds h, hcreate]
      exact ⟨h, Nat.le_refl _, Or.inl rfl⟩
  | ok window =>
      rw [perform_capture_of_holds h hwait.1 hcreate]
      rcases fill_cases window system with ⟨taken, rest, hqueue, hclosed, hfill⟩ | ⟨-, hfill⟩
      · rw [hfill]
        refine ⟨⟨h.settings, h.device, h.stream, h.muted⟩, rfl, ?_, ?_⟩
        · change settings.rate.truncate = .ok (window.addAll taken).rate
          rw [(window.addAll_settings taken).2.1]
          exact (Window.isMadeFor_of_create hcreate).rate
        · have htaken := List.length_pos_iff.mpr hclosed.1.1
          change rest.length < system.microphone.queue.length
          rw [hqueue, List.length_append]
          omega
      · have hkind : (silenceFailure system).kind = .device :=
          kind_silenceFailure (h.settings ▸ hwait.2)
        have hdevice : (silenceFailure system).kind.isA .device := by
          rw [hkind]
          rfl
        rw [hfill]
        exact ⟨⟨h.settings, h.device, h.stream, h.muted⟩, Nat.zero_le _, Or.inr ⟨rfl, hdevice⟩⟩

theorem leads_deliver (delivery : Delivery) (count : Nat) :
    (deliver delivery).Leads
      (fun system => system.Holds settings device muted ∧ system.microphone.queue.length ≤ count)
      fun outcome system => outcome = .ok () ∧ system.Holds settings device muted ∧
        system.microphone.queue.length ≤ count + 1 := by
  rintro system ⟨h, hcount⟩
  rw [perform_deliver]
  have hstream := (system.microphone.streams_deliver system.settings.threshold delivery).1
  have hheld := h.stream.imp fun _ hheld => hstream.trans hheld
  rcases system.microphone.deliver_cases system.settings.threshold delivery with
    ⟨hqueue, hmuted, -⟩ | ⟨-, -, hqueue, hmuted, -⟩
  · refine ⟨rfl, ⟨h.settings, h.device, hheld, hmuted.trans h.muted⟩, ?_⟩
    dsimp only [update]
    rw [hqueue]
    exact Nat.le_succ_of_le hcount
  · refine ⟨rfl, ⟨h.settings, h.device, hheld, hmuted.trans h.muted⟩, ?_⟩
    dsimp only [update]
    rw [hqueue, List.length_append]
    exact Nat.succ_le_succ hcount

theorem exists_streamTime (h : system.Holds settings device muted)
    (hdevice : device.FailsAsHandled) : ∃ now, streamTime system = .ok now := by
  obtain ⟨stream, hstream⟩ := h.stream
  unfold streamTime
  rw [hstream, h.device]
  cases htime : device.timeFailure with
  | none =>
      obtain ⟨now, hnow⟩ := Option.isSome_iff_exists.mp hdevice.time
      dsimp only
      rw [hnow]
      exact ⟨_, rfl⟩
  | some failure =>
      dsimp only
      rw [if_pos (hdevice.clock failure htime)]
      exact ⟨_, rfl⟩

theorem length_unmuteAt_le (now : Quantity) (microphone : Microphone) :
    (microphone.unmuteAt now).queue.length ≤ microphone.queue.length := by
  unfold Microphone.unmuteAt
  dsimp only
  split
  · exact Nat.zero_le _
  · exact Nat.le_refl _

theorem leads_unmute (hdevice : device.FailsAsHandled) (count : Nat) :
    unmute.Leads
      (fun system => system.Holds settings device muted ∧ system.microphone.queue.length ≤ count)
      fun outcome system => outcome = .ok () ∧ system.Holds settings device false ∧
        system.microphone.queue.length ≤ count := by
  rintro system ⟨h, hcount⟩
  obtain ⟨now, hnow⟩ := exists_streamTime h hdevice
  rw [perform_unmute, hnow]
  have hstream := Microphone.stream_unmuteAt now system.microphone
  exact ⟨rfl, ⟨h.settings, h.device, h.stream.imp fun _ hheld => hstream.trans hheld, rfl⟩,
    Nat.le_trans (length_unmuteAt_le now system.microphone) hcount⟩

/-- Starting a new microphone: a device that refuses is reported, and otherwise a
stream is held and nothing has been heard. -/
theorem leads_start (hdevice : device.FailsAsHandled) :
    start.Leads (· = initial settings device) fun outcome system =>
      Ends (fun _ => device.refuses = false ∧ system.Holds settings device false ∧
          system.microphone.queue = [])
        (fun failure => device.refuses = true ∧ failure.kind = .device) outcome := by
  intro system hsystem
  have hsame : system.device = device := congrArg MicrophoneSystem.device hsystem
  have hstream : system.microphone.stream = none := by rw [hsystem]; rfl
  rw [perform_start_of_none hstream]
  cases hopen : device.openFailure with
  | some failure =>
      have hopening : system.device.openFailure = some failure := hsame ▸ hopen
      rw [perform_openStream_of_openFailure hopening]
      dsimp only
      rw [if_pos (hdevice.opening failure hopen)]
      exact ⟨by simp [AudioDevice.refuses, hopen], rfl⟩
  | none =>
      rw [perform_openStream system (hsame ▸ hopen), hsame]
      cases hstart : device.startFailure with
      | some failure =>
          dsimp only
          rw [if_pos (hdevice.starting failure hstart)]
          exact ⟨by simp [AudioDevice.refuses, hstart], rfl⟩
      | none =>
          rw [hsystem]
          exact ⟨by simp [AudioDevice.refuses, hopen, hstart], ⟨rfl, rfl, ⟨_, rfl⟩, rfl⟩, rfl⟩

theorem leads_close (hdevice : device.FailsAsHandled) :
    close.Leads (·.Holds settings device muted) fun outcome _ => outcome = .ok () := by
  intro system h
  obtain ⟨stream, hstream⟩ := h.stream
  rw [perform_close_of_held hstream, h.device]
  cases hstop : device.stopFailure with
  | none => rfl
  | some failure => exact if_pos (hdevice.stopping failure hstop)

end MicrophoneSystem

end SpokenCalculator
