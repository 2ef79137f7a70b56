import SpokenCalculator.Audio.Microphone
import SpokenCalculator.Proofs.Action
import SpokenCalculator.Proofs.Audio.Window

namespace SpokenCalculator

namespace Microphone

def SameGate (before after : Microphone) : Prop :=
  after.queue = before.queue ∧ after.muted = before.muted ∧ after.unmutedAt = before.unmutedAt

/-- Muting and unmuting only drop blocks, and no block waits while muted. -/
def Quiet (microphone : Microphone) : Prop := microphone.muted = true → microphone.queue = []

theorem SameGate.quiet {before after : Microphone} (h : SameGate before after)
    (hquiet : before.Quiet) : after.Quiet := by
  obtain ⟨hqueue, hmuted, -⟩ := h
  intro hafter
  rw [hqueue]
  exact hquiet (hmuted ▸ hafter)

theorem quiet_mute (microphone : Microphone) : microphone.mute.Quiet := fun _ => rfl

theorem quiet_unmuteAt (now : Quantity) (microphone : Microphone) :
    (microphone.unmuteAt now).Quiet := nofun

theorem unmuteAt_of_muted {microphone : Microphone} (h : microphone.muted = true)
    (now : Quantity) : microphone.unmuteAt now =
      { microphone with queue := [], unmutedAt := now, muted := false, voice := false } := by
  simp [unmuteAt, h]

theorem unmuteAt_of_unmuted {microphone : Microphone} (h : microphone.muted = false)
    (now : Quantity) :
    microphone.unmuteAt now = { microphone with muted := false, voice := false } := by
  simp [unmuteAt, h]

theorem stream_unmuteAt (now : Quantity) (microphone : Microphone) :
    (microphone.unmuteAt now).stream = microphone.stream := by
  unfold unmuteAt
  dsimp only
  split <;> rfl

/-- A block is dropped, or it joins the end of the queue. The second happens
only while unmuted and if the block is not late. -/
theorem deliver_cases (threshold : Quantity) (delivery : Delivery) (microphone : Microphone) :
    SameGate microphone (microphone.deliver threshold delivery) ∨
      microphone.muted = false ∧ microphone.isLate delivery = false ∧
        SameGate { microphone with queue := microphone.queue ++ [delivery.samples] }
          (microphone.deliver threshold delivery) := by
  unfold deliver
  by_cases hdropped : microphone.muted || microphone.isLate delivery
  · left
    simp [hdropped, SameGate]
  · right
    simp only [Bool.or_eq_true, not_or, Bool.not_eq_true] at hdropped
    simp [hdropped, SameGate]

theorem gate_deliver (threshold : Quantity) (delivery : Delivery) (microphone : Microphone) :
    (microphone.deliver threshold delivery).muted = microphone.muted ∧
      (microphone.deliver threshold delivery).unmutedAt = microphone.unmutedAt := by
  unfold deliver
  dsimp only
  split <;> exact ⟨rfl, rfl⟩

/-- While unmuted every block that is not late joins the end of the queue. -/
theorem queue_deliver_of_unmuted {microphone : Microphone} (h : microphone.muted = false)
    (threshold : Quantity) (delivery : Delivery) :
    (microphone.deliver threshold delivery).queue =
      if microphone.isLate delivery then microphone.queue
      else microphone.queue ++ [delivery.samples] := by
  unfold deliver
  rw [h, Bool.false_or]
  dsimp only
  split <;> rfl

theorem quiet_deliver {microphone : Microphone} (h : microphone.Quiet) (threshold : Quantity)
    (delivery : Delivery) : (microphone.deliver threshold delivery).Quiet := by
  rcases deliver_cases threshold delivery microphone with hsame | ⟨hmuted, -, hjoined⟩
  · exact hsame.quiet h
  · refine hjoined.quiet ?_
    intro hmuted'
    rw [hmuted] at hmuted'
    contradiction

end Microphone

namespace MicrophoneSystem

open SpokenCalculator.Action (Safe anything)

/-- What holds of a microphone whatever happens to its streams. -/
structure IgnoresStreams (inv : MicrophoneSystem → Prop) : Prop where
  events (system : MicrophoneSystem) (events : List StreamEvent) :
    inv system → inv { system with events }
  streams (system : MicrophoneSystem) (stream : Option Nat) (openedStreams : Nat) :
    inv system → inv (system.update fun microphone => { microphone with stream, openedStreams })

section

variable {α : Type} {inv : MicrophoneSystem → Prop} (h : IgnoresStreams inv)

theorem safe_ofResult (result : Except Failure α) :
    (Action.ofResult result).Safe inv anything anything :=
  .ofResult (by cases result <;> trivial)

include h

theorem safe_emit (event : StreamEvent) : (emit event).Safe inv anything anything :=
  .change fun system => h.events system _

theorem safe_hold (stream : Option Nat) : (hold stream).Safe inv anything anything :=
  .change fun system => h.streams system stream system.microphone.openedStreams

theorem safe_openStream : openStream.Safe inv anything anything := by
  refine .bind .get fun system hsystem => ?_
  refine .bind (safe_ofResult _) fun _ _ => ?_
  refine .bind (.change fun _ _ => h.streams system _ _ hsystem) fun _ _ => ?_
  refine .bind (safe_emit h _) fun _ _ => ?_
  exact .bind (safe_ofResult _) fun _ _ => safe_emit h _

theorem safe_start : start.Safe inv anything anything := by
  refine .bind .get fun system _ => ?_
  split
  · refine .bind (safe_openStream h).attempt fun result _ => ?_
    split
    · exact .pure trivial
    · split
      · exact .bind (safe_hold h none) fun _ _ => .throw trivial
      · exact .throw trivial
  · exact .pure trivial

theorem safe_stopStream (stream : Nat) : (stopStream stream).Safe inv anything anything := by
  refine .bind (safe_emit h _) fun _ _ => ?_
  refine .bind .get fun system _ => ?_
  exact .bind (safe_ofResult _) fun _ _ => safe_emit h _

theorem safe_close : close.Safe inv anything anything := by
  refine .bind .get fun system _ => ?_
  split
  · exact .pure trivial
  · refine .bind (safe_hold h none) fun _ _ => ?_
    refine .bind (safe_stopStream h _).attempt fun result _ => ?_
    split
    · exact .pure trivial
    · split
      · exact .pure trivial
      · exact .throw trivial

end

def SameGate (before after : MicrophoneSystem) : Prop :=
  after.device = before.device ∧ Microphone.SameGate before.microphone after.microphone

theorem SameGate.refl (system : MicrophoneSystem) : SameGate system system :=
  ⟨rfl, rfl, rfl, rfl⟩

theorem ignoresStreams_sameGate (before : MicrophoneSystem) : IgnoresStreams (SameGate before) where
  events _ _ hgate := hgate
  streams _ _ _ hgate := hgate

def LeavesGate {α : Type} (action : Action MicrophoneSystem α) : Prop :=
  ∀ before, Safe (SameGate before) anything anything action

theorem LeavesGate.sameGate {α : Type} {action : Action MicrophoneSystem α}
    (h : LeavesGate action) (system : MicrophoneSystem) :
    SameGate system (action.perform system).2 :=
  (h system system (.refl system)).1

theorem leavesGate_start : LeavesGate start := fun before =>
  safe_start (ignoresStreams_sameGate before)

theorem leavesGate_close : LeavesGate close := fun before =>
  safe_close (ignoresStreams_sameGate before)

/-- What a capture does between finding the microphone unmuted and waiting for
the first block. -/
def beginWindow (maxSeconds : Quantity) : Action MicrophoneSystem Window := do
  start
  let request := windowRequest (← get).settings maxSeconds
  Action.ofResult ((Window.create request).mapError AudioFault.failure)

theorem openWindow_eq (maxSeconds : Quantity) :
    openWindow maxSeconds = (do
      if (← get).microphone.muted then
        throw ⟨.runtime, "capture_chunk() called while the microphone is muted"⟩
      beginWindow maxSeconds) := rfl

theorem safe_beginWindow {inv : MicrophoneSystem → Prop} (h : IgnoresStreams inv)
    (maxSeconds : Quantity) : (beginWindow maxSeconds).Safe inv anything anything := by
  refine .bind (safe_start h) fun _ _ => ?_
  exact .bind .get fun system _ => safe_ofResult _

theorem leavesGate_beginWindow (maxSeconds : Quantity) : LeavesGate (beginWindow maxSeconds) :=
  fun before => safe_beginWindow (ignoresStreams_sameGate before) maxSeconds

/-- Beginning to listen keeps the settings, and a window that it returns is the
one for them. -/
theorem ends_beginWindow (maxSeconds : Quantity) (system : MicrophoneSystem) :
    ((beginWindow maxSeconds).perform system).2.settings = system.settings ∧
      Action.Ends
        (fun window => Window.create (windowRequest system.settings maxSeconds) = .ok window)
        anything ((beginWindow maxSeconds).perform system).1 := by
  have hignores : IgnoresStreams fun other => other.settings = system.settings :=
    ⟨fun _ _ hsettings => hsettings, fun _ _ _ hsettings => hsettings⟩
  refine Safe.bind (safe_start hignores) (fun _ _ => ?_) system rfl
  refine .bind .get fun other hsettings => .ofResult ?_
  rw [hsettings]
  cases hcreate : Window.create (windowRequest system.settings maxSeconds) with
  | ok window => exact rfl
  | error fault => trivial

theorem perform_deliver (delivery : Delivery) (system : MicrophoneSystem) :
    (deliver delivery).perform system =
      (.ok (), system.update (Microphone.deliver system.settings.threshold delivery)) := rfl

theorem perform_unmute (system : MicrophoneSystem) : unmute.perform system =
    match streamTime system with
    | .ok now => (.ok (), system.update (Microphone.unmuteAt now))
    | .error failure => (.error failure, system) := by
  have hread : (MonadState.get : Action MicrophoneSystem MicrophoneSystem).perform system =
    (.ok system, system) := rfl
  have hresult : (Action.ofResult (streamTime system)).perform system =
    (streamTime system, system) := rfl
  rw [unmute, Action.perform_bind, hread]
  simp only [Action.perform_bind, hresult]
  cases streamTime system <;> rfl

theorem perform_openWindow (maxSeconds : Quantity) (system : MicrophoneSystem) :
    (openWindow maxSeconds).perform system =
      if system.microphone.muted then
        (.error ⟨.runtime, "capture_chunk() called while the microphone is muted"⟩, system)
      else (beginWindow maxSeconds).perform system := by
  rw [openWindow_eq, Action.perform_bind, Action.perform_get]
  dsimp only
  split <;> rfl

def withQueue (queue : List (List Sample)) : MicrophoneSystem → MicrophoneSystem :=
  update fun microphone => { microphone with queue }

/-- Take from the queue what fills the window, or everything. -/
def fill (window : Window) (system : MicrophoneSystem) :
    Except Failure Chunk × MicrophoneSystem :=
  let (filled, queue) := Microphone.collect window system.microphone.queue
  (filled.elim (.error (silenceFailure system)) fun filled => .ok filled.chunk,
    system.withQueue queue)

/-- A capture opens a window and fills it, unless it cannot wait for blocks. -/
theorem perform_capture (maxSeconds : Quantity) (system : MicrophoneSystem) :
    (capture maxSeconds).perform system =
      match (openWindow maxSeconds).perform system with
      | (.error failure, begun) => (.error failure, begun)
      | (.ok window, begun) =>
          match timeoutFailure? begun.settings.timeout with
          | some failure => (.error failure, begun)
          | none => begun.fill window := by
  rw [capture, Action.perform_bind]
  generalize (openWindow maxSeconds).perform system = outcome
  obtain ⟨result, begun⟩ := outcome
  cases result with
  | error failure => rfl
  | ok window =>
      dsimp only
      rw [Action.perform_bind, Action.perform_get]
      dsimp only
      rw [fill]
      cases timeoutFailure? begun.settings.timeout with
      | some failure => rfl
      | none =>
          cases Microphone.collect window begun.microphone.queue with
          | mk filled queue => cases filled <;> rfl

theorem perform_capture_of_muted {system : MicrophoneSystem}
    (h : system.microphone.muted = true) (maxSeconds : Quantity) :
    (capture maxSeconds).perform system =
      (.error ⟨.runtime, "capture_chunk() called while the microphone is muted"⟩, system) := by
  rw [perform_capture, perform_openWindow, if_pos h]

/-- While unmuted a capture begins its window in vain, or refuses to wait for
blocks, or takes them. -/
theorem perform_capture_cases {system : MicrophoneSystem} (h : system.microphone.muted = false)
    (maxSeconds : Quantity) :
    ∃ begun, system.SameGate begun ∧ begun.settings = system.settings ∧
      ((∃ failure, (beginWindow maxSeconds).perform system = (.error failure, begun) ∧
          (capture maxSeconds).perform system = (.error failure, begun)) ∨
        ∃ window, (beginWindow maxSeconds).perform system = (.ok window, begun) ∧
          Window.create (windowRequest system.settings maxSeconds) = .ok window ∧
          ((∃ failure, timeoutFailure? system.settings.timeout = some failure ∧
              (capture maxSeconds).perform system = (.error failure, begun)) ∨
            timeoutFailure? system.settings.timeout = none ∧
              (capture maxSeconds).perform system = begun.fill window)) := by
  have hgate := (leavesGate_beginWindow maxSeconds).sameGate system
  obtain ⟨hsettings, hends⟩ := ends_beginWindow maxSeconds system
  refine ⟨((beginWindow maxSeconds).perform system).2, hgate, hsettings, ?_⟩
  rw [perform_capture, perform_openWindow, if_neg (ne_true_of_eq_false h)]
  generalize (beginWindow maxSeconds).perform system = outcome at hends hsettings ⊢
  obtain ⟨result, begun⟩ := outcome
  cases result with
  | error failure => exact Or.inl ⟨failure, rfl, rfl⟩
  | ok window =>
      refine Or.inr ⟨window, rfl, hends, ?_⟩
      dsimp only at hsettings ⊢
      rw [hsettings]
      cases timeoutFailure? system.settings.timeout with
      | some failure => exact Or.inl ⟨failure, rfl, rfl⟩
      | none => exact Or.inr ⟨rfl, rfl⟩

theorem gate_capture (maxSeconds : Quantity) (system : MicrophoneSystem) :
    ((capture maxSeconds).perform system).2.microphone.muted = system.microphone.muted ∧
      ((capture maxSeconds).perform system).2.microphone.unmutedAt =
        system.microphone.unmutedAt := by
  cases hmuted : system.microphone.muted with
  | true =>
      rw [perform_capture_of_muted hmuted]
      exact ⟨hmuted, rfl⟩
  | false =>
      obtain ⟨begun, ⟨-, -, hbegun, hunmutedAt⟩, -, ⟨_, -, hcapture⟩ |
        ⟨window, -, -, ⟨_, -, hcapture⟩ | ⟨-, hcapture⟩⟩⟩ := perform_capture_cases hmuted maxSeconds
      · rw [hcapture]
        exact ⟨hbegun.trans hmuted, hunmutedAt⟩
      · rw [hcapture]
        exact ⟨hbegun.trans hmuted, hunmutedAt⟩
      · rw [hcapture]
        exact ⟨hbegun.trans hmuted, hunmutedAt⟩

/-- A capture that returns has begun a window while unmuted, and the queue has
filled it. -/
theorem exists_collect_of_capture {maxSeconds : Quantity} {system after : MicrophoneSystem}
    {chunk : Chunk} (h : (capture maxSeconds).perform system = (.ok chunk, after)) :
    ∃ window begun filled rest, system.microphone.muted = false ∧
      (beginWindow maxSeconds).perform system = (.ok window, begun) ∧
      Microphone.collect window begun.microphone.queue = (some filled, rest) ∧
      chunk = filled.chunk ∧
      after = begun.update fun microphone => { microphone with queue := rest } := by
  cases hmuted : system.microphone.muted with
  | true =>
      rw [perform_capture_of_muted hmuted] at h
      cases h
  | false =>
      obtain ⟨begun, -, -, ⟨_, -, hcapture⟩ | ⟨window, hbegin, -, ⟨_, -, hcapture⟩ |
        ⟨-, hcapture⟩⟩⟩ := perform_capture_cases hmuted maxSeconds
      · rw [hcapture] at h
        cases h
      · rw [hcapture] at h
        cases h
      · rw [hcapture] at h
        cases hcollect : Microphone.collect window begun.microphone.queue with
        | mk filled rest =>
            rw [fill, hcollect] at h
            cases filled with
            | none => cases h
            | some filled =>
                obtain ⟨⟨⟩, rfl⟩ := Prod.mk.inj h
                exact ⟨window, begun, filled, rest, rfl, hbegin, hcollect, rfl, rfl⟩

end MicrophoneSystem

end SpokenCalculator
