import SpokenCalculator.Proofs.CommandLine.Options
import SpokenCalculator.Proofs.CommandLine.Run

namespace SpokenCalculator

open SpokenCalculator.Action

namespace Session

structure Begins (equipment : Equipment) (microphone : MicrophoneSettings) (session : Session) :
    Prop where
  microphone_eq : session.microphone = .initial microphone equipment.device
  windows_eq : session.windows = equipment.windows
  recognitions : session.recognitions ⊆ equipment.recognitions
  interruptions : session.interruptions ⊆ equipment.interruptions
  speeches : session.speeches ⊆ equipment.speeches

variable {equipment : Equipment} {microphone : MicrophoneSettings}

theorem leads_start (hequipment : equipment.FailsAsHandled) :
    (onMicrophone MicrophoneSystem.start).Leads (Begins equipment microphone)
      fun outcome session =>
        Ends
          (fun _ => equipment.device.refuses = false ∧ session.Attends equipment microphone
            equipment.windows equipment.windows.flatten.length false)
          (fun failure => equipment.device.refuses = true ∧ failure.kind = .device) outcome := by
  intro session h
  have hnew : { session.microphone with events := [] } =
      MicrophoneSystem.initial microphone equipment.device := by
    rw [h.microphone_eq]
    rfl
  have hends := MicrophoneSystem.leads_start hequipment.device _ hnew
  rw [perform_onMicrophone]
  generalize MicrophoneSystem.start.perform { session.microphone with events := [] } = result
    at hends ⊢
  obtain ⟨outcome, system⟩ := result
  cases outcome with
  | error failure => exact hends
  | ok value =>
      obtain ⟨hopens, hholds, hqueue⟩ := hends
      refine ⟨hopens, ⟨hholds, h.windows_eq, ?_, h.recognitions, h.interruptions, h.speeches⟩⟩
      rw [hqueue]
      exact Nat.le_refl _

theorem perform_shutDown {fault : Option Failure}
    (hfault : ∀ failure ∈ fault, failure.kind.isA .runtime) (session : Session) :
    (onSpeaker (SpeakerSystem.shutDown fault)).perform session =
      (.ok (), { session with
        speaker := { session.speaker with events := [.stopped] }
        events := .speech .stopped :: session.events }) := by
  cases fault with
  | none => rfl
  | some failure =>
      have hhandled : (if failure.kind.isA .runtime then pure () else throw failure :
          Action SpeakerSystem Unit) = pure () := if_pos (hfault failure rfl)
      rw [SpeakerSystem.shutDown]
      dsimp only
      rw [hhandled]
      rfl

theorem leads_close {windows : List (List (List Sample))} {left : Nat} {muted : Bool}
    (hequipment : equipment.FailsAsHandled) :
    (onMicrophone MicrophoneSystem.close).Leads
      (Attends equipment microphone windows left muted) fun outcome _ => outcome = .ok () :=
  fun _ h => MicrophoneSystem.leads_close hequipment.device _ h.holds_without_events

end Session

namespace CommandLine

open Assistant Session

theorem perform_inWorld (action : Action Session Unit) (assistant : Assistant Session) :
    (inWorld action).perform assistant =
      let result := action.perform assistant.surroundings.world
      (result.1, { assistant with
        surroundings := { assistant.surroundings with world := result.2 } }) := rfl

section

variable {last : Option TurnResult} {failure : Failure}

theorem endOf_of_fatal (h : last.any TurnResult.isFatal) : endOf (.ok last) = .exit 1 := by
  rw [endOf, exitCode, if_pos h]

theorem endOf_of_device (h : failure.kind.isA .device) : endOf (.error failure) = .exit 1 :=
  if_pos h

theorem endOf_of_interrupt (h : failure.kind.isA .interrupt) :
    endOf (.error failure) = .exit 0 := by
  have hdevice : ¬ failure.kind.isA .device := by
    revert h
    cases failure.kind <;> decide
  rw [endOf, if_neg hdevice, if_pos h]

theorem endOf_of_escapes (h : Escapes failure) : endOf (.error failure) = .failed failure := by
  rw [endOf, if_neg h.1, if_neg h.2]

end

section

variable {equipment : Equipment} {microphone : MicrophoneSettings} {settings : Settings}
  (hequipment : equipment.FailsAsHandled)
  (hwait : MicrophoneSystem.IsWaitable microphone.timeout)
  (hrate : microphone.rate.truncate ≠ .ok 0)
  (hlow : 0 ≤ settings.spokenPlaces) (hhigh : settings.spokenPlaces ≤ 12)

include hequipment hwait hrate hlow hhigh

theorem leads_listen {limit : Nat} (hlimit : equipment.windows.flatten.length < limit) :
    (listen settings limit).Leads
      (fun assistant => assistant.engine.memory.Held ∧
        assistant.surroundings.world.Begins equipment microphone)
      fun outcome _ =>
        Ends
          (fun last => equipment.device.refuses = false ∧ refusal? microphone settings = none ∧
            last.any TurnResult.isFatal)
          (fun failure => equipment.device.refuses = true ∧ failure.kind = .device ∨
            equipment.device.refuses = false ∧
              (refusal? microphone settings = some failure ∨ equipment.Interrupts failure))
          outcome := by
  refine .bind (fun _ assistant => equipment.device.refuses = false ∧
    assistant.engine.memory.Held ∧ assistant.surroundings.world.Attends equipment microphone
      equipment.windows equipment.windows.flatten.length false) ?_ fun _ =>
    .assuming fun hopens => ?_
  · rintro assistant ⟨hmemory, hbegins⟩
    exact (leads_start hequipment _ hbegins).mono (fun _ h => ⟨h.1, hmemory, h.2⟩) fun _ => Or.inl
  · refine .ensuring (leads_run hequipment hwait hrate hlow hhigh limit hlimit)
      fun outcome => ?_
    rintro assistant ⟨⟨windows, left, h⟩, hends⟩
    have hcloses : ((inWorld (onMicrophone MicrophoneSystem.close)).perform assistant).1 = .ok () :=
      leads_close hequipment _ h
    rw [hcloses]
    exact hends.mono (fun _ h => ⟨hopens, h⟩) fun _ h => Or.inr ⟨hopens, h⟩

theorem runSession_ends {session : Session} (hbegins : session.Begins equipment microphone)
    (hstop : session.stopFault = equipment.stopFault) :
    let outcome := runSession settings session
    outcome.2.getLast? = some (.speech .stopped) ∧
      (equipment.device.refuses = true → outcome.1 = .exit 1) ∧
      (equipment.device.refuses = false →
        outcome.1 = (refusal? microphone settings).elim (.exit 1) .failed ∨
        equipment.MayBeInterrupted ∧ outcome.1 = .exit 0) := by
  have hpatience : equipment.windows.flatten.length < session.patience := by
    rw [patience, hbegins.windows_eq]
    exact Nat.lt_succ_self _
  have hends := leads_listen hequipment hwait hrate hlow hhigh hpatience
    (.initial (.fresh (some Engine.usualCapacity)) session) ⟨Decimal.held_zero, hbegins⟩
  have hfault : ∀ failure ∈ session.stopFault, failure.kind.isA .runtime :=
    hstop ▸ hequipment.stop
  unfold runSession
  dsimp only
  rw [perform_ensuring]
  generalize (listen settings session.patience).perform
    (.initial (.fresh (some Engine.usualCapacity)) session) = result at hends ⊢
  obtain ⟨outcome, assistant⟩ := result
  rw [perform_inWorld, perform_shutDown hfault]
  refine ⟨List.getLast?_reverse, ?_⟩
  cases outcome with
  | ok last =>
      obtain ⟨hopens, hcreates, hfatal⟩ := hends
      have hexit := endOf_of_fatal hfatal
      refine ⟨fun _ => hexit, fun _ => Or.inl ?_⟩
      rw [hcreates]
      exact hexit
  | error failure =>
      rcases hends with ⟨hrefuses, hkind⟩ | ⟨hopens, hescaped⟩
      · have hdevice : failure.kind.isA .device := by
          rw [hkind]
          rfl
        exact ⟨fun _ => endOf_of_device hdevice,
          fun hopens => absurd (hrefuses.symm.trans hopens) nofun⟩
      · refine ⟨fun hrefuses => absurd (hrefuses.symm.trans hopens) nofun, fun _ => ?_⟩
        rcases hescaped with hrefused | ⟨hkind, hinterrupted⟩
        · left
          rw [hrefused]
          exact endOf_of_escapes (escapes_of_refusal hrefused)
        · exact Or.inr ⟨hinterrupted, endOf_of_interrupt hkind⟩

end

theorem spokenPlaces_of_prepare {equipment : Equipment} {options : List (String × Json)}
    {settings : Settings} {device : DeviceChoice}
    (h : prepare equipment options = .ok (settings, device)) : settings.spokenPlaces = 4 := by
  obtain ⟨_, -, h⟩ := bind_eq_ok.mp h
  obtain ⟨prepared, hprepared, h⟩ := bind_eq_ok.mp h
  obtain ⟨_, -, h⟩ := bind_eq_ok.mp h
  cases h
  obtain ⟨policy, -, hprepared⟩ := bind_eq_ok.mp hprepared
  obtain ⟨retries, -, hprepared⟩ := bind_eq_ok.mp hprepared
  rw [← Except.ok.inj hprepared]
  rfl

theorem truncate_rate (settings : Settings) (options : List (String × Json)) (device : DeviceChoice)
    (timeout : Quantity) :
    (microphoneSettings settings options device timeout).rate.truncate ≠ .ok 0 := by
  intro h
  have hzero : (16000 : Int) = 0 := Except.ok.inj h
  exact absurd hzero (by decide)

def windowsAsked (settings : Settings) (options : List (String × Json)) : WindowRequest :=
  { maxSeconds := settings.listenSeconds
    policy := .string settings.policy.name
    rate := Audio.usualRate
    silenceSeconds := settings.silenceSeconds
    threshold := Settings.amountOf (optionOf options "volume_threshold") }

section

variable {directory : String} {arguments : List String} {options : List (String × Json)}
  (hparse : parse directory arguments = .ok options) {equipment : Equipment} (settings : Settings)
  (microphone : MicrophoneSettings)

include hparse

theorem openSession_of_fault (hequipment : equipment.FailsAsHandled)
    (hfault : equipment.modelFault.isSome ∨ equipment.engineFault.isSome) :
    (openSession settings options microphone equipment).1 = .exit 1 := by
  obtain ⟨path, hpath⟩ := exists_modelSource_of_parse hparse
  unfold openSession
  rw [hpath]
  cases hmodel : equipment.modelFault with
  | some message => rfl
  | none =>
      rw [hmodel] at hfault
      obtain ⟨failure, hengine⟩ := Option.isSome_iff_exists.mp (hfault.resolve_left nofun)
      rw [hengine]
      have hstart : ∀ rate, SpeakerSystem.start (some failure) rate none =
          .error ⟨.speaker, s!"Could not start text-to-speech engine: {failure.message}"⟩ :=
        fun _ => if_pos (hequipment.engine failure hengine)
      dsimp only [Transcriber.load]
      rw [hstart]
      rfl

theorem exists_openSession_eq (hmodel : equipment.modelFault = none)
    (hengine : equipment.engineFault = none) :
    ∃ session : Session, session.Begins equipment microphone ∧
      session.stopFault = equipment.stopFault ∧
      openSession settings options microphone equipment = runSession settings session := by
  obtain ⟨path, hpath⟩ := exists_modelSource_of_parse hparse
  unfold openSession
  rw [hpath, hmodel, hengine]
  exact ⟨_, ⟨rfl, rfl, List.Subset.refl _, List.Subset.refl _, List.Subset.refl _⟩, rfl, rfl⟩

end

/-- Options that cannot be used end a session before anything is started. Otherwise
the exit code is one if the model, the speech engine or the device cannot be used,
and the speech engine is closed at last whenever it was started. The run ends with
the failure of a window that cannot be created or, if it can, with the exit code of
one, unless it is interrupted and the exit code is zero. -/
theorem session_ends {directory : String} {arguments : List String}
    {options : List (String × Json)} (hparse : parse directory arguments = .ok options)
    {equipment : Equipment} (hequipment : equipment.FailsAsHandled) {timeout : Quantity}
    (htimeout : MicrophoneSystem.IsWaitable timeout) :
    let outcome := session directory timeout equipment arguments
    (∀ failure, prepare equipment options = .error failure → outcome = (.failed failure, [])) ∧
    ∀ settings device, prepare equipment options = .ok (settings, device) →
      (equipment.modelFault.isSome ∨ equipment.engineFault.isSome → outcome.1 = .exit 1) ∧
      (equipment.modelFault = none → equipment.engineFault = none →
        outcome.2.getLast? = some (.speech .stopped) ∧
        (equipment.device.refuses = true → outcome.1 = .exit 1) ∧
        (equipment.device.refuses = false →
          outcome.1 =
            (Window.refusal? (windowsAsked settings options)).elim (.exit 1) .failed ∨
          equipment.MayBeInterrupted ∧ outcome.1 = .exit 0)) := by
  rw [session, hparse]
  dsimp only
  constructor
  · intro failure hprepare
    rw [hprepare]
  · intro settings device hprepare
    rw [hprepare]
    refine ⟨openSession_of_fault hparse settings _ hequipment, fun hmodel hengine => ?_⟩
    obtain ⟨session, hbegins, hstop, hopen⟩ := exists_openSession_eq hparse settings
      (microphoneSettings settings options device timeout) hmodel hengine
    have hplaces := spokenPlaces_of_prepare hprepare
    dsimp only
    rw [hopen]
    exact runSession_ends hequipment htimeout (truncate_rate settings options device timeout)
      (by omega) (by omega) hbegins hstop

/-- Equipment that works, and nobody speaks. -/
def silent : Equipment := ⟨none, none, .working, [], [], [], [], none, none⟩

theorem failsAsHandled_silent : silent.FailsAsHandled where
  engine := nofun
  device := ⟨nofun, nofun, nofun, rfl, nofun⟩
  recognitions := nofun
  speeches := nofun
  stop := nofun

theorem session_ends_silent :
    silent.FailsAsHandled ∧ MicrophoneSystem.IsWaitable MicrophoneSettings.usualTimeout ∧
      (∃ options, parse "." ["--no-greeting"] = .ok options) ∧
      let outcome := session "." MicrophoneSettings.usualTimeout silent ["--no-greeting"]
      outcome.2.getLast? = some (.speech .stopped) ∧ outcome.1 = .exit 1 := by
  have hwaitable : MicrophoneSystem.IsWaitable MicrophoneSettings.usualTimeout := ⟨rfl, rfl⟩
  obtain ⟨options, settings, device, hparse, hprepare, hopens⟩ : ∃ options settings device,
      parse "." ["--no-greeting"] = .ok options ∧
      prepare silent options = .ok (settings, device) ∧
      Window.refusal? (windowsAsked settings options) = none := by
    refine ⟨_, _, _, rfl, rfl, ?_⟩
    decide +kernel
  have huninterrupted : ¬ silent.MayBeInterrupted := by
    rintro (hmem | ⟨_, hmem, -⟩ | ⟨_, hmem, -⟩) <;> cases hmem
  obtain ⟨-, hstarted⟩ :=
    (session_ends hparse failsAsHandled_silent hwaitable).2 settings device hprepare
  obtain ⟨hclosed, -, hends⟩ := hstarted rfl rfl
  rcases hends rfl with hexit | ⟨hinterrupted, -⟩
  · rw [hopens] at hexit
    exact ⟨failsAsHandled_silent, hwaitable, ⟨options, hparse⟩, hclosed, hexit⟩
  · exact absurd hinterrupted huninterrupted

/-- A window of no length cannot be opened, and a superscript is a digit but not
the number of a device. -/
theorem not_session_exits :
    silent.FailsAsHandled ∧ ∀ arguments ∈ [["--max-listen", "0"], ["--device", "²"]],
      (∃ options, parse "." arguments = .ok options) ∧
        ¬ ∃ code, (session "." MicrophoneSettings.usualTimeout silent arguments).1 =
          .exit code := by
  have hwindow : (session "." MicrophoneSettings.usualTimeout silent ["--max-listen", "0"]).1 =
      .failed ⟨.assertion, "max_seconds must be > 0"⟩ := by
    decide +kernel
  have hdevice : (session "." MicrophoneSettings.usualTimeout silent ["--device", "²"]).1 =
      .failed ⟨.value, "invalid literal for int() with base 10: '²'"⟩ := by
    decide +kernel
  refine ⟨failsAsHandled_silent, List.forall_mem_cons.mpr ⟨⟨⟨_, rfl⟩, ?_⟩,
    List.forall_mem_singleton.mpr ⟨⟨_, rfl⟩, ?_⟩⟩⟩
  · rintro ⟨code, hexit⟩
    cases hwindow.symm.trans hexit
  · rintro ⟨code, hexit⟩
    cases hdevice.symm.trans hexit

end CommandLine

end SpokenCalculator
