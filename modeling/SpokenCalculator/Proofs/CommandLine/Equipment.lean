import SpokenCalculator.CommandLine.Session
import SpokenCalculator.Proofs.Assistant.Answering
import SpokenCalculator.Proofs.Audio.Listening
import SpokenCalculator.Proofs.Speaker.Session
import SpokenCalculator.Proofs.Transcriber

/-!
# What a session asks of its equipment

The equipment may fail in all the ways that are handled, and the user may
interrupt it. Under this condition muting and unmuting return, a speech fails as
a speaker does, a transcription as a transcriber does, and a capture as a device
does, unless there is an interruption. Only a capture can fail in another way,
and it does so always or never: its window cannot be created. Every capture that
returns takes a block.
-/

namespace SpokenCalculator

open SpokenCalculator.Action

/-- A recognition that breaks down or is interrupted, or whose result tells a
short text if it can be read. -/
def Transcriber.Expects : Except Failure String → Prop
  | .error failure => failure.kind.isA .ordinary ∨ failure.kind.isA .interrupt
  | .ok text => ∀ result, Json.read text = .ok result →
      ∃ heard, textOf result = .ok heard ∧ (transcriptOf heard).IsShort

theorem Transcriber.expects_nothing : Expects (.ok (Json.record [("text", .string "")]).print) := by
  have hread : Json.read (Json.record [("text", .string "")]).print =
      .ok (.record [("text", .string "")]) := by
    rfl
  have hsilence : transcriptOf "" = .silence := by rfl
  intro result hresult
  cases hread.symm.trans hresult
  refine ⟨"", rfl, ?_⟩
  rw [hsilence]
  exact nofun

theorem Transcriber.ends_transcribe (transcriber : Transcriber) {chunk : Chunk}
    (hrate : chunk.rate ≠ 0) {recognition : Except Failure String} (h : Expects recognition) :
    Ends Transcript.IsShort
      (fun failure => failure.kind.isA .transcriber ∨
        recognition = .error failure ∧ failure.kind.isA .interrupt)
      (transcriber.transcribe chunk recognition).2 := by
  have hcomesOut := transcribe_comesOut transcriber chunk recognition
  generalize (transcriber.transcribe chunk recognition).2 = outcome at hcomesOut
  cases hcomesOut with
  | soundless => exact nofun
  | told hrecognition hread htext =>
      subst hrecognition
      obtain ⟨heard, hheard, hshort⟩ := h _ hread
      cases htext.symm.trans hheard
      exact hshort
  | shapeless _ hrecognition hread htext =>
      subst hrecognition
      obtain ⟨heard, hheard, -⟩ := h _ hread
      cases htext.symm.trans hheard
  | broken _ _ hkind =>
      left
      rw [hkind]
      rfl
  | rateless _ _ hzero => exact absurd hzero hrate
  | interrupted _ hrecognition hkind =>
      subst hrecognition
      exact Or.inr ⟨rfl, h.resolve_left hkind⟩

namespace Equipment

/-- Whatever fails does so in a way that is handled or is an interruption. -/
structure FailsAsHandled (equipment : Equipment) : Prop where
  engine : ∀ failure ∈ equipment.engineFault, SpeakerSystem.isUnavailable failure
  device : equipment.device.FailsAsHandled
  recognitions : ∀ recognition ∈ equipment.recognitions, Transcriber.Expects recognition
  speeches : ∀ interference ∈ equipment.speeches, ∀ failure ∈ interference.failure,
    failure.kind.isA .runtime ∨ failure.kind.isA .interrupt
  stop : ∀ failure ∈ equipment.stopFault, failure.kind.isA .runtime

/-- The user interrupts a window, a recognition or a speech, if it comes to
that. -/
def MayBeInterrupted (equipment : Equipment) : Prop :=
  true ∈ equipment.interruptions ∨
    (∃ failure, .error failure ∈ equipment.recognitions ∧ failure.kind.isA .interrupt) ∨
    ∃ interference ∈ equipment.speeches, ∃ failure ∈ interference.failure,
      failure.kind.isA .interrupt

def Interrupts (equipment : Equipment) (failure : Failure) : Prop :=
  failure.kind.isA .interrupt ∧ equipment.MayBeInterrupted

end Equipment

namespace Session

/-- A failure that a session does not handle. -/
def Escapes (failure : Failure) : Prop :=
  ¬ failure.kind.isA .device ∧ ¬ failure.kind.isA .interrupt

theorem escapes_of_refusal {request : WindowRequest} {failure : Failure}
    (h : Window.refusal? request = some failure) : Escapes failure := by
  unfold Window.refusal? at h
  split at h
  · cases h
  · rename_i fault _
    cases h
    cases fault with
    | outOfBounds value =>
        change Escapes (if Failure.isSized value then _ else _)
        split <;> exact ⟨Bool.false_ne_true, Bool.false_ne_true⟩
    | amount cause => cases cause <;> exact ⟨Bool.false_ne_true, Bool.false_ne_true⟩
    | _ => exact ⟨Bool.false_ne_true, Bool.false_ne_true⟩

/-- The session holds a stream, and what is left of its script is part of the
equipment's: these windows, and at most so many blocks with those that wait. -/
structure Attends (equipment : Equipment) (settings : MicrophoneSettings)
    (windows : List (List (List Sample))) (left : Nat) (muted : Bool) (session : Session) :
    Prop where
  holds : session.microphone.Holds settings equipment.device muted
  windows_eq : session.windows = windows
  left_le : windows.flatten.length + session.microphone.microphone.queue.length ≤ left
  recognitions : session.recognitions ⊆ equipment.recognitions
  interruptions : session.interruptions ⊆ equipment.interruptions
  speeches : session.speeches ⊆ equipment.speeches

theorem perform_takeNext {α : Type} (script : Session → List α)
    (keep : List α → Session → Session) (usual : α) (session : Session) :
    (takeNext script keep usual).perform session =
      match script session with
      | [] => (.ok usual, session)
      | item :: rest => (.ok item, keep rest session) := by
  unfold takeNext
  rw [perform_bind, perform_get]
  dsimp only
  cases script session <;> rfl

theorem perform_onMicrophone {α : Type} (action : Action MicrophoneSystem α) (session : Session) :
    (onMicrophone action).perform session =
      let result := action.perform { session.microphone with events := [] }
      (result.1, { session with
        microphone := result.2
        events := result.2.events.map .stream ++ session.events }) := rfl

/-- What is taken from a script was offered there. -/
theorem safe_takeNext {α : Type} {script : Session → List α} {keep : List α → Session → Session}
    {usual : α} {inv : Session → Prop} {offered : List α}
    (hkeep : ∀ session item rest, inv session → script session = item :: rest →
      item ∈ offered ∧ inv (keep rest session)) :
    (takeNext script keep usual).Safe inv (fun item => item = usual ∨ item ∈ offered) never := by
  intro session h
  rw [perform_takeNext]
  cases hscript : script session with
  | nil => exact ⟨h, Or.inl rfl⟩
  | cons item rest =>
      obtain ⟨hitem, hafter⟩ := hkeep session item rest h hscript
      exact ⟨hafter, Or.inr hitem⟩

section

variable {equipment : Equipment} {settings : MicrophoneSettings}
  {windows : List (List (List Sample))} {left : Nat} {muted : Bool} {session : Session}

theorem Attends.withMicrophone {after : Bool} {system : MicrophoneSystem}
    {events : List SessionEvent} (h : session.Attends equipment settings windows left muted)
    (hsystem : system.Holds settings equipment.device after)
    (hqueue : system.microphone.queue.length ≤ session.microphone.microphone.queue.length) :
    Attends equipment settings windows left after
      { session with microphone := system, events } :=
  { h with
    holds := hsystem
    left_le := (Nat.add_le_add_left hqueue _).trans h.left_le }

theorem Attends.holds_without_events
    (h : session.Attends equipment settings windows left muted) :
    MicrophoneSystem.Holds settings equipment.device muted
      { session.microphone with events := [] } :=
  ⟨h.holds.settings, h.holds.device, h.holds.stream, h.holds.muted⟩

theorem leads_mute :
    (onMicrophone MicrophoneSystem.mute).Leads
      (Attends equipment settings windows left muted)
      fun outcome session => outcome = .ok () ∧
        session.Attends equipment settings windows left true := by
  intro session h
  exact ⟨rfl, h.withMicrophone ⟨h.holds.settings, h.holds.device, h.holds.stream, rfl⟩
    (Nat.zero_le _)⟩

theorem leads_unmute (hequipment : equipment.FailsAsHandled) :
    (onMicrophone MicrophoneSystem.unmute).Leads
      (Attends equipment settings windows left muted)
      fun outcome session => outcome = .ok () ∧
        session.Attends equipment settings windows left false := by
  intro session h
  obtain ⟨hreturns, hholds, hqueue⟩ := MicrophoneSystem.leads_unmute hequipment.device
    session.microphone.microphone.queue.length _ ⟨h.holds_without_events, Nat.le_refl _⟩
  exact ⟨hreturns, h.withMicrophone hholds hqueue⟩

theorem safe_nextInterference :
    nextInterference.Safe (Attends equipment settings windows left muted)
      (fun interference => interference = .absent ∨ interference ∈ equipment.speeches) never := by
  refine safe_takeNext fun session item rest h hscript => ?_
  obtain ⟨hitem, hrest⟩ := List.cons_subset.mp (hscript ▸ h.speeches)
  exact ⟨hitem, { h with speeches := hrest }⟩

theorem safe_nextInterruption :
    nextInterruption.Safe (Attends equipment settings windows left muted)
      (fun interruption => interruption = false ∨ interruption ∈ equipment.interruptions)
      never := by
  refine safe_takeNext fun session item rest h hscript => ?_
  obtain ⟨hitem, hrest⟩ := List.cons_subset.mp (hscript ▸ h.interruptions)
  exact ⟨hitem, { h with interruptions := hrest }⟩

theorem safe_nextRecognition :
    nextRecognition.Safe (Attends equipment settings windows left muted)
      (fun recognition => recognition = .ok (Json.record [("text", .string "")]).print ∨
        recognition ∈ equipment.recognitions) never := by
  refine safe_takeNext fun session item rest h hscript => ?_
  obtain ⟨hitem, hrest⟩ := List.cons_subset.mp (hscript ▸ h.recognitions)
  exact ⟨hitem, { h with recognitions := hrest }⟩

theorem safe_speak (hequipment : equipment.FailsAsHandled) (text : String) :
    (speak text).Safe (Attends equipment settings windows left muted) anything
      fun failure => equipment.Interrupts failure ∨ failure.kind.isA .speaker := by
  refine .bind (safe_nextInterference.mono (fun _ => id) fun _ => False.elim)
    fun interference hinterference session h => ⟨{ h with }, ?_⟩
  have hresult : ((onSpeaker (SpeakerSystem.speak interference text)).perform session).1 =
      ((SpeakerSystem.speak interference text).perform { session.speaker with events := [] }).1 :=
    rfl
  rw [hresult, SpeakerSession.perform_speak]
  rcases hinterference with rfl | hmem
  · trivial
  · cases hfailure : interference.failure with
    | none => trivial
    | some failure =>
        have hkinds := hequipment.speeches interference hmem failure hfailure
        change _ ∨ (SpeakerSystem.speechFailure failure).kind.isA .speaker
        unfold SpeakerSystem.speechFailure
        split
        · exact Or.inr rfl
        · rename_i hruntime
          have hinterrupt := hkinds.resolve_left hruntime
          exact Or.inl ⟨hinterrupt, Or.inr (Or.inr ⟨interference, hmem, failure, hfailure,
            hinterrupt⟩)⟩

def transcribeFrom (chunk : Chunk) (recognition : Except Failure String) :
    Action Session Transcript := do
  let (events, result) := (← get).transcriber.transcribe chunk recognition
  Action.change fun session =>
    { session with events := events.reverse.map .recognizer ++ session.events }
  Action.ofResult result

theorem transcribe_eq (chunk : Chunk) :
    transcribe chunk =
      (if chunk.sampleCount = 0 then pure (.ok "") else nextRecognition) >>=
        transcribeFrom chunk := by
  unfold transcribe
  split <;> rfl

/-- The recognition is one that is expected, and it comes from the equipment if it
fails. -/
theorem safe_recognition (hequipment : equipment.FailsAsHandled) (chunk : Chunk) :
    (if chunk.sampleCount = 0 then pure (.ok "") else nextRecognition :
        Action Session (Except Failure String)).Safe
      (Attends equipment settings windows left muted)
      (fun recognition => Transcriber.Expects recognition ∧
        ∀ failure, recognition = .error failure → recognition ∈ equipment.recognitions) never := by
  split
  · refine .pure ⟨?_, nofun⟩
    intro result hread
    cases hread
  · refine safe_nextRecognition.mono (fun recognition hrecognition => ?_) fun _ => id
    rcases hrecognition with rfl | hmem
    · exact ⟨Transcriber.expects_nothing, nofun⟩
    · exact ⟨hequipment.recognitions recognition hmem, fun _ _ => hmem⟩

theorem safe_transcribe (hequipment : equipment.FailsAsHandled) {chunk : Chunk}
    (hrate : chunk.rate ≠ 0) :
    (transcribe chunk).Safe (Attends equipment settings windows left muted) Transcript.IsShort
      fun failure => equipment.Interrupts failure ∨ failure.kind.isA .transcriber := by
  rw [transcribe_eq]
  refine .bind ((safe_recognition hequipment chunk).mono (fun _ => id) fun _ => False.elim)
    fun recognition hrecognition => .bind .get fun session _ => ?_
  obtain ⟨hexpects, hoffered⟩ := hrecognition
  have hends := Transcriber.ends_transcribe session.transcriber hrate hexpects
  refine .bind (.change fun session h => { h with }) fun _ _ =>
    .ofResult (hends.mono (fun _ => id) ?_)
  rintro failure (hkind | ⟨rfl, hkind⟩)
  · exact Or.inr hkind
  · exact Or.inl ⟨hkind, Or.inr (Or.inl ⟨failure, hoffered failure rfl, hkind⟩)⟩

theorem leads_deliver (block : List Sample) :
    (onMicrophone (MicrophoneSystem.deliver ⟨block, none⟩)).Leads
      (Attends equipment settings windows left false) fun outcome session =>
        outcome = .ok () ∧ session.Attends equipment settings windows (left + 1) false := by
  intro session h
  obtain ⟨hreturns, hholds, hqueue⟩ := MicrophoneSystem.leads_deliver ⟨block, none⟩
    session.microphone.microphone.queue.length _ ⟨h.holds_without_events, Nat.le_refl _⟩
  exact ⟨hreturns, { h with
    holds := hholds
    left_le := (Nat.add_le_add_left hqueue _).trans (Nat.succ_le_succ h.left_le) }⟩

theorem leads_deliverAll (blocks : List (List Sample)) :
    (deliverAll blocks).Leads (Attends equipment settings windows left false)
      fun outcome session => outcome = .ok () ∧
        session.Attends equipment settings windows (left + blocks.length) false := by
  induction blocks generalizing left with
  | nil => exact .pure fun _ h => ⟨rfl, h⟩
  | cons block rest ih =>
      refine .bind (fun _ => Attends equipment settings windows (left + 1) false)
        ((leads_deliver block).mono (fun _ => id) ?_) fun _ => ih.mono (fun _ => id) ?_
      · rintro _ session ⟨rfl, h⟩
        exact h
      · intro outcome session h
        rw [List.length_cons, Nat.add_comm rest.length, ← Nat.add_assoc]
        exact h

theorem leads_nextBlocks :
    nextBlocks.Leads (Attends equipment settings windows left muted) fun outcome session =>
      outcome = .ok (windows.headD []) ∧ ∃ rest, rest + (windows.headD []).length ≤ left ∧
        session.Attends equipment settings windows.tail rest muted := by
  intro session h
  rw [nextBlocks, perform_takeNext, h.windows_eq]
  have hleft := h.left_le
  cases windows with
  | nil => exact ⟨rfl, left, Nat.le_refl _, h⟩
  | cons blocks rest =>
      rw [List.flatten_cons, List.length_append] at hleft
      refine ⟨rfl, rest.flatten.length + session.microphone.microphone.queue.length, ?_, ?_⟩
      · rw [List.headD_cons]
        omega
      · exact { h with windows_eq := rfl, left_le := Nat.le_refl _ }

theorem safe_openWindow (maxSeconds : Quantity) :
    (onMicrophone (MicrophoneSystem.openWindow maxSeconds)).Safe
      (Attends equipment settings windows left false)
      (fun _ => Window.refusal? (MicrophoneSystem.windowRequest settings maxSeconds) = none)
      (Window.refusal? (MicrophoneSystem.windowRequest settings maxSeconds) = some ·) := by
  intro session h
  rw [perform_onMicrophone,
    MicrophoneSystem.perform_openWindow_of_holds h.holds_without_events maxSeconds]
  refine ⟨h.withMicrophone h.holds_without_events (Nat.le_refl _), ?_⟩
  rw [Window.refusal?]
  cases Window.create (MicrophoneSystem.windowRequest settings maxSeconds) <;> exact rfl

theorem Attends.mono_left {more : Nat}
    (h : session.Attends equipment settings windows left muted) (hmore : left ≤ more) :
    session.Attends equipment settings windows more muted :=
  { h with left_le := h.left_le.trans hmore }

section

/-- A capture takes a block of a window that can be created, or it fails: as the
window does if it cannot be created, and else because of the device or an
interruption. -/
def Captures (equipment : Equipment) (settings : MicrophoneSettings)
    (windows : List (List (List Sample))) (left : Nat) (refusal : Option Failure)
    (outcome : Except Failure Chunk) (session : Session) : Prop :=
  Ends
    (fun chunk => refusal = none ∧ settings.rate.truncate = .ok chunk.rate ∧
      ∃ fewer < left, session.Attends equipment settings windows fewer false)
    (fun failure => session.Attends equipment settings windows left false ∧
      (refusal = some failure ∨
        refusal = none ∧ (failure.kind.isA .device ∨ equipment.Interrupts failure))) outcome

variable (hwait : MicrophoneSystem.IsWaitable settings.timeout) (maxSeconds : Quantity)

include hwait

/-- A window is filled, or it cannot be created, or there is no sound. -/
theorem leads_fill :
    (onMicrophone (MicrophoneSystem.capture maxSeconds)).Leads
      (Attends equipment settings windows left false)
      (Captures equipment settings windows left
        (Window.refusal? (MicrophoneSystem.windowRequest settings maxSeconds))) := by
  intro session h
  obtain ⟨hholds, hends⟩ := MicrophoneSystem.leads_capture hwait maxSeconds
    session.microphone.microphone.queue.length _ ⟨h.holds_without_events, rfl⟩
  rw [perform_onMicrophone]
  generalize (MicrophoneSystem.capture maxSeconds).perform { session.microphone with events := [] }
    = result at hholds hends ⊢
  obtain ⟨outcome, system⟩ := result
  cases outcome with
  | ok chunk =>
      obtain ⟨hopens, hrate, hqueue⟩ := hends
      refine ⟨hopens, hrate, _, (Nat.add_lt_add_left hqueue _).trans_le h.left_le, ?_⟩
      exact { h.withMicrophone hholds hqueue.le with left_le := Nat.le_refl _ }
  | error failure =>
      exact ⟨h.withMicrophone hholds hends.1, hends.2.imp_right (And.imp_right Or.inl)⟩

def listenFor (seconds : Quantity) : Action Session Chunk := do
  if ← nextInterruption then
    let _ ← onMicrophone (MicrophoneSystem.openWindow seconds)
    throw interrupted
  onMicrophone (MicrophoneSystem.capture seconds)

omit hwait in
theorem capture_eq :
    capture maxSeconds = (do
      deliverAll (← nextBlocks)
      listenFor maxSeconds) := rfl

theorem leads_listenFor :
    (listenFor maxSeconds).Leads (Attends equipment settings windows left false)
      (Captures equipment settings windows left
        (Window.refusal? (MicrophoneSystem.windowRequest settings maxSeconds))) := by
  refine .bind_safe safe_nextInterruption (fun _ => False.elim) fun interruption hoffered => ?_
  -- an interruption comes only after the window is open, so a refusal is met before it
  split
  · rename_i hinterruption
    refine .bind_safe (safe_openWindow maxSeconds)
      (fun failure hrefused session h => ⟨h, Or.inl hrefused⟩) fun _ hopens => ?_
    have hmem : true ∈ equipment.interruptions := by
      rcases hoffered with hfalse | hmem
      · cases hinterruption.symm.trans hfalse
      · exact hinterruption ▸ hmem
    exact fun session h => ⟨h, Or.inr ⟨hopens, Or.inr ⟨rfl, Or.inl hmem⟩⟩⟩
  · exact leads_fill hwait maxSeconds

/-- A capture fails in a way that is not handled exactly if its window cannot be
created, and it takes a block if it returns. -/
theorem leads_capture :
    (capture maxSeconds).Leads (Attends equipment settings windows left false)
      (Captures equipment settings windows.tail left
        (Window.refusal? (MicrophoneSystem.windowRequest settings maxSeconds))) := by
  rw [capture_eq]
  refine .bind (fun blocks session => ∃ rest, rest + blocks.length ≤ left ∧
      session.Attends equipment settings windows.tail rest false)
    (leads_nextBlocks.mono (fun _ => id) ?_) fun blocks =>
      .for_some fun rest => .assuming fun hrest => ?_
  · rintro _ session ⟨rfl, h⟩
    exact h
  · refine .bind (fun _ => Attends equipment settings windows.tail left false)
      ((leads_deliverAll blocks).mono (fun _ => id) ?_) fun _ => leads_listenFor hwait maxSeconds
    rintro _ session ⟨rfl, h⟩
    exact h.mono_left hrest

end

end

end Session

end SpokenCalculator
