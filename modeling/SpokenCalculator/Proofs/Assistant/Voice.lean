import SpokenCalculator.Proofs.Assistant.Abreast
import SpokenCalculator.Proofs.Assistant.Hearing

namespace SpokenCalculator

open SpokenCalculator.Action

variable {σ τ υ α β : Type}

/-- What the assistant hears with. It may also be stopped by what it hears. -/
structure Ears (σ : Type) where
  capture : Quantity → Action (Surroundings σ) Chunk
  transcribe : Chunk → Action (Surroundings σ) Transcript

structure Voice (τ : Type) where
  mute : Action τ Unit
  unmute : Action τ Unit
  speak : Stage → Option MonitorTimes → String → Action τ SpeechOutcome

namespace Voice

/-- Muting and unmuting return, and a speech fails only as a speaker does. -/
structure Faithful (voice : Voice τ) : Prop where
  mute : voice.mute.Safe anything anything never
  unmute : voice.unmute.Safe anything anything never
  speak (stage : Stage) (interruption : Option MonitorTimes) (text : String) :
    (voice.speak stage interruption text).Safe anything anything (·.kind.isA .speaker)

def within (action : Action τ α) : Action (Surroundings (σ × τ)) α :=
  action.within (·.world.2) fun world surroundings =>
    { surroundings with world := (surroundings.world.1, world) }

end Voice

namespace Ears

def surroundings (surroundings : Surroundings (σ × τ)) : Surroundings σ :=
  ⟨surroundings.running, surroundings.world.1⟩

def within (action : Action (Surroundings σ) α) : Action (Surroundings (σ × τ)) α :=
  action.within surroundings fun changed surroundings =>
    ⟨changed.running, (changed.world, surroundings.world.2)⟩

def withVoice (ears : Ears σ) (voice : Voice τ) : Collaborators (σ × τ) where
  capture seconds := within (ears.capture seconds)
  transcribe chunk := within (ears.transcribe chunk)
  mute := Voice.within voice.mute
  unmute := Voice.within voice.unmute
  speak stage interruption text := Voice.within (voice.speak stage interruption text)

end Ears

def TurnResult.EndsAs (result other : TurnResult) : Prop := result.isFatal = other.isFatal

/-- What is seen of an assistant when its voice is left out. -/
structure Attention (σ : Type) where
  mind : Mind
  heard : List String
  ears : Surroundings σ

namespace Assistant

def attention (assistant : Assistant (Recording (σ × τ))) : Attention σ where
  mind := assistant.mind
  heard := heardIn assistant.calls
  ears := Ears.surroundings (Recording.unrecorded assistant.surroundings)

section

variable {view : Attention σ}

theorem safe_noted_voice (note : Bool → Except Failure α → Call) (muting : Bool → Bool)
    {action : Action τ α} {fails : Failure → Prop} (h : action.Safe anything anything fails)
    (hheard : ∀ muted outcome, (note muted outcome).heard? = none) :
    (ask (Recording.noted note muting (Voice.within action))).Safe
      (fun assistant : Assistant (Recording (σ × τ)) => assistant.attention = view) anything
      fails := by
  rintro assistant rfl
  refine ⟨?_, (h assistant.surroundings.world.world.2 trivial).2⟩
  refine congrArg (Attention.mk assistant.mind · _) ?_
  rw [calls_noted, heardIn_append, heardIn, heardIn, List.filterMap_cons, hheard]
  exact List.append_nil _

theorem saysWithin_voice (ears : Ears σ) {voice : Voice τ} (h : voice.Faithful) :
    (ears.withVoice voice).recorded.SaysWithin (fun assistant => assistant.attention = view)
      (fun assistant => assistant.attention = view) never where
  stage _ _ hview := hview
  mute :=
    (safe_noted_voice (fun _ _ => .mute) (fun _ => true) h.mute fun _ _ => rfl).leads_ends
  unmute := safe_noted_voice (fun _ _ => .unmute) (fun _ => false) h.unmute fun _ _ => rfl
  speak stage interruption text :=
    (safe_noted_voice (fun muted => .speak muted stage text) id (h.speak stage interruption text)
      fun _ _ => rfl).mono (fun _ => id) fun _ => Or.inr

end

section

variable (note : Bool → Except Failure α → Call) {text : Except Failure α → Option String}
  (hheard : ∀ muted outcome, (note muted outcome).heard? = text outcome)
  (action : Action (Surroundings σ) α)

include hheard

theorem attention_noted_ears (assistant : Assistant (Recording (σ × τ))) :
    ((ask (Recording.noted note id (Ears.within action))).perform assistant).2.attention =
      ⟨assistant.attention.mind,
        assistant.attention.heard ++ (text (action.perform assistant.attention.ears).1).toList,
        (action.perform assistant.attention.ears).2⟩ := by
  refine congrArg (Attention.mk assistant.mind · _) ?_
  rw [calls_noted, heardIn_append, heardIn, heardIn, List.filterMap_cons, hheard]
  rfl

/-- What a call to the ears does is seen, and depends on nothing that is not. -/
theorem lockstep_noted_ears :
    Lockstep (attention : Assistant (Recording (σ × τ)) → Attention σ)
      (attention : Assistant (Recording (σ × υ)) → Attention σ) Eq
      (ask (Recording.noted note id (Ears.within action)))
      (ask (Recording.noted note id (Ears.within action))) := by
  intro first second hsame
  refine ⟨?_, ?_⟩
  · rw [attention_noted_ears note hheard, attention_noted_ears note hheard, hsame]
  · change Matches Eq (action.perform first.attention.ears).1
      (action.perform second.attention.ears).1
    rw [hsame]
    exact .refl _

end

theorem lockstep_setRunning (running : Bool) :
    Lockstep (attention : Assistant (Recording (σ × τ)) → Attention σ)
      (attention : Assistant (Recording (σ × υ)) → Attention σ) Eq (setRunning running)
      (setRunning running) :=
  .change fun _ _ hsame => congrArg
    (fun view : Attention σ => { view with ears := { view.ears with running } }) hsame

section

variable {settings other : Settings} (hears : settings.HearsAs other) (ears : Ears σ)
  {voice : Voice τ} {another : Voice υ} (hvoice : voice.Faithful) (hanother : another.Faithful)

include hvoice hanother

theorem lockstep_respond (text : String) :
    Lockstep attention attention TurnResult.EndsAs
      (respond settings (ears.withVoice voice).recorded text)
      (respond other (ears.withVoice another).recorded text) := by
  have hlockstep := Lockstep.of_safe
    (fun _ => safe_respond_of_saysWithin settings (saysWithin_voice ears hvoice) text)
    (fun _ => safe_respond_of_saysWithin other (saysWithin_voice ears hanother) text)
  exact hlockstep.mono fun _ _ hresults => hresults.1.trans hresults.2.symm

include hears

theorem abreast_withVoice :
    Abreast attention attention TurnResult.EndsAs settings other
      (ears.withVoice voice).recorded (ears.withVoice another).recorded where
  engine := congrArg fun view : Attention σ => view.mind.engine
  armed := congrArg fun view : Attention σ => view.mind.armed
  running := congrArg fun view : Attention σ => view.ears.running
  withStage _ _ _ hsame := hsame
  withEngine engine _ _ :=
    congrArg fun view : Attention σ => { view with mind := ⟨engine, view.mind.armed⟩ }
  withArmed armed _ _ :=
    congrArg fun view : Attention σ => { view with mind := ⟨view.mind.engine, armed⟩ }
  toHearsAs := hears
  refl _ := rfl
  isFatal hends := hends
  capture seconds := lockstep_noted_ears .capture (fun _ _ => rfl) (ears.capture seconds)
  transcribe chunk :=
    lockstep_noted_ears (fun muted => .transcribe muted chunk) (fun _ _ => rfl)
      (ears.transcribe chunk)
  respond := lockstep_respond ears hvoice hanother

theorem lockstep_run (limit : Nat) :
    Lockstep attention attention (fun _ _ => True)
      (run settings (ears.withVoice voice).recorded limit)
      (run other (ears.withVoice another).recorded limit) := by
  have habreast := abreast_withVoice hears ears hvoice hanother
  have hturns := ((lockstep_turns habreast limit .none).mono fun _ _ _ => trivial).ensuring
    ((lockstep_setRunning false).bind fun _ _ _ => lockstep_setStage habreast .idle)
  refine .bind (lockstep_setRunning true) fun _ _ _ =>
    .bind (lockstep_setStage habreast .idle) fun _ _ _ => ?_
  dsimp only
  split
  · refine .bind_left (fun _ => safe_say_of_saysWithin settings (saysWithin_voice ears hvoice) _)
      fun _ => ?_
    split
    · exact .bind_right (fun _ => safe_say_of_saysWithin other (saysWithin_voice ears hanother) _)
        fun _ => hturns
    · exact hturns
  · split
    · exact .bind_right (fun _ => safe_say_of_saysWithin other (saysWithin_voice ears hanother) _)
        fun _ => hturns
    · exact hturns

end

/-- The engine after a run has evaluated the phrases that were taken, each once
and in their order, however the collaborators fail. With the same ears, neither
another voice nor other settings of the voice change the engine, the texts that
are heard and the phrases among them that are taken, nor how the run ends. -/
theorem run_evaluates_once (settings : Settings) (limit : Nat) (engine : Engine) (armed : Bool) :
    (∀ {σ : Type} (collaborators : Collaborators σ) (world : σ),
      let start := awaiting engine armed world
      let (outcome, after) := (run settings collaborators.recorded limit).perform start
      (run settings collaborators limit).perform start.unrecorded = (outcome, after.unrecorded) ∧
        after.engine = (WakeWord.accepted settings.wakeWords armed (heardIn after.calls)).foldl
          Engine.follow engine) ∧
    ∀ {σ τ υ : Type} (ears : Ears σ) (voice : Voice τ) (another : Voice υ) (other : Settings)
      (world : σ) (speaker : τ) (otherSpeaker : υ),
      settings.HearsAs other → voice.Faithful → another.Faithful →
      let first := (run settings (ears.withVoice voice).recorded limit).perform
        (awaiting engine armed (world, speaker))
      let second := (run other (ears.withVoice another).recorded limit).perform
        (awaiting engine armed (world, otherSpeaker))
      first.2.engine = second.2.engine ∧ first.2.armed = second.2.armed ∧
        heardIn first.2.calls = heardIn second.2.calls ∧
        WakeWord.accepted settings.wakeWords armed (heardIn first.2.calls) =
          WakeWord.accepted other.wakeWords armed (heardIn second.2.calls) ∧
        Matches (fun _ _ => True) first.1 second.1 := by
  refine ⟨fun collaborators world => ⟨?_, ?_⟩, ?_⟩
  · exact mirrors_run settings collaborators limit (awaiting engine armed world)
  · have hfollows : Follows settings.wakeWords ⟨engine, armed⟩
        ((run settings collaborators.recorded limit).perform (awaiting engine armed world)).2 :=
      (safe_run_follows settings collaborators limit (awaiting engine armed world) rfl).1
    rw [← Mind.foldl_hear settings.wakeWords ⟨engine, armed⟩]
    exact congrArg Mind.engine hfollows
  · intro σ τ υ ears voice another other world speaker otherSpeaker hears hvoice hanother
    dsimp only
    obtain ⟨hsame, hmatch⟩ := lockstep_run hears ears hvoice hanother limit
      (awaiting engine armed (world, speaker)) (awaiting engine armed (world, otherSpeaker)) rfl
    have hmind := congrArg Attention.mind hsame
    have hheard := congrArg Attention.heard hsame
    refine ⟨congrArg Mind.engine hmind, congrArg Mind.armed hmind, hheard, ?_, hmatch⟩
    rw [hears.wakeWords]
    exact congrArg _ hheard

/-- Ears to which the transcriber gives one result after the other, until the
microphone fails. -/
def reciting : Ears (List (Except Failure Transcript)) where
  capture _ := .ofFunction fun surroundings =>
    if surroundings.world.isEmpty then (.error ⟨.device, "unplugged"⟩, surroundings)
    else (.ok (Chunk.ofSamples [] 16000), surroundings)
  transcribe _ := .ofFunction fun surroundings =>
    match surroundings.world with
    | [] => (.ok .silence, surroundings)
    | result :: rest => (result, { surroundings with world := rest })

def ending (outcome : Except Failure SpeechOutcome) : Voice Unit where
  mute := pure ()
  unmute := pure ()
  speak _ _ _ := .ofResult outcome

theorem faithful_ending {outcome : Except Failure SpeechOutcome}
    (h : Ends anything (·.kind.isA .speaker) outcome) : (ending outcome).Faithful where
  mute := .pure trivial
  unmute := .pure trivial
  speak _ _ _ := .ofResult h

/-- A wake word on its own, a failure of the transcriber, a sum without a wake
word and one that is not addressed to the assistant. -/
def recital : List (Except Failure Transcript) :=
  [.ok ⟨some "Calculator!"⟩, .error ⟨.transcriber, "noise"⟩, .ok ⟨some "one plus one"⟩,
    .ok ⟨some "plus seven"⟩]

def recitalSettings (bargeIn : Bool) (greeting : String) : Settings :=
  ⟨.speech, .whole 30, .whole 4, .whole 3, bargeIn, .whole 1, .whole 1, .whole 1,
    Settings.usualWakeWords, greeting, 1, 4, none⟩

def runRecital (settings : Settings) (outcome : Except Failure SpeechOutcome) :=
  (run settings (reciting.withVoice (ending outcome)).recorded 5).perform
    (awaiting (.fresh none) false (recital, ()))

/-- One assistant has no voice, the other one greets and is always interrupted.
Both have two in memory. -/
theorem run_evaluates_once_voiceless :
    (recitalSettings false "").HearsAs (recitalSettings true "Hello.") ∧
      (ending (.error ⟨.speaker, "no voice"⟩)).Faithful ∧ (ending (.ok .cancelled)).Faithful ∧
      (runRecital (recitalSettings false "") (.error ⟨.speaker, "no voice"⟩)).2.engine =
        (runRecital (recitalSettings true "Hello.") (.ok .cancelled)).2.engine ∧
      (runRecital (recitalSettings true "Hello.") (.ok .cancelled)).2.engine.memory =
        .finite false 2 0 := by
  have hears : (recitalSettings false "").HearsAs (recitalSettings true "Hello.") :=
    ⟨rfl, rfl, rfl, rfl⟩
  have hvoice : (ending (.error ⟨.speaker, "no voice"⟩)).Faithful := faithful_ending rfl
  have hanother : (ending (.ok .cancelled)).Faithful := faithful_ending trivial
  have hmemory : (runRecital (recitalSettings true "Hello.") (.ok .cancelled)).2.engine.memory =
      .finite false 2 0 := by decide +kernel
  have hsame := (run_evaluates_once (recitalSettings false "") 5 (.fresh none) false).2 reciting _ _
    (recitalSettings true "Hello.") recital () () hears hvoice hanother
  refine ⟨hears, hvoice, hanother, ?_, hmemory⟩
  rw [runRecital, runRecital]
  exact hsame.1

end Assistant

end SpokenCalculator
