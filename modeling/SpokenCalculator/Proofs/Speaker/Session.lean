import SpokenCalculator.Proofs.Action
import SpokenCalculator.Speaker

/-!
# Sessions of a speaker

A session interleaves the steps of the thread that speaks, one utterance after
another, with cancellations from any thread. Within an utterance the engine is
handed texts, takes its queue and starts words as it likes, and it may fail.
Before a word the speaking thread looks for a cancellation, and stops the engine
in a step of its own. To speak is one such run.
-/

namespace SpokenCalculator

namespace SpeakerSystem

def queued (interference : Interference) (text : String) (system : SpeakerSystem) :
    SpeakerSystem :=
  enqueue interference text { system with speaker := .begun }

theorem perform_runQueue (interference : Interference) (system : SpeakerSystem) :
    (runQueue interference).perform system =
      let taken := cancelIf interference.cancelOnStart { system with queue := [] }
      match interference.failure with
      | some failure => (.error failure, taken)
      | none => (.ok (), utter interference 0 (wordsOf system.queue) taken) := by
  obtain ⟨failure, cancelOnQueueing, cancelOnStart, cancelAfterWords⟩ := interference
  cases failure <;> rfl

theorem perform_speakWith (engine : SpeechEngine) (interference : Interference) (text : String)
    (system : SpeakerSystem) :
    (speakWith engine interference text).perform system =
      match (engine interference).perform (queued interference text system) with
      | (.ok (), after) => (.ok after.speaker.close.1, { after with speaker := .idle })
      | (.error failure, after) =>
          (.error (speechFailure failure), { after with speaker := .idle }) := by
  rw [speakWith, Action.perform_bind]
  change (Action.change (enqueue interference text) >>= _).perform _ = _
  rw [Action.perform_bind]
  change (Action.attempt (engine interference) >>= _).perform (queued interference text system) = _
  rw [Action.perform_bind_attempt]
  generalize (engine interference).perform (queued interference text system) = outcome
  obtain ⟨result, after⟩ := outcome
  cases result <;> rfl

end SpeakerSystem

inductive SpeakerMove where
  | begin
  | enqueue (text : String)
  | takeQueue
  | word (word : String)
  | stop
  | close (failure : Option Failure)
  | cancel

inductive SpeakerOccurrence where
  | begun (utterance : Nat)
  | cancelled
  | stopped (utterance : Nat)
  | closed (utterance : Nat) (result : Except Failure SpeechOutcome)

/-- Where the speaking thread stands: between utterances, within one, or before
it stops the engine. -/
inductive SpeakerStage where
  | silent
  | speaking
  | stopping
  deriving DecidableEq

/-- The number of the utterances that are closed is that of the present one. The
last occurrence comes first. -/
structure SpeakerSession where
  system : SpeakerSystem
  stage : SpeakerStage
  utterance : Nat
  history : List SpeakerOccurrence

namespace SpeakerSession

def initial (queue : List String) (events : List SpeechEvent) : SpeakerSession :=
  ⟨⟨.idle, queue, events⟩, .silent, 0, []⟩

def note (occurrence : SpeakerOccurrence) (session : SpeakerSession) : SpeakerSession :=
  { session with history := occurrence :: session.history }

def changeAt (stage : SpeakerStage) (change : SpeakerSystem → SpeakerSystem)
    (session : SpeakerSession) : SpeakerSession :=
  if session.stage = stage then { session with system := change session.system } else session

def begin (session : SpeakerSession) : SpeakerSession :=
  if session.stage = .silent then
    note (.begun session.utterance)
      { session with system := { session.system with speaker := .begun }, stage := .speaking }
  else session

def word (word : String) (session : SpeakerSession) : SpeakerSession :=
  if session.stage = .speaking then
    if session.system.speaker.cancelling then { session with stage := .stopping }
    else { session with system := session.system.emit (.word word) }
  else session

def stop (session : SpeakerSession) : SpeakerSession :=
  if session.stage = .stopping then
    note (.stopped session.utterance)
      { session with system := session.system.emit .stopped, stage := .speaking }
  else session

def resultOf (failure : Option Failure) (outcome : SpeechOutcome) : Except Failure SpeechOutcome :=
  failure.elim (.ok outcome) fun failure => .error (SpeakerSystem.speechFailure failure)

def close (failure : Option Failure) (session : SpeakerSession) : SpeakerSession :=
  if session.stage = .speaking then
    let (outcome, speaker) := session.system.speaker.close
    note (.closed session.utterance (resultOf failure outcome))
      { session with
        system := { session.system with speaker }
        stage := .silent
        utterance := session.utterance + 1 }
  else session

def cancel (session : SpeakerSession) : SpeakerSession :=
  note .cancelled { session with system := session.system.cancel }

def step (session : SpeakerSession) : SpeakerMove → SpeakerSession
  | .begin => session.begin
  | .enqueue text =>
      session.changeAt .speaking fun system => { system with queue := system.queue ++ [text] }
  | .takeQueue => session.changeAt .speaking fun system => { system with queue := [] }
  | .word text => session.word text
  | .stop => session.stop
  | .close failure => session.close failure
  | .cancel => session.cancel

def run : SpeakerSession → List SpeakerMove → SpeakerSession := List.foldl step

/-- The session can come to another state of the system while the utterance goes
on. -/
def Reaches (session : SpeakerSession) (system : SpeakerSystem) : Prop :=
  ∃ moves history, session.run moves = { session with system, history }

namespace Reaches

variable {session : SpeakerSession} {system last : SpeakerSystem}

theorem refl (session : SpeakerSession) : session.Reaches session.system :=
  ⟨[], session.history, rfl⟩

theorem trans (h : session.Reaches system)
    (hnext : ∀ history, ({ session with system, history } : SpeakerSession).Reaches last) :
    session.Reaches last := by
  obtain ⟨moves, history, hrun⟩ := h
  obtain ⟨further, final, hfurther⟩ := hnext history
  refine ⟨moves ++ further, final, ?_⟩
  unfold run at *
  rw [List.foldl_append, hrun, hfurther]

theorem of_step (move : SpeakerMove) {history : List SpeakerOccurrence}
    (h : session.step move = { session with system, history }) : session.Reaches system :=
  ⟨[move], history, h⟩

theorem cancelIf (condition : Bool) (session : SpeakerSession) :
    session.Reaches (session.system.cancelIf condition) := by
  cases condition with
  | false => exact .refl session
  | true => exact .of_step .cancel rfl

end Reaches

open SpeakerSystem (enqueue perform_runQueue perform_speakWith queued runQueue speak utter wordsOf)

section

variable {session : SpeakerSession} (hspeaking : session.stage = .speaking)

include hspeaking

theorem reaches_enqueue (interference : Interference) (text : String) :
    session.Reaches (enqueue interference text session.system) := by
  have hqueued : session.step (.enqueue text) =
      { session with
        system := { session.system with queue := session.system.queue ++ [text] } } :=
    if_pos hspeaking
  exact (Reaches.of_step (.enqueue text) hqueued).trans fun _ => .cancelIf _ _

theorem reaches_takeQueue (interference : Interference) :
    session.Reaches (SpeakerSystem.cancelIf interference.cancelOnStart
      { session.system with queue := [] }) := by
  have htaken : session.step .takeQueue =
      { session with system := { session.system with queue := [] } } := if_pos hspeaking
  exact (Reaches.of_step .takeQueue htaken).trans fun _ => .cancelIf _ _

theorem reaches_stopped (word : String) (hcancelling : session.system.speaker.cancelling = true) :
    session.Reaches (session.system.emit .stopped) := by
  have hstopping : session.step (.word word) = { session with stage := .stopping } := by
    simp [step, SpeakerSession.word, hspeaking, hcancelling]
  refine ⟨[.word word, .stop], .stopped session.utterance :: session.history, ?_⟩
  change (session.step (.word word)).step .stop = _
  rw [hstopping]
  simp [step, stop, note, hspeaking]

end

theorem reaches_utter (interference : Interference) (number : Nat) (words : List String)
    {session : SpeakerSession} (hspeaking : session.stage = .speaking) :
    session.Reaches (utter interference number words session.system) := by
  -- the session is general, as each word and each cancellation adds to its history
  induction words generalizing number session with
  | nil => exact .refl session
  | cons word rest ih =>
      rw [utter]
      split
      · rename_i hcancelling
        exact reaches_stopped hspeaking word hcancelling
      · rename_i hcancelling
        have hword : session.step (.word word) =
            { session with system := session.system.emit (.word word) } := by
          simp [step, SpeakerSession.word, hspeaking, hcancelling]
        refine (Reaches.of_step (.word word) hword).trans fun history => ?_
        refine (Reaches.cancelIf (interference.cancelAfterWords.contains number) _).trans
          fun further => ?_
        exact ih (number + 1) hspeaking

theorem perform_speak (interference : Interference) (text : String) (system : SpeakerSystem) :
    (speak interference text).perform system =
      let spoken := ((runQueue interference).perform (queued interference text system)).2
      (resultOf interference.failure spoken.speaker.close.1,
        { spoken with speaker := spoken.speaker.close.2 }) := by
  rw [speak, perform_speakWith, perform_runQueue]
  cases interference.failure <;> rfl

theorem reaches_runQueue (interference : Interference) {session : SpeakerSession}
    (hspeaking : session.stage = .speaking) :
    session.Reaches ((runQueue interference).perform session.system).2 := by
  have htaken := reaches_takeQueue hspeaking interference
  rw [perform_runQueue]
  cases interference.failure with
  | some failure => exact htaken
  | none => exact htaken.trans fun _ => reaches_utter interference 0 _ hspeaking

/-- To speak a text is a run of the session from one silence to the next. The
result of speaking is what the session closes with. -/
theorem exists_run_eq_speak (interference : Interference) (text : String) {session : SpeakerSession}
    (hsilent : session.stage = .silent) :
    ∃ moves history, session.run moves =
      { system := ((speak interference text).perform session.system).2
        stage := .silent
        utterance := session.utterance + 1
        history :=
          .closed session.utterance ((speak interference text).perform session.system).1 ::
            history } := by
  let opened : SpeakerSession :=
    { session with
      system := { session.system with speaker := .begun }
      stage := .speaking
      history := .begun session.utterance :: session.history }
  have hopened : session.step .begin = opened := if_pos hsilent
  have hqueued : opened.Reaches (enqueue interference text opened.system) :=
    reaches_enqueue rfl interference text
  have hspoken : opened.Reaches
      ((runQueue interference).perform (enqueue interference text opened.system)).2 :=
    hqueued.trans fun _ => reaches_runQueue interference rfl
  obtain ⟨moves, history, hrun⟩ := hspoken
  refine ⟨.begin :: moves ++ [.close interference.failure], history, ?_⟩
  unfold run at *
  rw [List.foldl_append, List.foldl_cons, List.foldl_cons, hopened, hrun, perform_speak]
  rfl

end SpeakerSession

end SpokenCalculator
