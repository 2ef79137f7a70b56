import Mathlib.Data.List.DropRight
import SpokenCalculator.Proofs.Speaker.Session

namespace SpokenCalculator

/-- The interference with an utterance tells also whether the engine fails. -/
inductive SpeakerCall where
  | speak (interference : Interference) (text : String)
  | cancel

namespace SpeakerCall

def text? : SpeakerCall → Option String
  | .speak _ text => some text
  | .cancel => none

def isSpoken : SpeakerCall → Bool
  | .speak interference _ => interference.failure.isNone
  | .cancel => false

/-- The texts of the utterances since the last one that did not fail. -/
def unspoken (calls : List SpeakerCall) : List String :=
  (calls.rtakeWhile fun call => !call.isSpoken).filterMap text?

theorem unspoken_concat (calls : List SpeakerCall) (call : SpeakerCall) :
    unspoken (calls ++ [call]) =
      if call.isSpoken then [] else unspoken calls ++ call.text?.toList := by
  cases hspoken : call.isSpoken with
  | true => simp [unspoken, hspoken]
  | false =>
      have htaken : List.rtakeWhile (fun call => !call.isSpoken) (calls ++ [call]) =
          calls.rtakeWhile (fun call => !call.isSpoken) ++ [call] :=
        List.rtakeWhile_concat_pos _ _ _ (by simp [hspoken])
      rw [unspoken, htaken, List.filterMap_append]
      cases call <;> rfl

end SpeakerCall

namespace SpeakerSystem

/-- Let an engine speak its queue that keeps it if it fails. -/
def runKeeping (interference : Interference) : Action SpeakerSystem Unit := do
  Action.change (cancelIf interference.cancelOnStart)
  Action.ofResult (interference.failure.elim (.ok ()) .error)
  Action.change fun system =>
    { utter interference 0 (wordsOf system.queue) system with queue := [] }

def call (engine : SpeechEngine) (system : SpeakerSystem) : SpeakerCall → SpeakerSystem
  | .speak interference text => ((speakWith engine interference text).perform system).2
  | .cancel => system.cancel

def callAll (engine : SpeechEngine) : SpeakerSystem → List SpeakerCall → SpeakerSystem :=
  List.foldl (call engine)

def said (words : List String) : List SpeechEvent := (words.map .word).reverse

theorem queue_cancelIf (condition : Bool) (system : SpeakerSystem) :
    (system.cancelIf condition).queue = system.queue := by
  cases condition <;> rfl

theorem events_cancelIf (condition : Bool) (system : SpeakerSystem) :
    (system.cancelIf condition).events = system.events := by
  cases condition <;> rfl

theorem queue_utter (interference : Interference) (number : Nat) (words : List String)
    (system : SpeakerSystem) :
    (utter interference number words system).queue = system.queue := by
  induction words generalizing number system with
  | nil => rfl
  | cons word rest ih =>
      rw [utter]
      split
      · rfl
      · rw [ih, queue_cancelIf]
        rfl

theorem events_utter (interference : Interference) (number : Nat) (words : List String)
    (system : SpeakerSystem)
    (h : (utter interference number words system).speaker.cancelling = false) :
    (utter interference number words system).events = said words ++ system.events := by
  induction words generalizing number system with
  | nil => rfl
  | cons word rest ih =>
      rw [utter] at h ⊢
      split at h
      · rename_i hcancelling
        cases hcancelling.symm.trans h
      · rename_i hcancelling
        rw [if_neg hcancelling, ih (number + 1) _ h, events_cancelIf]
        simp [said, emit]

theorem perform_runKeeping (interference : Interference) (system : SpeakerSystem) :
    (runKeeping interference).perform system =
      let begun := system.cancelIf interference.cancelOnStart
      match interference.failure with
      | some failure => (.error failure, begun)
      | none =>
          (.ok (), { utter interference 0 (wordsOf begun.queue) begun with queue := [] }) := by
  obtain ⟨failure, cancelOnQueueing, cancelOnStart, cancelAfterWords⟩ := interference
  cases failure <;> rfl

/-- What an engine does in any case: if it fails, nothing is spoken, and if it
does not, its queue is empty afterwards and was spoken unless this was
cancelled. -/
structure Serves (engine : SpeechEngine) : Prop where
  fails {interference : Interference} {failure : Failure}
    (h : interference.failure = some failure) (system : SpeakerSystem) :
    ((engine interference).perform system).1 = .error failure ∧
      ((engine interference).perform system).2.events = system.events
  speaks {interference : Interference} (h : interference.failure = none)
    (system : SpeakerSystem) :
    ((engine interference).perform system).1 = .ok () ∧
      ((engine interference).perform system).2.queue = [] ∧
      (((engine interference).perform system).2.speaker.cancelling = false →
        ((engine interference).perform system).2.events =
          said (wordsOf system.queue) ++ system.events)

theorem serves_runQueue : Serves runQueue where
  fails h system := by
    rw [perform_runQueue, h]
    exact ⟨rfl, events_cancelIf _ _⟩
  speaks h system := by
    rw [perform_runQueue, h]
    refine ⟨rfl, ?_, fun hcancelling => ?_⟩
    · exact (queue_utter _ _ _ _).trans (queue_cancelIf _ _)
    · exact (events_utter _ _ _ _ hcancelling).trans (congrArg _ (events_cancelIf _ _))

theorem serves_runKeeping : Serves runKeeping where
  fails h system := by
    rw [perform_runKeeping, h]
    exact ⟨rfl, events_cancelIf _ _⟩
  speaks {interference} h system := by
    rw [perform_runKeeping, h]
    refine ⟨rfl, rfl, fun hcancelling => ?_⟩
    rw [← events_cancelIf interference.cancelOnStart system,
      ← queue_cancelIf interference.cancelOnStart system]
    exact events_utter _ _ _ _ hcancelling

theorem queue_runKeeping_of_fails {interference : Interference} {failure : Failure}
    (h : interference.failure = some failure) (system : SpeakerSystem) :
    ((runKeeping interference).perform system).2.queue = system.queue := by
  simp only [perform_runKeeping, h]
  exact queue_cancelIf _ _

theorem queue_runQueue (interference : Interference) (system : SpeakerSystem) :
    ((runQueue interference).perform system).2.queue = [] := by
  rw [perform_runQueue]
  cases interference.failure with
  | some failure => exact queue_cancelIf _ _
  | none => exact (queue_utter _ _ _ _).trans (queue_cancelIf _ _)

section

variable (interference : Interference) (text : String) (system : SpeakerSystem)

theorem queue_queued : (queued interference text system).queue = system.queue ++ [text] :=
  queue_cancelIf _ _

theorem events_queued : (queued interference text system).events = system.events :=
  events_cancelIf _ _

end

section

variable {engine : SpeechEngine} {interference : Interference} {text : String}
  {system : SpeakerSystem}

theorem Serves.speakWith_of_fails (h : Serves engine) {failure : Failure}
    (hfailure : interference.failure = some failure) :
    ((speakWith engine interference text).perform system).1 = .error (speechFailure failure) ∧
      ((speakWith engine interference text).perform system).2.events = system.events ∧
      ((speakWith engine interference text).perform system).2.queue =
        ((engine interference).perform (queued interference text system)).2.queue := by
  obtain ⟨hresult, hevents⟩ := h.fails hfailure (queued interference text system)
  rw [events_queued] at hevents
  rw [perform_speakWith]
  generalize (engine interference).perform (queued interference text system) = outcome at *
  obtain ⟨result, after⟩ := outcome
  obtain rfl : result = .error failure := hresult
  exact ⟨rfl, hevents, rfl⟩

theorem Serves.speakWith_of_not_fails (h : Serves engine) (hfailure : interference.failure = none) :
    ((speakWith engine interference text).perform system).2.queue = [] ∧
      (((speakWith engine interference text).perform system).1 = .ok .completed →
        ((speakWith engine interference text).perform system).2.events =
          said (wordsOf (system.queue ++ [text])) ++ system.events) := by
  obtain ⟨hresult, hqueue, hspoken⟩ := h.speaks hfailure (queued interference text system)
  rw [events_queued, queue_queued] at hspoken
  rw [perform_speakWith]
  generalize (engine interference).perform (queued interference text system) = outcome at *
  obtain ⟨result, after⟩ := outcome
  obtain rfl : result = .ok () := hresult
  refine ⟨hqueue, fun hcompleted => hspoken ?_⟩
  by_contra hcancelling
  simp [Speaker.close, hcancelling] at hcompleted

theorem Serves.speakWith_of_completed (h : Serves engine)
    (hcompleted : ((speakWith engine interference text).perform system).1 = .ok .completed) :
    ((speakWith engine interference text).perform system).2.events =
      said (wordsOf (system.queue ++ [text])) ++ system.events := by
  cases hfailure : interference.failure with
  | some failure => cases (h.speakWith_of_fails hfailure).1.symm.trans hcompleted
  | none => exact (h.speakWith_of_not_fails hfailure).2 hcompleted

end

theorem callAll_concat (engine : SpeechEngine) (system : SpeakerSystem) (calls : List SpeakerCall)
    (last : SpeakerCall) :
    callAll engine system (calls ++ [last]) = call engine (callAll engine system calls) last :=
  List.foldl_concat ..

theorem queue_callAll_runQueue (calls : List SpeakerCall) :
    (callAll runQueue initial calls).queue = [] := by
  induction calls using List.reverseRecOn with
  | nil => rfl
  | append_singleton calls last ih =>
      rw [callAll_concat]
      cases last with
      | speak interference text =>
          cases hfailure : interference.failure with
          | some failure =>
              exact (serves_runQueue.speakWith_of_fails hfailure).2.2.trans (queue_runQueue _ _)
          | none => exact (serves_runQueue.speakWith_of_not_fails hfailure).1
      | cancel => exact ih

open SpeakerCall (unspoken unspoken_concat)

/-- The engine that keeps its queue when it fails leaves the texts that are still
to be spoken. -/
theorem queue_callAll_runKeeping (calls : List SpeakerCall) :
    (callAll runKeeping initial calls).queue = unspoken calls := by
  induction calls using List.reverseRecOn with
  | nil => rfl
  | append_singleton calls last ih =>
      rw [callAll_concat]
      generalize callAll runKeeping initial calls = system at ih ⊢
      cases last with
      | speak interference text =>
          cases hfailure : interference.failure with
          | some failure =>
              have hspoken : (SpeakerCall.speak interference text).isSpoken = false :=
                congrArg Option.isNone hfailure
              calc
                _ = ((runKeeping interference).perform (queued interference text system)).2.queue :=
                  (serves_runKeeping.speakWith_of_fails hfailure).2.2
                _ = unspoken calls ++ [text] := by
                  rw [queue_runKeeping_of_fails hfailure, queue_queued, ih]
                _ = unspoken (calls ++ [.speak interference text]) := by
                  rw [unspoken_concat, hspoken]
                  rfl
          | none =>
              have hspoken : (SpeakerCall.speak interference text).isSpoken = true :=
                congrArg Option.isNone hfailure
              rw [unspoken_concat, hspoken]
              exact (serves_runKeeping.speakWith_of_not_fails hfailure).1
      | cancel =>
          rw [unspoken_concat]
          exact ih.trans (List.append_nil _).symm

theorem speaker_utter_absent (number : Nat) (words : List String) {system : SpeakerSystem}
    (h : system.speaker.cancelling = false) :
    (utter .absent number words system).speaker = system.speaker := by
  induction words generalizing number system with
  | nil => rfl
  | cons word rest ih =>
      rw [utter, h]
      exact ih (number + 1) h

/-- An utterance that nobody cancels is completed if the engine does not fail. -/
theorem speakWith_runKeeping_absent (text : String) (system : SpeakerSystem) :
    ((speakWith runKeeping .absent text).perform system).1 = .ok .completed := by
  rw [perform_speakWith, perform_runKeeping]
  change Except.ok (Speaker.close (utter _ _ _ _).speaker).1 = _
  rw [speaker_utter_absent _ _ rfl]
  rfl

theorem said_append_eq_iff (before words : List String) (events : List SpeechEvent) :
    said (before ++ words) ++ events = said words ++ events ↔ before = [] := by
  simp [said]

theorem wordsOf_append (queue rest : List String) :
    wordsOf (queue ++ rest) = wordsOf queue ++ wordsOf rest :=
  List.flatMap_append

/-- With the engine that takes its queue in any case, an utterance that is
completed speaks its own words and nothing else, whatever was called before. -/
theorem speak_says_own_words (calls : List SpeakerCall) (interference : Interference)
    (text : String) :
    let system := callAll runQueue initial calls
    let spoken := (speak interference text).perform system
    spoken.1 = .ok .completed → spoken.2.events = said (wordsOf [text]) ++ system.events := by
  intro system spoken hcompleted
  have hevents := serves_runQueue.speakWith_of_completed hcompleted
  rwa [queue_callAll_runQueue] at hevents

/-- With an engine that keeps its queue when it fails, an utterance that is
completed speaks the words of the texts that failed since the last utterance that
did not, and then its own. Nothing else is spoken exactly if those texts have no
words. An utterance that fails speaks nothing, and one that neither fails nor is
cancelled is completed. -/
theorem speaks_unspoken (calls : List SpeakerCall) (interference : Interference) (text : String) :
    let system := callAll runKeeping initial calls
    let spoken := (speakWith runKeeping interference text).perform system
    (spoken.1 = .ok .completed →
      spoken.2.events = said (wordsOf (unspoken calls ++ [text])) ++ system.events ∧
      (spoken.2.events = said (wordsOf [text]) ++ system.events ↔ wordsOf (unspoken calls) = [])) ∧
    (∀ failure, interference.failure = some failure →
      spoken.1 = .error (speechFailure failure) ∧ spoken.2.events = system.events) ∧
    ((speakWith runKeeping .absent text).perform system).1 = .ok .completed := by
  intro system spoken
  refine ⟨fun hcompleted => ?_, fun failure hfailure => ?_, speakWith_runKeeping_absent text system⟩
  · have hevents := serves_runKeeping.speakWith_of_completed hcompleted
    rw [queue_callAll_runKeeping] at hevents
    refine ⟨hevents, ?_⟩
    change spoken.2.events = _ at hevents
    rw [hevents, wordsOf_append]
    exact said_append_eq_iff _ _ _
  · obtain ⟨hresult, hevents, -⟩ := serves_runKeeping.speakWith_of_fails hfailure
    exact ⟨hresult, hevents⟩

/-- The text of an utterance that failed is spoken again and heard twice. -/
theorem speaks_repeated_text_twice :
    let failing : Interference :=
      { Interference.absent with failure := some ⟨.runtime, "run loop already started"⟩ }
    let system := callAll runKeeping initial [.speak failing "two"]
    let spoken := (speakWith runKeeping .absent "two").perform system
    system.events = [] ∧ spoken.1 = .ok .completed ∧
      spoken.2.events = [.word "two", .word "two"] := by
  decide +kernel

end SpeakerSystem

end SpokenCalculator
