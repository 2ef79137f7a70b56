import SpokenCalculator.Proofs.History
import SpokenCalculator.Proofs.Speaker.Session

namespace SpokenCalculator.SpeakerSession

def Within (utterance : Nat) : SpeakerOccurrence → Prop
  | .cancelled => True
  | .stopped number => number = utterance
  | .begun _ | .closed _ _ => False

/-- What occurred since the utterance began is this, and the utterance went on
all the time. -/
def Since (utterance : Nat) (during history : List SpeakerOccurrence) : Prop :=
  (∀ occurrence ∈ during, Within utterance occurrence) ∧
    ∃ before, history = during ++ .begun utterance :: before

/-- What came before the end of an utterance decides its outcome, and the engine
is stopped after a cancellation. -/
def Backs (earlier : List SpeakerOccurrence) : SpeakerOccurrence → Prop
  | .closed utterance (.ok outcome) =>
      ∃ during, Since utterance during earlier ∧ (outcome = .cancelled ↔ .cancelled ∈ during)
  | .stopped utterance => ∃ during, Since utterance during earlier ∧ .cancelled ∈ during
  | .closed _ (.error _) | .begun _ | .cancelled => True

/-- An utterance goes on, and the speaker is marked accordingly. -/
structure Going (session : SpeakerSession) (during : List SpeakerOccurrence) : Prop where
  since : Since session.utterance during session.history
  speaking : session.system.speaker.speaking = true
  cancelling : session.system.speaker.cancelling = true ↔ .cancelled ∈ during

structure Tracked (session : SpeakerSession) : Prop where
  silent : session.stage = .silent → session.system.speaker = .idle
  going : session.stage ≠ .silent → ∃ during, session.Going during
  stopping : session.stage = .stopping → session.system.speaker.cancelling = true
  backed : History.Backed Backs session.history

theorem since_begun (utterance : Nat) (before : List SpeakerOccurrence) :
    Since utterance [] (.begun utterance :: before) :=
  ⟨List.forall_mem_nil _, before, rfl⟩

theorem Since.cons {utterance : Nat} {during history : List SpeakerOccurrence}
    {occurrence : SpeakerOccurrence} (h : Since utterance during history)
    (hwithin : Within utterance occurrence) :
    Since utterance (occurrence :: during) (occurrence :: history) := by
  obtain ⟨hduring, before, hhistory⟩ := h
  exact ⟨List.forall_mem_cons.mpr ⟨hwithin, hduring⟩, before, by rw [hhistory]; rfl⟩

theorem tracked_initial (queue : List String) (events : List SpeechEvent) :
    (initial queue events).Tracked where
  silent _ := rfl
  going h := absurd rfl h
  stopping := nofun
  backed := History.backed_nil

section

variable {session : SpeakerSession}

/-- What does not touch the marks of the speaker keeps track. -/
theorem Tracked.withSystem (h : session.Tracked) {system : SpeakerSystem}
    (hspeaker : system.speaker = session.system.speaker) :
    Tracked { session with system } where
  silent hstage := hspeaker.trans (h.silent hstage)
  going hstage := by
    obtain ⟨during, hgoing⟩ := h.going hstage
    exact ⟨during, hgoing.since, hspeaker ▸ hgoing.speaking, hspeaker ▸ hgoing.cancelling⟩
  stopping hstage := hspeaker ▸ h.stopping hstage
  backed := h.backed

theorem Tracked.changeAt (h : session.Tracked) (stage : SpeakerStage)
    {change : SpeakerSystem → SpeakerSystem}
    (hchange : ∀ system, (change system).speaker = system.speaker) :
    (session.changeAt stage change).Tracked := by
  unfold SpeakerSession.changeAt
  split
  · exact h.withSystem (hchange _)
  · exact h

theorem Tracked.begin (h : session.Tracked) : session.begin.Tracked := by
  unfold SpeakerSession.begin
  split
  · exact
      { silent := nofun
        going := fun _ => ⟨[], since_begun _ _, rfl, by simp [note, Speaker.begun]⟩
        stopping := nofun
        backed := h.backed.cons trivial }
  · exact h

theorem Tracked.word (h : session.Tracked) (word : String) : (session.word word).Tracked := by
  unfold SpeakerSession.word
  split
  · rename_i hspeaking
    have hgoing := h.going (by rw [hspeaking]; decide)
    split
    · rename_i hcancelling
      exact
        { silent := nofun
          going := fun _ => hgoing.imp fun _ h => ⟨h.since, h.speaking, h.cancelling⟩
          stopping := fun _ => hcancelling
          backed := h.backed }
    · exact h.withSystem rfl
  · exact h

theorem Tracked.stop (h : session.Tracked) : session.stop.Tracked := by
  unfold SpeakerSession.stop
  split
  · rename_i hstopping
    obtain ⟨during, hgoing⟩ := h.going (by rw [hstopping]; decide)
    have hcancelled := hgoing.cancelling.mp (h.stopping hstopping)
    exact
      { silent := nofun
        going := fun _ => ⟨.stopped session.utterance :: during, hgoing.since.cons rfl,
          hgoing.speaking, hgoing.cancelling.trans (by simp)⟩
        stopping := nofun
        backed := h.backed.cons ⟨during, hgoing.since, hcancelled⟩ }
  · exact h

theorem backs_closed {during : List SpeakerOccurrence} (h : session.Going during)
    (failure : Option Failure) :
    Backs session.history
      (.closed session.utterance (resultOf failure session.system.speaker.close.1)) := by
  cases failure with
  | some failure => trivial
  | none =>
      refine ⟨during, h.since, ?_⟩
      rw [← h.cancelling, Speaker.close]
      cases session.system.speaker.cancelling <;> simp

theorem Tracked.close (h : session.Tracked) (failure : Option Failure) :
    (session.close failure).Tracked := by
  unfold SpeakerSession.close
  split
  · rename_i hspeaking
    obtain ⟨during, hgoing⟩ := h.going (by rw [hspeaking]; decide)
    exact
      { silent := fun _ => rfl
        going := fun hstage => absurd rfl hstage
        stopping := nofun
        backed := h.backed.cons (backs_closed hgoing failure) }
  · exact h

theorem system_cancel_of_silent (h : session.Tracked) (hsilent : session.stage = .silent) :
    session.cancel.system = session.system := by
  have hidle : session.system.speaker.cancel = session.system.speaker := by
    rw [h.silent hsilent]
    rfl
  simp [SpeakerSession.cancel, note, SpeakerSystem.cancel, hidle]

theorem speaker_cancel_of_speaking (h : session.system.speaker.speaking = true) :
    session.cancel.system.speaker = ⟨true, true⟩ := by
  simp [SpeakerSession.cancel, note, SpeakerSystem.cancel, Speaker.cancel, h]

theorem Tracked.cancel (h : session.Tracked) : session.cancel.Tracked where
  silent hstage := by
    rw [system_cancel_of_silent h hstage]
    exact h.silent hstage
  going hstage := by
    obtain ⟨during, hgoing⟩ := h.going hstage
    have hspeaker := speaker_cancel_of_speaking hgoing.speaking
    refine ⟨.cancelled :: during, hgoing.since.cons trivial, ?_, ?_⟩ <;> simp [hspeaker]
  stopping hstage := by
    obtain ⟨during, hgoing⟩ := h.going fun hsilent => by cases hstage.symm.trans hsilent
    rw [speaker_cancel_of_speaking hgoing.speaking]
  backed := h.backed.cons trivial

theorem Tracked.step (h : session.Tracked) (move : SpeakerMove) : (session.step move).Tracked := by
  cases move with
  | begin => exact h.begin
  | enqueue text =>
      dsimp only [SpeakerSession.step]
      exact h.changeAt .speaking fun _ => rfl
  | takeQueue =>
      dsimp only [SpeakerSession.step]
      exact h.changeAt .speaking fun _ => rfl
  | word text => exact h.word text
  | stop => exact h.stop
  | close failure => exact h.close failure
  | cancel => exact h.cancel

theorem Tracked.run (h : session.Tracked) (moves : List SpeakerMove) :
    (session.run moves).Tracked := by
  induction moves generalizing session with
  | nil => exact h
  | cons move rest ih => exact ih (h.step move)

end

/-- In every session: between utterances nothing is marked and a cancellation
changes nothing; an utterance that does not fail is cancelled exactly if a
cancellation occurred since it began; the engine is stopped only after a
cancellation since the utterance began. And between utterances a text can always
be spoken as a further part of the session. -/
theorem run_cancels_exactly (queue : List String) (events : List SpeechEvent)
    (moves : List SpeakerMove) :
    let session := (initial queue events).run moves
    (session.stage = .silent →
      session.system.speaker = .idle ∧ session.cancel.system = session.system) ∧
    (∀ later utterance outcome earlier,
      session.history = later ++ .closed utterance (.ok outcome) :: earlier →
      ∃ during, Since utterance during earlier ∧ (outcome = .cancelled ↔ .cancelled ∈ during)) ∧
    (∀ later utterance earlier, session.history = later ++ .stopped utterance :: earlier →
      ∃ during, Since utterance during earlier ∧ .cancelled ∈ during) ∧
    (session.stage = .silent → ∀ interference text, ∃ further history, session.run further =
      { system := ((SpeakerSystem.speak interference text).perform session.system).2
        stage := .silent
        utterance := session.utterance + 1
        history := .closed session.utterance
          ((SpeakerSystem.speak interference text).perform session.system).1 :: history }) := by
  intro session
  have htracked : session.Tracked := (tracked_initial queue events).run moves
  refine ⟨fun hsilent => ?_, fun later utterance outcome earlier h => ?_,
    fun later utterance earlier h => ?_, fun hsilent interference text => ?_⟩
  · exact ⟨htracked.silent hsilent, system_cancel_of_silent htracked hsilent⟩
  · exact htracked.backed later _ earlier h
  · exact htracked.backed later _ earlier h
  · exact exists_run_eq_speak interference text hsilent

/-- The first utterance is cancelled at its first word. The cancellation after it
comes too late, and the second utterance is completed. -/
def lateCancellation : List SpeakerMove :=
  [.begin, .enqueue "two", .takeQueue, .cancel, .word "two", .stop, .close none, .cancel,
    .begin, .enqueue "three", .takeQueue, .word "three", .close none]

theorem run_cancels_exactly_late :
    let session := (initial [] []).run lateCancellation
    session.history = [.closed 1 (.ok .completed), .begun 1, .cancelled,
      .closed 0 (.ok .cancelled), .stopped 0, .cancelled, .begun 0] ∧
    (session.system.speaker = .idle ∧ session.cancel.system = session.system) ∧
    (∃ during, Since 0 during [.stopped 0, .cancelled, .begun 0] ∧
      (SpeechOutcome.cancelled = .cancelled ↔ .cancelled ∈ during)) ∧
    (∃ during, Since 0 during [.cancelled, .begun 0] ∧ .cancelled ∈ during) ∧
    ∃ further history, session.run further =
      { system := ((SpeakerSystem.speak .absent "four").perform session.system).2
        stage := .silent
        utterance := 3
        history := .closed 2
          ((SpeakerSystem.speak .absent "four").perform session.system).1 :: history } := by
  intro session
  obtain ⟨hidle, hclosed, hstopped, hspeak⟩ := run_cancels_exactly [] [] lateCancellation
  refine ⟨rfl, hidle rfl, ?_, ?_, ?_⟩
  · exact hclosed [.closed 1 (.ok .completed), .begun 1, .cancelled] 0 .cancelled _ rfl
  · exact hstopped [.closed 1 (.ok .completed), .begun 1, .cancelled, .closed 0 (.ok .cancelled)]
      0 _ rfl
  · exact hspeak rfl .absent "four"

end SpokenCalculator.SpeakerSession
