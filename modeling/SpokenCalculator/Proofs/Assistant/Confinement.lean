import SpokenCalculator.Assistant.Rehearsal
import SpokenCalculator.Proofs.Assistant.Watching
import SpokenCalculator.Proofs.History

/-!
# Monitors act within their own utterance

A monitor cancels the speech at most once, after the microphone was muted for its
own utterance and before it is unmuted, so that no later utterance is reached.
The invariant says that a monitor runs only while its own utterance is spoken or
waits for it, and that nothing but the muting has occurred in the utterance as
long as it runs.
-/

namespace SpokenCalculator

def SayingStage.AdmitsMonitor : SayingStage → Prop
  | .speaking _ | .stopping _ | .joining _ => True
  | .silent | .muting | .opening | .unmuting _ | .returning _ => False

namespace MonitorThread

variable {thread : MonitorThread} {move : MonitorMove}

theorem isRunning_of_cancels (h : thread.cancels move) : thread.isRunning := by
  obtain ⟨stage, stopAsked⟩ := thread
  cases stage with
  | cancelling => rfl
  | absent | guarding | waiting | asking | ended => cases h

theorem isRunning_step_of_cancels (times : MonitorTimes) (h : thread.cancels move) :
    (thread.step times move).isRunning = false := by
  obtain ⟨stage, stopAsked⟩ := thread
  cases stage with
  | cancelling =>
      cases move with
      | cancel => rfl
      | seeStop | waitOut | hear => cases h
  | absent | guarding | waiting | asking | ended => cases h

theorem step_of_not_isRunning (times : MonitorTimes) (h : ¬ thread.isRunning) :
    thread.step times move = thread := by
  obtain ⟨stage, stopAsked⟩ := thread
  cases stage with
  | absent | ended => rfl
  | guarding | waiting | asking | cancelling => exact absurd rfl h

end MonitorThread

namespace SayingSession

variable {σ : Type}

def occurrencesOf (utterance : Nat) (history : List SayingOccurrence) : List SayingOccurrence :=
  history.filter fun occurrence => occurrence.utterance == utterance

/-- Before a monitor cancels the speech, nothing occurred in its utterance but
the muting, and nothing in later ones. -/
def Confines (earlier : List SayingOccurrence) : SayingOccurrence → Prop
  | .cancelled utterance =>
      occurrencesOf utterance earlier = [.muted utterance] ∧
        ∀ occurrence ∈ earlier, occurrence.utterance ≤ utterance
  | .muted _ | .unmuted _ | .answered _ _ => True

structure Confined (session : SayingSession σ) : Prop where
  running : ∀ utterance, (session.monitors utterance).isRunning →
    utterance = session.utterance ∧ session.stage.AdmitsMonitor
  muted : session.stage = .opening ∨ (session.monitors session.utterance).isRunning →
    occurrencesOf session.utterance session.history = [.muted session.utterance]
  bounded : ∀ occurrence ∈ session.history, occurrence.utterance ≤ session.utterance
  fresh : session.stage = .silent ∨ session.stage = .muting →
    ∀ occurrence ∈ session.history, occurrence.utterance < session.utterance
  backed : History.Backed Confines session.history

theorem confined_initial (assistant : Assistant σ) : (initial assistant).Confined where
  running _ := nofun
  muted := nofun
  bounded := List.forall_mem_nil _
  fresh _ := List.forall_mem_nil _
  backed := History.backed_nil

theorem occurrencesOf_cons (utterance : Nat) (occurrence : SayingOccurrence)
    (history : List SayingOccurrence) :
    occurrencesOf utterance (occurrence :: history) =
      if occurrence.utterance = utterance then occurrence :: occurrencesOf utterance history
      else occurrencesOf utterance history := by
  simp only [occurrencesOf, List.filter_cons, beq_iff_eq]

theorem occurrencesOf_muted {utterance : Nat} {history : List SayingOccurrence}
    (h : ∀ occurrence ∈ history, occurrence.utterance < utterance) :
    occurrencesOf utterance (.muted utterance :: history) = [.muted utterance] := by
  have hnone : occurrencesOf utterance history = [] := by
    refine List.filter_eq_nil_iff.mpr fun occurrence hmem => ?_
    rw [beq_iff_eq]
    exact Nat.ne_of_lt (h occurrence hmem)
  rw [occurrencesOf_cons, hnone]
  exact if_pos rfl

theorem admitsMonitor_afterAttempt (further : Nat) (result : Except Failure SpeechOutcome) :
    (afterAttempt further result).AdmitsMonitor := by
  unfold afterAttempt
  split
  · split <;> trivial
  · trivial

section

variable {session : SayingSession σ}

theorem Confined.of_quiet (hquiet : ∀ utterance, ¬ (session.monitors utterance).isRunning)
    (hmuted : session.stage = .opening →
      occurrencesOf session.utterance session.history = [.muted session.utterance])
    (hbounded : ∀ occurrence ∈ session.history, occurrence.utterance ≤ session.utterance)
    (hfresh : session.stage = .silent ∨ session.stage = .muting →
      ∀ occurrence ∈ session.history, occurrence.utterance < session.utterance)
    (hbacked : History.Backed Confines session.history) : session.Confined where
  running utterance hrunning := absurd hrunning (hquiet utterance)
  muted h := h.elim hmuted fun hrunning => absurd hrunning (hquiet _)
  bounded := hbounded
  fresh := hfresh
  backed := hbacked

theorem Confined.of_admits (hadmits : session.stage.AdmitsMonitor)
    (hrunning : ∀ utterance, (session.monitors utterance).isRunning →
      utterance = session.utterance)
    (hmuted : (session.monitors session.utterance).isRunning →
      occurrencesOf session.utterance session.history = [.muted session.utterance])
    (hbounded : ∀ occurrence ∈ session.history, occurrence.utterance ≤ session.utterance)
    (hbacked : History.Backed Confines session.history) : session.Confined where
  running utterance h := ⟨hrunning utterance h, hadmits⟩
  muted h := h.elim (fun hopening => absurd hadmits (hopening ▸ id)) hmuted
  bounded := hbounded
  fresh h := by
    rcases h with hsilent | hmuting
    · exact absurd hadmits (hsilent ▸ id)
    · exact absurd hadmits (hmuting ▸ id)
  backed := hbacked

theorem Confined.quiet (h : session.Confined) (hstage : ¬ session.stage.AdmitsMonitor)
    (utterance : Nat) : ¬ (session.monitors utterance).isRunning :=
  fun hrunning => hstage (h.running utterance hrunning).2

theorem Confined.eq_of_running_update (h : session.Confined) (thread : MonitorThread)
    (utterance : Nat)
    (hrunning : (Function.update session.monitors session.utterance thread utterance).isRunning) :
    utterance = session.utterance := by
  by_contra hne
  rw [Function.update_of_ne hne] at hrunning
  exact hne (h.running utterance hrunning).1

theorem Confined.eq_of_running_startMonitor (h : session.Confined) (settings : Settings)
    (utterance : Nat)
    (hrunning : (startMonitor settings session.utterance session.monitors utterance).isRunning) :
    utterance = session.utterance := by
  unfold startMonitor at hrunning
  split at hrunning
  · exact h.eq_of_running_update _ utterance hrunning
  · exact (h.running utterance hrunning).1

theorem setMonitor_of_not_isRunning (times : MonitorTimes) {utterance : Nat} (move : MonitorMove)
    (h : ¬ (session.monitors utterance).isRunning) :
    session.setMonitor utterance ((session.monitors utterance).step times move) = session := by
  rw [setMonitor, MonitorThread.step_of_not_isRunning times h, Function.update_eq_self]

theorem Confined.moveMonitor (h : session.Confined) (times : MonitorTimes) (utterance : Nat)
    (move : MonitorMove) : (session.moveMonitor times utterance move).Confined := by
  unfold SayingSession.moveMonitor
  dsimp only
  by_cases hrunning : (session.monitors utterance).isRunning
  · obtain ⟨rfl, hadmits⟩ := h.running utterance hrunning
    have honly := h.muted (Or.inr hrunning)
    split
    · rename_i hcancels
      have hended := MonitorThread.isRunning_step_of_cancels times hcancels
      refine .of_admits hadmits (h.eq_of_running_update _) ?_
        (List.forall_mem_cons.mpr ⟨Nat.le_refl _, h.bounded⟩)
        (h.backed.cons ⟨honly, h.bounded⟩)
      simp [note, setMonitor, hended]
    · exact .of_admits hadmits (h.eq_of_running_update _) (fun _ => honly) h.bounded h.backed
  · have hcancels : ¬ (session.monitors utterance).cancels move :=
      fun hcancels => hrunning (MonitorThread.isRunning_of_cancels hcancels)
    rw [if_neg hcancels, setMonitor_of_not_isRunning times move hrunning]
    exact h

theorem Confined.askToStop (h : session.Confined) (result : Except Failure SpeechOutcome) :
    (setMonitor session.utterance { session.monitors session.utterance with stopAsked := true }
      { session with stage := .joining result }).Confined := by
  refine .of_admits trivial (h.eq_of_running_update _) (fun hrunning => ?_) h.bounded h.backed
  dsimp only [setMonitor] at hrunning
  rw [Function.update_self] at hrunning
  exact h.muted (Or.inr hrunning)

theorem Confined.of_transition {settings : Settings} {move : SayingMove σ}
    {next : SayingSession σ} (h : session.Confined)
    (htransition : session.Transition settings move next) : next.Confined := by
  cases htransition with
  | meanwhile hstage assistant => exact ⟨h.running, h.muted, h.bounded, h.fresh, h.backed⟩
  | begin hstage =>
      exact .of_quiet (h.quiet (hstage ▸ id)) nofun h.bounded (fun _ => h.fresh (Or.inl hstage))
        h.backed
  | muted hstage =>
      have hfresh := h.fresh (Or.inr hstage)
      exact .of_quiet (h.quiet (hstage ▸ id)) (fun _ => occurrencesOf_muted hfresh)
        (List.forall_mem_cons.mpr ⟨Nat.le_refl _, h.bounded⟩) nofun (h.backed.cons trivial)
  | muteFailed hstage failure =>
      exact .of_quiet (h.quiet (hstage ▸ id)) nofun h.bounded nofun h.backed
  | watch hstage =>
      -- the monitor is started while nothing has occurred but the muting
      exact .of_admits trivial (h.eq_of_running_startMonitor settings)
        (fun _ => h.muted (Or.inl hstage)) h.bounded h.backed
  | speak hstage result =>
      exact .of_admits (admitsMonitor_afterAttempt _ _)
        (fun utterance hrunning => (h.running utterance hrunning).1)
        (fun hrunning => h.muted (Or.inr hrunning)) h.bounded h.backed
  | stop hstage => exact h.askToStop _
  | joined hstage hended =>
      -- the assistant goes on only when the monitor has ended
      refine .of_quiet (fun utterance hrunning => ?_) nofun h.bounded nofun h.backed
      exact hended ((h.running utterance hrunning).1 ▸ hrunning)
  | unmute hstage unmuting =>
      exact .of_quiet (h.quiet (hstage ▸ id)) nofun
        (List.forall_mem_cons.mpr ⟨Nat.le_refl _, h.bounded⟩) nofun (h.backed.cons trivial)
  | answer hstage =>
      have hbefore : ∀ occurrence ∈ session.history, occurrence.utterance < session.utterance + 1 :=
        fun occurrence hmem => Nat.lt_succ_of_le (h.bounded occurrence hmem)
      exact .of_quiet (h.quiet (hstage ▸ id)) nofun
        (List.forall_mem_cons.mpr ⟨Nat.le_succ _, fun occurrence hmem =>
          Nat.le_of_lt (hbefore occurrence hmem)⟩)
        (fun _ => List.forall_mem_cons.mpr ⟨Nat.lt_succ_self _, hbefore⟩) (h.backed.cons trivial)
  | monitor utterance move => exact h.moveMonitor _ _ _
  | surround surroundings => exact ⟨h.running, h.muted, h.bounded, h.fresh, h.backed⟩
  | idle => exact h

theorem Confined.step (h : session.Confined) (settings : Settings) (move : SayingMove σ) :
    (session.step settings move).Confined :=
  h.of_transition (session.transition_step settings move)

theorem Confined.run (h : session.Confined) (settings : Settings) (moves : List (SayingMove σ)) :
    (session.run settings moves).Confined := by
  induction moves generalizing session with
  | nil => exact h
  | cons move rest ih => exact ih (h.step settings move)

end

/-- In every session: a monitor can cancel only while its own utterance is spoken
or waits for it; when it cancels, nothing has occurred in its utterance but the
muting, and nothing in later ones. And between utterances a text can always be
said as a further part of the session. -/
theorem run_confines_cancellations (settings : Settings) (assistant : Assistant σ)
    (moves : List (SayingMove σ)) :
    let session := (initial assistant).run settings moves
    (∀ utterance move, (session.monitors utterance).cancels move →
      utterance = session.utterance ∧ session.stage.AdmitsMonitor) ∧
    (∀ later utterance earlier, session.history = later ++ .cancelled utterance :: earlier →
      occurrencesOf utterance earlier = [.muted utterance] ∧
        ∀ occurrence ∈ earlier, occurrence.utterance ≤ utterance) ∧
    (session.stage = .silent → ∀ (collaborators : Collaborators σ) text,
      let said := (Assistant.say settings collaborators text).perform session.assistant
      ∃ further stopped events, session.run settings further =
        { assistant := said.2
          stage := .silent
          utterance := session.utterance + 1
          monitors := stopped
          history := .answered session.utterance said.1 :: events }) := by
  intro session
  have hconfined : session.Confined := (confined_initial assistant).run settings moves
  refine ⟨fun utterance move hcancels => ?_, fun later utterance earlier h => ?_,
    fun hsilent collaborators text => ?_⟩
  · exact hconfined.running utterance (MonitorThread.isRunning_of_cancels hcancels)
  · exact hconfined.backed later _ earlier h
  · exact exists_run_say settings hsilent (hconfined.quiet (hsilent ▸ id) _) collaborators text

def interruptible : Settings :=
  ⟨.speech, .whole 30, .whole 4, .whole 3, true, .whole 1, .whole 1, .whole 1,
    Settings.usualWakeWords, "", 1, 4, none⟩

/-- The speaker succeeds at the second attempt. The monitor hears a voice after it
was asked to stop, so the assistant has to wait for it. In the next utterance it
does nothing any more. -/
def lateInterruption : List (SayingMove Rehearsal) :=
  [.begin, .mute (.ok ()), .watch, .monitor 0 .waitOut, .speak (.error ⟨.speaker, "no voice"⟩),
    .monitor 0 .waitOut, .speak (.ok .completed), .stop, .join, .monitor 0 (.hear true), .join,
    .monitor 0 .cancel, .join, .unmute (.ok ()), .answer,
    .begin, .mute (.ok ()), .watch, .monitor 0 .cancel, .speak (.ok .completed), .stop,
    .monitor 1 .seeStop, .join, .unmute (.ok ()), .answer]

theorem run_confines_cancellations_late :
    let session := (initial (Assistant.initial (.fresh none)
      (⟨false, 0, 1, [], "unplugged", [], [], []⟩ : Rehearsal))).run interruptible lateInterruption
    session.history = [.answered 1 (.ok (some .completed)), .unmuted 1, .muted 1,
      .answered 0 (.ok (some .completed)), .unmuted 0, .cancelled 0, .muted 0] ∧
    (occurrencesOf 0 [.muted 0] = [.muted 0] ∧
      ∀ occurrence ∈ [SayingOccurrence.muted 0], occurrence.utterance ≤ 0) ∧
    session.stage = .silent ∧
    let said :=
      (Assistant.say interruptible Rehearsal.collaborators "Ready.").perform session.assistant
    ∃ further stopped events, session.run interruptible further =
      { assistant := said.2
        stage := .silent
        utterance := session.utterance + 1
        monitors := stopped
        history := .answered session.utterance said.1 :: events } := by
  intro session
  have hhistory : session.history = [.answered 1 (.ok (some .completed)), .unmuted 1, .muted 1,
      .answered 0 (.ok (some .completed)), .unmuted 0, .cancelled 0, .muted 0] := by
    decide +kernel
  have hsilent : session.stage = .silent := by decide +kernel
  obtain ⟨-, hconfines, hsay⟩ := run_confines_cancellations interruptible
    (Assistant.initial (.fresh none) ⟨false, 0, 1, [], "unplugged", [], [], []⟩) lateInterruption
  exact ⟨hhistory, hconfines [.answered 1 (.ok (some .completed)), .unmuted 1, .muted 1,
    .answered 0 (.ok (some .completed)), .unmuted 0] 0 [.muted 0] hhistory, hsilent,
    hsay hsilent Rehearsal.collaborators "Ready."⟩

end SayingSession

end SpokenCalculator
