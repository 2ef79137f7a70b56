import Mathlib.Control.Monad.Basic
import Mathlib.Logic.Function.Basic
import SpokenCalculator.Assistant.Loop
import SpokenCalculator.Proofs.Action

/-!
# Saying a text while a monitor watches

A session interleaves the steps by which the assistant says texts, one after
another, with the steps of the monitors. The monitor of an utterance is started
after the microphone is muted, and before the microphone is unmuted it is asked
to stop and waited for. What others are asked ends in any way, and what surrounds
the assistant may change at any moment. To say a text is one such run.
-/

namespace SpokenCalculator

inductive MonitorStage where
  | absent
  | guarding
  | waiting (monitor : Monitor)
  | asking (monitor : Monitor)
  | cancelling
  | ended

/-- The wait of a monitor can end because a stop is seen or because its time is
up, also if a stop was asked for meanwhile. -/
inductive MonitorMove where
  | seeStop
  | waitOut
  | hear (voice : Bool)
  | cancel

structure MonitorThread where
  stage : MonitorStage
  stopAsked : Bool

namespace MonitorThread

def absent : MonitorThread := ⟨.absent, false⟩

def started : MonitorThread := ⟨.guarding, false⟩

def isRunning (thread : MonitorThread) : Bool :=
  match thread.stage with
  | .guarding | .waiting _ | .asking _ | .cancelling => true
  | .absent | .ended => false

def cancels (thread : MonitorThread) (move : MonitorMove) : Bool :=
  match thread.stage, move with
  | .cancelling, .cancel => true
  | _, _ => false

def seeStop (thread : MonitorThread) : MonitorThread :=
  if thread.stopAsked then { thread with stage := .ended } else thread

def heed (monitor : Monitor) : MonitorStage :=
  if monitor.triggered then .cancelling else .waiting monitor

/-- What comes after a wait. One that is too long to begin ends the monitor. -/
def afterWait (seconds : Quantity) (next : MonitorStage) : MonitorStage :=
  if seconds.isTooLong then .ended else next

theorem afterWait_of_not_isTooLong {seconds : Quantity} (h : seconds.isTooLong = false)
    (next : MonitorStage) : afterWait seconds next = next :=
  if_neg (ne_true_of_eq_false h)

def step (times : MonitorTimes) (thread : MonitorThread) (move : MonitorMove) : MonitorThread :=
  match thread.stage, move with
  | .guarding, .seeStop => thread.seeStop
  | .guarding, .waitOut => { thread with stage := afterWait times.guard (.waiting .initial) }
  | .waiting _, .seeStop => thread.seeStop
  | .waiting monitor, .waitOut => { thread with stage := afterWait times.poll (.asking monitor) }
  | .asking monitor, .hear voice => { thread with stage := heed (monitor.poll times voice) }
  | .cancelling, .cancel => { thread with stage := .ended }
  | _, _ => thread

theorem cancels_seeStop (thread : MonitorThread) : thread.cancels .seeStop = false := by
  obtain ⟨stage, stopAsked⟩ := thread
  cases stage <;> rfl

theorem isRunning_step_seeStop (thread : MonitorThread) (times : MonitorTimes)
    (h : thread.stage = .guarding ∨ ¬ thread.isRunning) :
    (step times { thread with stopAsked := true } .seeStop).isRunning = false := by
  obtain ⟨stage, stopAsked⟩ := thread
  cases stage with
  | absent => rfl
  | guarding => rfl
  | ended => rfl
  | waiting | asking | cancelling => simp [isRunning] at h

def polls (voices : List Bool) : List MonitorMove :=
  voices.flatMap fun voice => [.waitOut, .hear voice]

theorem foldl_step_of_cancelling (times : MonitorTimes) (voices : List Bool) (stopAsked : Bool) :
    (polls voices).foldl (step times) ⟨.cancelling, stopAsked⟩ = ⟨.cancelling, stopAsked⟩ := by
  induction voices with
  | nil => rfl
  | cons voice rest ih => exact ih

theorem foldl_step_polls_cons {times : MonitorTimes} (hpoll : times.poll.isTooLong = false)
    (voice : Bool) (rest : List Bool) (monitor : Monitor) (stopAsked : Bool) :
    (polls (voice :: rest)).foldl (step times) ⟨.waiting monitor, stopAsked⟩ =
      (polls rest).foldl (step times) ⟨heed (monitor.poll times voice), stopAsked⟩ := by
  have hasks : step times ⟨.waiting monitor, stopAsked⟩ .waitOut = ⟨.asking monitor, stopAsked⟩ :=
    congrArg (MonitorThread.mk · stopAsked) (afterWait_of_not_isTooLong hpoll _)
  change (polls rest).foldl (step times)
    (step times (step times ⟨.waiting monitor, stopAsked⟩ .waitOut) (.hear voice)) = _
  rw [hasks]
  rfl

/-- A monitor that polls does what watching the answers does. -/
theorem foldl_step_polls {times : MonitorTimes} (hpoll : times.poll.isTooLong = false)
    (voices : List Bool) (monitor : Monitor) (stopAsked : Bool) (h : monitor.triggered = false) :
    (polls voices).foldl (step times) ⟨.waiting monitor, stopAsked⟩ =
      ⟨heed (monitor.watch times voices).1, stopAsked⟩ := by
  induction voices generalizing monitor with
  | nil =>
      simp only [polls, List.flatMap_nil, List.foldl_nil, Monitor.watch, heed, h]
      rfl
  | cons voice rest ih =>
      rw [foldl_step_polls_cons hpoll, Monitor.watch]
      dsimp only
      cases htriggered : (monitor.poll times voice).triggered with
      | true =>
          have hheed : heed (monitor.poll times voice) = .cancelling := if_pos htriggered
          rw [if_pos rfl, hheed]
          exact foldl_step_of_cancelling times rest stopAsked
      | false =>
          have hheed : heed (monitor.poll times voice) = .waiting (monitor.poll times voice) :=
            if_neg (ne_true_of_eq_false htriggered)
          rw [if_neg Bool.false_ne_true, hheed]
          exact ih _ htriggered

end MonitorThread

/-- Where the assistant stands when it says a text. While it speaks, it may fail
and speak again a number of times. What follows is told how the speech ended. -/
inductive SayingStage where
  | silent
  | muting
  | opening
  | speaking (further : Nat)
  | stopping (result : Except Failure SpeechOutcome)
  | joining (result : Except Failure SpeechOutcome)
  | unmuting (result : Except Failure SpeechOutcome)
  | returning (result : Except Failure SpeechOutcome)
  deriving DecidableEq

/-- What is asked of others ends with a result. Between utterances the assistant
may do anything. -/
inductive SayingMove (σ : Type) where
  | meanwhile (assistant : Assistant σ)
  | begin
  | mute (result : Except Failure Unit)
  | watch
  | speak (result : Except Failure SpeechOutcome)
  | stop
  | join
  | unmute (result : Except Failure Unit)
  | answer
  | monitor (utterance : Nat) (move : MonitorMove)
  | surround (surroundings : Surroundings σ)

/-- Utterances are numbered in their order. -/
inductive SayingOccurrence where
  | muted (utterance : Nat)
  | cancelled (utterance : Nat)
  | unmuted (utterance : Nat)
  | answered (utterance : Nat) (result : Except Failure (Option SpeechOutcome))
  deriving DecidableEq

def SayingOccurrence.utterance : SayingOccurrence → Nat
  | .muted utterance | .cancelled utterance | .unmuted utterance => utterance
  | .answered utterance _ => utterance

/-- Each utterance has its own monitor. The last occurrence comes first. -/
structure SayingSession (σ : Type) where
  assistant : Assistant σ
  stage : SayingStage
  utterance : Nat
  monitors : Nat → MonitorThread
  history : List SayingOccurrence

namespace SayingSession

variable {σ : Type}

def initial (assistant : Assistant σ) : SayingSession σ :=
  ⟨assistant, .silent, 0, fun _ => .absent, []⟩

def note (occurrence : SayingOccurrence) (session : SayingSession σ) : SayingSession σ :=
  { session with history := occurrence :: session.history }

def setMonitor (utterance : Nat) (thread : MonitorThread) (session : SayingSession σ) :
    SayingSession σ :=
  { session with monitors := Function.update session.monitors utterance thread }

def moveMonitor (times : MonitorTimes) (utterance : Nat) (move : MonitorMove)
    (session : SayingSession σ) : SayingSession σ :=
  let thread := session.monitors utterance
  let moved := session.setMonitor utterance (thread.step times move)
  if thread.cancels move then moved.note (.cancelled utterance) else moved

/-- Without interruptions there is no monitor. -/
def startMonitor (settings : Settings) (utterance : Nat) (monitors : Nat → MonitorThread) :
    Nat → MonitorThread :=
  if settings.bargeIn then Function.update monitors utterance .started else monitors

def afterAttempt (further : Nat) (result : Except Failure SpeechOutcome) : SayingStage :=
  match result, further with
  | .error failure, further + 1 =>
      if failure.kind.isA .speaker then .speaking further else .stopping result
  | _, _ => .stopping result

/-- A failure to unmute counts more than how the speech ended. -/
def afterUnmuting (result : Except Failure SpeechOutcome) :
    Except Failure Unit → Except Failure SpeechOutcome
  | .ok () => result
  | .error failure => .error failure

/-- The speaker may give up. Other failures are handed on. -/
def answerOf : Except Failure SpeechOutcome → Except Failure (Option SpeechOutcome)
  | .ok outcome => .ok (some outcome)
  | .error failure => if failure.kind.isA .speaker then .ok none else .error failure

def step (settings : Settings) (session : SayingSession σ) (move : SayingMove σ) :
    SayingSession σ :=
  match session.stage, move with
  | .silent, .meanwhile assistant => { session with assistant }
  | .silent, .begin =>
      { session with assistant := { session.assistant with stage := .speaking }, stage := .muting }
  | .muting, .mute (.ok ()) => note (.muted session.utterance) { session with stage := .opening }
  | .muting, .mute (.error failure) => { session with stage := .returning (.error failure) }
  | .opening, .watch =>
      { session with
        stage := .speaking settings.retries
        monitors := startMonitor settings session.utterance session.monitors }
  | .speaking further, .speak result => { session with stage := afterAttempt further result }
  | .stopping result, .stop =>
      setMonitor session.utterance { session.monitors session.utterance with stopAsked := true }
        { session with stage := .joining result }
  | .joining result, .join =>
      if (session.monitors session.utterance).isRunning then session
      else { session with stage := .unmuting result }
  | .unmuting result, .unmute unmuting =>
      note (.unmuted session.utterance)
        { session with stage := .returning (afterUnmuting result unmuting) }
  | .returning result, .answer =>
      note (.answered session.utterance (answerOf result))
        { session with
          assistant := { session.assistant with stage := .idle }
          stage := .silent
          utterance := session.utterance + 1 }
  | _, .monitor utterance move => session.moveMonitor settings.monitorTimes utterance move
  | _, .surround surroundings =>
      { session with assistant := { session.assistant with surroundings } }
  | _, _ => session

def run (settings : Settings) : SayingSession σ → List (SayingMove σ) → SayingSession σ :=
  List.foldl (step settings)

/-- What a move can do, with what it rests on. A move that is not possible where
the session stands changes nothing. -/
inductive Transition (settings : Settings) (session : SayingSession σ) :
    SayingMove σ → SayingSession σ → Prop where
  | meanwhile (hstage : session.stage = .silent) (assistant : Assistant σ) :
      Transition settings session (.meanwhile assistant) { session with assistant }
  | begin (hstage : session.stage = .silent) :
      Transition settings session .begin
        { session with
          assistant := { session.assistant with stage := .speaking }
          stage := .muting }
  | muted (hstage : session.stage = .muting) :
      Transition settings session (.mute (.ok ()))
        (note (.muted session.utterance) { session with stage := .opening })
  | muteFailed (hstage : session.stage = .muting) (failure : Failure) :
      Transition settings session (.mute (.error failure))
        { session with stage := .returning (.error failure) }
  | watch (hstage : session.stage = .opening) :
      Transition settings session .watch
        { session with
          stage := .speaking settings.retries
          monitors := startMonitor settings session.utterance session.monitors }
  | speak {further : Nat} (hstage : session.stage = .speaking further)
      (result : Except Failure SpeechOutcome) :
      Transition settings session (.speak result)
        { session with stage := afterAttempt further result }
  | stop {result : Except Failure SpeechOutcome} (hstage : session.stage = .stopping result) :
      Transition settings session .stop
        (setMonitor session.utterance
          { session.monitors session.utterance with stopAsked := true }
          { session with stage := .joining result })
  | joined {result : Except Failure SpeechOutcome} (hstage : session.stage = .joining result)
      (hended : ¬ (session.monitors session.utterance).isRunning) :
      Transition settings session .join { session with stage := .unmuting result }
  | unmute {result : Except Failure SpeechOutcome} (hstage : session.stage = .unmuting result)
      (unmuting : Except Failure Unit) :
      Transition settings session (.unmute unmuting)
        (note (.unmuted session.utterance)
          { session with stage := .returning (afterUnmuting result unmuting) })
  | answer {result : Except Failure SpeechOutcome} (hstage : session.stage = .returning result) :
      Transition settings session .answer
        (note (.answered session.utterance (answerOf result))
          { session with
            assistant := { session.assistant with stage := .idle }
            stage := .silent
            utterance := session.utterance + 1 })
  | monitor (utterance : Nat) (move : MonitorMove) :
      Transition settings session (.monitor utterance move)
        (session.moveMonitor settings.monitorTimes utterance move)
  | surround (surroundings : Surroundings σ) :
      Transition settings session (.surround surroundings)
        { session with assistant := { session.assistant with surroundings } }
  | idle (move : SayingMove σ) : Transition settings session move session

theorem transition_step (settings : Settings) (session : SayingSession σ) (move : SayingMove σ) :
    session.Transition settings move (session.step settings move) := by
  unfold step
  -- one case for each arm, in their order
  split
  · exact .meanwhile ‹_› _
  · exact .begin ‹_›
  · exact .muted ‹_›
  · exact .muteFailed ‹_› _
  · exact .watch ‹_›
  · exact .speak ‹_› _
  · exact .stop ‹_›
  · split
    · exact .idle _
    · exact .joined ‹_› ‹_›
  · exact .unmute ‹_› _
  · exact .answer ‹_›
  · exact .monitor _ _
  · exact .surround _
  · exact .idle _

open Assistant (ask interruption retry say setStage utter)

theorem perform_ask {α : Type} (action : Action (Surroundings σ) α) (assistant : Assistant σ) :
    (ask action).perform assistant = ((action.perform assistant.surroundings).1,
      { assistant with surroundings := (action.perform assistant.surroundings).2 }) := rfl

theorem perform_retry_succ {α : Type} (kind : FailureKind) (action : Action (Assistant σ) α)
    (further : Nat) (assistant : Assistant σ) :
    (retry kind action (further + 1)).perform assistant =
      match action.perform assistant with
      | (.ok value, after) => (.ok value, after)
      | (.error failure, after) =>
          if failure.kind.isA kind then (retry kind action further).perform after
          else (.error failure, after) := by
  rw [retry, Action.perform_bind_attempt]
  generalize action.perform assistant = outcome
  obtain ⟨result, after⟩ := outcome
  cases result with
  | ok value => rfl
  | error failure =>
      dsimp only
      split <;> rfl

theorem perform_utter (settings : Settings) (collaborators : Collaborators σ) (text : String)
    (assistant : Assistant σ) :
    (utter settings collaborators text).perform assistant =
      match (ask collaborators.mute).perform assistant with
      | (.error failure, after) => (.error failure, after)
      | (.ok (), after) =>
          let speech := collaborators.speak after.stage (interruption settings) text
          let spoken := (retry .speaker (ask speech) settings.retries).perform after
          let unmuted := (ask collaborators.unmute).perform spoken.2
          (afterUnmuting spoken.1 unmuted.1, unmuted.2) := by
  rw [utter, Action.perform_bind]
  generalize (ask collaborators.mute).perform assistant = outcome
  obtain ⟨result, after⟩ := outcome
  cases result with
  | error failure => rfl
  | ok value =>
      dsimp only
      rw [Action.perform_bind, Action.perform_get]
      dsimp only
      rw [Action.perform_ensuring]
      generalize (retry .speaker _ settings.retries).perform after = spoken
      generalize (ask collaborators.unmute).perform spoken.2 = unmuted
      obtain ⟨result, after⟩ := unmuted
      cases result <;> rfl

theorem perform_say (settings : Settings) (collaborators : Collaborators σ) (text : String)
    (assistant : Assistant σ) :
    (say settings collaborators text).perform assistant =
      let uttered := (utter settings collaborators text).perform
        { assistant with stage := .speaking }
      (answerOf uttered.1, { uttered.2 with stage := .idle }) := by
  have hstage : ∀ (stage : Stage) (assistant : Assistant σ),
      (setStage stage).perform assistant = (.ok (), { assistant with stage }) := fun _ _ => rfl
  rw [say, Action.perform_bind, hstage]
  dsimp only
  rw [Action.perform_bind_attempt]
  generalize (utter settings collaborators text).perform _ = uttered
  obtain ⟨result, after⟩ := uttered
  rw [Action.perform_bind, hstage]
  cases result with
  | ok outcome => rfl
  | error failure =>
      dsimp only [answerOf]
      split <;> rfl

theorem run_append (settings : Settings) (session : SayingSession σ)
    (moves further : List (SayingMove σ)) :
    session.run settings (moves ++ further) = (session.run settings moves).run settings further :=
  List.foldl_append

section

variable (settings : Settings) (utterance : Nat) (history : List SayingOccurrence)

theorem exists_run_retry (speech : Action (Surroundings σ) SpeechOutcome) (further : Nat)
    (assistant : Assistant σ) (monitors : Nat → MonitorThread) :
    let spoken := (retry .speaker (ask speech) further).perform assistant
    ∃ moves, run settings ⟨assistant, .speaking further, utterance, monitors, history⟩ moves =
      ⟨spoken.2, .stopping spoken.1, utterance, monitors, history⟩ := by
  induction further generalizing assistant with
  | zero =>
      let attempt := speech.perform assistant.surroundings
      refine ⟨[.surround attempt.2, .speak attempt.1], ?_⟩
      change SayingSession.mk _ (afterAttempt 0 attempt.1) _ _ _ = _
      have hstopping : afterAttempt 0 attempt.1 = .stopping attempt.1 := by
        cases attempt.1 <;> rfl
      rw [hstopping]
      rfl
  | succ further ih =>
      intro spoken
      have hspoken := perform_retry_succ .speaker (ask speech) further assistant
      change spoken = _ at hspoken
      rw [perform_ask] at hspoken
      generalize speech.perform assistant.surroundings = attempt at hspoken
      obtain ⟨result, surroundings⟩ := attempt
      cases result with
      | ok outcome =>
          rw [hspoken]
          exact ⟨[.surround surroundings, .speak (.ok outcome)], rfl⟩
      | error failure =>
          dsimp only at hspoken
          split at hspoken
          · rename_i hkind
            obtain ⟨moves, hrun⟩ := ih { assistant with surroundings }
            refine ⟨.surround surroundings :: .speak (.error failure) :: moves, ?_⟩
            have hagain : afterAttempt (further + 1) (.error failure) = .speaking further :=
              if_pos hkind
            rw [hspoken, ← hrun, ← hagain]
            rfl
          · rename_i hkind
            refine ⟨[.surround surroundings, .speak (.error failure)], ?_⟩
            have hgiveUp : afterAttempt (further + 1) (.error failure) =
              .stopping (.error failure) := if_neg hkind
            rw [hspoken, ← hgiveUp]
            rfl

/-- A monitor that only guards the beginning, or does not run, is stopped. -/
theorem exists_run_stop (result : Except Failure SpeechOutcome) (assistant : Assistant σ)
    (monitors : Nat → MonitorThread)
    (hquiet : (monitors utterance).stage = .guarding ∨ ¬ (monitors utterance).isRunning) :
    ∃ moves stopped,
      run settings ⟨assistant, .stopping result, utterance, monitors, history⟩ moves =
        ⟨assistant, .unmuting result, utterance, stopped, history⟩ := by
  let asked : MonitorThread := { monitors utterance with stopAsked := true }
  let last := asked.step settings.monitorTimes .seeStop
  have hlast : last.isRunning = false := (monitors utterance).isRunning_step_seeStop _ hquiet
  have hcancels : asked.cancels .seeStop = false := asked.cancels_seeStop
  let monitorsAsked := Function.update monitors utterance asked
  let stopped := Function.update monitorsAsked utterance last
  -- a monitor that does not run does nothing about the stop
  refine ⟨[.stop, .monitor utterance .seeStop, .join], stopped, ?_⟩
  have hmonitor : moveMonitor settings.monitorTimes utterance .seeStop
      ⟨assistant, .joining result, utterance, monitorsAsked, history⟩ =
      ⟨assistant, .joining result, utterance, stopped, history⟩ := by
    simp [moveMonitor, setMonitor, monitorsAsked, stopped, hcancels, last]
  change step settings (moveMonitor settings.monitorTimes utterance .seeStop
      ⟨assistant, .joining result, utterance, monitorsAsked, history⟩) .join = _
  rw [hmonitor]
  simp [step, stopped, hlast]

/-- From the muting on, an utterance is a run. Its monitor only guards the
beginning. -/
theorem exists_run_utter (collaborators : Collaborators σ) (text : String)
    (assistant : Assistant σ) (monitors : Nat → MonitorThread)
    (hquiet : ¬ (monitors utterance).isRunning) :
    let uttered := (utter settings collaborators text).perform assistant
    ∃ moves stopped events, run settings ⟨assistant, .muting, utterance, monitors, history⟩ moves =
      ⟨uttered.2, .returning uttered.1, utterance, stopped, events⟩ := by
  intro uttered
  have huttered := perform_utter settings collaborators text assistant
  change uttered = _ at huttered
  rw [perform_ask] at huttered
  generalize collaborators.mute.perform assistant.surroundings = muted at huttered
  obtain ⟨result, surroundings⟩ := muted
  cases result with
  | error failure =>
      rw [huttered]
      exact ⟨[.surround surroundings, .mute (.error failure)], monitors, history, rfl⟩
  | ok value =>
      let after : Assistant σ := { assistant with surroundings }
      let opened := startMonitor settings utterance monitors
      let speech := collaborators.speak after.stage (interruption settings) text
      let spoken := (retry .speaker (ask speech) settings.retries).perform after
      let unmuted := collaborators.unmute.perform spoken.2.surroundings
      have hopened : (opened utterance).stage = .guarding ∨ ¬ (opened utterance).isRunning := by
        by_cases hbargeIn : settings.bargeIn
        · simp [opened, startMonitor, hbargeIn, MonitorThread.started]
        · simp [opened, startMonitor, hbargeIn, hquiet]
      obtain ⟨attempts, hattempts⟩ := exists_run_retry settings utterance
        (.muted utterance :: history) speech settings.retries after opened
      obtain ⟨closing, stopped, hclosing⟩ := exists_run_stop settings utterance
        (.muted utterance :: history) spoken.1 spoken.2 opened hopened
      refine ⟨[.surround surroundings, .mute (.ok ()), .watch] ++ attempts ++ closing ++
        [.surround unmuted.2, .unmute unmuted.1], stopped,
        .unmuted utterance :: .muted utterance :: history, ?_⟩
      have hopen : run settings ⟨assistant, .muting, utterance, monitors, history⟩
          [.surround surroundings, .mute (.ok ()), .watch] =
          ⟨after, .speaking settings.retries, utterance, opened, .muted utterance :: history⟩ := rfl
      rw [run_append, run_append, run_append, hopen, hattempts, hclosing, huttered]
      rfl

end

/-- To say a text is a run of the session from one silence to the next. -/
theorem exists_run_say (settings : Settings) {session : SayingSession σ}
    (hsilent : session.stage = .silent)
    (hquiet : ¬ (session.monitors session.utterance).isRunning)
    (collaborators : Collaborators σ) (text : String) :
    let said := (say settings collaborators text).perform session.assistant
    ∃ moves stopped events, session.run settings moves =
      ⟨said.2, .silent, session.utterance + 1, stopped,
        .answered session.utterance said.1 :: events⟩ := by
  obtain ⟨assistant, stage, utterance, monitors, history⟩ := session
  dsimp only at hsilent hquiet
  subst hsilent
  obtain ⟨moves, stopped, events, hrun⟩ := exists_run_utter settings utterance history
    collaborators text { assistant with stage := .speaking } monitors hquiet
  refine ⟨.begin :: moves ++ [.answer], stopped, events, ?_⟩
  have hbegin : run settings ⟨assistant, .silent, utterance, monitors, history⟩ (.begin :: moves) =
      run settings ⟨{ assistant with stage := .speaking }, .muting, utterance, monitors, history⟩
        moves := rfl
  rw [run_append, hbegin, hrun, perform_say]
  rfl

end SayingSession

end SpokenCalculator
