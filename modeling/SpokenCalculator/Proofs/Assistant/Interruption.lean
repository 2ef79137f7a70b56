import SpokenCalculator.Proofs.Assistant.Watching

namespace SpokenCalculator

namespace MonitorTimes

/-- The time of a voice that was heard at a number of polls in a row, added up
poll by poll. -/
def voiceTime (times : MonitorTimes) : Nat → BinaryReal
  | 0 => .zero
  | polls + 1 => (times.voiceTime polls).add times.poll.toBinary

/-- How often a voice was heard since the last answer without one. The last
answer comes first. -/
def unbroken (answers : List Bool) : Nat := (answers.takeWhile id).length

/-- The waits before the first poll are not too long to begin. -/
def CanPoll (times : MonitorTimes) : Prop :=
  times.guard.isTooLong = false ∧ times.poll.isTooLong = false

def Suffices (times : MonitorTimes) (answers : List Bool) : Prop :=
  times.least.le (.binary (times.voiceTime (unbroken answers)))

theorem suffices_cons_false (times : MonitorTimes) (answers : List Bool) :
    times.Suffices (false :: answers) ↔ times.least.le (.binary .zero) :=
  Iff.rfl

end MonitorTimes

open MonitorTimes (unbroken)

theorem Monitor.heard_poll {times : MonitorTimes} {monitor : Monitor} {answers : List Bool}
    (h : monitor.heard = times.voiceTime (unbroken answers)) (voice : Bool) :
    (monitor.poll times voice).heard = times.voiceTime (unbroken (voice :: answers)) := by
  cases voice with
  | false => rfl
  | true =>
      change monitor.heard.add times.poll.toBinary = _
      rw [h]
      rfl

theorem Monitor.triggered_poll {times : MonitorTimes} {monitor : Monitor} {answers : List Bool}
    (h : monitor.heard = times.voiceTime (unbroken answers)) (voice : Bool) :
    (monitor.poll times voice).triggered ↔ times.Suffices (voice :: answers) := by
  rw [MonitorTimes.Suffices, ← heard_poll h voice]
  rfl

inductive WatchMove where
  | move (move : MonitorMove)
  | askToStop

inductive WatchOccurrence where
  | guarded
  | heard (voice : Bool)
  | cancelled
  deriving DecidableEq

def MonitorThread.occurrence? (times : MonitorTimes) (thread : MonitorThread)
    (move : MonitorMove) : Option WatchOccurrence :=
  match thread.stage, move with
  | .guarding, .waitOut => if times.guard.isTooLong then none else some .guarded
  | .asking _, .hear voice => some (.heard voice)
  | .cancelling, .cancel => some .cancelled
  | _, _ => none

/-- A monitor that was started, and what occurred, the last occurrence first. -/
structure Watch where
  thread : MonitorThread
  history : List WatchOccurrence

namespace Watch

def started : Watch := ⟨.started, []⟩

def step (times : MonitorTimes) (watch : Watch) : WatchMove → Watch
  | .move move =>
      ⟨watch.thread.step times move, (watch.thread.occurrence? times move).toList ++ watch.history⟩
  | .askToStop => { watch with thread := { watch.thread with stopAsked := true } }

def run (times : MonitorTimes) : Watch → List WatchMove → Watch := List.foldl (step times)

def answered (answers : List Bool) : List WatchOccurrence :=
  answers.map .heard ++ [.guarded]

def IsCancelled (times : MonitorTimes) (history : List WatchOccurrence) : Prop :=
  times.CanPoll ∧
    ∃ answers, history = .cancelled :: answered answers ∧ answers ≠ [] ∧ times.Suffices answers

/-- Where a monitor stands tells what has occurred. -/
def Tells (times : MonitorTimes) (history : List WatchOccurrence) : MonitorStage → Prop
  | .absent => False
  | .guarding => history = []
  | .waiting monitor => times.guard.isTooLong = false ∧ ∃ answers, history = answered answers ∧
      monitor.heard = times.voiceTime (unbroken answers)
  | .asking monitor => times.CanPoll ∧ ∃ answers, history = answered answers ∧
      monitor.heard = times.voiceTime (unbroken answers)
  | .cancelling => times.CanPoll ∧ ∃ answers, history = answered answers ∧ answers ≠ [] ∧
      times.Suffices answers
  | .ended => .cancelled ∉ history ∨ IsCancelled times history

theorem cancelled_not_mem_answered (answers : List Bool) : .cancelled ∉ answered answers := by
  simp [answered]

section

variable {times : MonitorTimes} {watch : Watch}

theorem Tells.not_cancelled {stage : MonitorStage} (h : Tells times watch.history stage)
    (hended : stage ≠ .ended) : .cancelled ∉ watch.history := by
  cases stage with
  | absent => exact h.elim
  | guarding =>
      rw [show watch.history = [] from h]
      exact List.not_mem_nil
  | waiting | asking | cancelling =>
      obtain ⟨-, answers, hhistory, -⟩ := h
      rw [hhistory]
      exact cancelled_not_mem_answered answers
  | ended => exact absurd rfl hended

theorem tells_seeStop (h : Tells times watch.history watch.thread.stage)
    (hended : watch.thread.stage ≠ .ended) :
    Tells times watch.history watch.thread.seeStop.stage := by
  unfold MonitorThread.seeStop
  split
  · exact Or.inl (h.not_cancelled hended)
  · exact h

/-- A wait that is too long ends the monitor, and otherwise it goes on. -/
theorem tells_afterWait {seconds : Quantity} {next : MonitorStage} {history : List WatchOccurrence}
    (hnone : .cancelled ∉ history) (h : seconds.isTooLong = false → Tells times history next) :
    Tells times history (MonitorThread.afterWait seconds next) := by
  unfold MonitorThread.afterWait
  split
  · exact Or.inl hnone
  · rename_i hwait
    exact h (eq_false_of_ne_true hwait)

/-- A poll adds its answer, and the monitor heeds whether the voice suffices. -/
theorem tells_heed (hpolls : times.CanPoll) {monitor : Monitor} {answers : List Bool}
    (hheard : monitor.heard = times.voiceTime (unbroken answers)) (voice : Bool) :
    Tells times (answered (voice :: answers))
      (MonitorThread.heed (monitor.poll times voice)) := by
  unfold MonitorThread.heed
  split
  · rename_i htriggered
    exact ⟨hpolls, voice :: answers, rfl, List.cons_ne_nil _ _,
      (Monitor.triggered_poll hheard voice).mp htriggered⟩
  · exact ⟨hpolls.1, voice :: answers, rfl, Monitor.heard_poll hheard voice⟩

/-- The time of guarding passes, or the monitor ends without having begun. -/
theorem tells_guarded (stopAsked : Bool) :
    let watch : Watch := step times ⟨⟨.guarding, stopAsked⟩, []⟩ (.move .waitOut)
    Tells times watch.history watch.thread.stage := by
  cases hguard : times.guard.isTooLong with
  | true =>
      have hended : step times ⟨⟨.guarding, stopAsked⟩, []⟩ (.move .waitOut) =
          ⟨⟨.ended, stopAsked⟩, []⟩ := by
        simp [step, MonitorThread.step, MonitorThread.occurrence?, MonitorThread.afterWait, hguard]
      rw [hended]
      exact Or.inl List.not_mem_nil
  | false =>
      have hbegins : step times ⟨⟨.guarding, stopAsked⟩, []⟩ (.move .waitOut) =
          ⟨⟨.waiting .initial, stopAsked⟩, answered []⟩ := by
        simp [step, MonitorThread.step, MonitorThread.occurrence?, MonitorThread.afterWait, hguard,
          answered]
      rw [hbegins]
      exact ⟨hguard, [], rfl, rfl⟩

theorem tells_step (h : Tells times watch.history watch.thread.stage) (move : WatchMove) :
    Tells times (watch.step times move).history (watch.step times move).thread.stage := by
  obtain ⟨⟨stage, stopAsked⟩, history⟩ := watch
  cases move with
  | askToStop => exact h
  | move move =>
      cases stage with
      | absent => exact h.elim
      | guarding =>
          cases move with
          | seeStop => exact tells_seeStop h nofun
          | waitOut =>
              obtain rfl : history = [] := h
              exact tells_guarded stopAsked
          | hear | cancel => exact h
      | waiting monitor =>
          cases move with
          | seeStop => exact tells_seeStop h nofun
          | waitOut =>
              exact tells_afterWait (h.not_cancelled nofun) fun hpoll => ⟨⟨h.1, hpoll⟩, h.2⟩
          | hear | cancel => exact h
      | asking monitor =>
          cases move with
          | hear voice =>
              obtain ⟨hpolls, answers, rfl, hheard⟩ := h
              exact tells_heed hpolls hheard voice
          | seeStop | waitOut | cancel => exact h
      | cancelling =>
          cases move with
          | cancel =>
              obtain ⟨hpolls, answers, rfl, hsome, hsuffices⟩ := h
              exact Or.inr ⟨hpolls, answers, rfl, hsome, hsuffices⟩
          | seeStop | waitOut | hear => exact h
      | ended => cases move <;> exact h

theorem tells_run (h : Tells times watch.history watch.thread.stage) (moves : List WatchMove) :
    Tells times (watch.run times moves).history (watch.run times moves).thread.stage := by
  induction moves generalizing watch with
  | nil => exact h
  | cons move rest ih => exact ih (tells_step h move)

/-- A speech is cancelled as the last thing that a monitor does, behind an answer
with which the voice suffices. -/
theorem isCancelled_of_mem (moves : List WatchMove)
    (h : .cancelled ∈ (started.run times moves).history) :
    IsCancelled times (started.run times moves).history := by
  have hstart : Tells times started.history started.thread.stage := rfl
  have htells := tells_run hstart moves
  by_cases hended : (started.run times moves).thread.stage = .ended
  · rw [hended] at htells
    exact htells.resolve_left (not_not_intro h)
  · exact absurd h (htells.not_cancelled hended)

end

def polls (voices : List Bool) : List WatchMove :=
  .move .waitOut :: (MonitorThread.polls voices).map .move

theorem thread_run_map (times : MonitorTimes) (watch : Watch) (moves : List MonitorMove) :
    (watch.run times (moves.map .move)).thread = moves.foldl (MonitorThread.step times)
      watch.thread := by
  induction moves generalizing watch with
  | nil => rfl
  | cons move rest ih => exact ih (watch.step times (.move move))

theorem thread_step_guarded {times : MonitorTimes} (hguard : times.guard.isTooLong = false) :
    (started.step times (.move .waitOut)).thread = ⟨.waiting .initial, false⟩ :=
  congrArg (MonitorThread.mk · false) (MonitorThread.afterWait_of_not_isTooLong hguard _)

/-- A monitor cancels the speech at most once and as the last thing that it does.
Before, its time of guarding has passed and it has polled, and the voice that was
heard without a break up to the last poll has lasted for the least time. The last
poll can be one that heard no voice exactly if the least time is not above zero and
the monitor can poll. Watching the answers of polls is such a run. -/
theorem run_cancels_by_voice (times : MonitorTimes) :
    (∀ moves, .cancelled ∈ (started.run times moves).history →
      ∃ voice answers,
        (started.run times moves).history = .cancelled :: .heard voice :: answered answers ∧
          times.Suffices (voice :: answers) ∧ (voice = true ∨ times.least.le (.binary .zero))) ∧
    ((∃ moves earlier, (started.run times moves).history = .cancelled :: .heard false :: earlier) ↔
      times.least.le (.binary .zero) ∧ times.CanPoll) ∧
    (times.CanPoll → ∀ voices, (started.run times (polls voices)).thread.stage =
      MonitorThread.heed (Monitor.initial.watch times voices).1) := by
  refine ⟨fun moves h => ?_, ⟨?_, ?_⟩, fun hpolls voices => ?_⟩
  · obtain ⟨-, answers, hhistory, hsome, hsuffices⟩ := isCancelled_of_mem moves h
    obtain ⟨voice, answers, rfl⟩ := List.exists_cons_of_ne_nil hsome
    refine ⟨voice, answers, hhistory, hsuffices, ?_⟩
    cases voice with
    | false => exact Or.inr ((times.suffices_cons_false answers).mp hsuffices)
    | true => exact Or.inl rfl
  · rintro ⟨moves, earlier, hhistory⟩
    obtain ⟨hpolls, answers, hcancelled, -, hsuffices⟩ :=
      isCancelled_of_mem moves (by rw [hhistory]; exact List.mem_cons_self)
    rw [hhistory] at hcancelled
    cases answers with
    | nil => cases hcancelled
    | cons voice answers =>
        cases hcancelled
        exact ⟨(times.suffices_cons_false answers).mp hsuffices, hpolls⟩
  · -- the first poll hears nothing, and that is enough
    rintro ⟨hleast, hguard, hpoll⟩
    have hheed : MonitorThread.heed (Monitor.initial.poll times false) = .cancelling :=
      if_pos hleast
    refine ⟨[.move .waitOut, .move .waitOut, .move (.hear false), .move .cancel], [.guarded], ?_⟩
    simp [run, step, started, MonitorThread.started, MonitorThread.step,
      MonitorThread.occurrence?, MonitorThread.afterWait, hguard, hpoll, hheed]
  · have hthread := thread_run_map times (started.step times (.move .waitOut))
      (MonitorThread.polls voices)
    rw [thread_step_guarded hpolls.1,
      MonitorThread.foldl_step_polls hpolls.2 voices .initial false rfl] at hthread
    exact congrArg MonitorThread.stage hthread

/-- With a least time of zero the first poll cancels the speech, though nobody
speaks. Such settings are accepted. -/
theorem cancels_without_voice :
    ((Settings.ofFields (Settings.fieldsOf (.record
        [("barge_in", .flag true), ("barge_in_min_seconds", .number "0")]))).toOption.map
      fun settings => (started.run settings.monitorTimes
        [.move .waitOut, .move .waitOut, .move (.hear false), .move .cancel]).history) =
      some [.cancelled, .heard false, .guarded] := by
  decide +kernel

end Watch

end SpokenCalculator
