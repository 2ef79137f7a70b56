import SpokenCalculator.Proofs.Audio.Gate
import SpokenCalculator.Proofs.Audio.Streams

namespace SpokenCalculator

/-- A call, and the time on the clock of the stream that is held then. When the
call opens a stream, it is the time of its opening. -/
structure TimedCall where
  now : Rat
  call : MicrophoneCall

/-- A microphone and what the clocks showed: at the last call, when the held
stream was opened, and at the last unmuting since. And the stream whose clock
showed the time that the microphone has noted. -/
structure ClockedMicrophone where
  system : MicrophoneSystem
  now : Rat
  openedAt : Rat
  unmutedAt : Option Rat
  notedFrom : Option Nat

theorem Microphone.isLate_eq {delivery : Delivery} {amount : Quantity}
    (h : delivery.recordedAt = some amount) (microphone : Microphone) :
    microphone.isLate delivery = (!amount.isZero && amount.lt microphone.unmutedAt) := by
  unfold isLate
  rw [h]

theorem Microphone.isLate_iff {microphone : Microphone} {delivery : Delivery} {amount : Quantity}
    {time noted : Rat} (hrecorded : delivery.recordedAt = some amount) (htime : amount.Reads time)
    (hnoted : microphone.unmutedAt.Reads noted) :
    microphone.isLate delivery = true ↔ time ≠ 0 ∧ time < noted := by
  rw [isLate_eq hrecorded, Bool.and_eq_true, htime.lt_iff hnoted, Bool.not_eq_true',
    Bool.eq_false_iff, ne_eq, htime.isZero_iff]

namespace MicrophoneSystem

/-- The stream whose clock can be read. -/
def readableClock (system : MicrophoneSystem) : Option Nat :=
  if system.device.timeFailure.isNone then system.microphone.stream else none

/-- Does the request unmute the microphone? It does not if reading the clock fails
in a way that is not handled. -/
def unmutes (system : MicrophoneSystem) : MicrophoneRequest → Bool
  | .unmute => (streamTime system).isOk
  | _ => false

theorem unmutedAt_step (system : MicrophoneSystem) (call : MicrophoneCall)
    (h : unmutes { system with device := call.device } call.request = false) :
    (system.step call).microphone.unmutedAt = system.microphone.unmutedAt := by
  obtain ⟨device, request⟩ := call
  cases request with
  | start => exact (leavesGate_start.sameGate { system with device }).2.2.2
  | enter => exact (leavesGate_start.sameGate { system with device }).2.2.2
  | close => exact (leavesGate_close.sameGate { system with device }).2.2.2
  | leave => exact (leavesGate_close.sameGate { system with device }).2.2.2
  | mute => rfl
  | unmute =>
      change (unmute.perform { system with device }).2.microphone.unmutedAt = _
      rw [perform_unmute]
      dsimp only [unmutes] at h
      cases hread : streamTime { system with device } with
      | ok amount =>
          rw [hread] at h
          cases h
      | error failure => rfl
  | deliver delivery => exact (Microphone.gate_deliver _ delivery _).2
  | capture maxSeconds =>
      rw [step_capture]
      exact (gate_capture maxSeconds { system with device }).2

/-- A call leaves the held stream, lets go of it or opens the next one. -/
theorem stream_step_cases (system : MicrophoneSystem) (call : MicrophoneCall) :
    (system.step call).microphone.stream = system.microphone.stream ∨
      (system.step call).microphone.stream = none ∨
      (system.step call).microphone.stream = some system.microphone.openedStreams := by
  have htraffic := traffic_step system call
  generalize system.lost? call = lost at htraffic
  cases htraffic with
  | nothing hafter => exact Or.inl hafter.1
  | opened hheld hstarted hafter => exact Or.inr (Or.inr hafter.1)
  | refused hheld hafter => exact Or.inr (Or.inl hafter.1)
  | closed hheld hafter => exact Or.inr (Or.inl hafter.1)
  | unstopped hheld hafter => exact Or.inr (Or.inl hafter.1)

theorem openedStreams_le_step (system : MicrophoneSystem) (call : MicrophoneCall) :
    system.microphone.openedStreams ≤ (system.step call).microphone.openedStreams := by
  have htraffic := traffic_step system call
  generalize system.lost? call = lost at htraffic
  cases htraffic with
  | nothing hafter => exact hafter.2.1.ge
  | opened hheld hstarted hafter => exact (Nat.le_succ _).trans hafter.2.1.ge
  | refused hheld hafter => exact (Nat.le_succ _).trans hafter.2.1.ge
  | closed hheld hafter => exact hafter.2.1.ge
  | unstopped hheld hafter => exact hafter.2.1.ge

/-- An unmuting reads the time of a clock that can be read, and zero if there is
none. -/
theorem reads_streamTime {system : MicrophoneSystem} {now : Rat} {amount : Quantity}
    (hnow : system.device.time.Reads now) (h : streamTime system = .ok amount) :
    (system.readableClock = system.microphone.stream ∧ amount.Reads now) ∨
      system.readableClock = none ∧ amount.Reads 0 := by
  unfold streamTime at h
  unfold readableClock
  split at h
  · rename_i hstream
    cases h
    rw [hstream, ite_self]
    exact Or.inr ⟨rfl, Quantity.reads_zero⟩
  · rename_i stream hstream htime
    obtain ⟨x, hx, hvalue⟩ := hnow
    rw [hx] at h
    cases h
    rw [htime]
    exact Or.inl ⟨rfl, x, rfl, hvalue⟩
  · rename_i stream failure hstream htime
    split at h
    · cases h
      rw [htime]
      exact Or.inr ⟨rfl, Quantity.reads_zero⟩
    · cases h

end MicrophoneSystem

namespace ClockedMicrophone

open MicrophoneSystem (Numbered)

def initial (settings : MicrophoneSettings) (device : AudioDevice) : ClockedMicrophone :=
  ⟨.initial settings device, 0, 0, none, none⟩

def step (clocked : ClockedMicrophone) (timed : TimedCall) : ClockedMicrophone :=
  let before : MicrophoneSystem := { clocked.system with device := timed.call.device }
  let next := { clocked with system := clocked.system.step timed.call, now := timed.now }
  if before.unmutes timed.call.request then
    { next with
      unmutedAt := some timed.now
      notedFrom := if before.microphone.muted then before.readableClock else clocked.notedFrom }
  else if next.system.microphone.stream = before.microphone.stream then next
  else { next with openedAt := timed.now, unmutedAt := none }

def run : ClockedMicrophone → List TimedCall → ClockedMicrophone := List.foldl step

def Allows (allowed : ClockedMicrophone → TimedCall → Prop) :
    ClockedMicrophone → List TimedCall → Prop
  | _, [] => True
  | clocked, timed :: calls => allowed clocked timed ∧ Allows allowed (clocked.step timed) calls

/-- The clock of a stream does not go back while the stream is held. -/
def OwnClock (clocked : ClockedMicrophone) (timed : TimedCall) : Prop :=
  timed.call.device.time.Reads timed.now ∧
    ∀ stream, clocked.system.microphone.stream = some stream →
      (clocked.step timed).system.microphone.stream = some stream → clocked.now ≤ timed.now

/-- No clock goes back behind another. -/
def OneClock (clocked : ClockedMicrophone) (timed : TimedCall) : Prop :=
  timed.call.device.time.Reads timed.now ∧ clocked.now ≤ timed.now

/-- What a call does to the held stream, to the noted time and to the times beside
them. -/
inductive Effect (before after : ClockedMicrophone) : Prop
  | kept (hstream : after.system.microphone.stream = before.system.microphone.stream)
      (hopened : after.openedAt = before.openedAt)
      (hunmuted : after.unmutedAt = before.unmutedAt ∨ after.unmutedAt = some after.now)
      (hnoted : after.system.microphone.unmutedAt = before.system.microphone.unmutedAt)
      (hsource : after.notedFrom = before.notedFrom)
  | changed (hstream : after.system.microphone.stream = none ∨
        after.system.microphone.stream = some before.system.microphone.openedStreams)
      (hopened : after.openedAt = after.now) (hunmuted : after.unmutedAt = none)
      (hnoted : after.system.microphone.unmutedAt = before.system.microphone.unmutedAt)
      (hsource : after.notedFrom = before.notedFrom)
  | noted (hstream : after.system.microphone.stream = before.system.microphone.stream)
      (hopened : after.openedAt = before.openedAt) (hunmuted : after.unmutedAt = some after.now)
      (hnoted : (after.notedFrom = before.system.microphone.stream ∧
          after.system.microphone.unmutedAt.Reads after.now) ∨
        after.notedFrom = none ∧ after.system.microphone.unmutedAt.Reads 0)

variable {clocked : ClockedMicrophone} {timed : TimedCall}

theorem step_unmute {device : AudioDevice} {now : Rat} {amount : Quantity}
    (h : MicrophoneSystem.streamTime { clocked.system with device } = .ok amount) :
    clocked.step ⟨now, device, .unmute⟩ =
      { clocked with
        system := { clocked.system with
          device, microphone := clocked.system.microphone.unmuteAt amount }
        now, unmutedAt := some now
        notedFrom :=
          if clocked.system.microphone.muted then
            MicrophoneSystem.readableClock { clocked.system with device }
          else clocked.notedFrom } := by
  have hunmutes : MicrophoneSystem.unmutes { clocked.system with device } .unmute = true := by
    dsimp only [MicrophoneSystem.unmutes]
    rw [h]
    rfl
  have hsystem : clocked.system.step ⟨device, .unmute⟩ = { clocked.system with
      device, microphone := clocked.system.microphone.unmuteAt amount } := by
    change (MicrophoneSystem.unmute.perform { clocked.system with device }).2 = _
    rw [MicrophoneSystem.perform_unmute, h]
    rfl
  unfold step
  dsimp only
  rw [if_pos hunmutes, hsystem]

theorem effect_step (clocked : ClockedMicrophone)
    (hnow : timed.call.device.time.Reads timed.now) : Effect clocked (clocked.step timed) := by
  obtain ⟨now, device, request⟩ := timed
  -- A time is noted only by an unmuting that does not fail and ends a muting.
  cases hunmutes : MicrophoneSystem.unmutes { clocked.system with device } request with
  | true =>
      cases request with
      | unmute =>
          dsimp only [MicrophoneSystem.unmutes] at hunmutes
          cases hread : MicrophoneSystem.streamTime { clocked.system with device } with
          | error failure =>
              rw [hread] at hunmutes
              cases hunmutes
          | ok amount =>
              rw [step_unmute hread]
              cases hmuted : clocked.system.microphone.muted with
              | false =>
                  rw [Microphone.unmuteAt_of_unmuted hmuted]
                  exact .kept rfl rfl (Or.inr rfl) rfl rfl
              | true =>
                  rw [Microphone.unmuteAt_of_muted hmuted]
                  exact .noted rfl rfl rfl (MicrophoneSystem.reads_streamTime hnow hread)
      | _ => cases hunmutes
  | false =>
      have hnoted := MicrophoneSystem.unmutedAt_step clocked.system ⟨device, request⟩ hunmutes
      have hstream := MicrophoneSystem.stream_step_cases clocked.system ⟨device, request⟩
      unfold step
      dsimp only
      rw [if_neg (ne_true_of_eq_false hunmutes)]
      split
      · rename_i hkept
        exact .kept hkept rfl (Or.inl rfl) hnoted rfl
      · rename_i hchanged
        exact .changed (hstream.resolve_left hchanged) rfl rfl hnoted rfl

theorem system_step (clocked : ClockedMicrophone) (timed : TimedCall) :
    (clocked.step timed).system = clocked.system.step timed.call ∧
      (clocked.step timed).now = timed.now := by
  unfold step
  dsimp only
  split
  · exact ⟨rfl, rfl⟩
  · split <;> exact ⟨rfl, rfl⟩

theorem run_keeps {inv : ClockedMicrophone → Prop}
    {allowed : ClockedMicrophone → TimedCall → Prop}
    (hstep : ∀ clocked timed, inv clocked → allowed clocked timed → inv (clocked.step timed))
    {calls : List TimedCall} (h : inv clocked) (hcalls : Allows allowed clocked calls) :
    inv (clocked.run calls) := by
  induction calls generalizing clocked with
  | nil => exact h
  | cons timed calls ih => exact ih (hstep clocked timed h hcalls.1) hcalls.2

/-- A time that was noted from the clock of the held stream is no later than the
last unmuting. -/
structure Ordered (clocked : ClockedMicrophone) : Prop where
  numbered : clocked.system.Numbered
  source : ∀ stream, clocked.notedFrom = some stream →
    stream < clocked.system.microphone.openedStreams
  noted : ∃ time, clocked.system.microphone.unmutedAt.Reads time ∧
    ∀ stream, clocked.system.microphone.stream = some stream → clocked.notedFrom = some stream →
      time ≤ clocked.now ∧ ∃ unmuted ∈ clocked.unmutedAt, time ≤ unmuted

theorem Ordered.initial (settings : MicrophoneSettings) (device : AudioDevice) :
    (initial settings device).Ordered where
  numbered := MicrophoneSystem.numbered_initial settings device
  source := nofun
  noted := ⟨0, Quantity.reads_zero, nofun⟩

theorem Ordered.step (h : clocked.Ordered) (hallowed : clocked.OwnClock timed) :
    (clocked.step timed).Ordered := by
  obtain ⟨hsystem, htime⟩ := clocked.system_step timed
  obtain ⟨hnow, hpaced⟩ := hallowed
  obtain ⟨time, hreads, hlast⟩ := h.noted
  have hnumbered : (clocked.step timed).system.Numbered := by
    rw [hsystem]
    exact (MicrophoneSystem.accounts_step h.numbered timed.call).1
  have hcount : clocked.system.microphone.openedStreams ≤
      (clocked.step timed).system.microphone.openedStreams := by
    rw [hsystem]
    exact clocked.system.openedStreams_le_step timed.call
  cases clocked.effect_step hnow with
  | kept hstream hopened hunmuted hnoted hsource =>
      refine ⟨hnumbered, fun stream hfrom => ?_, time, hnoted ▸ hreads,
        fun stream hheld hfrom => ?_⟩
      · exact (h.source stream (hsource ▸ hfrom)).trans_le hcount
      · have hbefore := hstream ▸ hheld
        obtain ⟨hle, unmuted, hmem, hlast⟩ := hlast stream hbefore (hsource ▸ hfrom)
        have hlater : time ≤ (clocked.step timed).now :=
          hle.trans (htime ▸ hpaced stream hbefore hheld)
        rcases hunmuted with hsame | hnew
        · exact ⟨hlater, unmuted, hsame ▸ hmem, hlast⟩
        · exact ⟨hlater, _, hnew, hlater⟩
  | changed hstream hopened hunmuted hnoted hsource =>
      refine ⟨hnumbered, fun stream hfrom => ?_, time, hnoted ▸ hreads,
        fun stream hheld hfrom => ?_⟩
      · exact (h.source stream (hsource ▸ hfrom)).trans_le hcount
      · -- The noted time comes from an earlier stream than the new one.
        have hold := h.source stream (hsource ▸ hfrom)
        rcases hstream with hnone | hnew
        · rw [hnone] at hheld
          cases hheld
        · rw [hnew] at hheld
          exact absurd (Option.some.inj hheld) hold.ne'
  | noted hstream hopened hunmuted hnoted =>
      rcases hnoted with ⟨hsource, hreads⟩ | ⟨hsource, hreads⟩
      · refine ⟨hnumbered, fun stream hfrom => ?_, _, hreads, fun stream hheld hfrom => ?_⟩
        · obtain ⟨hopen, -⟩ := h.numbered.held stream (hsource ▸ hfrom)
          exact ((h.numbered.opened stream).mp hopen).trans_le hcount
        · exact ⟨le_rfl, _, hunmuted, le_rfl⟩
      · refine ⟨hnumbered, fun stream hfrom => ?_, _, hreads, fun stream hheld hfrom => ?_⟩
        · rw [hsource] at hfrom
          cases hfrom
        · rw [hsource] at hfrom
          cases hfrom

/-- On one clock the noted time is no later than the opening of the held stream or
the last unmuting since. -/
structure Dated (clocked : ClockedMicrophone) : Prop where
  nonneg : 0 ≤ clocked.now
  noted : ∃ time, clocked.system.microphone.unmutedAt.Reads time ∧ time ≤ clocked.now ∧
    (clocked.system.microphone.stream.isSome → 0 ≤ clocked.openedAt ∧
      (time ≤ clocked.openedAt ∨ ∃ unmuted ∈ clocked.unmutedAt, time ≤ unmuted))

theorem Dated.initial (settings : MicrophoneSettings) (device : AudioDevice) :
    (initial settings device).Dated where
  nonneg := le_rfl
  noted := ⟨0, Quantity.reads_zero, le_rfl, nofun⟩

theorem Dated.step (h : clocked.Dated) (hallowed : clocked.OneClock timed) :
    (clocked.step timed).Dated := by
  obtain ⟨-, htime⟩ := clocked.system_step timed
  obtain ⟨hnow, hlater⟩ := hallowed
  rw [← htime] at hlater
  obtain ⟨time, hreads, hle, hheld⟩ := h.noted
  refine ⟨h.nonneg.trans hlater, ?_⟩
  cases clocked.effect_step hnow with
  | kept hstream hopened hunmuted hnoted hsource =>
      refine ⟨time, hnoted ▸ hreads, hle.trans hlater, fun hsome => ?_⟩
      obtain ⟨hnonneg, hbefore⟩ := hheld (hstream ▸ hsome)
      rw [hopened]
      refine ⟨hnonneg, ?_⟩
      rcases hunmuted with hsame | hnew
      · exact hsame ▸ hbefore
      · exact Or.inr ⟨_, hnew, hle.trans hlater⟩
  | changed hstream hopened hunmuted hnoted hsource =>
      refine ⟨time, hnoted ▸ hreads, hle.trans hlater, fun hsome => ?_⟩
      rw [hopened]
      exact ⟨h.nonneg.trans hlater, Or.inl (hle.trans hlater)⟩
  | noted hstream hopened hunmuted hnoted =>
      rcases hnoted with ⟨-, hreads⟩ | ⟨-, hreads⟩
      · refine ⟨_, hreads, le_rfl, fun hsome => ?_⟩
        rw [hopened]
        exact ⟨(hheld (hstream ▸ hsome)).1, Or.inr ⟨_, hunmuted, le_rfl⟩⟩
      · refine ⟨0, hreads, h.nonneg.trans hlater, fun hsome => ?_⟩
        rw [hopened]
        exact ⟨(hheld (hstream ▸ hsome)).1, Or.inl (hheld (hstream ▸ hsome)).1⟩

/-- The block comes from the stream that is held, while unmuted. If the device tells
when it was recorded, that was after the opening of the stream and after the last
unmuting. A time of zero tells nothing. -/
structure Live (clocked : ClockedMicrophone) (delivery : Delivery) : Prop where
  held : clocked.system.microphone.stream.isSome
  unmuted : clocked.system.microphone.muted = false
  recorded : ∀ amount, delivery.recordedAt = some amount → ∃ time, amount.Reads time ∧
    (time ≠ 0 → clocked.openedAt ≤ time ∧ ∀ unmuted ∈ clocked.unmutedAt, unmuted ≤ time)

/-- The block was recorded before the noted time, but that is not from the clock of
the stream that is held. -/
def Overtaken (clocked : ClockedMicrophone) (delivery : Delivery) : Prop :=
  clocked.notedFrom ≠ clocked.system.microphone.stream ∧
    ∃ amount time noted, delivery.recordedAt = some amount ∧ amount.Reads time ∧ time ≠ 0 ∧
      clocked.system.microphone.unmutedAt.Reads noted ∧ time < noted

variable {delivery : Delivery}

theorem Live.exists_time (h : clocked.Live delivery)
    (hlate : clocked.system.microphone.isLate delivery = true) :
    ∃ amount time, delivery.recordedAt = some amount ∧ amount.Reads time ∧ time ≠ 0 ∧
      clocked.openedAt ≤ time ∧ ∀ unmuted ∈ clocked.unmutedAt, unmuted ≤ time := by
  cases hrecorded : delivery.recordedAt with
  | none =>
      unfold Microphone.isLate at hlate
      rw [hrecorded] at hlate
      cases hlate
  | some amount =>
      obtain ⟨time, htime, hsince⟩ := h.recorded amount hrecorded
      have hzero : time ≠ 0 := by
        intro hzero
        rw [Microphone.isLate_eq hrecorded, htime.isZero_iff.mpr hzero] at hlate
        cases hlate
      exact ⟨amount, time, rfl, htime, hzero, hsince hzero⟩

theorem Ordered.overtaken_of_isLate (h : clocked.Ordered) (hlive : clocked.Live delivery)
    (hlate : clocked.system.microphone.isLate delivery = true) : clocked.Overtaken delivery := by
  obtain ⟨amount, time, hrecorded, htime, hzero, -, hsince⟩ := hlive.exists_time hlate
  obtain ⟨noted, hnoted, hlast⟩ := h.noted
  have hlt := ((Microphone.isLate_iff hrecorded htime hnoted).mp hlate).2
  refine ⟨fun hsource => ?_, amount, time, noted, hrecorded, htime, hzero, hnoted, hlt⟩
  obtain ⟨stream, hstream⟩ := Option.isSome_iff_exists.mp hlive.held
  obtain ⟨-, unmuted, hmem, hle⟩ := hlast stream hstream (hsource.trans hstream)
  exact absurd (hlt.trans_le hle) (hsince unmuted hmem).not_gt

theorem Overtaken.isLate (h : clocked.Overtaken delivery) :
    clocked.system.microphone.isLate delivery = true := by
  obtain ⟨-, amount, time, noted, hrecorded, htime, hzero, hnoted, hlt⟩ := h
  exact (Microphone.isLate_iff hrecorded htime hnoted).mpr ⟨hzero, hlt⟩

theorem Dated.not_isLate (h : clocked.Dated) (hlive : clocked.Live delivery) :
    ¬ clocked.system.microphone.isLate delivery = true := by
  intro hlate
  obtain ⟨amount, time, hrecorded, htime, -, hopened, hsince⟩ := hlive.exists_time hlate
  obtain ⟨noted, hnoted, -, hheld⟩ := h.noted
  have hlt := ((Microphone.isLate_iff hrecorded htime hnoted).mp hlate).2
  rcases (hheld hlive.held).2 with hle | ⟨unmuted, hmem, hle⟩
  · exact absurd (hlt.trans_le hle) hopened.not_gt
  · exact absurd (hlt.trans_le hle) (hsince unmuted hmem).not_gt

theorem queue_deliver_iff (hmuted : clocked.system.microphone.muted = false)
    (delivery : Delivery) :
    ((MicrophoneSystem.deliver delivery).perform clocked.system).2.microphone.queue =
        clocked.system.microphone.queue ++ [delivery.samples] ↔
      ¬ clocked.system.microphone.isLate delivery = true := by
  change (Microphone.deliver clocked.system.settings.threshold delivery _).queue = _ ↔ _
  rw [Microphone.queue_deliver_of_unmuted hmuted]
  split
  · rename_i hlate
    exact iff_of_false (by simp) (not_not_intro hlate)
  · rename_i hlate
    exact iff_of_true rfl hlate

/-- After any calls, where the clock of each stream does not go back, a live block
joins the queue unless the microphone has noted a later time from another clock.
And if all streams show one clock, every live block joins the queue. -/
theorem deliver_live (settings : MicrophoneSettings) (device : AudioDevice)
    (calls : List TimedCall) (delivery : Delivery)
    (hlive : ((initial settings device).run calls).Live delivery) :
    let clocked := (initial settings device).run calls
    let queue := ((MicrophoneSystem.deliver delivery).perform clocked.system).2.microphone.queue
    (Allows OwnClock (initial settings device) calls →
      (queue = clocked.system.microphone.queue ++ [delivery.samples] ↔
        ¬ clocked.Overtaken delivery)) ∧
    (Allows OneClock (initial settings device) calls →
      queue = clocked.system.microphone.queue ++ [delivery.samples]) := by
  intro clocked queue
  have hqueue := queue_deliver_iff hlive.unmuted delivery
  constructor
  · intro hcalls
    have hordered : clocked.Ordered :=
      run_keeps (fun _ _ h hallowed => h.step hallowed) (.initial settings device) hcalls
    rw [hqueue]
    exact not_congr ⟨hordered.overtaken_of_isLate hlive, Overtaken.isLate⟩
  · intro hcalls
    have hdated : clocked.Dated :=
      run_keeps (fun _ _ h hallowed => h.step hallowed) (.initial settings device) hcalls
    exact hqueue.mpr (hdated.not_isLate hlive)

def callAt (now : Nat) (request : MicrophoneRequest) : TimedCall :=
  ⟨now, MicrophoneSession.clockAt now, request⟩

def blockAt (time : Nat) : Delivery := ⟨[1, 2], some (.binary (.finite false ⟨time, 0⟩))⟩

/-- Muted at 2 and unmuted at 4. -/
def unmutedCalls : List TimedCall := [callAt 0 .start, callAt 2 .mute, callAt 4 .unmute]

theorem deliver_live_unmuted :
    let before := initial MicrophoneSession.twoSamples (MicrophoneSession.clockAt 0)
    let clocked := before.run unmutedCalls
    clocked.Live (blockAt 5) ∧ Allows OwnClock before unmutedCalls ∧
      Allows OneClock before unmutedCalls ∧ ¬ clocked.Overtaken (blockAt 5) ∧
      ((MicrophoneSystem.deliver (blockAt 5)).perform clocked.system).2.microphone.queue =
        [[1, 2]] := by
  intro before clocked
  have hlive : clocked.Live (blockAt 5) := by
    refine ⟨rfl, rfl, ?_⟩
    rintro _ ⟨⟩
    refine ⟨5, MicrophoneSession.reads_whole 5, fun _ => ⟨by decide, ?_⟩⟩
    rintro _ ⟨⟩
    decide
  have hreads := MicrophoneSession.reads_whole
  have hown : Allows OwnClock before unmutedCalls :=
    ⟨⟨hreads 0, fun _ _ _ => by decide⟩, ⟨hreads 2, fun _ _ _ => by decide⟩,
      ⟨hreads 4, fun _ _ _ => by decide⟩, trivial⟩
  have hone : Allows OneClock before unmutedCalls :=
    ⟨⟨hreads 0, by decide⟩, ⟨hreads 2, by decide⟩, ⟨hreads 4, by decide⟩, trivial⟩
  have hjoins := deliver_live MicrophoneSession.twoSamples (MicrophoneSession.clockAt 0)
    unmutedCalls (blockAt 5) hlive
  exact ⟨hlive, hown, hone, (hjoins.1 hown).mp (hjoins.2 hone), hjoins.2 hone⟩

/-- Unmuted at 1000, and then another stream is opened, whose clock begins at 0. -/
def reopenedCalls : List TimedCall :=
  [callAt 0 .start, callAt 1000 .mute, callAt 1000 .unmute, callAt 1000 .close, callAt 0 .start]

theorem deliver_loses_live_block :
    let before := initial MicrophoneSession.twoSamples (MicrophoneSession.clockAt 0)
    let clocked := before.run reopenedCalls
    Allows OwnClock before reopenedCalls ∧ clocked.Live (blockAt 5) ∧
      ((MicrophoneSystem.deliver (blockAt 5)).perform clocked.system).2.microphone.queue = [] := by
  intro before clocked
  have hreads := MicrophoneSession.reads_whole
  have hown : Allows OwnClock before reopenedCalls :=
    ⟨⟨hreads 0, fun _ _ _ => by decide⟩, ⟨hreads 1000, fun _ _ _ => by decide⟩,
      ⟨hreads 1000, fun _ _ _ => by decide⟩, ⟨hreads 1000, fun _ _ _ => by decide⟩,
      ⟨hreads 0, fun _ hclosed => by cases hclosed⟩, trivial⟩
  refine ⟨hown, ⟨rfl, rfl, ?_⟩, ?_⟩
  · rintro _ ⟨⟩
    exact ⟨5, hreads 5, fun _ => ⟨by decide, nofun⟩⟩
  · rfl

end ClockedMicrophone

end SpokenCalculator
