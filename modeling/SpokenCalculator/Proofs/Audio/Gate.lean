import SpokenCalculator.Proofs.Audio.Session
import Mathlib.Algebra.Order.Ring.Rat
import Mathlib.Tactic.Linarith

/-!
# The gate of the microphone

What was recorded between a muting and the unmuting that ends it is never
returned by a capture. The clock of the stream has to be positive and must not
go back, and every block has to tell when it was recorded. Blocks reach the gate
at any later time, and captures run at any pace beside it.
-/

namespace SpokenCalculator

def Quantity.Reads (amount : Quantity) (time : Rat) : Prop :=
  ∃ x : BinaryReal, amount = .binary x ∧ x.value? = some time

theorem BinaryReal.value?_finite_zero (exponent : Int) :
    (BinaryReal.finite false ⟨0, exponent⟩).value? = some 0 := by
  simp [BinaryReal.value?, BinaryMagnitude.ratio]

theorem Quantity.reads_zero : (Quantity.binary .zero).Reads 0 :=
  ⟨.zero, rfl, BinaryReal.value?_finite_zero _⟩

theorem Quantity.Reads.extended? {amount : Quantity} {time : Rat} (h : amount.Reads time) :
    amount.extended? = some (.finite time) := by
  obtain ⟨x, rfl, hvalue⟩ := h
  cases x with
  | finite negative magnitude =>
      have hextended : (Quantity.binary (.finite negative magnitude)).extended? =
        (BinaryReal.finite negative magnitude).value?.map Extended.finite := rfl
      rw [hextended, hvalue]
      rfl
  | infinite negative => contradiction
  | undefined => contradiction

theorem Quantity.Reads.lt_iff {x y : Quantity} {a b : Rat} (hx : x.Reads a) (hy : y.Reads b) :
    x.lt y = true ↔ a < b := by
  unfold Quantity.lt
  rw [hx.extended?, hy.extended?]
  exact decide_eq_true_iff

theorem Quantity.Reads.isZero_iff {amount : Quantity} {time : Rat} (h : amount.Reads time) :
    amount.isZero = true ↔ time = 0 := by
  have hzero : (Quantity.whole 0).extended? = some (.finite 0) := rfl
  unfold Quantity.isZero Quantity.le
  rw [h.extended?, hzero]
  change (!decide (0 < time) && !decide (time < 0)) = true ↔ _
  simp only [Bool.and_eq_true, Bool.not_eq_true', decide_eq_false_iff_not, not_lt]
  exact le_antisymm_iff.symm

theorem Quantity.Reads.isZero_eq_false {amount : Quantity} {time : Rat} (h : amount.Reads time)
    (hpositive : 0 < time) : amount.isZero = false :=
  Bool.eq_false_of_not_eq_true fun hzero => hpositive.ne' (h.isZero_iff.mp hzero)

def AudioDevice.Shows (device : AudioDevice) (now : Rat) : Prop :=
  device.timeFailure = none ∧ device.time.Reads now

/-- The sounds of a block were recorded one after another, from `opened` to
`now`, and the device tells when the first one was. -/
structure IsRecording (opened now : Rat) (block : List Sound) (recordedAt : Option Quantity) :
    Prop where
  told : ∀ sound ∈ block.head?, ∃ amount, recordedAt = some amount ∧ amount.Reads sound.time
  since : ∀ sound ∈ block.head?, opened ≤ sound.time
  ordered : block.Pairwise fun earlier later => earlier.time ≤ later.time
  complete : ∀ sound ∈ block.getLast?, sound.time ≤ now

namespace IsRecording

variable {opened now : Rat} {block : List Sound} {recordedAt : Option Quantity}

theorem time_le (h : IsRecording opened now block recordedAt) :
    ∀ sound ∈ block, sound.time ≤ now := by
  intro sound hsound
  obtain ⟨before, last, rfl⟩ := List.eq_nil_or_concat block |>.resolve_left
    (List.ne_nil_of_mem hsound)
  have hlast : last.time ≤ now := h.complete last (by simp)
  rcases List.mem_append.mp (List.concat_eq_append ▸ hsound) with hbefore | hend
  · have hordered := List.pairwise_append.mp (List.concat_eq_append ▸ h.ordered)
    exact (hordered.2.2 sound hbefore last (List.mem_singleton.mpr rfl)).trans hlast
  · rw [List.mem_singleton.mp hend]
    exact hlast

theorem exists_first (h : IsRecording opened now block recordedAt) (hblock : block ≠ []) :
    ∃ amount first, recordedAt = some amount ∧ amount.Reads first ∧ opened ≤ first ∧
      ∀ sound ∈ block, first ≤ sound.time := by
  obtain ⟨head, tail, rfl⟩ := List.exists_cons_of_ne_nil hblock
  obtain ⟨amount, htold, hreads⟩ := h.told head rfl
  refine ⟨amount, head.time, htold, hreads, h.since head rfl, ?_⟩
  intro sound hsound
  rcases List.mem_cons.mp hsound with rfl | htail
  · exact le_rfl
  · exact (List.pairwise_cons.mp h.ordered).1 sound htail

end IsRecording

/-- The time lies behind a muting and before every unmuting that follows it. -/
def Silenced (time : Rat) : List Occurrence → Prop
  | [] => False
  | .muted start :: earlier => start < time ∨ Silenced time earlier
  | .unmuted stop :: earlier => time < stop ∧ Silenced time earlier
  | .returned .. :: earlier => Silenced time earlier

theorem silenced_append {time : Rat} {later earlier : List Occurrence}
    (hlater : ∀ stop, .unmuted stop ∈ later → time < stop) (h : Silenced time earlier) :
    Silenced time (later ++ earlier) := by
  induction later with
  | nil => exact h
  | cons occurrence later ih =>
      have hrest := ih fun stop hstop => hlater stop (List.mem_cons_of_mem _ hstop)
      cases occurrence with
      | muted start => exact .inr hrest
      | unmuted stop => exact ⟨hlater stop List.mem_cons_self, hrest⟩
      | returned => exact hrest

/-- A time between a muting and the unmuting that ends it is silenced, as time
does not go back. -/
theorem silenced_of_between {time start stop : Rat} {later between earlier : List Occurrence}
    (hordered : (later ++ .unmuted stop :: between ++ .muted start :: earlier).Pairwise
      fun later earlier => earlier.time ≤ later.time)
    (hbetween : ∀ time, .unmuted time ∉ between) (hstart : start < time) (hstop : time < stop) :
    Silenced time (later ++ .unmuted stop :: between ++ .muted start :: earlier) := by
  rw [List.append_assoc] at hordered ⊢
  refine silenced_append ?_ ⟨hstop, silenced_append ?_ (.inl hstart)⟩
  · intro other hother
    have hle := (List.pairwise_append.mp hordered).2.2 _ hother _ List.mem_cons_self
    exact hstop.trans_le hle
  · intro other hother
    exact absurd hother (hbetween other)

namespace MicrophoneSession

/-- What the clock and the device promise: time does not go back, and blocks
come from the stream that is held, which has recorded them since it was
opened. -/
def Allows (session : MicrophoneSession) : Move → Prop
  | .tick device now => device.Shows now ∧ session.now ≤ now
  | .deliver block recordedAt =>
      ∃ opened ∈ session.openedAt, IsRecording opened session.now block recordedAt
  | _ => True

def Faithful : MicrophoneSession → List Move → Prop
  | _, [] => True
  | session, move :: rest => session.Allows move ∧ (session.step move).Faithful rest

/-- The clock, the stream and the gate against the history. While unmuted,
whatever was silenced lies before the last unmuting or before the opening of the
stream. -/
structure Timed (session : MicrophoneSession) : Prop where
  shows : session.system.device.Shows session.now
  positive : 0 < session.now
  past : ∀ occurrence ∈ session.history, occurrence.time ≤ session.now
  ordered : session.history.Pairwise fun later earlier => earlier.time ≤ later.time
  opened : ∀ opened ∈ session.openedAt, 0 < opened ∧ opened ≤ session.now
  held : session.system.microphone.stream = none → session.openedAt = none
  gate : ∃ unmuted, session.system.microphone.unmutedAt.Reads unmuted ∧ unmuted ≤ session.now ∧
    (session.system.microphone.muted = false → ∀ time, Silenced time session.history →
      time < session.now ∧ ∀ opened ∈ session.openedAt, time < unmuted ∨ time < opened)

namespace Timed

variable {session : MicrophoneSession}

theorem initial (settings : MicrophoneSettings) {device : AudioDevice} {now : Rat}
    (hshows : device.Shows now) (hpositive : 0 < now) :
    (MicrophoneSession.initial settings device now).Timed where
  shows := hshows
  positive := hpositive
  past := nofun
  ordered := .nil
  opened := nofun
  held _ := rfl
  gate := ⟨0, Quantity.reads_zero, hpositive.le, fun _ _ => False.elim⟩

theorem tick (h : session.Timed) {device : AudioDevice} {now : Rat} (hshows : device.Shows now)
    (hnow : session.now ≤ now) : (session.step (.tick device now)).Timed where
  shows := hshows
  positive := h.positive.trans_le hnow
  past := fun occurrence hmem => (h.past occurrence hmem).trans hnow
  ordered := h.ordered
  opened := fun opened hopened =>
    ⟨(h.opened opened hopened).1, (h.opened opened hopened).2.trans hnow⟩
  held := h.held
  gate := by
    obtain ⟨unmuted, hreads, hle, hgate⟩ := h.gate
    refine ⟨unmuted, hreads, hle.trans hnow, fun hmuted time htime => ?_⟩
    obtain ⟨hlt, hopened⟩ := hgate hmuted time htime
    exact ⟨hlt.trans_le hnow, hopened⟩

/-- An action about streams: a stream that it opens is younger than everything
silenced. -/
theorem act {α : Type} {action : Action MicrophoneSystem α} (h : session.Timed)
    (arrived : List (List Sound))
    (hdevice : (action.perform session.system).2.device = session.system.device)
    (hmuted : (action.perform session.system).2.microphone.muted = session.system.microphone.muted)
    (hunmutedAt : (action.perform session.system).2.microphone.unmutedAt =
      session.system.microphone.unmutedAt) :
    (session.act arrived action).Timed := by
  have hopenedAt : (session.act arrived action).openedAt = session.openedAt ∨
      ∀ opened ∈ (session.act arrived action).openedAt, opened = session.now := by
    unfold MicrophoneSession.act
    dsimp only
    split
    · exact .inl rfl
    · right
      intro opened hopened
      obtain ⟨_, -, rfl⟩ := Option.map_eq_some_iff.mp hopened
      rfl
  refine ⟨?_, h.positive, h.past, h.ordered, ?_, ?_, ?_⟩
  · change AudioDevice.Shows (action.perform session.system).2.device session.now
    rw [hdevice]
    exact h.shows
  · intro opened hopened
    rcases hopenedAt with hsame | hnew
    · exact h.opened opened (hsame ▸ hopened)
    · rw [hnew opened hopened]
      exact ⟨h.positive, le_rfl⟩
  · intro hstream
    change (action.perform session.system).2.microphone.stream = none at hstream
    unfold MicrophoneSession.act
    dsimp only
    split
    · rename_i hsame
      exact h.held (hsame ▸ hstream)
    · rw [hstream]
      rfl
  · obtain ⟨unmuted, hreads, hle, hgate⟩ := h.gate
    refine ⟨unmuted, ?_, hle, fun hunmuted time htime => ?_⟩
    · change Quantity.Reads (action.perform session.system).2.microphone.unmutedAt unmuted
      rw [hunmutedAt]
      exact hreads
    · obtain ⟨hlt, hbefore⟩ := hgate (hmuted ▸ hunmuted) time htime
      refine ⟨hlt, fun opened hopened => ?_⟩
      rcases hopenedAt with hsame | hnew
      · exact hbefore opened (hsame ▸ hopened)
      · rw [hnew opened hopened]
        exact .inr hlt

theorem act_of_leavesGate {α : Type} {action : Action MicrophoneSystem α} (h : session.Timed)
    (haction : MicrophoneSystem.LeavesGate action) : (session.act [] action).Timed := by
  obtain ⟨hdevice, -, hmuted, hunmutedAt⟩ := haction.sameGate session.system
  exact h.act [] hdevice hmuted hunmutedAt

theorem deliver (h : session.Timed) (block : List Sound) (recordedAt : Option Quantity) :
    (session.step (.deliver block recordedAt)).Timed := by
  rcases Microphone.deliver_cases session.system.settings.threshold
    ⟨block.map Sound.sample, recordedAt⟩ session.system.microphone with
    ⟨-, hmuted, hunmutedAt⟩ | ⟨-, -, -, hmuted, hunmutedAt⟩
  · exact h.act [block] rfl hmuted hunmutedAt
  · exact h.act [block] rfl hmuted hunmutedAt

theorem put (h : session.Timed) (capture : Nat) (stage : Capture) :
    (session.put capture stage).Timed :=
  ⟨h.shows, h.positive, h.past, h.ordered, h.opened, h.held, h.gate⟩

theorem pop (h : session.Timed) : session.pop.Timed :=
  ⟨h.shows, h.positive, h.past, h.ordered, h.opened, h.held, h.gate⟩

theorem past_cons (h : session.Timed) {occurrence : Occurrence}
    (htime : occurrence.time = session.now) :
    ∀ other ∈ occurrence :: session.history, other.time ≤ session.now := by
  intro other hmem
  rcases List.mem_cons.mp hmem with rfl | hold
  · exact htime.le
  · exact h.past other hold

theorem ordered_cons (h : session.Timed) {occurrence : Occurrence}
    (htime : occurrence.time = session.now) :
    (occurrence :: session.history).Pairwise fun later earlier => earlier.time ≤ later.time := by
  refine List.pairwise_cons.mpr ⟨fun other hmem => ?_, h.ordered⟩
  rw [htime]
  exact h.past other hmem

theorem note_returned (h : session.Timed) (chunk : Chunk) (sounds : List Sound) :
    (session.note (.returned session.now chunk sounds)).Timed :=
  ⟨h.shows, h.positive, h.past_cons rfl, h.ordered_cons rfl, h.opened, h.held, h.gate⟩

theorem mute (h : session.Timed) : (session.step .mute).Timed where
  shows := h.shows
  positive := h.positive
  past := h.past_cons rfl
  ordered := h.ordered_cons rfl
  opened := fun opened hopened => h.opened opened (session.openedAt_mute ▸ hopened)
  held := fun hstream => session.openedAt_mute.trans (h.held hstream)
  gate := by
    obtain ⟨unmuted, hreads, hle, -⟩ := h.gate
    exact ⟨unmuted, hreads, hle, nofun⟩

theorem exists_streamTime (h : session.Timed) : ∃ amount unmuted,
    MicrophoneSystem.streamTime session.system = .ok amount ∧ amount.Reads unmuted ∧
      unmuted ≤ session.now ∧ ∀ opened ∈ session.openedAt, unmuted = session.now := by
  obtain ⟨hfailure, x, htime, hvalue⟩ := h.shows
  unfold MicrophoneSystem.streamTime
  cases hstream : session.system.microphone.stream with
  | none =>
      refine ⟨.binary .zero, 0, rfl, Quantity.reads_zero, h.positive.le, fun opened hopened => ?_⟩
      rw [h.held hstream] at hopened
      contradiction
  | some stream =>
      refine ⟨.binary x, session.now, ?_, ⟨x, rfl, hvalue⟩, le_rfl, fun _ _ => rfl⟩
      rw [hfailure, htime]
      rfl

theorem unmute (h : session.Timed) : session.unmute.Timed := by
  obtain ⟨amount, unmuted, hamount, hreads, hle, hnow⟩ := h.exists_streamTime
  rw [unmute_eq hamount]
  refine ⟨h.shows, h.positive, h.past_cons rfl, h.ordered_cons rfl, h.opened, ?_, ?_⟩
  · intro hstream
    exact h.held ((Microphone.stream_unmuteAt amount _).symm.trans hstream)
  · cases hmuted : session.system.microphone.muted with
    | true =>
        refine ⟨unmuted, ?_, hle, fun _ time htime => ⟨htime.1, fun opened hopened => .inl ?_⟩⟩
        · change Quantity.Reads (Microphone.unmuteAt amount _).unmutedAt unmuted
          rw [Microphone.unmuteAt_of_muted hmuted]
          exact hreads
        · rw [hnow opened hopened]
          exact htime.1
    | false =>
        obtain ⟨before, hbefore, hle, hgate⟩ := h.gate
        refine ⟨before, ?_, hle, fun _ time htime => hgate hmuted time htime.2⟩
        change Quantity.Reads (Microphone.unmuteAt amount _).unmutedAt before
        rw [Microphone.unmuteAt_of_unmuted hmuted]
        exact hbefore

theorem call (h : session.Timed) (capture : Nat) (maxSeconds : Quantity) :
    (session.call capture maxSeconds).Timed := by
  unfold MicrophoneSession.call
  split
  · exact h.put capture _
  · exact h

theorem listen (h : session.Timed) (capture : Nat) : (session.listen capture).Timed := by
  unfold MicrophoneSession.listen
  split
  · rename_i maxSeconds _
    have hact := h.act_of_leavesGate (MicrophoneSystem.leavesGate_beginWindow maxSeconds)
    split
    · exact hact.put capture _
    · exact hact.put capture _
  · exact h

theorem take (h : session.Timed) (capture : Nat) : (session.take capture).Timed := by
  unfold MicrophoneSession.take
  split
  · unfold MicrophoneSession.takeBlock
    dsimp only
    split
    · exact (h.pop.put capture _).note_returned _ _
    · exact h.pop.put capture _
  · exact h

theorem step (h : session.Timed) {move : Move} (hallows : session.Allows move) :
    (session.step move).Timed := by
  cases move with
  | tick device now => exact h.tick hallows.1 hallows.2
  | deliver block recordedAt => exact h.deliver block recordedAt
  | start => exact h.act_of_leavesGate MicrophoneSystem.leavesGate_start
  | close => exact h.act_of_leavesGate MicrophoneSystem.leavesGate_close
  | mute => exact h.mute
  | unmute => exact h.unmute
  | call capture maxSeconds => exact h.call capture maxSeconds
  | listen capture => exact h.listen capture
  | take capture => exact h.take capture
  | abandon capture => exact h.put capture _

end Timed

theorem isLate_eq_false {microphone : Microphone} {samples : List Sample} {amount : Quantity}
    {first unmuted : Rat} (hreads : amount.Reads first) (hpositive : 0 < first)
    (hunmuted : microphone.unmutedAt.Reads unmuted)
    (h : microphone.isLate ⟨samples, some amount⟩ = false) : ¬ first < unmuted := by
  intro hlt
  change (!amount.isZero && amount.lt microphone.unmutedAt) = false at h
  rw [hreads.isZero_eq_false hpositive, (hreads.lt_iff hunmuted).mpr hlt] at h
  contradiction

/-- A recorded sound that waits, is kept by a capture or was returned. -/
inductive Holds (session : MicrophoneSession) (sound : Sound) : Prop where
  | waiting {block : List Sound} (hblock : block ∈ session.waiting) (hsound : sound ∈ block)
  | kept {capture : Nat} {window : Window} {sounds : List Sound}
      (hcapture : session.captures capture = .listening window sounds) (hsound : sound ∈ sounds)
  | returned {time : Rat} {chunk : Chunk} {sounds : List Sound}
      (hreturned : .returned time chunk sounds ∈ session.history) (hsound : sound ∈ sounds)

theorem holds_of_mem_kept {session : MicrophoneSession} {window : Window} {block : List Sample}
    {sound : Sound} (h : sound ∈ session.kept window block) : session.Holds sound := by
  have hmem := List.mem_of_mem_take h
  cases hwaiting : session.waiting with
  | nil =>
      rw [hwaiting] at hmem
      contradiction
  | cons recorded later =>
      have hrecorded : recorded ∈ session.waiting := by
        rw [hwaiting]
        exact List.mem_cons_self
      rw [hwaiting] at hmem
      exact .waiting hrecorded hmem

/-- The sound was recorded by now, and its time is not silenced. -/
def Heard (session : MicrophoneSession) (sound : Sound) : Prop :=
  sound.time ≤ session.now ∧ ¬ Silenced sound.time session.history

def Clean (session : MicrophoneSession) : Prop := ∀ sound, session.Holds sound → session.Heard sound

namespace Clean

variable {session : MicrophoneSession}

theorem initial (settings : MicrophoneSettings) (device : AudioDevice) (now : Rat) :
    (MicrophoneSession.initial settings device now).Clean := by
  rintro sound (⟨hblock, -⟩ | ⟨hcapture, -⟩ | ⟨hreturned, -⟩)
  · contradiction
  · contradiction
  · contradiction

theorem tick (h : session.Clean) (device : AudioDevice) {now : Rat} (hnow : session.now ≤ now) :
    (session.step (.tick device now)).Clean := by
  intro sound hholds
  have hheld : session.Holds sound := by
    rcases hholds with ⟨hblock, hsound⟩ | ⟨hcapture, hsound⟩ | ⟨hreturned, hsound⟩
    · exact .waiting hblock hsound
    · exact .kept hcapture hsound
    · exact .returned hreturned hsound
  exact ⟨(h sound hheld).1.trans hnow, (h sound hheld).2⟩

/-- Only blocks that arrive and stay have to be looked at. -/
theorem act {α : Type} {arrived : List (List Sound)} {action : Action MicrophoneSystem α}
    (h : session.Clean)
    (harrived : ∀ block ∈ (session.act arrived action).waiting,
      block ∈ session.waiting ∨ ∀ sound ∈ block, session.Heard sound) :
    (session.act arrived action).Clean := by
  rintro sound (⟨hblock, hsound⟩ | ⟨hcapture, hsound⟩ | ⟨hreturned, hsound⟩)
  · rcases harrived _ hblock with hold | hnew
    · exact h sound (.waiting hold hsound)
    · exact hnew sound hsound
  · exact h sound (.kept hcapture hsound)
  · exact h sound (.returned hreturned hsound)

theorem act_nil {α : Type} (h : session.Clean) (action : Action MicrophoneSystem α) :
    (session.act [] action).Clean := by
  refine h.act fun block hblock => .inl ?_
  exact List.append_nil session.waiting ▸ List.mem_of_mem_take hblock

theorem put {capture : Nat} {stage : Capture} (h : session.Clean)
    (hstage : ∀ window sounds, stage = .listening window sounds →
      ∀ sound ∈ sounds, session.Heard sound) :
    (session.put capture stage).Clean := by
  rintro sound (⟨hblock, hsound⟩ | @⟨other, window, sounds, hcapture, hsound⟩ |
    ⟨hreturned, hsound⟩)
  · exact h sound (.waiting hblock hsound)
  · rcases captures_put hcapture with hnew | hold
    · exact hstage window sounds hnew sound hsound
    · exact h sound (.kept hold hsound)
  · exact h sound (.returned hreturned hsound)

theorem put_idle (h : session.Clean) (capture : Nat) : (session.put capture .idle).Clean := by
  refine h.put ?_
  intro window sounds hstage
  contradiction

theorem pop (h : session.Clean) : session.pop.Clean := by
  rintro sound (⟨hblock, hsound⟩ | ⟨hcapture, hsound⟩ | ⟨hreturned, hsound⟩)
  · exact h sound (.waiting (List.mem_of_mem_tail hblock) hsound)
  · exact h sound (.kept hcapture hsound)
  · exact h sound (.returned hreturned hsound)

/-- An occurrence that silences nothing that is held. A chunk has to be of
sounds that were heard. -/
theorem note {occurrence : Occurrence} (h : session.Clean)
    (hheard : ∀ sound, session.Heard sound → (session.note occurrence).Heard sound)
    (hsounds : ∀ time chunk sounds, occurrence = .returned time chunk sounds →
      ∀ sound ∈ sounds, session.Heard sound) :
    (session.note occurrence).Clean := by
  rintro sound (⟨hblock, hsound⟩ | ⟨hcapture, hsound⟩ | ⟨hreturned, hsound⟩)
  · exact hheard sound (h sound (.waiting hblock hsound))
  · exact hheard sound (h sound (.kept hcapture hsound))
  · rcases List.mem_cons.mp hreturned with hnew | hold
    · exact hheard sound (hsounds _ _ _ hnew.symm sound hsound)
    · exact hheard sound (h sound (.returned hold hsound))

theorem mute (h : session.Clean) : (session.step .mute).Clean := by
  refine (h.act_nil MicrophoneSystem.mute).note ?_ ?_
  · rintro sound ⟨hle, hsilenced⟩
    exact ⟨hle, not_or.mpr ⟨hle.not_gt, hsilenced⟩⟩
  · intro time chunk sounds hreturned
    contradiction

theorem unmute (h : session.Clean) : session.unmute.Clean := by
  unfold MicrophoneSession.unmute
  split
  · refine (h.act_nil MicrophoneSystem.unmute).note ?_ ?_
    · rintro sound ⟨hle, hsilenced⟩
      exact ⟨hle, fun htime => hsilenced htime.2⟩
    · intro time chunk sounds hreturned
      contradiction
  · exact h

theorem call (h : session.Clean) (capture : Nat) (maxSeconds : Quantity) :
    (session.call capture maxSeconds).Clean := by
  unfold MicrophoneSession.call
  split
  · refine h.put ?_
    intro window sounds hstage
    contradiction
  · exact h

theorem listen (h : session.Clean) (capture : Nat) : (session.listen capture).Clean := by
  unfold MicrophoneSession.listen
  split
  · rename_i maxSeconds _
    have hact := h.act_nil (MicrophoneSystem.beginWindow maxSeconds)
    split
    · refine hact.put ?_
      rintro _ _ ⟨⟩
      exact nofun
    · exact hact.put_idle capture
  · exact h

theorem take (h : session.Clean) (capture : Nat) : (session.take capture).Clean := by
  unfold MicrophoneSession.take
  split
  · rename_i window sounds block rest hlistening hqueue
    have hsounds : ∀ sound ∈ sounds ++ session.kept window block, session.Heard sound := by
      intro sound hsound
      rcases List.mem_append.mp hsound with hold | hnew
      · exact h sound (.kept hlistening hold)
      · exact h sound (holds_of_mem_kept hnew)
    unfold MicrophoneSession.takeBlock
    dsimp only
    split
    · refine (h.pop.put_idle capture).note (fun sound hheard => hheard) ?_
      rintro _ _ _ ⟨⟩
      exact hsounds
    · refine h.pop.put ?_
      rintro _ _ ⟨⟩
      exact hsounds
  · exact h

/-- A block that joins the queue is not late, so it was recorded after
everything silenced. -/
theorem deliver (h : session.Clean) (hfollows : session.Follows) (htimed : session.Timed)
    {block : List Sound} {recordedAt : Option Quantity}
    (hallows : session.Allows (.deliver block recordedAt)) :
    (session.step (.deliver block recordedAt)).Clean := by
  obtain ⟨opened, hopened, hrecording⟩ := hallows
  have hlength : session.waiting.length = session.system.microphone.queue.length := by
    rw [← hfollows.waiting, List.length_map]
  refine h.act fun joined hjoined => ?_
  change joined ∈ (session.waiting ++ [block]).take (Microphone.deliver ..).queue.length at hjoined
  rcases Microphone.deliver_cases session.system.settings.threshold
    ⟨block.map Sound.sample, recordedAt⟩ session.system.microphone with
    ⟨hqueue, -⟩ | ⟨hmuted, hlate, -⟩
  · rw [hqueue, ← hlength, List.take_left] at hjoined
    exact .inl hjoined
  · rcases List.mem_append.mp (List.mem_of_mem_take hjoined) with hold | hnew
    · exact .inl hold
    · right
      rw [List.mem_singleton.mp hnew]
      intro sound hsound
      refine ⟨hrecording.time_le sound hsound, fun hsilenced => ?_⟩
      -- Silenced sounds lie before the last unmuting or before the stream was opened,
      -- and the first sound of the block lies behind both.
      obtain ⟨amount, first, rfl, hreads, hsince, hfirst⟩ :=
        hrecording.exists_first (List.ne_nil_of_mem hsound)
      obtain ⟨unmuted, hunmuted, -, hgate⟩ := htimed.gate
      have hpositive : 0 < first := (htimed.opened opened hopened).1.trans_le hsince
      have hafter : unmuted ≤ first :=
        not_lt.mp (isLate_eq_false hreads hpositive hunmuted hlate)
      have hsound := hfirst sound hsound
      rcases (hgate hmuted sound.time hsilenced).2 opened hopened with hlt | hlt
      · linarith
      · linarith

theorem step (h : session.Clean) (hfollows : session.Follows) (htimed : session.Timed)
    {move : Move} (hallows : session.Allows move) : (session.step move).Clean := by
  cases move with
  | tick device now => exact h.tick device hallows.2
  | deliver block recordedAt => exact h.deliver hfollows htimed hallows
  | start => exact h.act_nil MicrophoneSystem.start
  | close => exact h.act_nil MicrophoneSystem.close
  | mute => exact h.mute
  | unmute => exact h.unmute
  | call capture maxSeconds => exact h.call capture maxSeconds
  | listen capture => exact h.listen capture
  | take capture => exact h.take capture
  | abandon capture => exact h.put_idle capture

end Clean

theorem run_timed_clean {session : MicrophoneSession} (hfollows : session.Follows)
    (htimed : session.Timed) (hclean : session.Clean) {moves : List Move}
    (hmoves : session.Faithful moves) :
    (session.run moves).Timed ∧ (session.run moves).Clean := by
  -- A delivery needs the times to keep the sounds clean, so both go through one induction.
  induction moves generalizing session with
  | nil => exact ⟨htimed, hclean⟩
  | cons move rest ih =>
      obtain ⟨hallows, hrest⟩ := hmoves
      exact ih (hfollows.step move) (htimed.step hallows) (hclean.step hfollows htimed hallows)
        hrest

/-- No block waits while the microphone is muted, whatever happens. And if the
clock and the device keep their promises, a returned chunk consists of recorded
sounds, none of which was recorded between a muting and the unmuting that ends
it. -/
theorem run_keepsSilence (settings : MicrophoneSettings) (device : AudioDevice) (now : Rat)
    (moves : List Move) :
    let session := (initial settings device now).run moves
    (session.system.microphone.muted = true → session.system.microphone.queue = []) ∧
    (device.Shows now → 0 < now → (initial settings device now).Faithful moves →
      ∀ time chunk sounds, .returned time chunk sounds ∈ session.history →
        chunk = .ofSamples (sounds.map Sound.sample) chunk.rate ∧
        ∀ later between earlier start stop,
          session.history = later ++ .unmuted stop :: between ++ .muted start :: earlier →
          (∀ time, .unmuted time ∉ between) →
          ∀ sound ∈ sounds, ¬ (start < sound.time ∧ sound.time < stop)) := by
  intro session
  have hinitial := Follows.initial settings device now
  have hfollows : session.Follows := hinitial.run moves
  refine ⟨hfollows.quiet, ?_⟩
  intro hshows hpositive hmoves time chunk sounds hreturned
  refine ⟨hfollows.returned time chunk sounds hreturned, ?_⟩
  intro later between earlier start stop hhistory hbetween sound hsound ⟨hstart, hstop⟩
  obtain ⟨htimed, hclean⟩ := run_timed_clean hinitial (.initial settings hshows hpositive)
    (.initial settings device now) hmoves
  refine (hclean sound (.returned hreturned hsound)).2 ?_
  have hordered := htimed.ordered
  change session.history.Pairwise _ at hordered
  change Silenced sound.time session.history
  rw [hhistory] at hordered ⊢
  exact silenced_of_between hordered hbetween hstart hstop

def twoSamples : MicrophoneSettings :=
  { MicrophoneSettings.usual with
    policy := .string WindowPolicy.fixed.name
    rate := .whole 2
    silenceSeconds := .whole 0 }

def clockAt (now : Nat) : AudioDevice :=
  { AudioDevice.working with time := .binary (.finite false ⟨now, 0⟩) }

theorem reads_whole (now : Nat) : (Quantity.binary (.finite false ⟨now, 0⟩)).Reads now := by
  refine ⟨_, rfl, ?_⟩
  simp [BinaryReal.value?, BinaryMagnitude.ratio, Rat.mkRat_one]

theorem clockAt_shows (now : Nat) : (clockAt now).Shows now := ⟨rfl, reads_whole now⟩

/-- Muted at 2 and unmuted at 4. Two blocks come at 6: one spans the unmuting,
one begins with it. -/
def spanningBlock : List Move :=
  [.start, .tick (clockAt 2) 2, .mute, .tick (clockAt 4) 4, .unmute, .tick (clockAt 6) 6,
    .deliver [⟨1, 3⟩, ⟨2, 5⟩] (some (.binary (.finite false ⟨3, 0⟩))),
    .deliver [⟨3, 4⟩, ⟨4, 5⟩] (some (.binary (.finite false ⟨4, 0⟩))),
    .call 0 (.whole 1), .listen 0, .take 0]

theorem spanningBlock_faithful : (initial twoSamples (clockAt 1) 1).Faithful spanningBlock := by
  have hfirst : IsRecording 1 6 [⟨1, 3⟩, ⟨2, 5⟩] (some (.binary (.finite false ⟨3, 0⟩))) := by
    refine ⟨?_, ?_, ?_, ?_⟩
    · rintro _ ⟨⟩
      exact ⟨_, rfl, reads_whole 3⟩
    · rintro _ ⟨⟩
      decide
    · decide
    · rintro _ ⟨⟩
      decide
  have hsecond : IsRecording 1 6 [⟨3, 4⟩, ⟨4, 5⟩] (some (.binary (.finite false ⟨4, 0⟩))) := by
    refine ⟨?_, ?_, ?_, ?_⟩
    · rintro _ ⟨⟩
      exact ⟨_, rfl, reads_whole 4⟩
    · rintro _ ⟨⟩
      decide
    · decide
    · rintro _ ⟨⟩
      decide
  have htwo : (clockAt 2).Shows 2 ∧ (1 : Rat) ≤ 2 := ⟨clockAt_shows 2, by decide⟩
  have hfour : (clockAt 4).Shows 4 ∧ (2 : Rat) ≤ 4 := ⟨clockAt_shows 4, by decide⟩
  have hsix : (clockAt 6).Shows 6 ∧ (4 : Rat) ≤ 6 := ⟨clockAt_shows 6, by decide⟩
  exact ⟨trivial, htwo, trivial, hfour, trivial, hsix, ⟨1, rfl, hfirst⟩, ⟨1, rfl, hsecond⟩,
    trivial, trivial, trivial, trivial⟩

theorem run_keepsSilence_spanningBlock :
    let session := (initial twoSamples (clockAt 1) 1).run spanningBlock
    session.history = [.returned 6 ⟨[3, 0, 4, 0], 2⟩ [⟨3, 4⟩, ⟨4, 5⟩], .unmuted 4, .muted 2] ∧
      (clockAt 1).Shows 1 ∧ (0 : Rat) < 1 ∧
      (initial twoSamples (clockAt 1) 1).Faithful spanningBlock ∧
      ∀ sound ∈ [(⟨3, 4⟩ : Sound), ⟨4, 5⟩], ¬ (2 < sound.time ∧ sound.time < 4) := by
  intro session
  have hhistory : session.history =
    [.returned 6 ⟨[3, 0, 4, 0], 2⟩ [⟨3, 4⟩, ⟨4, 5⟩], .unmuted 4, .muted 2] := rfl
  have hshows : (clockAt 1).Shows 1 := clockAt_shows 1
  have hpositive : (0 : Rat) < 1 := by decide
  have hreturned : .returned 6 ⟨[3, 0, 4, 0], 2⟩ [⟨3, 4⟩, ⟨4, 5⟩] ∈ session.history := by
    rw [hhistory]
    exact List.mem_cons_self
  have hsilence := ((run_keepsSilence twoSamples (clockAt 1) 1 spanningBlock).2 hshows hpositive
    spanningBlock_faithful 6 _ _ hreturned).2
  exact ⟨hhistory, hshows, hpositive, spanningBlock_faithful,
    hsilence [_] [] [] 2 4 hhistory nofun⟩

end MicrophoneSession

end SpokenCalculator
