import SpokenCalculator.Proofs.Audio.Microphone
import SpokenCalculator.Proofs.Audio.Window
import Mathlib.Data.List.Basic
import Mathlib.Logic.Function.Basic

namespace SpokenCalculator

structure Sound where
  sample : Sample
  time : Rat

inductive Capture where
  | idle
  | called (maxSeconds : Quantity)
  | listening (window : Window) (kept : List Sound)

inductive Occurrence where
  | muted (time : Rat)
  | unmuted (time : Rat)
  | returned (time : Rat) (chunk : Chunk) (sounds : List Sound)

namespace Occurrence

def time : Occurrence → Rat
  | muted time | unmuted time | returned time _ _ => time

end Occurrence

inductive Move where
  | tick (device : AudioDevice) (now : Rat)
  | deliver (block : List Sound) (recordedAt : Option Quantity)
  | start
  | close
  | mute
  | unmute
  | call (capture : Nat) (maxSeconds : Quantity)
  | listen (capture : Nat)
  | take (capture : Nat)
  | abandon (capture : Nat)

structure MicrophoneSession where
  system : MicrophoneSystem
  now : Rat
  openedAt : Option Rat
  waiting : List (List Sound)
  captures : Nat → Capture
  history : List Occurrence

namespace MicrophoneSession

def initial (settings : MicrophoneSettings) (device : AudioDevice) (now : Rat) :
    MicrophoneSession :=
  ⟨.initial settings device, now, none, [], fun _ => .idle, []⟩

/-- Perform an action of the microphone when some recorded blocks arrive. Blocks
leave the end of the waiting ones as they leave the end of the queue. A stream
that was not held before is opened now. -/
def act {α : Type} (arrived : List (List Sound)) (action : Action MicrophoneSystem α)
    (session : MicrophoneSession) : MicrophoneSession :=
  let system := (action.perform session.system).2
  { session with
    system
    openedAt :=
      if system.microphone.stream = session.system.microphone.stream then session.openedAt
      else system.microphone.stream.map fun _ => session.now
    waiting := (session.waiting ++ arrived).take system.microphone.queue.length }

def note (occurrence : Occurrence) (session : MicrophoneSession) : MicrophoneSession :=
  { session with history := occurrence :: session.history }

def put (capture : Nat) (stage : Capture) (session : MicrophoneSession) : MicrophoneSession :=
  { session with captures := Function.update session.captures capture stage }

def pop (session : MicrophoneSession) : MicrophoneSession :=
  { session with
    system := session.system.update fun microphone =>
      { microphone with queue := microphone.queue.tail }
    waiting := session.waiting.tail }

def kept (window : Window) (block : List Sample) (session : MicrophoneSession) : List Sound :=
  (session.waiting.head?.getD []).take (Window.fit window.room block).length

def takeBlock (capture : Nat) (window : Window) (sounds : List Sound) (block : List Sample)
    (session : MicrophoneSession) : MicrophoneSession :=
  let filled := window.add block
  let sounds := sounds ++ session.kept window block
  if filled.isComplete then
    (session.pop.put capture .idle).note (.returned session.now filled.chunk sounds)
  else session.pop.put capture (.listening filled sounds)

def unmute (session : MicrophoneSession) : MicrophoneSession :=
  match (MicrophoneSystem.unmute.perform session.system).1 with
  | .ok () => (session.act [] MicrophoneSystem.unmute).note (.unmuted session.now)
  | .error _ => session

def call (capture : Nat) (maxSeconds : Quantity) (session : MicrophoneSession) :
    MicrophoneSession :=
  match session.captures capture, session.system.microphone.muted with
  | .idle, false => session.put capture (.called maxSeconds)
  | _, _ => session

/-- A capture that was called makes sure that there is a stream, and opens its
window. -/
def listen (capture : Nat) (session : MicrophoneSession) : MicrophoneSession :=
  match session.captures capture with
  | .called maxSeconds =>
      let begun := session.act [] (MicrophoneSystem.beginWindow maxSeconds)
      match ((MicrophoneSystem.beginWindow maxSeconds).perform session.system).1 with
      | .ok window => begun.put capture (.listening window [])
      | .error _ => begun.put capture .idle
  | _ => session

def take (capture : Nat) (session : MicrophoneSession) : MicrophoneSession :=
  match session.captures capture, session.system.microphone.queue with
  | .listening window sounds, block :: _ => session.takeBlock capture window sounds block
  | _, _ => session

def step (session : MicrophoneSession) : Move → MicrophoneSession
  | .tick device now => { session with system := { session.system with device }, now }
  | .deliver block recordedAt =>
      session.act [block] (MicrophoneSystem.deliver ⟨block.map Sound.sample, recordedAt⟩)
  | .start => session.act [] MicrophoneSystem.start
  | .close => session.act [] MicrophoneSystem.close
  | .mute => (session.act [] MicrophoneSystem.mute).note (.muted session.now)
  | .unmute => session.unmute
  | .call capture maxSeconds => session.call capture maxSeconds
  | .listen capture => session.listen capture
  | .take capture => session.take capture
  | .abandon capture => session.put capture .idle

theorem captures_put {session : MicrophoneSession} {capture other : Nat} {stage result : Capture}
    (h : (session.put capture stage).captures other = result) :
    stage = result ∨ session.captures other = result := by
  change Function.update session.captures capture stage other = result at h
  by_cases hsame : other = capture
  · rw [hsame, Function.update_self] at h
    exact .inl h
  · rw [Function.update_of_ne hsame] at h
    exact .inr h

theorem openedAt_act {α : Type} {arrived : List (List Sound)} {action : Action MicrophoneSystem α}
    {session : MicrophoneSession} (h : (action.perform session.system).2.microphone.stream =
      session.system.microphone.stream) :
    (session.act arrived action).openedAt = session.openedAt := if_pos h

theorem openedAt_mute (session : MicrophoneSession) :
    (session.step .mute).openedAt = session.openedAt :=
  if_pos rfl

theorem unmute_eq {session : MicrophoneSession} {amount : Quantity}
    (h : MicrophoneSystem.streamTime session.system = .ok amount) :
    session.unmute =
      { session with
        system := session.system.update (Microphone.unmuteAt amount)
        waiting := (session.waiting ++ []).take
          (session.system.microphone.unmuteAt amount).queue.length
        history := .unmuted session.now :: session.history } := by
  have hperform := MicrophoneSystem.perform_unmute session.system
  rw [h] at hperform
  have hopenedAt : (session.act [] MicrophoneSystem.unmute).openedAt = session.openedAt := by
    refine openedAt_act ?_
    rw [hperform]
    exact Microphone.stream_unmuteAt amount session.system.microphone
  unfold unmute note
  rw [hopenedAt]
  unfold act
  rw [hperform]
  rfl

theorem unmute_eq_self {session : MicrophoneSession} {failure : Failure}
    (h : MicrophoneSystem.streamTime session.system = .error failure) :
    session.unmute = session := by
  unfold unmute
  rw [MicrophoneSystem.perform_unmute, h]

def run : MicrophoneSession → List Move → MicrophoneSession := List.foldl step

def captureMoves (capture : Nat) (maxSeconds : Quantity) (count : Nat) : List Move :=
  .call capture maxSeconds :: .listen capture :: List.replicate count (.take capture)

theorem take_eq {session : MicrophoneSession} {capture : Nat} {window : Window}
    {sounds : List Sound} {block : List Sample} {later : List (List Sample)}
    (hlistening : session.captures capture = .listening window sounds)
    (hqueue : session.system.microphone.queue = block :: later) :
    session.take capture = session.takeBlock capture window sounds block := by
  unfold take
  rw [hlistening, hqueue]

theorem system_pop {session : MicrophoneSession} {block : List Sample} {later : List (List Sample)}
    (hqueue : session.system.microphone.queue = block :: later) :
    session.pop.system =
      session.system.update fun microphone => { microphone with queue := later } := by
  have htail : session.system.microphone.queue.tail = later := by
    rw [hqueue]
    rfl
  unfold pop MicrophoneSystem.update
  dsimp only
  rw [htail]

theorem exists_run_take {queue : List (List Sample)} {session : MicrophoneSession} {capture : Nat}
    {window filled : Window} {sounds : List Sound} {rest : List (List Sample)}
    (hqueue : session.system.microphone.queue = queue)
    (hlistening : session.captures capture = .listening window sounds)
    (hcollect : Microphone.collect window queue = (some filled, rest)) :
    ∃ count kept, (session.run (List.replicate count (.take capture))).system =
        session.system.update (fun microphone => { microphone with queue := rest }) ∧
      (session.run (List.replicate count (.take capture))).history =
        .returned session.now filled.chunk kept :: session.history := by
  induction queue generalizing session window sounds with
  | nil => cases hcollect
  | cons block later ih =>
      have htake := take_eq hlistening hqueue
      rw [Microphone.collect] at hcollect
      split at hcollect
      · rename_i hcomplete
        obtain ⟨⟨⟩, rfl⟩ := Prod.mk.inj hcollect
        refine ⟨1, sounds ++ session.kept window block, ?_⟩
        change (session.take capture).system = _ ∧ (session.take capture).history = _
        rw [htake, takeBlock, if_pos hcomplete]
        refine ⟨?_, rfl⟩
        exact system_pop hqueue
      · rename_i hcomplete
        rw [takeBlock, if_neg hcomplete] at htake
        have hlater : (session.take capture).system.microphone.queue = later := by
          rw [htake]
          exact congrArg (fun system => system.microphone.queue) (system_pop hqueue)
        have hstill : (session.take capture).captures capture =
            .listening (window.add block) (sounds ++ session.kept window block) := by
          rw [htake]
          exact Function.update_self capture _ session.captures
        obtain ⟨count, kept, hsystem, hhistory⟩ := ih hlater hstill hcollect
        refine ⟨count + 1, kept, ?_⟩
        rw [List.replicate_succ]
        change ((session.take capture).run _).system = _ ∧
          ((session.take capture).run _).history = _
        rw [hsystem, hhistory, htake]
        exact ⟨rfl, rfl⟩

/-- A capture that meets no other moves is a run of its steps. -/
theorem exists_run_capture {session : MicrophoneSession} {capture : Nat} {maxSeconds : Quantity}
    {chunk : Chunk} {system : MicrophoneSystem} (hidle : session.captures capture = .idle)
    (h : (MicrophoneSystem.capture maxSeconds).perform session.system = (.ok chunk, system)) :
    ∃ count kept, (session.run (captureMoves capture maxSeconds count)).system = system ∧
      (session.run (captureMoves capture maxSeconds count)).history =
        .returned session.now chunk kept :: session.history := by
  obtain ⟨window, begun, filled, rest, hmuted, hbegin, hcollect, rfl, rfl⟩ :=
    MicrophoneSystem.exists_collect_of_capture h
  have hcall : session.call capture maxSeconds = session.put capture (.called maxSeconds) := by
    unfold call
    rw [hidle, hmuted]
  have hlisten : (session.put capture (.called maxSeconds)).listen capture =
      ((session.put capture (.called maxSeconds)).act []
        (MicrophoneSystem.beginWindow maxSeconds)).put capture (.listening window []) := by
    have hcalled : (session.put capture (.called maxSeconds)).captures capture =
      .called maxSeconds := Function.update_self capture _ session.captures
    have hsystem : (session.put capture (.called maxSeconds)).system = session.system := rfl
    unfold listen
    rw [hcalled]
    dsimp only
    rw [hsystem, hbegin]
  have hmoves : ∀ count, session.run (captureMoves capture maxSeconds count) =
      ((session.call capture maxSeconds).listen capture).run
        (List.replicate count (.take capture)) := fun _ => rfl
  have hsystem : ((session.call capture maxSeconds).listen capture).system = begun := by
    rw [hcall, hlisten]
    exact congrArg Prod.snd hbegin
  have hlistening : ((session.call capture maxSeconds).listen capture).captures capture =
      .listening window [] := by
    rw [hcall, hlisten]
    exact Function.update_self ..
  obtain ⟨count, kept, hafter, hhistory⟩ :=
    exists_run_take (congrArg (fun system => system.microphone.queue) hsystem) hlistening hcollect
  refine ⟨count, kept, ?_⟩
  rw [hmoves, hafter, hhistory, hsystem, hcall, hlisten]
  exact ⟨rfl, rfl⟩

/-- Recorded sounds are followed correctly: those that wait are the queue,
those that a capture keeps are its window, and those that are returned are
the chunk. -/
structure Follows (session : MicrophoneSession) : Prop where
  quiet : session.system.microphone.Quiet
  waiting : session.waiting.map (List.map Sound.sample) = session.system.microphone.queue
  kept : ∀ capture window sounds, session.captures capture = .listening window sounds →
    window.samples = sounds.map Sound.sample
  returned : ∀ time chunk sounds, .returned time chunk sounds ∈ session.history →
    chunk = .ofSamples (sounds.map Sound.sample) chunk.rate

namespace Follows

variable {session : MicrophoneSession}

theorem initial (settings : MicrophoneSettings) (device : AudioDevice) (now : Rat) :
    (MicrophoneSession.initial settings device now).Follows where
  quiet := nofun
  waiting := rfl
  kept := nofun
  returned := nofun

theorem act {α : Type} {arrived : List (List Sound)} {action : Action MicrophoneSystem α}
    (h : session.Follows)
    (hquiet : (action.perform session.system).2.microphone.Quiet)
    (hqueue : (action.perform session.system).2.microphone.queue <+:
      session.system.microphone.queue ++ arrived.map (List.map Sound.sample)) :
    (session.act arrived action).Follows where
  quiet := hquiet
  waiting := by
    rw [← h.waiting, ← List.map_append] at hqueue
    change ((session.waiting ++ arrived).take _).map _ = _
    rw [List.map_take]
    exact (List.prefix_iff_eq_take.mp hqueue).symm
  kept := h.kept
  returned := h.returned

theorem act_of_leavesGate {α : Type} {action : Action MicrophoneSystem α} (h : session.Follows)
    (haction : MicrophoneSystem.LeavesGate action) : (session.act [] action).Follows := by
  have hgate := (haction.sameGate session.system).2
  refine h.act (hgate.quiet h.quiet) ?_
  rw [hgate.1]
  exact List.prefix_append ..

theorem put {capture : Nat} {stage : Capture} (h : session.Follows)
    (hstage : ∀ window sounds, stage = .listening window sounds →
      window.samples = sounds.map Sound.sample) :
    (session.put capture stage).Follows where
  quiet := h.quiet
  waiting := h.waiting
  kept := by
    intro other window sounds hother
    rcases captures_put hother with hnew | hold
    · exact hstage window sounds hnew
    · exact h.kept other window sounds hold
  returned := h.returned

theorem put_idle {capture : Nat} (h : session.Follows) : (session.put capture .idle).Follows := by
  refine h.put ?_
  intro window sounds hstage
  contradiction

theorem note {occurrence : Occurrence} (h : session.Follows)
    (hchunk : ∀ time chunk sounds, occurrence = .returned time chunk sounds →
      chunk = .ofSamples (sounds.map Sound.sample) chunk.rate) :
    (session.note occurrence).Follows where
  quiet := h.quiet
  waiting := h.waiting
  kept := h.kept
  returned := by
    intro time chunk sounds hmem
    rcases List.mem_cons.mp hmem with hnew | hold
    · exact hchunk time chunk sounds hnew.symm
    · exact h.returned time chunk sounds hold

theorem pop (h : session.Follows) : session.pop.Follows where
  quiet := by
    intro hmuted
    change session.system.microphone.queue.tail = []
    rw [h.quiet hmuted]
    rfl
  waiting := by
    change session.waiting.tail.map _ = session.system.microphone.queue.tail
    rw [List.map_tail, h.waiting]
  kept := h.kept
  returned := h.returned

theorem map_kept {block : List Sample} {rest : List (List Sample)} (h : session.Follows)
    (hqueue : session.system.microphone.queue = block :: rest) (window : Window) :
    (session.kept window block).map Sound.sample = Window.fit window.room block := by
  obtain ⟨recorded, later, hwaiting, hblock, -⟩ : ∃ recorded later,
      session.waiting = recorded :: later ∧ recorded.map Sound.sample = block ∧
        later.map (List.map Sound.sample) = rest :=
    List.map_eq_cons_iff.mp (h.waiting.trans hqueue)
  rw [MicrophoneSession.kept, hwaiting, List.map_take]
  change (recorded.map Sound.sample).take _ = _
  rw [hblock]
  exact (Window.fit_eq_take window.room block).symm

theorem takeBlock {capture : Nat} {window : Window} {sounds : List Sound} {block : List Sample}
    {rest : List (List Sample)} (h : session.Follows)
    (hlistening : session.captures capture = .listening window sounds)
    (hqueue : session.system.microphone.queue = block :: rest) :
    (session.takeBlock capture window sounds block).Follows := by
  have hsamples : (window.add block).samples =
      (sounds ++ session.kept window block).map Sound.sample := by
    rw [Window.samples_add, h.kept capture window sounds hlistening, List.map_append,
      h.map_kept hqueue]
  unfold MicrophoneSession.takeBlock
  dsimp only
  split
  · refine h.pop.put_idle.note fun time chunk kept hreturned => ?_
    obtain ⟨-, rfl, rfl⟩ := Occurrence.returned.inj hreturned
    rw [← hsamples]
    rfl
  · refine h.pop.put fun filled kept hlistening => ?_
    obtain ⟨rfl, rfl⟩ := Capture.listening.inj hlistening
    exact hsamples

theorem deliver (h : session.Follows) (block : List Sound) (recordedAt : Option Quantity) :
    (session.step (.deliver block recordedAt)).Follows := by
  refine h.act (Microphone.quiet_deliver h.quiet _ _) ?_
  rcases Microphone.deliver_cases session.system.settings.threshold
    ⟨block.map Sound.sample, recordedAt⟩ session.system.microphone with hsame | ⟨-, -, hjoined⟩
  · rw [MicrophoneSystem.perform_deliver]
    change (Microphone.deliver ..).queue <+: _
    rw [hsame.1]
    exact List.prefix_append ..
  · rw [MicrophoneSystem.perform_deliver]
    change (Microphone.deliver ..).queue <+: _
    rw [hjoined.1]
    exact List.prefix_rfl

theorem mute (h : session.Follows) : (session.step .mute).Follows := by
  have hact : (session.act [] MicrophoneSystem.mute).Follows :=
    h.act (Microphone.quiet_mute session.system.microphone) List.nil_prefix
  exact hact.note nofun

theorem unmute (h : session.Follows) : session.unmute.Follows := by
  cases htime : MicrophoneSystem.streamTime session.system with
  | error failure =>
      rw [unmute_eq_self htime]
      exact h
  | ok amount =>
      have hperform := MicrophoneSystem.perform_unmute session.system
      rw [htime] at hperform
      have hact : (session.act [] MicrophoneSystem.unmute).Follows := by
        refine h.act ?_ ?_
        · rw [hperform]
          exact Microphone.quiet_unmuteAt amount session.system.microphone
        · rw [hperform]
          change (Microphone.unmuteAt amount session.system.microphone).queue <+: _
          cases hmuted : session.system.microphone.muted with
          | true =>
              rw [Microphone.unmuteAt_of_muted hmuted]
              exact List.nil_prefix
          | false =>
              rw [Microphone.unmuteAt_of_unmuted hmuted]
              exact List.prefix_append ..
      unfold MicrophoneSession.unmute
      rw [hperform]
      exact hact.note nofun

theorem call (h : session.Follows) (capture : Nat) (maxSeconds : Quantity) :
    (session.call capture maxSeconds).Follows := by
  unfold MicrophoneSession.call
  split
  · refine h.put ?_
    intro window sounds hstage
    contradiction
  · exact h

theorem listen (h : session.Follows) (capture : Nat) : (session.listen capture).Follows := by
  unfold MicrophoneSession.listen
  split
  · rename_i maxSeconds _
    have hact := h.act_of_leavesGate (MicrophoneSystem.leavesGate_beginWindow maxSeconds)
    split
    · rename_i window hbegun
      refine hact.put ?_
      rintro _ _ ⟨⟩
      have hcreate := (MicrophoneSystem.ends_beginWindow maxSeconds session.system).2
      rw [hbegun] at hcreate
      exact (Window.isMadeFor_of_create hcreate).samples_eq_nil
    · exact hact.put_idle
  · exact h

theorem take (h : session.Follows) (capture : Nat) : (session.take capture).Follows := by
  unfold MicrophoneSession.take
  split
  · rename_i window sounds block rest hlistening hqueue
    exact h.takeBlock hlistening hqueue
  · exact h

theorem step (h : session.Follows) (move : Move) : (session.step move).Follows := by
  cases move with
  | tick device now => exact ⟨h.quiet, h.waiting, h.kept, h.returned⟩
  | deliver block recordedAt => exact h.deliver block recordedAt
  | start => exact h.act_of_leavesGate MicrophoneSystem.leavesGate_start
  | close => exact h.act_of_leavesGate MicrophoneSystem.leavesGate_close
  | mute => exact h.mute
  | unmute => exact h.unmute
  | call capture maxSeconds => exact h.call capture maxSeconds
  | listen capture => exact h.listen capture
  | take capture => exact h.take capture
  | abandon capture => exact h.put_idle

theorem run (h : session.Follows) (moves : List Move) : (session.run moves).Follows := by
  induction moves generalizing session with
  | nil => exact h
  | cons move rest ih => exact ih (h.step move)

end Follows

end MicrophoneSession

end SpokenCalculator
