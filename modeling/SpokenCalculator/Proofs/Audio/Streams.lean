import SpokenCalculator.Proofs.Audio.Microphone

namespace SpokenCalculator

/-- What can be asked of a microphone. Entering a scope starts it, and leaving
the scope closes it. -/
inductive MicrophoneRequest where
  | start
  | close
  | enter
  | leave
  | capture (maxSeconds : Quantity)
  | mute
  | unmute
  | deliver (delivery : Delivery)

/-- A request, and how the device behaves meanwhile. -/
structure MicrophoneCall where
  device : AudioDevice
  request : MicrophoneRequest

namespace Microphone

theorem streams_unmuteAt (now : Quantity) (microphone : Microphone) :
    (microphone.unmuteAt now).stream = microphone.stream ∧
      (microphone.unmuteAt now).openedStreams = microphone.openedStreams := by
  unfold unmuteAt
  dsimp only
  split <;> exact ⟨rfl, rfl⟩

theorem streams_deliver (threshold : Quantity) (delivery : Delivery) (microphone : Microphone) :
    (microphone.deliver threshold delivery).stream = microphone.stream ∧
      (microphone.deliver threshold delivery).openedStreams = microphone.openedStreams := by
  unfold deliver
  dsimp only
  split <;> exact ⟨rfl, rfl⟩

end Microphone

namespace MicrophoneSystem

open SpokenCalculator.Action (Safe anything)

def serve : MicrophoneRequest → Action MicrophoneSystem Unit
  | .start | .enter => start
  | .close | .leave => close
  | .capture maxSeconds => do
      let _ ← capture maxSeconds
  | .mute => mute
  | .unmute => unmute
  | .deliver delivery => deliver delivery

def step (system : MicrophoneSystem) (call : MicrophoneCall) : MicrophoneSystem :=
  ((serve call.request).perform { system with device := call.device }).2

def run : MicrophoneSystem → List MicrophoneCall → MicrophoneSystem := List.foldl step

theorem step_capture (system : MicrophoneSystem) (device : AudioDevice) (maxSeconds : Quantity) :
    system.step ⟨device, .capture maxSeconds⟩ =
      ((capture maxSeconds).perform { system with device }).2 := by
  unfold step serve
  dsimp only
  rw [Action.perform_bind]
  generalize (capture maxSeconds).perform { system with device } = outcome
  obtain ⟨result, after⟩ := outcome
  cases result <;> rfl

def Opened (system : MicrophoneSystem) (stream : Nat) : Prop :=
  ∃ blockSize device rate, .opened stream blockSize device rate ∈ system.events

def Closed (system : MicrophoneSystem) (stream : Nat) : Prop := .closed stream ∈ system.events

/-- The stream was opened, but it was not closed, and nobody holds it any more. -/
def Leaked (system : MicrophoneSystem) (stream : Nat) : Prop :=
  system.Opened stream ∧ ¬ system.Closed stream ∧ system.microphone.stream ≠ some stream

def Released (system : MicrophoneSystem) : Prop :=
  ∀ stream, system.Opened stream → system.Closed stream ∨ system.microphone.stream = some stream

theorem released_iff (system : MicrophoneSystem) :
    system.Released ↔ ∀ stream, ¬ system.Leaked stream := by
  constructor
  · rintro h stream ⟨hopened, hclosed, hheld⟩
    exact (h stream hopened).elim hclosed hheld
  · intro h stream hopened
    refine Classical.or_iff_not_imp_left.mpr fun hclosed => ?_
    exact Classical.byContradiction fun hheld => h stream ⟨hopened, hclosed, hheld⟩

/-- The stream that would be opened, if the device opens it and then refuses to
start it. -/
def refused? (system : MicrophoneSystem) (device : AudioDevice) : Option Nat :=
  if system.microphone.stream.isNone && device.openFailure.isNone &&
      device.startFailure.any isRefusal then
    some system.microphone.openedStreams
  else none

/-- The stream that a call loses. -/
def lost? (system : MicrophoneSystem) (call : MicrophoneCall) : Option Nat :=
  match call.request with
  | .start | .enter => system.refused? call.device
  | .capture _ => if system.microphone.muted then none else system.refused? call.device
  | .close | .leave => if call.device.stopFailure.isSome then system.microphone.stream else none
  | .mute | .unmute | .deliver _ => none

def SameStreams (before after : MicrophoneSystem) : Prop :=
  after.microphone.stream = before.microphone.stream ∧
    after.microphone.openedStreams = before.microphone.openedStreams ∧
    after.events = before.events

theorem SameStreams.refl (system : MicrophoneSystem) : SameStreams system system := ⟨rfl, rfl, rfl⟩

def LeavesStreams {α : Type} (action : Action MicrophoneSystem α) : Prop :=
  ∀ before, Safe (SameStreams before) anything anything action

theorem LeavesStreams.sameStreams {α : Type} {action : Action MicrophoneSystem α}
    (h : LeavesStreams action) (system : MicrophoneSystem) :
    SameStreams system (action.perform system).2 :=
  (h system system (.refl system)).1

theorem leavesStreams_ofResult {α : Type} (result : Except Failure α) :
    LeavesStreams (Action.ofResult result) := by
  intro before
  refine .ofResult ?_
  cases result <;> trivial

theorem leavesStreams_mute : LeavesStreams mute := fun _ => .change fun _ h => h

theorem leavesStreams_unmute : LeavesStreams unmute := by
  intro before
  refine .bind .get fun system _ => .bind (leavesStreams_ofResult _ before) fun now _ => ?_
  refine .change fun system h => ?_
  obtain ⟨hstream, hopened⟩ := system.microphone.streams_unmuteAt now
  exact ⟨hstream.trans h.1, hopened.trans h.2.1, h.2.2⟩

theorem leavesStreams_deliver (delivery : Delivery) : LeavesStreams (deliver delivery) := by
  intro before
  refine .change fun system h => ?_
  obtain ⟨hstream, hopened⟩ :=
    system.microphone.streams_deliver system.settings.threshold delivery
  exact ⟨hstream.trans h.1, hopened.trans h.2.1, h.2.2⟩

/-- What comes after an action and leaves streams alone does not count. -/
theorem sameStreams_bind {α β : Type} {first : Action MicrophoneSystem β}
    {next : β → Action MicrophoneSystem α} (hnext : ∀ value, LeavesStreams (next value))
    (system : MicrophoneSystem) :
    SameStreams (first.perform system).2 ((first >>= next).perform system).2 := by
  rw [Action.perform_bind]
  generalize first.perform system = outcome
  obtain ⟨result, after⟩ := outcome
  cases result with
  | ok value => exact (hnext value).sameStreams after
  | error failure => exact .refl after

theorem sameStreams_beginWindow (maxSeconds : Quantity) (system : MicrophoneSystem) :
    SameStreams (start.perform system).2 ((beginWindow maxSeconds).perform system).2 :=
  sameStreams_bind (fun _ before => .bind .get fun _ _ => leavesStreams_ofResult _ before) system

theorem SameStreams.trans {first second third : MicrophoneSystem} (h : SameStreams first second)
    (hnext : SameStreams second third) : SameStreams first third :=
  ⟨hnext.1.trans h.1, hnext.2.1.trans h.2.1, hnext.2.2.trans h.2.2⟩

theorem sameStreams_capture (maxSeconds : Quantity) (system : MicrophoneSystem) :
    SameStreams ((openWindow maxSeconds).perform system).2
      ((serve (.capture maxSeconds)).perform system).2 := by
  have hcapture : SameStreams ((openWindow maxSeconds).perform system).2
      ((capture maxSeconds).perform system).2 := by
    refine sameStreams_bind (fun window before => ?_) system
    refine .bind .get fun system _ => .bind (leavesStreams_ofResult _ before) fun _ _ => ?_
    cases Microphone.collect window system.microphone.queue with
    | mk filled queue =>
        refine .bind (.change fun _ h => h) fun _ _ => ?_
        cases filled with
        | some filled => exact .pure trivial
        | none => exact .throw trivial
  exact hcapture.trans (sameStreams_bind (fun _ _ => .pure trivial) system)

def withNewStream (system : MicrophoneSystem) : MicrophoneSystem :=
  let stream := system.microphone.openedStreams
  { system with
    microphone :=
      { system.microphone with stream := some stream, openedStreams := stream + 1 }
    events := .opened stream system.settings.blockSize system.settings.device
      system.settings.rate :: system.events }

theorem perform_openStream_of_openFailure {system : MicrophoneSystem} {failure : Failure}
    (h : system.device.openFailure = some failure) :
    openStream.perform system = (.error failure, system) := by
  unfold openStream
  rw [Action.perform_bind, Action.perform_get]
  dsimp only
  rw [h]
  rfl

theorem perform_openStream (system : MicrophoneSystem) (h : system.device.openFailure = none) :
    openStream.perform system =
      match system.device.startFailure with
      | some failure => (.error failure, system.withNewStream)
      | none => (.ok (), { system.withNewStream with
          events := .started system.microphone.openedStreams :: system.withNewStream.events }) := by
  obtain ⟨settings, ⟨time, active, openFailure, startFailure, timeFailure, stopFailure⟩,
    microphone, events⟩ := system
  dsimp only at h
  subst h
  cases startFailure <;> rfl

/-- The held stream is let go of, and this happens to it. -/
def withoutStream (events : List StreamEvent) (system : MicrophoneSystem) : MicrophoneSystem :=
  { system with
    microphone := { system.microphone with stream := none }
    events := events ++ system.events }

/-- What a call does to streams, with the stream that it loses. -/
inductive Traffic (before after : MicrophoneSystem) : Option Nat → Prop
  | nothing (hafter : SameStreams before after) : Traffic before after none
  | opened {started : List StreamEvent} (hheld : before.microphone.stream = none)
      (hstarted : ∀ event ∈ started, ∃ stream, event = .started stream)
      (hafter : SameStreams { before.withNewStream with
        events := started ++ before.withNewStream.events } after) : Traffic before after none
  | refused (hheld : before.microphone.stream = none)
      (hafter : SameStreams (before.withNewStream.withoutStream []) after) :
      Traffic before after (some before.microphone.openedStreams)
  | closed {stream : Nat} (hheld : before.microphone.stream = some stream)
      (hafter : SameStreams (before.withoutStream [.closed stream, .stopped stream]) after) :
      Traffic before after none
  | unstopped {stream : Nat} (hheld : before.microphone.stream = some stream)
      (hafter : SameStreams (before.withoutStream [.stopped stream]) after) :
      Traffic before after (some stream)

theorem Traffic.sameStreams {before middle after : MicrophoneSystem} {lost : Option Nat}
    (h : Traffic before middle lost) (hsame : SameStreams middle after) :
    Traffic before after lost := by
  cases h with
  | nothing hafter => exact .nothing (hafter.trans hsame)
  | opened hheld hstarted hafter => exact .opened hheld hstarted (hafter.trans hsame)
  | refused hheld hafter => exact .refused hheld (hafter.trans hsame)
  | closed hheld hafter => exact .closed hheld (hafter.trans hsame)
  | unstopped hheld hafter => exact .unstopped hheld (hafter.trans hsame)

theorem perform_start_of_held {system : MicrophoneSystem} {stream : Nat}
    (h : system.microphone.stream = some stream) : start.perform system = (.ok (), system) := by
  unfold start
  rw [Action.perform_bind, Action.perform_get]
  dsimp only
  rw [h]
  rfl

theorem perform_start_of_none {system : MicrophoneSystem} (h : system.microphone.stream = none) :
    start.perform system =
      match openStream.perform system with
      | (.ok (), after) => (.ok (), after)
      | (.error failure, after) =>
          if isRefusal failure then
            (.error ⟨.device, s!"Could not open microphone: {failure.message}"⟩,
              after.withoutStream [])
          else (.error failure, after) := by
  unfold start
  rw [Action.perform_bind, Action.perform_get]
  dsimp only
  rw [h, if_pos Option.isNone_none, Action.perform_bind_attempt]
  generalize openStream.perform system = outcome
  obtain ⟨result, after⟩ := outcome
  cases result with
  | ok value => rfl
  | error failure =>
      dsimp only
      split <;> rfl

theorem traffic_start (system : MicrophoneSystem) :
    Traffic system (start.perform system).2 (system.refused? system.device) := by
  cases hheld : system.microphone.stream with
  | some stream =>
      have hrefused : system.refused? system.device = none := by simp [refused?, hheld]
      rw [perform_start_of_held hheld, hrefused]
      exact .nothing (.refl system)
  | none =>
      rw [perform_start_of_none hheld]
      cases hopen : system.device.openFailure with
      | some failure =>
          have hrefused : system.refused? system.device = none := by simp [refused?, hopen]
          rw [perform_openStream_of_openFailure hopen, hrefused]
          dsimp only
          -- there is no new stream, and none was held before
          split
          · exact .nothing ⟨hheld.symm, rfl, rfl⟩
          · exact .nothing (.refl system)
      | none =>
          rw [perform_openStream system hopen]
          cases hstart : system.device.startFailure with
          | none =>
              have hrefused : system.refused? system.device = none := by simp [refused?, hstart]
              have hstarted : ∀ event ∈ [StreamEvent.started system.microphone.openedStreams],
                  ∃ stream, event = .started stream := by
                simp
              rw [hrefused]
              exact .opened hheld hstarted (.refl _)
          | some failure =>
              dsimp only
              split
              · rename_i hrefusal
                have hrefused : system.refused? system.device =
                    some system.microphone.openedStreams := by
                  simp [refused?, hheld, hopen, hstart, hrefusal]
                rw [hrefused]
                exact .refused hheld (.refl _)
              · rename_i hrefusal
                have hrefused : system.refused? system.device = none := by
                  simp [refused?, hstart, hrefusal]
                rw [hrefused]
                exact .opened hheld (List.forall_mem_nil _) (.refl _)

theorem perform_stopStream (stream : Nat) (system : MicrophoneSystem) :
    (stopStream stream).perform system =
      match system.device.stopFailure with
      | some failure => (.error failure, { system with events := .stopped stream :: system.events })
      | none => (.ok (), { system with
          events := .closed stream :: .stopped stream :: system.events }) := by
  obtain ⟨settings, ⟨time, active, openFailure, startFailure, timeFailure, stopFailure⟩,
    microphone, events⟩ := system
  cases stopFailure <;> rfl

theorem perform_close_of_held {system : MicrophoneSystem} {stream : Nat}
    (h : system.microphone.stream = some stream) :
    close.perform system =
      match system.device.stopFailure with
      | none => (.ok (), system.withoutStream [.closed stream, .stopped stream])
      | some failure =>
          (if failure.kind.isA .audioHost then .ok () else .error failure,
            system.withoutStream [.stopped stream]) := by
  have hhold : (hold none).perform system = (.ok (), system.withoutStream []) := rfl
  have hdevice : (system.withoutStream []).device = system.device := rfl
  unfold close
  rw [Action.perform_bind, Action.perform_get]
  dsimp only
  rw [h]
  dsimp only
  rw [Action.perform_bind, hhold]
  dsimp only
  rw [Action.perform_bind_attempt, perform_stopStream, hdevice]
  cases system.device.stopFailure with
  | none => rfl
  | some failure =>
      dsimp only
      split <;> rfl

theorem traffic_close (system : MicrophoneSystem) :
    Traffic system (close.perform system).2
      (if system.device.stopFailure.isSome then system.microphone.stream else none) := by
  cases hheld : system.microphone.stream with
  | none =>
      have hclose : (close.perform system).2 = system := by
        unfold close
        rw [Action.perform_bind, Action.perform_get]
        dsimp only
        rw [hheld]
        rfl
      rw [hclose, ite_self]
      exact .nothing (.refl system)
  | some stream =>
      rw [perform_close_of_held hheld]
      cases system.device.stopFailure with
      | none => exact .closed hheld (.refl _)
      | some failure => exact .unstopped hheld (.refl _)

theorem traffic_step (system : MicrophoneSystem) (call : MicrophoneCall) :
    Traffic { system with device := call.device } (system.step call) (system.lost? call) := by
  obtain ⟨device, request⟩ := call
  cases request with
  | start => exact traffic_start { system with device }
  | enter => exact traffic_start { system with device }
  | close => exact traffic_close { system with device }
  | leave => exact traffic_close { system with device }
  | capture maxSeconds =>
      have hafter := sameStreams_capture maxSeconds { system with device }
      rw [perform_openWindow] at hafter
      cases hmuted : system.microphone.muted with
      | true =>
          rw [if_pos hmuted] at hafter
          simp only [lost?, hmuted]
          exact .nothing hafter
      | false =>
          rw [if_neg (ne_true_of_eq_false hmuted)] at hafter
          simp only [lost?, hmuted]
          exact (traffic_start { system with device }).sameStreams
            ((sameStreams_beginWindow maxSeconds { system with device }).trans hafter)
  | mute => exact .nothing (leavesStreams_mute.sameStreams { system with device })
  | unmute => exact .nothing (leavesStreams_unmute.sameStreams { system with device })
  | deliver delivery =>
      exact .nothing ((leavesStreams_deliver delivery).sameStreams { system with device })

/-- Streams are numbered in the order of their opening, and the one that is held
is not closed. -/
structure Numbered (system : MicrophoneSystem) : Prop where
  opened : ∀ stream, system.Opened stream ↔ stream < system.microphone.openedStreams
  closed : ∀ stream, system.Closed stream → system.Opened stream
  held : ∀ stream, system.microphone.stream = some stream →
    system.Opened stream ∧ ¬ system.Closed stream

theorem numbered_initial (settings : MicrophoneSettings) (device : AudioDevice) :
    (initial settings device).Numbered where
  opened := by simp [Opened, initial, Microphone.initial]
  closed := nofun
  held := nofun

theorem SameStreams.opened_iff {before after : MicrophoneSystem} (h : SameStreams before after)
    (stream : Nat) : after.Opened stream ↔ before.Opened stream := by
  simp only [Opened, h.2.2]

theorem SameStreams.closed_iff {before after : MicrophoneSystem} (h : SameStreams before after)
    (stream : Nat) : after.Closed stream ↔ before.Closed stream := by
  simp only [Closed, h.2.2]

theorem opened_withNewStream (system : MicrophoneSystem) (stream : Nat) :
    system.withNewStream.Opened stream ↔
      stream = system.microphone.openedStreams ∨ system.Opened stream := by
  simp [Opened, withNewStream, exists_or]

theorem closed_withNewStream (system : MicrophoneSystem) (stream : Nat) :
    system.withNewStream.Closed stream ↔ system.Closed stream := by
  simp [Closed, withNewStream]

theorem opened_append_iff {system : MicrophoneSystem} {started : List StreamEvent}
    (hstarted : ∀ event ∈ started, ∃ stream, event = .started stream) (stream : Nat) :
    Opened { system with events := started ++ system.events } stream ↔ system.Opened stream := by
  have hnone : ∀ blockSize device rate, .opened stream blockSize device rate ∉ started := by
    intro blockSize device rate hmem
    obtain ⟨_, hevent⟩ := hstarted _ hmem
    contradiction
  simp [Opened, hnone]

theorem closed_append_iff {system : MicrophoneSystem} {started : List StreamEvent}
    (hstarted : ∀ event ∈ started, ∃ stream, event = .started stream) (stream : Nat) :
    Closed { system with events := started ++ system.events } stream ↔ system.Closed stream := by
  have hnone : .closed stream ∉ started := by
    intro hmem
    obtain ⟨_, hevent⟩ := hstarted _ hmem
    contradiction
  simp [Closed, hnone]

/-- Each call keeps the numbering, and the streams that are lost are those that
were lost before and the one that it loses. -/
theorem Traffic.accounts {before after : MicrophoneSystem} {lost : Option Nat}
    (h : Traffic before after lost) (hnumbered : before.Numbered) :
    after.Numbered ∧ ∀ stream, after.Leaked stream ↔ before.Leaked stream ∨ lost = some stream := by
  obtain ⟨hopenedBefore, hclosedBefore, hheldBefore⟩ := hnumbered
  cases h with
  | nothing hafter =>
      have hopened := hafter.opened_iff
      have hclosed := hafter.closed_iff
      obtain ⟨hstream, hcount, -⟩ := hafter
      refine ⟨⟨?_, ?_, ?_⟩, ?_⟩ <;> grind [Leaked]
  | opened hheld hstarted hafter =>
      have hopened := fun stream => (hafter.opened_iff stream).trans
        ((opened_append_iff hstarted stream).trans (opened_withNewStream before stream))
      have hclosed := fun stream => (hafter.closed_iff stream).trans
        ((closed_append_iff hstarted stream).trans (closed_withNewStream before stream))
      obtain ⟨hstream, hcount, -⟩ := hafter
      refine ⟨⟨?_, ?_, ?_⟩, ?_⟩ <;> grind [Leaked, withNewStream]
  | refused hheld hafter =>
      have hopened := fun stream =>
        (hafter.opened_iff stream).trans (opened_withNewStream before stream)
      have hclosed := fun stream =>
        (hafter.closed_iff stream).trans (closed_withNewStream before stream)
      obtain ⟨hstream, hcount, -⟩ := hafter
      refine ⟨⟨?_, ?_, ?_⟩, ?_⟩ <;> grind [Leaked, withNewStream, withoutStream]
  | closed hheld hafter =>
      have hopened : ∀ stream, after.Opened stream ↔ before.Opened stream := by
        intro stream
        rw [hafter.opened_iff]
        simp [Opened, withoutStream]
      have hclosed : ∀ other, after.Closed other ↔
          before.microphone.stream = some other ∨ before.Closed other := by
        intro other
        rw [hafter.closed_iff, hheld]
        simp [Closed, withoutStream, eq_comm]
      obtain ⟨hstream, hcount, -⟩ := hafter
      refine ⟨⟨?_, ?_, ?_⟩, ?_⟩ <;> grind [Leaked, withoutStream]
  | unstopped hheld hafter =>
      have hopened : ∀ stream, after.Opened stream ↔ before.Opened stream := by
        intro stream
        rw [hafter.opened_iff]
        simp [Opened, withoutStream]
      have hclosed : ∀ other, after.Closed other ↔ before.Closed other := by
        intro other
        rw [hafter.closed_iff]
        simp [Closed, withoutStream]
      obtain ⟨hstream, hcount, -⟩ := hafter
      refine ⟨⟨?_, ?_, ?_⟩, ?_⟩ <;> grind [Leaked, withoutStream]

theorem accounts_step {system : MicrophoneSystem} (hnumbered : system.Numbered)
    (call : MicrophoneCall) :
    (system.step call).Numbered ∧ ∀ stream,
      (system.step call).Leaked stream ↔ system.Leaked stream ∨ system.lost? call = some stream :=
  (traffic_step system call).accounts ⟨hnumbered.opened, hnumbered.closed, hnumbered.held⟩

theorem leaked_run_iff {system : MicrophoneSystem} (hnumbered : system.Numbered)
    (calls : List MicrophoneCall) (stream : Nat) :
    (system.run calls).Leaked stream ↔ system.Leaked stream ∨
      ∃ before call after, calls = before ++ call :: after ∧
        (system.run before).lost? call = some stream := by
  induction calls generalizing system with
  | nil => simp [run]
  | cons first rest ih =>
      obtain ⟨hnext, hleaked⟩ := accounts_step hnumbered first
      change ((system.step first).run rest).Leaked stream ↔ _
      rw [ih hnext, hleaked, or_assoc]
      refine or_congr_right ?_
      constructor
      · rintro (hfirst | ⟨before, call, after, rfl, hlost⟩)
        · exact ⟨[], first, rest, rfl, hfirst⟩
        · exact ⟨first :: before, call, after, rfl, hlost⟩
      · rintro ⟨before, call, after, hcalls, hlost⟩
        cases before with
        | nil =>
            cases hcalls
            exact Or.inl hlost
        | cons other before =>
            cases hcalls
            exact Or.inr ⟨before, call, after, rfl, hlost⟩

theorem stream_of_start_fails {system : MicrophoneSystem} {failure : Failure}
    (hrefuses : ∀ failure, system.device.startFailure = some failure → isRefusal failure)
    (h : (start.perform system).1 = .error failure) :
    (start.perform system).2.microphone.stream = none := by
  cases hheld : system.microphone.stream with
  | some stream =>
      rw [perform_start_of_held hheld] at h
      cases h
  | none =>
      rw [perform_start_of_none hheld] at h ⊢
      cases hopen : system.device.openFailure with
      | some cause =>
          rw [perform_openStream_of_openFailure hopen]
          dsimp only
          split
          · rfl
          · exact hheld
      | none =>
          rw [perform_openStream system hopen] at h ⊢
          cases hstart : system.device.startFailure with
          | none =>
              rw [hstart] at h
              cases h
          | some cause =>
              dsimp only
              rw [if_pos (hrefuses cause hstart)]
              rfl

/-- In a run a stream is lost exactly by a call at which the device refuses to
start what it opened, or fails to stop what is closed. And a start that fails
leaves no stream held, if the device only refuses. -/
theorem run_leaks_exactly (settings : MicrophoneSettings) (device : AudioDevice)
    (calls : List MicrophoneCall) :
    let system := (initial settings device).run calls
    (∀ stream, system.Leaked stream ↔ ∃ before call after, calls = before ++ call :: after ∧
      ((initial settings device).run before).lost? call = some stream) ∧
    ∀ call, call.request = .start ∨ call.request = .enter →
      (∀ failure, call.device.startFailure = some failure → isRefusal failure) →
      (∃ failure, ((serve call.request).perform { system with device := call.device }).1 =
        .error failure) →
      (system.step call).microphone.stream = none := by
  intro system
  constructor
  · intro stream
    have hnone : ¬ (initial settings device).Leaked stream := by
      rintro ⟨⟨_, _, _, hopened⟩, -⟩
      cases hopened
    rw [leaked_run_iff (numbered_initial settings device), or_iff_right hnone]
  · rintro ⟨device, request⟩ (rfl | rfl) hrefuses ⟨failure, hfails⟩
    · exact stream_of_start_fails hrefuses hfails
    · exact stream_of_start_fails hrefuses hfails

/-- The device opens a stream and refuses to start it. -/
def refusing : AudioDevice := { AudioDevice.working with startFailure := some ⟨.audioHost, "busy"⟩ }

theorem run_leaks_exactly_refusing :
    let system := initial MicrophoneSettings.usual AudioDevice.working
    (system.run [⟨refusing, .start⟩]).Leaked 0 ∧
      (∀ failure, refusing.startFailure = some failure → isRefusal failure) ∧
      ((serve .start).perform { system with device := refusing }).1 =
        .error ⟨.device, "Could not open microphone: busy"⟩ ∧
      (system.step ⟨refusing, .start⟩).microphone.stream = none := by
  intro system
  have hrefuses : ∀ failure, refusing.startFailure = some failure → isRefusal failure := by
    rintro _ ⟨⟩
    decide
  have hfails : ((serve .start).perform { system with device := refusing }).1 =
    .error ⟨.device, "Could not open microphone: busy"⟩ := rfl
  have hexactly := run_leaks_exactly MicrophoneSettings.usual AudioDevice.working
  refine ⟨?_, hrefuses, hfails, ?_⟩
  · refine ((hexactly [⟨refusing, .start⟩]).1 0).mpr ⟨[], ⟨refusing, .start⟩, [], rfl, ?_⟩
    decide
  · exact (hexactly []).2 ⟨refusing, .start⟩ (Or.inl rfl) hrefuses ⟨_, hfails⟩

/-- The device does not stop the stream that is closed. -/
def unstoppable : AudioDevice :=
  { AudioDevice.working with stopFailure := some ⟨.audioHost, "late"⟩ }

theorem streams_not_released :
    ¬ ((initial MicrophoneSettings.usual AudioDevice.working).run [⟨refusing, .start⟩]).Released ∧
      ¬ ((initial MicrophoneSettings.usual AudioDevice.working).run
        [⟨AudioDevice.working, .start⟩, ⟨unstoppable, .close⟩]).Released := by
  have hnumbered := numbered_initial MicrophoneSettings.usual AudioDevice.working
  rw [released_iff, released_iff]
  constructor
  · intro h
    refine h 0 ((leaked_run_iff hnumbered _ 0).mpr (Or.inr ⟨[], ⟨refusing, .start⟩, [], rfl, ?_⟩))
    decide
  · intro h
    refine h 0 ((leaked_run_iff hnumbered _ 0).mpr
      (Or.inr ⟨[⟨AudioDevice.working, .start⟩], ⟨unstoppable, .close⟩, [], rfl, ?_⟩))
    decide

end MicrophoneSystem

end SpokenCalculator
