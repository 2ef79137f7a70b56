import SpokenCalculator.Assistant.Rehearsal
import SpokenCalculator.Proofs.Action.Log
import SpokenCalculator.Proofs.Assistant.Recording

/-!
# The assistant never listens while it speaks

The calls of a run follow a grammar: a greeting, if there is one, and turns. In a
turn the microphone is asked once and the transcriber is asked for the result;
an utterance may follow, which is spoken between muting and unmuting the
microphone. This holds however the microphone, the transcriber and the speaker
fail, and for every part of a run that goes on without end.
-/

namespace SpokenCalculator

open SpokenCalculator.Action

variable {σ α : Type}

structure Collaborators.Mutes (collaborators : Collaborators σ) : Prop where
  mute : collaborators.mute.Safe anything anything never
  unmute : collaborators.unmute.Safe anything anything never

/-- The outcomes of a call that is repeated up to the given number of times:
after each failure of its own kind, and after nothing else. -/
structure Attempts (kind : FailureKind) (further : Nat) (outcomes : List (Except Failure α)) :
    Prop where
  nonempty : outcomes ≠ []
  bounded : outcomes.length ≤ 1 + further
  repeated : ∀ outcome ∈ outcomes.dropLast, ∃ failure, outcome = .error failure ∧
    failure.kind.isA kind

theorem Attempts.singleton (kind : FailureKind) (further : Nat) (outcome : Except Failure α) :
    Attempts kind further [outcome] where
  nonempty := List.cons_ne_nil _ _
  bounded := Nat.le_add_right 1 further
  repeated := List.forall_mem_nil _

theorem Attempts.cons {kind : FailureKind} {further : Nat} {outcomes : List (Except Failure α)}
    (h : Attempts kind further outcomes) {failure : Failure} (hkind : failure.kind.isA kind) :
    Attempts kind (further + 1) (.error failure :: outcomes) where
  nonempty := List.cons_ne_nil _ _
  bounded := by
    have := h.bounded
    rw [List.length_cons]
    omega
  repeated := by
    rw [List.dropLast_cons_of_ne_nil h.nonempty, List.forall_mem_cons]
    exact ⟨⟨failure, rfl, hkind⟩, h.repeated⟩

/-- The microphone is muted, a text is spoken, and the microphone is unmuted. -/
inductive IsUtterance (retries : Nat) (text : String) : List Call → Prop
  | intro {outcomes : List (Except Failure SpeechOutcome)}
      (hattempts : Attempts .speaker retries outcomes) :
      IsUtterance retries text
        (.mute :: (outcomes.map (.speak true .speaking text) ++ [.unmute]))

/-- One attempt to listen; if it succeeds, the transcriber is asked for what was
captured, and at most one utterance follows. -/
inductive IsTurn (retries : Nat) : List Call → Prop
  | deaf (failure : Failure) : IsTurn retries [.capture false (.error failure)]
  | silent {chunk : Chunk} {outcomes : List (Except Failure Transcript)}
      (hattempts : Attempts .transcriber retries outcomes) :
      IsTurn retries (.capture false (.ok chunk) :: outcomes.map (.transcribe false chunk))
  | spoken {chunk : Chunk} {outcomes : List (Except Failure Transcript)} {text : String}
      {said : List Call} (hattempts : Attempts .transcriber retries outcomes)
      (hsaid : IsUtterance retries text said) :
      IsTurn retries
        (.capture false (.ok chunk) :: (outcomes.map (.transcribe false chunk) ++ said))

def IsGreeting (settings : Settings) (calls : List Call) : Prop :=
  if settings.greeting.isEmpty then calls = []
  else IsUtterance settings.retries settings.greeting calls

inductive IsRun (settings : Settings) (limit : Nat) : List Call → Prop
  | intro {greeting : List Call} {turns : List (List Call)}
      (hgreeting : IsGreeting settings greeting)
      (hturns : ∀ turn ∈ turns, IsTurn settings.retries turn) (hlimit : turns.length ≤ limit) :
      IsRun settings limit (greeting ++ turns.flatten)

namespace Assistant

def IsOpen (assistant : Assistant (Recording σ)) : Prop := assistant.muted = false

def IsIdle (assistant : Assistant (Recording σ)) : Prop :=
  assistant.IsOpen ∧ assistant.stage = .idle

def IsSpeaking (assistant : Assistant (Recording σ)) : Prop :=
  assistant.muted = true ∧ assistant.stage = .speaking

section

variable {pre : Assistant (Recording σ) → Prop}

theorem logs_retry {kind : FailureKind} {action : Action (Assistant (Recording σ)) α}
    {note : Except Failure α → Call}
    (h : action.Logs calls pre pre fun outcome events => events = [note outcome]) (further : Nat) :
    (retry kind action further).Logs calls pre pre fun _ events =>
      ∃ outcomes, Attempts kind further outcomes ∧ events = outcomes.map note := by
  induction further with
  | zero => exact h.mono fun outcome _ hevents => ⟨[outcome], .singleton kind 0 outcome, hevents⟩
  | succ further ih =>
      refine .bind_attempt h fun result events hevents => ?_
      subst hevents
      cases result with
      | ok value => exact .pure ⟨[.ok value], .singleton kind _ _, rfl⟩
      | error failure =>
          dsimp only
          split
          · rename_i hkind
            refine ih.mono fun _ events => ?_
            rintro ⟨outcomes, hattempts, rfl⟩
            exact ⟨.error failure :: outcomes, hattempts.cons hkind, rfl⟩
          · exact .throw ⟨[.error failure], .singleton kind _ _, rfl⟩

theorem logs_noted (note : Bool → Except Failure α → Call) (action : Action (Surroundings σ) α)
    {muted : Bool} (hmuted : ∀ assistant, pre assistant → assistant.muted = muted)
    (hkept : ∀ assistant surroundings, pre assistant →
      surroundings.world.muted = assistant.muted → pre { assistant with surroundings }) :
    (ask (Recording.noted note id action)).Logs calls pre pre
      fun outcome events => events = [note muted outcome] := by
  intro assistant hpre
  refine ⟨hkept assistant _ hpre rfl, [note assistant.muted _], rfl, ?_⟩
  rw [hmuted assistant hpre]
  rfl

end

theorem logs_setStage (stage : Stage) :
    (setStage stage : Action (Assistant (Recording σ)) Unit).Logs calls IsOpen
      (fun assistant => assistant.IsOpen ∧ assistant.stage = stage) (Silently anything) :=
  .change (fun _ hopen => ⟨hopen, rfl⟩) fun _ => rfl

theorem logs_setRunning (running : Bool) :
    (setRunning running : Action (Assistant (Recording σ)) Unit).Logs calls IsOpen IsOpen
      (Silently anything) :=
  .change (fun _ hopen => hopen) fun _ => rfl

theorem logs_enter (stage : Stage) :
    (setStage stage : Action (Assistant (Recording σ)) Unit).Logs calls IsOpen IsOpen
      (Silently anything) :=
  (logs_setStage stage).mono_post fun _ hstage => hstage.1

def close : Action (Assistant (Recording σ)) Unit := do
  setRunning false
  setStage .idle

theorem logs_close :
    (close : Action (Assistant (Recording σ)) Unit).Logs calls IsOpen IsIdle
      fun outcome events => outcome = .ok () ∧ events = [] := by
  refine .bind_silently (logs_setRunning false) fun _ _ => (logs_setStage .idle).mono ?_
  rintro outcome events ⟨hevents, _, houtcome, _⟩
  exact ⟨houtcome, hevents⟩

theorem logs_capture (collaborators : Collaborators σ) (seconds : Quantity) :
    (ask (collaborators.recorded.capture seconds)).Logs calls IsOpen IsOpen
      fun outcome events => events = [.capture false outcome] :=
  logs_noted .capture _ (fun _ hopen => hopen) fun _ _ hopen hsame => hsame.trans hopen

theorem logs_transcribe (collaborators : Collaborators σ) (chunk : Chunk) :
    (ask (collaborators.recorded.transcribe chunk)).Logs calls IsOpen IsOpen
      fun outcome events => events = [.transcribe false chunk outcome] :=
  logs_noted (fun muted => .transcribe muted chunk) _ (fun _ hopen => hopen)
    fun _ _ hopen hsame => hsame.trans hopen

theorem logs_speak (collaborators : Collaborators σ) (interruption : Option MonitorTimes)
    (text : String) :
    (ask (collaborators.recorded.speak .speaking interruption text)).Logs calls IsSpeaking
      IsSpeaking fun outcome events => events = [.speak true .speaking text outcome] :=
  logs_noted (fun muted => .speak muted .speaking text) _ (fun _ hspeaking => hspeaking.1)
    fun _ _ hspeaking hsame => ⟨hsame.trans hspeaking.1, hspeaking.2⟩

theorem logs_switch {pre post : Assistant (Recording σ) → Prop} (call : Call) (muted : Bool)
    {action : Action (Surroundings σ) Unit} (h : action.Safe anything anything never)
    (hpost : ∀ assistant surroundings, pre assistant → surroundings.world.muted = muted →
      post { assistant with surroundings }) :
    (ask (Recording.noted (fun _ _ => call) (fun _ => muted) action)).Logs calls pre post
      fun outcome events => outcome = .ok () ∧ events = [call] := by
  intro assistant hpre
  refine ⟨hpost assistant _ hpre rfl, [call], rfl, ?_, rfl⟩
  have hends := (h (Recording.unrecorded assistant.surroundings) trivial).2
  change (action.perform (Recording.unrecorded assistant.surroundings)).1 = .ok ()
  cases houtcome : (action.perform (Recording.unrecorded assistant.surroundings)).1 with
  | ok value => rfl
  | error failure =>
      rw [houtcome] at hends
      exact hends.elim

section

variable {settings : Settings} {collaborators : Collaborators σ} (h : collaborators.Mutes)

include h

theorem logs_utter (text : String) :
    (utter settings collaborators.recorded text).Logs calls
      (fun assistant => assistant.IsOpen ∧ assistant.stage = .speaking) IsOpen
      fun _ events => IsUtterance settings.retries text events := by
  have hmute : (ask collaborators.recorded.mute).Logs calls
      (fun assistant => assistant.IsOpen ∧ assistant.stage = .speaking) IsSpeaking
      fun outcome events => outcome = .ok () ∧ events = [.mute] :=
    logs_switch .mute true h.mute fun _ _ hpre hmuted => ⟨hmuted, hpre.2⟩
  have hunmute : (ask collaborators.recorded.unmute).Logs calls IsSpeaking IsOpen
      fun outcome events => outcome = .ok () ∧ events = [.unmute] :=
    logs_switch .unmute false h.unmute fun _ _ _ hmuted => hmuted
  refine .bind hmute ?_ ?_
  · rintro failure events ⟨hfails, _⟩
    cases hfails
  · rintro _ events ⟨_, rfl⟩
    refine .bind_silently .get fun assistant hspeaking => ?_
    -- the speaker is told the stage that is read here
    rw [hspeaking.2]
    refine .ensuring (logs_retry (logs_speak collaborators _ text) settings.retries) hunmute ?_
    rintro outcome _ ⟨outcomes, hattempts, rfl⟩
    exact .intro hattempts

theorem logs_say (text : String) :
    (say settings collaborators.recorded text).Logs calls IsOpen IsIdle
      fun _ events => IsUtterance settings.retries text events := by
  refine .bind_silently (logs_setStage .speaking) fun _ _ =>
    .bind_attempt (logs_utter h text) fun result events hevents =>
      .bind_silently (logs_setStage .idle) fun _ _ => ?_
  have hsaid : IsUtterance settings.retries text (events ++ []) := by rwa [List.append_nil]
  cases result with
  | ok outcome => exact .pure hsaid
  | error failure =>
      dsimp only
      split
      · exact .pure hsaid
      · exact .throw hsaid

theorem logs_respond (text : String) :
    (respond settings collaborators.recorded text).Logs calls IsOpen IsOpen
      fun _ events => IsUtterance settings.retries text events := by
  refine .bind ((logs_say h text).mono_post fun _ hidle => hidle.1) ?_ ?_
  · exact fun failure events hsaid => ⟨hsaid, fun _ hopen => hopen⟩
  · intro outcome events hsaid
    rw [← List.append_nil events] at hsaid
    cases outcome with
    | some outcome => exact .pure hsaid
    | none => exact .pure hsaid

def IsAnswer (retries : Nat) (events : List Call) : Prop :=
  events = [] ∨ ∃ text, IsUtterance retries text events

theorem logs_respond_answer (text : String) :
    (respond settings collaborators.recorded text).Logs calls IsOpen IsOpen
      fun _ events => IsAnswer settings.retries events :=
  (logs_respond h text).mono fun _ _ hsaid => Or.inr ⟨text, hsaid⟩

theorem logs_respondWith (command : Command) (value : Decimal) :
    (respondWith settings collaborators.recorded command value).Logs calls IsOpen IsOpen
      fun _ events => IsAnswer settings.retries events :=
  .bind_ofResult (fun _ => Or.inl rfl) fun reply => logs_respond_answer h reply

theorem logs_answer (command : Command) :
    (answer settings collaborators.recorded command).Logs calls IsOpen IsOpen
      fun _ events => IsAnswer settings.retries events := by
  refine .bind_silently (logs_enter .evaluating) fun _ _ =>
    .bind_silently .get fun assistant _ => ?_
  cases assistant.engine.evaluate command with
  | ok result =>
      have hstored : (change fun assistant : Assistant (Recording σ) =>
          { assistant with engine := result.2 }).Logs calls IsOpen IsOpen (Silently anything) :=
        .change (fun _ hopen => hopen) fun _ => rfl
      exact .bind_silently hstored fun _ _ => logs_respondWith h command result.1
  | error fault =>
      dsimp only
      split
      · exact logs_respond_answer h _
      · exact .throw (Or.inl rfl)

theorem logs_follow (phrase : String) :
    (follow settings collaborators.recorded phrase).Logs calls IsOpen IsOpen
      fun _ events => IsAnswer settings.retries events :=
  .bind_silently (logs_enter .parsing) fun _ _ =>
    .bind_ofResult (fun _ => Or.inl rfl) fun command => logs_answer h command

theorem logs_hear (text : String) :
    (hear settings collaborators.recorded text).Logs calls IsOpen IsOpen
      fun _ events => IsAnswer settings.retries events := by
  refine .bind_silently .get fun assistant _ => ?_
  cases WakeWord.address settings.wakeWords assistant.armed text with
  | mk address armed =>
      have harmed : (change fun assistant : Assistant (Recording σ) =>
          { assistant with armed }).Logs calls IsOpen IsOpen (Silently anything) :=
        .change (fun _ hopen => hopen) fun _ => rfl
      refine .bind_silently harmed fun _ _ => ?_
      cases address with
      | ignored => exact .pure (Or.inl rfl)
      | wakeWordAlone => exact logs_respond_answer h _
      | phrase phrase => exact logs_follow h phrase

theorem logs_listenTo (chunk : Chunk) :
    (listenTo settings collaborators.recorded chunk).Logs calls IsOpen IsOpen
      fun _ events => ∃ outcomes said, Attempts .transcriber settings.retries outcomes ∧
        IsAnswer settings.retries said ∧
          events = outcomes.map (.transcribe false chunk) ++ said := by
  refine .bind_silently (logs_enter .transcribing) fun _ _ =>
    .bind_attempt (logs_retry (logs_transcribe collaborators chunk) settings.retries) ?_
  rintro result _ ⟨outcomes, hattempts, rfl⟩
  -- whatever the transcriber said, all that is left to log is an answer
  refine .mono ?_ fun _ said (hsaid : IsAnswer settings.retries said) =>
    ⟨outcomes, said, hattempts, hsaid, rfl⟩
  cases result with
  | ok transcript =>
      obtain ⟨heard⟩ := transcript
      cases heard with
      | none => exact .pure (Or.inl rfl)
      | some text =>
          dsimp only
          split
          · exact .pure (Or.inl rfl)
          · exact logs_hear h text
  | error failure =>
      dsimp only
      split
      · exact logs_respond_answer h _
      · exact .throw (Or.inl rfl)

theorem logs_turn :
    (turn settings collaborators.recorded).Logs calls IsOpen IsOpen
      fun _ events => IsTurn settings.retries events := by
  refine .bind_silently (logs_enter .listening) fun _ _ =>
    .bind_attempt (logs_capture collaborators settings.listenSeconds) ?_
  rintro result _ rfl
  cases result with
  | ok chunk =>
      refine (logs_listenTo h chunk).mono ?_
      rintro outcome _ ⟨outcomes, said, hattempts, rfl | ⟨text, hsaid⟩, rfl⟩
      · rw [List.append_nil]
        exact .silent hattempts
      · exact .spoken hattempts hsaid
  | error failure =>
      dsimp only
      split
      · exact .pure (.deaf failure)
      · exact .throw (.deaf failure)

theorem logs_turns (limit : Nat) (last : Option TurnResult) :
    (turns settings collaborators.recorded limit last).Logs calls IsOpen IsOpen
      fun _ events => ∃ turns : List (List Call), events = turns.flatten ∧ turns.length ≤ limit ∧
        ∀ turn ∈ turns, IsTurn settings.retries turn := by
  induction limit generalizing last with
  | zero => exact .pure ⟨[], rfl, Nat.le_refl 0, List.forall_mem_nil _⟩
  | succ limit ih =>
      refine .bind_silently .get fun assistant _ => ?_
      split
      · refine .bind (logs_turn h) ?_ ?_
        · -- a failure of the turn ends the session, and its calls are a turn nonetheless
          intro failure events hturn
          exact ⟨⟨[events], (List.append_nil _).symm, Nat.le_add_left 1 limit,
            List.forall_mem_singleton.2 hturn⟩, fun _ hopen => hopen⟩
        · intro result events hturn
          split
          · exact .pure ⟨[events], rfl, Nat.le_add_left 1 limit,
              List.forall_mem_singleton.2 hturn⟩
          · refine (ih (some result)).mono fun _ _ => ?_
            rintro ⟨turns, rfl, hlimit, hturns⟩
            exact ⟨events :: turns, rfl, Nat.succ_le_succ hlimit,
              List.forall_mem_cons.2 ⟨hturn, hturns⟩⟩
      · exact .pure ⟨[], rfl, Nat.zero_le _, List.forall_mem_nil _⟩

theorem turns_extends {limit more : Nat} (hmore : limit ≤ more) (last : Option TurnResult) :
    Extends calls IsOpen (turns settings collaborators.recorded limit last)
      (turns settings collaborators.recorded more last) := by
  induction limit generalizing more last with
  | zero => exact .pure (logs_turns h more last) last
  | succ limit ih =>
      obtain ⟨more, rfl⟩ : ∃ rest, more = rest + 1 := ⟨more - 1, by omega⟩
      refine .bind .get fun assistant => ?_
      split
      · refine .bind (logs_turn h) fun result => ?_
        split
        · exact .refl _
        · exact ih (Nat.le_of_succ_le_succ hmore) (some result)
      · exact .refl _

theorem logs_run (limit : Nat) :
    (run settings collaborators.recorded limit).Logs calls IsOpen IsIdle
      fun _ events => IsRun settings limit events := by
  have hturns : ∀ greeting, IsGreeting settings greeting →
      (Action.ensuring (turns settings collaborators.recorded limit none) close).Logs calls
        IsOpen IsIdle fun _ events => IsRun settings limit (greeting ++ events) := by
    intro greeting hgreeting
    refine .ensuring (logs_turns h limit none) logs_close ?_
    rintro outcome _ ⟨turns, rfl, hlimit, hturns⟩
    rw [List.append_nil]
    exact .intro hgreeting hturns hlimit
  refine .bind_silently (logs_setRunning true) fun _ _ =>
    .bind_silently (logs_enter .idle) fun _ _ => ?_
  dsimp only
  split
  · rename_i hgreets
    have hgreeting : ∀ events, IsUtterance settings.retries settings.greeting events →
        IsGreeting settings events := by
      intro events hsaid
      rw [IsGreeting, if_neg (by simpa using hgreets)]
      exact hsaid
    refine .bind (logs_say h settings.greeting) ?_ ?_
    · -- nobody cleans up behind the greeting, but saying it ends in the idle stage
      intro failure events hsaid
      rw [← List.append_nil events]
      exact ⟨.intro (hgreeting events hsaid) (List.forall_mem_nil _) (Nat.zero_le _),
        fun _ hidle => hidle⟩
    · intro _ events hsaid
      exact (hturns events (hgreeting events hsaid)).mono_pre fun _ hidle => hidle.1
  · rename_i hgreets
    refine hturns [] ?_
    rw [IsGreeting, if_pos (by simpa using hgreets)]

/-- A run that is cut short makes the first calls of the longer one. -/
theorem run_extends {limit more : Nat} (hmore : limit ≤ more) :
    Extends calls IsOpen (run settings collaborators.recorded limit)
      (run settings collaborators.recorded more) := by
  have hturns : Extends calls IsOpen
      (Action.ensuring (turns settings collaborators.recorded limit none) close)
      (Action.ensuring (turns settings collaborators.recorded more none) close) :=
    (turns_extends h hmore none).ensuring fun _ => rfl
  refine .bind (logs_setRunning true) fun _ => .bind (logs_enter .idle) fun _ => ?_
  dsimp only
  split
  · exact .bind ((logs_say h settings.greeting).mono_post fun _ hidle => hidle.1) fun _ => hturns
  · exact hturns

omit h

/-- However a run ends, the microphone is open and the assistant idle afterwards.
A run without limit makes, up to each turn, the calls of a run that is cut short
there. -/
theorem run_halfDuplex (settings : Settings) (collaborators : Collaborators σ)
    (hmutes : collaborators.Mutes) (limit : Nat) (assistant : Assistant (Recording σ))
    (hopen : assistant.IsOpen) :
    ∃ outcome after events,
      (run settings collaborators.recorded limit).perform assistant = (outcome, after) ∧
        (run settings collaborators limit).perform assistant.unrecorded =
          (outcome, after.unrecorded) ∧
        after.calls = assistant.calls ++ events ∧ IsRun settings limit events ∧ after.IsIdle ∧
        ∀ more, limit ≤ more →
          after.calls <+:
            ((run settings collaborators.recorded more).perform assistant).2.calls := by
  obtain ⟨hidle, events, hcalls, hevents⟩ := logs_run hmutes limit assistant hopen
  refine ⟨_, _, events, rfl, ?_, hcalls, hevents, hidle, ?_⟩
  · exact mirrors_run settings collaborators limit assistant
  · intro more hmore
    exact run_extends hmutes hmore assistant hopen

end

theorem mutes_rehearsal : Rehearsal.collaborators.Mutes where
  mute := .bind (.change fun _ _ => trivial) fun _ _ => .change fun _ _ => trivial
  unmute := .bind (.change fun _ _ => trivial) fun _ _ => .change fun _ _ => trivial

/-- The speaker fails to greet at first, and the transcriber fails once before it
hears nothing. -/
def faltering : Rehearsal :=
  ⟨false, 0, 1, [], "unplugged", [.fails ⟨.transcriber, "busy"⟩],
    [.fails ⟨.speaker, "no voice"⟩], []⟩

def greetingSettings : Settings :=
  ⟨.speech, .whole 30, .whole 4, .whole 3, false, .whole 1, .whole 1, .whole 1,
    Settings.usualWakeWords, "Ready.", 1, 4, none⟩

theorem run_halfDuplex_faltering :
    Rehearsal.collaborators.Mutes ∧
      (initial (.withMemory .zero) (Recording.mk faltering false [])).IsOpen ∧
      ∃ outcome after events,
        (run greetingSettings Rehearsal.collaborators.recorded 5).perform
            (initial (.withMemory .zero) ⟨faltering, false, []⟩) = (outcome, after) ∧
          (run greetingSettings Rehearsal.collaborators 5).perform
            (initial (.withMemory .zero) faltering) = (outcome, after.unrecorded) ∧
          after.calls = events ∧ IsRun greetingSettings 5 events ∧ after.IsIdle ∧
          events.length = 8 := by
  have hlength : ((run greetingSettings Rehearsal.collaborators.recorded 5).perform
      (initial (.withMemory .zero) ⟨faltering, false, []⟩)).2.calls.length = 8 := by decide +kernel
  obtain ⟨outcome, after, events, hafter, hplain, hcalls, hevents, hidle, -⟩ :=
    run_halfDuplex greetingSettings Rehearsal.collaborators mutes_rehearsal 5
      (initial (.withMemory .zero) ⟨faltering, false, []⟩) rfl
  rw [hafter, hcalls] at hlength
  exact ⟨mutes_rehearsal, rfl, outcome, after, events, hafter, hplain, hcalls, hevents, hidle,
    hlength⟩

end Assistant

end SpokenCalculator
