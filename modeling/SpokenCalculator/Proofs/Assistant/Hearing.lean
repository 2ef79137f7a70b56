import SpokenCalculator.Proofs.Assistant.Recording
import SpokenCalculator.Proofs.Assistant.Saying
import SpokenCalculator.Proofs.Engine.Memory

namespace SpokenCalculator

open SpokenCalculator.Action

variable {σ : Type}

/-- The engine after a phrase. It stays as it was if the phrase is no command or
cannot be evaluated. -/
def Engine.follow (engine : Engine) (phrase : String) : Engine :=
  match Command.parse phrase with
  | .ok command => engine.advance (.command command)
  | .error _ => engine

structure Mind where
  engine : Engine
  armed : Bool

def Mind.hear (wakeWords : List String) (mind : Mind) (text : String) : Mind :=
  match WakeWord.address wakeWords mind.armed text with
  | (.phrase phrase, armed) => ⟨mind.engine.follow phrase, armed⟩
  | (_, armed) => ⟨mind.engine, armed⟩

/-- The phrases among texts that are taken as addressed to the assistant. -/
def WakeWord.accepted (wakeWords : List String) : Bool → List String → List String
  | _, [] => []
  | armed, text :: rest =>
      match address wakeWords armed text with
      | (.phrase phrase, armed) => phrase :: accepted wakeWords armed rest
      | (_, armed) => accepted wakeWords armed rest

theorem Mind.foldl_hear (wakeWords : List String) (mind : Mind) (texts : List String) :
    (texts.foldl (hear wakeWords) mind).engine =
      (WakeWord.accepted wakeWords mind.armed texts).foldl Engine.follow mind.engine := by
  induction texts generalizing mind with
  | nil => rfl
  | cons text rest ih =>
      rw [List.foldl_cons, ih, WakeWord.accepted, hear]
      rcases WakeWord.address wakeWords mind.armed text with ⟨_ | _ | phrase, armed⟩ <;> rfl

def heardOf : Except Failure Transcript → Option String
  | .ok ⟨some text⟩ => if text.isEmpty then none else some text
  | _ => none

namespace Call

def heard? : Call → Option String
  | .transcribe _ _ outcome => heardOf outcome
  | _ => none

def said? : Call → Option String
  | .speak _ _ text _ => some text
  | _ => none

end Call

def heardIn (calls : List Call) : List String := calls.filterMap Call.heard?

/-- The texts that the speaker was asked for, each as often as it was. -/
def saidIn (calls : List Call) : List String := calls.filterMap Call.said?

theorem heardIn_append (calls behind : List Call) :
    heardIn (calls ++ behind) = heardIn calls ++ heardIn behind :=
  List.filterMap_append

theorem saidIn_append (calls behind : List Call) :
    saidIn (calls ++ behind) = saidIn calls ++ saidIn behind :=
  List.filterMap_append

namespace Assistant

def mind (assistant : Assistant σ) : Mind := ⟨assistant.engine, assistant.armed⟩

def awaiting (engine : Engine) (armed : Bool) (world : σ) : Assistant (Recording σ) :=
  ⟨engine, .idle, armed, ⟨false, ⟨world, false, []⟩⟩⟩

/-- What is remembered and what has been heard so far. -/
def Knows (mind : Mind) (heard : List String) (assistant : Assistant (Recording σ)) : Prop :=
  assistant.mind = mind ∧ heardIn assistant.calls = heard

/-- What has been said so far, too. -/
def Listens (mind : Mind) (heard said : List String) (assistant : Assistant (Recording σ)) : Prop :=
  Knows mind heard assistant ∧ saidIn assistant.calls = said

/-- What a turn makes of the text that it hears, if it hears one. A text that is
not addressed to the assistant is the end of the turn, without a word. -/
structure Heeds (wakeWords : List String) (mind : Mind) (heard said : List String)
    (text : Option String) (outcome : Except Failure TurnResult)
    (after : Assistant (Recording σ)) : Prop where
  knows : Knows (text.elim mind (mind.hear wakeWords)) (heard ++ text.toList) after
  ignored : (∃ phrase ∈ text, (WakeWord.address wakeWords mind.armed phrase).1 = .ignored) →
    outcome = .ok .silent ∧ saidIn after.calls = said

variable {mind : Mind} {heard said : List String}

section

variable {wakeWords : List String} {outcome : Except Failure TurnResult}
  {after : Assistant (Recording σ)}

theorem Heeds.of_addressed {text : String}
    (haddress : (WakeWord.address wakeWords mind.armed text).1 ≠ .ignored)
    (hknows : Knows (mind.hear wakeWords text) (heard ++ [text]) after) :
    Heeds wakeWords mind heard said (some text) outcome after where
  knows := hknows
  ignored := by
    rintro ⟨_, ⟨⟩, hignored⟩
    exact absurd hignored haddress

theorem Heeds.of_silence (hknows : Knows mind heard after) :
    Heeds wakeWords mind heard said none outcome after where
  knows := by
    rw [Option.toList_none, List.append_nil]
    exact hknows
  ignored := by
    rintro ⟨_, ⟨⟩, _⟩

end

theorem ends_anything {α : Type} (outcome : Except Failure α) : Ends anything anything outcome := by
  cases outcome <;> trivial

section

variable {α : Type} (note : Bool → Except Failure α → Call) (muting : Bool → Bool)
  (action : Action (Surroundings σ) α)

theorem calls_noted (assistant : Assistant (Recording σ)) :
    ((ask (Recording.noted note muting action)).perform assistant).2.calls =
      assistant.calls ++ [note assistant.muted
        ((ask (Recording.noted note muting action)).perform assistant).1] := rfl

theorem leads_noted {text : Except Failure α → Option String}
    (hheard : ∀ muted outcome, (note muted outcome).heard? = text outcome) :
    (ask (Recording.noted note muting action)).Leads (Knows mind heard)
      fun outcome after => Knows mind (heard ++ (text outcome).toList) after := by
  rintro assistant ⟨hmind, rfl⟩
  refine ⟨hmind, ?_⟩
  rw [calls_noted, heardIn_append, ← hheard]
  rfl

theorem safe_noted (hheard : ∀ muted outcome, (note muted outcome).heard? = none) :
    (ask (Recording.noted note muting action)).Safe (Knows mind heard) anything anything := by
  intro assistant hknows
  have hafter := leads_noted note muting action hheard assistant hknows
  rw [Option.toList_none, List.append_nil] at hafter
  exact ⟨hafter, ends_anything _⟩

theorem leads_noted_silently {text : Except Failure α → Option String}
    (hheard : ∀ muted outcome, (note muted outcome).heard? = text outcome)
    (hsaid : ∀ muted outcome, (note muted outcome).said? = none) :
    (ask (Recording.noted note muting action)).Leads (Listens mind heard said)
      fun outcome after => Listens mind (heard ++ (text outcome).toList) said after := by
  rintro assistant ⟨hknows, rfl⟩
  refine ⟨leads_noted note muting action hheard assistant hknows, ?_⟩
  rw [calls_noted, saidIn_append, saidIn, saidIn, List.filterMap_cons, hsaid]
  exact List.append_nil _

end

section

variable (settings : Settings) (collaborators : Collaborators σ)

theorem saysWithin_recorded (mind : Mind) (heard : List String) :
    collaborators.recorded.SaysWithin (Knows mind heard) (Knows mind heard) anything where
  stage _ _ hknows := hknows
  mute := (safe_noted (fun _ _ => .mute) (fun _ => true) _ fun _ _ => rfl).leads_ends
  unmute := safe_noted (fun _ _ => .unmute) (fun _ => false) _ fun _ _ => rfl
  speak stage _ text :=
    (safe_noted (fun muted => .speak muted stage text) id _ fun _ _ => rfl).mono (fun _ => id)
      fun _ => Or.inl

theorem safe_respond_recorded (text : String) :
    (respond settings collaborators.recorded text).Safe (Knows mind heard)
      (·.isFatal = false) anything :=
  safe_respond_of_saysWithin settings (saysWithin_recorded collaborators mind heard) text

theorem leads_respondWith (command : Command) (value : Decimal) :
    (respondWith settings collaborators.recorded command value).Leads (Knows mind heard)
      fun _ after => after.Knows mind heard :=
  .bind_ofResult (fun _ _ _ hknows => hknows) fun reply _ =>
    (safe_respond_recorded settings collaborators reply).leads fun _ _ hknows => hknows

/-- The command is evaluated once, whatever comes of the answer. -/
theorem leads_answer (command : Command) :
    (answer settings collaborators.recorded command).Leads (Knows mind heard)
      fun _ after => after.Knows ⟨mind.engine.advance (.command command), mind.armed⟩ heard := by
  refine .bind_change (Knows mind heard) (fun _ hknows => hknows) ?_
  refine .bind_get fun assistant hknows => ?_
  have hengine : assistant.engine = mind.engine := congrArg Mind.engine hknows.1
  rw [hengine]
  cases hresult : mind.engine.evaluate command with
  | ok result =>
      have hnext : mind.engine.advance (.command command) = result.2 := by
        rw [Engine.advance, Engine.answer, hresult]
        rfl
      rw [hnext]
      refine .bind_change (Knows ⟨result.2, mind.armed⟩ heard) (fun state hstate => ?_)
        (leads_respondWith settings collaborators command result.1)
      exact ⟨congrArg (Mind.mk result.2) (congrArg Mind.armed hstate.1), hstate.2⟩
  | error fault =>
      have hsame : mind.engine.advance (.command command) = mind.engine := by
        rw [Engine.advance, Engine.answer, hresult]
        rfl
      rw [hsame]
      dsimp only
      split
      · exact (safe_respond_recorded settings collaborators _).leads fun _ _ hknows => hknows
      · exact .throw fun _ hknows => hknows

theorem leads_follow (phrase : String) :
    (follow settings collaborators.recorded phrase).Leads (Knows mind heard)
      fun _ after => after.Knows ⟨mind.engine.follow phrase, mind.armed⟩ heard := by
  rw [follow, Engine.follow]
  refine .bind_change (Knows mind heard) (fun _ hknows => hknows) ?_
  cases Command.parse phrase with
  | ok command =>
      refine .bind_ofResult (fun _ hfailure => ?_) fun value hvalue => ?_
      · cases hfailure
      · cases hvalue
        exact leads_answer settings collaborators command
  | error signal =>
      refine .bind_ofResult (fun _ _ _ hknows => hknows) fun value hvalue => ?_
      cases hvalue

theorem leads_hear (text : String) :
    (hear settings collaborators.recorded text).Leads (Listens mind (heard ++ [text]) said)
      (Heeds settings.wakeWords mind heard said (some text)) := by
  refine .bind_get fun assistant hlistens => ?_
  have harmed : assistant.armed = mind.armed := congrArg Mind.armed hlistens.1.1
  rw [harmed]
  have hhear : mind.hear settings.wakeWords text =
      match WakeWord.address settings.wakeWords mind.armed text with
      | (.phrase phrase, armed) => ⟨mind.engine.follow phrase, armed⟩
      | (_, armed) => ⟨mind.engine, armed⟩ := rfl
  cases haddress : WakeWord.address settings.wakeWords mind.armed text with
  | mk address armed =>
      rw [haddress] at hhear
      refine .bind_change (Listens ⟨mind.engine, armed⟩ (heard ++ [text]) said) ?_ ?_
      · rintro state ⟨⟨hmind, hheard⟩, hsaid⟩
        exact ⟨⟨congrArg (Mind.mk · armed) (congrArg Mind.engine hmind), hheard⟩, hsaid⟩
      · cases address with
        | ignored =>
            refine .pure fun state hlistens => ⟨?_, fun _ => ⟨rfl, hlistens.2⟩⟩
            rw [Option.elim_some, hhear]
            exact hlistens.1
        | wakeWordAlone =>
            refine (safe_respond_recorded settings collaborators _).leads ?_ |>.mono
              (fun _ hlistens => hlistens.1) fun _ _ => id
            refine fun outcome state hknows => .of_addressed (by simp [haddress]) ?_
            rw [hhear]
            exact hknows
        | phrase phrase =>
            refine (leads_follow settings collaborators phrase).mono
              (fun _ hlistens => hlistens.1) fun outcome state hknows =>
                .of_addressed (by simp [haddress]) ?_
            rw [hhear]
            exact hknows

/-- However often the transcriber is asked, one text is heard at most. -/
theorem leads_retry_transcribe (chunk : Chunk) (further : Nat) :
    (retry .transcriber (ask (collaborators.recorded.transcribe chunk)) further).Leads
      (Listens mind heard said)
      fun outcome after => Listens mind (heard ++ (heardOf outcome).toList) said after := by
  have hasked : (ask (collaborators.recorded.transcribe chunk)).Leads (Listens mind heard said)
      fun outcome after => Listens mind (heard ++ (heardOf outcome).toList) said after :=
    leads_noted_silently (fun muted => .transcribe muted chunk) id _ (fun _ _ => rfl) fun _ _ => rfl
  refine leads_retry hasked (fun failure state _ hlistens => ?_) further
  simpa [heardOf] using hlistens

theorem leads_listenTo (chunk : Chunk) :
    (listenTo settings collaborators.recorded chunk).Leads (Listens mind heard said)
      fun outcome after => ∃ text, Heeds settings.wakeWords mind heard said text outcome after := by
  refine .bind_change (Listens mind heard said) (fun _ hlistens => hlistens)
    (.bind_attempt (leads_retry_transcribe collaborators chunk settings.retries) fun result => ?_)
  have hsilence : heardOf result = none → ∀ after : Assistant (Recording σ),
      Listens mind (heard ++ (heardOf result).toList) said after → Knows mind heard after := by
    intro hnone after hlistens
    rw [hnone, Option.toList_none, List.append_nil] at hlistens
    exact hlistens.1
  cases result with
  | ok transcript =>
      obtain ⟨text⟩ := transcript
      cases text with
      | none => exact .pure fun after hlistens => ⟨none, .of_silence (hsilence rfl after hlistens)⟩
      | some text =>
          dsimp only
          split
          · rename_i hempty
            have hnone : heardOf (.ok ⟨some text⟩) = none := by rw [heardOf, if_pos hempty]
            exact .pure fun after hlistens => ⟨none, .of_silence (hsilence hnone after hlistens)⟩
          · rename_i htext
            have hsome : heardOf (.ok ⟨some text⟩) = some text := by rw [heardOf, if_neg htext]
            rw [hsome]
            exact (leads_hear settings collaborators text).mono (fun _ => id)
              fun _ _ hheeds => ⟨some text, hheeds⟩
  | error failure =>
      dsimp only
      split
      · exact (safe_respond_recorded settings collaborators _).leads
          (fun outcome after hknows => ⟨none, .of_silence hknows⟩) |>.mono (hsilence rfl)
            fun _ _ => id
      · exact .throw fun after hlistens => ⟨none, .of_silence (hsilence rfl after hlistens)⟩

theorem leads_turn :
    (turn settings collaborators.recorded).Leads (Listens mind heard said)
      fun outcome after => ∃ text, Heeds settings.wakeWords mind heard said text outcome after := by
  have hcapture : (ask (collaborators.recorded.capture settings.listenSeconds)).Leads
      (Listens mind heard said)
      fun _ after => Listens mind (heard ++ (none : Option String).toList) said after :=
    leads_noted_silently _ _ (collaborators.capture _) (fun _ _ => rfl) fun _ _ => rfl
  rw [Option.toList_none, List.append_nil] at hcapture
  refine .bind_change (Listens mind heard said) (fun _ hlistens => hlistens)
    (.bind_attempt hcapture fun result => ?_)
  cases result with
  | ok chunk => exact leads_listenTo settings collaborators chunk
  | error failure =>
      dsimp only
      split
      · exact .pure fun _ hlistens => ⟨none, .of_silence hlistens.1⟩
      · exact .throw fun _ hlistens => ⟨none, .of_silence hlistens.1⟩

/-- What is remembered follows from what was heard. -/
def Follows (wakeWords : List String) (start : Mind) (assistant : Assistant (Recording σ)) : Prop :=
  assistant.mind = (heardIn assistant.calls).foldl (Mind.hear wakeWords) start

variable {start : Mind}

theorem safe_turn_follows :
    (turn settings collaborators.recorded).Safe (Follows settings.wakeWords start) anything
      anything := by
  intro assistant hfollows
  obtain ⟨text, hheeds⟩ := leads_turn settings collaborators assistant ⟨⟨rfl, rfl⟩, rfl⟩
  refine ⟨?_, ends_anything _⟩
  rw [Follows, hheeds.knows.1, hheeds.knows.2, List.foldl_append, ← hfollows]
  cases text <;> rfl

theorem safe_turns_follows (limit : Nat) (last : Option TurnResult) :
    (turns settings collaborators.recorded limit last).Safe (Follows settings.wakeWords start)
      anything anything := by
  induction limit generalizing last with
  | zero => exact .pure trivial
  | succ limit ih =>
      refine .bind .get fun assistant _ => ?_
      split
      · refine .bind (safe_turn_follows settings collaborators) fun result _ => ?_
        split
        · exact .pure trivial
        · exact ih (some result)
      · exact .pure trivial

theorem safe_say_follows (text : String) :
    (say settings collaborators.recorded text).Safe (Follows settings.wakeWords start) anything
      anything := by
  intro assistant hfollows
  have hsays := saysWithin_recorded collaborators assistant.mind (heardIn assistant.calls)
  have hsaid := safe_say_of_saysWithin settings hsays text assistant ⟨rfl, rfl⟩
  refine ⟨?_, hsaid.2⟩
  rw [Follows, hsaid.1.1, hsaid.1.2]
  exact hfollows

/-- Over a run the engine has evaluated the phrases among the texts that were
heard, each once and in their order. -/
theorem safe_run_follows (limit : Nat) :
    (run settings collaborators.recorded limit).Safe (Follows settings.wakeWords start) anything
      anything := by
  have hclose : (setRunning false >>= fun _ => setStage .idle :
      Action (Assistant (Recording σ)) Unit).Safe (Follows settings.wakeWords start) anything
        anything :=
    .bind (.change fun _ hfollows => hfollows) fun _ _ => .change fun _ hfollows => hfollows
  have hturns := (safe_turns_follows settings collaborators limit none).ensuring hclose
  refine .bind (.change fun _ hfollows => hfollows) fun _ _ =>
    .bind (.change fun _ hfollows => hfollows) fun _ _ => ?_
  dsimp only
  split
  · exact .bind (safe_say_follows settings collaborators _) fun _ _ => hturns
  · exact hturns

end

end Assistant

end SpokenCalculator
