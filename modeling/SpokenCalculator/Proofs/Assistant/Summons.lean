import SpokenCalculator.Proofs.Assistant.Calling
import SpokenCalculator.Proofs.Assistant.Unaddressed

namespace SpokenCalculator

open SpokenCalculator.Action

variable {σ : Type}

/-! ### Hearing a text -/

namespace Occasion

def hearing (occasion : Occasion σ) (text : String) : Occasion σ :=
  { occasion with collaborators :=
      { occasion.collaborators with transcribe := fun _ => pure ⟨some text⟩ } }

def Captures (settings : Settings) (occasion : Occasion σ) : Prop :=
  ∃ chunk after, (occasion.collaborators.capture settings.listenSeconds).perform
    occasion.surroundings = (.ok chunk, after)

end Occasion

namespace Assistant

variable (settings : Settings) {occasion : Occasion σ}

/-- The assistant after a chunk was captured and a text was transcribed from
it. -/
def toldOf (chunk : Chunk) (after : Surroundings σ) (text : String)
    (assistant : Assistant (Recording σ)) : Assistant (Recording σ) :=
  { assistant with
    stage := .transcribing
    surroundings := ⟨after.running, ⟨after.world, false,
      [.capture false (.ok chunk), .transcribe false chunk (.ok ⟨some text⟩)]⟩⟩ }

theorem perform_retry_of_ok {α : Type} {kind : FailureKind} {action : Action (Assistant σ) α}
    {state after : Assistant σ} {value : α} (h : action.perform state = (.ok value, after))
    (further : Nat) : (retry kind action further).perform state = (.ok value, after) := by
  cases further with
  | zero => exact h
  | succ further =>
      rw [retry, perform_bind_attempt, h]
      rfl

theorem perform_setStage_bind {α : Type} (stage : Stage) (next : Unit → Action (Assistant σ) α)
    (assistant : Assistant σ) :
    (setStage stage >>= next).perform assistant =
      (next ()).perform { assistant with stage } := rfl

theorem perform_noted {α : Type} (note : Bool → Except Failure α → Call) (muting : Bool → Bool)
    (action : Action (Surroundings σ) α) (assistant : Assistant (Recording σ)) :
    (ask (Recording.noted note muting action)).perform assistant =
      ((action.perform (Recording.unrecorded assistant.surroundings)).1,
        let after := (action.perform (Recording.unrecorded assistant.surroundings)).2
        { assistant with surroundings := ⟨after.running, ⟨after.world, muting assistant.muted,
          assistant.calls ++ [note assistant.muted
            (action.perform (Recording.unrecorded assistant.surroundings)).1]⟩⟩ }) := rfl

theorem perform_turn_hearing {chunk : Chunk} {after : Surroundings σ}
    (hcapture : (occasion.collaborators.capture settings.listenSeconds).perform
      occasion.surroundings = (.ok chunk, after)) (text : String)
    (assistant : Assistant (Recording σ)) :
    (turn settings (occasion.hearing text).collaborators.recorded).perform
        (meeting (occasion.hearing text) assistant) =
      (if text.isEmpty then pure .silent
        else hear settings occasion.collaborators.recorded text).perform
          (toldOf chunk after text assistant) := by
  have hchunk : ∀ stage, (ask ((occasion.hearing text).collaborators.recorded.capture
      settings.listenSeconds)).perform { meeting (occasion.hearing text) assistant with stage } =
        (.ok chunk, { assistant with
          stage
          surroundings :=
            ⟨after.running, ⟨after.world, false, [.capture false (.ok chunk)]⟩⟩ }) := by
    intro stage
    have hasked : ((occasion.hearing text).collaborators.capture settings.listenSeconds).perform
        (Recording.unrecorded (meeting (occasion.hearing text) assistant).surroundings) =
          (.ok chunk, after) := hcapture
    rw [Collaborators.recorded, perform_noted, hasked]
    rfl
  have htext : (retry .transcriber (ask ((occasion.hearing text).collaborators.recorded.transcribe
      chunk)) settings.retries).perform { assistant with
        stage := .transcribing
        surroundings := ⟨after.running, ⟨after.world, false, [.capture false (.ok chunk)]⟩⟩ } =
          (.ok ⟨some text⟩, toldOf chunk after text assistant) := by
    refine perform_retry_of_ok ?_ settings.retries
    rfl
  rw [turn, perform_setStage_bind, perform_bind_attempt, hchunk]
  dsimp only
  rw [listenTo, perform_setStage_bind, perform_bind_attempt]
  dsimp only
  rw [htext]
  dsimp only
  split <;> rfl

end Assistant

/-! ### One command in other words -/

theorem Engine.advance_reworded (engine : Engine) (command : Command) (heard : String) :
    engine.advance (.command (command.reworded heard)) = engine.advance (.command command) := by
  cases command <;> rfl

theorem Assistant.answer_reworded (settings : Settings) (collaborators : Collaborators σ)
    (command : Command) (heard : String) :
    Assistant.answer settings collaborators (command.reworded heard) =
      Assistant.answer settings collaborators command := by
  cases command <;> rfl

section

variable {phrase other heard : String}
  (h : (Command.parse phrase).map (Command.reworded heard) = Command.parse other)

include h

theorem Engine.follow_of_parse (engine : Engine) : engine.follow phrase = engine.follow other := by
  rw [Engine.follow, Engine.follow, ← h]
  cases Command.parse phrase with
  | ok command => exact (engine.advance_reworded command heard).symm
  | error signal => rfl

namespace Assistant

/-- The assistant does not tell two phrases apart whose commands differ only in
the text that was heard. -/
theorem follow_of_parse (settings : Settings) (collaborators : Collaborators σ) :
    follow settings collaborators phrase = follow settings collaborators other := by
  rw [follow, follow, ← h]
  cases Command.parse phrase with
  | ok command =>
      refine congrArg (setStage .parsing >>= ·) (funext fun _ => ?_)
      exact (answer_reworded settings collaborators command heard).symm
  | error signal => rfl

end Assistant

end

/-- The commands that are handed to the engine in the turn, each as it is read
from its phrase. -/
def Attended.handed (wakeWords : List String) (turn : Attended σ) : List (Except Signal Command) :=
  (WakeWord.accepted wakeWords turn.armed turn.heard).map Command.parse

def Address.phrase? : Address → Option String
  | .phrase text => some text
  | _ => none

theorem Attended.handed_of_heard {wakeWords : List String} {turn : Attended σ} {text : String}
    (hheard : turn.heard = [text]) {address : Address} {armed : Bool}
    (haddress : WakeWord.address wakeWords turn.armed text = (address, armed)) :
    turn.handed wakeWords = address.phrase?.toList.map Command.parse := by
  rw [handed, hheard, WakeWord.accepted, haddress]
  cases address <;> rfl

/-! ### What a turn depends on -/

/-- All of an assistant but what it was told. -/
structure Stance (σ : Type) where
  assistant : Assistant σ
  muted : Bool
  said : List String

namespace Assistant

def stance (assistant : Assistant (Recording σ)) : Stance σ :=
  ⟨assistant.unrecorded, assistant.muted, saidIn assistant.calls⟩

theorem lockstep_noted {α : Type} (note : Bool → Except Failure α → Call) (muting : Bool → Bool)
    (action : Action (Surroundings σ) α) {said : Option String}
    (hsaid : ∀ muted outcome, (note muted outcome).said? = said) :
    Lockstep stance stance Eq (ask (Recording.noted note muting action))
      (ask (Recording.noted note muting action)) := by
  have hstance : ∀ assistant : Assistant (Recording σ),
      ((ask (Recording.noted note muting action)).perform assistant).2.stance =
        ⟨{ assistant.stance.assistant with
            surroundings := (action.perform assistant.stance.assistant.surroundings).2 },
          muting assistant.stance.muted, assistant.stance.said ++ said.toList⟩ := by
    intro assistant
    rw [stance, calls_noted, saidIn_append, saidIn, saidIn, List.filterMap_cons, hsaid]
    cases said <;> rfl
  intro first second hsame
  constructor
  · rw [hstance, hstance, hsame]
  · change Matches Eq (action.perform first.stance.assistant.surroundings).1
      (action.perform second.stance.assistant.surroundings).1
    rw [hsame]
    exact .refl _

theorem sees_stance :
    Sees (stance : Assistant (Recording σ) → Stance σ) (stance : Assistant (Recording σ) → Stance σ)
    where
  engine := congrArg fun view : Stance σ => view.assistant.engine
  armed := congrArg fun view : Stance σ => view.assistant.armed
  running := congrArg fun view : Stance σ => view.assistant.surroundings.running
  withStage stage _ _ := congrArg fun view : Stance σ =>
    { view with assistant := { view.assistant with stage } }
  withEngine engine _ _ := congrArg fun view : Stance σ =>
    { view with assistant := { view.assistant with engine } }
  withArmed armed _ _ := congrArg fun view : Stance σ =>
    { view with assistant := { view.assistant with armed } }

theorem speakAlike_stance (settings : Settings) (collaborators : Collaborators σ) :
    SpeakAlike stance stance settings settings collaborators.recorded collaborators.recorded where
  toSees := sees_stance
  stage := congrArg fun view : Stance σ => view.assistant.stage
  interruption := rfl
  retries := rfl
  mute := lockstep_noted (fun _ _ => .mute) (fun _ => true) collaborators.mute fun _ _ => rfl
  unmute := lockstep_noted (fun _ _ => .unmute) (fun _ => false) collaborators.unmute fun _ _ => rfl
  speak stage interruption text :=
    lockstep_noted (fun muted => .speak muted stage text) id
      (collaborators.speak stage interruption text) fun _ _ => rfl

theorem abreast_stance (settings : Settings) (collaborators : Collaborators σ) :
    Abreast stance stance Eq settings settings collaborators.recorded collaborators.recorded where
  toSees := sees_stance
  toHearsAs := .refl settings
  refl _ := rfl
  isFatal := congrArg TurnResult.isFatal
  capture seconds :=
    lockstep_noted .capture id (collaborators.capture seconds) fun _ _ => rfl
  transcribe chunk :=
    lockstep_noted (fun muted => .transcribe muted chunk) id (collaborators.transcribe chunk)
      fun _ _ => rfl
  respond := lockstep_respond_of_speakAlike (speakAlike_stance settings collaborators)

/-! ### Turns -/

theorem knows_toldOf (chunk : Chunk) (after : Surroundings σ) {text : String}
    (htext : text.isEmpty = false) (assistant : Assistant (Recording σ)) (armed : Bool) :
    Knows ⟨assistant.engine, armed⟩ [text]
      { toldOf chunk after text assistant with armed } := by
  have hheard : heardOf (.ok ⟨some text⟩) = some text := by rw [heardOf, htext]; rfl
  refine ⟨rfl, ?_⟩
  change List.filterMap Call.heard?
    [.capture false (.ok chunk), .transcribe false chunk (.ok ⟨some text⟩)] = [text]
  simp [List.filterMap_cons, Call.heard?, hheard]

section

variable {settings : Settings} {occasion : Occasion σ} {chunk : Chunk} {after : Surroundings σ}
  (hcapture : (occasion.collaborators.capture settings.listenSeconds).perform
    occasion.surroundings = (.ok chunk, after)) (assistant : Assistant (Recording σ))

def react (settings : Settings) (collaborators : Collaborators σ) :
    Address → Action (Assistant σ) TurnResult
  | .ignored => pure .silent
  | .wakeWordAlone => respond settings collaborators Reply.ready
  | .phrase phrase => follow settings collaborators phrase

theorem perform_hear {collaborators : Collaborators (Recording σ)} {text : String}
    {address : Address} {armed : Bool}
    (haddress : WakeWord.address settings.wakeWords assistant.armed text = (address, armed)) :
    (hear settings collaborators text).perform assistant =
      (react settings collaborators address).perform { assistant with armed } := by
  rw [hear, perform_bind, perform_get]
  dsimp only
  rw [haddress]
  rfl

include hcapture

theorem attend_empty :
    let turn := attend settings assistant (occasion.hearing "")
    turn.heard = [] ∧ turn.after.mind = assistant.mind := by
  dsimp only
  rw [Attended.heard, attend, perform_turn_hearing settings hcapture]
  exact ⟨rfl, rfl⟩

variable {text : String} (htext : text.isEmpty = false) {armed : Bool}

include htext

theorem attend_ignored
    (haddress : WakeWord.address settings.wakeWords assistant.armed text = (.ignored, armed)) :
    let turn := attend settings assistant (occasion.hearing text)
    turn.heard = [text] ∧ turn.after.mind = ⟨assistant.engine, armed⟩ ∧ turn.said = [] ∧
      turn.outcome = .ok .silent := by
  have hknows := knows_toldOf chunk after htext assistant armed
  dsimp only
  rw [Attended.heard, Attended.said, attend, perform_turn_hearing settings hcapture, htext,
    if_neg Bool.false_ne_true, perform_hear (toldOf chunk after text assistant) haddress]
  exact ⟨hknows.2, hknows.1, rfl, rfl⟩

theorem attend_wakeWordAlone (haddress :
    WakeWord.address settings.wakeWords assistant.armed text = (.wakeWordAlone, armed)) :
    let turn := attend settings assistant (occasion.hearing text)
    turn.heard = [text] ∧ turn.after.mind = ⟨assistant.engine, armed⟩ := by
  have hknows := knows_toldOf chunk after htext assistant armed
  have hsafe := safe_respond_recorded settings occasion.collaborators Reply.ready _ hknows
  dsimp only
  rw [Attended.heard, attend, perform_turn_hearing settings hcapture, htext,
    if_neg Bool.false_ne_true, perform_hear (toldOf chunk after text assistant) haddress]
  exact ⟨hsafe.1.2, hsafe.1.1⟩

theorem attend_phrase {phrase : String} (haddress :
    WakeWord.address settings.wakeWords assistant.armed text = (.phrase phrase, armed)) :
    let turn := attend settings assistant (occasion.hearing text)
    let followed := (follow settings occasion.collaborators.recorded phrase).perform
      { toldOf chunk after text assistant with armed }
    turn.heard = [text] ∧ turn.after.mind = ⟨assistant.engine.follow phrase, armed⟩ ∧
      turn.outcome = followed.1 ∧ turn.after = followed.2 := by
  have hknows := knows_toldOf chunk after htext assistant armed
  have hleads := leads_follow settings occasion.collaborators phrase _ hknows
  dsimp only
  rw [Attended.heard, attend, perform_turn_hearing settings hcapture, htext,
    if_neg Bool.false_ne_true, perform_hear (toldOf chunk after text assistant) haddress]
  exact ⟨hleads.2, hleads.1, rfl, rfl⟩

end

/-- The same phrase in other words has the same consequences, whatever the
assistant was told before. -/
theorem follow_alike (settings : Settings) (collaborators : Collaborators σ)
    {phrase other heard : String}
    (h : (Command.parse phrase).map (Command.reworded heard) = Command.parse other)
    {first second : Assistant (Recording σ)} (hsame : first.stance = second.stance) :
    let followed := (follow settings collaborators.recorded phrase).perform first
    let repeated := (follow settings collaborators.recorded other).perform second
    followed.1 = repeated.1 ∧ saidIn followed.2.calls = saidIn repeated.2.calls := by
  dsimp only
  rw [follow_of_parse h]
  have hlockstep := lockstep_follow (abreast_stance settings collaborators) other first second hsame
  exact ⟨hlockstep.2.eq, congrArg Stance.said hlockstep.1⟩

end Assistant

/-- One turn comes to the same as two turns do. -/
structure Attended.ComesToSame (wakeWords : List String) (phrase : String)
    (once called answered : Attended σ) : Prop where
  handed : (once.handed wakeWords).map (Except.map (Command.reworded phrase)) =
    called.handed wakeWords ++ answered.handed wakeWords
  mind : once.after.mind = answered.after.mind
  said : once.said = answered.said
  outcome : once.outcome = answered.outcome

namespace Assistant

section

variable {settings : Settings}
  (hletters : ∀ word ∈ settings.wakeWords, ∀ c ∈ word.toList, c.isAlpha) {wakeWord : String}
  (hmem : wakeWord ∈ settings.wakeWords) {phrase : String}
  (hunnamed : WakeWord.isNamed settings.wakeWords phrase = false)
  (hmeaning : WakeWord.IsMeaningful phrase.toList) (engine : Engine) (world : σ)
  {calling occasion : Occasion σ} (hcalling : calling.Captures settings)
  (hoccasion : occasion.Captures settings)

include hmeaning in
theorem isEmpty_phrase : phrase.isEmpty = false ∧
    ∀ wakeWord, (wakeWord ++ " " ++ phrase).isEmpty = false := by
  constructor
  · obtain ⟨c, hc, _⟩ := hmeaning
    rw [← Bool.not_eq_true, String.isEmpty_iff]
    rintro rfl
    cases hc
  · intro wakeWord
    rw [← Bool.not_eq_true, String.isEmpty_iff]
    intro hempty
    have hchars := congrArg String.toList hempty
    simp at hchars

include hletters hmem hunnamed hmeaning hcalling hoccasion

/-- An empty wake word is never heard, so the phrase is ignored either way. -/
theorem comesToSame_of_empty (hname : wakeWord = "") :
    let fresh := awaiting engine false world
    let called := attend settings fresh (calling.hearing wakeWord)
    Attended.ComesToSame settings.wakeWords phrase
      (attend settings fresh (occasion.hearing (wakeWord ++ " " ++ phrase))) called
      (attend settings called.after (occasion.hearing phrase)) := by
  subst hname
  obtain ⟨callingChunk, callingAfter, hcalling⟩ := hcalling
  obtain ⟨chunk, after, hoccasion⟩ := hoccasion
  obtain ⟨hphrase, hboth⟩ := isEmpty_phrase hmeaning
  have hwake := List.ne_nil_of_mem hmem
  intro fresh called
  obtain ⟨hcalledHeard, hcalledMind⟩ := attend_empty hcalling fresh
  have hengine : called.after.engine = engine := congrArg Mind.engine hcalledMind
  have honceAddress : WakeWord.address settings.wakeWords fresh.armed ("" ++ " " ++ phrase) =
      (.ignored, false) :=
    WakeWord.address_of_not_named hwake (WakeWord.isNamed_space_append hunnamed hletters)
  have hansweredAddress : WakeWord.address settings.wakeWords called.after.armed phrase =
      (.ignored, false) := by
    rw [show called.after.armed = false from congrArg Mind.armed hcalledMind]
    exact WakeWord.address_of_not_named hwake hunnamed
  obtain ⟨honceHeard, honceMind, honceSaid, honceOutcome⟩ :=
    attend_ignored hoccasion fresh (hboth "") honceAddress
  obtain ⟨hansweredHeard, hansweredMind, hansweredSaid, hansweredOutcome⟩ :=
    attend_ignored hoccasion called.after hphrase hansweredAddress
  constructor
  · rw [Attended.handed_of_heard honceHeard honceAddress, Attended.handed, hcalledHeard,
      Attended.handed_of_heard hansweredHeard hansweredAddress]
    rfl
  · rw [honceMind, hansweredMind, hengine]
    rfl
  · rw [honceSaid, hansweredSaid]
  · rw [honceOutcome, hansweredOutcome]

theorem comesToSame_of_wakeWord (hname : wakeWord ≠ "") :
    let fresh := awaiting engine false world
    let called := attend settings fresh (calling.hearing wakeWord)
    let answered := attend settings called.after (occasion.hearing phrase)
    Attended.ComesToSame settings.wakeWords phrase
        (attend settings fresh (occasion.hearing (wakeWord ++ " " ++ phrase))) called answered ∧
      answered.handed settings.wakeWords = [Command.parse phrase] := by
  obtain ⟨callingChunk, callingAfter, hcalling⟩ := hcalling
  obtain ⟨chunk, after, hoccasion⟩ := hoccasion
  obtain ⟨hphrase, hboth⟩ := isEmpty_phrase hmeaning
  have hnameEmpty : wakeWord.isEmpty = false := by
    rw [← Bool.not_eq_true, String.isEmpty_iff]
    exact hname
  intro fresh called answered
  have hcalledAddress : WakeWord.address settings.wakeWords fresh.armed wakeWord =
      (.wakeWordAlone, true) :=
    WakeWord.address_wakeWord hletters hmem hname false
  have honceAddress : WakeWord.address settings.wakeWords fresh.armed
      (wakeWord ++ " " ++ phrase) = (.phrase (WakeWord.remainder phrase), false) :=
    WakeWord.address_wakeWord_append hunnamed hletters hmem hname hmeaning false
  obtain ⟨hcalledHeard, hcalledMind⟩ :=
    attend_wakeWordAlone hcalling fresh hnameEmpty hcalledAddress
  obtain ⟨honceHeard, honceMind, honceOutcome, honceAfter⟩ :=
    attend_phrase hoccasion fresh (hboth wakeWord) honceAddress
  have hengine : called.after.engine = engine := congrArg Mind.engine hcalledMind
  have hansweredAddress :
      WakeWord.address settings.wakeWords called.after.armed phrase = (.phrase phrase, false) := by
    rw [show called.after.armed = true from congrArg Mind.armed hcalledMind]
    exact WakeWord.address_of_armed hunnamed (List.ne_nil_of_mem hmem)
  obtain ⟨hansweredHeard, hansweredMind, hansweredOutcome, hansweredAfter⟩ :=
    attend_phrase hoccasion called.after hphrase hansweredAddress
  have hanswered := Attended.handed_of_heard hansweredHeard hansweredAddress
  have hparse := WakeWord.parse_remainder hmeaning
  have hstance : ({ toldOf chunk after (wakeWord ++ " " ++ phrase) fresh with
        armed := false } : Assistant (Recording σ)).stance =
      ({ toldOf chunk after phrase called.after with armed := false } :
        Assistant (Recording σ)).stance := by
    rw [toldOf, toldOf, hengine]
    rfl
  obtain ⟨hends, hsays⟩ := follow_alike settings occasion.collaborators hparse hstance
  refine ⟨⟨?_, ?_, ?_, ?_⟩, hanswered⟩
  · rw [Attended.handed_of_heard honceHeard honceAddress,
      Attended.handed_of_heard hcalledHeard hcalledAddress, hanswered]
    exact congrArg (fun command => [command]) hparse
  · rw [honceMind, hansweredMind, hengine, Engine.follow_of_parse hparse]
    rfl
  · rw [Attended.said, Attended.said, honceAfter, hansweredAfter]
    exact hsays
  · rw [honceOutcome, hansweredOutcome]
    exact hends

end

/-- Both ways of calling the assistant come to the same. A wake word is one of
some wake words of letters; the phrase holds none of them and is more than blanks
and punctuation. Said in one turn or in two, they hand the same command to the
engine, up to the text that a meaningless command keeps. The same is remembered
afterwards, the same answer is given, and the turn ends alike. -/
theorem attend_wakeWord_and_phrase (settings : Settings)
    (hletters : ∀ word ∈ settings.wakeWords, ∀ c ∈ word.toList, c.isAlpha) {wakeWord : String}
    (hmem : wakeWord ∈ settings.wakeWords) {phrase : String}
    (hunnamed : WakeWord.isNamed settings.wakeWords phrase = false)
    (hmeaning : WakeWord.IsMeaningful phrase.toList) (engine : Engine) (world : σ)
    (calling occasion : Occasion σ) (hcalling : calling.Captures settings)
    (hoccasion : occasion.Captures settings) :
    let fresh := awaiting engine false world
    let once := attend settings fresh (occasion.hearing (wakeWord ++ " " ++ phrase))
    let called := attend settings fresh (calling.hearing wakeWord)
    let answered := attend settings called.after (occasion.hearing phrase)
    Attended.ComesToSame settings.wakeWords phrase once called answered ∧
      (wakeWord ≠ "" → answered.handed settings.wakeWords = [Command.parse phrase]) := by
  by_cases hname : wakeWord = ""
  · exact ⟨comesToSame_of_empty hletters hmem hunnamed hmeaning engine world hcalling hoccasion
      hname, fun hne => absurd hname hne⟩
  · have hboth := comesToSame_of_wakeWord hletters hmem hunnamed hmeaning engine world hcalling
      hoccasion hname
    exact ⟨hboth.1, fun _ => hboth.2⟩

/-- A sum in capitals with a question mark, said behind the wake word or after
it. -/
theorem attend_wakeWord_and_phrase_sum :
    (∀ word ∈ gatedSettings.wakeWords, ∀ c ∈ word.toList, c.isAlpha) ∧
      "calculator" ∈ gatedSettings.wakeWords ∧
      WakeWord.isNamed gatedSettings.wakeWords "ONE plus one?" = false ∧
      WakeWord.IsMeaningful "ONE plus one?".toList ∧
      (occasionOf "").Captures gatedSettings ∧
      (attend gatedSettings (attend gatedSettings (awaiting (.fresh none) false ())
        ((occasionOf "").hearing "calculator")).after
          ((occasionOf "").hearing "ONE plus one?")).said = ["two"] := by
  have hletters : ∀ word ∈ gatedSettings.wakeWords, ∀ c ∈ word.toList, c.isAlpha := by
    have hall : gatedSettings.wakeWords.all fun word => word.toList.all Char.isAlpha := by decide
    exact fun word hword => List.all_eq_true.mp (List.all_eq_true.mp hall word hword)
  have hmem : "calculator" ∈ gatedSettings.wakeWords := by decide
  have hunnamed : WakeWord.isNamed gatedSettings.wakeWords "ONE plus one?" = false := by
    decide +kernel
  have hmeaning : WakeWord.IsMeaningful "ONE plus one?".toList :=
    ⟨'O', by decide, by decide, by decide⟩
  have hcaptures : (occasionOf "").Captures gatedSettings := ⟨_, _, rfl⟩
  have hsaid : (attend gatedSettings (awaiting (.fresh none) false ())
      ((occasionOf "").hearing "calculator ONE plus one?")).said = ["two"] := by decide +kernel
  refine ⟨hletters, hmem, hunnamed, hmeaning, hcaptures, ?_⟩
  have hsame := (attend_wakeWord_and_phrase gatedSettings hletters hmem hunnamed hmeaning
    (.fresh none) () (occasionOf "") (occasionOf "") hcaptures hcaptures).1
  rw [← hsame.said]
  exact hsaid

end Assistant

end SpokenCalculator
