import SpokenCalculator.Assistant.Loop
import SpokenCalculator.Proofs.Action.Lockstep

namespace SpokenCalculator

open SpokenCalculator.Action

variable {σ τ κ α : Type}

/-- Settings that agree in all that has to do with hearing. They may differ in
the greeting and in how the assistant is interrupted. -/
structure Settings.HearsAs (settings other : Settings) : Prop where
  listenSeconds : settings.listenSeconds = other.listenSeconds
  wakeWords : settings.wakeWords = other.wakeWords
  retries : settings.retries = other.retries
  spokenPlaces : settings.spokenPlaces = other.spokenPlaces

theorem Settings.HearsAs.refl (settings : Settings) : settings.HearsAs settings :=
  ⟨rfl, rfl, rfl, rfl⟩

namespace Assistant

/-- All that a turn depends on is seen, and what a turn changes by itself is seen
alike. -/
structure Sees (see : Assistant σ → κ) (look : Assistant τ → κ) : Prop where
  engine {first : Assistant σ} {second : Assistant τ} :
    see first = look second → first.engine = second.engine
  armed {first : Assistant σ} {second : Assistant τ} :
    see first = look second → first.armed = second.armed
  running {first : Assistant σ} {second : Assistant τ} :
    see first = look second → first.surroundings.running = second.surroundings.running
  withStage (stage : Stage) {first : Assistant σ} {second : Assistant τ} :
    see first = look second → see { first with stage } = look { second with stage }
  withEngine (engine : Engine) {first : Assistant σ} {second : Assistant τ} :
    see first = look second → see { first with engine } = look { second with engine }
  withArmed (armed : Bool) {first : Assistant σ} {second : Assistant τ} :
    see first = look second → see { first with armed } = look { second with armed }

/-- What is heard comes out the same on both sides, and answers match. A result
matches itself, because a turn without an answer has the same one on both sides. -/
structure Abreast (see : Assistant σ → κ) (look : Assistant τ → κ)
    (belong : TurnResult → TurnResult → Prop) (settings other : Settings)
    (collaborators : Collaborators σ) (others : Collaborators τ) : Prop extends
    Sees see look, settings.HearsAs other where
  refl (result : TurnResult) : belong result result
  isFatal {first second : TurnResult} : belong first second → first.isFatal = second.isFatal
  capture (seconds : Quantity) :
    Lockstep see look Eq (ask (collaborators.capture seconds)) (ask (others.capture seconds))
  transcribe (chunk : Chunk) :
    Lockstep see look Eq (ask (collaborators.transcribe chunk)) (ask (others.transcribe chunk))
  respond (text : String) :
    Lockstep see look belong (respond settings collaborators text) (respond other others text)

variable {see : Assistant σ → κ} {look : Assistant τ → κ}

theorem lockstep_retry {left : Action (Assistant σ) α} {right : Action (Assistant τ) α}
    (kind : FailureKind) (h : Lockstep see look Eq left right) (further : Nat) :
    Lockstep see look Eq (retry kind left further) (retry kind right further) := by
  induction further with
  | zero => exact h
  | succ further ih =>
      refine .bind h.attempt fun result other hsame => ?_
      obtain rfl := hsame.eq
      cases result with
      | ok value => exact .pure rfl
      | error failure =>
          dsimp only
          split
          · exact ih
          · exact .throw failure

/-- The voices of both assistants are called alike, and what they do is seen
alike. -/
structure SpeakAlike (see : Assistant σ → κ) (look : Assistant τ → κ) (settings other : Settings)
    (collaborators : Collaborators σ) (others : Collaborators τ) : Prop extends
    Sees see look where
  stage {first : Assistant σ} {second : Assistant τ} :
    see first = look second → first.stage = second.stage
  interruption : interruption settings = interruption other
  retries : settings.retries = other.retries
  mute : Lockstep see look Eq (ask collaborators.mute) (ask others.mute)
  unmute : Lockstep see look Eq (ask collaborators.unmute) (ask others.unmute)
  speak (stage : Stage) (interruption : Option MonitorTimes) (text : String) :
    Lockstep see look Eq (ask (collaborators.speak stage interruption text))
      (ask (others.speak stage interruption text))

variable {settings other : Settings} {collaborators : Collaborators σ}
  {others : Collaborators τ}

section

variable (h : SpeakAlike see look settings other collaborators others)

include h

theorem lockstep_utter (text : String) :
    Lockstep see look Eq (utter settings collaborators text) (utter other others text) := by
  rw [utter, utter, h.interruption, h.retries]
  refine .bind h.mute fun _ _ _ => .bind_get fun first second hsame => ?_
  dsimp only
  rw [h.stage hsame]
  exact .ensuring (lockstep_retry .speaker (h.speak _ _ text) _) h.unmute

theorem lockstep_say (text : String) :
    Lockstep see look Eq (say settings collaborators text) (say other others text) := by
  refine .bind (.change fun _ _ => h.withStage .speaking) fun _ _ _ =>
    .bind (lockstep_utter h text).attempt fun result outcome hsame =>
      .bind (.change fun _ _ => h.withStage .idle) fun _ _ _ => ?_
  obtain rfl := hsame.eq
  cases result with
  | ok outcome => exact .pure rfl
  | error failure =>
      dsimp only
      split
      · exact .pure rfl
      · exact .throw failure

theorem lockstep_respond_of_speakAlike (text : String) :
    Lockstep see look Eq (respond settings collaborators text) (respond other others text) := by
  refine .bind (lockstep_say h text) fun outcome _ hsame => ?_
  subst hsame
  cases outcome with
  | some outcome => exact .pure rfl
  | none => exact .pure rfl

end

variable {belong : TurnResult → TurnResult → Prop}
  (h : Abreast see look belong settings other collaborators others)

include h

theorem lockstep_setStage (stage : Stage) :
    Lockstep see look Eq (setStage stage) (setStage stage) :=
  .change fun _ _ hsame => h.withStage stage hsame

theorem lockstep_respondWith (command : Command) (value : Decimal) :
    Lockstep see look belong (respondWith settings collaborators command value)
      (respondWith other others command value) := by
  rw [respondWith, respondWith, h.spokenPlaces]
  refine .bind (.ofResult (.refl _)) fun reply _ hreply => ?_
  rw [hreply]
  exact h.respond _

theorem lockstep_answer (command : Command) :
    Lockstep see look belong (answer settings collaborators command)
      (answer other others command) := by
  refine .bind (lockstep_setStage h .evaluating) fun _ _ _ =>
    .bind_get fun first second hsame => ?_
  rw [h.engine hsame]
  cases second.engine.evaluate command with
  | ok result =>
      exact .bind (.change fun _ _ hsame => h.withEngine result.2 hsame) fun _ _ _ =>
        lockstep_respondWith h command result.1
  | error fault =>
      dsimp only
      split
      · exact h.respond _
      · exact .throw _

theorem lockstep_follow (phrase : String) :
    Lockstep see look belong (follow settings collaborators phrase)
      (follow other others phrase) := by
  refine .bind (lockstep_setStage h .parsing) fun _ _ _ =>
    .bind (.ofResult (.refl _)) fun command _ hcommand => ?_
  rw [hcommand]
  exact lockstep_answer h _

theorem lockstep_hear (text : String) :
    Lockstep see look belong (hear settings collaborators text) (hear other others text) := by
  refine .bind_get fun first second hsame => ?_
  rw [h.armed hsame, h.wakeWords]
  cases WakeWord.address other.wakeWords second.armed text with
  | mk address armed =>
      refine .bind (.change fun _ _ hsame => h.withArmed armed hsame) fun _ _ _ => ?_
      cases address with
      | ignored => exact .pure (h.refl _)
      | wakeWordAlone => exact h.respond _
      | phrase phrase => exact lockstep_follow h phrase

theorem lockstep_listenTo (chunk : Chunk) :
    Lockstep see look belong (listenTo settings collaborators chunk)
      (listenTo other others chunk) := by
  have hretry := lockstep_retry .transcriber (h.transcribe chunk) other.retries
  rw [listenTo, listenTo, h.retries]
  refine .bind (lockstep_setStage h .transcribing) fun _ _ _ =>
    .bind hretry.attempt fun result outcome hsame => ?_
  obtain rfl := hsame.eq
  cases result with
  | ok transcript =>
      obtain ⟨text⟩ := transcript
      cases text with
      | none => exact .pure (h.refl _)
      | some text =>
          dsimp only
          split
          · exact .pure (h.refl _)
          · exact lockstep_hear h text
  | error failure =>
      dsimp only
      split
      · exact h.respond _
      · exact .throw failure

theorem lockstep_turn :
    Lockstep see look belong (turn settings collaborators) (turn other others) := by
  rw [turn, turn, h.listenSeconds]
  refine .bind (lockstep_setStage h .listening) fun _ _ _ =>
    .bind (h.capture other.listenSeconds).attempt fun result outcome hsame => ?_
  obtain rfl := hsame.eq
  cases result with
  | ok chunk => exact lockstep_listenTo h chunk
  | error failure =>
      dsimp only
      split
      · exact .pure (h.refl _)
      · exact .throw failure

theorem lockstep_turns (limit : Nat) {last otherLast : Option TurnResult}
    (hlast : Option.Rel belong last otherLast) :
    Lockstep see look (Option.Rel belong) (turns settings collaborators limit last)
      (turns other others limit otherLast) := by
  induction limit generalizing last otherLast with
  | zero => exact .pure hlast
  | succ limit ih =>
      refine .bind_get fun first second hsame => ?_
      rw [h.running hsame]
      split
      · refine .bind (lockstep_turn h) fun result outcome hbelong => ?_
        rw [h.isFatal hbelong]
        split
        · exact .pure (.some hbelong)
        · exact ih (.some hbelong)
      · exact .pure hlast

end Assistant

end SpokenCalculator
