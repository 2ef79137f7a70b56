import SpokenCalculator.Proofs.Assistant.Confinement

namespace SpokenCalculator

inductive AttemptOccurrence where
  | begun (utterance : Nat)
  | ended (utterance : Nat) (result : Except Failure SpeechOutcome)
  | cancelled (utterance : Nat)
  | unmuted (utterance : Nat)
  deriving DecidableEq

/-- What the session of the assistant does, with an attempt to speak begun
before it ends. -/
inductive AttemptMove (σ : Type) where
  | begin
  | go (move : SayingMove σ)

/-- The flag says whether the speaker is at an attempt. The last occurrence comes
first. -/
structure AttemptSession (σ : Type) where
  saying : SayingSession σ
  attempting : Bool
  history : List AttemptOccurrence

namespace AttemptOccurrence

def begins (utterance : Nat) (occurrence : AttemptOccurrence) : Bool :=
  occurrence = .begun utterance

def endOf? (utterance : Nat) : AttemptOccurrence → Option (Except Failure SpeechOutcome)
  | .ended number result => if number = utterance then some result else none
  | .begun _ | .cancelled _ | .unmuted _ => none

def attempted? : AttemptOccurrence → Option Nat
  | .begun utterance | .ended utterance _ => some utterance
  | .cancelled _ | .unmuted _ => none

end AttemptOccurrence

def IsSpeakerFailure : Except Failure SpeechOutcome → Prop
  | .error failure => failure.kind.isA .speaker
  | .ok _ => False

namespace AttemptSession

variable {σ : Type}

def initial (assistant : Assistant σ) : AttemptSession σ := ⟨.initial assistant, false, []⟩

def occurrence? (saying : SayingSession σ) (move : SayingMove σ) : Option AttemptOccurrence :=
  match saying.stage, move with
  | _, .monitor utterance move =>
      if (saying.monitors utterance).cancels move then some (.cancelled utterance) else none
  | .unmuting _, .unmute _ => some (.unmuted saying.utterance)
  | _, _ => none

def begin (session : AttemptSession σ) : AttemptSession σ :=
  match session.saying.stage with
  | .speaking _ =>
      if session.attempting then session
      else
        { session with
          attempting := true
          history := .begun session.saying.utterance :: session.history }
  | _ => session

/-- Only an attempt that has begun ends. -/
def finish (settings : Settings) (session : AttemptSession σ)
    (result : Except Failure SpeechOutcome) : AttemptSession σ :=
  if session.attempting then
    { saying := session.saying.step settings (.speak result)
      attempting := false
      history := .ended session.saying.utterance result :: session.history }
  else session

def step (settings : Settings) (session : AttemptSession σ) : AttemptMove σ → AttemptSession σ
  | .begin => session.begin
  | .go (.speak result) => session.finish settings result
  | .go move =>
      { session with
        saying := session.saying.step settings move
        history := (occurrence? session.saying move).toList ++ session.history }

def run (settings : Settings) : AttemptSession σ → List (AttemptMove σ) → AttemptSession σ :=
  List.foldl (step settings)

theorem step_go (settings : Settings) (session : AttemptSession σ) {move : SayingMove σ}
    (hmove : ∀ result, move ≠ .speak result) :
    session.step settings (.go move) =
      { session with
        saying := session.saying.step settings move
        history := (occurrence? session.saying move).toList ++ session.history } := by
  cases move with
  | speak result => exact absurd rfl (hmove result)
  | _ => rfl

def begunIn (utterance : Nat) (history : List AttemptOccurrence) : Nat :=
  history.countP (AttemptOccurrence.begins utterance)

def resultsIn (utterance : Nat) (history : List AttemptOccurrence) :
    List (Except Failure SpeechOutcome) :=
  history.filterMap (AttemptOccurrence.endOf? utterance)

/-- No attempt of the utterance goes on, all of them have failed, and one more is
allowed. -/
structure CallsForAttempt (settings : Settings) (utterance : Nat)
    (history : List AttemptOccurrence) : Prop where
  none_going : begunIn utterance history = (resultsIn utterance history).length
  failed : ∀ result ∈ resultsIn utterance history, IsSpeakerFailure result
  allowed : (resultsIn utterance history).length ≤ settings.retries

/-- An attempt begins only if it is called for. -/
def Backs (settings : Settings) (earlier : List AttemptOccurrence) : AttemptOccurrence → Prop
  | .begun utterance => CallsForAttempt settings utterance earlier
  | .ended _ _ | .cancelled _ | .unmuted _ => True

/-- The attempts of an utterance that goes on: all that have ended failed, and
each has used one of those that are allowed. -/
structure Counted (settings : Settings) (further : Nat) (attempting : Bool) (utterance : Nat)
    (history : List AttemptOccurrence) : Prop where
  begun : begunIn utterance history = (resultsIn utterance history).length + attempting.toNat
  failed : ∀ result ∈ resultsIn utterance history, IsSpeakerFailure result
  spent : (resultsIn utterance history).length + further = settings.retries

def Untouched (utterance : Nat) (history : List AttemptOccurrence) : Prop :=
  begunIn utterance history = 0 ∧ resultsIn utterance history = []

end AttemptSession

def SayingStage.IsEarly : SayingStage → Prop
  | .silent | .muting | .opening => True
  | .speaking _ | .stopping _ | .joining _ | .unmuting _ | .returning _ => False

def SayingStage.IsLate : SayingStage → Prop
  | .stopping _ | .joining _ | .unmuting _ | .returning _ => True
  | .silent | .muting | .opening | .speaking _ => False

theorem SayingStage.not_isLate_of_isEarly {stage : SayingStage} (h : stage.IsEarly) :
    ¬ stage.IsLate := by
  cases stage with
  | silent | muting | opening => exact id
  | speaking | stopping | joining | unmuting | returning => exact h.elim

/-- What moves other than the end of an attempt make of the stage and the number
of an utterance. -/
inductive SayingStage.Change (retries : Nat) (stage : SayingStage) (utterance : Nat) :
    SayingStage → Nat → Prop where
  | kept : Change retries stage utterance stage utterance
  | opened (hopening : stage = .opening) :
      Change retries stage utterance (.speaking retries) utterance
  | early {next : SayingStage} (hearly : stage.IsEarly) (hnext : next.IsEarly ∨ next.IsLate) :
      Change retries stage utterance next utterance
  | late {next : SayingStage} (hlate : stage.IsLate) (hnext : next.IsLate) :
      Change retries stage utterance next utterance
  | answered (hlate : stage.IsLate) : Change retries stage utterance .silent (utterance + 1)

theorem SayingStage.Change.le_utterance {retries utterance number : Nat}
    {stage next : SayingStage} (h : stage.Change retries utterance next number) :
    utterance ≤ number := by
  cases h with
  | kept | opened | early | late => exact Nat.le_refl _
  | answered => exact Nat.le_succ _

namespace SayingSession

variable {σ : Type} (settings : Settings) (session : SayingSession σ)

theorem step_monitor (utterance : Nat) (move : MonitorMove) :
    session.step settings (.monitor utterance move) =
      session.moveMonitor settings.monitorTimes utterance move := by
  obtain ⟨assistant, stage, number, monitors, history⟩ := session
  cases stage <;> rfl

theorem moveMonitor_stage (times : MonitorTimes) (utterance : Nat) (move : MonitorMove) :
    (session.moveMonitor times utterance move).stage = session.stage ∧
      (session.moveMonitor times utterance move).utterance = session.utterance := by
  unfold moveMonitor
  dsimp only
  split <;> exact ⟨rfl, rfl⟩

theorem stage_change_step {move : SayingMove σ} (hmove : ∀ result, move ≠ .speak result) :
    session.stage.Change settings.retries session.utterance (session.step settings move).stage
      (session.step settings move).utterance := by
  have htransition := session.transition_step settings move
  generalize session.step settings move = next at htransition
  cases htransition with
  | meanwhile | surround | idle => exact .kept
  | begin hstage => exact .early (hstage ▸ trivial) (Or.inl trivial)
  | muted hstage => exact .early (hstage ▸ trivial) (Or.inl trivial)
  | muteFailed hstage => exact .early (hstage ▸ trivial) (Or.inr trivial)
  | watch hstage => exact .opened hstage
  | speak => exact absurd rfl (hmove _)
  | stop hstage => exact .late (hstage ▸ trivial) trivial
  | joined hstage => exact .late (hstage ▸ trivial) trivial
  | unmute hstage => exact .late (hstage ▸ trivial) trivial
  | answer hstage => exact .answered (hstage ▸ trivial)
  | monitor utterance move =>
      obtain ⟨hstage, hnumber⟩ := session.moveMonitor_stage settings.monitorTimes utterance move
      rw [hstage, hnumber]
      exact .kept

/-- While an attempt goes on or has to begin, only the end of one changes the
stage. -/
theorem step_of_speaking {further : Nat} (hstage : session.stage = .speaking further)
    {move : SayingMove σ} (hmove : ∀ result, move ≠ .speak result) :
    (session.step settings move).stage = .speaking further ∧
      (session.step settings move).utterance = session.utterance := by
  have hchange := session.stage_change_step settings hmove
  rw [hstage] at hchange
  generalize (session.step settings move).stage = stage at hchange ⊢
  generalize (session.step settings move).utterance = number at hchange ⊢
  cases hchange with
  | kept => exact ⟨rfl, rfl⟩
  | opened hopening => cases hopening
  | early hearly => exact hearly.elim
  | late hlate => exact hlate.elim
  | answered hlate => exact hlate.elim

theorem mem_history_step {occurrence : SayingOccurrence} (h : occurrence ∈ session.history)
    (move : SayingMove σ) : occurrence ∈ (session.step settings move).history := by
  have htransition := session.transition_step settings move
  generalize session.step settings move = next at htransition
  cases htransition with
  | meanwhile | begin | muteFailed | watch | speak | stop | joined | surround | idle => exact h
  | muted | unmute | answer => exact List.mem_cons_of_mem _ h
  | monitor utterance move =>
      unfold moveMonitor
      dsimp only
      split
      · exact List.mem_cons_of_mem _ h
      · exact h

end SayingSession

namespace AttemptSession

section

variable {utterance : Nat} {occurrence : AttemptOccurrence} {history : List AttemptOccurrence}

theorem counts_cons (history : List AttemptOccurrence)
    (h : occurrence.attempted? ≠ some utterance) :
    begunIn utterance (occurrence :: history) = begunIn utterance history ∧
      resultsIn utterance (occurrence :: history) = resultsIn utterance history := by
  unfold begunIn resultsIn
  rw [List.countP_cons, List.filterMap_cons]
  cases occurrence with
  | begun number =>
      have hne : number ≠ utterance := fun heq => h (congrArg some heq)
      simp [AttemptOccurrence.begins, AttemptOccurrence.endOf?, hne]
  | ended number result =>
      have hne : number ≠ utterance := fun heq => h (congrArg some heq)
      simp [AttemptOccurrence.begins, AttemptOccurrence.endOf?, hne]
  | cancelled number => simp [AttemptOccurrence.begins, AttemptOccurrence.endOf?]
  | unmuted number => simp [AttemptOccurrence.begins, AttemptOccurrence.endOf?]

theorem counts_begun (utterance : Nat) (history : List AttemptOccurrence) :
    begunIn utterance (.begun utterance :: history) = begunIn utterance history + 1 ∧
      resultsIn utterance (.begun utterance :: history) = resultsIn utterance history := by
  unfold begunIn resultsIn
  rw [List.countP_cons, List.filterMap_cons]
  simp [AttemptOccurrence.begins, AttemptOccurrence.endOf?]

theorem counts_ended (utterance : Nat) (history : List AttemptOccurrence)
    (result : Except Failure SpeechOutcome) :
    begunIn utterance (.ended utterance result :: history) = begunIn utterance history ∧
      resultsIn utterance (.ended utterance result :: history) =
        result :: resultsIn utterance history := by
  unfold begunIn resultsIn
  rw [List.countP_cons, List.filterMap_cons]
  simp [AttemptOccurrence.begins, AttemptOccurrence.endOf?]

theorem attempted?_occurrence? {saying : SayingSession σ} {move : SayingMove σ}
    (h : occurrence? saying move = some occurrence) : occurrence.attempted? = none := by
  unfold occurrence? at h
  split at h
  · split at h
    · cases h
      rfl
    · cases h
  · cases h
    rfl
  · cases h

theorem backs_of_attempted? (settings : Settings) (h : occurrence.attempted? = none) :
    Backs settings history occurrence := by
  cases occurrence with
  | begun | ended => cases h
  | cancelled | unmuted => trivial

theorem cancelled_mem_step (settings : Settings) {saying : SayingSession σ} {move : SayingMove σ}
    (h : occurrence? saying move = some (.cancelled utterance)) :
    .cancelled utterance ∈ (saying.step settings move).history := by
  unfold occurrence? at h
  split at h
  · rename_i number moved hmove
    split at h
    · rename_i hcancels
      cases h
      rw [saying.step_monitor]
      unfold SayingSession.moveMonitor
      dsimp only
      rw [if_pos hcancels]
      exact List.mem_cons_self
    · cases h
  · cases h
  · cases h

theorem counts_append_occurrence? (utterance : Nat) (history : List AttemptOccurrence)
    (saying : SayingSession σ) (move : SayingMove σ) :
    begunIn utterance ((occurrence? saying move).toList ++ history) = begunIn utterance history ∧
      resultsIn utterance ((occurrence? saying move).toList ++ history) =
        resultsIn utterance history := by
  cases hoccurrence : occurrence? saying move with
  | none => exact ⟨rfl, rfl⟩
  | some occurrence =>
      refine counts_cons history ?_
      rw [attempted?_occurrence? hoccurrence]
      nofun

end

/-- The attempts of each utterance are in step with its stage. -/
structure Paced (settings : Settings) (session : AttemptSession σ) : Prop where
  confined : session.saying.Confined
  attempting : session.attempting → ∃ further, session.saying.stage = .speaking further
  counted : ∀ further, session.saying.stage = .speaking further →
    Counted settings further session.attempting session.saying.utterance session.history
  fresh : session.saying.stage.IsEarly → Untouched session.saying.utterance session.history
  untouched : ∀ utterance, session.saying.utterance < utterance →
    Untouched utterance session.history
  cancelled : ∀ utterance, .cancelled utterance ∈ session.history →
    .cancelled utterance ∈ session.saying.history
  backed : History.Backed (Backs settings) session.history

theorem paced_initial (settings : Settings) (assistant : Assistant σ) :
    (initial assistant).Paced settings where
  confined := SayingSession.confined_initial assistant
  attempting := nofun
  counted := nofun
  fresh _ := ⟨rfl, rfl⟩
  untouched _ _ := ⟨rfl, rfl⟩
  cancelled _ := nofun
  backed := History.backed_nil

section

variable {settings : Settings} {further : Nat} {utterance : Nat} {attempting : Bool}
  {history : List AttemptOccurrence}

theorem Untouched.counted (h : Untouched utterance history) :
    Counted settings settings.retries false utterance history where
  begun := by rw [h.1, h.2]; rfl
  failed := by rw [h.2]; exact List.forall_mem_nil _
  spent := by rw [h.2]; exact Nat.zero_add _

theorem Counted.callsForAttempt (h : Counted settings further false utterance history) :
    CallsForAttempt settings utterance history where
  none_going := h.begun
  failed := h.failed
  allowed := h.spent ▸ Nat.le_add_right _ _

theorem Counted.begun_cons (h : Counted settings further false utterance history) :
    Counted settings further true utterance (.begun utterance :: history) := by
  obtain ⟨hbegun, hresults⟩ := counts_begun utterance history
  constructor
  · rw [hbegun, hresults, h.begun]
    rfl
  · rw [hresults]
    exact h.failed
  · rw [hresults]
    exact h.spent

/-- What comes after an attempt that failed is another one, as long as some are
left. -/
theorem afterAttempt_eq_speaking {result : Except Failure SpeechOutcome} {left : Nat}
    (h : SayingSession.afterAttempt further result = .speaking left) :
    IsSpeakerFailure result ∧ further = left + 1 := by
  unfold SayingSession.afterAttempt at h
  split at h
  · split at h
    · rename_i hkind
      cases h
      exact ⟨hkind, rfl⟩
    · cases h
  · cases h

theorem Counted.ended_cons (h : Counted settings further true utterance history)
    {result : Except Failure SpeechOutcome} {left : Nat}
    (hagain : SayingSession.afterAttempt further result = .speaking left) :
    Counted settings left false utterance (.ended utterance result :: history) := by
  obtain ⟨hfailed, rfl⟩ := afterAttempt_eq_speaking hagain
  obtain ⟨hbegun, hresults⟩ := counts_ended utterance history result
  have hspent := h.spent
  constructor
  · rw [hbegun, hresults, h.begun]
    rfl
  · rw [hresults]
    exact List.forall_mem_cons.mpr ⟨hfailed, h.failed⟩
  · rw [hresults, List.length_cons]
    omega

theorem Untouched.cons {occurrence : AttemptOccurrence} (h : Untouched utterance history)
    (hother : occurrence.attempted? ≠ some utterance) :
    Untouched utterance (occurrence :: history) := by
  obtain ⟨hbegun, hresults⟩ := counts_cons history hother
  exact ⟨hbegun.trans h.1, hresults.trans h.2⟩

theorem Untouched.append_occurrence? (h : Untouched utterance history) (saying : SayingSession σ)
    (move : SayingMove σ) : Untouched utterance ((occurrence? saying move).toList ++ history) := by
  obtain ⟨hbegun, hresults⟩ := counts_append_occurrence? utterance history saying move
  exact ⟨hbegun.trans h.1, hresults.trans h.2⟩

theorem Counted.append_occurrence? (h : Counted settings further attempting utterance history)
    (saying : SayingSession σ) (move : SayingMove σ) :
    Counted settings further attempting utterance
      ((occurrence? saying move).toList ++ history) := by
  obtain ⟨hbegun, hresults⟩ := counts_append_occurrence? utterance history saying move
  constructor
  · rw [hbegun, hresults, h.begun]
  · rw [hresults]
    exact h.failed
  · rw [hresults]
    exact h.spent

end

section

variable {settings : Settings} {session : AttemptSession σ} (h : session.Paced settings)

include h

theorem Paced.begin : session.begin.Paced settings := by
  unfold AttemptSession.begin
  split
  · rename_i further hstage
    split
    · exact h
    · rename_i hattempting
      rw [Bool.not_eq_true] at hattempting
      have hcounted := h.counted further hstage
      rw [hattempting] at hcounted
      refine ⟨h.confined, fun _ => ⟨further, hstage⟩, fun left hleft => ?_, fun hearly => ?_,
        fun utterance hlater => ?_, fun utterance hmem => ?_,
        h.backed.cons hcounted.callsForAttempt⟩
      · obtain rfl : further = left := by
          rw [hstage] at hleft
          exact SayingStage.speaking.inj hleft
        exact hcounted.begun_cons
      · exact absurd hearly (hstage ▸ id)
      · refine (h.untouched utterance hlater).cons fun hsame => ?_
        exact absurd (Option.some.inj hsame) (Nat.ne_of_lt hlater)
      · exact h.cancelled utterance ((List.mem_cons.mp hmem).resolve_left nofun)
  · exact h

theorem Paced.finish (result : Except Failure SpeechOutcome) :
    (session.finish settings result).Paced settings := by
  unfold AttemptSession.finish
  split
  · rename_i hattempting
    obtain ⟨further, hstage⟩ := h.attempting hattempting
    have hcounted := h.counted further hstage
    rw [hattempting] at hcounted
    have hstep : session.saying.step settings (.speak result) =
        { session.saying with stage := SayingSession.afterAttempt further result } := by
      unfold SayingSession.step
      rw [hstage]
    have hconfined := h.confined.step settings (.speak result)
    rw [hstep] at hconfined ⊢
    refine ⟨hconfined, nofun, fun left hleft => hcounted.ended_cons hleft, fun hearly => ?_,
      fun utterance hlater => ?_, fun utterance hmem => ?_, h.backed.cons trivial⟩
    · dsimp only at hearly
      unfold SayingSession.afterAttempt at hearly
      split at hearly
      · split at hearly <;> exact hearly.elim
      · exact hearly.elim
    · refine (h.untouched utterance hlater).cons fun hsame => ?_
      exact absurd (Option.some.inj hsame) (Nat.ne_of_lt hlater)
    · exact h.cancelled utterance ((List.mem_cons.mp hmem).resolve_left nofun)
  · exact h

theorem Paced.not_attempting_of_opening (hopening : session.saying.stage = .opening) :
    session.attempting = false := by
  rw [← Bool.not_eq_true]
  intro hattempting
  obtain ⟨further, hspeaking⟩ := h.attempting hattempting
  cases hopening.symm.trans hspeaking

theorem Paced.counted_of_change {stage : SayingStage} {number further : Nat}
    (hchange : session.saying.stage.Change settings.retries session.saying.utterance stage number)
    (hspeaking : stage = .speaking further) :
    Counted settings further session.attempting number session.history := by
  cases hchange with
  | kept => exact h.counted further hspeaking
  | opened hopening =>
      -- the first attempt is still to begin
      obtain rfl := SayingStage.speaking.inj hspeaking
      rw [h.not_attempting_of_opening hopening]
      exact (h.fresh (hopening ▸ trivial)).counted
  | early hearly hnext => exact (hspeaking ▸ hnext).elim False.elim False.elim
  | late hlate hnext => exact (hspeaking ▸ hnext : SayingStage.IsLate (.speaking further)).elim
  | answered hlate => cases hspeaking

theorem Paced.fresh_of_change {stage : SayingStage} {number : Nat}
    (hchange : session.saying.stage.Change settings.retries session.saying.utterance stage number)
    (hearly : stage.IsEarly) : Untouched number session.history := by
  cases hchange with
  | kept => exact h.fresh hearly
  | opened hopening => exact hearly.elim
  | early hbefore hnext => exact h.fresh hbefore
  | late hlate hnext => exact (SayingStage.not_isLate_of_isEarly hearly hnext).elim
  | answered hlate => exact h.untouched _ (Nat.lt_succ_self _)

theorem Paced.go {move : SayingMove σ} (hmove : ∀ result, move ≠ .speak result) :
    Paced settings
      { session with
        saying := session.saying.step settings move
        history := (occurrence? session.saying move).toList ++ session.history } := by
  have hchange := session.saying.stage_change_step settings hmove
  refine ⟨h.confined.step settings move, fun hattempting => ?_, fun further hspeaking => ?_,
    fun hearly => ?_, fun utterance hlater => ?_, fun utterance hmem => ?_, ?_⟩
  · obtain ⟨further, hspeaking⟩ := h.attempting hattempting
    exact ⟨further, (session.saying.step_of_speaking settings hspeaking hmove).1⟩
  · exact (h.counted_of_change hchange hspeaking).append_occurrence? _ _
  · exact (h.fresh_of_change hchange hearly).append_occurrence? _ _
  · have hbefore : session.saying.utterance < utterance :=
      Nat.lt_of_le_of_lt hchange.le_utterance hlater
    exact (h.untouched utterance hbefore).append_occurrence? _ _
  · rcases List.mem_append.mp hmem with hnew | hold
    · exact cancelled_mem_step settings (Option.mem_toList.mp hnew)
    · exact session.saying.mem_history_step settings (h.cancelled utterance hold) move
  · cases hoccurrence : occurrence? session.saying move with
    | none => exact h.backed
    | some occurrence =>
        exact h.backed.cons (backs_of_attempted? settings (attempted?_occurrence? hoccurrence))

theorem Paced.step (move : AttemptMove σ) : (session.step settings move).Paced settings := by
  cases move with
  | begin => exact h.begin
  | go move =>
      by_cases hspeak : ∃ result, move = .speak result
      · obtain ⟨result, rfl⟩ := hspeak
        exact h.finish result
      · have hmove := not_exists.mp hspeak
        rw [step_go settings session hmove]
        exact h.go hmove

end

theorem Paced.run {settings : Settings} {session : AttemptSession σ} (h : session.Paced settings)
    (moves : List (AttemptMove σ)) : (session.run settings moves).Paced settings := by
  induction moves generalizing session with
  | nil => exact h
  | cons move rest ih => exact ih (h.step move)

section

variable (settings : Settings) (session : AttemptSession σ)

theorem exists_history_step (move : AttemptMove σ) :
    ∃ later, (session.step settings move).history = later ++ session.history := by
  cases move with
  | begin =>
      unfold step AttemptSession.begin
      dsimp only
      split
      · split
        · exact ⟨[], rfl⟩
        · exact ⟨[_], rfl⟩
      · exact ⟨[], rfl⟩
  | go move =>
      by_cases hspeak : ∃ result, move = .speak result
      · obtain ⟨result, rfl⟩ := hspeak
        unfold step finish
        dsimp only
        split
        · exact ⟨[_], rfl⟩
        · exact ⟨[], rfl⟩
      · rw [step_go settings session (not_exists.mp hspeak)]
        exact ⟨_, rfl⟩

theorem exists_history_run (moves : List (AttemptMove σ)) :
    ∃ later, (session.run settings moves).history = later ++ session.history := by
  induction moves generalizing session with
  | nil => exact ⟨[], rfl⟩
  | cons move rest ih =>
      obtain ⟨later, hlater⟩ := ih (session.step settings move)
      obtain ⟨first, hfirst⟩ := session.exists_history_step settings move
      refine ⟨later ++ first, ?_⟩
      rw [List.append_assoc, ← hfirst, ← hlater]
      rfl

theorem step_of_waiting {further : Nat} (hstage : session.saying.stage = .speaking further)
    (hattempting : session.attempting = false) (move : AttemptMove σ) :
    let next := session.step settings move
    (next.saying.stage = .speaking further ∧ next.saying.utterance = session.saying.utterance ∧
      next.attempting = false) ∨
    next.history = .begun session.saying.utterance :: session.history := by
  cases move with
  | begin =>
      refine Or.inr ?_
      simp [step, AttemptSession.begin, hstage, hattempting]
  | go move =>
      refine Or.inl ?_
      by_cases hspeak : ∃ result, move = .speak result
      · obtain ⟨result, rfl⟩ := hspeak
        simp [step, finish, hstage, hattempting]
      · have hmove := not_exists.mp hspeak
        obtain ⟨hspeaking, hnumber⟩ := session.saying.step_of_speaking settings hstage hmove
        rw [step_go settings session hmove]
        exact ⟨hspeaking, hnumber, hattempting⟩

/-- Nothing else can be done for the utterance before the attempt has begun. -/
theorem waits_or_begins {further : Nat} (hstage : session.saying.stage = .speaking further)
    (hattempting : session.attempting = false) (moves : List (AttemptMove σ)) :
    let next := session.run settings moves
    (next.saying.stage = .speaking further ∧ next.saying.utterance = session.saying.utterance ∧
      next.attempting = false) ∨
    ∃ later between, next.history =
      later ++ .begun session.saying.utterance :: (between ++ session.history) := by
  induction moves generalizing session with
  | nil => exact Or.inl ⟨hstage, rfl, hattempting⟩
  | cons move rest ih =>
      rcases session.step_of_waiting settings hstage hattempting move with
        ⟨hspeaking, hnumber, hwaiting⟩ | hbegun
      · obtain ⟨first, hfirst⟩ := session.exists_history_step settings move
        rcases ih (session.step settings move) hspeaking hwaiting with hstays | hbegins
        · exact Or.inl ⟨hstays.1, hstays.2.1.trans hnumber, hstays.2.2⟩
        · obtain ⟨later, between, hhistory⟩ := hbegins
          refine Or.inr ⟨later, between ++ first, ?_⟩
          rw [hnumber, hfirst] at hhistory
          rw [List.append_assoc]
          exact hhistory
      · obtain ⟨later, hlater⟩ := (session.step settings move).exists_history_run settings rest
        rw [hbegun] at hlater
        exact Or.inr ⟨later, [], hlater⟩

def closing : List (AttemptMove σ) :=
  [.go .stop, .go .join, .go (.unmute (.ok ())), .go .answer]

variable {settings session}

theorem Paced.not_isRunning_of_cancelled (h : session.Paced settings)
    (hcancelled : .cancelled session.saying.utterance ∈ session.history) :
    (session.saying.monitors session.saying.utterance).isRunning = false := by
  rw [← Bool.not_eq_true]
  intro hrunning
  have honly := h.confined.muted (Or.inr hrunning)
  have hmem : .cancelled session.saying.utterance ∈
      SayingSession.occurrencesOf session.saying.utterance session.saying.history :=
    List.mem_filter.mpr ⟨h.cancelled _ hcancelled, beq_self_eq_true _⟩
  rw [honly] at hmem
  cases List.mem_singleton.mp hmem

/-- After its last attempt an utterance with a monitor that does not run ends
without waiting, and the microphone is unmuted. -/
theorem run_closing {result : Except Failure SpeechOutcome}
    (hstage : session.saying.stage = .stopping result)
    (hended : (session.saying.monitors session.saying.utterance).isRunning = false) :
    let last := session.run settings closing
    last.saying.stage = .silent ∧
      last.saying.history = .answered session.saying.utterance (SayingSession.answerOf result) ::
        .unmuted session.saying.utterance :: session.saying.history ∧
      last.history = .unmuted session.saying.utterance :: session.history := by
  obtain ⟨⟨assistant, stage, utterance, monitors, sayings⟩, attempting, history⟩ := session
  dsimp only at hstage hended ⊢
  subst hstage
  have hasked : (MonitorThread.isRunning { monitors utterance with stopAsked := true }) = false :=
    hended
  simp [run, closing, step, SayingSession.step, SayingSession.setMonitor, SayingSession.note,
    SayingSession.afterUnmuting, occurrence?, hasked]

end

theorem step_speak_of_not_speaking (settings : Settings) (saying : SayingSession σ)
    (hstage : ∀ further, saying.stage ≠ .speaking further)
    (result : Except Failure SpeechOutcome) : saying.step settings (.speak result) = saying := by
  obtain ⟨assistant, stage, utterance, monitors, history⟩ := saying
  cases stage with
  | speaking further => exact absurd rfl (hstage further)
  | silent | muting | opening | stopping | joining | unmuting | returning => rfl

/-- What the session of the assistant can do, it can do with attempts that begin
before they end. -/
theorem exists_run_saying (settings : Settings) (session : AttemptSession σ)
    (hattempting : session.attempting = false) (moves : List (SayingMove σ)) :
    ∃ further, (session.run settings further).saying = session.saying.run settings moves := by
  induction moves generalizing session with
  | nil => exact ⟨[], rfl⟩
  | cons move rest ih =>
      -- enough to make this one move
      suffices hmove : ∃ first, (session.run settings first).attempting = false ∧
          (session.run settings first).saying = session.saying.step settings move by
        obtain ⟨first, hnone, hfirst⟩ := hmove
        obtain ⟨further, hfurther⟩ := ih (session.run settings first) hnone
        refine ⟨first ++ further, ?_⟩
        rw [hfirst] at hfurther
        unfold run at *
        rw [List.foldl_append]
        exact hfurther
      by_cases hspeak : ∃ result, move = .speak result
      · obtain ⟨result, rfl⟩ := hspeak
        by_cases hstage : ∃ further, session.saying.stage = .speaking further
        · obtain ⟨further, hstage⟩ := hstage
          refine ⟨[.begin, .go (.speak result)], ?_⟩
          simp [run, step, AttemptSession.begin, finish, hstage, hattempting]
        · have hidle := step_speak_of_not_speaking settings session.saying
            (fun further heq => hstage ⟨further, heq⟩) result
          exact ⟨[], hattempting, hidle.symm⟩
      · refine ⟨[.go move], ?_⟩
        have hgo := step_go settings session (not_exists.mp hspeak)
        change (session.step settings (.go move)).attempting = false ∧
          (session.step settings (.go move)).saying = _
        rw [hgo]
        exact ⟨hattempting, rfl⟩

/-- In every session, whether and whenever the speech is cancelled: an attempt to
speak begins exactly if none goes on and all attempts of the utterance have failed
as a speaker does, as long as one is left, and nothing else can be done for the
utterance before. When no attempt is to follow, an utterance that was cancelled
ends without waiting, and the microphone is unmuted. And between utterances a text
can always be said as a further part of the session. -/
theorem run_attempts_whatever_cancelled (settings : Settings) (assistant : Assistant σ)
    (moves : List (AttemptMove σ)) :
    let session := (initial assistant).run settings moves
    let utterance := session.saying.utterance
    (∀ later number earlier, session.history = later ++ .begun number :: earlier →
      CallsForAttempt settings number earlier) ∧
    (∀ further, session.saying.stage = .speaking further → session.attempting = false →
      CallsForAttempt settings utterance session.history ∧
      ∀ more, let next := session.run settings more
        (next.saying.stage = .speaking further ∧ next.saying.utterance = utterance ∧
          next.attempting = false) ∨
        ∃ later between, next.history =
          later ++ .begun utterance :: (between ++ session.history)) ∧
    (∀ result, session.saying.stage = .stopping result →
      .cancelled utterance ∈ session.history →
      let last := session.run settings closing
      last.saying.stage = .silent ∧
        last.saying.history = .answered utterance (SayingSession.answerOf result) ::
          .unmuted utterance :: session.saying.history ∧
        last.history = .unmuted utterance :: session.history) ∧
    (session.saying.stage = .silent → ∀ (collaborators : Collaborators σ) text,
      let said := (Assistant.say settings collaborators text).perform session.saying.assistant
      ∃ further stopped events, (session.run settings further).saying =
        { assistant := said.2
          stage := .silent
          utterance := utterance + 1
          monitors := stopped
          history := .answered utterance said.1 :: events }) := by
  intro session utterance
  have hpaced : session.Paced settings := (paced_initial settings assistant).run moves
  refine ⟨fun later number earlier h => hpaced.backed later _ earlier h,
    fun further hstage hattempting => ?_, fun result hstage hcancelled => ?_,
    fun hsilent collaborators text => ?_⟩
  · have hcounted := hpaced.counted further hstage
    rw [hattempting] at hcounted
    exact ⟨hcounted.callsForAttempt, session.waits_or_begins settings hstage hattempting⟩
  · exact run_closing hstage (hpaced.not_isRunning_of_cancelled hcancelled)
  · have hattempting : session.attempting = false := by
      rw [← Bool.not_eq_true]
      intro hgoes
      obtain ⟨further, hspeaking⟩ := hpaced.attempting hgoes
      cases hsilent.symm.trans hspeaking
    have hquiet := hpaced.confined.quiet (hsilent ▸ id) session.saying.utterance
    obtain ⟨said, stopped, events, hsaid⟩ :=
      SayingSession.exists_run_say settings hsilent hquiet collaborators text
    obtain ⟨further, hfurther⟩ := session.exists_run_saying settings hattempting said
    exact ⟨further, stopped, events, hfurther.trans hsaid⟩

/-- The microphone is muted, and the monitor has heard a voice for long enough to
cancel the speech. The attempts are put around the cancellation. -/
def interruptedBy (before behind : List (AttemptMove Unit)) : List (AttemptMove Unit) :=
  [.go .begin, .go (.mute (.ok ())), .go .watch] ++ before ++
    [.go (.monitor 0 .waitOut), .go (.monitor 0 .waitOut), .go (.monitor 0 (.hear true)),
      .go (.monitor 0 .cancel)] ++ behind ++ closing

def speechless : Except Failure SpeechOutcome := .error ⟨.speaker, "no voice"⟩

/-- After a cancellation in the course of an attempt that fails, between two
attempts or before the first one, the next attempt begins and is completed. And
the speaker does not remember that it was cancelled when it is asked again. -/
theorem cancelled_utterance_speaks_on :
    let session := initial (Assistant.initial (.fresh none) ())
    let settings := SayingSession.interruptible
    let fails : AttemptMove Unit := .go (.speak speechless)
    let completes : AttemptMove Unit := .go (.speak (.ok .completed))
    (session.run settings (interruptedBy [.begin] [fails, .begin, completes])).history =
      [.unmuted 0, .ended 0 (.ok .completed), .begun 0, .ended 0 speechless, .cancelled 0,
        .begun 0] ∧
    (session.run settings (interruptedBy [.begin, fails] [.begin, completes])).history =
      [.unmuted 0, .ended 0 (.ok .completed), .begun 0, .cancelled 0, .ended 0 speechless,
        .begun 0] ∧
    (session.run settings (interruptedBy [] [.begin, completes])).history =
      [.unmuted 0, .ended 0 (.ok .completed), .begun 0, .cancelled 0] ∧
    let interrupted : Interference := ⟨some ⟨.runtime, "no voice"⟩, false, true, []⟩
    let failed := (SpeakerSystem.speak interrupted "four").perform .initial
    failed.1.toOption = none ∧
      ((SpeakerSystem.speak .absent "four").perform failed.2).1 = .ok .completed := by
  refine ⟨?_, ?_, ?_, ?_, ?_⟩ <;> decide +kernel

end AttemptSession

end SpokenCalculator
