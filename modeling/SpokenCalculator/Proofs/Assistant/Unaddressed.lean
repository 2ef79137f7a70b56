import SpokenCalculator.Proofs.Assistant.Hearing
import SpokenCalculator.Proofs.Assistant.WakeWord

namespace SpokenCalculator

open SpokenCalculator.Action

variable {σ : Type}

theorem Mind.armed_foldl_hear {wakeWords : List String} (hwake : wakeWords ≠ []) (mind : Mind)
    (texts : List String) :
    (texts.foldl (hear wakeWords) mind).armed =
      (texts.getLast?.map fun text => WakeWord.strip? wakeWords text == some "").getD
        mind.armed := by
  have hhear : ∀ (mind : Mind) (text : String),
      (mind.hear wakeWords text).armed = (WakeWord.strip? wakeWords text == some "") := by
    intro mind text
    rw [← WakeWord.address_armed hwake mind.armed text, hear]
    rcases WakeWord.address wakeWords mind.armed text with ⟨_ | _ | phrase, armed⟩ <;> rfl
  induction texts generalizing mind with
  | nil => rfl
  | cons text rest ih =>
      rw [List.foldl_cons, ih, hhear, List.getLast?_cons]
      cases rest.getLast? <;> rfl

structure Occasion (σ : Type) where
  collaborators : Collaborators σ
  surroundings : Surroundings σ

/-- A turn that was taken, with whether the assistant waited for a phrase when
it began. -/
structure Attended (σ : Type) where
  occasion : Occasion σ
  armed : Bool
  outcome : Except Failure TurnResult
  after : Assistant (Recording σ)

namespace Attended

def heard (turn : Attended σ) : List String := heardIn turn.after.calls

def said (turn : Attended σ) : List String := saidIn turn.after.calls

def isIgnored (wakeWords : List String) (turn : Attended σ) : Bool :=
  !turn.armed && turn.heard.any fun text => !WakeWord.isNamed wakeWords text

end Attended

namespace Assistant

/-- The assistant as it meets an occasion, with nothing recorded. -/
def meeting (occasion : Occasion σ) (assistant : Assistant (Recording σ)) :
    Assistant (Recording σ) :=
  { assistant with surroundings :=
      ⟨occasion.surroundings.running, ⟨occasion.surroundings.world, false, []⟩⟩ }

def attend (settings : Settings) (assistant : Assistant (Recording σ)) (occasion : Occasion σ) :
    Attended σ :=
  let (outcome, after) :=
    (turn settings occasion.collaborators.recorded).perform (meeting occasion assistant)
  ⟨occasion, assistant.armed, outcome, after⟩

def attendAll (settings : Settings) :
    Assistant (Recording σ) → List (Occasion σ) → List (Attended σ)
  | _, [] => []
  | assistant, occasion :: rest =>
      let turn := attend settings assistant occasion
      turn :: attendAll settings turn.after rest

def leave (settings : Settings) (assistant : Assistant (Recording σ))
    (occasions : List (Occasion σ)) : Assistant (Recording σ) :=
  occasions.foldl (fun assistant occasion => (attend settings assistant occasion).after) assistant

variable {settings : Settings} {assistant other : Assistant (Recording σ)}

theorem attend_congr (hmind : assistant.mind = other.mind) (occasion : Occasion σ) :
    attend settings assistant occasion = attend settings other occasion := by
  obtain ⟨engine, stage, armed, surroundings⟩ := assistant
  obtain ⟨otherEngine, otherStage, otherArmed, otherSurroundings⟩ := other
  cases hmind
  rfl

theorem attendAll_congr (hmind : assistant.mind = other.mind) (occasions : List (Occasion σ)) :
    attendAll settings assistant occasions = attendAll settings other occasions := by
  cases occasions with
  | nil => rfl
  | cons occasion rest => rw [attendAll, attendAll, attend_congr hmind]

theorem attendAll_append (assistant : Assistant (Recording σ)) (front behind : List (Occasion σ)) :
    attendAll settings assistant (front ++ behind) =
      attendAll settings assistant front ++
        attendAll settings (leave settings assistant front) behind := by
  induction front generalizing assistant with
  | nil => rfl
  | cons occasion rest ih =>
      rw [List.cons_append, attendAll, attendAll, ih]
      rfl

theorem exists_heeds (settings : Settings) (assistant : Assistant (Recording σ))
    (occasion : Occasion σ) :
    ∃ text, Heeds settings.wakeWords assistant.mind [] [] text
      (attend settings assistant occasion).outcome (attend settings assistant occasion).after :=
  leads_turn settings occasion.collaborators (meeting occasion assistant) ⟨⟨rfl, rfl⟩, rfl⟩

theorem mind_attend (settings : Settings) (assistant : Assistant (Recording σ))
    (occasion : Occasion σ) :
    (attend settings assistant occasion).after.mind =
      (attend settings assistant occasion).heard.foldl (Mind.hear settings.wakeWords)
        assistant.mind := by
  obtain ⟨text, hheeds⟩ := exists_heeds settings assistant occasion
  rw [Attended.heard, hheeds.knows.1, hheeds.knows.2]
  cases text <;> rfl

theorem mind_leave (settings : Settings) (assistant : Assistant (Recording σ))
    (occasions : List (Occasion σ)) :
    (leave settings assistant occasions).mind =
      ((attendAll settings assistant occasions).flatMap Attended.heard).foldl
        (Mind.hear settings.wakeWords) assistant.mind := by
  induction occasions generalizing assistant with
  | nil => rfl
  | cons occasion rest ih =>
      rw [attendAll, List.flatMap_cons, List.foldl_append, ← mind_attend]
      exact ih _

/-- A turn that is ignored changes nothing that is remembered, and nothing is
said in it. -/
theorem attend_of_isIgnored (hwake : settings.wakeWords ≠ []) {occasion : Occasion σ}
    (h : (attend settings assistant occasion).isIgnored settings.wakeWords) :
    (attend settings assistant occasion).after.mind = assistant.mind ∧
      (attend settings assistant occasion).said = [] := by
  obtain ⟨text, hheeds⟩ := exists_heeds settings assistant occasion
  have hheard : (attend settings assistant occasion).heard = text.toList := hheeds.knows.2
  rw [Attended.isIgnored, hheard, Bool.and_eq_true, List.any_eq_true] at h
  obtain ⟨harmed, phrase, hphrase, hnamed⟩ := h
  obtain rfl := Option.mem_toList.1 hphrase
  have hunarmed : (attend settings assistant occasion).armed = false := by simpa using harmed
  have haddress : WakeWord.address settings.wakeWords assistant.mind.armed phrase =
      (.ignored, false) := by
    have hflag : assistant.mind.armed = false := hunarmed
    rw [hflag]
    exact WakeWord.address_of_not_named hwake (by simpa using hnamed)
  have hsaid := (hheeds.ignored ⟨phrase, rfl, congrArg Prod.fst haddress⟩).2
  refine ⟨?_, hsaid⟩
  rw [hheeds.knows.1, Option.elim_some, Mind.hear, haddress]
  exact congrArg (Mind.mk assistant.mind.engine) hunarmed.symm

/-- Without the turns that are ignored the others come out as they did, and the
same is said. -/
theorem attendAll_heeded (hwake : settings.wakeWords ≠ []) (assistant : Assistant (Recording σ))
    (occasions : List (Occasion σ)) :
    let heeded := (attendAll settings assistant occasions).filter
      fun turn => !turn.isIgnored settings.wakeWords
    attendAll settings assistant (heeded.map Attended.occasion) = heeded ∧
      (attendAll settings assistant occasions).flatMap Attended.said =
        heeded.flatMap Attended.said := by
  dsimp only
  induction occasions generalizing assistant with
  | nil => exact ⟨rfl, rfl⟩
  | cons occasion rest ih =>
      obtain ⟨hrest, hsaid⟩ := ih (attend settings assistant occasion).after
      rw [attendAll, List.filter_cons, List.flatMap_cons, hsaid]
      by_cases hignored : (attend settings assistant occasion).isIgnored settings.wakeWords
      · obtain ⟨hmind, hsilent⟩ := attend_of_isIgnored hwake hignored
        rw [if_neg (by simp [hignored]), hsilent, List.nil_append]
        exact ⟨(attendAll_congr hmind.symm _).trans hrest, rfl⟩
      · rw [if_pos (by simp [hignored]), List.map_cons, List.flatMap_cons]
        refine ⟨?_, rfl⟩
        have hoccasion : (attend settings assistant occasion).occasion = occasion := rfl
        rw [hoccasion, attendAll, hrest]

theorem leave_of_isIgnored (hwake : settings.wakeWords ≠ []) {occasions : List (Occasion σ)}
    (h : ∀ occasion ∈ occasions,
      (attend settings assistant occasion).isIgnored settings.wakeWords) :
    (leave settings assistant occasions).mind = assistant.mind ∧
      (attendAll settings assistant occasions).flatMap Attended.said = [] := by
  induction occasions generalizing assistant with
  | nil => exact ⟨rfl, rfl⟩
  | cons occasion rest ih =>
      obtain ⟨hmind, hsilent⟩ := attend_of_isIgnored hwake (h occasion List.mem_cons_self)
      have hrest := ih fun later hlater => by
        rw [attend_congr hmind]
        exact h later (List.mem_cons_of_mem occasion hlater)
      rw [attendAll, List.flatMap_cons, hsilent]
      exact ⟨hrest.1.trans hmind, hrest.2⟩

/-- Speech that is not addressed to the assistant leaves no trace. All turns that
are ignored may be left out, and further ones may be put in between, and every
other turn comes out as it did, with the same speeches. The assistant waits for a
phrase if the last text that was heard was a wake word and nothing else; a turn
that hears nothing does not change this. -/
theorem unaddressed_leaves_no_trace (settings : Settings) (hwake : settings.wakeWords ≠ [])
    (assistant : Assistant (Recording σ)) :
    (∀ occasions : List (Occasion σ),
      let turns := attendAll settings assistant occasions
      let heeded := turns.filter fun turn => !turn.isIgnored settings.wakeWords
      attendAll settings assistant (heeded.map Attended.occasion) = heeded ∧
        turns.flatMap Attended.said = heeded.flatMap Attended.said) ∧
    (∀ front extras behind : List (Occasion σ),
      let before := leave settings assistant front
      (∀ extra ∈ extras, (attend settings before extra).isIgnored settings.wakeWords) →
        attendAll settings assistant (front ++ behind) =
            attendAll settings assistant front ++ attendAll settings before behind ∧
          attendAll settings assistant (front ++ (extras ++ behind)) =
            attendAll settings assistant front ++
              (attendAll settings before extras ++ attendAll settings before behind) ∧
          (attendAll settings before extras).flatMap Attended.said = []) ∧
    ∀ occasions : List (Occasion σ),
      (leave settings assistant occasions).armed =
        (((attendAll settings assistant occasions).flatMap Attended.heard).getLast?.map
          fun text => WakeWord.strip? settings.wakeWords text == some "").getD
            assistant.armed := by
  refine ⟨attendAll_heeded hwake assistant, fun front extras behind => ?_, fun occasions => ?_⟩
  · intro before hextras
    obtain ⟨hmind, hsilent⟩ := leave_of_isIgnored hwake hextras
    refine ⟨attendAll_append assistant front behind, ?_, hsilent⟩
    rw [attendAll_append, attendAll_append, attendAll_congr hmind]
  · have harmed := Mind.armed_foldl_hear hwake assistant.mind
      ((attendAll settings assistant occasions).flatMap Attended.heard)
    rw [← mind_leave] at harmed
    exact harmed

/-- An occasion at which one text is heard and every speech is completed. -/
def occasionOf (text : String) : Occasion Unit where
  collaborators :=
    { capture := fun _ => pure (Chunk.ofSamples [] 16000)
      transcribe := fun _ => pure ⟨some text⟩
      mute := pure ()
      unmute := pure ()
      speak := fun _ _ _ => pure .completed }
  surroundings := ⟨true, ()⟩

def gatedSettings : Settings :=
  ⟨.speech, .whole 30, .whole 4, .whole 3, false, .whole 1, .whole 1, .whole 1,
    Settings.usualWakeWords, "", 1, 4, none⟩

/-- A product that nobody asked the assistant for, then a wake word on its own and
a sum. -/
theorem unaddressed_leaves_no_trace_product :
    gatedSettings.wakeWords ≠ [] ∧
      (attend gatedSettings (awaiting (.fresh none) false ())
        (occasionOf "nine times nine")).isIgnored gatedSettings.wakeWords ∧
      (attendAll gatedSettings (awaiting (.fresh none) false ())
        [occasionOf "nine times nine", occasionOf "Calculator?", occasionOf "one plus one"]).flatMap
          Attended.said = [Reply.ready, "two"] := by
  have hwake : gatedSettings.wakeWords ≠ [] := by decide
  have hignored : (attend gatedSettings (awaiting (.fresh none) false ())
      (occasionOf "nine times nine")).isIgnored gatedSettings.wakeWords := by decide +kernel
  have hsaid : (attendAll gatedSettings (awaiting (.fresh none) false ())
      [occasionOf "Calculator?", occasionOf "one plus one"]).flatMap Attended.said =
        [Reply.ready, "two"] := by decide +kernel
  obtain ⟨-, hturns, hsilent⟩ := (unaddressed_leaves_no_trace gatedSettings hwake
    (awaiting (.fresh none) false ())).2.1 [] [occasionOf "nine times nine"]
      [occasionOf "Calculator?", occasionOf "one plus one"]
      (by rw [List.forall_mem_singleton]; exact hignored)
  refine ⟨hwake, hignored, ?_⟩
  rw [List.nil_append, List.singleton_append, attendAll, List.nil_append] at hturns
  rw [hturns, List.flatMap_append, hsilent, List.nil_append]
  exact hsaid

end Assistant

end SpokenCalculator
