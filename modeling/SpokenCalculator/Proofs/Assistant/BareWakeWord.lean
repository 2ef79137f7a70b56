import SpokenCalculator.Proofs.Assistant.Summons
import SpokenCalculator.Proofs.Text.Removal

namespace SpokenCalculator

namespace Text

def IsBasicPhrase (text : List Char) : Prop :=
  ∃ parts, parts ≠ [] ∧
    (∀ part ∈ parts, IsWhole part ∧ ∀ c ∈ part, c.toNat < 128) ∧ text = joinWords parts

theorem IsBasicPhrase.of_all {text : List Char} (parts : List (List Char)) (hne : parts ≠ [])
    (hparts : parts.all fun part =>
      part != [] && part.all fun c => isWordCharacter c && decide (c.toNat < 128))
    (htext : text = joinWords parts) : IsBasicPhrase text := by
  refine ⟨parts, hne, fun part hpart => ?_, htext⟩
  have hboth := List.all_eq_true.mp hparts part hpart
  simp only [Bool.and_eq_true, List.all_eq_true, bne_iff_ne, decide_eq_true_eq] at hboth
  exact ⟨⟨hboth.1, fun c hc => (hboth.2 c hc).1⟩, fun c hc => (hboth.2 c hc).2⟩

theorem IsBasicPhrase.basic {text : List Char} (h : IsBasicPhrase text) :
    ∀ c ∈ text, c.toNat < 128 := by
  obtain ⟨parts, -, hparts, rfl⟩ := h
  intro c hc
  rcases mem_joinWords hc with rfl | ⟨part, hpart, hc⟩
  · decide
  · exact (hparts part hpart).2 c hc

theorem IsBasicPhrase.ne_nil {text : List Char} (h : IsBasicPhrase text) : text ≠ [] := by
  obtain ⟨parts, hne, hparts, rfl⟩ := h
  exact joinWords_ne_nil (fun part hpart => (hparts part hpart).1) hne

end Text

namespace WakeWord

open Text

/-! ### Wake words as phrases -/

def phraseOf (wakeWord : String) : List (List Char) := words (patternOf wakeWord)

/-- Nothing is left of a wake word when the wake words are taken out of it. -/
def LeavesNothing (wakeWords : List String) (wakeWord : String) : Prop :=
  ∀ slot ∈ takeOutAll (wakeWords.map phraseOf) ((phraseOf wakeWord).map some), slot = none

section

variable {wakeWord : String} (hphrase : IsBasicPhrase wakeWord.toList)

include hphrase

theorem patternOf_eq : patternOf wakeWord = wakeWord.toList.map Char.toLower :=
  lowerCase_of_basic hphrase.basic

theorem phraseOf_whole :
    joinWords (phraseOf wakeWord) = patternOf wakeWord ∧ phraseOf wakeWord ≠ [] ∧
      ∀ word ∈ phraseOf wakeWord, IsWhole word := by
  have hpattern := patternOf_eq hphrase
  obtain ⟨parts, hne, hparts, htext⟩ := hphrase
  rw [htext, map_joinWords (by decide)] at hpattern
  have hwhole : ∀ word ∈ parts.map (List.map Char.toLower), IsWhole word := by
    rw [List.forall_mem_map]
    intro part hpart
    obtain ⟨hword, hbasic⟩ := hparts part hpart
    refine ⟨mt List.map_eq_nil_iff.mp hword.ne_nil, ?_⟩
    rw [List.forall_mem_map]
    intro c hc
    have hlower := forall_basic (fun c => !isWordCharacter c || isWordCharacter c.toLower)
      (by decide +kernel) (hbasic c hc)
    simpa [hword.isWord c hc] using hlower
  have hwords : phraseOf wakeWord = parts.map (List.map Char.toLower) := by
    rw [phraseOf, hpattern, words_joinWords fun word hword => (hwhole word hword).isPlain]
  rw [hwords]
  exact ⟨hpattern.symm, mt List.map_eq_nil_iff.mp hne, hwhole⟩

/-- A wake word is heard in lower case, whatever its case was and with the
punctuation that stands around it. -/
theorem lowerCase_around {front spoken tail : List Char}
    (hfront : ∀ c ∈ front, isPunctuation c) (htail : ∀ c ∈ tail, isPunctuation c)
    (hspoken : spoken.map Char.toLower = wakeWord.toList.map Char.toLower) :
    lowerCase (front ++ spoken ++ tail) = front ++ patternOf wakeWord ++ tail := by
  have hmark : ∀ c, isPunctuation c → c.toNat < 128 ∧ c.toLower = c := by
    have hall : " ,.!?".toList.all fun c => decide (c.toNat < 128) && c.toLower == c := by decide
    intro c hc
    have hboth := List.all_eq_true.mp hall c (List.contains_iff_mem.mp hc)
    simpa using hboth
  have hsame : ∀ {marks : List Char}, (∀ c ∈ marks, isPunctuation c) →
      marks.map Char.toLower = marks :=
    fun hmarks => List.map_congr_left (fun c hc => (hmark c (hmarks c hc)).2) |>.trans
      (List.map_id _)
  have hbasic : ∀ c ∈ spoken, c.toNat < 128 := by
    intro c hc
    have hlower : c.toLower ∈ wakeWord.toList.map Char.toLower := by
      rw [← hspoken]
      exact List.mem_map_of_mem hc
    obtain ⟨other, hother, hsmall⟩ := List.mem_map.mp hlower
    have hotherBasic := forall_basic (fun c => decide (c.toLower.toNat < 128)) (by decide)
      (hphrase.basic other hother)
    rw [decide_eq_true_eq, hsmall] at hotherBasic
    exact basic_of_toLower hotherBasic
  rw [lowerCase_of_basic, List.map_append, List.map_append, hsame hfront, hsame htail, hspoken,
    patternOf_eq hphrase]
  rw [List.forall_mem_append, List.forall_mem_append]
  exact ⟨⟨fun c hc => (hmark c (hfront c hc)).1, hbasic⟩, fun c hc => (hmark c (htail c hc)).1⟩

end

/-! ### What is left of a wake word -/

theorem isWordCharacter_of_isPunctuation {c : Char} (h : isPunctuation c) :
    isWordCharacter c = false :=
  (isIdle_of_isPunctuation h).notWord

section

variable {wakeWords : List String} (hphrases : ∀ word ∈ wakeWords, IsBasicPhrase word.toList)

include hphrases

theorem phrases_whole : ∀ phrase ∈ wakeWords.map phraseOf, phrase ≠ [] ∧
    ∀ word ∈ phrase, IsWhole word := by
  rw [List.forall_mem_map]
  exact fun word hword => (phraseOf_whole (hphrases word hword)).2

theorem map_patternOf : wakeWords.map patternOf = (wakeWords.map phraseOf).map joinWords := by
  rw [List.map_map]
  exact List.map_congr_left fun word hword => (phraseOf_whole (hphrases word hword)).1.symm

variable {wakeWord : String} (hmem : wakeWord ∈ wakeWords)

include hmem

/-- Nothing is left of a wake word if no wake word that is configured before it
stands among its words. -/
theorem leavesNothing_of_first (hfirst :
    ∀ other ∈ (wakeWords.map phraseOf).takeWhile fun other => other != phraseOf wakeWord,
      ¬ other <:+: phraseOf wakeWord) : LeavesNothing wakeWords wakeWord := by
  rw [LeavesNothing, takeOutAll_of_first (fun phrase hphrase =>
    (phrases_whole hphrases phrase hphrase).1) (List.mem_map_of_mem hmem) hfirst]
  exact List.forall_mem_singleton.mpr rfl

variable {front tail : List Char} (hfront : ∀ c ∈ front, isPunctuation c)
  (htail : ∀ c ∈ tail, isPunctuation c) {text : String}
  (htext : lowerCase text.toList = front ++ patternOf wakeWord ++ tail)

include hfront htail htext

theorem standsIn_around : standsIn (patternOf wakeWord) none (lowerCase text.toList) := by
  obtain ⟨hjoined, hne, hwhole⟩ := phraseOf_whole (hphrases wakeWord hmem)
  by_contra hquiet
  -- replacing the wake word would leave a space in its place
  have hreplaced := replaceWhole_around_ofSlots hwhole hne
    (fun c hc => isWordCharacter_of_isPunctuation (hfront c hc))
    (fun c hc => isWordCharacter_of_isPunctuation (htail c hc)) (whole_map_some hwhole)
  rw [ofSlots_map_some, takeOut_self hne, hjoined, ← htext,
    replaceWhole_of_not_standsIn (Bool.eq_false_iff.mpr hquiet), htext] at hreplaced
  have hspace : patternOf wakeWord = [' '] :=
    List.append_cancel_left (List.append_cancel_right hreplaced)
  have hword := head?_joinWords hwhole hne
  rw [hjoined, hspace] at hword
  exact absurd hword (by decide)

theorem strip?_around : strip? wakeWords text =
    some (String.ofList (trim isPunctuation (joinWords (words (front ++ ofSlots
      (takeOutAll (wakeWords.map phraseOf) ((phraseOf wakeWord).map some)) ++ tail))))) := by
  obtain ⟨hjoined, hne, hwhole⟩ := phraseOf_whole (hphrases wakeWord hmem)
  have hnamed : ((wakeWords.map patternOf).any fun pattern =>
      standsIn pattern none (lowerCase text.toList)) = true :=
    List.any_eq_true.mpr ⟨patternOf wakeWord, List.mem_map_of_mem hmem,
      standsIn_around hphrases hmem hfront htail htext⟩
  have hreplaced := foldl_replaceWhole_around_ofSlots (phrases_whole hphrases)
    (fun c hc => isWordCharacter_of_isPunctuation (hfront c hc))
    (fun c hc => isWordCharacter_of_isPunctuation (htail c hc)) (whole_map_some hwhole)
  rw [ofSlots_map_some, hjoined, ← map_patternOf hphrases, ← htext] at hreplaced
  rw [strip?]
  dsimp only
  rw [if_pos hnamed, hreplaced]

theorem isEmpty_strip?_around {rest : String} (h : strip? wakeWords text = some rest) :
    rest.isEmpty ↔ LeavesNothing wakeWords wakeWord := by
  have hwhole := (phraseOf_whole (hphrases wakeWord hmem)).2.2
  rw [strip?_around hphrases hmem hfront htail htext] at h
  cases h
  rw [String.isEmpty_iff, String.ofList_eq_empty_iff, LeavesNothing]
  refine trim_around_ofSlots_eq_nil_iff (by decide)
    (fun c => isWordCharacter_of_isPunctuation) hfront htail ?_
  rintro slot hslot word rfl
  exact whole_map_some hwhole _ (mem_of_mem_takeOutAll hslot) word rfl

/-- A wake word on its own is one to the assistant exactly if nothing of it is
left. Otherwise what is left is taken for a phrase. -/
theorem address_around (armed : Bool) :
    (LeavesNothing wakeWords wakeWord → address wakeWords armed text = (.wakeWordAlone, true)) ∧
    (¬ LeavesNothing wakeWords wakeWord → ∃ phrase, phrase ≠ "" ∧
      address wakeWords armed text = (.phrase phrase, false)) := by
  have hstrip := strip?_around hphrases hmem hfront htail htext
  have hempty := isEmpty_strip?_around hphrases hmem hfront htail htext hstrip
  rw [address, if_neg (by simpa using List.ne_nil_of_mem hmem), hstrip]
  dsimp only
  constructor
  · intro hnothing
    rw [if_pos (hempty.mpr hnothing)]
  · intro hsomething
    rw [if_neg (mt hempty.mp hsomething)]
    exact ⟨_, mt String.isEmpty_iff.mpr (mt hempty.mp hsomething), rfl⟩

end

end WakeWord

/-! ### The turn -/

namespace Assistant

open Text (lowerCase IsBasicPhrase)
open WakeWord (phraseOf isPunctuation LeavesNothing)

variable {σ : Type}

section

variable {settings : Settings} {occasion : Occasion σ} {chunk : Chunk} {after : Surroundings σ}
  (hcapture : (occasion.collaborators.capture settings.listenSeconds).perform
    occasion.surroundings = (.ok chunk, after)) (assistant : Assistant (Recording σ))
  {text : String} (htext : text.isEmpty = false)

include hcapture htext

theorem attend_eq_react {address : Address} {armed : Bool}
    (haddress : WakeWord.address settings.wakeWords assistant.armed text = (address, armed)) :
    let turn := attend settings assistant (occasion.hearing text)
    let reacted := (react settings occasion.collaborators.recorded address).perform
      { toldOf chunk after text assistant with armed }
    turn.outcome = reacted.1 ∧ turn.after = reacted.2 := by
  dsimp only
  rw [attend, perform_turn_hearing settings hcapture, htext, if_neg Bool.false_ne_true,
    perform_hear (toldOf chunk after text assistant) haddress]
  exact ⟨rfl, rfl⟩

end

/-- A turn that hears a wake word, in whatever case and with spaces and punctuation
around it. If nothing of it is left when the wake words are taken out of it, the
assistant waits for a phrase and says that it is ready. If something is left, it
follows this as a phrase and waits for none. Nothing is left if no wake word that
is configured before it stands among its words. -/
theorem attend_wakeWord_on_its_own (settings : Settings)
    (hphrases : ∀ word ∈ settings.wakeWords, IsBasicPhrase word.toList) {wakeWord : String}
    (hmem : wakeWord ∈ settings.wakeWords) {front spoken tail : List Char}
    (hfront : ∀ c ∈ front, isPunctuation c) (htail : ∀ c ∈ tail, isPunctuation c)
    (hspoken : spoken.map Char.toLower = wakeWord.toList.map Char.toLower)
    (assistant : Assistant (Recording σ)) {occasion : Occasion σ} {chunk : Chunk}
    {after : Surroundings σ} (hcapture : (occasion.collaborators.capture
      settings.listenSeconds).perform occasion.surroundings = (.ok chunk, after)) :
    let text := String.ofList (front ++ spoken ++ tail)
    let turn := attend settings assistant (occasion.hearing text)
    let told := fun armed => { toldOf chunk after text assistant with armed }
    (LeavesNothing settings.wakeWords wakeWord →
      let answered :=
        (respond settings occasion.collaborators.recorded Reply.ready).perform (told true)
      turn.after.mind = ⟨assistant.engine, true⟩ ∧ turn.outcome = answered.1 ∧
        turn.after = answered.2) ∧
    (¬ LeavesNothing settings.wakeWords wakeWord → ∃ phrase, phrase ≠ "" ∧
      let followed :=
        (follow settings occasion.collaborators.recorded phrase).perform (told false)
      turn.after.armed = false ∧ turn.outcome = followed.1 ∧ turn.after = followed.2) ∧
    ((∀ other ∈ (settings.wakeWords.map phraseOf).takeWhile fun other => other != phraseOf wakeWord,
      ¬ other <:+: phraseOf wakeWord) → LeavesNothing settings.wakeWords wakeWord) := by
  intro text turn told
  have hphrase := hphrases wakeWord hmem
  have hempty : text.isEmpty = false := by
    rw [← Bool.not_eq_true, String.isEmpty_iff, String.ofList_eq_empty_iff]
    intro hnil
    obtain ⟨hbefore, -⟩ := List.append_eq_nil_iff.mp hnil
    rw [(List.append_eq_nil_iff.mp hbefore).2] at hspoken
    exact hphrase.ne_nil (List.map_eq_nil_iff.mp hspoken.symm)
  have hlower : lowerCase text.toList = front ++ WakeWord.patternOf wakeWord ++ tail := by
    rw [String.toList_ofList]
    exact WakeWord.lowerCase_around hphrase hfront htail hspoken
  obtain ⟨halone, hmore⟩ :=
    WakeWord.address_around hphrases hmem hfront htail hlower assistant.armed
  refine ⟨fun hnothing => ?_, fun hsomething => ?_,
    WakeWord.leavesNothing_of_first hphrases hmem⟩
  · have haddress := halone hnothing
    exact ⟨(attend_wakeWordAlone hcapture assistant hempty haddress).2,
      attend_eq_react hcapture assistant hempty haddress⟩
  · obtain ⟨phrase, hne, haddress⟩ := hmore hsomething
    have hmind := (attend_phrase hcapture assistant hempty haddress).2.1
    exact ⟨phrase, hne, congrArg Mind.armed hmind,
      attend_eq_react hcapture assistant hempty haddress⟩

def calledBy (wakeWords : List String) : Settings := { gatedSettings with wakeWords }

/-- The wake word that is configured before it does not stand among its words, and
the one that does comes later. -/
theorem attend_wakeWord_on_its_own_longer_first :
    let settings := calledBy ["calculate", "hey calculator", "calculator"]
    (∀ word ∈ settings.wakeWords, IsBasicPhrase word.toList) ∧
      "hey calculator" ∈ settings.wakeWords ∧
      (attend settings (awaiting (.fresh none) false ())
        ((occasionOf "").hearing " Hey CALCULATOR!?")).after.mind = ⟨.fresh none, true⟩ := by
  intro settings
  have hphrases : ∀ word ∈ settings.wakeWords, IsBasicPhrase word.toList := by
    refine List.forall_mem_cons.mpr ⟨?_, List.forall_mem_cons.mpr ⟨?_,
      List.forall_mem_singleton.mpr ?_⟩⟩
    · exact .of_all ["calculate".toList] (by decide) (by decide) (by decide)
    · exact .of_all ["hey".toList, "calculator".toList] (by decide) (by decide) (by decide)
    · exact .of_all ["calculator".toList] (by decide) (by decide) (by decide)
  have hmem : "hey calculator" ∈ settings.wakeWords := by decide
  have hfirst : ∀ other ∈ (settings.wakeWords.map phraseOf).takeWhile
      fun other => other != phraseOf "hey calculator", ¬ other <:+: phraseOf "hey calculator" := by
    decide +kernel
  have hfront : ∀ c ∈ [' '], isPunctuation c := List.forall_mem_singleton.mpr (by decide)
  have htail : ∀ c ∈ ['!', '?'], isPunctuation c := List.all_eq_true.mp (by decide)
  have hspoken : "Hey CALCULATOR".toList.map Char.toLower =
      "hey calculator".toList.map Char.toLower := by
    decide
  have hcapture : ((occasionOf "").collaborators.capture settings.listenSeconds).perform
      (occasionOf "").surroundings = (.ok (Chunk.ofSamples [] 16000), ⟨true, ()⟩) := rfl
  have htext : String.ofList ([' '] ++ "Hey CALCULATOR".toList ++ ['!', '?']) =
      " Hey CALCULATOR!?" := by
    decide
  obtain ⟨hready, -, hnothing⟩ := attend_wakeWord_on_its_own settings hphrases hmem hfront htail
    hspoken (awaiting (.fresh none) false ()) hcapture
  rw [htext] at hready
  exact ⟨hphrases, hmem, (hready (hnothing hfirst)).1⟩

/-- The shorter wake word is configured first, and what is left of the longer one is
not understood. -/
theorem shorter_wakeWord_first_does_not_arm :
    let settings := calledBy ["calculator", "hey calculator"]
    let turn := attend settings (awaiting (.fresh none) false ()) (occasionOf "hey calculator")
    "hey calculator" ∈ settings.wakeWords ∧ turn.after.armed = false ∧
      turn.said = [Reply.notUnderstood] := by
  decide +kernel

end Assistant

end SpokenCalculator
