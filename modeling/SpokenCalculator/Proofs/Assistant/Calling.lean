import SpokenCalculator.Proofs.Assistant.WakeWord
import SpokenCalculator.Proofs.Phrase.Trimmed
import SpokenCalculator.Proofs.Text.Letters
import SpokenCalculator.Proofs.Text.LowerCase

namespace SpokenCalculator.WakeWord

open Phrase (isLetter IsIdle)
open Text

/-- What is left of a text whose wake words are taken out of what stands in front
of it. -/
def remainder (text : String) : String :=
  String.ofList (trim isPunctuation (joinWords (words (lowerCase text.toList))))

/-! ### Patterns of letters -/

theorem isLetter_lowerCaseOf {c : Char} (h : c.isAlpha) : isLetter (lowerCaseOf c) := by
  have hsmall : (List.range' 0x41 26 ++ List.range' 0x61 26).all fun code =>
      isLetter (lowerCaseOf (Char.ofNat code)) := by decide
  have hcode : c.toNat ∈ List.range' 0x41 26 ++ List.range' 0x61 26 := by
    rw [List.mem_append, List.mem_range'_1, List.mem_range'_1]
    rcases Bool.or_eq_true_iff.mp h with hupper | hlower
    · obtain ⟨hfirst, hlast⟩ : 'A'.val ≤ c.val ∧ c.val ≤ 'Z'.val := of_decide_eq_true hupper
      exact Or.inl ⟨hfirst, Nat.lt_succ_of_le hlast⟩
    · obtain ⟨hfirst, hlast⟩ := Bool.and_eq_true_iff.mp hlower
      have hsmallFirst : 'a'.val ≤ c.val := of_decide_eq_true hfirst
      have hsmallLast : c.val ≤ 'z'.val := of_decide_eq_true hlast
      exact Or.inr ⟨hsmallFirst, Nat.lt_succ_of_le hsmallLast⟩
  have hletter := List.all_eq_true.mp hsmall c.toNat hcode
  rwa [Char.ofNat_toNat] at hletter

section

variable {wakeWord : String} (hletters : ∀ c ∈ wakeWord.toList, c.isAlpha)

include hletters

theorem isLetter_of_mem_patternOf : ∀ c ∈ patternOf wakeWord, isLetter c := by
  refine forall_mem_transduce (fun c hc casedBefore rest => ?_) false
  have halpha := hletters c hc
  refine forall_mem_lowerStep ?_ ?_ (fun _ _ => isLetter_lowerCaseOf halpha) casedBefore rest
  · rintro rfl
    revert halpha
    decide
  · rintro rfl
    revert halpha
    decide

end

theorem patternOf_ne_nil {wakeWord : String} (hne : wakeWord ≠ "") : patternOf wakeWord ≠ [] := by
  obtain ⟨c, rest, hchars⟩ := List.exists_cons_of_ne_nil (mt String.toList_eq_nil_iff.mp hne)
  have hc : c ∈ wakeWord.toList := by
    rw [hchars]
    exact List.mem_cons_self
  obtain ⟨small, hsmall, _⟩ := exists_mem_lowerCase hc
  exact List.ne_nil_of_mem hsmall

/-! ### Taking wake words out -/

section

variable {patterns : List (List Char)} (hletters : ∀ pattern ∈ patterns, ∀ c ∈ pattern, isLetter c)
  {behind : List Char} (hbehind : ∀ pattern ∈ patterns, standsIn pattern none behind = false)

include hletters hbehind

theorem words_replaced {text : List Char} (htext : words text = words behind) :
    words (patterns.foldl (fun rest pattern => replaceWhole pattern [' '] rest) text) =
      words behind := by
  induction patterns generalizing text with
  | nil => exact htext
  | cons pattern others ih =>
      obtain ⟨hpattern, hothers⟩ := List.forall_mem_cons.mp hletters
      obtain ⟨hquiet, hquietOthers⟩ := List.forall_mem_cons.mp hbehind
      refine ih hothers hquietOthers ?_
      rw [words_replaceWhole hpattern, htext, ← words_replaceWhole hpattern,
        replaceWhole_of_not_standsIn hquiet]

/-- A word in front of the text disappears when its turn has come, and the text
keeps its words. -/
theorem words_replaced_cons {word : List Char} (hne : word ≠ []) (hmem : word ∈ patterns)
    {text : List Char} (htext : words text = word :: words behind) :
    words (patterns.foldl (fun rest pattern => replaceWhole pattern [' '] rest) text) =
      words behind := by
  have hword := hletters word hmem
  induction patterns generalizing text with
  | nil => cases hmem
  | cons pattern others ih =>
      obtain ⟨hpattern, hothers⟩ := List.forall_mem_cons.mp hletters
      obtain ⟨hquiet, hquietOthers⟩ := List.forall_mem_cons.mp hbehind
      have hstep : words (replaceWhole pattern [' '] text) =
          (if pattern = word then [] else [word]) ++ words behind := by
        rw [words_replaceWhole hpattern, htext, List.flatMap_cons,
          words_replaceWhole_word hpattern hne hword, ← words_replaceWhole hpattern,
          replaceWhole_of_not_standsIn hquiet]
      rw [List.foldl_cons]
      by_cases hsame : pattern = word
      · rw [if_pos hsame, List.nil_append] at hstep
        exact words_replaced hothers hquietOthers hstep
      · rw [if_neg hsame, List.singleton_append] at hstep
        have hother : word ∈ others :=
          (List.mem_cons.mp hmem).resolve_left fun heq => hsame heq.symm
        exact ih hothers hquietOthers hother hstep

end

theorem not_standsIn_nil (pattern : List Char) : standsIn pattern none [] = false := by
  rw [standsIn, standsAt_nil]
  exact Bool.and_false _

section

variable {wakeWords : List String} (hletters : ∀ word ∈ wakeWords, ∀ c ∈ word.toList, c.isAlpha)
  {wakeWord : String} (hmem : wakeWord ∈ wakeWords) (hne : wakeWord ≠ "")

include hletters hmem hne

theorem strip?_of_words {text : String} {behind : List Char}
    (hbehind : ∀ word ∈ wakeWords, standsIn (patternOf word) none behind = false)
    (hnamed : standsIn (patternOf wakeWord) none (lowerCase text.toList))
    (hwords : words (lowerCase text.toList) = patternOf wakeWord :: words behind) :
    strip? wakeWords text =
      some (String.ofList (trim isPunctuation (joinWords (words behind)))) := by
  have hpatterns : ∀ pattern ∈ wakeWords.map patternOf, ∀ c ∈ pattern, isLetter c := by
    rw [List.forall_mem_map]
    exact fun word hword => isLetter_of_mem_patternOf (hletters word hword)
  have hquiet : ∀ pattern ∈ wakeWords.map patternOf, standsIn pattern none behind = false := by
    rw [List.forall_mem_map]
    exact hbehind
  have hstanding : ((wakeWords.map patternOf).any fun pattern =>
      standsIn pattern none (lowerCase text.toList)) = true :=
    List.any_eq_true.mpr ⟨patternOf wakeWord, List.mem_map_of_mem hmem, hnamed⟩
  rw [strip?]
  dsimp only
  rw [if_pos hstanding, words_replaced_cons hpatterns hquiet (patternOf_ne_nil hne)
    (List.mem_map_of_mem hmem) hwords]

theorem strip?_wakeWord : strip? wakeWords wakeWord = some "" := by
  have hpattern := isLetter_of_mem_patternOf (hletters wakeWord hmem)
  have hwords : words (patternOf wakeWord) = [patternOf wakeWord] :=
    words_eq_singleton (patternOf_ne_nil hne) fun c hc => isBlank_of_isLetter (hpattern c hc)
  have hstands : standsIn (patternOf wakeWord) none (patternOf wakeWord) :=
    standsIn_of_standsAt (standsAt_self hpattern (patternOf_ne_nil hne))
  exact strip?_of_words hletters hmem hne (fun word _ => not_standsIn_nil _) hstands hwords

theorem strip?_wakeWord_append {text : String} (hunnamed : isNamed wakeWords text = false) :
    strip? wakeWords (wakeWord ++ " " ++ text) = some (remainder text) := by
  have hpattern := isLetter_of_mem_patternOf (hletters wakeWord hmem)
  have hlower : lowerCase (wakeWord ++ " " ++ text).toList =
      patternOf wakeWord ++ ' ' :: lowerCase text.toList := by
    rw [String.toList_append, String.toList_append, List.append_assoc]
    exact lowerCase_append_space wakeWord.toList text.toList
  have hbehind : ∀ word ∈ wakeWords,
      standsIn (patternOf word) none (lowerCase text.toList) = false := by
    intro word hword
    rw [isNamed, List.any_eq_false] at hunnamed
    exact Bool.eq_false_iff.mpr (hunnamed word hword)
  have hstands : standsAt (patternOf wakeWord) none
      (patternOf wakeWord ++ ' ' :: lowerCase text.toList) := by
    rw [standsAt_append (not_spans_of_isLetter hpattern (by decide) _ _)
      (show isWordCharacter ' ' = false by decide)]
    exact standsAt_self hpattern (patternOf_ne_nil hne)
  refine strip?_of_words hletters hmem hne hbehind ?_ ?_
  · rw [hlower]
    exact standsIn_of_standsAt hstands
  · rw [hlower, words_append_blank (by decide),
      words_eq_singleton (patternOf_ne_nil hne) fun c hc => isBlank_of_isLetter (hpattern c hc)]
    rfl

end

/-! ### What is left of the text -/

/-- The text does not consist of blanks and punctuation only. -/
def IsMeaningful (text : List Char) : Prop :=
  ∃ c ∈ text, isBlank c = false ∧ isPunctuation c = false

theorem isIdle_of_isPunctuation {c : Char} (h : isPunctuation c) : IsIdle c := by
  have hall : " ,.!?".toList.all fun c =>
      Phrase.isGap c && !isWordCharacter c && !Phrase.isWordPart c &&
        !Phrase.signMarks.contains c := by decide
  have hidle := List.all_eq_true.mp hall c (List.contains_iff_mem.mp h)
  simp only [Bool.and_eq_true, Bool.not_eq_true'] at hidle
  exact ⟨hidle.1.1.1, hidle.1.1.2, hidle.1.2, hidle.2⟩

/-- Where no blank and no punctuation sign is, in code points. -/
theorem meaningful_iff {c : Char} (hdotted : c ≠ 'İ') :
    isBlank c = false ∧ isPunctuation c = false ↔
      ∀ range ∈ CapitalRun.apartRanges, c.toNat < range.1 ∨ range.2 < c.toNat := by
  constructor
  · rintro ⟨hblank, hpunctuation⟩
    have hmark : ∀ mark ∈ " ,.!?".toList, c.toNat ≠ mark.toNat := by
      intro mark hmark hsame
      rw [isPunctuation, Char.toNat_inj.mp hsame, List.contains_iff_mem.mpr hmark] at hpunctuation
      cases hpunctuation
    have hcapital : c.toNat ≠ 0x130 := fun hsame => hdotted (Char.toNat_inj.mp hsame)
    have hspace : c.toNat ≠ 0x20 := hmark ' ' (by decide)
    have hexclamation : c.toNat ≠ 0x21 := hmark '!' (by decide)
    have hcomma : c.toNat ≠ 0x2C := hmark ',' (by decide)
    have hpoint : c.toNat ≠ 0x2E := hmark '.' (by decide)
    have hquestion : c.toNat ≠ 0x3F := hmark '?' (by decide)
    have hblanks : ∀ range ∈ blankRanges, c.toNat < range.1 ∨ range.2 < c.toNat := by
      intro range hrange
      by_contra hinside
      have hcovered : isBlank c := coveredBy_of_mem (by decide) hrange (by omega) (by omega)
      rw [hblank] at hcovered
      cases hcovered
    simp only [CapitalRun.apartRanges, List.forall_mem_cons]
    exact ⟨by omega, by omega, by omega, by omega, by omega, hblanks⟩
  · intro hapart
    constructor
    · rw [← Bool.not_eq_true]
      intro hblank
      obtain ⟨range, hrange, hinside⟩ := exists_range_of_coveredBy hblank
      have hrest : range ∈ CapitalRun.apartRanges := by simp [CapitalRun.apartRanges, hrange]
      have := hapart range hrest
      omega
    · rw [← Bool.not_eq_true]
      intro hpunctuation
      have hmarks : " ,.!?".toList.all fun mark => CapitalRun.apartRanges.any fun range =>
          decide (range.1 ≤ mark.toNat ∧ mark.toNat ≤ range.2) := by decide
      obtain ⟨range, hrange, hinside⟩ := List.any_eq_true.mp
        (List.all_eq_true.mp hmarks c (List.contains_iff_mem.mp hpunctuation))
      rw [decide_eq_true_eq] at hinside
      have := hapart range hrange
      omega

/-- Neither a blank nor a punctuation sign is the small form of another
character. -/
theorem isMeaningful_lowerCase {text : List Char} (h : IsMeaningful text) :
    IsMeaningful (lowerCase text) := by
  obtain ⟨c, hc, hmeaning⟩ := h
  obtain ⟨small, hsmall, casedBefore, rest, hstep⟩ := exists_mem_lowerCase hc
  refine ⟨small, hsmall, ?_⟩
  have hspecial : ∀ d ∈ ['σ', 'ς', 'i', Char.ofNat 0x307],
      isBlank d = false ∧ isPunctuation d = false := by
    have hall : ['σ', 'ς', 'i', Char.ofNat 0x307].all fun d => !isBlank d && !isPunctuation d := by
      decide
    intro d hd
    simpa using List.all_eq_true.mp hall d hd
  have hkept : ∀ d ∈ (lowerStep casedBefore c rest).2,
      isBlank d = false ∧ isPunctuation d = false := by
    refine forall_mem_lowerStep (fun _ => ⟨hspecial 'σ' (by simp), hspecial 'ς' (by simp)⟩)
      (fun _ => ⟨hspecial 'i' (by simp), hspecial _ (by simp)⟩) (fun _ hdotted => ?_)
      casedBefore rest
    have hapart := (meaningful_iff hdotted).mp hmeaning
    refine (meaningful_iff (isCaseless_lowerCaseOf hdotted).ne_dotted).mpr fun range hrange => ?_
    exact apart_lowerCaseOf hrange (hapart range hrange)
  exact hkept small hstep

theorem mem_remainder {text : String} {c : Char} (hc : c ∈ (remainder text).toList) :
    c ∈ joinWords (words (lowerCase text.toList)) := by
  obtain ⟨front, tail, _, _, hparts⟩ :=
    exists_eq_append_trim isPunctuation (joinWords (words (lowerCase text.toList)))
  rw [remainder, String.toList_ofList] at hc
  rw [hparts, List.mem_append, List.mem_append]
  exact Or.inl (Or.inr hc)

section

variable {text : String} (h : IsMeaningful text.toList)

include h

theorem tokenize_remainder : Phrase.tokenize (remainder text) = Phrase.tokenize text := by
  obtain ⟨c, hc, hblank, hpunctuation⟩ := isMeaningful_lowerCase h
  have hcaseless : ∀ d ∈ (remainder text).toList, IsCaseless d := by
    intro d hd
    rcases mem_joinWords_words (mem_remainder hd) with rfl | ⟨hlower, _⟩
    · exact isCaseless_of_isBlank (by decide)
    · exact isCaseless_of_mem_lowerCase hlower
  rw [Phrase.tokenize, Phrase.tokenize, Phrase.normalCharacters_eq, Phrase.normalCharacters_eq,
    lowerCase_of_caseless hcaseless, remainder, String.toList_ofList]
  exact Phrase.tokensOf_trim (by decide) (fun _ => isIdle_of_isPunctuation) hc hblank hpunctuation

/-- A character of the text that is neither blank nor punctuation is left. -/
theorem exists_mem_remainder : ∃ c ∈ (remainder text).toList, isBlank c = false := by
  obtain ⟨c, hc, hblank, hpunctuation⟩ := isMeaningful_lowerCase h
  obtain ⟨word, hword, hmem⟩ := exists_mem_words hc hblank
  have hne := trim_ne_nil (mem_joinWords_of_mem hword hmem) hpunctuation
  obtain ⟨first, rest, hfirst⟩ := List.exists_cons_of_ne_nil hne
  have hleft : first ∈ (remainder text).toList := by
    rw [remainder, String.toList_ofList, hfirst]
    exact List.mem_cons_self
  refine ⟨first, hleft, ?_⟩
  rcases mem_joinWords_words (mem_remainder hleft) with rfl | ⟨_, hplain⟩
  · have hend := (trim_ends isPunctuation (joinWords (words (lowerCase text.toList)))).1 ' '
      (by rw [hfirst]; rfl)
    revert hend
    decide
  · exact hplain

theorem remainder_ne_empty : remainder text ≠ "" := by
  obtain ⟨c, hc, _⟩ := exists_mem_remainder h
  intro hempty
  rw [hempty] at hc
  cases hc

theorem parse_remainder :
    (Command.parse (remainder text)).map (Command.reworded text) = Command.parse text :=
  Phrase.parse_of_itemsOf (congrArg Phrase.itemsOf (tokenize_remainder h))

end

/-! ### Addresses -/

section

variable {wakeWords : List String} {text : String} (hunnamed : isNamed wakeWords text = false)

include hunnamed

theorem address_of_armed (hwake : wakeWords ≠ []) :
    address wakeWords true text = (.phrase text, false) := by
  rw [address, if_neg (by simpa using hwake), (strip?_eq_none_iff wakeWords text).2 hunnamed]
  rfl

variable (hletters : ∀ word ∈ wakeWords, ∀ c ∈ word.toList, c.isAlpha)

include hletters

/-- A space in front of a text does not make a wake word stand in it. -/
theorem isNamed_space_append : isNamed wakeWords (" " ++ text) = false := by
  have hlower : lowerCase (" " ++ text).toList = ' ' :: lowerCase text.toList := by
    rw [String.toList_append]
    exact lowerCase_append_space [] text.toList
  have hspace : isWordAt (some ' ') = isWordAt none := by decide
  rw [isNamed, List.any_eq_false] at hunnamed ⊢
  intro word hword
  have hpattern := isLetter_of_mem_patternOf (hletters word hword)
  have hfirst : standsAt (patternOf word) none ([] ++ ' ' :: lowerCase text.toList) = false := by
    rw [standsAt_append (not_spans_of_isLetter hpattern (by decide) _ _) hspace, standsAt_nil]
    exact Bool.and_false _
  rw [List.nil_append] at hfirst
  rw [hlower, standsIn, hfirst, Bool.false_or, standsIn_congr hspace]
  exact hunnamed word hword

variable {wakeWord : String} (hmem : wakeWord ∈ wakeWords) (hne : wakeWord ≠ "")

include hmem hne

theorem address_wakeWord_append (hmeaning : IsMeaningful text.toList) (armed : Bool) :
    address wakeWords armed (wakeWord ++ " " ++ text) = (.phrase (remainder text), false) := by
  have hrest : (remainder text).isEmpty = false := by
    rw [← Bool.not_eq_true, String.isEmpty_iff]
    exact remainder_ne_empty hmeaning
  rw [address, if_neg (by simpa using List.ne_nil_of_mem hmem),
    strip?_wakeWord_append hletters hmem hne hunnamed]
  dsimp only
  rw [hrest]
  rfl

end

theorem address_wakeWord {wakeWords : List String}
    (hletters : ∀ word ∈ wakeWords, ∀ c ∈ word.toList, c.isAlpha) {wakeWord : String}
    (hmem : wakeWord ∈ wakeWords) (hne : wakeWord ≠ "") (armed : Bool) :
    address wakeWords armed wakeWord = (.wakeWordAlone, true) := by
  rw [address, if_neg (by simpa using List.ne_nil_of_mem hmem),
    strip?_wakeWord hletters hmem hne]
  rfl

end SpokenCalculator.WakeWord
