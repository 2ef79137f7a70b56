import SpokenCalculator.Proofs.Text.Parting
import SpokenCalculator.Proofs.Text.Spacing

namespace SpokenCalculator.Text

open Phrase (isLetter)

theorem isWordCharacter_of_isLetter {c : Char} (h : isLetter c) : isWordCharacter c :=
  forall_isLetter isWordCharacter (by decide) h

theorem isWordCharacter_of_isBlank {c : Char} (h : isBlank c) : isWordCharacter c = false := by
  have hapart : blankRanges.all fun blanks => letterOrNumberRanges.all fun range =>
      decide (blanks.2 < range.1 ∨ range.2 < blanks.1) := by decide +kernel
  obtain ⟨blanks, hblanks, hcode⟩ := exists_range_of_coveredBy h
  rw [isWordCharacter, Bool.or_eq_false_iff]
  constructor
  · rw [beq_eq_false_iff_ne]
    rintro rfl
    revert h
    decide
  · rw [← Bool.not_eq_true]
    intro hword
    obtain ⟨range, hrange, hletter⟩ := exists_range_of_coveredBy hword
    have hpair := List.all_eq_true.mp (List.all_eq_true.mp hapart blanks hblanks) range hrange
    rw [decide_eq_true_eq] at hpair
    omega

/-! ### Phrases that do not stand in a text -/

theorem standsIn_congr {before before' : Option Char} (h : isWordAt before = isWordAt before')
    (phrase text : List Char) : standsIn phrase before text = standsIn phrase before' text := by
  cases text with
  | nil => exact standsAt_congr h phrase []
  | cons c rest => rw [standsIn, standsIn, standsAt_congr h]

theorem standsIn_of_standsAt {phrase : List Char} {before : Option Char} {text : List Char}
    (h : standsAt phrase before text) : standsIn phrase before text := by
  cases text with
  | nil => exact h
  | cons c rest =>
      rw [standsIn, h]
      rfl

theorem replaceWhole_of_not_standsIn {phrase text : List Char}
    (h : standsIn phrase none text = false) (replacement : List Char) :
    replaceWhole phrase replacement text = text := by
  have hall : ∀ (before : Option Char) (text : List Char), standsIn phrase before text = false →
      transduce (replacementStep phrase replacement) ⟨before, 0⟩ text = text ∧
        standsAt phrase (lastOr before text) [] = false := by
    intro before text
    induction text generalizing before with
    | nil => exact fun hnone => ⟨rfl, hnone⟩
    | cons c rest ih =>
        intro hnone
        rw [standsIn, Bool.or_eq_false_iff] at hnone
        obtain ⟨hrest, hend⟩ := ih (some c) hnone.2
        have hstep : replacementStep phrase replacement ⟨before, 0⟩ c rest =
            (⟨some c, 0⟩, [c]) := by
          simp [replacementStep, hnone.1]
        rw [transduce_cons, hstep, hrest, lastOr_cons]
        exact ⟨rfl, hend⟩
  obtain ⟨hsame, hend⟩ := hall none text h
  rw [standsAt_nil, lastOr_none] at hend
  rw [replaceWhole, hsame, hend, if_neg Bool.false_ne_true, List.append_nil]

/-! ### Words -/

section

variable {phrase : List Char} (hletters : ∀ c ∈ phrase, isLetter c)

include hletters

theorem not_spans_of_isLetter {blank : Char} (hblank : isBlank blank) (text behind : List Char) :
    ¬ Spans phrase text (blank :: behind) := by
  rintro ⟨front, tail, hphrase, hne, _, htail⟩
  obtain ⟨c, rest, rfl⟩ := List.exists_cons_of_ne_nil hne
  obtain rfl := (List.cons_prefix_cons.mp htail).1
  have hletter := hletters c (by rw [hphrase]; exact List.mem_append_right _ List.mem_cons_self)
  rw [isBlank_of_isLetter hletter] at hblank
  cases hblank

/-- The words that are left when a phrase of letters is replaced by a space are
found word by word. -/
theorem words_replaceWhole (text : List Char) :
    words (replaceWhole phrase [' '] text) =
      (words text).flatMap fun word => words (replaceWhole phrase [' '] word) := by
  refine eq_flatMap_words (f := fun text => words (replaceWhole phrase [' '] text)) ?_ ?_ text
  · have hempty : replaceWhole phrase [' '] [] = [] := by
      have hedge : isWordEdge none none = false := rfl
      rw [replaceWhole, List.getLast?_nil, hedge, Bool.and_false]
      rfl
    rw [hempty]
    rfl
  · intro blank hblank text behind
    rw [replaceWhole_append (isWordCharacter_of_isBlank hblank)
      (not_spans_of_isLetter hletters hblank text behind), words_append_blank hblank]

/-- A phrase of letters stands in a word of letters only if it is the word. -/
theorem standsIn_word (hne : phrase ≠ []) {word : List Char} (hword : ∀ c ∈ word, isLetter c)
    (hother : phrase ≠ word) : standsIn phrase none word = false := by
  have hempty : phrase.isEmpty = false := by simpa using hne
  have hnil : ∀ before, standsAt phrase before [] = false := fun before => by
    rw [standsAt_nil, hempty, Bool.false_and]
  -- behind a letter no word begins
  have hinside : ∀ {before : Option Char} {word : List Char}, isWordAt before →
      (∀ c ∈ word, isLetter c) → standsIn phrase before word = false := by
    intro before word
    induction word generalizing before with
    | nil => exact fun _ _ => hnil before
    | cons c rest ih =>
        intro hbefore hword
        obtain ⟨hc, hrest⟩ := List.forall_mem_cons.mp hword
        have hwordC := isWordCharacter_of_isLetter hc
        have hedge : isWordEdge before (c :: rest).head? = false := by
          rw [isWordEdge, hbefore, List.head?_cons, isWordAt, hwordC]
          rfl
        rw [standsIn, standsAt, hedge, Bool.and_false, Bool.false_and, Bool.false_or]
        exact ih hwordC hrest
  cases word with
  | nil => exact hnil none
  | cons c rest =>
      obtain ⟨hc, hrest⟩ := List.forall_mem_cons.mp hword
      rw [standsIn, @hinside (some c) rest (isWordCharacter_of_isLetter hc) hrest, Bool.or_false,
        ← Bool.not_eq_true]
      intro hstands
      rw [standsAt, Bool.and_eq_true, Bool.and_eq_true, List.isPrefixOf_iff_prefix] at hstands
      obtain ⟨⟨⟨behind, hbehind⟩, _⟩, hend⟩ := hstands
      rw [← hbehind, List.drop_left] at hend
      cases behind with
      | nil => exact hother (by rwa [List.append_nil] at hbehind)
      | cons next others =>
          obtain ⟨last, hlast⟩ : ∃ last, phrase.getLast? = some last :=
            ⟨_, List.getLast?_eq_some_getLast hne⟩
          have hnext : isLetter next := hword next (by
            rw [← hbehind]
            exact List.mem_append_right phrase List.mem_cons_self)
          have hlastLetter := hletters last (List.mem_of_getLast? hlast)
          rw [isWordEdge, lastOr, hlast, List.head?_cons, isWordAt, isWordAt,
            isWordCharacter_of_isLetter hlastLetter, isWordCharacter_of_isLetter hnext] at hend
          cases hend

theorem standsAt_self (hne : phrase ≠ []) : standsAt phrase none phrase := by
  obtain ⟨last, hlast⟩ : ∃ last, phrase.getLast? = some last :=
    ⟨_, List.getLast?_eq_some_getLast hne⟩
  obtain ⟨first, hfirst⟩ : ∃ first, phrase.head? = some first :=
    ⟨_, List.head?_eq_some_head hne⟩
  have hfirstLetter := hletters first (List.mem_of_mem_head? hfirst)
  have hlastLetter := hletters last (List.mem_of_getLast? hlast)
  rw [standsAt, List.drop_length, isWordEdge, isWordEdge, lastOr, hlast, hfirst, isWordAt,
    isWordAt, isWordCharacter_of_isLetter hfirstLetter, isWordCharacter_of_isLetter hlastLetter,
    List.isPrefixOf_iff_prefix.mpr (List.prefix_refl phrase)]
  rfl

theorem replaceWhole_self (hne : phrase ≠ []) (replacement : List Char) :
    replaceWhole phrase replacement phrase = replacement := by
  have hpassed : ∀ (before : Option Char) (text : List Char),
      transduce (replacementStep phrase replacement) ⟨before, text.length⟩ text = [] := by
    intro before text
    induction text generalizing before with
    | nil => rfl
    | cons c rest ih =>
        rw [transduce_cons, List.length_cons]
        exact ih (some c)
  have hempty : phrase.isEmpty = false := by simpa using hne
  have hstands := standsAt_self hletters hne
  obtain ⟨c, rest, rfl⟩ := List.exists_cons_of_ne_nil hne
  have hstep : replacementStep (c :: rest) replacement ⟨none, 0⟩ c rest =
      (⟨some c, rest.length⟩, replacement) := by
    simp only [replacementStep, hstands, if_true, List.length_cons]
  rw [replaceWhole, hempty, Bool.false_and, if_neg Bool.false_ne_true, List.append_nil,
    transduce_cons, hstep, hpassed, List.append_nil]

end

/-- Nothing is replaced inside a word, but a space is put in front of it and
behind it. -/
theorem words_replaceWhole_nil {word : List Char} (hne : word ≠ [])
    (hword : ∀ c ∈ word, isLetter c) : words (replaceWhole [] [' '] word) = [word] := by
  have hinside : ∀ {before : Char} {word : List Char}, isLetter before →
      (∀ c ∈ word, isLetter c) →
      transduce (replacementStep [] [' ']) ⟨some before, 0⟩ word = word := by
    intro before word
    induction word generalizing before with
    | nil => exact fun _ _ => rfl
    | cons c rest ih =>
        intro hbefore hword
        obtain ⟨hc, hrest⟩ := List.forall_mem_cons.mp hword
        have hedge : isWordEdge (some before) (some c) = false := by
          rw [isWordEdge, isWordAt, isWordAt, isWordCharacter_of_isLetter hbefore,
            isWordCharacter_of_isLetter hc]
          rfl
        have hstep : replacementStep [] [' '] ⟨some before, 0⟩ c rest = (⟨some c, 0⟩, [c]) := by
          simp [replacementStep, standsAt, hedge]
        rw [transduce_cons, hstep, ih hc hrest]
        rfl
  obtain ⟨c, rest, rfl⟩ := List.exists_cons_of_ne_nil hne
  obtain ⟨hc, hrest⟩ := List.forall_mem_cons.mp hword
  have hplain : ∀ d ∈ c :: rest, isBlank d = false := fun d hd => isBlank_of_isLetter (hword d hd)
  have hedge : isWordEdge none (some c) = true := by
    rw [isWordEdge, isWordAt, isWordAt, isWordCharacter_of_isLetter hc]
    rfl
  have hstep : replacementStep [] [' '] ⟨none, 0⟩ c rest = (⟨some c, 0⟩, [' ', c]) := by
    simp [replacementStep, standsAt, lastOr, hedge]
  have hlast : isWordEdge (c :: rest).getLast? none = true := by
    obtain ⟨last, hlast⟩ : ∃ last, (c :: rest).getLast? = some last :=
      ⟨_, List.getLast?_eq_some_getLast hne⟩
    rw [hlast, isWordEdge, isWordAt, isWordAt,
      isWordCharacter_of_isLetter (hword last (List.mem_of_getLast? hlast))]
    rfl
  have hspaced : replaceWhole [] [' '] (c :: rest) = ' ' :: ((c :: rest) ++ ' ' :: []) := by
    rw [replaceWhole, transduce_cons, hstep, hinside hc hrest, hlast]
    rfl
  rw [hspaced, words_cons_blank (by decide), words_append_blank (by decide),
    words_eq_singleton hne hplain]
  rfl

/-- Replacing a phrase of letters by a space makes one word of letters
disappear and no other. -/
theorem words_replaceWhole_word {phrase word : List Char} (hletters : ∀ c ∈ phrase, isLetter c)
    (hne : word ≠ []) (hword : ∀ c ∈ word, isLetter c) :
    words (replaceWhole phrase [' '] word) = if phrase = word then [] else [word] := by
  by_cases hsame : phrase = word
  · subst hsame
    rw [if_pos rfl, replaceWhole_self hletters hne]
    decide
  · rw [if_neg hsame]
    by_cases hempty : phrase = []
    · rw [hempty]
      exact words_replaceWhole_nil hne hword
    · rw [replaceWhole_of_not_standsIn (standsIn_word hletters hempty hword hsame)]
      exact words_eq_singleton hne fun c hc => isBlank_of_isLetter (hword c hc)

end SpokenCalculator.Text
