import Mathlib.Data.List.Infix
import SpokenCalculator.Phrase.Normal
import SpokenCalculator.Proofs.Text.Plain

namespace SpokenCalculator

namespace Text

theorem transduceInContext_eq_self {step : Option Char → Char → List Char → List Char}
    {text : List Char} (h : ∀ c ∈ text, ∀ before rest, step before c rest = [c]) :
    transduceInContext step text = text := by
  have hall : ∀ before : Option Char,
      transduce (fun previous c rest => (some c, step previous c rest)) before text = text := by
    induction text with
    | nil => exact fun _ => rfl
    | cons c rest ih =>
        intro before
        rw [transduce_cons, h c List.mem_cons_self]
        dsimp only
        rw [ih fun d hd => h d (List.mem_cons_of_mem c hd)]
        rfl
  exact hall none

theorem replaceWhole_eq_self {phrase text : List Char} (hne : phrase ≠ [])
    (h : ¬ phrase <:+: text) (replacement : List Char) :
    replaceWhole phrase replacement text = text := by
  have hall : ∀ before : Option Char,
      transduce (replacementStep phrase replacement) ⟨before, 0⟩ text = text := by
    induction text with
    | nil => exact fun _ => rfl
    | cons c rest ih =>
        intro before
        rw [List.infix_cons_iff, not_or] at h
        have hprefix : phrase.isPrefixOf (c :: rest) = false := by
          rw [← Bool.not_eq_true, List.isPrefixOf_iff_prefix]
          exact h.1
        have hstands : standsAt phrase before (c :: rest) = false := by
          rw [standsAt, hprefix]
          rfl
        rw [transduce_cons]
        simp only [replacementStep, hstands, Bool.false_eq_true, if_false]
        rw [ih h.2]
        rfl
  have hempty : phrase.isEmpty = false := by simpa using hne
  rw [replaceWhole, hall none, hempty]
  simp

end Text

namespace Phrase

open Text

def unhyphened (c : Char) : Char := if c == '-' then ' ' else c

/-- Every hyphen stands between two letters. -/
def hyphensInside : Option Char → List Char → Bool
  | _, [] => true
  | before, c :: rest =>
      (c != '-' || before.any isLetter && nextIsLetter rest) && hyphensInside (some c) rest

theorem partHyphenated_eq_map {text : List Char} (h : hyphensInside none text) :
    partHyphenated text = text.map unhyphened := by
  have hall : ∀ before : Option Char, hyphensInside before text →
      transduce (fun previous c rest => (some c,
        if c == '-' && previous.any isLetter && nextIsLetter rest then [' '] else [c]))
        before text = text.map unhyphened := by
    clear h
    induction text with
    | nil => exact fun _ _ => rfl
    | cons c rest ih =>
        intro before h
        rw [hyphensInside, Bool.and_eq_true] at h
        rw [transduce_cons]
        dsimp only
        rw [ih (some c) h.2, List.map_cons]
        by_cases hhyphen : c = '-'
        · have hinside : (before.any isLetter && nextIsLetter rest) = true := by
            simpa [hhyphen] using h.1
          simp only [Bool.and_eq_true] at hinside
          simp [hhyphen, unhyphened, hinside]
        · simp [hhyphen, unhyphened]
  exact hall none h

/-- A hyphen behind no letter stays. -/
theorem partHyphenated_eq_self {text : List Char} (h : ∀ c, isLetter c → ¬ [c, '-'] <:+: text) :
    partHyphenated text = text := by
  have hall : ∀ before : Option Char,
      (∀ c, isLetter c → ¬ [c, '-'] <:+: before.toList ++ text) →
      transduce (fun previous c rest => (some c,
        if c == '-' && previous.any isLetter && nextIsLetter rest then [' '] else [c]))
        before text = text := by
    clear h
    induction text with
    | nil => exact fun _ _ => rfl
    | cons c rest ih =>
        intro before h
        have hrest : ∀ d, isLetter d → ¬ [d, '-'] <:+: (some c).toList ++ rest :=
          fun d hd hpair => h d hd (hpair.trans (List.suffix_append before.toList _).isInfix)
        have hstays : (c == '-' && before.any isLetter && nextIsLetter rest) = false := by
          rw [Bool.and_assoc, Bool.and_eq_false_iff, beq_eq_false_iff_ne]
          refine or_iff_not_imp_left.2 fun hhyphen => ?_
          obtain rfl := not_not.1 hhyphen
          cases before with
          | none => rfl
          | some previous =>
              have hletter : isLetter previous = false := by
                rw [← Bool.not_eq_true]
                exact fun hletter => h previous hletter ⟨[], rest, rfl⟩
              rw [Option.any_some, hletter, Bool.false_and]
        rw [transduce_cons]
        dsimp only
        rw [ih (some c) hrest, hstays]
        rfl
  exact hall none h

theorem partHyphenated_of_notMem {text : List Char} (h : '-' ∉ text) :
    partHyphenated text = text :=
  partHyphenated_eq_self fun _ _ hpair => h (hpair.mem (by simp))

theorem hyphensInside_append_space (before : Option Char) (first second : List Char) :
    hyphensInside before (first ++ ' ' :: second) =
      (hyphensInside before first && hyphensInside none second) := by
  have hspace : ∀ second : List Char,
      hyphensInside (some ' ') second = hyphensInside none second := by
    intro second
    cases second with
    | nil => rfl
    | cons c rest => simp [hyphensInside, isLetter]
  induction first generalizing before with
  | nil =>
      have hnone : hyphensInside before (' ' :: second) = hyphensInside (some ' ') second := rfl
      rw [List.nil_append, hnone, hspace]
      rfl
  | cons c rest ih =>
      have hnext : nextIsLetter (rest ++ ' ' :: second) = nextIsLetter rest := by
        cases rest <;> rfl
      rw [List.cons_append, hyphensInside, hyphensInside, ih, hnext, Bool.and_assoc]

theorem hyphensInside_joinWords {parts : List (List Char)}
    (h : ∀ part ∈ parts, hyphensInside none part) : hyphensInside none (joinWords parts) := by
  induction parts with
  | nil => rfl
  | cons part others ih =>
      have hpart := h part List.mem_cons_self
      cases others with
      | nil => simpa [joinWords] using hpart
      | cons next others =>
          rw [joinWords_cons_cons, hyphensInside_append_space, hpart, Bool.true_and]
          exact ih fun other hother => h other (List.mem_cons_of_mem part hother)

theorem joinDigitGroups_eq_self {text : List Char} (h : ',' ∉ text) :
    joinDigitGroups text = text := by
  refine transduceInContext_eq_self fun c hc before rest => ?_
  have hcomma : c ≠ ',' := by
    rintro rfl
    exact h hc
  simp [hcomma]

theorem replaceExpressions_eq_self {text : List Char}
    (h : ∀ expression ∈ expressions, ¬ expression.1.toList <:+: text) :
    replaceExpressions text = text := by
  have hne : ∀ expression ∈ expressions, expression.1.toList ≠ [] := by
    decide
  have hall : ∀ pairs : List (String × String), (∀ pair ∈ pairs, pair ∈ expressions) →
      pairs.foldl (fun text pair => replaceWhole pair.1.toList pair.2.toList text) text = text := by
    intro pairs hpairs
    induction pairs with
    | nil => rfl
    | cons pair others ih =>
        have hmem := hpairs pair List.mem_cons_self
        rw [List.foldl_cons, replaceWhole_eq_self (hne pair hmem) (h pair hmem)]
        exact ih fun other hother => hpairs other (List.mem_cons_of_mem pair hother)
  exact hall expressions fun _ hmem => hmem

/-- Each expression that is replaced has one of two pairs of letters. -/
theorem exists_pair_of_mem_expressions :
    ∀ expression ∈ expressions,
      ['b', 'y'] <:+: expression.1.toList ∨ ['w', 'h'] <:+: expression.1.toList := by
  decide +kernel

theorem replaceExpressions_joinWords {parts : List (List Char)}
    (hpairs : ∀ part ∈ parts, ¬ ['b', 'y'] <:+: part ∧ ¬ ['w', 'h'] <:+: part) :
    replaceExpressions (joinWords parts) = joinWords parts := by
  refine replaceExpressions_eq_self fun expression hexpression hpair => ?_
  rcases exists_pair_of_mem_expressions expression hexpression with hby | hwh
  · obtain ⟨part, hpart, hby⟩ := pair_infix_joinWords (by decide) (by decide) (hby.trans hpair)
    exact (hpairs part hpart).1 hby
  · obtain ⟨part, hpart, hwh⟩ := pair_infix_joinWords (by decide) (by decide) (hwh.trans hpair)
    exact (hpairs part hpart).2 hwh

/-- A word that is in normal form: no hyphen parts it, and it is no part of an
expression. -/
structure IsNormal (part : List Char) : Prop where
  isWord : IsWord part
  plain : ∀ c ∈ part, IsPlain c ∧ c ≠ ','
  unparted : ∀ c, isLetter c → ¬ [c, '-'] <:+: part
  without_pairs : ¬ ['b', 'y'] <:+: part ∧ ¬ ['w', 'h'] <:+: part

/-- Words in normal form stay as they are when single spaces are between them. -/
theorem normalCharacters_eq_self {parts : List (List Char)}
    (hparts : ∀ part ∈ parts, IsNormal part) :
    normalCharacters (joinWords parts) = joinWords parts := by
  have hplain : ∀ c ∈ joinWords parts, IsPlain c ∧ c ≠ ',' := by
    intro c hc
    rcases mem_joinWords hc with rfl | ⟨part, hpart, hc⟩
    · exact ⟨.inl (by decide), by decide⟩
    · exact (hparts part hpart).plain c hc
  have hunparted : ∀ c, isLetter c → ¬ [c, '-'] <:+: joinWords parts := by
    intro c hc hpair
    have hspace : c ≠ ' ' := by
      rintro rfl
      exact absurd hc (by decide)
    obtain ⟨part, hpart, hpair⟩ := pair_infix_joinWords hspace (by decide) hpair
    exact (hparts part hpart).unparted c hc hpair
  rw [normalCharacters, lowerCase_eq_self fun c hc => (hplain c hc).1,
    partHyphenated_eq_self hunparted, joinDigitGroups_eq_self fun h => (hplain ',' h).2 rfl,
    spaceSingly, words_joinWords fun part hpart => (hparts part hpart).isWord,
    replaceExpressions_joinWords fun part hpart => (hparts part hpart).without_pairs]

theorem normalCharacters_of_blank {text : List Char} (hblank : ∀ c ∈ text, isBlank c) :
    normalCharacters text = [] := by
  have hmark : ∀ mark : Char, isBlank mark = false → mark ∉ text := fun mark hmark hmem => by
    rw [hblank mark hmem] at hmark
    cases hmark
  rw [normalCharacters, lowerCase_of_caseless fun c hc => isCaseless_of_isBlank (hblank c hc),
    partHyphenated_of_notMem (hmark '-' rfl), joinDigitGroups_eq_self (hmark ',' rfl), spaceSingly,
    words_eq_nil hblank]
  exact replaceExpressions_joinWords (List.forall_mem_nil _)

def unhyphenedWords (part : List Char) : List (List Char) := words (part.map unhyphened)

structure IsSimple (word : List Char) : Prop where
  ne_nil : word ≠ []
  letters : ∀ c ∈ word, isLetter c
  without_pairs : ¬ ['b', 'y'] <:+: word ∧ ¬ ['w', 'h'] <:+: word

instance (word : List Char) : Decidable (IsSimple word) :=
  decidable_of_iff
    (word ≠ [] ∧ word.all isLetter ∧ ¬ ['b', 'y'] <:+: word ∧ ¬ ['w', 'h'] <:+: word)
    ⟨fun h => ⟨h.1, List.all_eq_true.mp h.2.1, h.2.2⟩,
      fun h => ⟨h.ne_nil, List.all_eq_true.mpr h.letters, h.without_pairs⟩⟩

/-- Simple words with hyphens between them. -/
structure IsSpelled (part : List Char) : Prop where
  letters : ∀ c ∈ part, isLetter c ∨ c = '-'
  inside : hyphensInside none part
  simple : ∀ word ∈ unhyphenedWords part, IsSimple word

theorem ne_hyphen_of_isLetter {c : Char} (h : isLetter c) : c ≠ '-' := by
  rintro rfl
  exact absurd h (by decide)

theorem hyphensInside_of_letters {word : List Char} (h : ∀ c ∈ word, isLetter c)
    (before : Option Char) : hyphensInside before word := by
  induction word generalizing before with
  | nil => rfl
  | cons c rest ih =>
      have hc := ne_hyphen_of_isLetter (h c List.mem_cons_self)
      simp [hyphensInside, hc, ih fun d hd => h d (List.mem_cons_of_mem c hd)]

theorem hyphensInside_append_hyphen {word behind : List Char} {before : Option Char}
    (hword : ∀ c ∈ word, isLetter c) (hbefore : word = [] → before.any isLetter)
    (hbehind : behind ≠ []) (hletters : ∀ c ∈ behind, isLetter c) :
    hyphensInside before (word ++ '-' :: behind) := by
  induction word generalizing before with
  | nil =>
      obtain ⟨c, rest, rfl⟩ := List.exists_cons_of_ne_nil hbehind
      have hnext : nextIsLetter (c :: rest) = true := hletters c List.mem_cons_self
      have hrest := hyphensInside_of_letters hletters (some '-')
      rw [List.nil_append, hyphensInside, hbefore rfl, hnext, hrest]
      rfl
  | cons c rest ih =>
      have hc : isLetter c = true := hword c List.mem_cons_self
      have hne := ne_hyphen_of_isLetter hc
      have hrest : hyphensInside (some c) (rest ++ '-' :: behind) :=
        ih (fun d hd => hword d (List.mem_cons_of_mem c hd)) fun _ => hc
      rw [List.cons_append, hyphensInside, hrest, Bool.and_true]
      simp [hne]

namespace IsSimple

variable {word other : List Char}

theorem unhyphenedWords_eq (h : IsSimple word) : unhyphenedWords word = [word] := by
  have hmap : word.map unhyphened = word := by
    refine (List.map_congr_left fun c hc => ?_).trans (List.map_id _)
    rw [unhyphened, if_neg (by simpa using ne_hyphen_of_isLetter (h.letters c hc))]
    rfl
  rw [unhyphenedWords, hmap]
  exact words_eq_singleton h.ne_nil fun c hc => isBlank_of_isLetter (h.letters c hc)

theorem isNormal (h : IsSimple word) : IsNormal word where
  isWord := ⟨h.ne_nil, fun c hc => isBlank_of_isLetter (h.letters c hc)⟩
  plain c hc := by
    refine ⟨isPlain_of_isLetter (h.letters c hc), ?_⟩
    rintro rfl
    exact absurd (h.letters _ hc) (by decide)
  unparted _ _ hpair := ne_hyphen_of_isLetter (h.letters '-' (hpair.mem (by simp))) rfl
  without_pairs := h.without_pairs

theorem isSpelled (h : IsSimple word) : IsSpelled word where
  letters c hc := .inl (h.letters c hc)
  inside := hyphensInside_of_letters h.letters none
  simple := by
    rw [h.unhyphenedWords_eq, List.forall_mem_singleton]
    exact h

/-- A compound word is heard as the two words around its hyphen. -/
theorem unhyphenedWords_hyphen (h : IsSimple word) (hother : IsSimple other) :
    unhyphenedWords (word ++ '-' :: other) = [word, other] := by
  have hsplit : unhyphenedWords (word ++ '-' :: other) =
      unhyphenedWords word ++ unhyphenedWords other := by
    rw [unhyphenedWords, List.map_append, List.map_cons]
    exact words_append_blank (by decide) _ _
  rw [hsplit, h.unhyphenedWords_eq, hother.unhyphenedWords_eq]
  rfl

theorem isSpelled_hyphen (h : IsSimple word) (hother : IsSimple other) :
    IsSpelled (word ++ '-' :: other) where
  letters c hc := by
    rcases List.mem_append.mp hc with hc | hc
    · exact .inl (h.letters c hc)
    · rcases List.mem_cons.mp hc with rfl | hc
      · exact .inr rfl
      · exact .inl (hother.letters c hc)
  inside := hyphensInside_append_hyphen h.letters (fun hnil => absurd hnil h.ne_nil)
    hother.ne_nil hother.letters
  simple := by
    rw [h.unhyphenedWords_hyphen hother, List.forall_mem_cons, List.forall_mem_singleton]
    exact ⟨h, hother⟩

end IsSimple

section

variable {parts : List (List Char)} (hparts : ∀ part ∈ parts, IsSpelled part)

include hparts

theorem isPlain_joinWords : ∀ c ∈ joinWords parts, IsPlain c ∧ c ≠ ',' := by
  intro c hc
  rcases mem_joinWords hc with rfl | ⟨part, hpart, hc⟩
  · exact ⟨.inl (by decide), by decide⟩
  · rcases (hparts part hpart).letters c hc with hletter | rfl
    · refine ⟨isPlain_of_isLetter hletter, ?_⟩
      rintro rfl
      exact absurd hletter (by decide)
    · exact ⟨.inl (by decide), by decide⟩

/-- The normal form of spelled parts are the words of each of them. -/
theorem normalCharacters_joinWords :
    normalCharacters (joinWords parts) = joinWords (parts.flatMap unhyphenedWords) := by
  have hplain := isPlain_joinWords hparts
  have hcomma : ',' ∉ (joinWords parts).map unhyphened := by
    intro hmem
    obtain ⟨c, hc, heq⟩ := List.mem_map.mp hmem
    by_cases hhyphen : c = '-'
    · subst hhyphen
      exact absurd heq (by decide)
    · rw [unhyphened, if_neg (by simpa using hhyphen)] at heq
      exact (hplain c hc).2 heq
  have hwords : words ((joinWords parts).map unhyphened) = parts.flatMap unhyphenedWords := by
    rw [map_joinWords rfl, words_joinWords_flatMap, List.flatMap_map]
    rfl
  have hpair : ∀ word ∈ parts.flatMap unhyphenedWords,
      ¬ ['b', 'y'] <:+: word ∧ ¬ ['w', 'h'] <:+: word := by
    intro word hword
    obtain ⟨part, hpart, hword⟩ := List.mem_flatMap.mp hword
    exact ((hparts part hpart).simple word hword).without_pairs
  rw [normalCharacters, lowerCase_eq_self fun c hc => (hplain c hc).1,
    partHyphenated_eq_map (hyphensInside_joinWords fun part hpart => (hparts part hpart).inside),
    joinDigitGroups_eq_self hcomma, spaceSingly, hwords, replaceExpressions_joinWords hpair]

end

end Phrase

end SpokenCalculator
