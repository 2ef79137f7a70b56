import SpokenCalculator.Proofs.Phrase.Normal
import SpokenCalculator.Proofs.Phrase.Parting
import SpokenCalculator.Proofs.Text.Letters

namespace SpokenCalculator.Phrase

open Text

/-- A word of small letters that is no word of an expression. -/
structure IsLoose (word : List Char) : Prop where
  ne_nil : word ≠ []
  letters : ∀ c ∈ word, isLetter c
  apart : ∀ expression ∈ expressions, word ∉ words expression.1.toList

instance (word : List Char) : Decidable (IsLoose word) :=
  decidable_of_iff
    (word ≠ [] ∧ word.all isLetter ∧ ∀ expression ∈ expressions, word ∉ words expression.1.toList)
    ⟨fun h => ⟨h.1, List.all_eq_true.mp h.2.1, h.2.2⟩,
      fun h => ⟨h.ne_nil, List.all_eq_true.mpr h.letters, h.apart⟩⟩

section

variable {word : List Char} (hword : IsLoose word)

include hword

theorem words_of_isLoose : words word = [word] :=
  words_eq_singleton hword.ne_nil fun c hc => isBlank_of_isLetter (hword.letters c hc)

theorem mem_words_append_of_stops {behind : List Char} (hstops : Stops behind) :
    word ∈ words (word ++ behind) := by
  have hself := words_of_isLoose hword
  rcases hstops with rfl | ⟨rest, rfl⟩
  · rw [List.append_nil, hself]
    exact List.mem_singleton_self word
  · rw [words_append_blank (by decide), hself]
    exact List.mem_append_left _ (List.mem_singleton_self word)

/-! ### Expressions -/

section

variable {expression : String × String} (hexpression : expression ∈ expressions)

include hexpression

/-- An expression that begins in front of the word and ends behind it or at its
end has the word. -/
theorem not_standsAt_ahead {text tail : List Char} (htail : Stops tail)
    (hbegins : ¬ expression.1.toList <+: text) (before : Option Char) :
    standsAt expression.1.toList before (text ++ ' ' :: (word ++ tail)) = false := by
  rw [← Bool.not_eq_true]
  intro hstands
  refine hword.apart expression hexpression ?_
  rw [standsAt, Bool.and_eq_true, Bool.and_eq_true, List.isPrefixOf_iff_prefix] at hstands
  obtain ⟨⟨⟨more, hmore⟩, _⟩, hend⟩ := hstands
  obtain ⟨part, hsplit, hne, hpart⟩ := exists_tail_of_prefix_append hbegins ⟨more, hmore⟩
  obtain ⟨c, rest, rfl⟩ := List.exists_cons_of_ne_nil hne
  obtain ⟨rfl, -⟩ := List.cons_prefix_cons.mp hpart
  have hlast : isWordAt more.head? = false := by
    rw [← hmore, List.drop_left, isWordEdge,
      isWordAt_lastOr (isWordCharacter_ends hexpression).2] at hend
    simpa using hend
  have hrest : rest ++ more = word ++ tail := by
    rw [hsplit, List.append_assoc, List.append_cancel_left_eq] at hmore
    exact (List.cons.inj hmore).2
  rw [hsplit, words_append_blank (by decide), List.mem_append]
  refine Or.inr ?_
  rcases List.append_eq_append_iff.mp hrest with ⟨left, hleft, rfl⟩ | ⟨left, rfl, rfl⟩
  · -- the expression ends within the word, so at its end
    cases left with
    | nil =>
        rw [List.append_nil] at hleft
        rw [← hleft, words_of_isLoose hword]
        exact List.mem_singleton_self word
    | cons d others =>
        have hd : isLetter d := hword.letters d (by
          rw [hleft]
          exact List.mem_append_right rest List.mem_cons_self)
        cases hlast.symm.trans (isWordCharacter_of_isLetter hd)
  · refine mem_words_append_of_stops hword ?_
    rcases htail with hnil | ⟨later, hlater⟩
    · exact Or.inl (List.append_eq_nil_iff.mp hnil).1
    · cases left with
      | nil => exact Or.inl rfl
      | cons d others => exact Or.inr ⟨others, by rw [(List.cons.inj hlater).1]⟩

/-- An expression that begins in the word and ends behind it has the word. -/
theorem not_standsAt_behind {front rest behind : List Char} (hsplit : word = front ++ rest)
    (hbegins : ¬ expression.1.toList <+: rest) :
    standsAt expression.1.toList front.getLast? (rest ++ ' ' :: behind) = false := by
  rw [← Bool.not_eq_true]
  intro hstands
  refine hword.apart expression hexpression ?_
  rw [standsAt, Bool.and_eq_true, Bool.and_eq_true, List.isPrefixOf_iff_prefix] at hstands
  obtain ⟨⟨hlonger, hstart⟩, _⟩ := hstands
  obtain ⟨part, hparts, hne, hpart⟩ := exists_tail_of_prefix_append hbegins hlonger
  obtain ⟨c, others, rfl⟩ := List.exists_cons_of_ne_nil hne
  obtain ⟨rfl, -⟩ := List.cons_prefix_cons.mp hpart
  have hfirst : isWordAt (rest ++ ' ' :: behind).head? = true := by
    have hhead := (isWordCharacter_ends hexpression).1
    rw [hparts] at hhead
    cases rest with
    | nil =>
        rw [List.nil_append, List.head?_cons, Option.any_some] at hhead
        exact absurd hhead (by decide)
    | cons d rest => exact hhead
  rw [isWordEdge, hfirst] at hstart
  -- no word begins behind a letter, so the expression begins with the word
  have hfront : front = [] := by
    rcases List.eq_nil_or_concat' front with hnil | ⟨more, d, rfl⟩
    · exact hnil
    · have hd : isLetter d := hword.letters d (by simp [hsplit])
      rw [List.getLast?_concat, isWordAt, isWordCharacter_of_isLetter hd] at hstart
      cases hstart
  rw [hfront, List.nil_append] at hsplit
  rw [hparts, words_append_blank (by decide), ← hsplit, words_of_isLoose hword]
  exact List.mem_append_left _ (List.mem_singleton_self word)

theorem replaceWhole_of_isLoose (replacement : List Char) :
    replaceWhole expression.1.toList replacement word = word := by
  have hspaced : ∀ expression ∈ expressions, ' ' ∈ expression.1.toList := by decide
  have hspace := hspaced expression hexpression
  refine replaceWhole_eq_self (List.ne_nil_of_mem hspace) (fun hinside => ?_) replacement
  exact absurd (hword.letters ' ' (hinside.subset hspace)) (by decide)

theorem replaceWhole_append_word (replacement text : List Char) {tail : List Char}
    (htail : Stops tail) :
    replaceWhole expression.1.toList replacement (text ++ ' ' :: (word ++ tail)) =
        replaceWhole expression.1.toList replacement text ++
          ' ' :: (word ++ replaceWhole expression.1.toList replacement tail) ∧
      Stops (replaceWhole expression.1.toList replacement tail) := by
  have hspace : isWordCharacter ' ' = false := by decide
  have hgap : ∀ rest : List Char, isWordAt (' ' :: rest).head? = false := fun _ => hspace
  have hself := replaceWhole_of_isLoose hword hexpression replacement
  have hfirst := (isWordCharacter_ends hexpression).1
  have hahead : ∀ front rest, text = front ++ rest →
      standsAt expression.1.toList front.getLast? (rest ++ ' ' :: (word ++ tail)) =
        standsAt expression.1.toList front.getLast? rest := by
    intro front rest _
    by_cases hbegins : expression.1.toList <+: rest
    · exact standsAt_append_of_prefix hbegins (hgap _) _
    · rw [not_standsAt_ahead hword hexpression htail hbegins, standsAt_of_not_isPrefixOf hbegins]
  rw [replaceWhole_append_of_standsAt hspace hahead]
  rcases htail with rfl | ⟨behind, rfl⟩
  · have hnil : replaceWhole expression.1.toList replacement [] = [] :=
      replaceWhole_nil (fun hnil => by rw [hnil] at hfirst; cases hfirst) replacement
    rw [hnil, List.append_nil, hself]
    exact ⟨rfl, Or.inl rfl⟩
  · have hbehind : ∀ front rest, word = front ++ rest →
        standsAt expression.1.toList front.getLast? (rest ++ ' ' :: behind) =
          standsAt expression.1.toList front.getLast? rest := by
      intro front rest hsplit
      by_cases hbegins : expression.1.toList <+: rest
      · exact standsAt_append_of_prefix hbegins (hgap _) _
      · rw [not_standsAt_behind hword hexpression hsplit hbegins,
          standsAt_of_not_isPrefixOf hbegins]
    have hrest := replaceWhole_of_gaps (List.forall_mem_singleton.mpr hspace) hfirst
      replacement behind
    rw [List.singleton_append] at hrest
    rw [replaceWhole_append_of_standsAt hspace hbehind, hself, hrest]
    exact ⟨rfl, Or.inr ⟨_, rfl⟩⟩

end

/-- The expressions that are replaced stand before or behind the word. -/
theorem replaceExpressions_append_word (text : List Char) {tail : List Char}
    (htail : Stops tail) :
    replaceExpressions (text ++ ' ' :: (word ++ tail)) =
        replaceExpressions text ++ ' ' :: (word ++ replaceExpressions tail) ∧
      Stops (replaceExpressions tail) := by
  have hall : ∀ pairs : List (String × String), (∀ pair ∈ pairs, pair ∈ expressions) →
      ∀ text tail, Stops tail →
        let replaced := fun text : List Char => pairs.foldl
          (fun text pair => replaceWhole pair.1.toList pair.2.toList text) text
        replaced (text ++ ' ' :: (word ++ tail)) =
          replaced text ++ ' ' :: (word ++ replaced tail) ∧ Stops (replaced tail) := by
    intro pairs hpairs
    induction pairs with
    | nil => exact fun text tail htail => ⟨rfl, htail⟩
    | cons pair others ih =>
        obtain ⟨hpair, hothers⟩ := List.forall_mem_cons.mp hpairs
        intro text tail htail replaced
        obtain ⟨hfirst, hstops⟩ := replaceWhole_append_word hword hpair pair.2.toList text htail
        simp only [replaced, List.foldl_cons, hfirst]
        exact ih hothers _ _ hstops
  exact hall expressions (fun _ hmem => hmem) text tail htail

/-! ### Tokens -/

theorem plainWords_of_isLoose : plainWords (lowerCase word) = [word] := by
  have hmark : ∀ mark, isLetter mark = false → mark ∉ word := by
    intro mark hmark hmem
    rw [hword.letters mark hmem] at hmark
    cases hmark
  rw [lowerCase_eq_self fun c hc => isPlain_of_isLetter (hword.letters c hc), plainWords,
    partHyphenated_of_notMem (hmark '-' (by decide)), joinDigitGroups_eq_self
    (hmark ',' (by decide)), words_of_isLoose hword]

theorem tokensOf_of_isLoose : tokensOf word = [.word word] := by
  have hlexes := lexes_word hword.ne_nil hword.letters [] [] (Or.inl rfl)
  rw [List.append_nil] at hlexes
  rw [tokensOf, hlexes, tokensAfter]
  rfl

end

theorem joinWords_append {parts others : List (List Char)} (hparts : parts ≠ [])
    (hothers : others ≠ []) :
    joinWords (parts ++ others) = joinWords parts ++ ' ' :: joinWords others := by
  obtain ⟨next, later, rfl⟩ := List.exists_cons_of_ne_nil hothers
  induction parts with
  | nil => exact absurd rfl hparts
  | cons part rest ih =>
      cases rest with
      | nil => rw [List.singleton_append, joinWords_cons_cons]; simp [joinWords]
      | cons other rest =>
          rw [List.cons_append, List.cons_append, joinWords_cons_cons, ← List.cons_append,
            ih (List.cons_ne_nil _ _), joinWords_cons_cons, List.append_assoc, List.cons_append]

theorem tokensOf_replaceExpressions_space (text : List Char) :
    tokensOf (replaceExpressions (' ' :: text)) = tokensOf (replaceExpressions text) := by
  have hspace : ∀ c ∈ [' '], isWordCharacter c = false :=
    List.forall_mem_singleton.mpr (by decide)
  have hpassed := replaceExpressions_of_gaps hspace text
  rw [List.singleton_append, List.singleton_append] at hpassed
  rw [hpassed, tokensOf_space]

theorem tokensOf_replaceExpressions_around {word : List Char} (hword : IsLoose word)
    (front back : List (List Char)) :
    tokensOf (replaceExpressions (joinWords (front ++ word :: back))) =
      tokensOf (replaceExpressions (joinWords front)) ++
        .word word :: tokensOf (replaceExpressions (joinWords back)) := by
  -- with no words behind the word no space stands there, and with none before it neither
  obtain ⟨tail, htail, hjoined, hread⟩ : ∃ tail, Stops tail ∧
      joinWords (word :: back) = word ++ tail ∧
      tokensOf (replaceExpressions tail) = tokensOf (replaceExpressions (joinWords back)) := by
    cases back with
    | nil => exact ⟨[], Or.inl rfl, by simp [joinWords], rfl⟩
    | cons next others =>
        exact ⟨' ' :: joinWords (next :: others), Or.inr ⟨_, rfl⟩, joinWords_cons_cons _ _ _,
          tokensOf_replaceExpressions_space _⟩
  have hspaced : tokensOf (replaceExpressions (joinWords (front ++ word :: back))) =
      tokensOf (replaceExpressions (joinWords front ++ ' ' :: (word ++ tail))) := by
    cases front with
    | nil => rw [List.nil_append, hjoined]; exact (tokensOf_replaceExpressions_space _).symm
    | cons first others =>
        rw [joinWords_append (List.cons_ne_nil _ _) (List.cons_ne_nil _ _), hjoined]
  obtain ⟨hparts, hstops⟩ := replaceExpressions_append_word hword (joinWords front) htail
  rw [hspaced, hparts, tokensOf_append (Stops.closes (Or.inr ⟨_, rfl⟩)), tokensOf_space,
    tokensOf_append hstops.closes, tokensOf_of_isLoose hword, hread]
  rfl

theorem tokenize_around {word : String} (hword : IsLoose word.toList) (front back : String) :
    tokenize (front ++ " " ++ word ++ " " ++ back) =
      tokenize front ++ .word word.toList :: tokenize back := by
  have htext : (front ++ " " ++ word ++ " " ++ back).toList =
      front.toList ++ ' ' :: (word.toList ++ ' ' :: back.toList) := by
    simp [String.toList_append]
  have hspace : isBlank ' ' := by decide
  have hwords : plainWords (lowerCase (front ++ " " ++ word ++ " " ++ back).toList) =
      plainWords (lowerCase front.toList) ++
        word.toList :: plainWords (lowerCase back.toList) := by
    rw [htext, lowerCase_append_space, lowerCase_append_space, plainWords_append_blank hspace,
      plainWords_append_blank hspace, plainWords_of_isLoose hword]
    rfl
  rw [tokenize, normalCharacters_eq, hwords]
  exact tokensOf_replaceExpressions_around hword _ _

end SpokenCalculator.Phrase
