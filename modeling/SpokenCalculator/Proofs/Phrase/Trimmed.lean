import SpokenCalculator.Proofs.Phrase.Parting
import SpokenCalculator.Proofs.Phrase.Resolved
import SpokenCalculator.Proofs.Text.Spacing

namespace SpokenCalculator

def Command.reworded (heard : String) : Command → Command
  | .unrecognized _ => .unrecognized heard
  | command => command

namespace Phrase

open Text

/-- A character that no rule of the normal form looks at and that no token
holds. -/
structure IsIdle (c : Char) : Prop where
  isGap : isGap c
  notWord : isWordCharacter c = false
  notPart : isWordPart c = false
  notMark : signMarks.contains c = false

/-- Single spaces do not change the words of a phrase. -/
theorem plainWords_joinWords_words (text : List Char) :
    plainWords (joinWords (words text)) = plainWords text := by
  have hwords := eq_flatMap_words (f := plainWords) rfl
    fun _ hblank => plainWords_append_blank hblank
  rw [hwords (joinWords (words text)), hwords text, words_joinWords_words]

section

variable {idle : List Char} (hidle : ∀ c ∈ idle, IsIdle c)

include hidle

theorem tokenAt?_of_isIdle {c : Char} (hc : c ∈ idle) (rest : List Char) :
    tokenAt? c rest = none := by
  obtain ⟨hgap, _, hpart, hmark⟩ := hidle c hc
  rw [tokenAt?, (isGap_iff.mp hgap).2, hpart, hmark]
  rfl

theorem tokensOf_of_idle (text : List Char) : tokensOf (idle ++ text) = tokensOf text := by
  induction idle with
  | nil => rfl
  | cons c others ih =>
      rw [List.cons_append, tokensOf,
        tokensAfter_of_none (tokenAt?_of_isIdle hidle List.mem_cons_self _)]
      exact ih fun d hd => hidle d (List.mem_cons_of_mem c hd)

theorem closes_of_idle : Closes idle := by
  have hdigit : ∀ c ∈ idle, isDecimalDigit c = false :=
    fun c hc => (isGap_iff.mp (hidle c hc).isGap).2
  refine ⟨fun c hc => ?_, fun rest hpoint c hc => ?_⟩
  · have hmem := List.mem_of_mem_head? hc
    exact ⟨hdigit c hmem, (hidle c hmem).notPart⟩
  · refine hdigit c ?_
    rw [hpoint]
    exact List.mem_cons_of_mem _ (List.mem_of_mem_head? hc)

theorem tokensOf_append_idle (text : List Char) : tokensOf (text ++ idle) = tokensOf text := by
  have hnone := tokensOf_of_idle hidle []
  rw [List.append_nil, tokensOf_nil] at hnone
  rw [tokensOf_append (closes_of_idle hidle), hnone, List.append_nil]

end

/-- Idle characters around a phrase stay around it when hyphens and commas are
removed. -/
theorem joinDigitGroups_partHyphenated_of_idle {front tail : List Char}
    (hfront : ∀ c ∈ front, IsIdle c) (htail : ∀ c ∈ tail, IsIdle c) (text : List Char) :
    joinDigitGroups (partHyphenated (front ++ text ++ tail)) =
      front ++ joinDigitGroups (partHyphenated text) ++ tail := by
  have hgaps : ∀ {idle : List Char}, (∀ c ∈ idle, IsIdle c) → ∀ c ∈ idle, isGap c :=
    fun hidle c hc => (hidle c hc).isGap
  have hhyphens : partHyphenated (front ++ text ++ tail) =
      front ++ partHyphenated text ++ tail := by
    have hlast := isParting_hyphenStep.transduceInContext_append_gaps (hgaps htail) (front ++ text)
    rw [isParting_hyphenStep.transduceInContext_of_gaps (hgaps hfront)] at hlast
    exact hlast
  have hcommas := isParting_commaStep.transduceInContext_append_gaps (hgaps htail)
    (front ++ partHyphenated text)
  rw [isParting_commaStep.transduceInContext_of_gaps (hgaps hfront)] at hcommas
  rw [hhyphens]
  exact hcommas

/-- The last character of a phrase is neither a hyphen nor a comma to be
removed. -/
theorem getLast?_joinDigitGroups_partHyphenated (text : List Char) :
    (joinDigitGroups (partHyphenated text)).getLast? = text.getLast? :=
  (isParting_commaStep.getLast?_transduceInContext _).trans
    (isParting_hyphenStep.getLast?_transduceInContext text)

/-- A phrase has the tokens of what is left of it in single spaces without its
edges. -/
theorem tokensOf_trim {isEdge : Char → Bool} (hspace : isEdge ' ')
    (hidle : ∀ c, isEdge c → IsIdle c) {text : List Char} {c : Char} (hc : c ∈ text)
    (hblank : isBlank c = false) (hedge : isEdge c = false) :
    tokensOf (replaceExpressions (joinWords (plainWords
        (trim isEdge (joinWords (words text)))))) =
      tokensOf (replaceExpressions (joinWords (plainWords text))) := by
  obtain ⟨front, tail, hfront, htail, hparts⟩ :=
    exists_eq_append_trim isEdge (joinWords (words text))
  have hne : trim isEdge (joinWords (words text)) ≠ [] := by
    obtain ⟨word, hword, hmem⟩ := exists_mem_words hc hblank
    exact trim_ne_nil (mem_joinWords_of_mem hword hmem) hedge
  have hends := (trim_ends isEdge (joinWords (words text))).2
  rw [← plainWords_joinWords_words text]
  generalize trim isEdge (joinWords (words text)) = kept at hparts hne hends ⊢
  obtain ⟨last, hlast⟩ : ∃ last, kept.getLast? = some last :=
    ⟨_, List.getLast?_eq_some_getLast hne⟩
  have hlastBlank : isBlank last = false := by
    have hmem : last ∈ joinWords (words text) := by
      rw [hparts, List.mem_append, List.mem_append]
      exact Or.inl (Or.inr (List.mem_of_getLast? hlast))
    rcases mem_joinWords_words hmem with rfl | ⟨_, hplain⟩
    · rw [hends ' ' hlast] at hspace
      cases hspace
    · exact hplain
  obtain ⟨plain, hplain⟩ :
      ∃ plain, joinDigitGroups (partHyphenated kept) = plain ++ [last] :=
    List.getLast?_eq_some_iff.mp ((getLast?_joinDigitGroups_partHyphenated kept).trans hlast)
  obtain ⟨behind, hbehind, htrailing⟩ :=
    exists_joinWords_words_trailing hspace htail plain hlastBlank
  have hmiddle : last ∈ plain ++ last :: tail := List.mem_append_right plain List.mem_cons_self
  obtain ⟨ahead, hahead, hleading⟩ :=
    exists_joinWords_words_leading hspace hfront hmiddle hlastBlank
  have hsingle : joinWords (plainWords (joinWords (words text))) =
      ahead ++ (joinWords (plainWords kept) ++ behind) := by
    rw [hparts, plainWords, joinDigitGroups_partHyphenated_of_idle
      (fun c hc => hidle c (hfront c hc)) (fun c hc => hidle c (htail c hc)), hplain,
      List.append_assoc, List.append_assoc, List.singleton_append, hleading, htrailing, plainWords,
      hplain]
  rw [hsingle, replaceExpressions_of_gaps fun c hc => (hidle c (hahead c hc)).notWord,
    replaceExpressions_append_gaps fun c hc => (hidle c (hbehind c hc)).notWord,
    tokensOf_of_idle fun c hc => hidle c (hahead c hc),
    tokensOf_append_idle fun c hc => hidle c (hbehind c hc)]

theorem commandOf_reworded (heard other : String) (items : List Item) :
    (commandOf heard items).reworded other = commandOf other items := by
  have hkeyword : (keywordCommand heard items).reworded other = keywordCommand other items := by
    unfold keywordCommand
    split
    · rename_i keyword _ _
      cases keyword <;> rfl
    · rfl
  unfold commandOf
  dsimp only
  split
  · exact hkeyword
  · split <;> rfl
  · rfl

theorem parse_of_itemsOf {heard other : String}
    (hitems : itemsOf (tokenize heard) = itemsOf (tokenize other)) :
    (Command.parse heard).map (Command.reworded other) = Command.parse other := by
  have hresolved : resolvedItems heard = resolvedItems other := by
    rw [resolvedItems, resolvedItems, hitems]
  rw [Command.parse_eq, Command.parse_eq, hresolved]
  cases resolvedItems other with
  | ok items => exact congrArg Except.ok (commandOf_reworded heard other items)
  | error fault =>
      cases fault with
      | spoken _ => rfl
      | signal signal => cases signal <;> rfl

end Phrase

end SpokenCalculator
