import Mathlib.Data.List.TakeWhile
import SpokenCalculator.Phrase.Token
import SpokenCalculator.Proofs.Number.Word
import SpokenCalculator.Proofs.Text.Bulk

namespace SpokenCalculator.Phrase

open Text

namespace Token

/-- The number of characters of a token, the point of a numeral left out. -/
def size : Token → Nat
  | .numeral whole fraction => whole.length + fraction.length
  | .word letters => letters.length
  | .sign _ => 1

def IsProper : Token → Prop
  | .numeral whole _ => whole ≠ []
  | _ => True

end Token

theorem isBulky_of {isPart : Char → Bool} (hspace : isPart ' ' = false)
    (hdot : isPart combiningDot = false) {c : Char} (h : isPart c) : isBulky c := by
  simp only [isBulky, Bool.and_eq_true, bne_iff_ne]
  constructor
  · rintro rfl
    rw [hspace] at h
    cases h
  · rintro rfl
    rw [hdot] at h
    cases h

theorem isBulky_of_isDecimalDigit {c : Char} (h : isDecimalDigit c) : isBulky c :=
  isBulky_of (by decide) (by decide) h

theorem isBulky_of_isWordPart {c : Char} (h : isWordPart c) : isBulky c :=
  isBulky_of (by decide) (by decide) h

theorem bulk_eq_takeWhile (isPart : Char → Bool) (hbulky : ∀ c, isPart c → isBulky c)
    (text : List Char) :
    bulk text = (text.takeWhile isPart).length + bulk (text.dropWhile isPart) := by
  have hpart : bulk (text.takeWhile isPart) = (text.takeWhile isPart).length :=
    bulk_eq_length fun c hc => hbulky c (List.mem_takeWhile_imp hc)
  rw [← hpart, ← bulk_append, List.takeWhile_append_dropWhile]

theorem size_takeNumeral_le {c : Char} (rest : List Char) (hdigit : isDecimalDigit c) :
    (takeNumeral (c :: rest)).1.size + bulk (takeNumeral (c :: rest)).2 ≤ bulk (c :: rest) ∧
      (takeNumeral (c :: rest)).1.IsProper := by
  have hwhole := bulk_eq_takeWhile isDecimalDigit (fun _ => isBulky_of_isDecimalDigit) (c :: rest)
  have hne : (c :: rest).takeWhile isDecimalDigit ≠ [] := by simp [hdigit]
  unfold takeNumeral Decimal.spanDigits
  dsimp only
  split
  · rename_i behind heq
    have hfraction := bulk_eq_takeWhile isDecimalDigit (fun _ => isBulky_of_isDecimalDigit) behind
    have hpoint := bulk_cons '.' behind
    split
    · refine ⟨?_, hne⟩
      simp only [Token.size, List.length_nil]
      omega
    · refine ⟨?_, hne⟩
      simp only [Token.size]
      rw [heq] at hwhole
      omega
  · refine ⟨?_, hne⟩
    simp only [Token.size, List.length_nil]
    omega

theorem size_tokenAt?_le {c : Char} {rest behind : List Char} {token : Token}
    (h : tokenAt? c rest = some (token, behind)) :
    token.size + bulk behind ≤ bulk (c :: rest) ∧ token.IsProper := by
  unfold tokenAt? at h
  split at h
  · rename_i hdigit
    have hnumeral := size_takeNumeral_le rest hdigit
    rw [Option.some.inj h] at hnumeral
    exact hnumeral
  · split at h
    · cases h
      have hword := bulk_eq_takeWhile isWordPart (fun _ => isBulky_of_isWordPart) (c :: rest)
      exact ⟨Nat.le_of_eq hword.symm, trivial⟩
    · split at h
      · rename_i hmark
        cases h
        have hmarks : signMarks.all isBulky := by decide
        have hone := bulk_singleton_of_isBulky
          (List.all_eq_true.mp hmarks c (List.contains_iff_mem.mp hmark))
        refine ⟨?_, trivial⟩
        rw [bulk_cons c rest, hone]
        exact Nat.le_refl _
      · cases h

theorem sum_size_tokensAfter_le (found : List Token) (text : List Char) :
    ((tokensAfter found text).map Token.size).sum ≤ (found.map Token.size).sum + bulk text := by
  fun_induction tokensAfter found text with
  | case1 found => simp [List.sum_reverse]
  | case2 found c rest token behind htoken ih =>
      have hshare := (size_tokenAt?_le htoken).1
      rw [List.map_cons, List.sum_cons] at ih
      omega
  | case3 found c rest _ ih =>
      rw [bulk_cons]
      omega

theorem isProper_of_mem_tokensAfter {found : List Token} (text : List Char)
    (hfound : ∀ token ∈ found, token.IsProper) :
    ∀ token ∈ tokensAfter found text, token.IsProper := by
  fun_induction tokensAfter found text with
  | case1 found => exact fun token htoken => hfound token (List.mem_reverse.mp htoken)
  | case2 found c rest token behind htoken ih =>
      refine ih fun other hother => ?_
      rcases List.mem_cons.mp hother with rfl | hother
      · exact (size_tokenAt?_le htoken).2
      · exact hfound other hother
  | case3 found c rest _ ih => exact ih hfound

/-- The tokens of a phrase are no larger together than the text as it was
heard. -/
theorem sum_size_tokenize_le (heard : String) :
    ((tokenize heard).map Token.size).sum ≤ bulk heard.toList := by
  have htokens := sum_size_tokensAfter_le [] (normalCharacters heard.toList)
  rw [List.map_nil, List.sum_nil, Nat.zero_add] at htokens
  exact Nat.le_trans htokens (bulk_normalCharacters_le heard.toList)

theorem isProper_of_mem_tokenize {heard : String} {token : Token} (h : token ∈ tokenize heard) :
    token.IsProper :=
  isProper_of_mem_tokensAfter _ (fun _ hnone => by cases hnone) token h

/-! ### Parts of a text -/

def Stops (behind : List Char) : Prop := behind = [] ∨ ∃ rest, behind = ' ' :: rest

/-- A part of a text is read as the given tokens, whatever was found before and
comes behind it. -/
def Lexes (part : List Char) (tokens : List Token) : Prop :=
  ∀ found behind, Stops behind →
    tokensAfter found (part ++ behind) = tokensAfter (tokens.reverse ++ found) behind

theorem tokensAfter_of_tokenAt? {c : Char} {rest behind : List Char} {token : Token}
    (h : tokenAt? c rest = some (token, behind)) (found : List Token) :
    tokensAfter found (c :: rest) = tokensAfter (token :: found) behind := by
  rw [tokensAfter]
  split
  · rename_i hsome
    rw [h] at hsome
    cases hsome
    rfl
  · rename_i hnone
    rw [h] at hnone
    cases hnone

theorem tokensAfter_space (found : List Token) (rest : List Char) :
    tokensAfter found (' ' :: rest) = tokensAfter found rest := by
  have hspace : tokenAt? ' ' rest = none := rfl
  rw [tokensAfter]
  split
  · rename_i hsome
    rw [hspace] at hsome
    cases hsome
  · rfl

theorem tokensOf_joinWords_of_lexes {parts : List (List Char)} {tokens : List (List Token)}
    (h : List.Forall₂ Lexes parts tokens) : tokensOf (joinWords parts) = tokens.flatten := by
  -- The tokens found before are generalized, because those of each part are put in front of them.
  have hall : ∀ found, tokensAfter found (joinWords parts) = found.reverse ++ tokens.flatten := by
    induction h with
    | nil =>
        intro found
        have hnil : joinWords [] = [] := rfl
        rw [hnil, tokensAfter, List.flatten_nil, List.append_nil]
    | @cons part read others later hpart hothers ih =>
        intro found
        cases hothers with
        | nil =>
            have hsingle : joinWords [part] = part ++ [] := by simp [joinWords]
            rw [hsingle, hpart found [] (.inl rfl), tokensAfter]
            simp
        | cons _ _ =>
            rw [joinWords_cons_cons, hpart found _ (.inr ⟨_, rfl⟩), tokensAfter_space, ih]
            simp
  exact hall []

theorem takeWhile_append_of_stops {isPart : Char → Bool} {part behind : List Char}
    (hspace : isPart ' ' = false) (hpart : ∀ c ∈ part, isPart c) (hstops : Stops behind) :
    (part ++ behind).takeWhile isPart = part ∧ (part ++ behind).dropWhile isPart = behind := by
  rw [List.takeWhile_append_of_pos hpart, List.dropWhile_append_of_pos hpart]
  rcases hstops with rfl | ⟨rest, rfl⟩
  · simp
  · simp [hspace]

theorem tokenAt?_of_isLetter {c : Char} (h : isLetter c) (rest : List Char) :
    tokenAt? c rest = some (takeWord (c :: rest)) := by
  have hdigit : isDecimalDigit c = false := by
    simpa using forall_isLetter (fun c => !isDecimalDigit c) (by decide) h
  have hpart : isWordPart c = true := by
    rw [isWordPart, h]
    rfl
  rw [tokenAt?, hdigit, if_neg (by decide), if_pos hpart]

theorem lexes_word {word : List Char} (hne : word ≠ []) (hword : ∀ c ∈ word, isLetter c) :
    Lexes word [.word word] := by
  intro found behind hstops
  have hpart : ∀ c ∈ word, isWordPart c := fun c hc => by
    rw [isWordPart, hword c hc]
    rfl
  have htake := takeWhile_append_of_stops (by decide) hpart hstops
  obtain ⟨c, rest, rfl⟩ := List.exists_cons_of_ne_nil hne
  rw [List.cons_append] at htake ⊢
  refine tokensAfter_of_tokenAt? ?_ found
  rw [tokenAt?_of_isLetter (hword c List.mem_cons_self), takeWord, htake.1, htake.2]

theorem lexes_nil : Lexes [] [] := fun _ _ _ => rfl

/-- An operator sign is a token of its own, also right before a numeral. -/
theorem Lexes.sign {mark : Char} {part : List Char} {tokens : List Token} (h : Lexes part tokens)
    (hmark : mark ∈ signMarks) : Lexes (mark :: part) (.sign mark :: tokens) := by
  intro found behind hstops
  have hmarks : signMarks.all fun mark => !isDecimalDigit mark && !isWordPart mark := by decide
  have hother := List.all_eq_true.1 hmarks mark hmark
  simp only [Bool.and_eq_true, Bool.not_eq_true'] at hother
  have htoken : tokenAt? mark (part ++ behind) = some (.sign mark, part ++ behind) := by
    rw [tokenAt?, hother.1, hother.2]
    simp [hmark]
  rw [List.cons_append, tokensAfter_of_tokenAt? htoken, h _ behind hstops]
  simp

theorem lexes_numeral {whole fraction : List Char} (hne : whole ≠ [])
    (hwhole : ∀ c ∈ whole, isDecimalDigit c) (hfraction : ∀ c ∈ fraction, isDecimalDigit c) :
    Lexes (Token.numeral whole fraction).characters [.numeral whole fraction] := by
  intro found behind hstops
  have hspace : isDecimalDigit ' ' = false := by decide
  have htoken : takeNumeral ((Token.numeral whole fraction).characters ++ behind) =
      (.numeral whole fraction, behind) := by
    cases fraction with
    | nil =>
        have htake := takeWhile_append_of_stops hspace hwhole hstops
        have hnumeral : (Token.numeral whole []).characters = whole := rfl
        rw [hnumeral, takeNumeral, Decimal.spanDigits, htake.1, htake.2]
        rcases hstops with rfl | ⟨rest, rfl⟩ <;> rfl
    | cons digit digits =>
        have htake := takeWhile_append_of_stops hspace hfraction hstops
        have hnumeral : (Token.numeral whole (digit :: digits)).characters ++ behind =
            whole ++ '.' :: (digit :: digits ++ behind) := by
          simp [Token.characters]
        have hpoint : isDecimalDigit '.' = false := by decide
        rw [hnumeral, takeNumeral, Decimal.spanDigits, List.takeWhile_append_of_pos hwhole,
          List.dropWhile_append_of_pos hwhole, List.takeWhile_cons, List.dropWhile_cons, hpoint]
        simp only [Bool.false_eq_true, if_false, List.append_nil, Decimal.spanDigits, htake.1,
          htake.2, List.isEmpty_cons]
  obtain ⟨c, rest, rfl⟩ := List.exists_cons_of_ne_nil hne
  have hdigit : isDecimalDigit c := hwhole c List.mem_cons_self
  have hnumeral : ∃ rest', (Token.numeral (c :: rest) fraction).characters = c :: rest' := by
    cases fraction <;> exact ⟨_, rfl⟩
  obtain ⟨rest', hnumeral⟩ := hnumeral
  rw [hnumeral, List.cons_append] at htoken ⊢
  refine tokensAfter_of_tokenAt? ?_ found
  rw [tokenAt?, if_pos hdigit, htoken]

/-- The tokens of joined words of small letters are the words. -/
theorem tokensOf_joinWords {words : List String} (hwords : ∀ word ∈ words, IsLettered word) :
    tokensOf (joinWords (words.map String.toList)) = words.map fun word => .word word.toList := by
  have hlexes : List.Forall₂ Lexes (words.map String.toList)
      (words.map fun word => [.word word.toList]) := by
    rw [List.forall₂_map_left_iff, List.forall₂_map_right_iff, List.forall₂_same]
    exact fun word hword => lexes_word (hwords word hword).1 (hwords word hword).2
  rw [tokensOf_joinWords_of_lexes hlexes, ← List.flatMap_def, List.map_eq_flatMap]

end SpokenCalculator.Phrase
