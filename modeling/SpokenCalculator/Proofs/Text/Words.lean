import SpokenCalculator.Text.Blank

namespace SpokenCalculator.Text

/-- Words are read from right to left: those of a text stand in front of the
ones found before, and the first of them can grow only if there is one. -/
theorem foldr_prependToWords (text : List Char) (found : List (List Char)) :
    text.foldr prependToWords (false, found) =
        ((text.foldr prependToWords (false, [])).1, words text ++ found) ∧
      ((text.foldr prependToWords (false, [])).1 = true → words text ≠ []) := by
  induction text with
  | nil => exact ⟨rfl, fun h => Bool.noConfusion h⟩
  | cons c rest ih =>
      obtain ⟨hfound, hgrowing⟩ := ih
      unfold words at hfound hgrowing ⊢
      simp only [List.foldr_cons, hfound]
      generalize rest.foldr prependToWords (false, []) = state at hgrowing ⊢
      obtain ⟨growing, first⟩ := state
      unfold prependToWords
      by_cases hblank : isBlank c
      · simp [hblank]
      · cases growing with
        | false => simp [hblank]
        | true =>
            cases first with
            | nil => exact absurd rfl (hgrowing rfl)
            | cons word others => simp [hblank]

theorem words_append_blank {c : Char} (hblank : isBlank c) (before behind : List Char) :
    words (before ++ c :: behind) = words before ++ words behind := by
  have hstate : (c :: behind).foldr prependToWords (false, []) = (false, words behind) := by
    simp [prependToWords, hblank, words]
  rw [words, List.foldr_append, hstate, (foldr_prependToWords before (words behind)).1]

theorem words_eq_nil {text : List Char} (hblank : ∀ c ∈ text, isBlank c) : words text = [] := by
  induction text with
  | nil => rfl
  | cons c rest ih =>
      have hrest := ih fun d hd => hblank d (List.mem_cons_of_mem c hd)
      have hsplit := words_append_blank (hblank c List.mem_cons_self) [] rest
      rw [List.nil_append, hrest] at hsplit
      exact hsplit

theorem words_eq_singleton {word : List Char} (hne : word ≠ [])
    (hplain : ∀ c ∈ word, isBlank c = false) : words word = [word] := by
  have hstate : ∀ word : List Char, word ≠ [] → (∀ c ∈ word, isBlank c = false) →
      word.foldr prependToWords (false, []) = (true, [word]) := by
    intro word
    induction word with
    | nil => exact fun hne _ => absurd rfl hne
    | cons c rest ih =>
        intro _ hplain
        have hc : isBlank c = false := hplain c List.mem_cons_self
        by_cases hrest : rest = []
        · simp [hrest, prependToWords, hc]
        · rw [List.foldr_cons, ih hrest fun d hd => hplain d (List.mem_cons_of_mem c hd)]
          simp [prependToWords, hc]
  rw [words, hstate word hne hplain]

/-- A word that can be read back: it is not empty and has no blanks. -/
def IsWord (word : List Char) : Prop := word ≠ [] ∧ ∀ c ∈ word, isBlank c = false

theorem joinWords_cons_cons (word next : List Char) (others : List (List Char)) :
    joinWords (word :: next :: others) = word ++ ' ' :: joinWords (next :: others) := by
  simp [joinWords, List.intercalate_cons_cons]

theorem words_joinWords_flatMap (parts : List (List Char)) :
    words (joinWords parts) = parts.flatMap words := by
  induction parts with
  | nil => rfl
  | cons part others ih =>
      cases others with
      | nil => simp [joinWords]
      | cons next others =>
          rw [joinWords_cons_cons, words_append_blank (by decide), ih]
          rfl

theorem words_joinWords {parts : List (List Char)} (hparts : ∀ word ∈ parts, IsWord word) :
    words (joinWords parts) = parts := by
  rw [words_joinWords_flatMap]
  induction parts with
  | nil => rfl
  | cons word others ih =>
      have hword := hparts word List.mem_cons_self
      rw [List.flatMap_cons, words_eq_singleton hword.1 hword.2,
        ih fun other hother => hparts other (List.mem_cons_of_mem word hother)]
      rfl

theorem mem_joinWords {parts : List (List Char)} {c : Char} (h : c ∈ joinWords parts) :
    c = ' ' ∨ ∃ word ∈ parts, c ∈ word := by
  induction parts with
  | nil => cases h
  | cons word others ih =>
      cases others with
      | nil => exact Or.inr ⟨word, List.mem_cons_self, by simpa [joinWords] using h⟩
      | cons next others =>
          rw [joinWords_cons_cons, List.mem_append, List.mem_cons] at h
          rcases h with hword | rfl | hothers
          · exact Or.inr ⟨word, List.mem_cons_self, hword⟩
          · exact Or.inl rfl
          · rcases ih hothers with heq | ⟨part, hpart, hc⟩
            · exact Or.inl heq
            · exact Or.inr ⟨part, List.mem_cons_of_mem word hpart, hc⟩

theorem map_joinWords {f : Char → Char} (hspace : f ' ' = ' ') (parts : List (List Char)) :
    (joinWords parts).map f = joinWords (parts.map (List.map f)) := by
  induction parts with
  | nil => rfl
  | cons part others ih =>
      cases others with
      | nil => simp [joinWords]
      | cons next others =>
          rw [joinWords_cons_cons, List.map_append, List.map_cons, hspace, ih]
          simp [joinWords_cons_cons]

section

variable {a b : Char} (ha : a ≠ ' ') (hb : b ≠ ' ')

include ha hb

theorem pair_infix_append_space {first second : List Char}
    (h : [a, b] <:+: first ++ ' ' :: second) : [a, b] <:+: first ∨ [a, b] <:+: second := by
  induction first with
  | nil =>
      rcases List.infix_cons_iff.mp h with hstart | hsecond
      · exact absurd (List.cons_prefix_cons.mp hstart).1 ha
      · exact Or.inr hsecond
  | cons c rest ih =>
      rcases List.infix_cons_iff.mp h with hstart | hrest
      · obtain ⟨rfl, hnext⟩ := List.cons_prefix_cons.mp hstart
        cases rest with
        | nil => exact absurd (List.cons_prefix_cons.mp hnext).1 hb
        | cons d rest =>
            obtain ⟨rfl, -⟩ := List.cons_prefix_cons.mp hnext
            exact Or.inl ⟨[], rest, rfl⟩
      · rcases ih hrest with hfirst | hsecond
        · exact Or.inl (List.infix_cons_iff.mpr (Or.inr hfirst))
        · exact Or.inr hsecond

/-- Two characters that stand side by side stand in one of the words. -/
theorem pair_infix_joinWords {parts : List (List Char)} (h : [a, b] <:+: joinWords parts) :
    ∃ part ∈ parts, [a, b] <:+: part := by
  induction parts with
  | nil =>
      have hnil : [a, b] <:+: [] := h
      simp at hnil
  | cons part others ih =>
      cases others with
      | nil => exact ⟨part, List.mem_cons_self, by simpa [joinWords] using h⟩
      | cons next others =>
          rw [joinWords_cons_cons] at h
          rcases pair_infix_append_space ha hb h with hpart | hothers
          · exact ⟨part, List.mem_cons_self, hpart⟩
          · obtain ⟨other, hmem, hother⟩ := ih hothers
            exact ⟨other, List.mem_cons_of_mem part hmem, hother⟩

end

end SpokenCalculator.Text
