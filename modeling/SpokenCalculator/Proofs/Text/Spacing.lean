import Mathlib.Data.List.TakeWhile
import SpokenCalculator.Proofs.Text.Words

namespace SpokenCalculator.Text

/-- What a blank separates is found word by word. -/
theorem eq_flatMap_words {f : List Char → List (List Char)} (hnil : f [] = [])
    (hblank : ∀ blank, isBlank blank → ∀ text behind,
      f (text ++ blank :: behind) = f text ++ f behind) (text : List Char) :
    f text = (words text).flatMap f := by
  have hword : ∀ word : List Char, (∀ c ∈ word, isBlank c = false) →
      f word = (words word).flatMap f := by
    intro word hplain
    cases word with
    | nil => exact hnil
    | cons c rest =>
        rw [words_eq_singleton (List.cons_ne_nil c rest) hplain, List.flatMap_singleton]
  have hall : ∀ text word : List Char, (∀ c ∈ word, isBlank c = false) →
      f (word ++ text) = (words (word ++ text)).flatMap f := by
    intro text
    induction text with
    | nil =>
        intro word hplain
        rw [List.append_nil]
        exact hword word hplain
    | cons c rest ih =>
        intro word hplain
        by_cases hc : isBlank c
        · have hrest := ih [] (List.forall_mem_nil _)
          rw [List.nil_append] at hrest
          rw [hblank c hc, words_append_blank hc, List.flatMap_append, ← hrest, hword word hplain]
        · have hlonger : ∀ d ∈ word ++ [c], isBlank d = false := by
            rw [List.forall_mem_append, List.forall_mem_singleton]
            exact ⟨hplain, Bool.eq_false_iff.mpr hc⟩
          have hrest := ih (word ++ [c]) hlonger
          rwa [List.append_assoc, List.singleton_append] at hrest
  exact hall text [] (List.forall_mem_nil _)

theorem words_joinWords_words (text : List Char) : words (joinWords (words text)) = words text := by
  rw [words_joinWords_flatMap]
  exact (eq_flatMap_words rfl (fun _ hblank => words_append_blank hblank) text).symm

/-! ### Spacing character by character -/

theorem words_cons_blank {c : Char} (hblank : isBlank c) (text : List Char) :
    words (c :: text) = words text := by
  have hsplit := words_append_blank hblank [] text
  rwa [List.nil_append] at hsplit

theorem growing_eq (text : List Char) :
    (text.foldr prependToWords (false, [])).1 = text.head?.any (!isBlank ·) := by
  cases text with
  | nil => rfl
  | cons c rest =>
      rw [List.foldr_cons, List.head?_cons, Option.any_some]
      generalize rest.foldr prependToWords (false, []) = state
      obtain ⟨growing, found⟩ := state
      cases hblank : isBlank c <;> cases growing <;> cases found <;> simp [prependToWords, hblank]

theorem words_cons_word {c : Char} (hc : isBlank c = false) {text : List Char}
    (hword : text.head?.any (!isBlank ·)) :
    ∃ first others, words text = first :: others ∧ words (c :: text) = (c :: first) :: others := by
  have hstate := foldr_prependToWords text []
  have hgrowing := (growing_eq text).trans hword
  obtain ⟨first, others, hfirst⟩ := List.exists_cons_of_ne_nil (hstate.2 hgrowing)
  refine ⟨first, others, hfirst, ?_⟩
  unfold words at hfirst ⊢
  rw [List.foldr_cons]
  generalize text.foldr prependToWords (false, []) = state at hfirst hgrowing ⊢
  obtain ⟨growing, found⟩ := state
  dsimp only at hfirst hgrowing
  subst hgrowing hfirst
  simp [prependToWords, hc]

theorem words_cons_apart {c : Char} (hc : isBlank c = false) {text : List Char}
    (hapart : text.head?.any (!isBlank ·) = false) : words (c :: text) = [c] :: words text := by
  have hgrowing := (growing_eq text).trans hapart
  unfold words
  rw [List.foldr_cons]
  generalize text.foldr prependToWords (false, []) = state at hgrowing ⊢
  obtain ⟨growing, found⟩ := state
  dsimp only at hgrowing
  subst hgrowing
  cases found <;> simp [prependToWords, hc]

theorem exists_mem_words {text : List Char} {c : Char} (hc : c ∈ text)
    (hblank : isBlank c = false) : ∃ word ∈ words text, c ∈ word := by
  induction text with
  | nil => cases hc
  | cons first rest ih =>
      by_cases hfirst : isBlank first
      · rw [words_cons_blank hfirst]
        rcases List.mem_cons.mp hc with rfl | hrest
        · rw [hblank] at hfirst
          cases hfirst
        · exact ih hrest
      · rw [Bool.not_eq_true] at hfirst
        cases hgrows : rest.head?.any (!isBlank ·) with
        | true =>
            obtain ⟨next, others, hwords, hlonger⟩ := words_cons_word hfirst hgrows
            rw [hlonger]
            rcases List.mem_cons.mp hc with rfl | hrest
            · exact ⟨_, List.mem_cons_self, List.mem_cons_self⟩
            · obtain ⟨word, hword, hmem⟩ := ih hrest
              rw [hwords] at hword
              rcases List.mem_cons.mp hword with rfl | hother
              · exact ⟨_, List.mem_cons_self, List.mem_cons_of_mem first hmem⟩
              · exact ⟨word, List.mem_cons_of_mem _ hother, hmem⟩
        | false =>
            rw [words_cons_apart hfirst hgrows]
            rcases List.mem_cons.mp hc with rfl | hrest
            · exact ⟨_, List.mem_cons_self, List.mem_cons_self⟩
            · obtain ⟨word, hword, hmem⟩ := ih hrest
              exact ⟨word, List.mem_cons_of_mem _ hword, hmem⟩

theorem words_ne_nil {text : List Char} {c : Char} (hc : c ∈ text) (hblank : isBlank c = false) :
    words text ≠ [] := by
  obtain ⟨word, hword, _⟩ := exists_mem_words hc hblank
  exact List.ne_nil_of_mem hword

theorem mem_of_mem_words {text word : List Char} (hword : word ∈ words text) :
    ∀ c ∈ word, c ∈ text ∧ isBlank c = false := by
  induction text generalizing word with
  | nil => cases hword
  | cons first rest ih =>
      have hlater : ∀ {c : Char}, c ∈ rest ∧ isBlank c = false →
          c ∈ first :: rest ∧ isBlank c = false :=
        fun h => ⟨List.mem_cons_of_mem first h.1, h.2⟩
      by_cases hfirst : isBlank first
      · rw [words_cons_blank hfirst] at hword
        exact fun c hc => hlater (ih hword c hc)
      · rw [Bool.not_eq_true] at hfirst
        cases hgrows : rest.head?.any (!isBlank ·) with
        | true =>
            obtain ⟨next, others, hrest, hwords⟩ := words_cons_word hfirst hgrows
            rw [hwords] at hword
            rw [hrest] at ih
            rcases List.mem_cons.mp hword with rfl | hother
            · rw [List.forall_mem_cons]
              exact ⟨⟨List.mem_cons_self, hfirst⟩, fun c hc => hlater (ih List.mem_cons_self c hc)⟩
            · exact fun c hc => hlater (ih (List.mem_cons_of_mem next hother) c hc)
        | false =>
            rw [words_cons_apart hfirst hgrows] at hword
            rcases List.mem_cons.mp hword with rfl | hother
            · rw [List.forall_mem_singleton]
              exact ⟨List.mem_cons_self, hfirst⟩
            · exact fun c hc => hlater (ih hother c hc)

/-- In a text that is spaced singly every blank is a space. -/
theorem mem_joinWords_words {text : List Char} {c : Char} (hc : c ∈ joinWords (words text)) :
    c = ' ' ∨ c ∈ text ∧ isBlank c = false := by
  rcases mem_joinWords hc with rfl | ⟨word, hword, hc⟩
  · exact Or.inl rfl
  · exact Or.inr (mem_of_mem_words hword c hc)

theorem mem_joinWords_of_mem {parts : List (List Char)} {word : List Char} (hword : word ∈ parts)
    {c : Char} (hc : c ∈ word) : c ∈ joinWords parts := by
  induction parts with
  | nil => cases hword
  | cons part others ih =>
      cases others with
      | nil =>
          obtain rfl := List.mem_singleton.mp hword
          simpa [joinWords] using hc
      | cons next others =>
          rw [joinWords_cons_cons, List.mem_append, List.mem_cons]
          rcases List.mem_cons.mp hword with rfl | hother
          · exact Or.inl hc
          · exact Or.inr (Or.inr (ih hother))

/-- Between a character and the words behind it there is a space, or the
character belongs to the first of them. -/
theorem joinWords_words_cons {c : Char} (hc : isBlank c = false) {text : List Char}
    (hwords : words text ≠ []) :
    joinWords (words (c :: text)) =
      c :: ((if text.head?.any (!isBlank ·) then [] else [' ']) ++ joinWords (words text)) := by
  cases hgrows : text.head?.any (!isBlank ·) with
  | true =>
      obtain ⟨first, others, hfirst, hlonger⟩ := words_cons_word hc hgrows
      rw [hfirst, hlonger, if_pos rfl, List.nil_append]
      cases others with
      | nil => simp [joinWords]
      | cons next others => rw [joinWords_cons_cons, joinWords_cons_cons, List.cons_append]
  | false =>
      obtain ⟨first, others, hfirst⟩ := List.exists_cons_of_ne_nil hwords
      rw [words_cons_apart hc hgrows, if_neg (by decide), hfirst, joinWords_cons_cons]
      rfl

/-! ### Edges -/

section

variable {isEdge : Char → Bool} (hspace : isEdge ' ') {edge : List Char}
  (hedge : ∀ c ∈ edge, isEdge c)

include hspace hedge

theorem isEdge_of_mem_joinWords_words : ∀ c ∈ joinWords (words edge), isEdge c := by
  intro c hc
  rcases mem_joinWords_words hc with rfl | ⟨hmem, _⟩
  · exact hspace
  · exact hedge c hmem

/-- Edge characters in front of a word stay in front, spaced singly. -/
theorem exists_joinWords_words_leading {text : List Char} {c : Char} (hc : c ∈ text)
    (hblank : isBlank c = false) :
    ∃ front : List Char, (∀ c ∈ front, isEdge c) ∧
      joinWords (words (edge ++ text)) = front ++ joinWords (words text) := by
  induction edge with
  | nil => exact ⟨[], List.forall_mem_nil _, rfl⟩
  | cons first rest ih =>
      obtain ⟨hfirst, hrest⟩ := List.forall_mem_cons.mp hedge
      obtain ⟨front, hfront, hjoined⟩ := ih hrest
      rw [List.cons_append]
      by_cases hgap : isBlank first
      · exact ⟨front, hfront, by rw [words_cons_blank hgap, hjoined]⟩
      · have hwords : words (rest ++ text) ≠ [] :=
          words_ne_nil (List.mem_append_right rest hc) hblank
        rw [Bool.not_eq_true] at hgap
        rw [joinWords_words_cons hgap hwords, hjoined, ← List.append_assoc, ← List.cons_append]
        refine ⟨_, ?_, rfl⟩
        rw [List.forall_mem_cons, List.forall_mem_append]
        refine ⟨hfirst, ?_, hfront⟩
        split
        · exact List.forall_mem_nil _
        · exact List.forall_mem_singleton.mpr hspace

/-- Edge characters behind a word stay behind, spaced singly. -/
theorem exists_joinWords_words_trailing (text : List Char) {last : Char}
    (hlast : isBlank last = false) :
    ∃ tail : List Char, (∀ c ∈ tail, isEdge c) ∧
      joinWords (words (text ++ last :: edge)) = joinWords (words (text ++ [last])) ++ tail := by
  induction text with
  | nil =>
      have hsingle : joinWords (words [last]) = [last] := by
        rw [words_eq_singleton (List.cons_ne_nil _ _) (List.forall_mem_singleton.mpr hlast)]
        simp [joinWords]
      rw [List.nil_append, List.nil_append, hsingle]
      by_cases hnone : words edge = []
      · refine ⟨[], List.forall_mem_nil _, ?_⟩
        have hapart : edge.head?.any (!isBlank ·) = false := by
          cases edge with
          | nil => rfl
          | cons c rest =>
              rw [List.head?_cons, Option.any_some, ← Bool.not_eq_true]
              intro hc
              exact words_ne_nil List.mem_cons_self (by simpa using hc) hnone
        rw [words_cons_apart hlast hapart, hnone, List.append_nil]
        simp [joinWords]
      · rw [joinWords_words_cons hlast hnone, ← List.singleton_append]
        refine ⟨_, ?_, rfl⟩
        rw [List.forall_mem_append]
        refine ⟨?_, isEdge_of_mem_joinWords_words hspace hedge⟩
        split
        · exact List.forall_mem_nil _
        · exact List.forall_mem_singleton.mpr hspace
  | cons c rest ih =>
      obtain ⟨tail, htail, hjoined⟩ := ih
      refine ⟨tail, htail, ?_⟩
      rw [List.cons_append, List.cons_append]
      by_cases hc : isBlank c
      · rw [words_cons_blank hc, words_cons_blank hc, hjoined]
      · rw [Bool.not_eq_true] at hc
        have hlonger : words (rest ++ last :: edge) ≠ [] :=
          words_ne_nil (List.mem_append_right rest List.mem_cons_self) hlast
        have hshorter : words (rest ++ [last]) ≠ [] :=
          words_ne_nil (List.mem_append_right rest List.mem_cons_self) hlast
        have hhead : (rest ++ last :: edge).head? = (rest ++ [last]).head? := by
          cases rest <;> rfl
        rw [joinWords_words_cons hc hlonger, joinWords_words_cons hc hshorter, hjoined, hhead,
          List.cons_append, List.append_assoc]

end

/-! ### Trimming -/

/-- Only edge characters are trimmed, and as many as stand at either end. -/
theorem exists_eq_append_trim (isEdge : Char → Bool) (text : List Char) :
    ∃ front tail : List Char, (∀ c ∈ front, isEdge c) ∧ (∀ c ∈ tail, isEdge c) ∧
      text = front ++ trim isEdge text ++ tail := by
  have hmem : ∀ (part : List Char), ∀ c ∈ part.takeWhile isEdge, isEdge c :=
    fun _ _ hc => List.mem_takeWhile_imp hc
  refine ⟨text.takeWhile isEdge,
    ((text.dropWhile isEdge).reverse.takeWhile isEdge).reverse, hmem text, ?_, ?_⟩
  · intro c hc
    exact hmem _ c (List.mem_reverse.mp hc)
  · rw [trim, List.append_assoc, ← List.reverse_append, List.takeWhile_append_dropWhile,
      List.reverse_reverse, List.takeWhile_append_dropWhile]

theorem trim_ends (isEdge : Char → Bool) (text : List Char) :
    (∀ c ∈ (trim isEdge text).head?, isEdge c = false) ∧
      ∀ c ∈ (trim isEdge text).getLast?, isEdge c = false := by
  constructor
  · intro c hc
    obtain ⟨rest, htrim⟩ := List.head?_eq_some_iff.mp hc
    have hdropped : trim isEdge text <+: text.dropWhile isEdge := by
      rw [trim]
      exact List.reverse_suffix.mp (by rw [List.reverse_reverse]; exact List.dropWhile_suffix _)
    obtain ⟨tail, htail⟩ := hdropped
    have hhead := List.head?_dropWhile_not isEdge text
    rw [← htail, htrim] at hhead
    exact hhead
  · intro c hc
    rw [trim, List.getLast?_reverse] at hc
    have hhead := List.head?_dropWhile_not isEdge (text.dropWhile isEdge).reverse
    rw [hc] at hhead
    exact hhead

theorem trim_ne_nil {isEdge : Char → Bool} {text : List Char} {c : Char} (hc : c ∈ text)
    (hedge : isEdge c = false) : trim isEdge text ≠ [] := by
  obtain ⟨front, tail, hfront, htail, htext⟩ := exists_eq_append_trim isEdge text
  intro hnil
  rw [hnil, List.append_nil] at htext
  rw [htext, List.mem_append] at hc
  rcases hc with hmem | hmem
  · rw [hfront c hmem] at hedge
    cases hedge
  · rw [htail c hmem] at hedge
    cases hedge

end SpokenCalculator.Text
