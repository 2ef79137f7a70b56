import Mathlib.Data.List.Infix
import SpokenCalculator.Proofs.Text.Plain
import SpokenCalculator.Text.WholePhrase

/-!
# Texts in two parts

What is done to a text before it is read is done to its parts, when a character
stands between them that no word goes across. Such a character is like the end
of the text for the part before it and like its beginning for the part behind.
-/

namespace SpokenCalculator.Text

/-- A transduction that does not look into the second part of a text. -/
theorem exists_transduce_append {σ : Type} (step : σ → Char → List Char → σ × List Char)
    {behind : List Char}
    (hahead : ∀ state c rest, step state c (rest ++ behind) = step state c rest) (state : σ)
    (text : List Char) :
    ∃ last, transduce step state (text ++ behind) =
      transduce step state text ++ transduce step last behind := by
  induction text generalizing state with
  | nil => exact ⟨state, rfl⟩
  | cons c rest ih =>
      obtain ⟨last, hrest⟩ := ih (step state c rest).1
      refine ⟨last, ?_⟩
      rw [List.cons_append, transduce_cons, transduce_cons, hahead, hrest, List.append_assoc]

/-! ### Lower case -/

/-- A character that lower case leaves alone and behind which a word begins
anew. -/
structure IsUncased (c : Char) : Prop extends IsCaseless c where
  not_ignorable : isCaseIgnorable c = false
  not_cased : isCased c = false

theorem isUncased_space : IsUncased ' ' where
  toIsCaseless := isCaseless_of_isBlank (by decide)
  not_ignorable := by decide
  not_cased := by decide

section

variable {c : Char} (h : IsUncased c)

include h

theorem IsUncased.casedAhead_append (text behind : List Char) :
    casedAhead (text ++ c :: behind) = casedAhead text := by
  have hfirst : (c :: behind).find? (fun d => !isCaseIgnorable d) = some c :=
    List.find?_cons_of_pos (by simp [h.not_ignorable])
  rw [casedAhead, casedAhead, List.find?_append, hfirst]
  cases text.find? fun d => !isCaseIgnorable d with
  | none => exact h.not_cased
  | some d => rfl

theorem IsUncased.lowerCase_append (text behind : List Char) :
    lowerCase (text ++ c :: behind) = lowerCase text ++ c :: lowerCase behind := by
  have hahead : ∀ casedBefore d rest,
      lowerStep casedBefore d (rest ++ c :: behind) = lowerStep casedBefore d rest :=
    fun casedBefore d rest => by rw [lowerStep, lowerStep, h.casedAhead_append]
  obtain ⟨last, hparts⟩ := exists_transduce_append lowerStep hahead false text
  have hstep : lowerStep last c behind = (false, [c]) := by
    simp [lowerStep, h.lowerCaseOf_eq, h.ne_sigma, h.ne_dotted, h.not_ignorable, h.not_cased]
  rw [lowerCase, hparts, transduce_cons, hstep]
  rfl

end

theorem lowerCase_append_space (text behind : List Char) :
    lowerCase (text ++ ' ' :: behind) = lowerCase text ++ ' ' :: lowerCase behind :=
  isUncased_space.lowerCase_append text behind

theorem lowerCase_of_uncased {front : List Char} (hfront : ∀ c ∈ front, IsUncased c)
    (text : List Char) : lowerCase (front ++ text) = front ++ lowerCase text := by
  induction front with
  | nil => rfl
  | cons c others ih =>
      obtain ⟨hc, hothers⟩ := List.forall_mem_cons.mp hfront
      exact (hc.lowerCase_append [] (others ++ text)).trans (congrArg (c :: ·) (ih hothers))

/-! ### Steps in context -/

/-- A step in context to which characters of a kind are like the ends of the
text, and which writes the character itself at either end. -/
structure IsParting (step : Option Char → Char → List Char → List Char) (isGap : Char → Bool) :
    Prop where
  ahead {gap : Char} : isGap gap → ∀ before c rest behind,
    step before c (rest ++ gap :: behind) = step before c rest
  behind {gap : Char} : isGap gap → step (some gap) = step none
  first c rest : step none c rest = [c]
  last before c : step before c [] = [c]

theorem IsParting.mono {step : Option Char → Char → List Char → List Char}
    {isGap isLarger : Char → Bool} (h : IsParting step isLarger)
    (hgap : ∀ c, isGap c → isLarger c) : IsParting step isGap where
  ahead := fun hc => h.ahead (hgap _ hc)
  behind := fun hc => h.behind (hgap _ hc)
  first := h.first
  last := h.last

namespace IsParting

variable {step : Option Char → Char → List Char → List Char} {isGap : Char → Bool}
  {gap : Char} (h : IsParting step isGap)

include h

theorem transduce_some (hgap : isGap gap) (text : List Char) :
    transduce (fun previous c rest => (some c, step previous c rest)) (some gap) text =
      transduceInContext step text := by
  cases text with
  | nil => rfl
  | cons c rest => rw [transduceInContext, transduce_cons, transduce_cons, h.behind hgap]

theorem transduceInContext_cons (hgap : isGap gap) (text : List Char) :
    transduceInContext step (gap :: text) = gap :: transduceInContext step text := by
  rw [transduceInContext, transduce_cons, h.first, h.transduce_some hgap]
  rfl

theorem transduceInContext_of_gaps {gaps : List Char} (hgaps : ∀ c ∈ gaps, isGap c)
    (text : List Char) :
    transduceInContext step (gaps ++ text) = gaps ++ transduceInContext step text := by
  induction gaps with
  | nil => rfl
  | cons gap others ih =>
      obtain ⟨hgap, hothers⟩ := List.forall_mem_cons.mp hgaps
      rw [List.cons_append, h.transduceInContext_cons hgap, ih hothers, List.cons_append]

/-- A gap that is always written is left between the parts. -/
theorem transduceInContext_append (hgap : isGap gap)
    (hwritten : ∀ before rest, step before gap rest = [gap]) (text behind : List Char) :
    transduceInContext step (text ++ gap :: behind) =
      transduceInContext step text ++ gap :: transduceInContext step behind := by
  obtain ⟨last, hparts⟩ := exists_transduce_append
    (fun previous c rest => (some c, step previous c rest))
    (fun previous c rest => congrArg (some c, ·) (h.ahead hgap previous c rest behind)) none text
  rw [transduceInContext, hparts, transduce_cons, hwritten, h.transduce_some hgap]
  rfl

/-- Nothing acts across the border of two texts if one of them has such a gap
there. -/
theorem transduceInContext_append_of_last {text : List Char}
    (hlast : ∀ c ∈ text.getLast?, isGap c ∧ ∀ before rest, step before c rest = [c])
    (behind : List Char) :
    transduceInContext step (text ++ behind) =
      transduceInContext step text ++ transduceInContext step behind := by
  rcases List.eq_nil_or_concat' text with rfl | ⟨front, gap, rfl⟩
  · rfl
  · obtain ⟨hgap, hwritten⟩ := hlast gap List.getLast?_concat
    have hparts := h.transduceInContext_append hgap hwritten front
    rw [List.append_assoc, List.singleton_append, hparts, hparts, List.append_assoc]
    rfl

theorem transduceInContext_append_of_first {behind : List Char}
    (hfirst : ∀ c ∈ behind.head?, isGap c ∧ ∀ before rest, step before c rest = [c])
    (text : List Char) :
    transduceInContext step (text ++ behind) =
      transduceInContext step text ++ transduceInContext step behind := by
  cases behind with
  | nil => rw [List.append_nil]; exact (List.append_nil _).symm
  | cons gap rest =>
      obtain ⟨hgap, hwritten⟩ := hfirst gap rfl
      rw [h.transduceInContext_append hgap hwritten, h.transduceInContext_cons hgap]

/-- Gaps at the end stay, because nothing comes behind them. -/
theorem transduceInContext_append_gaps {gaps : List Char} (hgaps : ∀ c ∈ gaps, isGap c)
    (text : List Char) :
    transduceInContext step (text ++ gaps) = transduceInContext step text ++ gaps := by
  cases gaps with
  | nil => rw [List.append_nil, List.append_nil]
  | cons gap others =>
      obtain ⟨hgap, hothers⟩ := List.forall_mem_cons.mp hgaps
      obtain ⟨last, hparts⟩ := exists_transduce_append
        (fun previous c rest => (some c, step previous c rest))
        (fun previous c rest => congrArg (some c, ·) (h.ahead hgap previous c rest others))
        none text
      have hwritten : step last gap others = [gap] := by
        cases others with
        | nil => exact h.last last gap
        | cons next others =>
            have hnext := h.ahead (hothers next List.mem_cons_self) last gap [] others
            rw [List.nil_append] at hnext
            rw [hnext, h.last]
      have hnil : transduceInContext step [] = [] := rfl
      have hrest := h.transduceInContext_of_gaps hothers []
      rw [List.append_nil, hnil, List.append_nil] at hrest
      rw [transduceInContext, hparts, transduce_cons, hwritten, h.transduce_some hgap, hrest]
      rfl

theorem head?_transduceInContext (text : List Char) :
    (transduceInContext step text).head? = text.head? := by
  cases text with
  | nil => rfl
  | cons c rest =>
      rw [transduceInContext, transduce_cons, h.first]
      rfl

theorem getLast?_transduceInContext (text : List Char) :
    (transduceInContext step text).getLast? = text.getLast? := by
  have hall : ∀ before : Option Char,
      (transduce (fun previous c rest => (some c, step previous c rest)) before text).getLast? =
        text.getLast? := by
    induction text with
    | nil => exact fun _ => rfl
    | cons c rest ih =>
        intro before
        rw [transduce_cons]
        cases rest with
        | nil => rw [h.last, transduce_nil, List.append_nil]
        | cons next others =>
            rw [List.getLast?_append, ih, List.getLast?_cons_cons, List.getLast?_cons]
            rfl
  exact hall none

end IsParting

/-! ### Whole phrases -/

theorem isWordEdge_congr {before before' after after' : Option Char}
    (hbefore : isWordAt before = isWordAt before') (hafter : isWordAt after = isWordAt after') :
    isWordEdge before after = isWordEdge before' after' := by
  rw [isWordEdge, isWordEdge, hbefore, hafter]

theorem isWordAt_lastOr_congr {before before' : Option Char}
    (h : isWordAt before = isWordAt before') (phrase : List Char) :
    isWordAt (lastOr before phrase) = isWordAt (lastOr before' phrase) := by
  unfold lastOr
  cases phrase.getLast? with
  | none => exact h
  | some c => rfl

theorem standsAt_congr {before before' : Option Char} (h : isWordAt before = isWordAt before')
    (phrase text : List Char) : standsAt phrase before text = standsAt phrase before' text := by
  rw [standsAt, standsAt, isWordEdge_congr h rfl,
    isWordEdge_congr (isWordAt_lastOr_congr h phrase) rfl]

theorem lastOr_cons (before : Option Char) (c : Char) (rest : List Char) :
    lastOr before (c :: rest) = lastOr (some c) rest := by
  unfold lastOr
  rw [List.getLast?_cons]
  cases rest.getLast? <;> rfl

theorem lastOr_none (text : List Char) : lastOr none text = text.getLast? := by
  unfold lastOr
  cases text.getLast? <;> rfl

theorem isWordAt_lastOr {phrase : List Char} (hlast : phrase.getLast?.any isWordCharacter)
    (before : Option Char) : isWordAt (lastOr before phrase) = true := by
  unfold lastOr
  generalize phrase.getLast? = last at hlast ⊢
  cases last with
  | none => cases hlast
  | some last => exact hlast

theorem isWordAt_head?_append {behind : List Char} (hbehind : isWordAt behind.head? = false)
    (text : List Char) : isWordAt (text ++ behind).head? = isWordAt text.head? := by
  cases text with
  | nil => exact hbehind
  | cons c rest => rfl

/-- The phrase begins in the first of two texts, at its end at the latest, and
ends in the second. -/
def Spans (phrase text behind : List Char) : Prop :=
  ∃ front tail, phrase = front ++ tail ∧ tail ≠ [] ∧ front <:+ text ∧ tail <+: behind

section

variable {phrase text behind : List Char}

theorem not_spans_of_suffix {rest : List Char} (h : ¬ Spans phrase text behind)
    (hrest : rest <:+ text) : ¬ Spans phrase rest behind := by
  rintro ⟨front, tail, hphrase, hne, hfront, htail⟩
  exact h ⟨front, tail, hphrase, hne, hfront.trans hrest, htail⟩

theorem standsAt_append_of_prefix (hbegins : phrase <+: text)
    (hbehind : isWordAt behind.head? = false) (before : Option Char) :
    standsAt phrase before (text ++ behind) = standsAt phrase before text := by
  obtain ⟨rest, rfl⟩ := hbegins
  have hfirst := isWordAt_head?_append hbehind (phrase ++ rest)
  have hlast := isWordAt_head?_append hbehind rest
  rw [List.append_assoc] at hfirst ⊢
  rw [standsAt, standsAt, List.isPrefixOf_iff_prefix.mpr (List.prefix_append _ _),
    List.isPrefixOf_iff_prefix.mpr (List.prefix_append _ _), List.drop_left, List.drop_left,
    isWordEdge_congr rfl hfirst, isWordEdge_congr rfl hlast]

/-- A phrase that begins a text and goes beyond its end has a rest behind it. -/
theorem exists_tail_of_prefix_append (hbegins : ¬ phrase <+: text)
    (h : phrase <+: text ++ behind) :
    ∃ tail, phrase = text ++ tail ∧ tail ≠ [] ∧ tail <+: behind := by
  obtain ⟨more, hphrase⟩ := h
  rcases List.append_eq_append_iff.mp hphrase with ⟨rest, hshort, _⟩ | ⟨tail, rfl, htail⟩
  · exact absurd ⟨rest, hshort.symm⟩ hbegins
  · refine ⟨tail, rfl, ?_, more, htail.symm⟩
    rintro rfl
    exact hbegins (by rw [List.append_nil])

theorem standsAt_of_not_isPrefixOf (hbegins : ¬ phrase <+: text) (before : Option Char) :
    standsAt phrase before text = false := by
  rw [← List.isPrefixOf_iff_prefix, Bool.not_eq_true] at hbegins
  rw [standsAt, hbegins]
  rfl

theorem standsAt_append (hspans : ¬ Spans phrase text behind)
    (hbehind : isWordAt behind.head? = false) (before : Option Char) :
    standsAt phrase before (text ++ behind) = standsAt phrase before text := by
  by_cases hbegins : phrase <+: text
  · exact standsAt_append_of_prefix hbegins hbehind before
  · have hlonger : ¬ phrase <+: text ++ behind := by
      intro h
      obtain ⟨tail, hphrase, hne, htail⟩ := exists_tail_of_prefix_append hbegins h
      exact hspans ⟨text, tail, hphrase, hne, List.suffix_refl text, htail⟩
    rw [standsAt_of_not_isPrefixOf hbegins, standsAt_of_not_isPrefixOf hlonger]

theorem standsAt_nil (phrase : List Char) (before : Option Char) :
    standsAt phrase before [] = (phrase.isEmpty && isWordEdge before none) := by
  cases phrase with
  | nil => rw [standsAt]; simp [lastOr]
  | cons c rest => rfl

theorem transduce_replacementStep_congr {replacement : List Char} {before before' : Option Char}
    (h : isWordAt before = isWordAt before') (pending : Nat) (text : List Char) :
    transduce (replacementStep phrase replacement) ⟨before, pending⟩ text =
      transduce (replacementStep phrase replacement) ⟨before', pending⟩ text := by
  cases text with
  | nil => rfl
  | cons c rest =>
      have hstep : replacementStep phrase replacement ⟨before, pending⟩ c rest =
          replacementStep phrase replacement ⟨before', pending⟩ c rest := by
        cases pending with
        | succ left => rfl
        | zero => simp only [replacementStep, standsAt_congr h]
      rw [transduce_cons, transduce_cons, hstep]

/-- What is still to be passed over of a replaced phrase lies in the first part,
if the phrase stands in it wherever it stands in both. -/
theorem transduce_replacementStep_append {replacement : List Char} {before : Option Char}
    (hsame : ∀ front rest, text = front ++ rest →
      standsAt phrase (lastOr before front) (rest ++ behind) =
        standsAt phrase (lastOr before front) rest)
    {pending : Nat} (hpending : pending ≤ text.length) :
    transduce (replacementStep phrase replacement) ⟨before, pending⟩ (text ++ behind) =
      transduce (replacementStep phrase replacement) ⟨before, pending⟩ text ++
        transduce (replacementStep phrase replacement) ⟨lastOr before text, 0⟩ behind := by
  induction text generalizing before pending with
  | nil =>
      obtain rfl := Nat.le_zero.mp hpending
      rfl
  | cons c rest ih =>
      have hrest : ∀ front later, rest = front ++ later →
          standsAt phrase (lastOr (some c) front) (later ++ behind) =
            standsAt phrase (lastOr (some c) front) later := by
        rintro front later rfl
        rw [← lastOr_cons before]
        exact hsame (c :: front) later rfl
      rw [List.cons_append, transduce_cons, transduce_cons, lastOr_cons]
      cases pending with
      | succ left =>
          have hleft : left ≤ rest.length := Nat.le_of_succ_le_succ hpending
          exact ih hrest hleft
      | zero =>
          have hstands : standsAt phrase before (c :: rest ++ behind) =
              standsAt phrase before (c :: rest) := hsame [] (c :: rest) rfl
          rw [List.cons_append] at hstands
          simp only [replacementStep, hstands]
          split
          · rename_i hhere
            split
            · dsimp only
              rw [ih hrest (Nat.zero_le _), List.append_assoc, List.append_assoc, List.append_assoc]
            · rename_i left hlength
              have hleft : left ≤ rest.length := by
                rw [standsAt, Bool.and_assoc, Bool.and_eq_true,
                  List.isPrefixOf_iff_prefix] at hhere
                have hshort := hhere.1.length_le
                rw [hlength, List.length_cons] at hshort
                omega
              rw [ih hrest hleft, List.append_assoc]
          · rw [ih hrest (Nat.zero_le _), List.append_assoc]

/-- A phrase is replaced in each of two parts, when a character that is no word
character stands between them and the phrase stands in the first part wherever it
begins there. -/
theorem replaceWhole_append_of_standsAt {gap : Char} (hgap : isWordCharacter gap = false)
    (hsame : ∀ front rest, text = front ++ rest →
      standsAt phrase front.getLast? (rest ++ gap :: behind) =
        standsAt phrase front.getLast? rest)
    (replacement : List Char) :
    replaceWhole phrase replacement (text ++ gap :: behind) =
      replaceWhole phrase replacement text ++ gap :: replaceWhole phrase replacement behind := by
  have hborder : standsAt phrase text.getLast? (gap :: behind) =
      (phrase.isEmpty && isWordEdge text.getLast? none) := by
    rw [← standsAt_nil]
    exact hsame text [] (List.append_nil text).symm
  have hlast : isWordAt (text ++ gap :: behind).getLast? = isWordAt behind.getLast? := by
    rw [List.getLast?_append_cons, List.getLast?_cons]
    cases behind.getLast? with
    | none => exact hgap
    | some c => rfl
  have hgapped : replacementStep phrase replacement ⟨text.getLast?, 0⟩ gap behind =
      (⟨some gap, 0⟩,
        (if phrase.isEmpty && isWordEdge text.getLast? none then replacement else []) ++
          [gap]) := by
    simp only [replacementStep, hborder]
    split
    · rename_i hempty
      have hnil : phrase = [] := by simpa using (Bool.and_eq_true_iff.mp hempty).1
      rw [hnil]
      rfl
    · rfl
  have hstart : isWordAt (some gap) = isWordAt none := hgap
  have hparts : ∀ front rest, text = front ++ rest →
      standsAt phrase (lastOr none front) (rest ++ gap :: behind) =
        standsAt phrase (lastOr none front) rest := by
    intro front rest
    rw [lastOr_none]
    exact hsame front rest
  rw [replaceWhole, transduce_replacementStep_append hparts (Nat.zero_le _), lastOr_none,
    transduce_cons, hgapped, transduce_replacementStep_congr hstart, isWordEdge_congr hlast rfl,
    replaceWhole, replaceWhole]
  simp only [List.append_assoc, List.cons_append, List.nil_append]

/-- The phrase does so when it does not go across the gap. -/
theorem replaceWhole_append {gap : Char} (hgap : isWordCharacter gap = false)
    (hspans : ¬ Spans phrase text (gap :: behind)) (replacement : List Char) :
    replaceWhole phrase replacement (text ++ gap :: behind) =
      replaceWhole phrase replacement text ++ gap :: replaceWhole phrase replacement behind := by
  refine replaceWhole_append_of_standsAt hgap ?_ replacement
  rintro front rest rfl
  exact standsAt_append (not_spans_of_suffix hspans (List.suffix_append front rest)) hgap _

theorem replaceWhole_nil (hne : phrase ≠ []) (replacement : List Char) :
    replaceWhole phrase replacement [] = [] := by
  have hempty : phrase.isEmpty = false := by simpa using hne
  rw [replaceWhole, hempty]
  rfl

end

section

variable {phrase gaps : List Char} (hgaps : ∀ c ∈ gaps, isWordCharacter c = false)

include hgaps

/-- A phrase that begins with a word character is not replaced among other
characters in front of a text. -/
theorem replaceWhole_of_gaps (hfirst : phrase.head?.any isWordCharacter)
    (replacement text : List Char) :
    replaceWhole phrase replacement (gaps ++ text) =
      gaps ++ replaceWhole phrase replacement text := by
  obtain ⟨c, rest, rfl⟩ := List.exists_cons_of_ne_nil (l := phrase) (by rintro rfl; cases hfirst)
  induction gaps with
  | nil => rfl
  | cons gap others ih =>
      obtain ⟨hgap, hothers⟩ := List.forall_mem_cons.mp hgaps
      have hspans : ¬ Spans (c :: rest) [] (gap :: (others ++ text)) := by
        rintro ⟨front, tail, hphrase, _, hfront, htail⟩
        obtain rfl := List.suffix_nil.mp hfront
        rw [List.nil_append] at hphrase
        rw [← hphrase, List.cons_prefix_cons] at htail
        rw [htail.1, List.head?_cons, Option.any_some, hgap] at hfirst
        cases hfirst
      have hsplit := replaceWhole_append hgap hspans replacement
      rw [List.nil_append, replaceWhole_nil (List.cons_ne_nil c rest), List.nil_append] at hsplit
      rw [List.cons_append, hsplit, ih hothers, List.cons_append]

theorem replaceWhole_append_gaps (hfirst : phrase.head?.any isWordCharacter)
    (hlast : phrase.getLast?.any isWordCharacter) (replacement text : List Char) :
    replaceWhole phrase replacement (text ++ gaps) =
      replaceWhole phrase replacement text ++ gaps := by
  have hne : phrase ≠ [] := by
    rintro rfl
    cases hfirst
  cases gaps with
  | nil => rw [List.append_nil, List.append_nil]
  | cons gap others =>
      obtain ⟨hgap, hothers⟩ := List.forall_mem_cons.mp hgaps
      have hspans : ¬ Spans phrase text (gap :: others) := by
        rintro ⟨front, tail, rfl, htail, _, hbehind⟩
        rw [List.getLast?_append_of_ne_nil _ htail, List.getLast?_eq_some_getLast htail,
          Option.any_some, hgaps _ (hbehind.subset (List.getLast_mem htail))] at hlast
        cases hlast
      have hrest := replaceWhole_of_gaps hothers hfirst replacement []
      rw [List.append_nil, replaceWhole_nil hne, List.append_nil] at hrest
      rw [replaceWhole_append hgap hspans, hrest]

end

end SpokenCalculator.Text
