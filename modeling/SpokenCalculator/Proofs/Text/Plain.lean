import SpokenCalculator.Phrase.Normal
import SpokenCalculator.Proofs.Text.Words

namespace SpokenCalculator.Text

def IsPlain (c : Char) : Prop := c.toNat < 0x41 ∨ (0x61 ≤ c.toNat ∧ c.toNat ≤ 0x7A)

theorem isLetter_iff (c : Char) : Phrase.isLetter c ↔ 0x61 ≤ c.toNat ∧ c.toNat ≤ 0x7A := by
  simp only [Phrase.isLetter, Bool.and_eq_true, decide_eq_true_eq, Char.le_def,
    UInt32.le_iff_toNat_le]
  exact Iff.rfl

theorem isPlain_of_isLetter {c : Char} (h : Phrase.isLetter c) : IsPlain c :=
  Or.inr ((isLetter_iff c).mp h)

theorem forall_isLetter (property : Char → Bool)
    (hall : (List.range' 0x61 26).all fun code => property (Char.ofNat code)) {c : Char}
    (hletter : Phrase.isLetter c) : property c := by
  rw [Text.isLetter_iff] at hletter
  have hmem : c.toNat ∈ List.range' 0x61 26 := List.mem_range'_1.mpr (by omega)
  have := List.all_eq_true.mp hall c.toNat hmem
  rwa [Char.ofNat_toNat] at this

theorem isBlank_of_isLetter {c : Char} (h : Phrase.isLetter c) : isBlank c = false := by
  simpa using forall_isLetter (fun c => !isBlank c) (by decide) h

theorem isDigit_of_isLetter {c : Char} (h : Phrase.isLetter c) : isDigit c = false := by
  simpa using forall_isLetter (fun c => !isDigit c) (by decide) h

theorem lowerCaseOf_of_outside {c : Char}
    (h : ∀ run ∈ capitalRuns, c.toNat < run.first ∨ run.last < c.toNat) : lowerCaseOf c = c := by
  have hnone : (capitalRuns.find? fun run =>
      run.first ≤ c.toNat && c.toNat ≤ run.last && (c.toNat - run.first) % run.step == 0) =
        none := by
    rw [List.find?_eq_none]
    intro run hrun
    have houtside := h run hrun
    simp only [Bool.and_eq_true, decide_eq_true_eq, not_and]
    omega
  rw [lowerCaseOf, hnone]

/-- No run of capitals reaches below the first capital or into the small
letters. -/
theorem apart_of_mem_capitalRuns {run : CapitalRun} (h : run ∈ capitalRuns) :
    0x41 ≤ run.first ∧ (run.last < 0x61 ∨ 0x7A < run.first) := by
  have hall : capitalRuns.all fun run =>
      decide (0x41 ≤ run.first) && decide (run.last < 0x61 ∨ 0x7A < run.first) := by
    decide
  simpa using List.all_eq_true.mp hall run h

theorem lowerCaseOf_eq_self {c : Char} (h : IsPlain c) : lowerCaseOf c = c := by
  refine lowerCaseOf_of_outside fun run hrun => ?_
  have hapart := apart_of_mem_capitalRuns hrun
  unfold IsPlain at h
  omega

/-- A character that lower case leaves alone wherever it stands. -/
structure IsCaseless (c : Char) : Prop where
  lowerCaseOf_eq : lowerCaseOf c = c
  ne_sigma : c ≠ 'Σ'
  ne_dotted : c ≠ 'İ'

theorem IsPlain.isCaseless {c : Char} (h : IsPlain c) : IsCaseless c where
  lowerCaseOf_eq := lowerCaseOf_eq_self h
  ne_sigma := by
    rintro rfl
    revert h
    unfold IsPlain
    decide
  ne_dotted := by
    rintro rfl
    revert h
    unfold IsPlain
    decide

theorem lowerCase_of_caseless {text : List Char} (h : ∀ c ∈ text, IsCaseless c) :
    lowerCase text = text := by
  have hall : ∀ (casedBefore : Bool) (text : List Char), (∀ c ∈ text, IsCaseless c) →
      transduce lowerStep casedBefore text = text := by
    intro casedBefore text
    induction text generalizing casedBefore with
    | nil => exact fun _ => rfl
    | cons c rest ih =>
        intro hcaseless
        have hc := hcaseless c List.mem_cons_self
        have hstep : (lowerStep casedBefore c rest).2 = [c] := by
          simp [lowerStep, hc.ne_sigma, hc.ne_dotted, hc.lowerCaseOf_eq]
        rw [transduce_cons, hstep, ih _ fun d hd => hcaseless d (List.mem_cons_of_mem c hd)]
        rfl
  exact hall false text h

theorem lowerCase_eq_self {text : List Char} (h : ∀ c ∈ text, IsPlain c) :
    lowerCase text = text :=
  lowerCase_of_caseless fun c hc => (h c hc).isCaseless

theorem exists_range_of_coveredBy {ranges : List (Nat × Nat)} {code : Nat}
    (h : coveredBy ranges code) : ∃ range ∈ ranges, range.1 ≤ code ∧ code ≤ range.2 := by
  fun_induction coveredBy ranges code with
  | case1 => cases h
  | case2 => cases h
  | case3 first last rest code hlow hhigh =>
      exact ⟨(first, last), List.mem_cons_self, by omega, hhigh⟩
  | case4 first last rest code _ _ ih =>
      obtain ⟨range, hrange, hcode⟩ := ih h
      exact ⟨range, List.mem_cons_of_mem _ hrange, hcode⟩

/-- The search for a range does not end before the one that holds the code
point. -/
theorem coveredBy_of_mem {ranges : List (Nat × Nat)} {range : Nat × Nat} {code : Nat}
    (hsorted : ranges.Pairwise fun first second => first.1 ≤ second.1) (h : range ∈ ranges)
    (hlow : range.1 ≤ code) (hhigh : code ≤ range.2) : coveredBy ranges code := by
  fun_induction coveredBy ranges code with
  | case1 => cases h
  | case2 first last rest code hbelow =>
      rcases List.mem_cons.mp h with rfl | hrest
      · exact absurd hlow (Nat.not_le.mpr hbelow)
      · have hlater := (List.pairwise_cons.mp hsorted).1 range hrest
        omega
  | case3 => rfl
  | case4 first last rest code _ habove ih =>
      rcases List.mem_cons.mp h with rfl | hrest
      · exact absurd hhigh habove
      · exact ih (List.pairwise_cons.mp hsorted).2 hrest hlow hhigh

theorem blank_apart_of_mem_capitalRuns {run : CapitalRun} {range : Nat × Nat}
    (hrun : run ∈ capitalRuns) (hrange : range ∈ blankRanges) :
    range.2 < run.first ∨ run.last < range.1 := by
  have hall : capitalRuns.all fun run =>
      blankRanges.all fun range => decide (range.2 < run.first ∨ run.last < range.1) := by
    decide +kernel
  simpa using List.all_eq_true.mp (List.all_eq_true.mp hall run hrun) range hrange

theorem isCaseless_of_isBlank {c : Char} (h : isBlank c) : IsCaseless c where
  lowerCaseOf_eq := by
    refine lowerCaseOf_of_outside fun run hrun => ?_
    obtain ⟨range, hrange, hcode⟩ := exists_range_of_coveredBy h
    have hapart := blank_apart_of_mem_capitalRuns hrun hrange
    omega
  ne_sigma := by
    rintro rfl
    revert h
    decide
  ne_dotted := by
    rintro rfl
    revert h
    decide

end SpokenCalculator.Text
