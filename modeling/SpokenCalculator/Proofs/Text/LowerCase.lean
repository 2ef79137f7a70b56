import SpokenCalculator.Proofs.Text.Plain

namespace SpokenCalculator.Text

namespace CapitalRun

def smallFirst (run : CapitalRun) : Nat := (run.first + run.distance).toNat

def smallLast (run : CapitalRun) : Nat := (run.last + run.distance).toNat

/-- The small letters are characters, as the capitals are. -/
def IsSound (run : CapitalRun) : Prop :=
  0 ≤ run.first + run.distance ∧ (run.smallLast < 0xD800 ∨
    0xDFFF < run.smallFirst ∧ run.smallLast < 0x110000)

/-- No small letter of the run is a capital of the other: they lie apart, or they
take turns. -/
def Misses (run other : CapitalRun) : Prop :=
  run.smallLast < other.first ∨ other.last < run.smallFirst ∨
    (other.step = 2 ∧ (run.step = 2 ∨ run.first = run.last) ∧
      (run.smallFirst + other.first) % 2 = 1)

instance (run : CapitalRun) : Decidable run.IsSound := inferInstanceAs (Decidable (_ ∧ _))

theorem isSound_of_mem {run : CapitalRun} (h : run ∈ capitalRuns) : run.IsSound := by
  have hall : capitalRuns.all fun run => decide run.IsSound := by decide +kernel
  simpa using List.all_eq_true.mp hall run h

theorem misses_of_mem {run other : CapitalRun} (h : run ∈ capitalRuns)
    (hother : other ∈ capitalRuns) : run.Misses other := by
  have hall : capitalRuns.all fun run => capitalRuns.all fun other =>
      run.smallLast.blt other.first || other.last.blt run.smallFirst ||
        other.step.beq 2 && (run.step.beq 2 || run.first.beq run.last) &&
          ((run.smallFirst + other.first) % 2).beq 1 := by decide +kernel
  have hpair := List.all_eq_true.mp (List.all_eq_true.mp hall run h) other hother
  simpa [Misses, or_assoc, and_assoc] using hpair

/-- The signs that no small letter lies among: white space, the punctuation of
sentences, and the capital that becomes two characters. -/
def apartRanges : List (Nat × Nat) :=
  (0x20, 0x21) :: (0x2C, 0x2C) :: (0x2E, 0x2E) :: (0x3F, 0x3F) :: (0x130, 0x130) :: blankRanges

theorem apart_of_mem_apartRanges {run : CapitalRun} {range : Nat × Nat} (h : run ∈ capitalRuns)
    (hrange : range ∈ apartRanges) : run.smallLast < range.1 ∨ range.2 < run.smallFirst := by
  have hall : capitalRuns.all fun run => apartRanges.all fun range =>
      decide (run.smallLast < range.1 ∨ range.2 < run.smallFirst) := by decide +kernel
  simpa using List.all_eq_true.mp (List.all_eq_true.mp hall run h) range hrange

theorem apart_of_mem_decimalZeros {run : CapitalRun} {first : Nat} (h : run ∈ capitalRuns)
    (hfirst : first ∈ decimalZeros) : run.smallLast < first ∨ first + 9 < run.smallFirst := by
  have hall : capitalRuns.all fun run => decimalZeros.all fun first =>
      run.smallLast.blt first || (first + 9).blt run.smallFirst := by decide +kernel
  simpa using List.all_eq_true.mp (List.all_eq_true.mp hall run h) first hfirst

end CapitalRun

/-- A character is its own small letter, or it is a capital of a run. -/
theorem lowerCaseOf_cases (c : Char) :
    lowerCaseOf c = c ∨ ∃ run ∈ capitalRuns, run.first ≤ c.toNat ∧ c.toNat ≤ run.last ∧
      (c.toNat - run.first) % run.step = 0 ∧
        ((lowerCaseOf c).toNat : Int) = c.toNat + run.distance := by
  unfold lowerCaseOf
  split
  · rename_i run hfind
    have hcovers := List.find?_some hfind
    have hrun := List.mem_of_find?_eq_some hfind
    simp only [Bool.and_eq_true, decide_eq_true_eq, beq_iff_eq] at hcovers
    obtain ⟨⟨hfirst, hlast⟩, hstep⟩ := hcovers
    obtain ⟨hpositive, hsound⟩ := CapitalRun.isSound_of_mem hrun
    refine Or.inr ⟨run, hrun, hfirst, hlast, hstep, ?_⟩
    have hvalid : Nat.isValidChar (c.toNat + run.distance).toNat := by
      unfold CapitalRun.smallFirst CapitalRun.smallLast at hsound
      rcases hsound with hlow | ⟨hhigh, hend⟩
      · exact Or.inl (by omega)
      · exact Or.inr ⟨by omega, by omega⟩
    have hcode : (Char.ofNat (c.toNat + run.distance).toNat).toNat =
        (c.toNat + run.distance).toNat := by
      rw [Char.ofNat, dif_pos hvalid]
      rfl
    rw [hcode]
    omega
  · exact Or.inl rfl

theorem small_between {run : CapitalRun} {code small : Nat} (hfirst : run.first ≤ code)
    (hlast : code ≤ run.last) (hsmall : (small : Int) = code + run.distance) :
    run.smallFirst ≤ small ∧ small ≤ run.smallLast := by
  unfold CapitalRun.smallFirst CapitalRun.smallLast
  omega

theorem lowerCaseOf_lowerCaseOf (c : Char) : lowerCaseOf (lowerCaseOf c) = lowerCaseOf c := by
  rcases lowerCaseOf_cases c with hsame | ⟨run, hrun, hfirst, hlast, hstep, hsmall⟩
  · exact congrArg lowerCaseOf hsame
  · rcases lowerCaseOf_cases (lowerCaseOf c) with
      hsame | ⟨other, hother, hlow, hhigh, hcapital, _⟩
    · exact hsame
    · have hbetween := small_between hfirst hlast hsmall
      have hpositive := (CapitalRun.isSound_of_mem hrun).1
      rcases CapitalRun.misses_of_mem hrun hother with
        hbelow | habove | ⟨heven, hsteps, hodd⟩
      · omega
      · omega
      · -- capitals of the other run are an even number of places from its first one
        have hsame : (c.toNat - run.first) % 2 = 0 := by
          rcases hsteps with htwo | hsingle
          · rwa [htwo] at hstep
          · omega
        rw [heven] at hcapital
        unfold CapitalRun.smallFirst at hodd
        omega

theorem apart_lowerCaseOf {c : Char} {range : Nat × Nat}
    (hrange : range ∈ CapitalRun.apartRanges) (hc : c.toNat < range.1 ∨ range.2 < c.toNat) :
    (lowerCaseOf c).toNat < range.1 ∨ range.2 < (lowerCaseOf c).toNat := by
  rcases lowerCaseOf_cases c with hsame | ⟨run, hrun, hfirst, hlast, _, hsmall⟩
  · rwa [hsame]
  · have hbetween := small_between hfirst hlast hsmall
    have hapart := CapitalRun.apart_of_mem_apartRanges hrun hrange
    omega

theorem isDecimalDigit_lowerCaseOf {c : Char} (hc : isDecimalDigit c = false) :
    isDecimalDigit (lowerCaseOf c) = false := by
  rcases lowerCaseOf_cases c with hsame | ⟨run, hrun, hfirst, hlast, _, hsmall⟩
  · rwa [hsame]
  · have hbetween := small_between hfirst hlast hsmall
    rw [isDecimalDigit, digitValue?, Option.isSome_map, ← Bool.not_eq_true, List.find?_isSome]
    rintro ⟨first, hmem, hvalue⟩
    rw [Bool.and_eq_true, decide_eq_true_eq, decide_eq_true_eq] at hvalue
    have hapart := CapitalRun.apart_of_mem_decimalZeros hrun hmem
    omega

theorem isCaseless_lowerCaseOf {c : Char} (hdotted : c ≠ 'İ') : IsCaseless (lowerCaseOf c) where
  lowerCaseOf_eq := lowerCaseOf_lowerCaseOf c
  ne_sigma h := by
    have hsmall := lowerCaseOf_lowerCaseOf c
    rw [h] at hsmall
    exact absurd hsmall (by decide)
  ne_dotted h := by
    have hrange : (0x130, 0x130) ∈ CapitalRun.apartRanges := by decide
    have hcode : c.toNat ≠ 'İ'.toNat := fun heq => hdotted (Char.toNat_inj.mp heq)
    have hapart := apart_lowerCaseOf hrange (Nat.lt_or_gt_of_ne hcode)
    rw [h] at hapart
    exact absurd hapart (by decide)

/-! ### Whole texts -/

theorem forall_mem_lowerStep {property : Char → Prop} {c : Char}
    (hsigma : c = 'Σ' → property 'σ' ∧ property 'ς')
    (hdotted : c = 'İ' → property 'i' ∧ property (Char.ofNat 0x307))
    (hother : c ≠ 'Σ' → c ≠ 'İ' → property (lowerCaseOf c)) (casedBefore : Bool)
    (rest : List Char) : ∀ small ∈ (lowerStep casedBefore c rest).2, property small := by
  unfold lowerStep
  dsimp only
  split
  · rename_i hc
    rw [beq_iff_eq] at hc
    rw [List.forall_mem_singleton]
    split
    · exact (hsigma hc).2
    · exact (hsigma hc).1
  · rename_i hnot
    split
    · rename_i hc
      rw [beq_iff_eq] at hc
      rw [List.forall_mem_cons, List.forall_mem_singleton]
      exact hdotted hc
    · rename_i hc
      rw [List.forall_mem_singleton]
      exact hother (by simpa using hnot) (by simpa using hc)

theorem lowerStep_ne_nil (casedBefore : Bool) (c : Char) (rest : List Char) :
    (lowerStep casedBefore c rest).2 ≠ [] := by
  unfold lowerStep
  dsimp only
  split
  · exact List.cons_ne_nil _ _
  · split <;> exact List.cons_ne_nil _ _

theorem forall_mem_transduce {σ : Type} {step : σ → Char → List Char → σ × List Char}
    {property : Char → Prop} {text : List Char}
    (h : ∀ c ∈ text, ∀ state rest, ∀ d ∈ (step state c rest).2, property d) (state : σ) :
    ∀ d ∈ transduce step state text, property d := by
  induction text generalizing state with
  | nil => exact List.forall_mem_nil _
  | cons c rest ih =>
      rw [transduce_cons, List.forall_mem_append]
      exact ⟨h c List.mem_cons_self state rest,
        ih (fun d hd => h d (List.mem_cons_of_mem c hd)) _⟩

section

variable {σ : Type} {step : σ → Char → List Char → σ × List Char} {property : Char → Prop}
  (hne : ∀ state c rest, (step state c rest).2 ≠ [])
  (hstep : ∀ c, property c → ∀ state rest, ∀ d ∈ (step state c rest).2, property d)

include hne hstep

theorem forall_head?_transduce {text : List Char} (h : ∀ c ∈ text.head?, property c) (state : σ) :
    ∀ d ∈ (transduce step state text).head?, property d := by
  cases text with
  | nil => nofun
  | cons c rest =>
      intro d hd
      rw [transduce_cons, List.head?_append, List.head?_eq_some_head (hne state c rest),
        Option.some_or, ← List.head?_eq_some_head] at hd
      exact hstep c (h c rfl) state rest d (List.mem_of_mem_head? hd)

theorem forall_getLast?_transduce {text : List Char} (h : ∀ c ∈ text.getLast?, property c)
    (state : σ) : ∀ d ∈ (transduce step state text).getLast?, property d := by
  induction text generalizing state with
  | nil => nofun
  | cons c rest ih =>
      intro d hd
      rw [transduce_cons] at hd
      cases rest with
      | nil =>
          rw [transduce_nil, List.append_nil] at hd
          exact hstep c (h c rfl) state [] d (List.mem_of_mem_getLast? hd)
      | cons next others =>
          have hrest : transduce step (step state c (next :: others)).1 (next :: others) ≠ [] := by
            rw [transduce_cons]
            exact List.append_ne_nil_of_left_ne_nil (hne _ _ _) _
          rw [List.getLast?_append, List.getLast?_eq_some_getLast hrest, Option.some_or,
            ← List.getLast?_eq_some_getLast] at hd
          rw [List.getLast?_cons_cons] at h
          exact ih h _ d hd

end

theorem exists_mem_transduce {σ : Type} {step : σ → Char → List Char → σ × List Char}
    {text : List Char} {c : Char} (hc : c ∈ text) (state : σ) :
    ∃ state' rest, ∀ d ∈ (step state' c rest).2, d ∈ transduce step state text := by
  induction text generalizing state with
  | nil => cases hc
  | cons first rest ih =>
      rw [transduce_cons]
      rcases List.mem_cons.mp hc with rfl | hc
      · exact ⟨state, rest, fun d hd => List.mem_append_left _ hd⟩
      · obtain ⟨state', rest', hmem⟩ := ih hc (step state first rest).1
        exact ⟨state', rest', fun d hd => List.mem_append_right _ (hmem d hd)⟩

theorem exists_mem_lowerCase {text : List Char} {c : Char} (hc : c ∈ text) :
    ∃ small ∈ lowerCase text, ∃ casedBefore rest, small ∈ (lowerStep casedBefore c rest).2 := by
  obtain ⟨casedBefore, rest, hmem⟩ :
      ∃ casedBefore rest, ∀ d ∈ (lowerStep casedBefore c rest).2, d ∈ lowerCase text :=
    exists_mem_transduce hc false
  obtain ⟨small, hsmall⟩ := List.exists_mem_of_ne_nil _ (lowerStep_ne_nil casedBefore c rest)
  exact ⟨small, hmem small hsmall, casedBefore, rest, hsmall⟩

theorem isCaseless_of_mem_lowerCase {text : List Char} {c : Char} (h : c ∈ lowerCase text) :
    IsCaseless c := by
  have hspecial : ∀ c ∈ ['σ', 'ς', 'i', Char.ofNat 0x307], IsCaseless c := by
    have hall : ['σ', 'ς', 'i', Char.ofNat 0x307].all fun c =>
        lowerCaseOf c == c && c != 'Σ' && c != 'İ' := by decide
    intro c hc
    have hquiet := List.all_eq_true.mp hall c hc
    simp only [Bool.and_eq_true, beq_iff_eq, bne_iff_ne] at hquiet
    exact ⟨hquiet.1.1, hquiet.1.2, hquiet.2⟩
  refine forall_mem_transduce (fun d _ casedBefore rest => ?_) false c h
  exact forall_mem_lowerStep
    (fun _ => ⟨hspecial 'σ' (by simp), hspecial 'ς' (by simp)⟩)
    (fun _ => ⟨hspecial 'i' (by simp), hspecial _ (by simp)⟩)
    (fun _ hdotted => isCaseless_lowerCaseOf hdotted) casedBefore rest

/-! ### The basic alphabet -/

theorem forall_basic (property : Char → Bool)
    (hall : (List.range 128).all fun code => property (Char.ofNat code)) {c : Char}
    (hbasic : c.toNat < 128) : property c := by
  have hc := List.all_eq_true.mp hall c.toNat (List.mem_range.mpr hbasic)
  rwa [Char.ofNat_toNat] at hc

theorem basic_of_toLower {c : Char} (h : c.toLower.toNat < 128) : c.toNat < 128 := by
  unfold Char.toLower at h
  split at h
  · rename_i hcapital
    have hlast : c.val.toNat ≤ 90 := hcapital.2
    exact Nat.lt_of_le_of_lt hlast (by decide)
  · exact h

theorem lowerStep_basic {c : Char} (hbasic : c.toNat < 128) (casedBefore : Bool)
    (rest : List Char) : (lowerStep casedBefore c rest).2 = [c.toLower] := by
  have hlower := forall_basic
    (fun c => c != 'Σ' && c != 'İ' && lowerCaseOf c == c.toLower) (by decide +kernel) hbasic
  simp only [Bool.and_eq_true, bne_iff_ne, beq_iff_eq] at hlower
  simp [lowerStep, hlower]

theorem lowerCase_of_basic {text : List Char} (hbasic : ∀ c ∈ text, c.toNat < 128) :
    lowerCase text = text.map Char.toLower := by
  have hall : ∀ casedBefore, transduce lowerStep casedBefore text = text.map Char.toLower := by
    induction text with
    | nil => exact fun _ => rfl
    | cons c rest ih =>
        obtain ⟨hc, hrest⟩ := List.forall_mem_cons.mp hbasic
        intro casedBefore
        rw [transduce_cons, lowerStep_basic hc, ih hrest]
        rfl
  exact hall false

end SpokenCalculator.Text
