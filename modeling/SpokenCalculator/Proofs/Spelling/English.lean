import Mathlib.Data.Rat.Cast.Defs
import SpokenCalculator.Proofs.Spelling.Parts

/-!
# Reading English numerals

A reader of English numerals that is independent of the speaker. Periods stand
in descending order, each with its count below two thousand before it: some
hundreds, and one to ninety-nine. Every integer that has a spelling is read as
itself, so no two integers are spelled alike, and those without a spelling are
too large in absolute value.
-/

namespace SpokenCalculator

namespace English

open Phrase (heardWords)

def ones : List String :=
  ["one", "two", "three", "four", "five", "six", "seven", "eight", "nine", "ten", "eleven",
   "twelve", "thirteen", "fourteen", "fifteen", "sixteen", "seventeen", "eighteen", "nineteen"]

def tens : List String :=
  ["twenty", "thirty", "forty", "fifty", "sixty", "seventy", "eighty", "ninety"]

def periods : List (ℕ × String) :=
  [(10 ^ 15, "quadrillion"), (10 ^ 12, "trillion"), (10 ^ 9, "billion"), (10 ^ 6, "million"),
   (10 ^ 3, "thousand")]

def one? (word : String) : Option ℕ := (ones.idxOf? word).map (· + 1)

def ten? (word : String) : Option ℕ := (tens.idxOf? word).map fun place => 10 * (place + 2)

def belowHundred? : List String → Option ℕ
  | [word] => one? word <|> ten? word
  | [first, second] => do
      let count ← ten? first
      let rest ← one? second
      if rest < 10 then some (count + rest) else none
  | _ => none

/-- A count of hundreds, one to nineteen, and one to ninety-nine. One of them
may be missing. -/
def group? : List String → Option ℕ
  | first :: second :: rest =>
      if second = "hundred" then
        (one? first).bind fun count =>
          if rest = [] then some (100 * count) else (belowHundred? rest).map (100 * count + ·)
      else belowHundred? (first :: second :: rest)
  | words => belowHundred? words

/-- Groups with the names of their periods, the last one without a name. -/
def periods? : List (ℕ × String) → List String → Option ℕ
  | [], words => if words = [] then some 0 else group? words
  | (size, name) :: smaller, words =>
      if name ∈ words then do
        let count ← group? (words.takeWhile (· ≠ name))
        let rest ← periods? smaller (words.dropWhile (· ≠ name)).tail
        some (count * size + rest)
      else periods? smaller words

def natural? (words : List String) : Option ℕ :=
  if words = ["zero"] then some 0
  else if words = [] then none
  else periods? periods words

def digit? (word : String) : Option ℕ := ("zero" :: ones.take 9).idxOf? word

def fraction? : List String → Option ℚ
  | [] => some 0
  | word :: rest =>
      (digit? word).bind fun digit => (fraction? rest).map fun tail => (digit + tail) / 10

/-- A whole number, perhaps with a point and at least one digit behind it. -/
def unsigned? (words : List String) : Option ℚ :=
  if "point" ∈ words then
    let fraction := (words.dropWhile (· ≠ "point")).tail
    if fraction = [] then none
    else (natural? (words.takeWhile (· ≠ "point"))).bind fun whole =>
      (fraction? fraction).map (whole + ·)
  else (natural? words).map Nat.cast

def withSign? {α : Type} [Neg α] (read : List String → Option α) (words : List String) :
    Option α :=
  if words.head? = some "negative" then (read words.tail).map (- ·) else read words

def integer? (text : String) : Option ℤ :=
  withSign? (fun words => (natural? words).map Nat.cast) (heardWords text)

def number? (text : String) : Option ℚ := withSign? unsigned? (heardWords text)

section

variable {n : ℕ}

theorem one?_smallWord (hpos : 0 < n) (h : n < 20) : one? (Spelling.smallWord n) = some n := by
  have hall : ∀ n < 20, 0 < n → one? (Spelling.smallWord n) = some n := by decide
  exact hall n h hpos

theorem ten?_tensWord {count : ℕ} (hlow : 2 ≤ count) (h : count < 10) :
    one? (Spelling.tensWord count) = none ∧
      ten? (Spelling.tensWord count) = some (10 * count) := by
  have hall : ∀ count < 10, 2 ≤ count → one? (Spelling.tensWord count) = none ∧
      ten? (Spelling.tensWord count) = some (10 * count) := by decide
  exact hall count h hlow

theorem belowHundred?_text (hpos : 0 < n) (h : n < 100) :
    belowHundred? ((NumberWord.belowHundred n).map NumberWord.text) = some n := by
  rcases NumberWord.belowHundred_cases h with ⟨hlt, hn⟩ | ⟨hlow, hround, hn⟩ | ⟨hlow, hrest, hn⟩
  · rw [hn, List.map_singleton, belowHundred?, NumberWord.text, one?_smallWord hpos hlt]
    rfl
  · obtain ⟨hone, hten⟩ := ten?_tensWord (by omega : 2 ≤ n / 10) (by omega)
    rw [hn, List.map_singleton, belowHundred?, NumberWord.text, hone, hten]
    exact congrArg some (by omega)
  · obtain ⟨-, hten⟩ := ten?_tensWord (by omega : 2 ≤ n / 10) (by omega)
    have hone := one?_smallWord (by omega : 0 < n % 10) (by omega)
    have hlt : n % 10 < 10 := Nat.mod_lt n (by decide)
    rw [hn, List.map_cons, List.map_singleton, belowHundred?, NumberWord.text, NumberWord.text,
      hten, hone]
    simp only [Option.bind_eq_bind, Option.bind_some, if_pos hlt]
    exact congrArg some (by omega)

theorem group?_of_lt (h : n < 100) :
    group? ((NumberWord.belowHundred n).map NumberWord.text) =
      belowHundred? ((NumberWord.belowHundred n).map NumberWord.text) := by
  rcases NumberWord.belowHundred_cases h with ⟨hlt, hn⟩ | ⟨hlow, hround, hn⟩ | ⟨hlow, hrest, hn⟩
  · rw [hn]
    rfl
  · rw [hn]
    rfl
  · have hword : ∀ value < 20, Spelling.smallWord value ≠ "hundred" := by decide
    rw [hn]
    exact if_neg (hword (n % 10) (by omega))

theorem group?_text (hpos : 0 < n) (h : n < 2000) :
    group? ((NumberWord.group n).map NumberWord.text) = some n := by
  rcases NumberWord.group_cases n with ⟨hlt, hn⟩ | ⟨hlow, hround, hn⟩ | ⟨hlow, hrest, hn⟩
  · rw [hn, group?_of_lt hlt, belowHundred?_text hpos hlt]
  · have hcount := one?_smallWord (by omega : 0 < n / 100) (by omega)
    have hvalue : 100 * (n / 100) = n := by omega
    have hgroup : group? [Spelling.smallWord (n / 100), "hundred"] =
        (one? (Spelling.smallWord (n / 100))).bind fun count => some (100 * count) := rfl
    rw [hcount, Option.bind_some, hvalue] at hgroup
    rw [hn]
    exact hgroup
  · have hcount := one?_smallWord (by omega : 0 < n / 100) (by omega)
    have hbelow := belowHundred?_text (by omega : 0 < n % 100) (Nat.mod_lt n (by decide))
    have hvalue : 100 * (n / 100) + n % 100 = n := Nat.div_add_mod n 100
    have hne : (NumberWord.belowHundred (n % 100)).map NumberWord.text ≠ [] := by
      simpa using NumberWord.belowHundred_ne_nil (Nat.mod_lt n (by decide))
    rw [hn, List.map_cons, List.map_cons, group?, NumberWord.text, hcount, Option.bind_some,
      if_neg hne, hbelow, Option.map_some, hvalue]
    exact if_pos rfl

theorem fraction?_smallWord {digits : List ℕ} (hdigits : ∀ digit ∈ digits, digit < 10) :
    fraction? (digits.map Spelling.smallWord) =
      some ((digitsValue digits : ℚ) / 10 ^ digits.length) := by
  have hword : ∀ digit < 10, digit? (Spelling.smallWord digit) = some digit := by decide
  induction digits with
  | nil => simp [fraction?]
  | cons digit rest ih =>
      rw [List.forall_mem_cons] at hdigits
      rw [List.map_cons, fraction?, hword digit hdigits.1, ih hdigits.2, Option.bind_some,
        Option.map_some, digitsValue_cons, List.length_cons]
      congr 1
      push_cast
      field_simp
      ring

theorem withSign?_sign {α : Type} [Neg α] (read : List String → Option α) {words : List String}
    (hwords : words.head? ≠ some "negative") (negative : Bool) :
    withSign? read ((if negative then ["negative"] else []) ++ words) =
      if negative then (read words).map (- ·) else read words := by
  cases negative with
  | false => exact if_neg hwords
  | true => rfl

end

end English

namespace Spelling

open Phrase (heardWords)

variable {n : ℕ}

def groupTexts : List String := smallWords ++ tensWords ++ ["hundred"]

theorem mem_groupTexts {word : NumberWord} (h : word.IsGroupWord) : word.text ∈ groupTexts := by
  have hsmall : ∀ value < 20, smallWord value ∈ groupTexts := by decide
  have htens : ∀ count < 10, tensWord count ∈ groupTexts := by decide
  cases word with
  | small value => exact hsmall value h.proper
  | tens count => exact htens count h.proper.2
  | scale unit =>
      rw [h.scale unit rfl]
      decide

/-- A name that is heard as it is written and is no word of a group. -/
structure IsPeriodName (name : String) : Prop where
  heard : heardWords name = [name]
  not_mem : name ∉ groupTexts

theorem isPeriodName_of_mem_scales : ∀ step ∈ scales, IsPeriodName step.2 := by
  have hnot : ∀ step ∈ scales, step.2 ∉ groupTexts := by decide
  intro step hstep
  exact ⟨(isSimple_of_mem_scales step hstep).heardWords_eq, hnot step hstep⟩

theorem mem_groupTexts_of_mem_group (h : n < 2000) {word : String}
    (hword : word ∈ (NumberWord.group n).map NumberWord.text) : word ∈ groupTexts := by
  obtain ⟨numberWord, hmem, rfl⟩ := List.mem_map.mp hword
  exact mem_groupTexts (NumberWord.isGroupWord_of_mem_group h numberWord hmem)

section

variable {size : ℕ} {name : String} {smaller steps : List (ℕ × String)} {bound : ℕ}

theorem flatMap_scaledList_cons (hcount : n / size < 2000) (hname : heardWords name = [name]) :
    (scaledList ((size, name) :: smaller) n).flatMap heardWords =
      (if n / size = 0 then [] else (NumberWord.group (n / size)).map NumberWord.text ++ [name]) ++
        (scaledList smaller (n % size)).flatMap heardWords := by
  have hlist : scaledList ((size, name) :: smaller) n =
      scaledGroup (n / size) name ++ scaledList smaller (n % size) := rfl
  rw [hlist, List.flatMap_append, flatMap_scaledGroup hcount hname]

/-- The words of an integer are words of groups and names of scales. -/
theorem mem_of_mem_scaledList (hroom : LeavesRoom steps bound) (h : n < bound)
    (hnames : ∀ step ∈ steps, IsPeriodName step.2) :
    ∀ word ∈ (scaledList steps n).flatMap heardWords,
      word ∈ groupTexts ∨ word ∈ steps.map (·.2) := by
  induction steps generalizing bound n with
  | nil =>
      intro word hword
      rw [scaledList] at hword
      split at hword
      · contradiction
      · have hsmall := h.trans_le hroom
        rw [flatMap_groupList hsmall] at hword
        exact .inl (mem_groupTexts_of_mem_group hsmall hword)
  | cons step smaller ih =>
      obtain ⟨size, name⟩ := step
      have hcount := hroom.div_lt h
      obtain ⟨hpos, -, hsmaller⟩ := hroom
      rw [List.forall_mem_cons] at hnames
      intro word hword
      rw [List.map_cons, List.mem_cons]
      rw [flatMap_scaledList_cons hcount hnames.1.heard, List.mem_append] at hword
      rcases hword with hgroup | hrest
      · split at hgroup
        · contradiction
        · rw [List.mem_append, List.mem_singleton] at hgroup
          exact hgroup.imp (mem_groupTexts_of_mem_group hcount) .inl
      · exact (ih hsmaller (Nat.mod_lt n hpos) hnames.2 word hrest).imp_right .inr

/-- Groups are told apart by the names behind them: none is a word of a group or
the name of a smaller scale. -/
theorem periods?_scaledList (hroom : LeavesRoom steps bound) (h : n < bound)
    (hnames : ∀ step ∈ steps, IsPeriodName step.2) (hnodup : (steps.map (·.2)).Nodup) :
    English.periods? steps ((scaledList steps n).flatMap heardWords) = some n := by
  induction steps generalizing bound n with
  | nil =>
      rw [scaledList, English.periods?]
      by_cases hzero : n = 0
      · rw [hzero, if_pos rfl]
        rfl
      · have hsmall := h.trans_le hroom
        have hne : (NumberWord.group n).map NumberWord.text ≠ [] := by
          simpa using NumberWord.group_ne_nil n
        rw [if_neg hzero, flatMap_groupList hsmall, if_neg hne,
          English.group?_text (Nat.pos_of_ne_zero hzero) hsmall]
  | cons step smaller ih =>
      obtain ⟨size, name⟩ := step
      have hcount := hroom.div_lt h
      obtain ⟨hpos, -, hsmaller⟩ := hroom
      rw [List.forall_mem_cons] at hnames
      rw [List.map_cons, List.nodup_cons] at hnodup
      have hrest := ih hsmaller (Nat.mod_lt n hpos) hnames.2 hnodup.2
      have hbehind : name ∉ (scaledList smaller (n % size)).flatMap heardWords := fun hmem =>
        (mem_of_mem_scaledList hsmaller (Nat.mod_lt n hpos) hnames.2 name hmem).elim
          hnames.1.not_mem hnodup.1
      rw [flatMap_scaledList_cons hcount hnames.1.heard, English.periods?]
      by_cases hzero : n / size = 0
      · rw [if_pos hzero, List.nil_append, if_neg hbehind, hrest, Nat.mod_eq_of_lt]
        exact (Nat.div_eq_zero_iff_lt hpos).mp hzero
      · have hbefore : name ∉ (NumberWord.group (n / size)).map NumberWord.text := fun hmem =>
          hnames.1.not_mem (mem_groupTexts_of_mem_group hcount hmem)
        obtain ⟨htake, hdrop⟩ :=
          cut_append hbefore ((scaledList smaller (n % size)).flatMap heardWords)
        rw [if_neg hzero, List.append_assoc, List.singleton_append, if_pos (by simp), htake, hdrop,
          List.tail_cons, hrest, English.group?_text (Nat.pos_of_ne_zero hzero) hcount]
        exact congrArg some (Nat.div_add_mod' n size)

end

variable {digits : List ℕ}

theorem natural?_naturalList (h : n < 2000 * 10 ^ 15) :
    English.natural? ((naturalList n).flatMap heardWords) = some n := by
  by_cases hzero : n = 0
  · have hword := (isSimple_smallWord (by decide : 0 < 20)).heardWords_eq
    rw [hzero, naturalList, if_pos rfl, List.flatMap_singleton, hword]
    rfl
  · have hscales : English.periods = scales := rfl
    have hread := periods?_scaledList leavesRoom_scales h isPeriodName_of_mem_scales (by decide)
    have hne : (scaledList scales n).flatMap heardWords ≠ [] := by
      intro hnil
      rw [hnil] at hread
      exact hzero (Option.some.inj hread).symm
    have hother : (scaledList scales n).flatMap heardWords ≠ ["zero"] := by
      intro hword
      rw [hword] at hread
      cases hread
    rw [naturalList, if_neg hzero, English.natural?, if_neg hother, if_neg hne, hscales, hread]

theorem not_mem_naturalList (h : n < 2000 * 10 ^ 15) {word : String}
    (hword : word ∉ groupTexts ++ scales.map (·.2)) :
    word ∉ (naturalList n).flatMap heardWords := by
  intro hmem
  refine hword (List.mem_append.mpr ?_)
  unfold naturalList at hmem
  split at hmem
  · rw [List.flatMap_singleton, (isSimple_smallWord (by decide)).heardWords_eq,
      List.mem_singleton] at hmem
    rw [hmem]
    exact .inl (by decide)
  · exact mem_of_mem_scaledList leavesRoom_scales h isPeriodName_of_mem_scales word hmem

theorem head?_naturalList_append (h : n < 2000 * 10 ^ 15) (behind : List String) :
    ((naturalList n).flatMap heardWords ++ behind).head? ≠ some "negative" := by
  have hne : (naturalList n).flatMap heardWords ≠ [] := by
    intro hnil
    have hread := natural?_naturalList h
    rw [hnil] at hread
    cases hread
  rw [List.head?_append_of_ne_nil _ hne]
  intro hhead
  exact not_mem_naturalList h (by decide) (List.mem_of_mem_head? hhead)

/-- The sign, the whole part and the digits of a number are read as they are
spelled. -/
theorem number?_numberParts (negative : Bool) (h : n < 2000 * 10 ^ 15)
    (hdigits : ∀ digit ∈ digits, digit < 10) :
    English.number? (" ".intercalate (numberParts negative n digits)) =
      some (signed negative (n + digitsValue digits / 10 ^ digits.length)) := by
  have hread := natural?_naturalList h
  have hpoint := not_mem_naturalList h (by decide : "point" ∉ groupTexts ++ scales.map (·.2))
  have hunsigned : English.unsigned? ((naturalList n).flatMap heardWords ++
      Spoken.fractionWords digits) = some ((n : ℚ) + digitsValue digits / 10 ^ digits.length) := by
    by_cases hnone : digits = []
    · subst hnone
      rw [Spoken.fractionWords_nil, List.append_nil, English.unsigned?, if_neg hpoint, hread]
      simp
    · have hfraction : Spoken.fractionWords digits = "point" :: digits.map smallWord :=
        Spoken.fractionWords_of_ne_nil hnone
      have hsome : digits.map smallWord ≠ [] := by simpa using hnone
      obtain ⟨htake, hdrop⟩ := cut_append hpoint (digits.map smallWord)
      rw [hfraction, English.unsigned?, if_pos (by simp)]
      dsimp only
      rw [hdrop, htake, List.tail_cons, if_neg hsome, hread, English.fraction?_smallWord hdigits]
      rfl
  rw [English.number?, Phrase.heardWords_intercalate, flatMap_numberParts negative n hdigits,
    List.append_assoc, English.withSign?_sign _ (head?_naturalList_append h _), hunsigned]
  cases negative <;> rfl

end Spelling

end SpokenCalculator
