import Mathlib.Data.List.SplitBy
import SpokenCalculator.Number.Run
import SpokenCalculator.Proofs.Number.Word

namespace SpokenCalculator

/-- Behind a word below twenty every word below a hundred begins a number, and
behind a tens word another one and "zero". -/
def BeginsNumber (before word : String) : Prop :=
  (before ∈ smallWords ∧ (word ∈ smallWords ∨ word ∈ tensWords)) ∨
    (before ∈ tensWords ∧ (word ∈ tensWords ∨ word = "zero"))

instance (before word : String) : Decidable (BeginsNumber before word) :=
  inferInstanceAs (Decidable ((_ ∧ (_ ∨ _)) ∨ (_ ∧ (_ ∨ _))))

/-! ### Words -/

namespace NumberWord

variable {word : String}

theorem ofText?_eq_small_iff {value : ℕ} :
    ofText? word = some (.small value) ↔ smallWords.idxOf? word = some value := by
  unfold ofText?
  cases smallWords.idxOf? word with
  | some place => simp
  | none => cases tensWords.idxOf? word <;> simp

theorem mem_smallWords_iff : word ∈ smallWords ↔ ∃ value, ofText? word = some (.small value) := by
  rw [← List.isSome_idxOf?, Option.isSome_iff_exists]
  exact exists_congr fun _ => ofText?_eq_small_iff.symm

theorem mem_tensWords_iff : word ∈ tensWords ↔ ∃ count, ofText? word = some (.tens count) := by
  have hapart : ∀ word ∈ tensWords, word ∉ smallWords := by decide
  unfold ofText?
  constructor
  · intro hword
    obtain ⟨place, hplace⟩ := Option.isSome_iff_exists.mp (List.isSome_idxOf?.mpr hword)
    rw [List.idxOf?_eq_none_iff.mpr (hapart word hword), hplace]
    exact ⟨place + 2, rfl⟩
  · rintro ⟨count, h⟩
    rw [← List.isSome_idxOf?]
    cases hsmall : smallWords.idxOf? word <;> cases htens : tensWords.idxOf? word <;>
      simp [hsmall, htens] at h ⊢

theorem eq_zero_iff : word = "zero" ↔ ofText? word = some (.small 0) := by
  constructor
  · rintro rfl
    decide
  · intro h
    exact (List.idxOf?_eq_some_iff.mp (ofText?_eq_small_iff.mp h)).2.1.symm

end NumberWord

theorem startsNumber_iff (before word : String) :
    startsNumber before word ↔ BeginsNumber before word := by
  rw [BeginsNumber, NumberWord.mem_smallWords_iff, NumberWord.mem_smallWords_iff,
    NumberWord.mem_tensWords_iff, NumberWord.mem_tensWords_iff, NumberWord.eq_zero_iff,
    startsNumber]
  rcases NumberWord.ofText? before with _ | _ | _ | _ <;>
    rcases NumberWord.ofText? word with _ | _ | _ | _ <;> simp

/-! ### Groups -/

section

variable {α : Type}

/-- One of the groups ends where the front ends, and the next one begins
there. -/
def HasBorder (groups : List (List α)) (front behind : List α) : Prop :=
  ∃ left right, groups = left ++ right ∧ left.flatten = front ∧ right.flatten = behind

variable {related : α → α → Bool} {front behind : List α} {before item : α}

theorem splitBy_of_not_related (h : related before item = false) :
    (front ++ before :: item :: behind).splitBy related =
      (front ++ [before]).splitBy related ++ (item :: behind).splitBy related := by
  have hlast : ∀ last ∈ (front ++ [before]).getLast?, related last item = false := by
    rw [List.getLast?_concat]
    rintro _ ⟨⟩
    exact h
  rw [← List.splitBy_append_cons behind hlast, List.append_assoc, List.singleton_append]

/-- The last item of a group is not related to the first one of the next
group. -/
theorem not_related_of_hasBorder
    (h : HasBorder ((front ++ before :: item :: behind).splitBy related) (front ++ [before])
      (item :: behind)) :
    related before item = false := by
  obtain ⟨left, right, hgroups, hfront, hbehind⟩ := h
  have hchain := List.isChain_getLast_head_splitBy related (front ++ before :: item :: behind)
  have hnil := List.nil_notMem_splitBy related (front ++ before :: item :: behind)
  rw [hgroups] at hchain hnil
  rcases List.eq_nil_or_concat' left with rfl | ⟨others, group, rfl⟩
  · simp at hfront
  cases right with
  | nil => cases hbehind
  | cons next later =>
      obtain ⟨hgroup, hnext, hapart⟩ :=
        (List.isChain_append.mp hchain).2.2 group (by simp) next rfl
      have hlast : group.getLast hgroup = before := by
        have hends := congrArg List.getLast? hfront
        rw [List.flatten_append, List.flatten_singleton, List.getLast?_concat,
          List.getLast?_append_of_ne_nil _ hgroup, List.getLast?_eq_some_getLast hgroup] at hends
        exact Option.some.inj hends
      have hfirst : next.head hnext = item := by
        have hstarts := congrArg List.head? hbehind
        rw [List.flatten_cons, List.head?_append_of_ne_nil _ hnext, List.head?_cons,
          List.head?_eq_some_head hnext] at hstarts
        exact Option.some.inj hstarts
      rwa [hlast, hfirst] at hapart

theorem hasBorder_splitBy_iff :
    HasBorder ((front ++ before :: item :: behind).splitBy related) (front ++ [before])
        (item :: behind) ↔ related before item = false := by
  refine ⟨not_related_of_hasBorder, fun h => ?_⟩
  exact ⟨_, _, splitBy_of_not_related h, List.flatten_splitBy _ _, List.flatten_splitBy _ _⟩

theorem splitBy_of_mem_splitBy {items group : List α} (h : group ∈ items.splitBy related) :
    group.splitBy related = [group] :=
  List.splitBy_of_isChain (List.ne_nil_of_mem_splitBy h) (List.isChain_of_mem_splitBy h)

end

/-- The numbers of a run are its words in their order, none of them without a
word. Two neighbouring words are parted exactly if the second begins a number,
and there the run can be cut before its numbers are found. What was found as one
number is found again as one. -/
theorem splitRun_isPartition (words : List String) :
    (∀ group ∈ splitRun words, group ≠ []) ∧ (splitRun words).flatten = words ∧
      (∀ front before word behind, words = front ++ before :: word :: behind →
        (HasBorder (splitRun words) (front ++ [before]) (word :: behind) ↔
          BeginsNumber before word) ∧
        (BeginsNumber before word →
          splitRun words = splitRun (front ++ [before]) ++ splitRun (word :: behind))) ∧
      ∀ group ∈ splitRun words, splitRun group = [group] := by
  refine ⟨fun group => List.ne_nil_of_mem_splitBy, List.flatten_splitBy _ _, ?_,
    fun group => splitBy_of_mem_splitBy⟩
  rintro front before word behind rfl
  have hparts : (!startsNumber before word) = false ↔ BeginsNumber before word := by
    rw [Bool.not_eq_false', startsNumber_iff]
  exact ⟨hasBorder_splitBy_iff.trans hparts, fun h => splitBy_of_not_related (hparts.mpr h)⟩

/-- A hundred goes on with the number, "zero" behind a tens word does not. -/
theorem splitRun_isPartition_twenty_zero :
    let words := ["twenty", "zero", "five", "hundred", "twenty", "six"]
    let last := ["five", "hundred", "twenty", "six"]
    words = ["twenty"] ++ "zero" :: "five" :: last.tail ∧ BeginsNumber "zero" "five" ∧
      HasBorder (splitRun words) ["twenty", "zero"] last ∧
      splitRun words = splitRun ["twenty", "zero"] ++ splitRun last ∧
      last ∈ splitRun words ∧ splitRun last = [last] := by
  intro words last
  obtain ⟨_, _, hborders, hagain⟩ := splitRun_isPartition words
  have hbegins : BeginsNumber "zero" "five" := by decide
  have hlast : last ∈ splitRun words := by decide +kernel
  obtain ⟨hborder, hparts⟩ := hborders ["twenty"] "zero" "five" last.tail rfl
  exact ⟨rfl, hbegins, hborder.mpr hbegins, hparts hbegins, hlast, hagain last hlast⟩

end SpokenCalculator
