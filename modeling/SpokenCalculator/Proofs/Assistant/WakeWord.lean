import SpokenCalculator.Assistant.WakeWord
import SpokenCalculator.Proofs.Text.Bulk

namespace SpokenCalculator.WakeWord

open Text

theorem bulk_replaced_le (patterns : List (List Char)) (text : List Char) :
    bulk (patterns.foldl (fun rest pattern => replaceWhole pattern [' '] rest) text) ≤
      bulk text := by
  have hspace : bulk [' '] = 0 := by decide
  induction patterns generalizing text with
  | nil => exact Nat.le_refl _
  | cons pattern others ih =>
      refine Nat.le_trans (ih _) (bulk_replaceWhole_le ?_ text)
      rw [hspace]
      exact Nat.zero_le _

theorem bulk_strip?_le {wakeWords : List String} {text rest : String}
    (h : strip? wakeWords text = some rest) : bulk rest.toList ≤ bulk text.toList := by
  unfold strip? at h
  dsimp only at h
  split at h
  · cases h
    rw [String.toList_ofList]
    refine Nat.le_trans (bulk_trim_le _ _) ?_
    rw [bulk_joinWords]
    refine Nat.le_trans (sum_bulk_words_le _) ?_
    exact Nat.le_trans (bulk_replaced_le _ _) (bulk_lowerCase_le _)
  · cases h

theorem bulk_phrase_le {wakeWords : List String} {armed next : Bool} {text phrase : String}
    (h : address wakeWords armed text = (.phrase phrase, next)) :
    bulk phrase.toList ≤ bulk text.toList := by
  unfold address at h
  split at h
  · cases h
    exact Nat.le_refl _
  · split at h
    · split at h
      · cases h
        exact Nat.le_refl _
      · cases h
    · rename_i rest hrest
      split at h
      · cases h
      · cases h
        exact bulk_strip?_le hrest

def isNamed (wakeWords : List String) (text : String) : Bool :=
  wakeWords.any fun wakeWord => standsIn (patternOf wakeWord) none (lowerCase text.toList)

theorem strip?_eq_none_iff (wakeWords : List String) (text : String) :
    strip? wakeWords text = none ↔ isNamed wakeWords text = false := by
  have hany : ((wakeWords.map patternOf).any fun pattern =>
      standsIn pattern none (lowerCase text.toList)) = isNamed wakeWords text := by
    rw [List.any_map]
    rfl
  unfold strip?
  dsimp only
  rw [hany]
  split
  · rename_i hnamed
    simp [hnamed]
  · rename_i hnamed
    simpa using hnamed

section

variable {wakeWords : List String} (hwake : wakeWords ≠ [])

include hwake

theorem address_of_not_named {text : String} (h : isNamed wakeWords text = false) :
    address wakeWords false text = (.ignored, false) := by
  rw [address, if_neg (by simpa using hwake), (strip?_eq_none_iff wakeWords text).2 h]
  rfl

theorem address_armed (armed : Bool) (text : String) :
    (address wakeWords armed text).2 = (strip? wakeWords text == some "") := by
  rw [address, if_neg (by simpa using hwake)]
  cases strip? wakeWords text with
  | none => rfl
  | some rest =>
      dsimp only
      split
      · rename_i hempty
        rw [String.isEmpty_iff.1 hempty]
        rfl
      · rename_i hrest
        have hne : rest ≠ "" := fun heq => hrest (String.isEmpty_iff.2 heq)
        simp [hne]

end

end SpokenCalculator.WakeWord
