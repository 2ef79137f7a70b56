import SpokenCalculator.Audio.Microphone
import SpokenCalculator.Proofs.Audio.Contents

namespace SpokenCalculator

namespace Window

def ClosedBy (window : Window) (blocks : List (List Sample)) : Prop :=
  blocks ≠ [] ∧ (window.addAll blocks).isComplete = true

/-- The window is complete with the last of these blocks and not before. -/
def FirstClosedBy (window : Window) (blocks : List (List Sample)) : Prop :=
  window.ClosedBy blocks ∧ ∀ shorter, shorter <+: blocks → window.ClosedBy shorter →
    shorter = blocks

variable {window : Window} {block : List Sample} {blocks : List (List Sample)}

theorem closedBy_singleton_iff :
    window.ClosedBy [block] ↔ (window.add block).isComplete = true :=
  and_iff_right (List.cons_ne_nil block [])

theorem closedBy_cons_iff (h : (window.add block).isComplete = false) :
    window.ClosedBy (block :: blocks) ↔ (window.add block).ClosedBy blocks := by
  cases blocks with
  | nil =>
      rw [closedBy_singleton_iff, h]
      exact iff_of_false Bool.false_ne_true fun hclosed => hclosed.1 rfl
  | cons second rest => simp [ClosedBy, addAll]

theorem firstClosedBy_singleton (h : (window.add block).isComplete = true) :
    window.FirstClosedBy [block] := by
  refine ⟨closedBy_singleton_iff.mpr h, fun shorter hprefix hclosed => ?_⟩
  obtain ⟨first, rest, rfl⟩ := List.exists_cons_of_ne_nil hclosed.1
  obtain ⟨rfl, hrest⟩ := List.cons_prefix_cons.mp hprefix
  rw [List.prefix_nil.mp hrest]

theorem FirstClosedBy.cons (hopen : (window.add block).isComplete = false)
    (h : (window.add block).FirstClosedBy blocks) : window.FirstClosedBy (block :: blocks) := by
  refine ⟨(closedBy_cons_iff hopen).mpr h.1, fun shorter hprefix hclosed => ?_⟩
  obtain ⟨first, rest, rfl⟩ := List.exists_cons_of_ne_nil hclosed.1
  obtain ⟨rfl, hrest⟩ := List.cons_prefix_cons.mp hprefix
  rw [h.2 rest hrest ((closedBy_cons_iff hopen).mp hclosed)]

/-- Until a fresh window is complete it has room for more than it was given. -/
theorem length_lt_of_not_isComplete (h : window.IsFresh)
    (hopen : ¬ (window.addAll blocks).isComplete = true) :
    blocks.flatten.length < window.maxSamples := by
  have hmax := (window.addAll_settings blocks).2.2.2.1
  rcases Int.lt_or_le window.maxSamples 0 with hnegative | hroom
  · refine absurd ?_ hopen
    simp only [isComplete, hmax, Bool.or_eq_true, decide_eq_true_eq]
    omega
  · have hsize : window.maxSamples = (window.maxSamples.toNat : Int) :=
      (Int.toNat_of_nonneg hroom).symm
    have hcontains := contains_addAll h hsize blocks
    rw [hcontains.isComplete_iff (hmax.trans hsize), not_or, Nat.not_le] at hopen
    omega

def soundCount (blocks : List (List Sample)) : Nat := blocks.countP fun block => !block.isEmpty

theorem soundCount_le_length (blocks : List (List Sample)) :
    soundCount blocks ≤ blocks.flatten.length := by
  induction blocks with
  | nil => exact Nat.le_refl 0
  | cons block blocks ih =>
      rw [soundCount] at ih ⊢
      rw [List.countP_cons, List.flatten_cons, List.length_append]
      cases block with
      | nil => simpa using ih
      | cons sample rest =>
          simp only [List.isEmpty_cons, Bool.not_false, if_true, List.length_cons]
          omega

/-- Blocks that do not close a window before the last of them. -/
theorem soundCount_concat_le (h : window.IsFresh)
    (hopen : blocks ≠ [] → ¬ (window.addAll blocks).isComplete = true) :
    soundCount (blocks ++ [block]) ≤ max 1 window.maxSamples.toNat := by
  have hlast : soundCount (blocks ++ [block]) ≤ soundCount blocks + 1 := by
    rw [soundCount, List.countP_append, List.countP_singleton]
    split <;> simp [soundCount]
  rcases eq_or_ne blocks [] with rfl | hblocks
  · exact hlast.trans (Nat.le_max_left 1 _)
  · have hroom := length_lt_of_not_isComplete h (hopen hblocks)
    have hcount := soundCount_le_length blocks
    omega

theorem FirstClosedBy.soundCount_le (hfresh : window.IsFresh) (h : window.FirstClosedBy blocks) :
    soundCount blocks ≤ max 1 window.maxSamples.toNat := by
  obtain ⟨before, last, rfl⟩ := (List.eq_nil_or_concat blocks).resolve_left h.1.1
  rw [List.concat_eq_append] at h ⊢
  refine soundCount_concat_le hfresh fun hbefore hcomplete => ?_
  have hsame := h.2 before (List.prefix_append before [last]) ⟨hbefore, hcomplete⟩
  exact absurd hsame (by simp)

theorem soundCount_le_of_not_closedBy (hfresh : window.IsFresh) (h : ¬ window.ClosedBy blocks) :
    soundCount blocks ≤ max 1 window.maxSamples.toNat := by
  rcases eq_or_ne blocks [] with rfl | hblocks
  · exact Nat.zero_le _
  · have hroom := length_lt_of_not_isComplete hfresh fun hcomplete => h ⟨hblocks, hcomplete⟩
    have hcount := soundCount_le_length blocks
    omega

end Window

namespace Microphone

/-- Either some beginning of the queue closes the window and the shortest one is
taken, or none does and nothing is left. -/
theorem collect_cases (window : Window) (queue : List (List Sample)) :
    (∃ taken rest, queue = taken ++ rest ∧ window.FirstClosedBy taken ∧
        collect window queue = (some (window.addAll taken), rest)) ∨
      (∀ taken, taken <+: queue → ¬ window.ClosedBy taken) ∧ collect window queue = (none, []) := by
  induction queue generalizing window with
  | nil =>
      right
      refine ⟨fun taken hprefix hclosed => ?_, rfl⟩
      exact hclosed.1 (List.prefix_nil.mp hprefix)
  | cons block queue ih =>
      rw [collect]
      split
      · rename_i hcomplete
        exact Or.inl ⟨[block], queue, rfl, Window.firstClosedBy_singleton hcomplete, rfl⟩
      · rename_i hopen
        have hopen := Bool.eq_false_of_not_eq_true hopen
        rcases ih (window.add block) with
          ⟨taken, rest, rfl, hclosed, hcollect⟩ | ⟨hnone, hcollect⟩
        · exact Or.inl ⟨block :: taken, rest, rfl, hclosed.cons hopen, hcollect⟩
        · refine Or.inr ⟨fun taken hprefix hclosed => ?_, hcollect⟩
          obtain ⟨first, rest, rfl⟩ := List.exists_cons_of_ne_nil hclosed.1
          obtain ⟨rfl, hrest⟩ := List.cons_prefix_cons.mp hprefix
          exact hnone rest hrest ((Window.closedBy_cons_iff hopen).mp hclosed)

end Microphone

end SpokenCalculator
