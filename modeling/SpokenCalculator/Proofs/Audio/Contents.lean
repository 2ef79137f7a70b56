import Mathlib.Data.List.Basic
import Mathlib.Data.List.Induction
import SpokenCalculator.Proofs.Audio.Chunk
import SpokenCalculator.Proofs.Audio.Window
import SpokenCalculator.Proofs.Quantity

namespace SpokenCalculator.Window

def addAll (window : Window) (blocks : List (List Sample)) : Window := blocks.foldl add window

theorem addAll_concat (window : Window) (blocks : List (List Sample)) (block : List Sample) :
    window.addAll (blocks ++ [block]) = (window.addAll blocks).add block :=
  List.foldl_concat ..

section

variable (threshold : Quantity) (size : Nat)

/-- What finds room of a block that comes behind others. -/
def part (before : List (List Sample)) (block : List Sample) : List Sample :=
  block.take (size - before.flatten.length)

/-- The block at this place is speech, as far as it finds room. -/
def SpeaksAt (blocks : List (List Sample)) (place : Nat) : Prop :=
  ∃ block, blocks[place]? = some block ∧
    Level.isSpeech threshold (part size (blocks.take place) block) = true

def SpeaksLastAt (blocks : List (List Sample)) (place : Nat) : Prop :=
  SpeaksAt threshold size blocks place ∧
    ∀ later, place < later → ¬ SpeaksAt threshold size blocks later

/-- The samples that find room and come behind the block at this place. -/
def behind (blocks : List (List Sample)) (place : Nat) : List Sample :=
  (blocks.flatten.take size).drop (blocks.take (place + 1)).flatten.length

variable {threshold size} {blocks : List (List Sample)} {block : List Sample} {place : Nat}

theorem SpeaksAt.lt_length (h : SpeaksAt threshold size blocks place) : place < blocks.length := by
  obtain ⟨block, hblock, -⟩ := h
  exact (List.getElem?_eq_some_iff.mp hblock).1

theorem speaksAt_concat_iff : SpeaksAt threshold size (blocks ++ [block]) place ↔
    SpeaksAt threshold size blocks place ∨
      place = blocks.length ∧ Level.isSpeech threshold (part size blocks block) = true := by
  rcases Nat.lt_trichotomy place blocks.length with hlt | rfl | hgt
  · have htake : (blocks ++ [block]).take place = blocks.take place :=
      List.take_append_of_le_length hlt.le
    rw [SpeaksAt, SpeaksAt, List.getElem?_append_left hlt, htake]
    exact (or_iff_left fun h => hlt.ne h.1).symm
  · have hbeyond : ¬ SpeaksAt threshold size blocks blocks.length := fun h => h.lt_length.ne rfl
    rw [or_iff_right hbeyond, SpeaksAt, List.getElem?_concat_length, List.take_left]
    simp
  · have hbeyond : ¬ SpeaksAt threshold size (blocks ++ [block]) place := by
      intro h
      have hlt := h.lt_length
      rw [List.length_append, List.length_singleton] at hlt
      omega
    refine iff_of_false hbeyond ?_
    rintro (h | ⟨heq, -⟩)
    · exact absurd h.lt_length hgt.not_gt
    · exact hgt.ne' heq

theorem speaksLastAt_length_concat
    (hspeech : Level.isSpeech threshold (part size blocks block) = true) :
    SpeaksLastAt threshold size (blocks ++ [block]) blocks.length := by
  refine ⟨speaksAt_concat_iff.mpr (Or.inr ⟨rfl, hspeech⟩), fun later hlater h => ?_⟩
  have hlt := h.lt_length
  rw [List.length_append, List.length_singleton] at hlt
  omega

theorem SpeaksLastAt.concat (h : SpeaksLastAt threshold size blocks place)
    (hquiet : ¬ Level.isSpeech threshold (part size blocks block) = true) :
    SpeaksLastAt threshold size (blocks ++ [block]) place := by
  refine ⟨speaksAt_concat_iff.mpr (Or.inl h.1), fun later hlater hspeaks => ?_⟩
  rcases speaksAt_concat_iff.mp hspeaks with hold | ⟨-, hspeech⟩
  · exact h.2 later hlater hold
  · exact hquiet hspeech

theorem SpeaksLastAt.unique {other : Nat} (h : SpeaksLastAt threshold size blocks place)
    (hother : SpeaksLastAt threshold size blocks other) : place = other := by
  rcases Nat.lt_trichotomy place other with hlt | heq | hgt
  · exact absurd hother.1 (h.2 other hlt)
  · exact heq
  · exact absurd h.1 (hother.2 place hgt)

theorem behind_length_concat : behind size (blocks ++ [block]) blocks.length = [] := by
  have hall : (blocks ++ [block]).take (blocks.length + 1) = blocks ++ [block] :=
    List.take_of_length_le (by simp)
  rw [behind, hall]
  exact List.drop_eq_nil_of_le (List.length_take_le' ..)

theorem length_behind_concat (hplace : place < blocks.length) :
    (behind size (blocks ++ [block]) place).length =
      (behind size blocks place).length + (part size blocks block).length := by
  have htake : (blocks ++ [block]).take (place + 1) = blocks.take (place + 1) :=
    List.take_append_of_le_length hplace
  have hsplit : blocks.flatten.length =
      (blocks.take (place + 1)).flatten.length + (blocks.drop (place + 1)).flatten.length := by
    rw [← List.length_append, ← List.flatten_append, List.take_append_drop]
  rw [behind, behind, part, htake, List.flatten_concat]
  simp only [List.length_drop, List.length_take, List.length_append]
  omega

end

theorem fit_of_nonneg {room : Int} (h : 0 ≤ room) (block : List Sample) :
    fit room block = block.take room.toNat := by
  unfold fit
  rw [if_pos h]
  split
  · exact (List.take_of_length_le (by omega)).symm
  · rfl

/-- The window holds what finds room of some blocks, knows whether one of them is
speech, and has counted the samples behind the last one that is. -/
structure Contains (size : Nat) (blocks : List (List Sample)) (window : Window) : Prop where
  samples : window.samples = blocks.flatten.take size
  held : window.held = min size blocks.flatten.length
  speech : if window.hasSpeech then
      ∃ place, SpeaksLastAt window.threshold size blocks place ∧
        window.trailingSilence = (behind size blocks place).length
    else ∀ place, ¬ SpeaksAt window.threshold size blocks place

namespace Contains

variable {size : Nat} {blocks : List (List Sample)} {window : Window}

theorem nil (h : window.IsFresh) : window.Contains size [] where
  samples := by rw [h.samples_eq_nil, List.flatten_nil, List.take_nil]
  held := by rw [h.held, List.flatten_nil, List.length_nil, Nat.min_zero]
  speech := by
    rw [h.hasSpeech, if_neg Bool.false_ne_true]
    exact fun place hspeaks => Nat.not_lt_zero place hspeaks.lt_length

theorem fit_room (h : window.Contains size blocks) (hsize : window.maxSamples = size)
    (block : List Sample) : fit window.room block = part size blocks block := by
  have hroom : window.room = (size - blocks.flatten.length : Nat) := by
    rw [room, hsize, h.held]
    omega
  rw [hroom, fit_of_nonneg (Int.natCast_nonneg _), Int.toNat_natCast]
  rfl

theorem add (h : window.Contains size blocks) (hsize : window.maxSamples = size)
    (block : List Sample) : (window.add block).Contains size (blocks ++ [block]) where
  samples := by
    rw [samples_add, h.fit_room hsize, h.samples, List.flatten_concat, List.take_append]
    rfl
  held := by
    change window.held + (fit window.room block).length = _
    rw [h.fit_room hsize, h.held, part, List.flatten_concat, List.length_append, List.length_take]
    omega
  speech := by
    have hspeech := h.speech
    change if window.hasSpeech || Level.isSpeech window.threshold (fit window.room block) then
        ∃ place, SpeaksLastAt window.threshold size (blocks ++ [block]) place ∧
          (if Level.isSpeech window.threshold (fit window.room block) then 0
            else window.trailingSilence + (fit window.room block).length) =
              (behind size (blocks ++ [block]) place).length
      else ∀ place, ¬ SpeaksAt window.threshold size (blocks ++ [block]) place
    rw [h.fit_room hsize]
    by_cases hnew : Level.isSpeech window.threshold (part size blocks block) = true
    · rw [hnew, Bool.or_true, if_pos rfl, if_pos rfl]
      refine ⟨blocks.length, speaksLastAt_length_concat hnew, ?_⟩
      rw [behind_length_concat, List.length_nil]
    · rw [Bool.eq_false_of_not_eq_true hnew, Bool.or_false, if_neg Bool.false_ne_true]
      split
      · rename_i hold
        rw [if_pos hold] at hspeech
        obtain ⟨place, hlast, htrailing⟩ := hspeech
        refine ⟨place, hlast.concat hnew, ?_⟩
        rw [length_behind_concat hlast.1.lt_length, htrailing]
      · rename_i hold
        rw [if_neg hold] at hspeech
        intro place hspeaks
        rcases speaksAt_concat_iff.mp hspeaks with hplace | ⟨-, hnew'⟩
        · exact hspeech place hplace
        · exact hnew hnew'

theorem isComplete_iff (h : window.Contains size blocks) (hsize : window.maxSamples = size) :
    window.isComplete = true ↔ size ≤ blocks.flatten.length ∨
      window.policy = .speech ∧ ∃ place, SpeaksLastAt window.threshold size blocks place ∧
        window.silenceSamples ≤ (behind size blocks place).length := by
  have hfull : window.maxSamples ≤ window.held ↔ size ≤ blocks.flatten.length := by
    rw [hsize, h.held]
    omega
  have hspeech := h.speech
  simp only [isComplete, Bool.or_eq_true, Bool.and_eq_true, decide_eq_true_eq, beq_iff_eq, hfull,
    and_assoc]
  refine or_congr_right (and_congr_right fun _ => ?_)
  constructor
  · rintro ⟨hheard, hsilence⟩
    rw [if_pos hheard] at hspeech
    obtain ⟨place, hlast, htrailing⟩ := hspeech
    exact ⟨place, hlast, htrailing ▸ hsilence⟩
  · rintro ⟨place, hlast, hsilence⟩
    split at hspeech
    · rename_i hheard
      obtain ⟨other, hother, htrailing⟩ := hspeech
      rw [htrailing, hother.unique hlast]
      exact ⟨hheard, hsilence⟩
    · exact absurd hlast.1 (hspeech place)

end Contains

/-- Adding blocks changes nothing of what a window was opened with. -/
theorem addAll_settings (window : Window) (blocks : List (List Sample)) :
    (window.addAll blocks).policy = window.policy ∧ (window.addAll blocks).rate = window.rate ∧
      (window.addAll blocks).threshold = window.threshold ∧
      (window.addAll blocks).maxSamples = window.maxSamples ∧
      (window.addAll blocks).silenceSamples = window.silenceSamples := by
  induction blocks generalizing window with
  | nil => exact ⟨rfl, rfl, rfl, rfl, rfl⟩
  | cons block blocks ih => exact ih (window.add block)

theorem contains_addAll {size : Nat} {window : Window} (h : window.IsFresh)
    (hsize : window.maxSamples = size) (blocks : List (List Sample)) :
    (window.addAll blocks).Contains size blocks := by
  induction blocks using List.reverseRecOn with
  | nil => exact .nil h
  | append_singleton blocks block ih =>
      rw [addAll_concat]
      exact ih.add ((window.addAll_settings blocks).2.2.2.1.trans hsize) block

theorem maxSamples_nonneg {request : WindowRequest} {window : Window}
    (h : window.IsMadeFor request) (hrate : 0 ≤ window.rate) : 0 ≤ window.maxSamples := by
  have hsamples := h.maxSamples
  unfold samplesIn at hsamples
  split at hsamples
  · rename_i product hproduct
    exact Quantity.nearestInt_times?_nonneg hrate h.maxSeconds hproduct
      (mapError_eq_ok.mp hsamples)
  · cases hsamples

/-- After any blocks a window holds as many of the first samples as it has room
for, and its chunk tells just these. It is complete exactly if it was given
enough to be full, or if it waits for speech, the kept part of a block is speech,
and the samples kept behind the last such block are enough. -/
theorem addAll_holds_first_samples (request : WindowRequest) (window : Window)
    (hcreate : create request = .ok window) (hrate : 0 ≤ window.rate)
    (blocks : List (List Sample)) :
    let filled := window.addAll blocks
    let size := window.maxSamples.toNat
    (filled.held : Int) = min window.maxSamples blocks.flatten.length ∧
    filled.chunk.samples = .ok (blocks.flatten.take filled.held) ∧
    (filled.isComplete = true ↔ window.maxSamples ≤ blocks.flatten.length ∨
      window.policy = .speech ∧ ∃ place, SpeaksLastAt window.threshold size blocks place ∧
        window.silenceSamples ≤ (behind size blocks place).length) := by
  intro filled size
  have hmade := isMadeFor_of_create hcreate
  have hsize : window.maxSamples = size :=
    (Int.toNat_of_nonneg (maxSamples_nonneg hmade hrate)).symm
  have hcontains := contains_addAll hmade.toIsFresh hsize blocks
  obtain ⟨hpolicy, -, hthreshold, hmax, hsilence⟩ := window.addAll_settings blocks
  refine ⟨?_, ?_, ?_⟩
  · rw [hsize, hcontains.held, Nat.cast_min]
  · have hfirst : filled.samples = blocks.flatten.take filled.held := by
      rw [hcontains.samples, List.take_eq_take_iff, hcontains.held, Nat.min_assoc, Nat.min_self]
    rw [← hfirst]
    exact Chunk.samples_ofSamples filled.samples filled.rate
  · rw [hcontains.isComplete_iff (hmax.trans hsize), hpolicy, hthreshold, hsilence, hsize,
      Nat.cast_le]

/-- Ten seconds at one sample each, or one second of silence after speech. -/
def slowRequest : WindowRequest :=
  ⟨.whole 10, .string WindowPolicy.speech.name, .whole 1, .whole 1, .whole 500⟩

def slowWindow : Window := ⟨.speech, 1, .whole 500, 10, 1, [], 0, 0, false⟩

/-- Speech, an empty block, and one sample of silence. -/
def pausingBlocks : List (List Sample) := [[0], [3000, -3000], [], [7]]

theorem addAll_holds_first_samples_pausing :
    create slowRequest = .ok slowWindow ∧ 0 ≤ slowWindow.rate ∧
      ((slowWindow.addAll pausingBlocks).held : Int) = 4 ∧
      (slowWindow.addAll pausingBlocks).chunk.samples = .ok [0, 3000, -3000, 7] ∧
      ∃ place, SpeaksLastAt (.whole 500) 10 pausingBlocks place ∧
        1 ≤ ((behind 10 pausingBlocks place).length : Int) := by
  have hcreate : create slowRequest = .ok slowWindow := rfl
  have hrate : 0 ≤ slowWindow.rate := by decide
  have hcomplete : (slowWindow.addAll pausingBlocks).isComplete = true := by decide +kernel
  obtain ⟨hheld, hsamples, hclosed⟩ :=
    addAll_holds_first_samples slowRequest slowWindow hcreate hrate pausingBlocks
  refine ⟨hcreate, hrate, hheld, hsamples, ?_⟩
  rcases hclosed.mp hcomplete with hfull | ⟨-, hsilence⟩
  · exact absurd hfull (by decide)
  · exact hsilence

end SpokenCalculator.Window
