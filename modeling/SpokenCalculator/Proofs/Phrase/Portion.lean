import Mathlib.Algebra.BigOperators.Group.List.Basic
import Mathlib.Data.List.SplitBy
import SpokenCalculator.Phrase.Reading
import SpokenCalculator.Proofs.Number.Spoken
import SpokenCalculator.Proofs.Phrase.Piece
import SpokenCalculator.Proofs.Phrase.Token

/-!
# The numbers of a phrase share its text

Each number of a phrase is written in a portion of the text of its own. The
portions are handed on from the tokens to the pieces, to the items and to the
operands of the command, and with them the bound on what the numbers can be. It
follows that reading a phrase of less than a million characters never fails.
-/

namespace SpokenCalculator

/-- The items are written in portions that together have at most the given
size. -/
def Portioned {α : Type} (isWrittenIn : ℕ → α → Prop) (items : List α) (size : ℕ) : Prop :=
  ∃ sizes : List ℕ, List.Forall₂ isWrittenIn sizes items ∧ sizes.sum ≤ size

namespace Portioned

variable {α : Type} {isWrittenIn : ℕ → α → Prop} {items behind : List α} {item : α}
  {size other : ℕ}

theorem nil : Portioned isWrittenIn [] 0 := ⟨[], .nil, Nat.le_refl 0⟩

theorem mono (h : Portioned isWrittenIn items size) (hle : size ≤ other) :
    Portioned isWrittenIn items other := by
  obtain ⟨sizes, hsizes, hsum⟩ := h
  exact ⟨sizes, hsizes, hsum.trans hle⟩

theorem cons (hitem : isWrittenIn other item) (h : Portioned isWrittenIn items size) :
    Portioned isWrittenIn (item :: items) (size + other) := by
  obtain ⟨sizes, hsizes, hsum⟩ := h
  refine ⟨other :: sizes, .cons hitem hsizes, ?_⟩
  rw [List.sum_cons]
  omega

theorem of_cons (h : Portioned isWrittenIn (item :: items) size) :
    ∃ part, part ≤ size ∧ isWrittenIn part item ∧ Portioned isWrittenIn items (size - part) := by
  obtain ⟨_, hsizes, hsum⟩ := h
  cases hsizes with
  | cons hitem hitems =>
      rw [List.sum_cons] at hsum
      exact ⟨_, by omega, hitem, _, hitems, by omega⟩

theorem reverse (h : Portioned isWrittenIn items size) :
    Portioned isWrittenIn items.reverse size := by
  obtain ⟨sizes, hsizes, hsum⟩ := h
  exact ⟨sizes.reverse, List.rel_reverse hsizes, by rwa [List.sum_reverse]⟩

theorem of_append (h : Portioned isWrittenIn (items ++ behind) size) :
    ∃ part, part ≤ size ∧ Portioned isWrittenIn items part ∧
      Portioned isWrittenIn behind (size - part) := by
  induction items generalizing size with
  | nil => exact ⟨0, Nat.zero_le _, nil, h⟩
  | cons item rest ih =>
      obtain ⟨first, hfirst, hitem, hrest⟩ := of_cons h
      obtain ⟨part, hpart, hfront, hbehind⟩ := ih hrest
      exact ⟨part + first, by omega, hfront.cons hitem, hbehind.mono (by omega)⟩

theorem of_mem (h : Portioned isWrittenIn items size) (hmem : item ∈ items) :
    ∃ part, part ≤ size ∧ isWrittenIn part item := by
  obtain ⟨front, rest, rfl⟩ := List.append_of_mem hmem
  obtain ⟨_, _, _, hbehind⟩ := of_append h
  obtain ⟨part, hpart, hitem, _⟩ := of_cons hbehind
  exact ⟨part, by omega, hitem⟩

end Portioned

namespace Phrase

open Spoken

def Meaning.WrittenIn (size : ℕ) : Meaning → Prop
  | .number value => value.WrittenIn size
  | .spoken word => IsRunWord word ∧ word.length ≤ size
  | _ => True

def Piece.WrittenIn (size : ℕ) : Piece → Prop
  | .number value => value.WrittenIn size
  | .run words => (∀ word ∈ words, IsRunWord word) ∧ Spoken.size words ≤ size
  | _ => True

def Item.WrittenIn (size : ℕ) : Item → Prop
  | .number value => value.WrittenIn size
  | _ => True

theorem wordMeaning_writtenIn {word : String} {size : ℕ} (hlength : word.length ≤ size) :
    (wordMeaning word).WrittenIn size := by
  unfold wordMeaning
  split
  · rename_i hword
    rw [Bool.or_eq_true, beq_iff_eq] at hword
    exact ⟨hword, hlength⟩
  · split
    · trivial
    · split
      · trivial
      · split <;> trivial

theorem Token.meaning_writtenIn {token : Token} (hproper : token.IsProper) :
    token.meaning.WrittenIn token.size := by
  cases token with
  | numeral whole fraction =>
      have hpos : 0 < whole.length := List.length_pos_of_ne_nil hproper
      have hrow := digitsValue_lt (Decimal.digitValues_lt (whole ++ fraction))
      have hlength := Decimal.length_digitValues_le (whole ++ fraction)
      rw [List.length_append] at hlength
      have hplaces : (0 : ℤ) - fraction.length = -fraction.length := by omega
      simp only [Token.meaning, Meaning.WrittenIn, Decimal.ofParts, hplaces]
      refine Decimal.writtenIn_finite _ ?_ (le_max_of_le_left (Nat.le_add_right _ _)) ?_
      · change fraction.length < whole.length + fraction.length
        omega
      · exact hrow.trans_le (Nat.pow_le_pow_right (by norm_num) hlength)
  | word letters =>
      exact wordMeaning_writtenIn (by simp [Token.text, Token.characters, Token.size])
  | sign mark =>
      exact wordMeaning_writtenIn (by simp [Token.text, Token.characters, Token.size])

theorem closeRun_portioned {found : List Piece} {run : List String} {size : ℕ}
    (hfound : Portioned Piece.WrittenIn found size) (hrun : ∀ word ∈ run, IsRunWord word) :
    Portioned Piece.WrittenIn (closeRun found run) (size + Spoken.size run) := by
  unfold closeRun
  split
  · exact hfound.mono (Nat.le_add_right _ _)
  · refine hfound.cons ⟨fun word hword => hrun word (List.mem_reverse.mp hword), ?_⟩
    simp [Spoken.size, List.sum_reverse]

theorem ownPieces_portioned {meaning : Meaning} {found : List Piece} {size part : ℕ}
    (h : meaning.WrittenIn part) (hfound : Portioned Piece.WrittenIn found size) :
    Portioned Piece.WrittenIn (meaning.ownPieces ++ found) (size + part) := by
  cases meaning with
  | number value => exact hfound.cons h
  | negative | operator | keyword => exact hfound.cons trivial
  | spoken | conjunction | filler => exact hfound.mono (Nat.le_add_right _ _)

/-- What a token adds to the pieces and to the run takes its portion. -/
theorem goOn_portioned {meaning : Meaning} {found : List Piece} {run : List String}
    {size part : ℕ} (numberNext : Bool) (h : meaning.WrittenIn part)
    (hfound : Portioned Piece.WrittenIn found size) (hrun : ∀ word ∈ run, IsRunWord word) :
    ∃ larger, larger + Spoken.size (meaning.goOn run numberNext).2 ≤
        size + Spoken.size run + part ∧
      Portioned Piece.WrittenIn ((meaning.goOn run numberNext).1 ++ found) larger ∧
      ∀ word ∈ (meaning.goOn run numberNext).2, IsRunWord word := by
  have hclosed := closeRun_portioned hfound hrun
  by_cases hends : meaning.EndsRun
  · rw [hends.goOn_eq, List.append_assoc, ← closeRun_eq]
    exact ⟨_, Nat.le_refl _, ownPieces_portioned h hclosed, List.forall_mem_nil _⟩
  · cases meaning with
    | number | negative | operator | keyword | filler => exact absurd trivial hends
    | spoken word =>
        refine ⟨size, ?_, hfound, List.forall_mem_cons.mpr ⟨h.1, hrun⟩⟩
        have hlength := h.2
        simp only [Meaning.goOn, Spoken.size, List.map_cons, List.sum_cons]
        omega
    | conjunction =>
        dsimp only [Meaning.goOn]
        split
        · exact ⟨size, Nat.le_add_right _ _, hfound, hrun⟩
        · rw [← closeRun_eq]
          exact ⟨_, Nat.le_add_right _ _, hclosed, List.forall_mem_nil _⟩

theorem piecesAfter_portioned {tokens : List Token} {found : List Piece} {run : List String}
    {size : ℕ} (htokens : ∀ token ∈ tokens, token.IsProper)
    (hfound : Portioned Piece.WrittenIn found size) (hrun : ∀ word ∈ run, IsRunWord word) :
    Portioned Piece.WrittenIn (piecesAfter found run tokens)
      (size + Spoken.size run + (tokens.map Token.size).sum) := by
  induction tokens generalizing found run size with
  | nil => exact (closeRun_portioned hfound hrun).reverse
  | cons token rest ih =>
      obtain ⟨htoken, hrest⟩ := List.forall_mem_cons.mp htokens
      obtain ⟨larger, hsize, hnext, hopen⟩ := goOn_portioned (goesOnWithNumber rest)
        (Token.meaning_writtenIn htoken) hfound hrun
      rw [piecesAfter_cons, List.map_cons, List.sum_cons]
      exact (ih hrest hnext hopen).mono (by omega)

theorem flatten_dropLast_append (groups : List (List String)) (behind : List String) :
    (groups.dropLast ++ [groups.getLast?.getD [] ++ behind]).flatten =
      groups.flatten ++ behind := by
  rcases List.eq_nil_or_concat groups with rfl | ⟨front, last, rfl⟩
  · simp
  · simp

theorem flatten_numbersOfRun (run : List String) : (numbersOfRun run).flatten = run := by
  unfold numbersOfRun splitRun
  split
  · rw [flatten_dropLast_append, List.flatten_splitBy, Spoken.beforePoint,
      List.takeWhile_append_dropWhile]
  · exact List.flatten_splitBy _ _

/-- Reading goes on within the given size, or ends because words are no
number. -/
def IsReadWithin (size : ℕ) : Except ItemFault ItemState → Prop
  | .ok state => Portioned Item.WrittenIn state.found size
  | .error (.spoken _) => True
  | .error (.signal _) => False

theorem IsReadWithin.mono {outcome : Except ItemFault ItemState} {size larger : ℕ}
    (h : IsReadWithin size outcome) (hle : size ≤ larger) : IsReadWithin larger outcome := by
  cases outcome with
  | ok state => exact Portioned.mono h hle
  | error fault =>
      cases fault with
      | spoken _ => trivial
      | signal _ => exact h

theorem isReadWithin_number {state : ItemState} {value : Decimal} {size part : ℕ}
    (hfound : Portioned Item.WrittenIn state.found size) (hvalue : value.WrittenIn part)
    (hpart : part < 1000000) : IsReadWithin (size + part) (state.number value) := by
  unfold ItemState.number
  split
  · obtain ⟨negated, hok, hnegated⟩ := hvalue.negate hpart
    rw [hok]
    exact hfound.cons hnegated
  · exact hfound.cons hvalue

theorem isReadWithin_spoken {groups : List (List String)} {state : ItemState} {size : ℕ}
    (hfound : Portioned Item.WrittenIn state.found size)
    (hwords : ∀ word ∈ groups.flatten, IsRunWord word)
    (hsize : Spoken.size groups.flatten < 1000000) :
    IsReadWithin (size + Spoken.size groups.flatten) (groups.foldlM ItemState.spoken state) := by
  induction groups generalizing state size with
  | nil => exact hfound
  | cons words others ih =>
      rw [List.flatten_cons] at hwords hsize ⊢
      have hsplit : Spoken.size (words ++ others.flatten) =
          Spoken.size words + Spoken.size others.flatten := by
        simp [Spoken.size]
      rw [hsplit] at hsize ⊢
      rw [List.foldlM_cons, ItemState.spoken]
      cases hread : read words with
      | error fault => trivial
      | ok value =>
          have hvalue := read_writtenIn
            (fun word hword => hwords word (List.mem_append_left _ hword)) hread
          have hnumber := isReadWithin_number hfound hvalue (by omega)
          dsimp only
          cases hstate : state.number value with
          | error fault =>
              rw [hstate] at hnumber
              cases fault with
              | spoken _ => trivial
              | signal _ => exact hnumber.elim
          | ok next =>
              rw [hstate] at hnumber
              rw [← Nat.add_assoc]
              exact ih hnumber (fun word hword => hwords word (List.mem_append_right _ hword))
                (by omega)

theorem isReadWithin_piece {piece : Piece} {state : ItemState} {size part : ℕ}
    (hfound : Portioned Item.WrittenIn state.found size) (hpiece : piece.WrittenIn part)
    (hpart : part < 1000000) : IsReadWithin (size + part) (state.piece piece) := by
  cases piece with
  | number value => exact isReadWithin_number hfound hpiece hpart
  | run words =>
      obtain ⟨hwords, hsize⟩ := hpiece
      have hflatten := flatten_numbersOfRun words
      rw [← hflatten] at hwords hsize
      have hread := isReadWithin_spoken hfound hwords (by omega)
      exact hread.mono (by omega)
  | negative => exact hfound.mono (Nat.le_add_right _ _)
  | operator operator => exact hfound.cons trivial
  | keyword keyword => exact hfound.cons trivial

theorem isReadWithin_pieces {pieces : List Piece} {state : ItemState} {size part : ℕ}
    (hfound : Portioned Item.WrittenIn state.found size)
    (hpieces : Portioned Piece.WrittenIn pieces part) (hpart : part < 1000000) :
    IsReadWithin (size + part) (pieces.foldlM ItemState.piece state) := by
  induction pieces generalizing state size part with
  | nil => exact hfound.mono (Nat.le_add_right _ _)
  | cons piece rest ih =>
      obtain ⟨first, hfirst, hpiece, hrest⟩ := hpieces.of_cons
      have hstep := isReadWithin_piece hfound hpiece (by omega)
      rw [List.foldlM_cons]
      cases hstate : state.piece piece with
      | error fault =>
          rw [hstate] at hstep
          cases fault with
          | spoken _ => trivial
          | signal _ => exact hstep.elim
      | ok next =>
          rw [hstate] at hstep
          have hnext := ih hstep hrest (by omega)
          have hsum : size + first + (part - first) = size + part := by omega
          rwa [hsum] at hnext

end Phrase

end SpokenCalculator
