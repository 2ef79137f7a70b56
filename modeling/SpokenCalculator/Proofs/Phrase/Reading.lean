import SpokenCalculator.Proofs.Phrase.Portion
import SpokenCalculator.Proofs.Phrase.Resolved
import SpokenCalculator.Proofs.Phrase.Sign

namespace SpokenCalculator

def Command.WrittenIn (size : ℕ) : Command → Prop
  | .compute lhs _ rhs => ∃ part, part ≤ size ∧ lhs.WrittenIn part ∧ rhs.WrittenIn (size - part)
  | .apply _ rhs => rhs.WrittenIn size
  | _ => True

namespace Phrase

variable {items read : List Item} {size part : ℕ} {heard : String}

theorem itemsOf_portioned {tokens : List Token} (htokens : ∀ token ∈ tokens, token.IsProper)
    (hsize : (tokens.map Token.size).sum < 1000000) :
    (∃ items, itemsOf tokens = .ok items ∧
      Portioned Item.WrittenIn items (tokens.map Token.size).sum) ∨
    ∃ fault, itemsOf tokens = .error (.spoken fault) := by
  have hpieces : Portioned Piece.WrittenIn (piecesOf tokens) (tokens.map Token.size).sum := by
    have hnone : Portioned Piece.WrittenIn (piecesAfter [] [] tokens) _ :=
      piecesAfter_portioned htokens .nil (List.forall_mem_nil _)
    simpa [piecesOf, Spoken.size] using hnone
  have hread : IsReadWithin _ ((piecesOf tokens).foldlM ItemState.piece ⟨[], false⟩) :=
    isReadWithin_pieces .nil hpieces hsize
  rw [Nat.zero_add] at hread
  unfold itemsOf itemsOfPieces
  cases hstate : (piecesOf tokens).foldlM ItemState.piece ⟨[], false⟩ with
  | error fault =>
      rw [hstate] at hread
      cases fault with
      | spoken fault => exact Or.inr ⟨fault, rfl⟩
      | signal _ => exact hread.elim
  | ok state =>
      rw [hstate] at hread
      exact Or.inl ⟨_, rfl, Portioned.reverse hread⟩

theorem applySign_writtenIn (negative : Bool) {value : Decimal} (hvalue : value.WrittenIn size)
    (hsize : size < 1000000) :
    ∃ result, applySign negative value = .ok result ∧ result.WrittenIn size := by
  cases negative with
  | false => exact ⟨value, rfl, hvalue⟩
  | true => exact hvalue.negate hsize

theorem resolveAfter_portioned (hread : Portioned Item.WrittenIn read part)
    (hitems : Portioned Item.WrittenIn items size) (hsize : size < 1000000) :
    ∃ result, resolveAfter read items = .ok result ∧
      Portioned Item.WrittenIn result (part + size) := by
  fun_induction resolveAfter read items generalizing part size with
  | case1 read operator value rest negative _ _ result happlied ih =>
      obtain ⟨first, hfirst, _, hbehind⟩ := hitems.of_cons
      obtain ⟨second, hsecond, hvalue, hrest⟩ := hbehind.of_cons
      obtain ⟨signed, hsigned, hwritten⟩ := applySign_writtenIn negative hvalue (by omega)
      rw [hsigned] at happlied
      cases happlied
      obtain ⟨items, hok, hportioned⟩ := ih (hread.cons hwritten) hrest (by omega)
      exact ⟨items, hok, hportioned.mono (by omega)⟩
  | case2 read operator value rest negative _ _ signal happlied =>
      obtain ⟨first, hfirst, _, hbehind⟩ := hitems.of_cons
      obtain ⟨second, hsecond, hvalue, _⟩ := hbehind.of_cons
      obtain ⟨_, hsigned, _⟩ := applySign_writtenIn negative hvalue (by omega)
      rw [hsigned] at happlied
      cases happlied
  | case3 read operator value rest negative _ _ ih =>
      obtain ⟨first, hfirst, hoperator, hbehind⟩ := hitems.of_cons
      obtain ⟨items, hok, hportioned⟩ := ih (hread.cons hoperator) hbehind (by omega)
      exact ⟨items, hok, hportioned.mono (by omega)⟩
  | case4 read operator value rest _ ih =>
      obtain ⟨first, hfirst, hoperator, hbehind⟩ := hitems.of_cons
      obtain ⟨items, hok, hportioned⟩ := ih (hread.cons hoperator) hbehind (by omega)
      exact ⟨items, hok, hportioned.mono (by omega)⟩
  | case5 read item rest _ ih =>
      obtain ⟨first, hfirst, hitem, hbehind⟩ := hitems.of_cons
      obtain ⟨items, hok, hportioned⟩ := ih (hread.cons hitem) hbehind (by omega)
      exact ⟨items, hok, hportioned.mono (by omega)⟩
  | case6 read => exact ⟨_, rfl, hread.reverse.mono (Nat.le_add_right _ _)⟩

theorem resolvedItems_portioned (hsize : Text.bulk heard.toList < 1000000) :
    (∃ items, resolvedItems heard = .ok items ∧
      Portioned Item.WrittenIn items (Text.bulk heard.toList)) ∨
    ∃ fault, resolvedItems heard = .error (.spoken fault) := by
  have htokens := sum_size_tokenize_le heard
  have hproper : ∀ token ∈ tokenize heard, token.IsProper := fun _ => isProper_of_mem_tokenize
  rcases itemsOf_portioned hproper (by omega) with
    ⟨items, hok, hitems⟩ | ⟨fault, herror⟩
  · obtain ⟨resolved, hresolved, hportioned⟩ :=
      resolveAfter_portioned .nil (hitems.mono htokens) hsize
    exact Or.inl ⟨resolved, resolvedItems_eq_ok_iff.mpr ⟨items, hok, hresolved⟩,
      hportioned.mono (by omega)⟩
  · exact Or.inr ⟨fault, resolvedItems_of_error herror⟩

/-- The operands of a command are items before and behind its operator. -/
theorem commandOf_writtenIn (hitems : Portioned Item.WrittenIn items size) :
    (commandOf heard items).WrittenIn size := by
  have hkeyword : ∀ keyword : Keyword, keyword.command.WrittenIn size := fun keyword => by
    cases keyword <;> trivial
  unfold commandOf
  dsimp only
  split
  · unfold keywordCommand
    split
    · exact hkeyword _
    · trivial
  · rename_i operator rhs rest hbehind
    have hsplit : items.takeWhile (!·.isOperator) ++ items.dropWhile (!·.isOperator) = items :=
      List.takeWhile_append_dropWhile
    rw [hbehind] at hsplit
    rw [← hsplit] at hitems
    obtain ⟨part, hpart, hbefore, hbehind⟩ := hitems.of_append
    obtain ⟨first, _, _, hbehind⟩ := hbehind.of_cons
    obtain ⟨second, _, hrhs, _⟩ := hbehind.of_cons
    split
    · exact Decimal.WrittenIn.mono hrhs (by omega)
    · rename_i lhs hlhs
      have hmem : lhs ∈ (items.takeWhile (!·.isOperator)).filterMap Item.number? := by
        rw [hlhs]
        exact List.mem_cons_self
      obtain ⟨item, hitem, hnumber⟩ := List.mem_filterMap.mp hmem
      obtain ⟨third, hthird, hwritten⟩ := hbefore.of_mem hitem
      cases item with
      | number value =>
          cases hnumber
          exact ⟨third, by omega, hwritten, Decimal.WrittenIn.mono hrhs (by omega)⟩
      | operator _ => cases hnumber
      | keyword _ => cases hnumber
    · trivial
  · trivial

end Phrase

/-- A phrase of less than a million characters is always a command, if only an
unrecognized one. -/
theorem Command.parse_writtenIn {heard : String} (hsize : Text.bulk heard.toList < 1000000) :
    ∃ command, parse heard = .ok command ∧ command.WrittenIn (Text.bulk heard.toList) := by
  rcases Phrase.resolvedItems_portioned hsize with ⟨items, hok, hitems⟩ | ⟨fault, herror⟩
  · exact ⟨_, parse_of_resolvedItems hok, Phrase.commandOf_writtenIn hitems⟩
  · exact ⟨_, parse_of_spoken herror, trivial⟩

end SpokenCalculator
