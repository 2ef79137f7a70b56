import SpokenCalculator.Phrase.Reading
import SpokenCalculator.Proofs.Phrase.Normal
import SpokenCalculator.Proofs.Result

namespace SpokenCalculator

namespace Phrase

open Text

theorem tokenize_of_blank {heard : String} (hblank : heard.toList.all isBlank) :
    tokenize heard = [] := by
  rw [tokenize, normalCharacters_of_blank (List.all_eq_true.mp hblank), tokensOf, tokensAfter]
  rfl

variable {heard : String} {items resolved : List Item} {fault : ItemFault}

theorem resolvedItems_of_itemsOf (hread : itemsOf (tokenize heard) = .ok items) :
    resolvedItems heard = (resolveSigns items).mapError .signal := by
  rw [resolvedItems, hread]
  rfl

theorem resolvedItems_of_error (hread : itemsOf (tokenize heard) = .error fault) :
    resolvedItems heard = .error fault := by
  rw [resolvedItems, hread]
  rfl

theorem resolvedItems_eq_ok_iff :
    resolvedItems heard = .ok resolved ↔
      ∃ items, itemsOf (tokenize heard) = .ok items ∧ resolveSigns items = .ok resolved := by
  rw [resolvedItems, bind_eq_ok]
  exact exists_congr fun _ => and_congr_right fun _ => mapError_eq_ok

end Phrase

namespace Command

open Phrase

theorem parse_eq (heard : String) :
    parse heard =
      match resolvedItems heard with
      | .ok items => .ok (commandOf heard items)
      | .error (.signal .overflow) => .error .overflow
      | .error _ => .ok (.unrecognized heard) := by
  unfold parse
  split
  · rename_i hblank
    have hnone : resolvedItems heard = .ok [] := by
      rw [resolvedItems, tokenize_of_blank hblank]
      rfl
    rw [hnone]
    rfl
  · cases resolvedItems heard with
    | ok items => rfl
    | error fault =>
        cases fault with
        | spoken _ => rfl
        | signal signal => cases signal <;> rfl

variable {heard : String} {items resolved : List Item}

theorem parse_of_resolvedItems (h : resolvedItems heard = .ok resolved) :
    parse heard = .ok (commandOf heard resolved) := by
  rw [parse_eq, h]

theorem parse_of_items (hitems : itemsOf (tokenize heard) = .ok items)
    (hresolved : resolveSigns items = .ok resolved) :
    parse heard = .ok (commandOf heard resolved) :=
  parse_of_resolvedItems (resolvedItems_eq_ok_iff.mpr ⟨items, hitems, hresolved⟩)

theorem parse_of_spoken {fault : SpokenFault} (h : resolvedItems heard = .error (.spoken fault)) :
    parse heard = .ok (.unrecognized heard) := by
  rw [parse_eq, h]

theorem parse_eq_error_iff :
    parse heard = .error .overflow ↔ resolvedItems heard = .error (.signal .overflow) := by
  rw [parse_eq]
  cases resolvedItems heard with
  | ok items => simp
  | error fault =>
      cases fault with
      | spoken _ => simp
      | signal signal => cases signal <;> simp

end Command

end SpokenCalculator
