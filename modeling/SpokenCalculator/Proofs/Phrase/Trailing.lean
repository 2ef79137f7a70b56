import SpokenCalculator.Proofs.Phrase.Grammar
import SpokenCalculator.Proofs.Phrase.Insertion
import SpokenCalculator.Proofs.Phrase.Negation
import SpokenCalculator.Proofs.Phrase.Operand
import SpokenCalculator.Proofs.Phrase.Parting
import SpokenCalculator.Proofs.Phrase.Printed

/-!
# Words behind the right operand

The first operator with a number on both sides decides, so what comes behind
"equals" does not change the calculation. It is read all the same before the
operator is looked for: number words that are no number there, or a number that
cannot change its sign, keep the whole phrase from being understood.
-/

namespace SpokenCalculator

namespace Phrase

/-! ### Pieces -/

theorem isLoose_equals : IsLoose "equals".toList := by
  decide +kernel

theorem piecesOf_append_equals (heard behind : String) :
    piecesOf (tokenize (heard ++ " equals " ++ behind)) =
      piecesOf (tokenize heard) ++ piecesOf (tokenize behind) := by
  have hfiller : (Token.word "equals".toList).meaning = .filler :=
    (meaning_word "equals").trans rfl
  have htext : heard ++ " equals " ++ behind = heard ++ " " ++ "equals" ++ " " ++ behind := by
    simp [String.append_assoc]
  rw [htext, tokenize_around isLoose_equals, piecesOf_append_filler hfiller]

/-! ### Items -/

/-- The words of every number in the pieces can be read. -/
def AreReadable (pieces : List Piece) : Prop :=
  ∀ words, .run words ∈ pieces → ∀ number ∈ numbersOfRun words,
    ∃ value, Spoken.read number = .ok value

namespace ItemState

variable {state next : ItemState}

theorem exists_read_of_spoken {words : List String} (hok : state.spoken words = .ok next) :
    ∃ value, Spoken.read words = .ok value := by
  unfold spoken at hok
  split at hok
  · rename_i value hread
    exact ⟨value, hread⟩
  · cases hok

theorem number_ne_spoken (value : Decimal) (fault : SpokenFault) :
    state.number value ≠ .error (.spoken fault) := by
  unfold number
  split
  · split <;> nofun
  · nofun

theorem found_of_number {value : Decimal} (hok : state.number value = .ok next) :
    state.found <:+ next.found := by
  unfold number at hok
  split at hok
  · split at hok
    · cases hok
      exact List.suffix_cons _ _
    · cases hok
  · cases hok
    exact List.suffix_cons _ _

theorem found_of_spoken {words : List String} (hok : state.spoken words = .ok next) :
    state.found <:+ next.found := by
  unfold spoken at hok
  split at hok
  · exact found_of_number hok
  · cases hok

end ItemState

theorem ItemState.found_of_piece {state next : ItemState} {piece : Piece}
    (hok : state.piece piece = .ok next) : state.found <:+ next.found := by
  cases piece with
  | number value => exact found_of_number hok
  | run words =>
      exact foldlM_le (fun a b => a.found <:+ b.found) (fun _ => List.suffix_refl _)
        List.IsSuffix.trans found_of_spoken hok
  | negative =>
      cases hok
      exact List.suffix_refl _
  | operator operator =>
      cases hok
      exact List.suffix_cons _ _
  | keyword keyword =>
      cases hok
      exact List.suffix_cons _ _

section

variable {pieces behind : List Piece}

/-- More pieces only add items behind. -/
theorem prefix_of_itemsOfPieces_append {items longer : List Item}
    (hok : itemsOfPieces pieces = .ok items)
    (hlonger : itemsOfPieces (pieces ++ behind) = .ok longer) : items <+: longer := by
  obtain ⟨state, hstate, rfl⟩ := itemsOfPieces_eq_ok_iff.mp hok
  obtain ⟨last, hlast, rfl⟩ := itemsOfPieces_eq_ok_iff.mp hlonger
  rw [List.foldlM_append, hstate] at hlast
  rw [List.reverse_prefix]
  exact foldlM_le (fun a b => a.found <:+ b.found) (fun _ => List.suffix_refl _)
    List.IsSuffix.trans ItemState.found_of_piece hlast

theorem areReadable_of_itemsOfPieces {items : List Item} (hok : itemsOfPieces pieces = .ok items) :
    AreReadable pieces := by
  intro words hwords number hnumber
  obtain ⟨last, hlast, _⟩ := itemsOfPieces_eq_ok_iff.mp hok
  obtain ⟨state, next, hrun⟩ := exists_step_of_foldlM_eq_ok hlast hwords
  obtain ⟨_, _, hspoken⟩ := exists_step_of_foldlM_eq_ok hrun hnumber
  exact ItemState.exists_read_of_spoken hspoken

theorem itemsOfPieces_ne_spoken (hreadable : AreReadable pieces) (fault : SpokenFault) :
    itemsOfPieces pieces ≠ .error (.spoken fault) := by
  rw [Ne, itemsOfPieces_eq_error_iff, foldlM_eq_error_iff]
  rintro ⟨before, piece, after, state, rfl, _, hpiece⟩
  cases piece with
  | number value => exact ItemState.number_ne_spoken value fault hpiece
  | run words =>
      obtain ⟨_, number, _, middle, hsplit, _, hnumber⟩ := foldlM_eq_error_iff.mp hpiece
      obtain ⟨value, hread⟩ := hreadable words (by simp) number (by simp [hsplit])
      rw [ItemState.spoken, hread] at hnumber
      exact ItemState.number_ne_spoken value fault hnumber
  | negative => cases hpiece
  | operator operator => cases hpiece
  | keyword keyword => cases hpiece

theorem areReadable_append :
    AreReadable (pieces ++ behind) ↔ AreReadable pieces ∧ AreReadable behind := by
  constructor
  · intro h
    exact ⟨fun words hwords => h words (List.mem_append_left _ hwords),
      fun words hwords => h words (List.mem_append_right _ hwords)⟩
  · rintro ⟨hpieces, hbehind⟩ words hwords
    exact (List.mem_append.mp hwords).elim (hpieces words) (hbehind words)

end

/-! ### Signs -/

section

variable {read behind more resolved longer : List Item} {operator : Operator} {rhs : Decimal}

theorem prefix_of_resolveAfter (hok : resolveAfter read behind = .ok resolved) :
    read.reverse <+: resolved := by
  have hread : ∀ {read : List Item} {item : Item}, (item :: read).reverse <+: resolved →
      read.reverse <+: resolved := fun h => by
    rw [List.reverse_cons] at h
    exact (List.prefix_append _ _).trans h
  fun_induction resolveAfter read behind with
  | case1 read operator value rest negative _ _ result _ ih => exact hread (ih hok)
  | case2 read operator value rest negative _ _ signal _ => cases hok
  | case3 read operator value rest negative _ _ ih => exact hread (ih hok)
  | case4 read operator value rest _ ih => exact hread (ih hok)
  | case5 read item rest _ ih => exact hread (ih hok)
  | case6 read =>
      cases hok
      exact List.prefix_refl _

/-- Behind an operator an item is read, with its sign if it has one, and unless
it is another operator it is read there whatever comes later. -/
theorem exists_item_behind_operator {first : Item} {rest : List Item}
    (hok : resolveAfter (.operator operator :: read) (first :: rest) = .ok resolved) :
    ∃ item left,
      resolveAfter (.operator operator :: read) (first :: rest) =
        resolveAfter (item :: .operator operator :: read) left ∧
      (item.isOperator = false → ∀ more,
        resolveAfter (.operator operator :: read) (first :: rest ++ more) =
          resolveAfter (item :: .operator operator :: read) (left ++ more)) := by
  have hsame : ∀ item : Item, item.isOperator = false → ∀ behind,
      resolveAfter (.operator operator :: read) (item :: behind) =
        resolveAfter (item :: .operator operator :: read) behind := fun item hitem =>
    resolveAfter_of_operatorFree (List.forall_mem_singleton.2 hitem : OperatorFree [item]) _
  cases first with
  | number value => exact ⟨.number value, rest, hsame _ rfl rest, fun _ _ => hsame _ rfl _⟩
  | keyword keyword => exact ⟨.keyword keyword, rest, hsame _ rfl rest, fun _ _ => hsame _ rfl _⟩
  | operator other =>
      by_cases hplain : ∀ value later, rest = .number value :: later → signOf? other = none
      · refine ⟨.operator other, rest, ?_, nofun⟩
        exact resolveAfter_operator fun value later hrest hsign =>
          absurd (hplain value later hrest) hsign
      · simp only [not_forall] at hplain
        obtain ⟨value, later, rfl, hsign⟩ := hplain
        obtain ⟨negative, hnegative⟩ := Option.ne_none_iff_exists'.1 hsign
        obtain ⟨result, happlied⟩ := exists_applySign_of_resolveAfter hnegative rfl hok
        exact ⟨.number result, later, resolveAfter_sign hnegative rfl happlied,
          fun _ _ => resolveAfter_sign hnegative rfl happlied⟩

/-- The number that is read behind an operator is read there whatever comes
later. -/
theorem exists_resolveAfter_number
    (hok : resolveAfter (.operator operator :: read) behind =
      .ok (read.reverse ++ .operator operator :: .number rhs :: resolved))
    (hlonger : resolveAfter (.operator operator :: read) (behind ++ more) = .ok longer) :
    ∃ later, longer = read.reverse ++ .operator operator :: .number rhs :: later := by
  cases behind with
  | nil =>
      have hnone : resolveAfter (.operator operator :: read) [] =
          .ok (read.reverse ++ [.operator operator]) := by rw [resolveAfter, List.reverse_cons]
      have hsame := Except.ok.inj (hnone.symm.trans hok)
      rw [List.append_cancel_left_eq] at hsame
      cases hsame
  | cons first rest =>
      obtain ⟨item, left, hread, hmore⟩ := exists_item_behind_operator hok
      have hitem : item = .number rhs := by
        have hprefix := prefix_of_resolveAfter (hread.symm.trans hok)
        rw [List.reverse_cons, List.reverse_cons, List.append_assoc,
          List.prefix_append_right_inj] at hprefix
        exact (List.cons_prefix_cons.mp (List.cons_prefix_cons.mp hprefix).2).1
      subst hitem
      obtain ⟨later, rfl⟩ := prefix_of_resolveAfter ((hmore rfl more).symm.trans hlonger)
      exact ⟨later, by simp⟩

/-- An operator behind exactly one number makes a calculation of two operands. -/
theorem operation_eq_compute {heard : String} {before : List Decimal} {rhs? : Option Decimal}
    {lhs : Decimal} {found : Operator}
    (h : operation heard before operator rhs? = .compute lhs found rhs) :
    before = [lhs] ∧ operator = found ∧ rhs? = some rhs := by
  cases rhs? with
  | none => cases h
  | some value =>
      rcases before with _ | ⟨first, _ | ⟨second, others⟩⟩
      · cases h
      · cases h
        exact ⟨rfl, rfl, rfl⟩
      · cases h

end

section

variable {front behind more resolved longer : List Item} {operator found : Operator}
  {lhs rhs : Decimal} {heard : String}

/-- What is known of a calculation, once its operator is read. -/
theorem of_commandOf_eq_compute (hfront : OperatorFree front)
    (hok : resolveAfter (.operator operator :: front.reverse) behind = .ok resolved)
    (hcommand : commandOf heard resolved = .compute lhs found rhs) :
    front.filterMap Item.number? = [lhs] ∧ operator = found ∧
      ∃ tail, resolved = front ++ .operator operator :: .number rhs :: tail := by
  obtain ⟨tail, hresolved⟩ := prefix_of_resolveAfter hok
  rw [List.reverse_cons, List.reverse_reverse, List.append_assoc,
    List.singleton_append] at hresolved
  rw [← hresolved, commandOf_of_front heard hfront] at hcommand
  obtain ⟨hbefore, hfound, hrhs⟩ := operation_eq_compute hcommand
  refine ⟨hbefore, hfound, ?_⟩
  rcases tail with _ | ⟨_ | _ | _, rest⟩
  · cases hrhs
  · cases hrhs
    exact ⟨rest, hresolved.symm⟩
  · cases hrhs
  · cases hrhs

theorem commandOf_append_of_front (hfront : OperatorFree front)
    (hok : resolveAfter (.operator operator :: front.reverse) behind = .ok resolved)
    (hcommand : commandOf heard resolved = .compute lhs found rhs)
    (hlonger : resolveAfter (.operator operator :: front.reverse) (behind ++ more) = .ok longer)
    (whole : String) : commandOf whole longer = .compute lhs found rhs := by
  obtain ⟨hbefore, rfl, tail, rfl⟩ := of_commandOf_eq_compute hfront hok hcommand
  have hread : resolveAfter (.operator operator :: front.reverse) behind =
      .ok (front.reverse.reverse ++ .operator operator :: .number rhs :: tail) := by
    rw [List.reverse_reverse, hok]
  obtain ⟨later, rfl⟩ := exists_resolveAfter_number hread hlonger
  rw [List.reverse_reverse, commandOf_of_front whole hfront, hbefore]
  rfl

theorem commandOf_ne_compute_of_operatorFree {items : List Item} (hfree : OperatorFree items)
    (heard : String) : commandOf heard items ≠ .compute lhs found rhs := by
  have hnone : items.dropWhile (!·.isOperator) = [] :=
    List.dropWhile_eq_nil_iff.2 fun item hitem => by simp [hfree item hitem]
  rw [commandOf, hnone]
  dsimp only
  unfold keywordCommand
  split
  · rename_i keyword _ _
    cases keyword <;> nofun
  · nofun

/-- Once the operator has both operands, items behind them change nothing. -/
theorem commandOf_resolveSigns_append {items : List Item} (hok : resolveSigns items = .ok resolved)
    (hcommand : commandOf heard resolved = .compute lhs found rhs)
    (hlonger : resolveSigns (items ++ more) = .ok longer) (whole : String) :
    commandOf whole longer = .compute lhs found rhs := by
  rcases exists_operator items with hfree | ⟨front, operator, behind, rfl, hfront⟩
  · rw [resolveSigns, resolveAfter_eq_of_operatorFree hfree] at hok
    cases hok
    exact absurd hcommand (commandOf_ne_compute_of_operatorFree hfree heard)
  · have hread := fun behind =>
      resolveAfter_of_operatorFree hfront [] (.operator operator :: behind)
    simp only [List.append_nil] at hread
    rw [List.append_assoc, List.cons_append, resolveSigns, hread] at hlonger
    rw [resolveSigns, hread] at hok
    by_cases hplain : ∀ value rest, behind = .number value :: rest → signOf? operator ≠ none →
        isSign front.reverse rest = false
    · rw [resolveAfter_operator hplain] at hok
      obtain ⟨hbefore, _⟩ := of_commandOf_eq_compute hfront hok hcommand
      have hnumber : front.reverse.any Item.isNumber = true := by
        rw [← Bool.not_eq_false, List.any_reverse, ← filterMap_number?_eq_nil_iff, hbefore]
        exact List.cons_ne_nil _ _
      rw [resolveAfter_operator fun _ _ _ _ => by
        rw [isSign_of_operatorFree hfront.reverse, hnumber]; rfl] at hlonger
      exact commandOf_append_of_front hfront hok hcommand hlonger whole
    · simp only [not_forall, Bool.not_eq_false] at hplain
      obtain ⟨value, rest, rfl, hne, hsign⟩ := hplain
      obtain ⟨negative, hnegative⟩ := Option.ne_none_iff_exists'.1 hne
      have hleading := hsign
      rw [isSign_of_operatorFree hfront.reverse, Bool.and_eq_true] at hleading
      rcases exists_operator rest with hfree | ⟨middle, later, last, rfl, hmiddle⟩
      · rw [hfree.any_eq_false] at hleading
        cases hleading.2
      · have hsignMore : isSign front.reverse (middle ++ .operator later :: (last ++ more)) := by
          rw [isSign_of_operatorFree hfront.reverse, hleading.1]
          simp [Item.isOperator]
        obtain ⟨leading, happlied⟩ := exists_applySign_of_resolveAfter hnegative hsign hok
        have hjoined : OperatorFree (front ++ .number leading :: middle) :=
          hfront.append (operatorFree_cons.2 ⟨rfl, hmiddle⟩)
        rw [List.cons_append, List.append_assoc, List.cons_append,
          resolveAfter_leading hfront hmiddle hnegative happlied later hsignMore] at hlonger
        rw [resolveAfter_leading hfront hmiddle hnegative happlied later hsign] at hok
        exact commandOf_append_of_front hjoined hok hcommand hlonger whole

end

end Phrase

namespace Command

open Phrase

/-- A calculation of two operands comes from items that were all read. -/
theorem of_parse_eq_compute {heard : String} {lhs rhs : Decimal} {operator : Operator}
    (h : parse heard = .ok (.compute lhs operator rhs)) :
    ∃ items resolved, itemsOf (tokenize heard) = .ok items ∧ resolveSigns items = .ok resolved ∧
      commandOf heard resolved = .compute lhs operator rhs := by
  rw [parse_eq] at h
  split at h
  · rename_i resolved hresolved
    obtain ⟨items, hitems, hsigns⟩ := resolvedItems_eq_ok_iff.mp hresolved
    exact ⟨items, resolved, hitems, hsigns, Except.ok.inj h⟩
  · cases h
  · cases h

theorem parse_of_signal {heard : String} {signal : Signal}
    (h : resolvedItems heard = .error (.signal signal)) : parse heard = .error .overflow := by
  obtain ⟨_, hnegates⟩ := (resolvedItems_eq_signal_iff heard signal).mp h
  exact (parse_eq_overflow_iff heard).mpr hnegates

theorem parse_append_equals_cases {heard : String} {lhs rhs : Decimal} {operator : Operator}
    (h : parse heard = .ok (.compute lhs operator rhs)) (behind : String) :
    let whole := heard ++ " equals " ++ behind
    let readable := AreReadable (piecesOf (tokenize behind))
    (parse whole = .ok (.compute lhs operator rhs) ∧ readable) ∨
      (parse whole = .ok (.unrecognized whole) ∧ ¬ readable) ∨ parse whole = .error .overflow := by
  intro whole readable
  obtain ⟨items, resolved, hitems, hresolved, hcommand⟩ := of_parse_eq_compute h
  have hpieces : piecesOf (tokenize whole) =
      piecesOf (tokenize heard) ++ piecesOf (tokenize behind) :=
    piecesOf_append_equals heard behind
  cases hwhole : itemsOf (tokenize whole) with
  | ok longer =>
      have hread := hwhole
      rw [itemsOf, hpieces] at hread
      obtain ⟨more, rfl⟩ := prefix_of_itemsOfPieces_append hitems hread
      cases hsigns : resolveSigns (items ++ more) with
      | ok signed =>
          refine Or.inl ⟨?_, (areReadable_append.mp (areReadable_of_itemsOfPieces hread)).2⟩
          rw [parse_of_items hwhole hsigns,
            commandOf_resolveSigns_append hresolved hcommand hsigns whole]
      | error signal =>
          have hfault : resolvedItems whole = .error (.signal signal) := by
            rw [resolvedItems_of_itemsOf hwhole, hsigns]
            rfl
          exact Or.inr (Or.inr (parse_of_signal hfault))
  | error fault =>
      cases fault with
      | spoken fault =>
          have hnot := parse_of_spoken (resolvedItems_of_error hwhole)
          refine Or.inr (Or.inl ⟨hnot, fun hreadable => ?_⟩)
          rw [itemsOf, hpieces] at hwhole
          refine itemsOfPieces_ne_spoken (areReadable_append.mpr ⟨?_, hreadable⟩) fault hwhole
          exact areReadable_of_itemsOfPieces hitems
      | signal signal =>
          exact Or.inr (Or.inr (parse_of_signal (resolvedItems_of_error hwhole)))

/-- What is said behind "equals" leaves a calculation as it is, exactly if all
number words there can be read and no number that changes its sign is too large
for it. Otherwise the whole phrase is not understood or the overflow is
signalled. -/
theorem parse_append_equals {heard : String} {lhs rhs : Decimal} {operator : Operator}
    (h : parse heard = .ok (.compute lhs operator rhs)) (behind : String) :
    let whole := heard ++ " equals " ++ behind
    (parse whole = .ok (.compute lhs operator rhs) ↔
        AreReadable (piecesOf (tokenize behind)) ∧
          ∀ value, Negates whole value → ¬ value.Overflows) ∧
      (parse whole = .ok (.compute lhs operator rhs) ∨ parse whole = .ok (.unrecognized whole) ∨
        parse whole = .error .overflow) := by
  intro whole
  have hoverflow := parse_eq_overflow_iff whole
  have hinside : parse whole ≠ .error .overflow ↔
      ∀ value, Negates whole value → ¬ value.Overflows := by
    rw [Ne, hoverflow]
    simp
  rw [← hinside]
  rcases parse_append_equals_cases h behind with ⟨hsame, hreadable⟩ | ⟨hnot, hunreadable⟩ | herror
  · have hparse : parse whole = .ok (.compute lhs operator rhs) := hsame
    simp [hparse, hreadable]
  · have hparse : parse whole = .ok (.unrecognized whole) := hnot
    simp [hparse, hunreadable]
  · have hparse : parse whole = .error .overflow := herror
    simp [hparse]

/-- The words behind "equals" are a number and a sign that waits for another. -/
theorem parse_append_equals_nine :
    let sum := compute (.ofNat 2) .add (.ofNat 3)
    parse "two plus three" = .ok sum ∧
      parse ("two plus three" ++ " equals " ++ "nine point five minus") = .ok sum ∧
      AreReadable (piecesOf (tokenize "nine point five minus")) := by
  intro sum
  have hsum : parse "two plus three" = .ok sum := by decide +kernel
  have hwhole : parse ("two plus three" ++ " equals " ++ "nine point five minus") = .ok sum := by
    decide +kernel
  obtain ⟨hsame, _⟩ := parse_append_equals hsum "nine point five minus"
  exact ⟨hsum, hwhole, (hsame.mp hwhole).1⟩

/-- A point without digits behind "equals" is enough to lose a calculation that
was complete before. -/
theorem not_parse_append_equals_point :
    ¬ ∀ (heard : String) (lhs rhs : Decimal) (operator : Operator),
      parse heard = .ok (.compute lhs operator rhs) → ∀ behind : String,
        parse (heard ++ " equals " ++ behind) = .ok (.compute lhs operator rhs) := by
  intro hignored
  have hsum : parse "two plus three" = .ok (.compute (.ofNat 2) .add (.ofNat 3)) := by
    decide +kernel
  have hlost : parse ("two plus three" ++ " equals " ++ "point") =
      .ok (.unrecognized "two plus three equals point") := by decide +kernel
  cases hlost.symm.trans (hignored _ _ _ _ hsum "point")

end Command

end SpokenCalculator
