import Mathlib.Data.List.TakeWhile
import SpokenCalculator.Phrase.Reading
import SpokenCalculator.Proofs.Phrase.Sign

namespace SpokenCalculator.Phrase

variable {items front behind read : List Item} {operator : Operator} {heard : String}

/-- The number with plus or minus as its sign. The other operators are no
signs. -/
def signed? : Operator → Decimal → Option Decimal
  | .add, value => some value
  | .subtract, value => (Context.standard.negate value).toOption
  | _, _ => none

/-- The operand at a position: a number, or a sign and its number. -/
def operandAt? (items : List Item) (position : Nat) : Option Decimal :=
  match items[position]?, items[position + 1]? with
  | some (.number value), _ => some value
  | some (.operator operator), some (.number value) => signed? operator value
  | _, _ => none

/-- The position of the first operator from the given one on. -/
def operatorFrom? (items : List Item) (start : Nat) : Option Nat :=
  ((items.drop start).findIdx? Item.isOperator).map (start + ·)

def numbersWithin (items : List Item) (start stop : Nat) : List Decimal :=
  ((items.take stop).drop start).filterMap Item.number?

/-- An operator with the numbers before it and the operand behind it. -/
def operation (heard : String) (before : List Decimal) (operator : Operator) :
    Option Decimal → Command
  | some rhs =>
      match before with
      | [] => .apply operator rhs
      | [lhs] => .compute lhs operator rhs
      | _ => .unrecognized heard
  | none => .unrecognized heard

def operationAt (heard : String) (items : List Item) (before : List Decimal) (position : Nat) :
    Command :=
  match items[position]? with
  | some (.operator operator) => operation heard before operator (operandAt? items (position + 1))
  | _ => .unrecognized heard

/-- The command of a list of items. Without an operator it is the first keyword,
if there is no number. An operand at the position of the first operator itself
is a sign and its number; if no number stands before it and another operator
comes behind it, this operator decides. -/
def commandAt (heard : String) (items : List Item) : Command :=
  match operatorFrom? items 0 with
  | none =>
      match items.filterMap Item.keyword?, items.filterMap Item.number? with
      | keyword :: _, [] => keyword.command
      | _, _ => .unrecognized heard
  | some first =>
      let before := numbersWithin items 0 first
      match before, operandAt? items first, operatorFrom? items (first + 2) with
      | [], some lhs, some later =>
          operationAt heard items (lhs :: numbersWithin items (first + 2) later) later
      | _, _, _ => operationAt heard items before first

/-! ### Positions -/

theorem operandAt?_append (front behind : List Item) (distance : Nat) :
    operandAt? (front ++ behind) (front.length + distance) = operandAt? behind distance := by
  have hshift : ∀ distance, (front ++ behind)[front.length + distance]? = behind[distance]? := by
    intro distance
    rw [List.getElem?_append_right (Nat.le_add_right _ _), Nat.add_sub_cancel_left]
  rw [operandAt?, Nat.add_assoc, hshift, hshift]
  rfl

theorem operatorFrom?_append (front behind : List Item) :
    operatorFrom? (front ++ behind) front.length =
      (operatorFrom? behind 0).map (front.length + ·) := by
  rw [operatorFrom?, List.drop_left, operatorFrom?, List.drop_zero, Option.map_map]
  simp [Function.comp_def]

theorem operatorFrom?_of_operatorFree (h : OperatorFree items) : operatorFrom? items 0 = none := by
  have hnone : items.findIdx? Item.isOperator = none := List.findIdx?_eq_none_iff.2 h
  rw [operatorFrom?, List.drop_zero, hnone]
  rfl

theorem operatorFrom?_of_front (hfront : OperatorFree front) (operator : Operator)
    (behind : List Item) :
    operatorFrom? (front ++ .operator operator :: behind) 0 = some front.length := by
  have hnone : front.findIdx? Item.isOperator = none := List.findIdx?_eq_none_iff.2 hfront
  rw [operatorFrom?, List.drop_zero, List.findIdx?_append, hnone, List.findIdx?_cons]
  simp [Item.isOperator]

theorem numbersWithin_append (front middle behind : List Item) :
    numbersWithin (front ++ middle ++ behind) front.length (front.length + middle.length) =
      middle.filterMap Item.number? := by
  have htake : (front ++ middle ++ behind).take (front.length + middle.length) =
      front ++ middle := by
    rw [← List.length_append, List.take_left]
  rw [numbersWithin, htake, List.drop_left]

theorem operationAt_append (heard : String) (before : List Decimal) (front : List Item)
    (operator : Operator) (behind : List Item) :
    operationAt heard (front ++ .operator operator :: behind) before front.length =
      operation heard before operator (operandAt? behind 0) := by
  have hposition : (front ++ .operator operator :: behind)[front.length]? =
      some (.operator operator) := by
    rw [List.getElem?_append_right (Nat.le_refl _), Nat.sub_self]
    rfl
  have hoperand := operandAt?_append front (.operator operator :: behind) 1
  rw [operationAt, hposition]
  dsimp only
  rw [hoperand]
  rfl

/-! ### The operand behind an operator -/

theorem signed?_eq (operator : Operator) (value : Decimal) :
    signed? operator value =
      (signOf? operator).bind fun negative => (applySign negative value).toOption := by
  cases operator <;> rfl

/-- An item that is no sign of a number behind it is an operand if it is a number
itself. -/
theorem operandAt?_of_no_sign {item : Item} {rest : List Item}
    (h : ∀ other value after, item = .operator other → rest = .number value :: after →
      signOf? other = none) :
    operandAt? (item :: rest) 0 = item.number? := by
  cases item with
  | number | keyword => rfl
  | operator other =>
      rcases rest with _ | ⟨next, after⟩
      · rfl
      · cases next with
        | operator | keyword => rfl
        | number value =>
            change signed? other value = none
            rw [signed?_eq, h other value after rfl rfl]
            rfl

/-- What comes behind an operator begins with its operand, if it has one, and
not with a number otherwise. -/
theorem exists_resolveAfter_operator (h : Negatable behind) (read : List Item)
    (operator : Operator) :
    ∃ tail, resolveAfter (.operator operator :: read) behind =
        .ok (read.reverse ++ .operator operator :: tail) ∧
      tail.head?.bind Item.number? = operandAt? behind 0 := by
  -- it is enough to know the first item that is read behind the operator
  have hfirst : ∀ (item : Item) {rest : List Item}, Negatable rest →
      resolveAfter (.operator operator :: read) behind =
        resolveAfter (item :: .operator operator :: read) rest →
      item.number? = operandAt? behind 0 →
      ∃ tail, resolveAfter (.operator operator :: read) behind =
          .ok (read.reverse ++ .operator operator :: tail) ∧
        tail.head?.bind Item.number? = operandAt? behind 0 := by
    intro item rest hrest hread hitem
    obtain ⟨tail, htail⟩ := exists_resolveAfter hrest (item :: .operator operator :: read)
    exact ⟨item :: tail, by simp [hread, htail], hitem⟩
  by_cases hsign : ∃ other value after negative,
      behind = .operator other :: .number value :: after ∧ signOf? other = some negative
  · obtain ⟨other, value, after, negative, rfl, hnegative⟩ := hsign
    have hvalue := h value (List.mem_cons_of_mem _ List.mem_cons_self)
    obtain ⟨result, happlied⟩ := exists_applySign negative hvalue
    refine hfirst (.number result) h.of_cons.of_cons (resolveAfter_sign hnegative rfl happlied) ?_
    change some result = signed? other value
    rw [signed?_eq, hnegative, Option.bind_some, happlied]
    rfl
  · cases behind with
    | nil => exact ⟨[], by simp [resolveAfter], rfl⟩
    | cons item rest =>
        have hnone : ∀ other value after, item = .operator other →
            rest = .number value :: after → signOf? other = none := by
          rintro other value after rfl rfl
          by_contra hne
          obtain ⟨negative, hnegative⟩ := Option.ne_none_iff_exists'.1 hne
          exact hsign ⟨other, value, after, negative, rfl, hnegative⟩
        have hread : resolveAfter (.operator operator :: read) (item :: rest) =
            resolveAfter (item :: .operator operator :: read) rest :=
          resolveAfter_pass fun other value after hitem hrest hne =>
            absurd (hnone other value after hitem hrest) hne
        exact hfirst item h.of_cons hread (operandAt?_of_no_sign hnone).symm

/-! ### The command -/

theorem commandOf_of_front (heard : String) (hfront : OperatorFree front) (operator : Operator)
    (tail : List Item) :
    commandOf heard (front ++ .operator operator :: tail) =
      operation heard (front.filterMap Item.number?) operator
        (tail.head?.bind Item.number?) := by
  have hpassed : ∀ item ∈ front, (!item.isOperator) = true := fun item hitem => by
    rw [hfront item hitem]
    rfl
  have htake : (front ++ .operator operator :: tail).takeWhile (!·.isOperator) = front := by
    rw [List.takeWhile_append_of_pos hpassed]
    simp [Item.isOperator]
  have hdrop : (front ++ .operator operator :: tail).dropWhile (!·.isOperator) =
      .operator operator :: tail := by
    rw [List.dropWhile_append_of_pos hpassed]
    simp [Item.isOperator]
  unfold commandOf
  rw [htake, hdrop]
  rcases tail with _ | ⟨_ | _ | _, rest⟩
  · rfl
  · rfl
  · rfl
  · rfl

theorem filterMap_number?_eq_nil_iff (items : List Item) :
    items.filterMap Item.number? = [] ↔ items.any Item.isNumber = false := by
  rw [List.filterMap_eq_nil_iff, List.any_eq_false]
  simp [Item.isNumber]

theorem commandOf_of_operatorFree (heard : String) (h : OperatorFree items) :
    commandOf heard items = commandAt heard items := by
  have hdrop : items.dropWhile (!·.isOperator) = [] :=
    List.dropWhile_eq_nil_iff.2 fun item hitem => by simp [h item hitem]
  have hkeyword : items.findSome? Item.keyword? = (items.filterMap Item.keyword?).head? :=
    List.head?_filterMap.symm
  unfold commandOf commandAt
  rw [hdrop, operatorFrom?_of_operatorFree h]
  dsimp only
  rw [keywordCommand, hkeyword]
  cases hnumbers : items.filterMap Item.number? with
  | nil =>
      rw [(filterMap_number?_eq_nil_iff items).1 hnumbers]
      cases items.filterMap Item.keyword? <;> rfl
  | cons value others =>
      have hany : items.any Item.isNumber = true := by
        rw [← Bool.not_eq_false, ← filterMap_number?_eq_nil_iff, hnumbers]
        exact List.cons_ne_nil _ _
      rw [hany]
      cases items.filterMap Item.keyword? <;> rfl

theorem isSign_reverse_of_front (hfront : OperatorFree front)
    (hnone : front.filterMap Item.number? = []) (behind : List Item) :
    isSign front.reverse behind = behind.any Item.isOperator := by
  rw [isSign_of_operatorFree hfront.reverse, List.any_reverse,
    (filterMap_number?_eq_nil_iff front).1 hnone]
  rfl

theorem operatorFrom?_behind_pair (front : List Item) (first second : Item) (rest : List Item) :
    operatorFrom? (front ++ first :: second :: rest) (front.length + 2) =
      (operatorFrom? rest 0).map (front.length + 2 + ·) := by
  have hsplit : front ++ first :: second :: rest = (front ++ [first, second]) ++ rest := by simp
  have hlength : front.length + 2 = (front ++ [first, second]).length := by simp
  rw [hsplit, hlength, operatorFrom?_append]

/-- The first operator decides if it is no sign. -/
theorem commandAt_of_front (heard : String) (hfront : OperatorFree front)
    (h : ∀ value rest, behind = .number value :: rest → signOf? operator ≠ none →
      isSign front.reverse rest = false) :
    commandAt heard (front ++ .operator operator :: behind) =
      operation heard (front.filterMap Item.number?) operator (operandAt? behind 0) := by
  have hnumbers := numbersWithin_append [] front (.operator operator :: behind)
  rw [List.nil_append, List.length_nil, Nat.zero_add] at hnumbers
  have hfirst := operandAt?_append front (.operator operator :: behind) 0
  unfold commandAt
  rw [operatorFrom?_of_front hfront]
  dsimp only
  rw [hnumbers]
  split
  · -- a sign and its number, with an operator behind them, would be a leading sign
    rename_i lhs later hnone hoperand hlater
    rw [Nat.add_zero, hoperand] at hfirst
    rcases behind with _ | ⟨_ | _ | _, rest⟩
    · cases hfirst
    · rename_i value
      have hne : signOf? operator ≠ none := fun hsign => by
        have hnone : signed? operator value = none := by rw [signed?_eq, hsign, Option.bind_none]
        cases hfirst.trans hnone
      have hfree := h value rest rfl hne
      rw [isSign_reverse_of_front hfront hnone, List.any_eq_false] at hfree
      have hrest : OperatorFree rest := fun item hitem => Bool.eq_false_iff.2 (hfree item hitem)
      rw [operatorFrom?_behind_pair, operatorFrom?_of_operatorFree hrest] at hlater
      cases hlater
    · cases hfirst
    · cases hfirst
  · rw [operationAt_append]

/-- A leading sign belongs to its number, and the next operator decides. -/
theorem commandAt_of_leading (heard : String) {middle : List Item} {value lhs : Decimal}
    (hfront : OperatorFree front) (hmiddle : OperatorFree middle)
    (hnone : front.filterMap Item.number? = []) (hsigned : signed? operator value = some lhs)
    (later : Operator) (behind : List Item) :
    commandAt heard (front ++ .operator operator :: .number value ::
        (middle ++ .operator later :: behind)) =
      operation heard (lhs :: middle.filterMap Item.number?) later (operandAt? behind 0) := by
  have hnumbers := numbersWithin_append [] front
    (.operator operator :: .number value :: (middle ++ .operator later :: behind))
  rw [List.nil_append, List.length_nil, Nat.zero_add, hnone] at hnumbers
  have hfirst := operandAt?_append front
    (.operator operator :: .number value :: (middle ++ .operator later :: behind)) 0
  have hlater := operatorFrom?_behind_pair front (.operator operator) (.number value)
    (middle ++ .operator later :: behind)
  rw [operatorFrom?_of_front hmiddle, Option.map_some] at hlater
  have hoperand : operandAt? (.operator operator :: .number value ::
      (middle ++ .operator later :: behind)) 0 = some lhs := hsigned
  rw [Nat.add_zero, hoperand] at hfirst
  have hsplit : front ++ .operator operator :: .number value ::
      (middle ++ .operator later :: behind) =
        (front ++ [.operator operator, .number value]) ++ middle ++ .operator later :: behind := by
    simp
  have hlength : front.length + 2 = (front ++ [Item.operator operator, .number value]).length := by
    simp
  have hbetween := numbersWithin_append (front ++ [.operator operator, .number value]) middle
    (.operator later :: behind)
  have hdecides := operationAt_append heard (lhs :: middle.filterMap Item.number?)
    (front ++ [.operator operator, .number value] ++ middle) later behind
  rw [← hsplit, ← hlength] at hbetween
  rw [← hsplit, List.length_append, ← hlength] at hdecides
  unfold commandAt
  rw [operatorFrom?_of_front hfront]
  dsimp only
  rw [hnumbers, hfirst, hlater]
  dsimp only
  rw [hbetween, hdecides]

theorem map_commandOf_resolveAfter (heard : String) (hfront : OperatorFree front)
    (hbehind : Negatable behind) (operator : Operator) :
    (resolveAfter (.operator operator :: front.reverse) behind).map (commandOf heard) =
      .ok (operation heard (front.filterMap Item.number?) operator (operandAt? behind 0)) := by
  obtain ⟨tail, hresolved, htail⟩ := exists_resolveAfter_operator hbehind front.reverse operator
  rw [hresolved, List.reverse_reverse, Except.map, commandOf_of_front heard hfront, htail]

/-- Joining the signs of a list of items and reading the result gives the
command that its positions describe. -/
theorem commandOf_resolveSigns (heard : String) (items : List Item)
    (hnumbers : ∀ value, Item.number value ∈ items →
      ∃ negated, Context.standard.negate value = .ok negated) :
    (resolveSigns items).map (commandOf heard) = .ok (commandAt heard items) := by
  have hnegatable : Negatable items := hnumbers
  rcases exists_operator items with hfree | ⟨front, operator, behind, rfl, hfront⟩
  · rw [resolveSigns, resolveAfter_eq_of_operatorFree hfree, List.reverse_nil, List.nil_append,
      Except.map, commandOf_of_operatorFree heard hfree]
  · have hread := resolveAfter_of_operatorFree hfront [] (.operator operator :: behind)
    have hbehind : Negatable behind := hnegatable.of_append.of_cons
    rw [List.append_nil] at hread
    rw [resolveSigns, hread]
    by_cases hplain : ∀ value rest, behind = .number value :: rest → signOf? operator ≠ none →
        isSign front.reverse rest = false
    · rw [resolveAfter_operator hplain, map_commandOf_resolveAfter heard hfront hbehind,
        commandAt_of_front heard hfront hplain]
    · simp only [not_forall, Bool.not_eq_false] at hplain
      obtain ⟨value, rest, rfl, hne, hsign⟩ := hplain
      obtain ⟨negative, hnegative⟩ := Option.ne_none_iff_exists'.1 hne
      obtain ⟨lhs, happlied⟩ := exists_applySign negative (hbehind value List.mem_cons_self)
      have hsigned : signed? operator value = some lhs := by
        rw [signed?_eq, hnegative, Option.bind_some, happlied]
        rfl
      have hleading := hsign
      rw [isSign_of_operatorFree hfront.reverse, List.any_reverse, Bool.and_eq_true,
        Bool.not_eq_true', ← filterMap_number?_eq_nil_iff] at hleading
      obtain ⟨hnone, hlater⟩ := hleading
      rcases exists_operator rest with hfree | ⟨middle, later, last, rfl, hmiddle⟩
      · rw [hfree.any_eq_false] at hlater
        cases hlater
      · have hlast : Negatable last := hbehind.of_cons.of_append.of_cons
        have hjoined : OperatorFree (front ++ .number lhs :: middle) :=
          hfront.append (operatorFree_cons.2 ⟨rfl, hmiddle⟩)
        rw [resolveAfter_leading hfront hmiddle hnegative happlied later hsign,
          map_commandOf_resolveAfter heard hjoined hlast,
          commandAt_of_leading heard hfront hmiddle hnone hsigned, List.filterMap_append, hnone]
        rfl

/-- The leading minus is the sign of four, and the one behind the division is
the sign of three; the keyword between is passed over. -/
theorem commandOf_resolveSigns_two_signs :
    let items : List Item := [.operator .subtract, .number (.ofNat 4), .keyword .clear,
      .operator .divide, .operator .subtract, .number (.ofNat 3), .operator .add]
    (∀ value, Item.number value ∈ items →
        ∃ negated, Context.standard.negate value = .ok negated) ∧
      (resolveSigns items).map (commandOf "minus four clear over minus three plus") =
        .ok (.compute (.finite true 4 0) .divide (.finite true 3 0)) := by
  intro items
  have hnumbers : ∀ value, Item.number value ∈ items →
      ∃ negated, Context.standard.negate value = .ok negated := by
    simp only [items, List.mem_cons, List.not_mem_nil, Item.number.injEq, reduceCtorEq, false_or,
      or_false]
    rintro value (rfl | rfl)
    · exact ⟨.finite true 4 0, by decide +kernel⟩
    · exact ⟨.finite true 3 0, by decide +kernel⟩
  have hcommand : commandAt "minus four clear over minus three plus" items =
      .compute (.finite true 4 0) .divide (.finite true 3 0) := by decide +kernel
  refine ⟨hnumbers, ?_⟩
  rw [commandOf_resolveSigns _ items hnumbers, hcommand]

end SpokenCalculator.Phrase
