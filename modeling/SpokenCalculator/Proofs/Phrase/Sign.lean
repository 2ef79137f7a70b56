import SpokenCalculator.Phrase.Sign

namespace SpokenCalculator.Phrase

def Negatable (items : List Item) : Prop :=
  ∀ value, Item.number value ∈ items → ∃ negated, Context.standard.negate value = .ok negated

def OperatorFree (items : List Item) : Prop := ∀ item ∈ items, item.isOperator = false

variable {items front behind read : List Item} {operator : Operator}

theorem Negatable.of_append (h : Negatable (front ++ behind)) : Negatable behind :=
  fun value hvalue => h value (List.mem_append_right front hvalue)

theorem Negatable.of_cons {item : Item} (h : Negatable (item :: items)) : Negatable items :=
  fun value hvalue => h value (List.mem_cons_of_mem item hvalue)

theorem operatorFree_cons {item : Item} :
    OperatorFree (item :: items) ↔ item.isOperator = false ∧ OperatorFree items :=
  List.forall_mem_cons

theorem OperatorFree.append (hfront : OperatorFree front) (hbehind : OperatorFree behind) :
    OperatorFree (front ++ behind) :=
  List.forall_mem_append.2 ⟨hfront, hbehind⟩

theorem OperatorFree.reverse (h : OperatorFree items) : OperatorFree items.reverse :=
  fun item hitem => h item (List.mem_reverse.1 hitem)

theorem OperatorFree.any_eq_false (h : OperatorFree items) : items.any Item.isOperator = false :=
  List.any_eq_false.2 fun item hitem => by simp [h item hitem]

theorem exists_operator (items : List Item) :
    OperatorFree items ∨ ∃ front operator behind, items = front ++ .operator operator :: behind ∧
      OperatorFree front := by
  induction items with
  | nil => exact Or.inl (List.forall_mem_nil _)
  | cons item rest ih =>
      by_cases hitem : item.isOperator
      · cases item with
        | operator operator => exact Or.inr ⟨[], operator, rest, rfl, List.forall_mem_nil _⟩
        | number value => cases hitem
        | keyword keyword => cases hitem
      · have hitem := Bool.eq_false_iff.2 hitem
        rcases ih with hfree | ⟨front, operator, behind, rfl, hfront⟩
        · exact Or.inl (operatorFree_cons.2 ⟨hitem, hfree⟩)
        · exact Or.inr ⟨item :: front, operator, behind, rfl, operatorFree_cons.2 ⟨hitem, hfront⟩⟩

theorem exists_applySign (negative : Bool) {value : Decimal}
    (hvalue : ∃ negated, Context.standard.negate value = .ok negated) :
    ∃ result, applySign negative value = .ok result := by
  cases negative with
  | false => exact ⟨value, rfl⟩
  | true => exact hvalue

theorem exists_resolveAfter (h : Negatable items) (read : List Item) :
    ∃ tail, resolveAfter read items = .ok (read.reverse ++ tail) := by
  have hread : ∀ {read : List Item} {item : Item} {result : Except Signal (List Item)},
      (∃ tail, result = .ok ((item :: read).reverse ++ tail)) →
        ∃ tail, result = .ok (read.reverse ++ tail) := by
    rintro read item _ ⟨tail, rfl⟩
    exact ⟨item :: tail, by rw [List.reverse_cons, List.append_assoc, List.singleton_append]⟩
  fun_induction resolveAfter read items with
  | case1 read operator value rest negative _ _ result _ ih => exact hread (ih h.of_cons.of_cons)
  | case2 read operator value rest negative hnegative _ signal happlied =>
      have hvalue := h value (List.mem_cons_of_mem _ List.mem_cons_self)
      obtain ⟨result, hok⟩ := exists_applySign negative hvalue
      cases happlied.symm.trans hok
  | case3 read operator value rest negative _ _ ih => exact hread (ih h.of_cons)
  | case4 read operator value rest _ ih => exact hread (ih h.of_cons)
  | case5 read item rest _ ih => exact hread (ih h.of_cons)
  | case6 read => exact ⟨[], by rw [List.append_nil]⟩

/-- An item that is no sign of a number behind it is read as it is. -/
theorem resolveAfter_pass {item : Item}
    (h : ∀ operator value rest, item = .operator operator → behind = .number value :: rest →
      signOf? operator ≠ none → isSign read rest = false) :
    resolveAfter read (item :: behind) = resolveAfter (item :: read) behind := by
  by_cases hjoins : ∃ operator value rest, item = .operator operator ∧
      behind = .number value :: rest
  · obtain ⟨operator, value, rest, rfl, rfl⟩ := hjoins
    rw [resolveAfter]
    split
    · rename_i negative hnegative
      rw [if_neg (by simp [h operator value rest rfl rfl (by simp [hnegative])])]
    · rfl
  · rw [resolveAfter]
    intro operator value rest hitem hbehind
    exact hjoins ⟨operator, value, rest, hitem, hbehind⟩

theorem resolveAfter_of_operatorFree (hfront : OperatorFree front) (read behind : List Item) :
    resolveAfter read (front ++ behind) = resolveAfter (front.reverse ++ read) behind := by
  induction front generalizing read with
  | nil => rfl
  | cons item rest ih =>
      obtain ⟨hitem, hrest⟩ := operatorFree_cons.1 hfront
      have hnext : resolveAfter read (item :: (rest ++ behind)) =
          resolveAfter (item :: read) (rest ++ behind) := by
        refine resolveAfter_pass ?_
        rintro operator value behind rfl
        cases hitem
      rw [List.cons_append, hnext, ih hrest, List.reverse_cons, List.append_assoc,
        List.singleton_append]

theorem resolveAfter_eq_of_operatorFree (h : OperatorFree items) (read : List Item) :
    resolveAfter read items = .ok (read.reverse ++ items) := by
  have hread := resolveAfter_of_operatorFree h read []
  rw [List.append_nil, resolveAfter, List.reverse_append, List.reverse_reverse] at hread
  exact hread

theorem isSign_of_operatorFree (h : OperatorFree read) (behind : List Item) :
    isSign read behind = (!read.any Item.isNumber && behind.any Item.isOperator) := by
  have hhead : read.head?.any Item.isOperator = false := by
    cases read with
    | nil => rfl
    | cons item rest => exact (operatorFree_cons.1 h).1
  rw [isSign, hhead, Bool.false_or]

theorem resolveAfter_operator
    (h : ∀ value rest, behind = .number value :: rest → signOf? operator ≠ none →
      isSign read rest = false) :
    resolveAfter read (.operator operator :: behind) =
      resolveAfter (.operator operator :: read) behind := by
  refine resolveAfter_pass fun other value rest hitem hbehind hne => ?_
  cases hitem
  exact h value rest hbehind hne

theorem resolveAfter_sign {value result : Decimal} {negative : Bool}
    (hnegative : signOf? operator = some negative) (hsign : isSign read behind)
    (happlied : applySign negative value = .ok result) :
    resolveAfter read (.operator operator :: .number value :: behind) =
      resolveAfter (.number result :: read) behind := by
  rw [resolveAfter, hnegative]
  simp only [hsign, if_true, happlied]

theorem exists_applySign_of_resolveAfter {value : Decimal} {negative : Bool}
    {resolved : List Item} (hnegative : signOf? operator = some negative)
    (hsign : isSign read behind)
    (hok : resolveAfter read (.operator operator :: .number value :: behind) = .ok resolved) :
    ∃ result, applySign negative value = .ok result := by
  cases happlied : applySign negative value with
  | ok result => exact ⟨result, rfl⟩
  | error signal =>
      rw [resolveAfter, hnegative] at hok
      simp only [hsign, if_true, happlied] at hok
      cases hok

/-- The sign in front of the first number is joined with it, and nothing else
in front of the next operator. -/
theorem resolveAfter_leading {middle : List Item} {value lhs : Decimal} {negative : Bool}
    (hfront : OperatorFree front) (hmiddle : OperatorFree middle)
    (hsign : signOf? operator = some negative) (happlied : applySign negative value = .ok lhs)
    (later : Operator)
    (hleading : isSign front.reverse (middle ++ .operator later :: behind)) :
    resolveAfter front.reverse (.operator operator :: .number value ::
        (middle ++ .operator later :: behind)) =
      resolveAfter (.operator later :: (front ++ .number lhs :: middle).reverse) behind := by
  have hread : (front ++ .number lhs :: middle).reverse =
      middle.reverse ++ .number lhs :: front.reverse := by simp
  have hfree : OperatorFree (front ++ .number lhs :: middle) :=
    hfront.append (operatorFree_cons.2 ⟨rfl, hmiddle⟩)
  have hnumber : (front ++ .number lhs :: middle).any Item.isNumber = true := by
    simp [Item.isNumber, Item.number?]
  rw [resolveAfter_sign hsign hleading happlied, resolveAfter_of_operatorFree hmiddle, ← hread]
  refine resolveAfter_operator fun _ _ _ _ => ?_
  rw [isSign_of_operatorFree hfree.reverse, List.any_reverse, hnumber]
  rfl

end SpokenCalculator.Phrase
