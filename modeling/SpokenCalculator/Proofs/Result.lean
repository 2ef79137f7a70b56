namespace SpokenCalculator

variable {ε α β : Type}

theorem bind_eq_ok {x : Except ε α} {f : α → Except ε β} {b : β} :
    x >>= f = .ok b ↔ ∃ a, x = .ok a ∧ f a = .ok b := by
  cases x with
  | error e =>
      constructor
      · intro h
        cases h
      · rintro ⟨_, h, _⟩
        cases h
  | ok a =>
      constructor
      · exact fun h => ⟨a, rfl, h⟩
      · rintro ⟨_, ⟨⟩, h⟩
        exact h

theorem map_eq_ok {x : Except ε α} {f : α → β} {b : β} :
    x.map f = .ok b ↔ ∃ a, x = .ok a ∧ f a = b := by
  constructor
  · intro h
    cases x with
    | ok a =>
        cases h
        exact ⟨a, rfl, rfl⟩
    | error e => cases h
  · rintro ⟨a, rfl, rfl⟩
    rfl

theorem mapError_eq_ok {ε' : Type} {x : Except ε α} {rename : ε → ε'} {a : α} :
    x.mapError rename = .ok a ↔ x = .ok a := by
  cases x with
  | error e => exact iff_of_false nofun nofun
  | ok value =>
      have hsame : (Except.ok value : Except ε α).mapError rename = .ok value := rfl
      rw [hsame]
      constructor <;> rintro ⟨⟩ <;> rfl

theorem bind_ok_eq_error_iff {x : Except ε α} {f : α → β} {e : ε} :
    (x >>= fun a => .ok (f a)) = .error e ↔ x = .error e := by
  cases x with
  | error other =>
      constructor
      · intro h
        cases h
        rfl
      · intro h
        cases h
        rfl
  | ok a =>
      constructor
      · intro h
        cases h
      · intro h
        cases h

/-- A computation over a list fails at one of the items, after it has passed
those before it. -/
theorem foldlM_eq_error_iff {step : β → α → Except ε β} {items : List α} {start : β} {e : ε} :
    items.foldlM step start = .error e ↔
      ∃ before item after state, items = before ++ item :: after ∧
        before.foldlM step start = .ok state ∧ step state item = .error e := by
  induction items generalizing start with
  | nil =>
      constructor
      · intro h
        cases h
      · rintro ⟨before, item, after, state, hitems, _⟩
        exact absurd hitems.symm (List.append_ne_nil_of_right_ne_nil before (List.cons_ne_nil _ _))
  | cons first rest ih =>
      rw [List.foldlM_cons]
      constructor
      · intro h
        cases hfirst : step start first with
        | error other =>
            rw [hfirst] at h
            cases h
            exact ⟨[], first, rest, start, rfl, rfl, hfirst⟩
        | ok next =>
            rw [hfirst] at h
            obtain ⟨before, item, after, state, rfl, hbefore, hitem⟩ := ih.mp h
            refine ⟨first :: before, item, after, state, rfl, ?_, hitem⟩
            rw [List.foldlM_cons, hfirst]
            exact hbefore
      · rintro ⟨before, item, after, state, hitems, hbefore, hitem⟩
        cases before with
        | nil =>
            cases hitems
            cases hbefore
            rw [hitem]
            rfl
        | cons other before =>
            cases hitems
            rw [List.foldlM_cons] at hbefore
            obtain ⟨next, hnext, hbefore⟩ := bind_eq_ok.mp hbefore
            rw [hnext]
            exact ih.mpr ⟨before, item, after, state, rfl, hbefore, hitem⟩

theorem exists_step_of_foldlM_eq_ok {step : β → α → Except ε β} {items : List α}
    {start last : β} (hok : items.foldlM step start = .ok last) {item : α} (hitem : item ∈ items) :
    ∃ state next, step state item = .ok next := by
  obtain ⟨before, after, rfl⟩ := List.append_of_mem hitem
  rw [List.foldlM_append] at hok
  obtain ⟨state, _, hbehind⟩ := bind_eq_ok.mp hok
  rw [List.foldlM_cons] at hbehind
  obtain ⟨next, hnext, _⟩ := bind_eq_ok.mp hbehind
  exact ⟨state, next, hnext⟩

theorem foldlM_le (le : β → β → Prop) (refl : ∀ a, le a a)
    (trans : ∀ {a b c}, le a b → le b c → le a c) {step : β → α → Except ε β}
    (hstep : ∀ {state item next}, step state item = .ok next → le state next) {items : List α}
    {start last : β} (hok : items.foldlM step start = .ok last) : le start last := by
  induction items generalizing start with
  | nil =>
      cases hok
      exact refl _
  | cons item rest ih =>
      rw [List.foldlM_cons] at hok
      obtain ⟨next, hnext, hrest⟩ := bind_eq_ok.mp hok
      exact trans (hstep hnext) (ih hrest)

/-- What each step carries along unchanged, a computation over a list carries
along. -/
theorem foldlM_frame {step : β → α → Except ε β} {frame : β → β}
    (hstep : ∀ state item, step (frame state) item = (step state item).map frame)
    (items : List α) (start : β) :
    items.foldlM step (frame start) = (items.foldlM step start).map frame := by
  induction items generalizing start with
  | nil => rfl
  | cons item rest ih =>
      rw [List.foldlM_cons, List.foldlM_cons, hstep]
      cases step start item with
      | error e => rfl
      | ok next => exact ih next

end SpokenCalculator
