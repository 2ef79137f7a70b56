import SpokenCalculator.Proofs.Phrase.Numeral
import SpokenCalculator.Proofs.Phrase.Reading
import SpokenCalculator.Proofs.Phrase.Resolved

namespace SpokenCalculator

namespace Phrase

open Spoken

section

variable {found : List Piece} {tokens : List Token} {run : List String}

theorem run_nil_not_mem_closeRun (h : Piece.run [] ∉ found) (run : List String) :
    Piece.run [] ∉ closeRun found run := by
  unfold closeRun
  split
  · exact h
  · rename_i hne
    refine List.not_mem_cons_of_ne_of_not_mem (fun heq => hne ?_) h
    rw [List.isEmpty_iff, ← List.reverse_eq_nil_iff, Piece.run.inj heq]

theorem run_nil_not_mem_goOn (meaning : Meaning) (run : List String) (numberNext : Bool) :
    Piece.run [] ∉ (meaning.goOn run numberNext).1 := by
  have hclosed := run_nil_not_mem_closeRun List.not_mem_nil run
  cases meaning with
  | number | negative | operator | keyword => exact List.not_mem_cons_of_ne_of_not_mem nofun hclosed
  | filler => exact hclosed
  | spoken => exact List.not_mem_nil
  | conjunction =>
      dsimp only [Meaning.goOn]
      split
      · exact List.not_mem_nil
      · exact hclosed

theorem run_nil_not_mem_piecesAfter (h : Piece.run [] ∉ found) :
    Piece.run [] ∉ piecesAfter found run tokens := by
  induction tokens generalizing found run with
  | nil => exact fun hmem => run_nil_not_mem_closeRun h run (List.mem_reverse.mp hmem)
  | cons token rest ih =>
      rw [piecesAfter_cons]
      refine ih fun hmem => ?_
      rcases List.mem_append.mp hmem with hnew | hfound
      · exact run_nil_not_mem_goOn _ _ _ hnew
      · exact h hfound

end

def Piece.IsProper : Piece → Prop
  | .number value => value.isFinite
  | .run words => words ≠ [] ∧ ∀ word ∈ words, IsRunWord word
  | _ => True

theorem isProper_of_mem_piecesOf {heard : String} {piece : Piece}
    (h : piece ∈ piecesOf (tokenize heard)) : piece.IsProper := by
  have hportioned : Portioned Piece.WrittenIn (piecesOf (tokenize heard)) _ :=
    piecesAfter_portioned (fun _ => isProper_of_mem_tokenize) .nil (List.forall_mem_nil _)
  obtain ⟨size, _, hwritten⟩ := hportioned.of_mem h
  cases piece with
  | number value => exact Decimal.WrittenIn.isFinite hwritten
  | run words =>
      refine ⟨?_, hwritten.1⟩
      rintro rfl
      exact run_nil_not_mem_piecesAfter List.not_mem_nil h
  | negative | operator | keyword => trivial

def FiniteNumbers (items : List Item) : Prop := ∀ value, Item.number value ∈ items → value.isFinite

theorem FiniteNumbers.cons {items : List Item} {item : Item} (h : FiniteNumbers items)
    (hitem : ∀ value, item = .number value → value.isFinite) : FiniteNumbers (item :: items) := by
  intro value hmem
  rcases List.mem_cons.mp hmem with heq | hmem
  · exact hitem value heq.symm
  · exact h value hmem

namespace ItemState

variable {state next : ItemState}

/-- A number is added, with its sign changed where "negative" stands before it,
unless that overflows. -/
theorem number_cases (hfound : FiniteNumbers state.found) {value : Decimal}
    (hfinite : value.isFinite) :
    (state.number value = .error (.signal .overflow) ∧ state.negative ∧ value.Overflows) ∨
      ∃ next, state.number value = .ok next ∧ FiniteNumbers next.found ∧ next.negative = false := by
  unfold number
  split
  · rename_i hnegative
    have hrounds : Context.standard.RoundsTo (-value.value) (Context.standard.negate value) :=
      Context.negate_roundsTo (by decide) hfinite
    rcases hrounds with ⟨negated, hok, hnegated, _⟩ | ⟨herror, _⟩
    · rw [hok]
      refine Or.inr ⟨_, rfl, hfound.cons ?_, rfl⟩
      rintro _ ⟨⟩
      exact hnegated
    · rw [herror]
      exact Or.inl ⟨rfl, hnegative, ((Decimal.negate_eq_error_iff hfinite .overflow).mp herror).2⟩
  · refine Or.inr ⟨_, rfl, hfound.cons ?_, rfl⟩
    rintro _ ⟨⟩
    exact hfinite

theorem spoken_cases (hfound : FiniteNumbers state.found) {words : List String}
    (hwords : ∀ word ∈ words, IsRunWord word) :
    (∃ fault, state.spoken words = .error (.spoken fault)) ∨
      ∃ next, state.spoken words = .ok next ∧ FiniteNumbers next.found ∧ next.negative = false := by
  unfold spoken
  cases hread : read words with
  | error fault => exact Or.inl ⟨fault, rfl⟩
  | ok value =>
      rcases number_cases hfound (read_writtenIn hwords hread).isFinite with
        ⟨_, _, hoverflows⟩ | ⟨next, hok, hnext, hpositive⟩
      · exact absurd hoverflows (not_overflows_of_read_eq hwords hread)
      · exact Or.inr ⟨next, hok, hnext, hpositive⟩

theorem spokenRun_cases {groups : List (List String)} (hfound : FiniteNumbers state.found)
    (hwords : ∀ word ∈ groups.flatten, IsRunWord word) :
    (∃ fault, groups.foldlM spoken state = .error (.spoken fault)) ∨
      ∃ next, groups.foldlM spoken state = .ok next ∧ FiniteNumbers next.found ∧
        (groups ≠ [] → next.negative = false) := by
  induction groups generalizing state with
  | nil => exact Or.inr ⟨state, rfl, hfound, fun hne => absurd rfl hne⟩
  | cons words others ih =>
      rw [List.flatten_cons] at hwords
      rw [List.foldlM_cons]
      rcases spoken_cases hfound fun word hword => hwords word (List.mem_append_left _ hword) with
        ⟨fault, herror⟩ | ⟨middle, hok, hmiddle, hpositive⟩
      · rw [herror]
        exact Or.inl ⟨fault, rfl⟩
      · rw [hok]
        rcases ih hmiddle fun word hword => hwords word (List.mem_append_right _ hword) with
          hothers | ⟨next, hothers, hnext, hlast⟩
        · exact Or.inl hothers
        · refine Or.inr ⟨next, hothers, hnext, fun _ => ?_⟩
          cases others with
          | nil =>
              cases hothers
              exact hpositive
          | cons => exact hlast (List.cons_ne_nil _ _)

/-- What a piece does: its words are no number, or it is a number that cannot
change its sign, or reading goes on. -/
inductive PieceOutcome (state : ItemState) (piece : Piece) : Except ItemFault ItemState → Prop
  | unspoken (fault : SpokenFault) : PieceOutcome state piece (.error (.spoken fault))
  | overflow {value : Decimal} (hnegative : state.negative) (hpiece : piece = .number value)
      (hoverflows : value.Overflows) : PieceOutcome state piece (.error (.signal .overflow))
  | reads {next : ItemState} (hfound : FiniteNumbers next.found)
      (hnegative : next.negative ↔ piece = .negative) : PieceOutcome state piece (.ok next)

theorem pieceOutcome_piece (hfound : FiniteNumbers state.found) {piece : Piece}
    (hproper : piece.IsProper) : state.PieceOutcome piece (state.piece piece) := by
  cases piece with
  | number value =>
      change state.PieceOutcome _ (state.number value)
      rcases number_cases hfound hproper with
        ⟨herror, hnegative, hoverflows⟩ | ⟨next, hok, hnext, hpositive⟩
      · exact herror ▸ .overflow hnegative rfl hoverflows
      · exact hok ▸ .reads hnext (by simp [hpositive])
  | run words =>
      obtain ⟨hne, hwords⟩ := hproper
      have hflatten := flatten_numbersOfRun words
      have hgroups : numbersOfRun words ≠ [] := fun hnil => by
        rw [hnil, List.flatten_nil] at hflatten
        exact hne hflatten.symm
      rw [← hflatten] at hwords
      change state.PieceOutcome _ ((numbersOfRun words).foldlM spoken state)
      rcases spokenRun_cases hfound hwords with ⟨fault, herror⟩ | ⟨next, hok, hnext, hpositive⟩
      · exact herror ▸ .unspoken fault
      · exact hok ▸ .reads hnext (by simp [hpositive hgroups])
  | negative => exact .reads hfound (by simp)
  | operator | keyword => exact .reads (hfound.cons nofun) (by simp)

end ItemState

section

variable {pieces : List Piece}

theorem itemsOfPieces_eq_ok_iff {items : List Item} :
    itemsOfPieces pieces = .ok items ↔
      ∃ state, pieces.foldlM ItemState.piece ⟨[], false⟩ = .ok state ∧
        state.found.reverse = items := by
  rw [itemsOfPieces, bind_eq_ok]
  exact exists_congr fun state => and_congr_right fun _ => Iff.of_eq (Except.ok.injEq _ _)

theorem itemsOfPieces_eq_error_iff {fault : ItemFault} :
    itemsOfPieces pieces = .error fault ↔
      pieces.foldlM ItemState.piece ⟨[], false⟩ = .error fault :=
  bind_ok_eq_error_iff

variable (hproper : ∀ piece ∈ pieces, piece.IsProper)

include hproper

/-- The word "negative" waits for a number only if it was the last piece. -/
theorem foldlM_piece_eq_ok {state : ItemState}
    (hok : pieces.foldlM ItemState.piece ⟨[], false⟩ = .ok state) :
    FiniteNumbers state.found ∧ (state.negative ↔ pieces.getLast? = some .negative) := by
  induction pieces using List.reverseRecOn generalizing state with
  | nil =>
      cases hok
      refine ⟨fun _ hnone => ?_, by simp⟩
      cases hnone
  | append_singleton front last ih =>
      simp only [List.foldlM_append, List.foldlM_cons, List.foldlM_nil, bind_pure] at hok
      obtain ⟨middle, hfront, hlast⟩ := bind_eq_ok.mp hok
      have hmiddle := ih (fun piece hpiece => hproper piece (List.mem_append_left _ hpiece)) hfront
      have houtcome := ItemState.pieceOutcome_piece hmiddle.1 (hproper last (by simp))
      rw [hlast] at houtcome
      cases houtcome with
      | reads hfinite hnegative => exact ⟨hfinite, by simp [hnegative]⟩

/-- Reading the pieces signals at a numeral behind "negative". -/
theorem itemsOfPieces_eq_signal_iff (signal : Signal) :
    itemsOfPieces pieces = .error (.signal signal) ↔
      signal = .overflow ∧ ∃ before value after items,
        pieces = before ++ .negative :: .number value :: after ∧
          itemsOfPieces before = .ok items ∧ value.Overflows := by
  rw [itemsOfPieces_eq_error_iff, foldlM_eq_error_iff]
  constructor
  · rintro ⟨front, piece, after, state, rfl, hfront, hpiece⟩
    have hstate := foldlM_piece_eq_ok
      (fun piece hpiece => hproper piece (List.mem_append_left _ hpiece)) hfront
    have houtcome := ItemState.pieceOutcome_piece hstate.1 (hproper piece (by simp))
    rw [hpiece] at houtcome
    cases houtcome with
    | @overflow value hnegative hnumber hoverflows =>
        obtain ⟨before, rfl⟩ := List.getLast?_eq_some_iff.mp (hstate.2.mp hnegative)
        rw [List.foldlM_append] at hfront
        obtain ⟨earlier, hbefore, _⟩ := bind_eq_ok.mp hfront
        exact ⟨rfl, before, value, after, _, by simp [hnumber],
          itemsOfPieces_eq_ok_iff.mpr ⟨_, hbefore, rfl⟩, hoverflows⟩
  · rintro ⟨rfl, before, value, after, items, rfl, hbefore, hoverflows⟩
    obtain ⟨state, hstate, _⟩ := itemsOfPieces_eq_ok_iff.mp hbefore
    refine ⟨before ++ [.negative], .number value, after, { state with negative := true }, by simp,
      ?_, ?_⟩
    · rw [List.foldlM_append, hstate]
      rfl
    · have hnegate := (Decimal.negate_eq_error_iff hoverflows.isFinite .overflow).mpr
        ⟨rfl, hoverflows⟩
      simp only [ItemState.piece, ItemState.number, if_true, hnegate]

end

theorem applySign_eq_error_iff (negative : Bool) {value : Decimal} (hfinite : value.isFinite)
    (signal : Signal) :
    applySign negative value = .error signal ↔
      signal = .overflow ∧ negative ∧ value.Overflows := by
  cases negative with
  | false => simp [applySign]
  | true =>
      rw [applySign, if_pos rfl, Decimal.negate_eq_error_iff hfinite]
      simp

/-- Behind the items that were read stands a minus that is a sign, with a number
that cannot change its sign. -/
def SignOverflows (read items : List Item) : Prop :=
  ∃ before value after, items = before ++ .operator .subtract :: .number value :: after ∧
    isSign (before.reverse ++ read) after ∧ value.Overflows

section

variable {read rest : List Item}

theorem signOverflows_cons (item : Item) :
    SignOverflows read (item :: rest) ↔
      (∃ value after, item = .operator .subtract ∧ rest = .number value :: after ∧
        isSign read after ∧ value.Overflows) ∨ SignOverflows (item :: read) rest := by
  constructor
  · rintro ⟨before, value, after, hitems, hsign, hoverflows⟩
    cases before with
    | nil =>
        cases hitems
        exact Or.inl ⟨value, after, rfl, rfl, hsign, hoverflows⟩
    | cons first before =>
        cases hitems
        rw [List.reverse_cons, List.append_assoc] at hsign
        exact Or.inr ⟨before, value, after, rfl, hsign, hoverflows⟩
  · rintro (⟨value, after, rfl, rfl, hsign, hoverflows⟩ |
      ⟨before, value, after, rfl, hsign, hoverflows⟩)
    · exact ⟨[], value, after, rfl, hsign, hoverflows⟩
    · refine ⟨item :: before, value, after, rfl, ?_, hoverflows⟩
      rwa [List.reverse_cons, List.append_assoc]

/-- A number keeps its place when it takes the sign in front of it. -/
theorem signOverflows_number (value signed : Decimal) (operator : Operator) :
    SignOverflows (.number value :: .operator operator :: read) rest ↔
      SignOverflows (.number signed :: read) rest := by
  have hsame : ∀ before after : List Item,
      isSign (before ++ .number value :: .operator operator :: read) after =
        isSign (before ++ .number signed :: read) after := by
    intro before after
    cases before with
    | nil => simp [isSign, Item.isOperator, Item.isNumber, Item.number?]
    | cons first before => simp [isSign, Item.isNumber, Item.number?]
  simp only [SignOverflows, hsame]

/-- An item that is no sign of a number too large is passed over. -/
theorem signOverflows_pass {item : Item}
    (h : ∀ value after, item = .operator .subtract → rest = .number value :: after →
      isSign read after → ¬ value.Overflows) :
    SignOverflows read (item :: rest) ↔ SignOverflows (item :: read) rest := by
  rw [signOverflows_cons]
  refine or_iff_right ?_
  rintro ⟨value, after, hitem, hrest, hsign, hoverflows⟩
  exact h value after hitem hrest hsign hoverflows

theorem resolveAfter_eq_error_iff {items : List Item} (hfinite : FiniteNumbers items)
    (signal : Signal) :
    resolveAfter read items = .error signal ↔
      signal = .overflow ∧ SignOverflows read items := by
  fun_induction resolveAfter read items with
  | case1 read operator value rest negative hnegative hsign result happlied ih =>
      -- the sign was applied, so its number is not too large
      have hpass : SignOverflows read (.operator operator :: .number value :: rest) ↔
          SignOverflows (.operator operator :: read) (.number value :: rest) := by
        refine signOverflows_pass ?_
        rintro _ _ ⟨⟩ ⟨⟩ _ hoverflows
        cases hnegative
        have herror := (applySign_eq_error_iff true hoverflows.isFinite .overflow).mpr
          ⟨rfl, rfl, hoverflows⟩
        cases happlied.symm.trans herror
      have hnumber : SignOverflows (.operator operator :: read) (.number value :: rest) ↔
          SignOverflows (.number value :: .operator operator :: read) rest :=
        signOverflows_pass (by rintro _ _ ⟨⟩)
      rw [ih fun other hother => hfinite other (by simp [hother]), hpass, hnumber,
        signOverflows_number value result operator]
  | case2 read operator value rest negative hnegative hsign other happlied =>
      have hvalue := hfinite value (by simp)
      obtain ⟨rfl, rfl, hoverflows⟩ := (applySign_eq_error_iff negative hvalue other).mp happlied
      constructor
      · intro h
        cases h
        refine ⟨rfl, (signOverflows_cons _).mpr (Or.inl ⟨value, rest, ?_, rfl, hsign, hoverflows⟩)⟩
        cases operator <;> cases hnegative
        rfl
      · rintro ⟨rfl, _⟩
        rfl
  | case3 read operator value rest negative hnegative hsign ih =>
      rw [ih fun other hother => hfinite other (List.mem_cons_of_mem _ hother)]
      refine and_congr_right fun _ => (signOverflows_pass ?_).symm
      rintro _ _ _ ⟨⟩ hsigned
      exact absurd hsigned hsign
  | case4 read operator value rest hnone ih =>
      rw [ih fun other hother => hfinite other (List.mem_cons_of_mem _ hother)]
      refine and_congr_right fun _ => (signOverflows_pass ?_).symm
      rintro _ _ ⟨⟩
      cases hnone
  | case5 read item rest hother ih =>
      rw [ih fun other hother => hfinite other (List.mem_cons_of_mem _ hother)]
      refine and_congr_right fun _ => (signOverflows_pass ?_).symm
      rintro value after rfl rfl
      exact absurd rfl (hother .subtract value after rfl)
  | case6 read =>
      constructor
      · intro h
        cases h
      · rintro ⟨_, before, value, after, hnil, _⟩
        simp at hnil

end

/-- The numbers of a text whose sign changes while it is read: a numeral behind
the word "negative", and a number behind a minus that is a sign. Number words
behind "negative" are left out. -/
inductive Negates (heard : String) (value : Decimal) : Prop
  | word {before after : List Piece} {items : List Item}
      (hpieces : piecesOf (tokenize heard) = before ++ .negative :: .number value :: after)
      (hbefore : itemsOfPieces before = .ok items)
  | sign {before after : List Item}
      (hitems : itemsOf (tokenize heard) =
        .ok (before ++ .operator .subtract :: .number value :: after))
      (hsign : isSign before.reverse after)

section

variable {heard : String} {items : List Item}

theorem itemsOf_tokenize_eq_signal_iff (signal : Signal) :
    itemsOf (tokenize heard) = .error (.signal signal) ↔
      signal = .overflow ∧ ∃ before value after items,
        piecesOf (tokenize heard) = before ++ .negative :: .number value :: after ∧
          itemsOfPieces before = .ok items ∧ value.Overflows :=
  itemsOfPieces_eq_signal_iff (fun _ => isProper_of_mem_piecesOf) signal

theorem finiteNumbers_of_itemsOf_eq_ok (hread : itemsOf (tokenize heard) = .ok items) :
    FiniteNumbers items := by
  obtain ⟨state, hstate, rfl⟩ := itemsOfPieces_eq_ok_iff.mp hread
  have hfinite := (foldlM_piece_eq_ok (fun _ => isProper_of_mem_piecesOf) hstate).1
  exact fun value hmem => hfinite value (List.mem_reverse.mp hmem)

/-- Reading a text signals exactly if it changes the sign of a number that is
too large for it. -/
theorem resolvedItems_eq_signal_iff (heard : String) (signal : Signal) :
    resolvedItems heard = .error (.signal signal) ↔
      signal = .overflow ∧ ∃ value, Negates heard value ∧ value.Overflows := by
  cases hread : itemsOf (tokenize heard) with
  | error fault =>
      rw [resolvedItems_of_error hread, ← hread, itemsOf_tokenize_eq_signal_iff]
      refine and_congr_right fun _ => ?_
      constructor
      · rintro ⟨before, value, after, items, hpieces, hbefore, hoverflows⟩
        exact ⟨value, .word hpieces hbefore, hoverflows⟩
      · rintro ⟨value, hnegates, hoverflows⟩
        cases hnegates with
        | word hpieces hbefore => exact ⟨_, value, _, _, hpieces, hbefore, hoverflows⟩
        | sign hitems => cases hread.symm.trans hitems
  | ok items =>
      have hsigns : resolvedItems heard = .error (.signal signal) ↔
          resolveSigns items = .error signal := by
        rw [resolvedItems_of_itemsOf hread]
        cases resolveSigns items <;> simp [Except.mapError]
      rw [hsigns, resolveSigns, resolveAfter_eq_error_iff (finiteNumbers_of_itemsOf_eq_ok hread)]
      refine and_congr_right fun _ => ?_
      constructor
      · rintro ⟨before, value, after, rfl, hsign, hoverflows⟩
        rw [List.append_nil] at hsign
        exact ⟨value, .sign hread hsign, hoverflows⟩
      · rintro ⟨value, hnegates, hoverflows⟩
        cases hnegates with
        | word hpieces hbefore =>
            have hfault := (itemsOf_tokenize_eq_signal_iff .overflow).mpr
              ⟨rfl, _, value, _, _, hpieces, hbefore, hoverflows⟩
            cases hread.symm.trans hfault
        | @sign before after hitems hsign =>
            cases hread.symm.trans hitems
            exact ⟨before, value, after, rfl, by rwa [List.append_nil], hoverflows⟩

end

end Phrase

namespace Command

theorem parse_eq_overflow_iff (heard : String) :
    parse heard = .error .overflow ↔ ∃ value, Phrase.Negates heard value ∧ value.Overflows := by
  rw [parse_eq_error_iff, Phrase.resolvedItems_eq_signal_iff, eq_self_iff_true, true_and]

theorem parse_returns_or_overflows (heard : String) :
    (∃ command, parse heard = .ok command) ∨ parse heard = .error .overflow := by
  rw [parse_eq]
  split
  · exact Or.inl ⟨_, rfl⟩
  · exact Or.inr rfl
  · exact Or.inl ⟨_, rfl⟩

/-- A text is a command, if only an unrecognized one, unless reading it changes
the sign of a number beyond the standard range. Then the overflow is signalled. -/
theorem parse_returns_iff (heard : String) :
    ((∃ command, parse heard = .ok command) ↔
      ∀ value, Phrase.Negates heard value → ¬ value.Overflows) ∧
    ((∃ command, parse heard = .ok command) ∨ parse heard = .error .overflow) := by
  have hoverflow := parse_eq_overflow_iff heard
  have hends := parse_returns_or_overflows heard
  refine ⟨⟨?_, fun hinside => hends.resolve_right fun herror => ?_⟩, hends⟩
  · rintro ⟨command, hok⟩ value hnegates hoverflows
    cases hok.symm.trans (hoverflow.mpr ⟨value, hnegates, hoverflows⟩)
  · obtain ⟨value, hnegates, hoverflows⟩ := hoverflow.mp herror
    exact hinside value hnegates hoverflows

end Command

namespace Command

/-- A power of ten written out behind "negative" is no command, if it is beyond
the standard range. -/
theorem parse_negative_power {count : ℕ} (hcount : 1000000 ≤ count) :
    parse (String.ofList ("negative".toList ++ ' ' :: '1' :: List.replicate count '0')) =
      .error .overflow := by
  have hdigits : ∀ c ∈ '1' :: List.replicate count '0', c ∈ Phrase.numerals := by
    rw [List.forall_mem_cons]
    refine ⟨by decide, fun c hc => ?_⟩
    rw [List.eq_of_mem_replicate hc]
    decide
  have htokens := Phrase.tokenize_word_numeral hdigits (List.cons_ne_nil _ _)
    (by decide : Phrase.IsSimple "negative".toList)
  have hvalue : (Decimal.ofParts false ('1' :: List.replicate count '0') [] 0).value =
      10 ^ (count : ℤ) := by
    rw [Decimal.ofParts, List.append_nil, Phrase.digitsValue_power]
    simp [Decimal.value, signed]
  have hread : ∀ numeral, Phrase.piecesOf [.word "negative".toList, .numeral numeral []] =
      [] ++ .negative :: .number (Decimal.ofParts false numeral [] 0) :: [] := fun _ => rfl
  generalize '1' :: List.replicate count '0' = numeral at htokens hvalue ⊢
  have hpieces := congrArg Phrase.piecesOf htokens
  rw [parse_eq_overflow_iff]
  refine ⟨_, .word (hpieces.trans (hread numeral)) rfl, Decimal.overflows_of_le rfl ?_⟩
  rw [hvalue, abs_of_pos (zpow_ten_pos _)]
  have hexponent : (1000000 : ℤ) ≤ count := by exact_mod_cast hcount
  exact zpow_le_zpow_right₀ (by norm_num) hexponent

/-- One million zeros are enough. -/
theorem not_parse_negative_million_zeros :
    ¬ ∃ command, parse (String.ofList
      ("negative".toList ++ ' ' :: '1' :: List.replicate 1000000 '0')) = .ok command := by
  rintro ⟨command, hok⟩
  cases hok.symm.trans (parse_negative_power (Nat.le_refl 1000000))

end Command

end SpokenCalculator
