import SpokenCalculator.Proofs.Text.Letters

/-!
# Phrases taken out of a text

A text of words with single spaces is a list of slots, each of which holds a word.
To replace a phrase by a space wherever it stands is to take it out of the slots:
one empty slot is left for all of its words. As a wider gap is left in the text, no
phrase stands across an empty slot.
-/

namespace SpokenCalculator.Text

/-- A place for a word. It is empty where words were taken out. -/
abbrev Slot := Option (List Char)

def ofSlots (slots : List Slot) : List Char := joinWords (slots.map fun slot => slot.getD [' '])

def behindSlot : List Slot → List Char
  | [] => []
  | slot :: rest => ' ' :: ofSlots (slot :: rest)

/-- Take a phrase out wherever it stands, from left to right, when a number of
slots is still to be passed over. -/
def takeOutAfter (phrase : List (List Char)) : Nat → List Slot → List Slot
  | _, [] => []
  | pending + 1, _ :: rest => takeOutAfter phrase pending rest
  | 0, slot :: rest =>
      if (phrase.map some).isPrefixOf (slot :: rest) then
        none :: takeOutAfter phrase (phrase.length - 1) rest
      else slot :: takeOutAfter phrase 0 rest

def takeOut (phrase : List (List Char)) : List Slot → List Slot := takeOutAfter phrase 0

/-! ### Slots -/

section

variable {phrase : List (List Char)} {slot : Slot} {slots rest behind : List Slot}

theorem takeOutAfter_eq (pending : Nat) (slots : List Slot) :
    takeOutAfter phrase pending slots = takeOut phrase (slots.drop pending) := by
  induction pending generalizing slots with
  | zero => rfl
  | succ pending ih =>
      cases slots with
      | nil => rfl
      | cons slot rest => exact ih rest

theorem takeOut_append (hne : phrase ≠ []) :
    takeOut phrase (phrase.map some ++ behind) = none :: takeOut phrase behind := by
  obtain ⟨word, others, rfl⟩ := List.exists_cons_of_ne_nil hne
  have hprefix : ((word :: others).map some).isPrefixOf
      (some word :: (others.map some ++ behind)) = true :=
    List.isPrefixOf_iff_prefix.mpr (List.prefix_append _ _)
  have hdropped : (others.map some ++ behind).drop ((word :: others).length - 1) = behind :=
    List.drop_left' (by simp)
  rw [List.map_cons, List.cons_append, takeOut, takeOutAfter, if_pos hprefix, takeOutAfter_eq,
    hdropped]
  rfl

theorem takeOut_cons (h : ¬ phrase.map some <+: slot :: rest) :
    takeOut phrase (slot :: rest) = slot :: takeOut phrase rest := by
  rw [takeOut, takeOutAfter, if_neg (by rwa [List.isPrefixOf_iff_prefix])]

theorem takeOut_ne_nil (slot : Slot) (rest : List Slot) : takeOut phrase (slot :: rest) ≠ [] := by
  rw [takeOut, takeOutAfter]
  split <;> exact List.cons_ne_nil _ _

theorem takeOut_self (hne : phrase ≠ []) : takeOut phrase (phrase.map some) = [none] := by
  have hself := @takeOut_append phrase [] hne
  rwa [List.append_nil] at hself

theorem takeOut_of_absent (h : ¬ phrase.map some <:+: slots) : takeOut phrase slots = slots := by
  induction slots with
  | nil => rfl
  | cons slot rest ih =>
      rw [takeOut_cons fun hprefix => h hprefix.isInfix,
        ih fun hwithin => h (hwithin.trans (List.suffix_cons slot rest).isInfix)]

theorem takeOut_of_all_empty (hne : phrase ≠ []) (h : ∀ slot ∈ slots, slot = none) :
    takeOut phrase slots = slots := by
  obtain ⟨word, others, rfl⟩ := List.exists_cons_of_ne_nil hne
  refine takeOut_of_absent fun hwithin => ?_
  cases h (some word) (hwithin.subset List.mem_cons_self)

theorem mem_of_mem_takeOut {word : List Char} (pending : Nat)
    (h : some word ∈ takeOutAfter phrase pending slots) : some word ∈ slots := by
  induction slots generalizing pending with
  | nil => exact h
  | cons slot rest ih =>
      refine List.mem_cons.mpr ?_
      cases pending with
      | succ pending => exact Or.inr (ih pending h)
      | zero =>
          rw [takeOutAfter] at h
          split at h
          · exact Or.inr (ih _ ((List.mem_cons.mp h).resolve_left nofun))
          · exact (List.mem_cons.mp h).imp_right (ih 0)

end

/-! ### The text of slots -/

theorem ofSlots_cons (slot : Slot) (rest : List Slot) :
    ofSlots (slot :: rest) = slot.getD [' '] ++ behindSlot rest := by
  cases rest with
  | nil => simp [ofSlots, behindSlot, joinWords]
  | cons next others => exact joinWords_cons_cons _ _ _

theorem ofSlots_map_some (words : List (List Char)) :
    ofSlots (words.map some) = joinWords words := by
  rw [ofSlots, List.map_map]
  exact congrArg joinWords (List.map_id words)

theorem ofSlots_append {words : List (List Char)} (hne : words ≠ []) (behind : List Slot) :
    ofSlots (words.map some ++ behind) = joinWords words ++ behindSlot behind := by
  induction words with
  | nil => exact absurd rfl hne
  | cons word others ih =>
      rw [List.map_cons, List.cons_append, ofSlots_cons, Option.getD_some]
      cases others with
      | nil => simp [joinWords]
      | cons next others =>
          rw [joinWords_cons_cons, List.append_assoc]
          exact congrArg (word ++ ' ' :: ·) (ih (List.cons_ne_nil _ _))

theorem isWordAt_behindSlot (slots : List Slot) : isWordAt (behindSlot slots).head? = false := by
  cases slots with
  | nil => rfl
  | cons slot rest => exact isWordCharacter_of_isBlank (by decide)

structure IsWhole (word : List Char) : Prop where
  ne_nil : word ≠ []
  isWord : ∀ c ∈ word, isWordCharacter c

theorem IsWhole.isPlain {word : List Char} (h : IsWhole word) : IsWord word := by
  refine ⟨h.ne_nil, fun c hc => ?_⟩
  rw [← Bool.not_eq_true]
  intro hblank
  exact absurd ((isWordCharacter_of_isBlank hblank).symm.trans (h.isWord c hc)) nofun

theorem whole_map_some {words : List (List Char)} (h : ∀ word ∈ words, IsWhole word) :
    ∀ slot ∈ words.map some, ∀ word ∈ slot, IsWhole word := by
  rw [List.forall_mem_map]
  intro word hword found hfound
  rw [← Option.mem_some.mp hfound]
  exact h word hword

/-- What a text has before its first gap is one word. -/
theorem whole_word_unique {word other behind rest : List Char}
    (hword : ∀ c ∈ word, isWordCharacter c) (hother : ∀ c ∈ other, isWordCharacter c)
    (hbehind : isWordAt behind.head? = false) (hrest : isWordAt rest.head? = false)
    (h : word ++ behind = other ++ rest) : word = other ∧ behind = rest := by
  rcases List.append_eq_append_iff.mp h with ⟨more, rfl, rfl⟩ | ⟨more, rfl, rfl⟩
  · cases more with
    | nil => exact ⟨(List.append_nil word).symm, rfl⟩
    | cons c others =>
        have hc : isWordCharacter c := hother c (List.mem_append_right word List.mem_cons_self)
        exact absurd (hbehind.symm.trans hc) nofun
  · cases more with
    | nil => exact ⟨List.append_nil other, rfl⟩
    | cons c others =>
        have hc : isWordCharacter c := hword c (List.mem_append_right other List.mem_cons_self)
        exact absurd (hrest.symm.trans hc) nofun

section

variable {phrase : List (List Char)} (hphrase : ∀ word ∈ phrase, IsWhole word)

include hphrase

theorem head?_joinWords (hne : phrase ≠ []) : (joinWords phrase).head?.any isWordCharacter := by
  obtain ⟨word, others, rfl⟩ := List.exists_cons_of_ne_nil hne
  obtain ⟨hword, hwhole⟩ := hphrase word List.mem_cons_self
  obtain ⟨c, rest, rfl⟩ := List.exists_cons_of_ne_nil hword
  have hc : isWordCharacter c := hwhole c List.mem_cons_self
  rw [← ofSlots_map_some, List.map_cons, ofSlots_cons]
  exact hc

theorem joinWords_ne_nil (hne : phrase ≠ []) : joinWords phrase ≠ [] := by
  intro hnil
  have hfirst := head?_joinWords hphrase hne
  rw [hnil] at hfirst
  cases hfirst

theorem getLast?_joinWords (hne : phrase ≠ []) :
    (joinWords phrase).getLast?.any isWordCharacter := by
  induction phrase with
  | nil => exact absurd rfl hne
  | cons word others ih =>
      obtain ⟨hword, hothers⟩ := List.forall_mem_cons.mp hphrase
      cases others with
      | nil =>
          have hlast := List.getLast_mem hword.ne_nil
          rw [show joinWords [word] = word by simp [joinWords],
            List.getLast?_eq_some_getLast hword.ne_nil]
          exact hword.isWord _ hlast
      | cons next others =>
          have hbehind := joinWords_ne_nil hothers (List.cons_ne_nil _ _)
          rw [joinWords_cons_cons, List.getLast?_append_cons, List.getLast?_cons_of_ne_nil hbehind]
          exact ih hothers (List.cons_ne_nil _ _)

/-- A phrase that stands on its own at the start of a text fills the first
slots. -/
theorem prefix_of_ofSlots_eq {slots : List Slot}
    (hslots : ∀ slot ∈ slots, ∀ word ∈ slot, IsWhole word) {behind : List Char}
    (hbehind : isWordAt behind.head? = false)
    (h : ofSlots slots = joinWords phrase ++ behind) : phrase.map some <+: slots := by
  induction phrase generalizing slots with
  | nil => exact List.nil_prefix
  | cons word others ih =>
      obtain ⟨hword, hothers⟩ := List.forall_mem_cons.mp hphrase
      rw [← ofSlots_map_some, List.map_cons, ofSlots_cons, Option.getD_some,
        List.append_assoc] at h
      cases slots with
      | nil => simp [ofSlots, joinWords, hword.ne_nil] at h
      | cons slot slots =>
          obtain ⟨hslot, hrest⟩ := List.forall_mem_cons.mp hslots
          rw [ofSlots_cons] at h
          cases slot with
          | none =>
              obtain ⟨c, letters, rfl⟩ := List.exists_cons_of_ne_nil hword.ne_nil
              have hc : isWordCharacter c := hword.isWord c List.mem_cons_self
              rw [← (List.cons.inj h).1] at hc
              exact absurd hc (by decide)
          | some found =>
              have hgap : isWordAt (behindSlot (others.map some) ++ behind).head? = false := by
                cases others with
                | nil => exact hbehind
                | cons next others => exact isWordAt_behindSlot ((next :: others).map some)
              obtain ⟨rfl, hsame⟩ := whole_word_unique (hslot found rfl).isWord hword.isWord
                (isWordAt_behindSlot slots) hgap h
              refine List.cons_prefix_cons.mpr ⟨rfl, ?_⟩
              cases others with
              | nil => exact List.nil_prefix
              | cons next others =>
                  cases slots with
                  | nil => cases hsame
                  | cons slot slots =>
                      rw [List.map_cons, behindSlot, behindSlot, ← List.map_cons,
                        ofSlots_map_some] at hsame
                      exact ih hothers hrest (List.cons.inj hsame).2

end

/-! ### Replacing a phrase -/

section

variable {pattern replacement : List Char} {before : Option Char}

theorem transduce_replacementStep_word (hbefore : isWordAt before) {word : List Char}
    (hword : ∀ c ∈ word, isWordCharacter c) (behind : List Char) :
    transduce (replacementStep pattern replacement) ⟨before, 0⟩ (word ++ behind) =
      word ++ transduce (replacementStep pattern replacement) ⟨lastOr before word, 0⟩ behind := by
  induction word generalizing before with
  | nil => rfl
  | cons c rest ih =>
      obtain ⟨hc, hrest⟩ := List.forall_mem_cons.mp hword
      have hedge : isWordEdge before (some c) = false := by
        rw [isWordEdge, hbefore, isWordAt, hc]
        rfl
      have hstep : replacementStep pattern replacement ⟨before, 0⟩ c (rest ++ behind) =
          (⟨some c, 0⟩, [c]) := by
        simp [replacementStep, standsAt, hedge]
      rw [List.cons_append, transduce_cons, hstep, lastOr_cons, @ih (some c) hc hrest]
      rfl

/-- What is still to be passed over is left out. -/
theorem transduce_replacementStep_pending (passed behind : List Char) :
    transduce (replacementStep pattern replacement) ⟨before, passed.length⟩ (passed ++ behind) =
      transduce (replacementStep pattern replacement) ⟨lastOr before passed, 0⟩ behind := by
  induction passed generalizing before with
  | nil => rfl
  | cons c rest ih =>
      rw [List.cons_append, transduce_cons, lastOr_cons]
      exact ih

variable (hfirst : pattern.head?.any isWordCharacter)

include hfirst

theorem transduce_replacementStep_gap {gap : Char} (hgap : isWordCharacter gap = false)
    (behind : List Char) :
    transduce (replacementStep pattern replacement) ⟨before, 0⟩ (gap :: behind) =
      gap :: transduce (replacementStep pattern replacement) ⟨none, 0⟩ behind := by
  have hstands : standsAt pattern before (gap :: behind) = false := by
    cases pattern with
    | nil => cases hfirst
    | cons c rest =>
        have hne : (c == gap) = false := by
          rw [beq_eq_false_iff_ne]
          rintro rfl
          exact absurd (hgap.symm.trans hfirst) nofun
        simp [standsAt, List.isPrefixOf, hne]
  have hstep : replacementStep pattern replacement ⟨before, 0⟩ gap behind =
      (⟨some gap, 0⟩, [gap]) := by
    simp [replacementStep, hstands]
  have hcongr : isWordAt (some gap) = isWordAt none := hgap
  rw [transduce_cons, hstep, transduce_replacementStep_congr hcongr]
  rfl

theorem transduce_replacementStep_pattern (hlast : pattern.getLast?.any isWordCharacter)
    (hbefore : isWordAt before = false) {behind : List Char}
    (hbehind : isWordAt behind.head? = false) :
    transduce (replacementStep pattern replacement) ⟨before, 0⟩ (pattern ++ behind) =
      replacement ++
        transduce (replacementStep pattern replacement) ⟨lastOr before pattern, 0⟩ behind := by
  cases pattern with
  | nil => cases hfirst
  | cons c rest =>
      have hc : isWordCharacter c := hfirst
      have hstart : isWordEdge before (c :: rest ++ behind).head? = true := by
        rw [isWordEdge, hbefore, List.cons_append, List.head?_cons, isWordAt, hc]
        rfl
      have hend : isWordEdge (lastOr before (c :: rest)) behind.head? = true := by
        rw [isWordEdge, isWordAt_lastOr hlast, hbehind]
        rfl
      have hstands : standsAt (c :: rest) before (c :: rest ++ behind) = true := by
        rw [standsAt, List.isPrefixOf_iff_prefix.mpr (List.prefix_append (c :: rest) behind),
          hstart, List.drop_left, hend]
        rfl
      rw [List.cons_append] at hstands
      have hstep : replacementStep (c :: rest) replacement ⟨before, 0⟩ c (rest ++ behind) =
          (⟨some c, rest.length⟩, replacement) := by
        simp [replacementStep, hstands]
      rw [List.cons_append, transduce_cons, hstep, transduce_replacementStep_pending, lastOr_cons]

end

section

variable {phrase : List (List Char)} (hphrase : ∀ word ∈ phrase, IsWhole word) (hne : phrase ≠ [])

include hphrase hne

theorem transduce_behindSlot {before : Option Char} {slots : List Slot}
    (h : transduce (replacementStep (joinWords phrase) [' ']) ⟨none, 0⟩ (ofSlots slots) =
      ofSlots (takeOut phrase slots)) :
    transduce (replacementStep (joinWords phrase) [' ']) ⟨before, 0⟩ (behindSlot slots) =
      behindSlot (takeOut phrase slots) := by
  cases slots with
  | nil => rfl
  | cons slot rest =>
      rw [behindSlot, transduce_replacementStep_gap (head?_joinWords hphrase hne) (by decide), h]
      obtain ⟨first, others, hkept⟩ := List.exists_cons_of_ne_nil (takeOut_ne_nil slot rest)
      rw [hkept]
      rfl

theorem not_standsAt_ofSlots {slots : List Slot}
    (hslots : ∀ slot ∈ slots, ∀ word ∈ slot, IsWhole word) (h : ¬ phrase.map some <+: slots)
    (before : Option Char) : standsAt (joinWords phrase) before (ofSlots slots) = false := by
  rw [← Bool.not_eq_true, standsAt, Bool.and_eq_true, Bool.and_eq_true,
    List.isPrefixOf_iff_prefix]
  rintro ⟨⟨⟨behind, hbehind⟩, -⟩, hend⟩
  rw [← hbehind, List.drop_left, isWordEdge, isWordAt_lastOr (getLast?_joinWords hphrase hne),
    bne_iff_ne] at hend
  exact h (prefix_of_ofSlots_eq hphrase hslots (Bool.not_eq_true _ ▸ hend.symm) hbehind.symm)

theorem transduce_ofSlots_cons {slot : Slot} {rest : List Slot}
    (hslots : ∀ held ∈ slot :: rest, ∀ word ∈ held, IsWhole word)
    (habsent : ¬ phrase.map some <+: slot :: rest)
    (hrest : transduce (replacementStep (joinWords phrase) [' ']) ⟨none, 0⟩ (ofSlots rest) =
      ofSlots (takeOut phrase rest)) :
    transduce (replacementStep (joinWords phrase) [' ']) ⟨none, 0⟩ (ofSlots (slot :: rest)) =
      slot.getD [' '] ++ behindSlot (takeOut phrase rest) := by
  rw [ofSlots_cons]
  cases slot with
  | none =>
      rw [Option.getD_none, List.singleton_append,
        transduce_replacementStep_gap (head?_joinWords hphrase hne) (by decide),
        transduce_behindSlot hphrase hne hrest]
      rfl
  | some word =>
      obtain ⟨hword, hwhole⟩ := hslots (some word) List.mem_cons_self word rfl
      obtain ⟨c, letters, rfl⟩ := List.exists_cons_of_ne_nil hword
      obtain ⟨hc, hletters⟩ := List.forall_mem_cons.mp hwhole
      have hinside : isWordAt (some c) := hc
      have hstands := not_standsAt_ofSlots hphrase hne hslots habsent none
      rw [ofSlots_cons, Option.getD_some, List.cons_append] at hstands
      have hstep : replacementStep (joinWords phrase) [' '] ⟨none, 0⟩ c
          (letters ++ behindSlot rest) = (⟨some c, 0⟩, [c]) := by
        simp [replacementStep, hstands]
      rw [Option.getD_some, List.cons_append, transduce_cons, hstep,
        transduce_replacementStep_word hinside hletters, transduce_behindSlot hphrase hne hrest]
      rfl

/-- To replace a phrase by a space is to take it out of the slots. -/
theorem replaceWhole_ofSlots {slots : List Slot}
    (hslots : ∀ slot ∈ slots, ∀ word ∈ slot, IsWhole word) :
    replaceWhole (joinWords phrase) [' '] (ofSlots slots) = ofSlots (takeOut phrase slots) := by
  have hfirst := head?_joinWords hphrase hne
  have hlast := getLast?_joinWords hphrase hne
  have hall : transduce (replacementStep (joinWords phrase) [' ']) ⟨none, 0⟩ (ofSlots slots) =
      ofSlots (takeOut phrase slots) := by
    -- a phrase that is replaced takes all of its slots at once
    induction hlength : slots.length using Nat.strong_induction_on generalizing slots with
    | _ length ih =>
      by_cases hprefix : phrase.map some <+: slots
      · obtain ⟨behind, rfl⟩ := hprefix
        have hshorter : behind.length < length := by
          have hsome := List.length_pos_of_ne_nil hne
          rw [List.length_append, List.length_map] at hlength
          omega
        have hbehind := ih behind.length hshorter
          (fun slot hslot => hslots slot (List.mem_append_right _ hslot)) rfl
        rw [ofSlots_append hne, takeOut_append hne, ofSlots_cons,
          transduce_replacementStep_pattern hfirst hlast rfl (isWordAt_behindSlot behind),
          transduce_behindSlot hphrase hne hbehind]
        rfl
      · cases slots with
        | nil => rfl
        | cons slot rest =>
            have hrest := ih rest.length (by rw [← hlength]; exact Nat.lt_succ_self _)
              (fun slot hslot => hslots slot (List.mem_cons_of_mem _ hslot)) rfl
            rw [takeOut_cons hprefix, ofSlots_cons slot (takeOut phrase rest)]
            exact transduce_ofSlots_cons hphrase hne hslots hprefix hrest
  have hempty : (joinWords phrase).isEmpty = false := by
    rw [← Bool.not_eq_true, List.isEmpty_iff]
    exact joinWords_ne_nil hphrase hne
  rw [replaceWhole, hall, hempty, Bool.false_and, if_neg Bool.false_ne_true, List.append_nil]

/-- What stands around the slots is left alone, unless it has word characters. -/
theorem replaceWhole_around_ofSlots {front tail : List Char}
    (hfront : ∀ c ∈ front, isWordCharacter c = false)
    (htail : ∀ c ∈ tail, isWordCharacter c = false) {slots : List Slot}
    (hslots : ∀ slot ∈ slots, ∀ word ∈ slot, IsWhole word) :
    replaceWhole (joinWords phrase) [' '] (front ++ ofSlots slots ++ tail) =
      front ++ ofSlots (takeOut phrase slots) ++ tail := by
  have hfirst := head?_joinWords hphrase hne
  rw [replaceWhole_append_gaps htail hfirst (getLast?_joinWords hphrase hne),
    replaceWhole_of_gaps hfront hfirst, replaceWhole_ofSlots hphrase hne hslots]

end

/-! ### Taking out one phrase after the other -/

def takeOutAll (phrases : List (List (List Char))) (slots : List Slot) : List Slot :=
  phrases.foldl (fun slots phrase => takeOut phrase slots) slots

section

variable {phrases : List (List (List Char))} {slots : List Slot}

theorem whole_takeOut {phrase : List (List Char)}
    (hslots : ∀ slot ∈ slots, ∀ word ∈ slot, IsWhole word) :
    ∀ slot ∈ takeOut phrase slots, ∀ word ∈ slot, IsWhole word := by
  rintro slot hslot word rfl
  exact hslots _ (mem_of_mem_takeOut 0 hslot) word rfl

theorem takeOutAll_of_all_empty (hne : ∀ phrase ∈ phrases, phrase ≠ [])
    (h : ∀ slot ∈ slots, slot = none) : takeOutAll phrases slots = slots := by
  induction phrases with
  | nil => rfl
  | cons phrase others ih =>
      obtain ⟨hphrase, hothers⟩ := List.forall_mem_cons.mp hne
      rw [takeOutAll, List.foldl_cons, takeOut_of_all_empty hphrase h]
      exact ih hothers

/-- Words are taken out together if they are a phrase and no phrase before it
stands among them. -/
theorem takeOutAll_of_first {words : List (List Char)} (hne : ∀ phrase ∈ phrases, phrase ≠ [])
    (hmem : words ∈ phrases)
    (hfirst : ∀ phrase ∈ phrases.takeWhile fun phrase => phrase != words, ¬ phrase <:+: words) :
    takeOutAll phrases (words.map some) = [none] := by
  induction phrases with
  | nil => cases hmem
  | cons phrase others ih =>
      obtain ⟨hphrase, hothers⟩ := List.forall_mem_cons.mp hne
      rw [takeOutAll, List.foldl_cons]
      by_cases hsame : phrase = words
      · rw [hsame, takeOut_self (hsame ▸ hphrase)]
        exact takeOutAll_of_all_empty hothers (List.forall_mem_singleton.mpr rfl)
      · rw [List.takeWhile_cons_of_pos (by simpa using hsame), List.forall_mem_cons] at hfirst
        have hapart : ¬ phrase.map some <:+: words.map some := fun hwithin =>
          hfirst.1 (by simpa using hwithin.filterMap id)
        rw [takeOut_of_absent hapart]
        exact ih hothers ((List.mem_cons.mp hmem).resolve_left fun heq => hsame heq.symm) hfirst.2

theorem foldl_replaceWhole_around_ofSlots (hphrases : ∀ phrase ∈ phrases, phrase ≠ [] ∧
      ∀ word ∈ phrase, IsWhole word) {front tail : List Char}
    (hfront : ∀ c ∈ front, isWordCharacter c = false)
    (htail : ∀ c ∈ tail, isWordCharacter c = false)
    (hslots : ∀ slot ∈ slots, ∀ word ∈ slot, IsWhole word) :
    (phrases.map joinWords).foldl (fun rest pattern => replaceWhole pattern [' '] rest)
        (front ++ ofSlots slots ++ tail) =
      front ++ ofSlots (takeOutAll phrases slots) ++ tail := by
  induction phrases generalizing slots with
  | nil => rfl
  | cons phrase others ih =>
      obtain ⟨⟨hne, hphrase⟩, hothers⟩ := List.forall_mem_cons.mp hphrases
      rw [List.map_cons, List.foldl_cons,
        replaceWhole_around_ofSlots hphrase hne hfront htail hslots,
        ih hothers (whole_takeOut hslots)]
      rfl

theorem mem_of_mem_takeOutAll {word : List Char} (h : some word ∈ takeOutAll phrases slots) :
    some word ∈ slots := by
  induction phrases generalizing slots with
  | nil => exact h
  | cons phrase others ih => exact mem_of_mem_takeOut 0 (ih h)

theorem trim_eq_nil_iff (isEdge : Char → Bool) (text : List Char) :
    trim isEdge text = [] ↔ ∀ c ∈ text, isEdge c := by
  constructor
  · intro hnil c hc
    by_contra hedge
    exact trim_ne_nil hc (Bool.eq_false_iff.mpr hedge) hnil
  · intro hedge
    obtain ⟨front, tail, -, -, hparts⟩ := exists_eq_append_trim isEdge text
    cases hkept : trim isEdge text with
    | nil => rfl
    | cons c rest =>
        have hc : c ∈ text := by
          rw [hparts, hkept]
          simp
        have hplain := (trim_ends isEdge text).1 c (by rw [hkept]; rfl)
        exact absurd (hplain.symm.trans (hedge c hc)) nofun

/-- What is left of a text whose slots stand among edges is nothing exactly if
every slot is empty. -/
theorem trim_around_ofSlots_eq_nil_iff {isEdge : Char → Bool} (hspace : isEdge ' ')
    (hapart : ∀ c, isEdge c → isWordCharacter c = false) {front tail : List Char}
    (hfront : ∀ c ∈ front, isEdge c) (htail : ∀ c ∈ tail, isEdge c)
    (hslots : ∀ slot ∈ slots, ∀ word ∈ slot, IsWhole word) :
    trim isEdge (joinWords (words (front ++ ofSlots slots ++ tail))) = [] ↔
      ∀ slot ∈ slots, slot = none := by
  rw [trim_eq_nil_iff]
  constructor
  · rintro hedge (_ | word) hslot
    · rfl
    · have hwhole := hslots (some word) hslot word rfl
      obtain ⟨c, hc⟩ := List.exists_mem_of_ne_nil word hwhole.ne_nil
      have hblank := hwhole.isPlain.2 c hc
      have htext : c ∈ front ++ ofSlots slots ++ tail := by
        have hslotText : c ∈ ofSlots slots :=
          mem_joinWords_of_mem (List.mem_map_of_mem hslot) hc
        simp [hslotText]
      obtain ⟨found, hfound, hmem⟩ := exists_mem_words htext hblank
      have hedge := hedge c (mem_joinWords_of_mem hfound hmem)
      exact absurd ((hapart c hedge).symm.trans (hwhole.isWord c hc)) nofun
  · intro hempty
    refine isEdge_of_mem_joinWords_words hspace ?_
    rw [List.forall_mem_append, List.forall_mem_append]
    refine ⟨⟨hfront, fun c hc => ?_⟩, htail⟩
    rcases mem_joinWords hc with rfl | ⟨part, hpart, hc⟩
    · exact hspace
    · obtain ⟨slot, hslot, rfl⟩ := List.mem_map.mp hpart
      rw [hempty slot hslot, Option.getD_none, List.mem_singleton] at hc
      rw [hc]
      exact hspace

end

end SpokenCalculator.Text
