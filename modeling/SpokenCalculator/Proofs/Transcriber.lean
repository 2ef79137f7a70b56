import SpokenCalculator.Transcriber

namespace SpokenCalculator

def Json.TellsText (result : Json) : Prop :=
  ∃ members, result = .record members ∧
    ∀ value, result.member? "text" = some value → ∃ text, value = .string text

namespace Transcriber

/-- The recognizer ended with a result that can be read and tells a text. -/
def IsTelling (recognition : Except Failure String) : Prop :=
  ∃ text result, recognition = .ok text ∧ Json.read text = .ok result ∧ result.TellsText

/-- The recognizer failed without being interrupted, or its result cannot be
read. -/
def IsBroken (recognition : Except Failure String) : Prop :=
  (∃ failure, recognition = .error failure ∧ failure.kind.isA .ordinary) ∨
    ∃ text rejection, recognition = .ok text ∧ Json.read text = .error rejection

theorem exists_textOf_iff (result : Json) :
    (∃ text, textOf result = .ok text) ↔ result.TellsText := by
  cases result with
  | record members =>
      cases hmember : Json.member? "text" (.record members) with
      | none => simp [textOf, Json.TellsText, hmember]
      | some value => cases value <;> simp [textOf, Json.TellsText, hmember]
  | null => simp [textOf, Json.TellsText]
  | flag value => simp [textOf, Json.TellsText]
  | number numeral => simp [textOf, Json.TellsText]
  | string value => simp [textOf, Json.TellsText]
  | list items => simp [textOf, Json.TellsText]

theorem kind_of_textOf_eq_error {result : Json} {failure : Failure}
    (h : textOf result = .error failure) : failure.kind = .absentMember := by
  unfold textOf at h
  split at h
  · split at h
    · cases h
    · cases h
    · cases h
      rfl
  · cases h
    rfl

theorem isA_ordinary_readingFailure (text : String) (rejection : Json.Rejection) :
    (readingFailure text rejection).kind.isA .ordinary := by
  cases rejection <;> rfl

theorem duration_of_rate_eq_zero {chunk : Chunk} (h : chunk.rate = 0) :
    chunk.duration = .error .zeroRate := if_pos h

theorem duration_of_rate_ne_zero {chunk : Chunk} (h : chunk.rate ≠ 0) :
    chunk.duration = .ok ((1000 * (chunk.sampleCount : Int)).fdiv chunk.rate) := if_neg h

section

variable {chunk : Chunk} {failure : Failure}

theorem kind_recognitionFailure (hordinary : failure.kind.isA .ordinary) (hrate : chunk.rate ≠ 0) :
    (recognitionFailure chunk failure).kind = .transcriber := by
  rw [recognitionFailure, if_pos hordinary, duration_of_rate_ne_zero hrate]

theorem recognitionFailure_of_rate_eq_zero (hordinary : failure.kind.isA .ordinary)
    (hrate : chunk.rate = 0) : recognitionFailure chunk failure = AudioFault.zeroRate.failure := by
  rw [recognitionFailure, if_pos hordinary, duration_of_rate_eq_zero hrate]

theorem recognitionFailure_of_interruption (h : ¬ failure.kind.isA .ordinary) :
    recognitionFailure chunk failure = failure := if_neg h

end

variable {recognition : Except Failure String}

theorem not_isBroken_of_read {text : String} {result : Json} (hrecognition : recognition = .ok text)
    (hread : Json.read text = .ok result) : ¬ IsBroken recognition := by
  rintro (⟨_, hfailed, -⟩ | ⟨_, rejection, hsame, hrejected⟩)
  · cases hrecognition.symm.trans hfailed
  · cases hrecognition.symm.trans hsame
    cases hread.symm.trans hrejected

inductive ComesOut (chunk : Chunk) (recognition : Except Failure String) :
    Except Failure Transcript → Prop
  | soundless (hsound : chunk.sampleCount = 0) : ComesOut chunk recognition (.ok .silence)
  | told {text heard : String} {result : Json} (hrecognition : recognition = .ok text)
      (hread : Json.read text = .ok result) (htext : textOf result = .ok heard) :
      ComesOut chunk recognition (.ok (transcriptOf heard))
  | shapeless {text : String} {result : Json} {failure : Failure}
      (hsound : chunk.sampleCount ≠ 0) (hrecognition : recognition = .ok text)
      (hread : Json.read text = .ok result) (htext : textOf result = .error failure) :
      ComesOut chunk recognition (.error failure)
  | broken {failure : Failure} (hbroken : IsBroken recognition) (hrate : chunk.rate ≠ 0)
      (hkind : failure.kind = .transcriber) : ComesOut chunk recognition (.error failure)
  | rateless (hsound : chunk.sampleCount ≠ 0) (hbroken : IsBroken recognition)
      (hrate : chunk.rate = 0) : ComesOut chunk recognition (.error AudioFault.zeroRate.failure)
  | interrupted {failure : Failure} (hsound : chunk.sampleCount ≠ 0)
      (hrecognition : recognition = .error failure) (hkind : ¬ failure.kind.isA .ordinary) :
      ComesOut chunk recognition (.error failure)

theorem comesOut_recognitionFailure {chunk : Chunk} {failure : Failure}
    (hsound : chunk.sampleCount ≠ 0) (hbroken : IsBroken recognition)
    (hordinary : failure.kind.isA .ordinary) :
    ComesOut chunk recognition (.error (recognitionFailure chunk failure)) := by
  by_cases hrate : chunk.rate = 0
  · rw [recognitionFailure_of_rate_eq_zero hordinary hrate]
    exact .rateless hsound hbroken hrate
  · exact .broken hbroken hrate (kind_recognitionFailure hordinary hrate)

theorem transcribe_comesOut (transcriber : Transcriber) (chunk : Chunk)
    (recognition : Except Failure String) :
    ComesOut chunk recognition (transcriber.transcribe chunk recognition).2 := by
  unfold transcribe
  split
  · rename_i hsound
    exact .soundless hsound
  · rename_i hsound
    cases recognition with
    | error failure =>
        by_cases hordinary : failure.kind.isA .ordinary
        · exact comesOut_recognitionFailure hsound (Or.inl ⟨failure, rfl, hordinary⟩) hordinary
        · change ComesOut _ _ (.error (recognitionFailure chunk failure))
          rw [recognitionFailure_of_interruption hordinary]
          exact .interrupted hsound rfl hordinary
    | ok text =>
        cases hread : Json.read text with
        | error rejection =>
            have hresult : resultOf (.ok text) = .error (readingFailure text rejection) := by
              rw [resultOf, hread]
              rfl
            rw [hresult]
            exact comesOut_recognitionFailure hsound (Or.inr ⟨text, rejection, rfl, hread⟩)
              (isA_ordinary_readingFailure text rejection)
        | ok result =>
            have hresult : resultOf (.ok text) = .ok result := by
              rw [resultOf, hread]
              rfl
            rw [hresult]
            dsimp only
            cases htext : textOf result with
            | ok heard => exact .told rfl hread htext
            | error failure => exact .shapeless hsound rfl hread htext

theorem isA_ordinary_of_isA_transcriber {kind : FailureKind} (h : kind.isA .transcriber) :
    kind.isA .ordinary := by
  revert h
  cases kind <;> decide

/-- A transcription returns or fails as a transcriber does exactly if there is no
sound, the result tells a text, or the recognizer broke down on a chunk with a
rate. -/
theorem transcribe_returns_or_fails_iff (transcriber : Transcriber) (chunk : Chunk)
    (recognition : Except Failure String) :
    ((∃ transcript, (transcriber.transcribe chunk recognition).2 = .ok transcript) ∨
      ∃ failure, (transcriber.transcribe chunk recognition).2 = .error failure ∧
        failure.kind.isA .transcriber) ↔
    chunk.sampleCount = 0 ∨ IsTelling recognition ∨ IsBroken recognition ∧ chunk.rate ≠ 0 := by
  have hcomesOut := transcribe_comesOut transcriber chunk recognition
  generalize (transcriber.transcribe chunk recognition).2 = outcome at hcomesOut
  cases hcomesOut with
  | soundless hsound => simp [hsound]
  | told hrecognition hread htext =>
      have htelling : IsTelling recognition :=
        ⟨_, _, hrecognition, hread, (exists_textOf_iff _).mp ⟨_, htext⟩⟩
      simp [htelling]
  | broken hbroken hrate hkind =>
      have hlineage : FailureKind.transcriber.isA .transcriber := by decide
      simp [hbroken, hrate, hkind, hlineage]
  | shapeless hsound hrecognition hread htext =>
      have hkind := kind_of_textOf_eq_error htext
      have hlineage : ¬ FailureKind.absentMember.isA .transcriber := by decide
      have htelling : ¬ IsTelling recognition := by
        rintro ⟨_, _, hsame, hagain, htells⟩
        cases hrecognition.symm.trans hsame
        cases hread.symm.trans hagain
        obtain ⟨_, hheard⟩ := (exists_textOf_iff _).mpr htells
        cases htext.symm.trans hheard
      have hbroken := not_isBroken_of_read hrecognition hread
      simp [hsound, htelling, hbroken, hkind, hlineage]
  | rateless hsound hbroken hrate =>
      have hlineage : ¬ AudioFault.zeroRate.failure.kind.isA .transcriber := by decide
      have htelling : ¬ IsTelling recognition := by
        rintro ⟨_, _, hrecognition, hread, -⟩
        exact not_isBroken_of_read hrecognition hread hbroken
      simp [hsound, htelling, hrate, hlineage]
  | interrupted hsound hrecognition hkind =>
      have hlineage := mt isA_ordinary_of_isA_transcriber hkind
      have htelling : ¬ IsTelling recognition := by
        rintro ⟨_, _, hsame, -⟩
        cases hrecognition.symm.trans hsame
      have hbroken : ¬ IsBroken recognition := by
        rintro (⟨_, hsame, hordinary⟩ | ⟨_, _, hsame, -⟩)
        · cases hrecognition.symm.trans hsame
          exact hkind hordinary
        · cases hrecognition.symm.trans hsame
      simp [hsound, htelling, hbroken, hlineage]

/-- The recognizer gives an empty list, which has no members. -/
theorem transcribe_escapes_on_list :
    ¬ ((∃ transcript, ((⟨none⟩ : Transcriber).transcribe ⟨[1, 0], 16000⟩ (.ok "[]")).2 =
          .ok transcript) ∨
        ∃ failure, ((⟨none⟩ : Transcriber).transcribe ⟨[1, 0], 16000⟩ (.ok "[]")).2 =
          .error failure ∧ failure.kind.isA .transcriber) := by
  have hescapes : ((⟨none⟩ : Transcriber).transcribe ⟨[1, 0], 16000⟩ (.ok "[]")).2 =
      .error ⟨.absentMember, "'list' object has no attribute 'get'"⟩ := by
    rfl
  rw [hescapes]
  rintro (⟨_, hok⟩ | ⟨_, hfailure, hkind⟩)
  · cases hok
  · cases hfailure
    exact absurd hkind (by decide)

end Transcriber

end SpokenCalculator
