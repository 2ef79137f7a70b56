import SpokenCalculator.Assistant.Loop
import SpokenCalculator.Proofs.Action.Lead

namespace SpokenCalculator

open SpokenCalculator.Action

variable {σ α : Type}

/-- Muting and unmuting lead to and from what the speaker keeps, and the calls
around a speech have only the given failures beside those of the speaker. -/
structure Collaborators.SaysWithin (collaborators : Collaborators σ)
    (inv during : Assistant σ → Prop) (fails : Failure → Prop) : Prop where
  stage (assistant : Assistant σ) (stage : Stage) : inv assistant → inv { assistant with stage }
  mute : (Assistant.ask collaborators.mute).Leads inv fun outcome assistant =>
    Ends (fun _ => during assistant) (fun failure => inv assistant ∧ fails failure) outcome
  unmute : (Assistant.ask collaborators.unmute).Leads during fun outcome assistant =>
    inv assistant ∧ Ends anything fails outcome
  speak (stage : Stage) (interruption : Option MonitorTimes) (text : String) :
    (Assistant.ask (collaborators.speak stage interruption text)).Safe during anything
      fun failure => fails failure ∨ failure.kind.isA .speaker

namespace Assistant

/-- Trying again leads where trying once does, if a failure of the kind leaves a
state from which to try again. -/
theorem leads_retry {pre : Assistant σ → Prop} {post : Except Failure α → Assistant σ → Prop}
    {action : Action (Assistant σ) α} {kind : FailureKind} (h : action.Leads pre post)
    (hagain : ∀ failure state, failure.kind.isA kind → post (.error failure) state → pre state)
    (further : Nat) : (retry kind action further).Leads pre post := by
  induction further with
  | zero => exact h
  | succ further ih =>
      refine .bind_attempt h fun result => ?_
      cases result with
      | ok value => exact .pure fun _ => id
      | error failure =>
          dsimp only
          split
          · rename_i hkind
            exact ih.mono (fun state => hagain failure state hkind) fun _ _ => id
          · exact .throw fun _ => id

theorem safe_retry {inv : Assistant σ → Prop} {returns : α → Prop}
    {fails : Failure → Prop} {action : Action (Assistant σ) α} (h : action.Safe inv returns fails)
    (kind : FailureKind) (further : Nat) : (retry kind action further).Safe inv returns fails := by
  have hleads : action.Leads inv fun outcome state => inv state ∧ Ends returns fails outcome := h
  exact leads_retry hleads (fun _ _ _ hpost => hpost.1) further

variable (settings : Settings) {collaborators : Collaborators σ} {inv during : Assistant σ → Prop}
  {fails : Failure → Prop} (h : collaborators.SaysWithin inv during fails)

include h

theorem safe_setStage_of_saysWithin (stage : Stage) :
    (setStage stage : Action (Assistant σ) Unit).Safe inv anything fails :=
  .change fun assistant => h.stage assistant stage

theorem safe_utter_of_saysWithin (text : String) :
    (utter settings collaborators text).Safe inv anything
      fun failure => fails failure ∨ failure.kind.isA .speaker := by
  refine safe_iff_leads.mpr (.bind (fun _ => during)
    (h.mute.mono (fun _ => id) fun _ _ hends => ?_) fun _ => .bind_get fun assistant _ => ?_)
  · exact hends.mono (fun _ => id) fun _ hfails => ⟨hfails.1, Or.inl hfails.2⟩
  · have hspoken := safe_retry (h.speak assistant.stage (interruption settings) text) .speaker
      settings.retries
    refine .ensuring (safe_iff_leads.mp hspoken) fun outcome state hduring => ?_
    obtain ⟨hinv, hends⟩ := h.unmute state hduring.1
    exact hends.mono (fun _ _ => ⟨hinv, hduring.2⟩) fun _ hfails => ⟨hinv, Or.inl hfails⟩

theorem safe_say_of_saysWithin (text : String) :
    (say settings collaborators text).Safe inv anything fails := by
  refine .bind (safe_setStage_of_saysWithin h .speaking) fun _ _ =>
    .bind (safe_utter_of_saysWithin settings h text).attempt fun result hends =>
      .bind (safe_setStage_of_saysWithin h .idle) fun _ _ => ?_
  cases result with
  | ok outcome => exact .pure trivial
  | error failure =>
      dsimp only
      split
      · exact .pure trivial
      · rename_i hkind
        exact .throw (hends.resolve_right hkind)

/-- An answer is never the end of the assistant. -/
theorem safe_respond_of_saysWithin (text : String) :
    (respond settings collaborators text).Safe inv (·.isFatal = false) fails := by
  refine .bind (safe_say_of_saysWithin settings h text) fun outcome _ => ?_
  cases outcome with
  | some outcome => exact .pure rfl
  | none => exact .pure rfl

end Assistant

end SpokenCalculator
