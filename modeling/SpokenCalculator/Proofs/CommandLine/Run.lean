import SpokenCalculator.Proofs.CommandLine.Equipment

namespace SpokenCalculator

open SpokenCalculator.Action

namespace Session

open Assistant

def Attended (equipment : Equipment) (microphone : MicrophoneSettings)
    (windows : List (List (List Sample))) (left : Nat) (muted : Bool)
    (surroundings : Surroundings Session) : Prop :=
  surroundings.running = true ∧
    surroundings.world.Attends equipment microphone windows left muted

variable {equipment : Equipment} {microphone : MicrophoneSettings}
  {windows : List (List (List Sample))} {left : Nat}

theorem leads_inSurroundings {α : Type} {action : Action Session α} {pre : Session → Prop}
    {post : Except Failure α → Session → Prop} (h : action.Leads pre post) :
    (inSurroundings action).Leads
      (fun surroundings => surroundings.running = true ∧ pre surroundings.world)
      fun outcome surroundings =>
        surroundings.running = true ∧ post outcome surroundings.world :=
  fun surroundings hpre => ⟨hpre.1, h surroundings.world hpre.2⟩

theorem safe_inSurroundings {α : Type} {action : Action Session α} {inv : Session → Prop}
    {returns : α → Prop} {fails : Failure → Prop} (h : action.Safe inv returns fails) :
    (inSurroundings action).Safe
      (fun surroundings => surroundings.running = true ∧ inv surroundings.world) returns fails := by
  intro surroundings hinv
  obtain ⟨hafter, hends⟩ := h surroundings.world hinv.2
  exact ⟨⟨hinv.1, hafter⟩, hends⟩

theorem speaksWithin (hequipment : equipment.FailsAsHandled) :
    collaborators.SpeaksWithin (Attended equipment microphone windows left false)
      (Attended equipment microphone windows left true) equipment.Interrupts where
  mute := by
    refine (leads_inSurroundings leads_mute).mono (fun _ => id) ?_
    rintro _ surroundings ⟨hrunning, rfl, h⟩
    exact ⟨hrunning, h⟩
  unmute := by
    refine (leads_inSurroundings (leads_unmute hequipment)).mono (fun _ => id) ?_
    rintro _ surroundings ⟨hrunning, rfl, h⟩
    exact ⟨⟨hrunning, h⟩, trivial⟩
  speak _ _ text := safe_inSurroundings (safe_speak hequipment text)

section

def Settled (equipment : Equipment) (microphone : MicrophoneSettings)
    (assistant : Assistant Session) : Prop :=
  ∃ windows left, assistant.surroundings.world.Attends equipment microphone windows left false

/-- Why no turn takes its window, if it cannot be created. -/
def refusal? (microphone : MicrophoneSettings) (settings : Settings) : Option Failure :=
  Window.refusal? (MicrophoneSystem.windowRequest microphone settings.listenSeconds)

/-- A run ends because the microphone fails, or because no window can be created,
or because it is interrupted. -/
def ComesTo (equipment : Equipment) (microphone : MicrophoneSettings) (refusal : Option Failure)
    (outcome : Except Failure (Option TurnResult)) (assistant : Assistant Session) : Prop :=
  Settled equipment microphone assistant ∧
    Ends (fun last => refusal = none ∧ last.any TurnResult.isFatal)
      (fun failure => refusal = some failure ∨ equipment.Interrupts failure) outcome

variable {settings : Settings} (hequipment : equipment.FailsAsHandled)
  (hwait : MicrophoneSystem.IsWaitable microphone.timeout)
  (hrate : microphone.rate.truncate ≠ .ok 0)
  (hlow : 0 ≤ settings.spokenPlaces) (hhigh : settings.spokenPlaces ≤ 12)

include hequipment hwait hrate hlow hhigh

theorem leads_turn {windows : List (List (List Sample))} {left : Nat} :
    (turn settings collaborators).Leads
      (Holds (Attended equipment microphone windows left false))
      fun outcome assistant => Settled equipment microphone assistant ∧
        Ends
          (fun result => refusal? microphone settings = none ∧ (result.isFatal = false →
            ∃ fewer < left, assistant.Holds
              (Attended equipment microphone windows.tail fewer false)))
          (fun failure => refusal? microphone settings = some failure ∨
            equipment.Interrupts failure) outcome := by
  refine .bind_change (Holds (Attended equipment microphone windows left false))
    (fun _ h => h) (.bind_attempt (leads_ask (leads_inSurroundings (leads_capture hwait _)))
      fun result => ?_)
  cases result with
  | ok chunk =>
      rintro assistant ⟨hmemory, hrunning, hopens, htruncate, fewer, hfewer, h⟩
      have hsound : chunk.rate ≠ 0 := fun hzero => hrate (hzero ▸ htruncate)
      obtain ⟨hafter, hends⟩ := safe_listenTo (speaksWithin hequipment) hlow hhigh
        (safe_inSurroundings (safe_transcribe hequipment hsound)) assistant ⟨hmemory, hrunning, h⟩
      exact ⟨⟨_, _, hafter.2.2⟩, hends.mono
        (fun _ _ => ⟨hopens, fun _ => ⟨fewer, hfewer, hafter⟩⟩) fun _ => Or.inr⟩
  | error failure =>
      rintro assistant ⟨hmemory, hrunning, h, hkind⟩
      dsimp only
      split
      · rename_i hdevice
        rcases hkind with hrefused | ⟨hopens, -⟩
        · exact absurd hdevice (escapes_of_refusal hrefused).1
        · exact ⟨⟨_, _, h⟩, hopens, nofun⟩
      · rename_i hdevice
        refine ⟨⟨_, _, h⟩, ?_⟩
        rcases hkind with hrefused | ⟨-, hinterrupts⟩
        · exact Or.inl hrefused
        · exact Or.inr (hinterrupts.resolve_left hdevice)

/-- As long as fewer blocks are left than turns, the run ends by itself. -/
theorem leads_turns (limit : Nat) {windows : List (List (List Sample))} {left : Nat}
    (hleft : left < limit) (last : Option TurnResult) :
    (turns settings collaborators limit last).Leads
      (Holds (Attended equipment microphone windows left false))
      (ComesTo equipment microphone (refusal? microphone settings)) := by
  induction limit generalizing windows left last with
  | zero => exact absurd hleft (Nat.not_lt_zero left)
  | succ limit ih =>
      refine .bind_get fun assistant h => ?_
      rw [if_pos h.2.1]
      refine .bind (fun result assistant => refusal? microphone settings = none ∧
          Settled equipment microphone assistant ∧
          (result.isFatal = false → ∃ fewer < left, assistant.Holds
            (Attended equipment microphone windows.tail fewer false)))
        ((leads_turn hequipment hwait hrate hlow hhigh).mono (fun _ => id) ?_)
        fun result => .assuming fun hopens => ?_
      · rintro outcome assistant ⟨hsettled, hends⟩
        exact hends.mono (fun _ h => ⟨h.1, hsettled, h.2⟩) fun _ h => ⟨hsettled, h⟩
      · split
        · rename_i hfatal
          exact .pure fun assistant h => ⟨h.1, hopens, hfatal⟩
        · rename_i hfatal
          rintro assistant ⟨-, h⟩
          obtain ⟨fewer, hfewer, hnext⟩ := h (Bool.eq_false_of_not_eq_true hfatal)
          exact ih (by omega) (some result) assistant hnext

theorem leads_run (limit : Nat) {windows : List (List (List Sample))} {left : Nat}
    (hleft : left < limit) :
    (run settings collaborators limit).Leads
      (fun assistant => assistant.engine.memory.Held ∧
        assistant.surroundings.world.Attends equipment microphone windows left false)
      (ComesTo equipment microphone (refusal? microphone settings)) := by
  have hturns : (Action.ensuring (turns settings collaborators limit none) do
      setRunning false
      setStage .idle).Leads (Holds (Attended equipment microphone windows left false))
        (ComesTo equipment microphone (refusal? microphone settings)) :=
    .ensuring (leads_turns hequipment hwait hrate hlow hhigh limit hleft none) fun _ _ h => h
  refine .bind_change (Holds (Attended equipment microphone windows left false))
    (fun _ h => ⟨h.1, rfl, h.2⟩) (.bind_change
      (Holds (Attended equipment microphone windows left false)) (fun _ h => h) ?_)
  dsimp only
  split
  · refine .bind_safe (safe_say (speaksWithin hequipment) _) (fun failure hinterrupts state h => ?_)
      fun _ _ => hturns
    exact ⟨⟨_, _, h.2.2⟩, Or.inr hinterrupts⟩
  · exact hturns

end

end Session

end SpokenCalculator
