import SpokenCalculator.Proofs.Action

namespace SpokenCalculator.Action

variable {σ α β : Type}

def Leads (pre : σ → Prop) (post : Except Failure α → σ → Prop) (action : Action σ α) : Prop :=
  ∀ state, pre state → post (action.perform state).1 (action.perform state).2

variable {inv pre : σ → Prop} {post : Except Failure α → σ → Prop} {action : Action σ α}

theorem Safe.leads {returns : α → Prop} {fails : Failure → Prop}
    (h : Safe inv returns fails action) (hpost : ∀ outcome state, inv state → post outcome state) :
    Leads inv post action :=
  fun state hstate => hpost _ _ (h state hstate).1

theorem safe_iff_leads {returns : α → Prop} {fails : Failure → Prop} :
    Safe inv returns fails action ↔
      Leads inv (fun outcome state => inv state ∧ Ends returns fails outcome) action := Iff.rfl

theorem Safe.leads_ends {returns : α → Prop} {fails : Failure → Prop}
    (h : Safe inv returns fails action) :
    Leads inv (fun outcome state =>
      Ends (fun _ => inv state) (fun failure => inv state ∧ fails failure) outcome) action := by
  intro state hstate
  obtain ⟨hinv, hends⟩ := h state hstate
  exact hends.mono (fun _ _ => hinv) fun _ hfails => ⟨hinv, hfails⟩

namespace Leads

theorem mono {stronger : σ → Prop} {weaker : Except Failure α → σ → Prop}
    (h : Leads pre post action) (hpre : ∀ state, stronger state → pre state)
    (hpost : ∀ outcome state, post outcome state → weaker outcome state) :
    Leads stronger weaker action :=
  fun state hstate => hpost _ _ (h state (hpre state hstate))

theorem assuming {fact : Prop} (h : fact → Leads pre post action) :
    Leads (fun state => fact ∧ pre state) post action :=
  fun state hpre => h hpre.1 state hpre.2

theorem for_some {ι : Type} {pre : ι → σ → Prop} (h : ∀ index, Leads (pre index) post action) :
    Leads (fun state => ∃ index, pre index state) post action :=
  fun state ⟨index, hpre⟩ => h index state hpre

theorem pure {value : α} (h : ∀ state, pre state → post (.ok value) state) :
    Leads pre post (pure value) := h

theorem throw {failure : Failure} (h : ∀ state, pre state → post (.error failure) state) :
    Leads pre post (throw failure : Action σ α) := h

theorem bind {first : Action σ β} {next : β → Action σ α} (middle : β → σ → Prop)
    (hfirst : Leads pre (fun outcome state =>
      Ends (middle · state) (fun failure => post (.error failure) state) outcome) first)
    (hnext : ∀ value, Leads (middle value) post (next value)) :
    Leads pre post (first >>= next) := by
  intro state hpre
  have hmiddle := hfirst state hpre
  rw [perform_bind]
  generalize first.perform state = result at hmiddle ⊢
  obtain ⟨outcome, after⟩ := result
  cases outcome with
  | ok value => exact hnext value after hmiddle
  | error failure => exact hmiddle

theorem bind_safe {first : Action σ β} {next : β → Action σ α} {returns : β → Prop}
    {fails : Failure → Prop} (hfirst : Safe pre returns fails first)
    (hfails : ∀ failure, fails failure → ∀ state, pre state → post (.error failure) state)
    (hnext : ∀ value, returns value → Leads pre post (next value)) :
    Leads pre post (first >>= next) := by
  refine bind (fun value state => returns value ∧ pre state) (fun state hpre => ?_)
    fun value => assuming (hnext value)
  obtain ⟨hafter, hends⟩ := hfirst state hpre
  exact hends.mono (fun _ hvalue => ⟨hvalue, hafter⟩) fun failure hfailure =>
    hfails failure hfailure _ hafter

theorem bind_attempt {first : Action σ β} {next : Except Failure β → Action σ α}
    {middle : Except Failure β → σ → Prop} (hfirst : Leads pre middle first)
    (hnext : ∀ result, Leads (middle result) post (next result)) :
    Leads pre post (attempt first >>= next) :=
  fun state hpre => hnext _ _ (hfirst state hpre)

/-- A clean-up that returns keeps the outcome of the action, and its own failure
takes the place of that. -/
theorem ensuring {cleanUp : Action σ Unit} {middle : Except Failure α → σ → Prop}
    (h : Leads pre middle action)
    (hcleanUp : ∀ outcome, Leads (middle outcome) (fun result state =>
      Ends (fun _ => post outcome state) (fun failure => post (.error failure) state) result)
        cleanUp) :
    Leads pre post (Action.ensuring action cleanUp) :=
  bind_attempt h fun outcome =>
    bind (fun _ => post outcome) (hcleanUp outcome) fun _ _ hpost => hpost

theorem bind_change {step : σ → σ} {next : Unit → Action σ α} (middle : σ → Prop)
    (hstep : ∀ state, pre state → middle (step state)) (hnext : Leads middle post (next ())) :
    Leads pre post (Action.change step >>= next) :=
  fun state hpre => hnext _ (hstep state hpre)

theorem bind_get {next : σ → Action σ α}
    (hnext : ∀ state, pre state → Leads pre post (next state)) :
    Leads pre post (MonadState.get >>= next) :=
  fun state hpre => hnext state hpre state hpre

theorem bind_ofResult {result : Except Failure β} {next : β → Action σ α}
    (hfails : ∀ failure, result = .error failure →
      ∀ state, pre state → post (.error failure) state)
    (hnext : ∀ value, result = .ok value → Leads pre post (next value)) :
    Leads pre post (Action.ofResult result >>= next) := by
  cases result with
  | ok value => exact hnext value rfl
  | error failure => exact hfails failure rfl

end Leads

end SpokenCalculator.Action
