import SpokenCalculator.Audio.Window
import SpokenCalculator.Proofs.Result

namespace SpokenCalculator.Window

structure IsFresh (window : Window) : Prop where
  blocks : window.blocks = []
  held : window.held = 0
  trailingSilence : window.trailingSilence = 0
  hasSpeech : window.hasSpeech = false

structure IsMadeFor (request : WindowRequest) (window : Window) : Prop extends IsFresh window where
  maxSeconds : request.maxSeconds.isPositive = true
  policy : WindowPolicy.ofSetting? request.policy = some window.policy
  rate : request.rate.truncate = .ok window.rate
  threshold : window.threshold = request.threshold
  maxSamples : samplesIn window.rate request.maxSeconds = .ok window.maxSamples
  silenceSamples : samplesIn window.rate request.silenceSeconds = .ok window.silenceSamples

theorem isMadeFor_of_create {request : WindowRequest} {window : Window}
    (h : create request = .ok window) : window.IsMadeFor request := by
  unfold create at h
  dsimp only at h
  split at h
  · split at h <;> contradiction
  · rename_i hseconds
    split at h
    · contradiction
    · rename_i policy hpolicy
      obtain ⟨rate, hrate, h⟩ := bind_eq_ok.mp h
      obtain ⟨maxSamples, hmaxSamples, h⟩ := bind_eq_ok.mp h
      obtain ⟨silenceSamples, hsilenceSamples, h⟩ := bind_eq_ok.mp h
      rw [← Except.ok.inj h]
      exact ⟨⟨rfl, rfl, rfl, rfl⟩, by simpa using hseconds, hpolicy, mapError_eq_ok.mp hrate, rfl,
        hmaxSamples, hsilenceSamples⟩

theorem IsFresh.samples_eq_nil {window : Window} (h : window.IsFresh) : window.samples = [] := by
  rw [samples, h.blocks]
  rfl

theorem fit_eq_take (room : Int) (block : List Sample) :
    fit room block = block.take (fit room block).length := by
  unfold fit
  split
  · simp
  · split <;> simp

theorem samples_add (window : Window) (block : List Sample) :
    (window.add block).samples = window.samples ++ fit window.room block := by
  simp [samples, add]

end SpokenCalculator.Window
