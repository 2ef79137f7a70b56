import SpokenCalculator.Assistant.Settings

namespace SpokenCalculator

structure Monitor where
  heard : BinaryReal
  triggered : Bool
  deriving DecidableEq

/-- The time before the first poll, that between polls, and the least time of a
voice that interrupts. -/
structure MonitorTimes where
  guard : Quantity
  poll : Quantity
  least : Quantity

def Settings.monitorTimes (settings : Settings) : MonitorTimes :=
  ⟨settings.guardSeconds, settings.pollSeconds, settings.minSeconds⟩

namespace Monitor

def initial : Monitor := ⟨.zero, false⟩

/-- One poll: add to the time of the voice or start again, and look whether it
suffices. -/
def poll (times : MonitorTimes) (voice : Bool) (monitor : Monitor) : Monitor :=
  let heard := if voice then monitor.heard.add times.poll.toBinary else .zero
  ⟨heard, times.least.le (.binary heard)⟩

/-- Poll until the monitor triggers or there are no answers left, and count the
polls. -/
def watch (times : MonitorTimes) (monitor : Monitor) : List Bool → Monitor × Nat
  | [] => (monitor, 0)
  | voice :: rest =>
      let next := monitor.poll times voice
      if next.triggered then (next, 1)
      else
        let (last, count) := watch times next rest
        (last, count + 1)

/-- Watch until the given answers are used up and the level is asked for once
more, which hears nothing. The polls that used an answer are counted. -/
def watchAll (times : MonitorTimes) (voices : List Bool) : Monitor × Nat :=
  let (monitor, polls) := watch times initial (voices ++ [false])
  (monitor, min polls voices.length)

end Monitor

end SpokenCalculator
