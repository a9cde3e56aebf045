import RemoteDebug.Proofs.Channel.Taking
import RemoteDebug.Proofs.Wire.StopMarkers
import RemoteDebug.Session.Watcher

/-!
# A round of the watcher

A round of the watcher goes through several atomic steps. What they come to together depends on
nothing but the outcome of the poll: `watchOnce_of_ok` and `watchOnce_of_error` say it, and
`watchOnce_channel` is what is left of it where only the channel matters.
-/

namespace RemoteDebug

open RemoteDebug.Wire

/-- Lines show a stop on their own exactly if a stop marker stands outside every block of them. -/
theorem WatchStage.showsStop_eq (lines : List String) :
    showsStop lines = stopsFrom false lines := by
  unfold showsStop
  rw [stopObserved_pushAll]
  rfl

/-- Behind a poll that succeeded the watcher marks the target only if the lines show a stop. -/
theorem WatchStage.showsStop_of_behindPoll {lines : List String}
    (h : behindPoll (.ok lines) = marking) : showsStop lines = true := by
  by_contra hnone
  rw [behindPoll, if_neg hnone] at h
  cases h

namespace World

variable {σ : Type}

/-- A round whose poll succeeded marks the target as stopped if the lines show a stop, and tells so
if the target was running; it ends the watcher if the target is then stopped. -/
theorem watchOnce_of_ok {world : World σ} {lines : List String} {channel : Channel σ}
    (h : world.channel.drain = (.ok lines, channel)) :
    world.watchOnce = { world with
      channel
      target := { world.target with stopped := world.target.stopped || stopsFrom false lines }
      watching := world.watching && !(world.target.stopped || stopsFrom false lines)
      events := world.events ++
        if stopsFrom false lines && !world.target.stopped then [.stopped] else [] } := by
  rcases world with ⟨before, ⟨first, second, last, stopped⟩, watching, tokensTaken, events⟩
  -- a poll that shows a stop is followed by marking, and by announcing if the target was running
  unfold watchOnce
  simp only [WatchStage.followUp, WatchStage.step] at h ⊢
  rw [h]
  simp only [WatchStage.behindPoll, WatchStage.showsStop_eq]
  cases stopsFrom false lines <;> cases stopped <;>
    simp [WatchStage.followUp, WatchStage.step, markStopped, announce, endWatchIfStopped]

/-- A round whose poll failed ends the watcher and tells why. -/
theorem watchOnce_of_error {world : World σ} {cause : Error} {channel : Channel σ}
    (h : world.channel.drain = (.error cause, channel)) :
    world.watchOnce = { world with
      channel
      watching := false
      events := world.events ++ [.watchFailed cause] } := by
  unfold watchOnce
  simp only [WatchStage.followUp, WatchStage.step]
  rw [h]
  simp [WatchStage.followUp, WatchStage.step, WatchStage.behindPoll, endWatch, announce,
    endWatchIfStopped]

/-- A round takes from the channel what a drain takes. -/
theorem watchOnce_channel (world : World σ) : world.watchOnce.channel = world.channel.drain.2 := by
  rcases h : world.channel.drain with ⟨_ | lines, channel⟩
  · rw [watchOnce_of_error h]
  · rw [watchOnce_of_ok h]

end World

end RemoteDebug
