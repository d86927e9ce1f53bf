import Ziggo.TimeSync.MDPdelayReqSM.History
import Ziggo.TimeSync.SyncLoop.SlavePeriod

/-!
# The two histories of samples

The peer delay initiator and the clock slave keep their last samples in circular
histories.  An index that is one behind the other may mean that a history is
empty, or that it is full, and a reset moves the head without clearing a slot.
-/

namespace Ziggo
namespace TimeSync

open Foundation History

/--
After any additions and resets both histories hold the last samples since the
last reset, as many as there are slots, with the two times of each at one index.
-/
theorem histories_keep_last_samples (memory : MDPdelayReqSM)
    (memory' : ClockSlaveSyncSM)
    (changes : List (Change (TsnDrivers.UScaledNs × TsnDrivers.UScaledNs))) :
    (changes.foldl MDPdelayReqSM.changePropTime
        (MDPdelayReqSM.initVars memory)).propTimeHistory.Keeps
          (sinceRestart changes) ∧
      (changes.foldl ClockSlaveSyncSM.changePeriod
        (ClockSlaveSyncSM.initVars memory')).periodHistory.Keeps
          (sinceRestart changes) := by
  constructor
  · rw [MDPdelayReqSM.propTimeHistory_foldl]
    exact (follows_foldl (MDPdelayReqSM.ready_initVars memory) rfl
      changes).keeps
  · rw [ClockSlaveSyncSM.periodHistory_foldl]
    exact (follows_foldl (ClockSlaveSyncSM.ready_initVars memory') rfl
      changes).keeps

end TimeSync
end Ziggo
