import Ziggo.Foundation.CircularHistory
import Ziggo.TimeSync.ClockSlaveSyncSM

/-!
# The samples of the clock slave

Each structure adds a sample of two times to a circular history: the time of the
master and the local time.  Two parallel arrays hold the components.  The history
is reset if the period is adjusted, or if its rate ratio is out of range.
-/

namespace Ziggo
namespace TimeSync

open Foundation TsnDrivers

namespace ClockSlaveSyncSM

open History

/-- The samples: the time of the master and the local time. -/
def periodHistory (sm : ClockSlaveSyncSM) :
    History (UScaledNs × UScaledNs) maxLength where
  slots i := (sm.lSyncReceiptTime i, sm.lSyncReceiptLocalTime i)
  head := sm.listHeadPeriod
  tail := sm.listTailPeriod
  isEmpty := sm.isEmptyPeriod

/-- The resets in `updateSlavePeriod`, behind its test for two samples. -/
def resetPeriod (sm : ClockSlaveSyncSM) : ClockSlaveSyncSM :=
  if sm.noInterval then
    sm
  else
    { sm with listHeadPeriod := sm.listTailPeriod }

def changePeriod (sm : ClockSlaveSyncSM)
    (c : Change (UScaledNs × UScaledNs)) : ClockSlaveSyncSM :=
  match c with
  | .record (syncReceiptTime, syncReceiptLocalTime) =>
      sm.addNewSyncReceiptTimeSyncReceiptLocalTime syncReceiptTime
        syncReceiptLocalTime
  | .restart => sm.resetPeriod

/-- The variables that `init_clock_slave_sync_sm` runs the machine with. -/
def initVars (memory : ClockSlaveSyncSM) : ClockSlaveSyncSM :=
  { memory with
    control := { state := .init, lastState := none }
    rcvdPSSyncPtrCSS := .null
    isEmptyPeriod := true
    listHeadPeriod := 0
    listTailPeriod := Fin.last _ }

theorem periodHistory_add (sm : ClockSlaveSyncSM)
    (syncReceiptTime syncReceiptLocalTime : UScaledNs) :
    (sm.addNewSyncReceiptTimeSyncReceiptLocalTime syncReceiptTime
        syncReceiptLocalTime).periodHistory =
      sm.periodHistory.record (syncReceiptTime, syncReceiptLocalTime) :=
  congrArg
    (fun slots => (⟨slots, _, _, _⟩ : History (UScaledNs × UScaledNs) maxLength))
    (update_pair sm.lSyncReceiptTime sm.lSyncReceiptLocalTime
      (sm.listTailPeriod + 1) syncReceiptTime syncReceiptLocalTime)

theorem noInterval_iff (sm : ClockSlaveSyncSM) :
    sm.noInterval = true <->
      sm.periodHistory.isEmpty = true ∨
        sm.periodHistory.head = sm.periodHistory.tail :=
  decide_eq_true_iff

theorem restart_of_interval {sm : ClockSlaveSyncSM}
    (h : ¬ sm.noInterval = true) :
    sm.periodHistory.change .restart = sm.periodHistory.restart :=
  if_neg fun hempty => h (sm.noInterval_iff.mpr (Or.inl hempty))

theorem periodHistory_resetPeriod (sm : ClockSlaveSyncSM) :
    sm.resetPeriod.periodHistory = sm.periodHistory.change .restart := by
  unfold resetPeriod
  split
  case isFalse hinterval => exact (restart_of_interval hinterval).symm
  case isTrue hnone =>
    unfold History.change
    dsimp only
    split
    case isTrue => rfl
    case isFalse hempty =>
      have hsame : sm.listHeadPeriod = sm.listTailPeriod :=
        (sm.noInterval_iff.mp hnone).resolve_left hempty
      exact congrArg (fun head => { sm.periodHistory with head := head }) hsame

theorem periodHistory_changePeriod (sm : ClockSlaveSyncSM)
    (c : Change (UScaledNs × UScaledNs)) :
    (sm.changePeriod c).periodHistory = sm.periodHistory.change c := by
  cases c with
  | record sample => exact sm.periodHistory_add sample.1 sample.2
  | restart => exact sm.periodHistory_resetPeriod

theorem periodHistory_foldl (changes : List (Change (UScaledNs × UScaledNs)))
    (sm : ClockSlaveSyncSM) :
    (changes.foldl changePeriod sm).periodHistory =
      changes.foldl History.change sm.periodHistory := by
  induction changes generalizing sm with
  | nil => rfl
  | cons c changes ih =>
      rw [List.foldl_cons, List.foldl_cons, ih, periodHistory_changePeriod]

theorem ready_initVars (memory : ClockSlaveSyncSM) :
    (initVars memory).periodHistory.Ready := by
  have hround : (0 : Fin maxLength) = Fin.last _ + 1 := by decide
  exact fun _ => hround

/-!
## Actions
-/

section Actions

variable {l : SyncLoop}

theorem periodHistory_adjustPeriod (r : Rat) (l : SyncLoop) :
    (adjustPeriod r l).clockSlaveSyncSm.periodHistory =
        l.clockSlaveSyncSm.periodHistory ∨
      (adjustPeriod r l).clockSlaveSyncSm.periodHistory =
        l.clockSlaveSyncSm.periodHistory.restart := by
  unfold adjustPeriod
  dsimp only
  split
  · exact Or.inl rfl
  · split
    · exact Or.inr rfl
    · exact Or.inr rfl

theorem periodHistory_updateSlavePeriod (l : SyncLoop) :
    (updateSlavePeriod l).clockSlaveSyncSm.periodHistory =
        l.clockSlaveSyncSm.periodHistory ∨
      (updateSlavePeriod l).clockSlaveSyncSm.periodHistory =
        l.clockSlaveSyncSm.periodHistory.change .restart := by
  unfold updateSlavePeriod
  dsimp only
  split
  case isTrue => exact Or.inl rfl
  case isFalse hinterval =>
    rw [restart_of_interval hinterval]
    cases uscalednsDiv _ _ with
    | error f => exact Or.inl rfl
    | ok r => exact periodHistory_adjustPeriod r _

end Actions

end ClockSlaveSyncSM

end TimeSync
end Ziggo
