import Ziggo.Foundation.CircularHistory
import Ziggo.TsnDrivers.Division
import Ziggo.TimeSync.MDPdelayReqSM.Invariant

/-!
# The samples of the peer delay initiator

Each exchange adds a sample of two times to a circular history: the time at
which the peer sent its answer and the time at which it was received here.  Two
parallel arrays hold the components.  The history is reset if the rate ratio it
shows is out of range.
-/

namespace Ziggo
namespace TimeSync

open Foundation TsnDrivers

namespace MDPdelayReqSM

open MDPdelayReqSMState History

def propTimeHistory (sm : MDPdelayReqSM) :
    History (UScaledNs × UScaledNs) maxLength where
  slots i := (sm.lCorrectedResponderEventTimestamp i,
    sm.lPdelayRespEventIngressTimestamp i)
  head := sm.listHeadPropTime
  tail := sm.listTailPropTime
  isEmpty := sm.isEmptyPropTime

/-- The operands of the division that `computePdelayRateRatio` makes, if any. -/
def ratioOperands (sm : MDPdelayReqSM) : Option (UScaledNs × UScaledNs) :=
  if sm.isEmptyPropTime ∨ sm.listTailPropTime = sm.listHeadPropTime then
    none
  else
    some
      (uscalednsSubtract
        (sm.lCorrectedResponderEventTimestamp sm.listTailPropTime)
        (sm.lCorrectedResponderEventTimestamp sm.listHeadPropTime),
      uscalednsSubtract
        (sm.lPdelayRespEventIngressTimestamp sm.listTailPropTime)
        (sm.lPdelayRespEventIngressTimestamp sm.listHeadPropTime))

/-- The reset in `computePdelayRateRatio`, behind the test for two samples. -/
def resetPropTime (sm : MDPdelayReqSM) : MDPdelayReqSM :=
  if sm.isEmptyPropTime ∨ sm.listTailPropTime = sm.listHeadPropTime then
    sm
  else
    { sm with listHeadPropTime := sm.listTailPropTime }

def changePropTime (sm : MDPdelayReqSM)
    (c : Change (UScaledNs × UScaledNs)) : MDPdelayReqSM :=
  match c with
  | .record (t3, t4) =>
      mdPdelayAddRespAndRespFollowUpTimestamp { sm with t3 := t3, t4 := t4 }
  | .restart => sm.resetPropTime

/-- The variables that `init_md_pdelay_req_sm` runs the machine with. -/
def initVars (memory : MDPdelayReqSM) : MDPdelayReqSM :=
  { memory with
    portEnabled0 := true
    listHeadPropTime := 0
    listTailPropTime := Fin.last _
    isEmptyPropTime := true }

section History

variable {sm sm' : MDPdelayReqSM}

theorem propTimeHistory_add (sm : MDPdelayReqSM) :
    sm.mdPdelayAddRespAndRespFollowUpTimestamp.propTimeHistory =
      sm.propTimeHistory.record (sm.t3, sm.t4) := by
  exact congrArg
    (fun slots => (⟨slots, _, _, _⟩ : History (UScaledNs × UScaledNs) maxLength))
    (update_pair sm.lCorrectedResponderEventTimestamp
      sm.lPdelayRespEventIngressTimestamp (sm.listTailPropTime + 1) sm.t3 sm.t4)

theorem propTimeHistory_resetPropTime (sm : MDPdelayReqSM) :
    sm.resetPropTime.propTimeHistory =
      sm.propTimeHistory.change .restart := by
  unfold resetPropTime History.change
  dsimp only
  by_cases hempty : sm.isEmptyPropTime = true
  · rw [if_pos (Or.inl hempty)]
    exact (if_pos hempty).symm
  · have hnonempty : ¬ sm.propTimeHistory.isEmpty = true := hempty
    rw [if_neg hnonempty]
    split
    case isTrue hsame =>
      have htail : sm.listTailPropTime = sm.listHeadPropTime :=
        hsame.resolve_left hempty
      exact congrArg (fun head => { sm.propTimeHistory with head := head })
        htail.symm
    case isFalse => rfl

theorem propTimeHistory_changePropTime (sm : MDPdelayReqSM)
    (c : Change (UScaledNs × UScaledNs)) :
    (sm.changePropTime c).propTimeHistory = sm.propTimeHistory.change c := by
  cases c with
  | record sample =>
      obtain ⟨t3, t4⟩ := sample
      exact propTimeHistory_add { sm with t3 := t3, t4 := t4 }
  | restart => exact propTimeHistory_resetPropTime sm

theorem propTimeHistory_foldl (changes : List (Change (UScaledNs × UScaledNs)))
    (sm : MDPdelayReqSM) :
    (changes.foldl changePropTime sm).propTimeHistory =
      changes.foldl History.change sm.propTimeHistory := by
  induction changes generalizing sm with
  | nil => rfl
  | cons c changes ih =>
      rw [List.foldl_cons, List.foldl_cons, ih, propTimeHistory_changePropTime]

theorem ready_initVars (memory : MDPdelayReqSM) :
    (initVars memory).propTimeHistory.Ready := by
  have hround : (0 : Fin maxLength) = Fin.last _ + 1 := by decide
  exact fun _ => hround

/-!
## The rate ratio
-/

theorem computePdelayRateRatio_none (h : sm.ratioOperands = none) :
    sm.computePdelayRateRatio = .ok (1, sm.listHeadPropTime) := by
  unfold ratioOperands at h
  split at h
  case isTrue hnone => exact if_pos hnone
  case isFalse => cases h

theorem computePdelayRateRatio_some {t1 t2 : UScaledNs}
    (h : sm.ratioOperands = some (t1, t2)) :
    sm.computePdelayRateRatio = do
      let r <- uscalednsDiv t1 t2
      if |r - 1| > 1 / 1000 then
        return (1, sm.listTailPropTime)
      return (r, sm.listHeadPropTime) := by
  unfold ratioOperands at h
  split at h
  case isTrue => cases h
  case isFalse hsome =>
    cases h
    exact if_neg hsome

theorem reset_of_computePdelayRateRatio {r : Rat} {head : Fin maxLength}
    (h : sm.computePdelayRateRatio = .ok (r, head)) :
    { sm with listHeadPropTime := head } = sm ∨
      { sm with listHeadPropTime := head } = sm.resetPropTime := by
  cases hoperands : sm.ratioOperands with
  | none =>
      rw [computePdelayRateRatio_none hoperands] at h
      cases h
      exact Or.inl rfl
  | some operands =>
      rw [computePdelayRateRatio_some hoperands] at h
      obtain ⟨r', _, h⟩ := bind_eq_ok.mp h
      split at h
      · cases h
        right
        unfold ratioOperands at hoperands
        split at hoperands
        case isTrue => cases hoperands
        case isFalse hseveral => exact (if_neg hseveral).symm
      · cases h
        exact Or.inl rfl

theorem propTimeHistory_updateNeighborRateRatio
    (h : sm.updateNeighborRateRatio = .ok sm') :
    sm'.propTimeHistory = sm.propTimeHistory ∨
      sm'.propTimeHistory = sm.propTimeHistory.change .restart := by
  unfold updateNeighborRateRatio at h
  split at h
  case isFalse =>
    cases h
    exact Or.inl rfl
  case isTrue =>
    obtain ⟨⟨r, head⟩, hratio, h⟩ := bind_eq_ok.mp h
    cases h
    rw [← propTimeHistory_resetPropTime]
    rcases reset_of_computePdelayRateRatio hratio with hsame | hreset
    · have hhistory := congrArg propTimeHistory hsame
      exact Or.inl hhistory
    · have hhistory := congrArg propTimeHistory hreset
      exact Or.inr hhistory

theorem propTimeHistory_updateMeanLinkDelay
    (h : sm.updateMeanLinkDelay = .ok sm') :
    sm'.propTimeHistory = sm.propTimeHistory := by
  unfold updateMeanLinkDelay at h
  split at h
  case isFalse =>
    cases h
    rfl
  case isTrue =>
    obtain ⟨propTime, _, h⟩ := bind_eq_ok.mp h
    cases h
    rfl

theorem propTimeHistory_updateAsCapable (sm : MDPdelayReqSM)
    (resp : PTPMsgPdelayResp) :
    (updateAsCapable sm resp).propTimeHistory = sm.propTimeHistory := by
  unfold updateAsCapable
  dsimp only
  split_ifs <;> rfl

/-!
## Actions
-/

theorem propTimeHistory_measureDelay (h : sm.measureDelay = .ok sm') :
    sm'.propTimeHistory = sm.propTimeHistory ∨
      sm'.propTimeHistory = sm.propTimeHistory.record (sm.t3, sm.t4) ∨
      sm'.propTimeHistory =
        (sm.propTimeHistory.record (sm.t3, sm.t4)).restart := by
  unfold measureDelay at h
  split at h
  case isTrue =>
    cases h
    exact Or.inl rfl
  case isFalse =>
    obtain ⟨rated, hrated, h⟩ := bind_eq_ok.mp h
    obtain ⟨timed, htimed, h⟩ := bind_eq_ok.mp h
    obtain ⟨resp, _, h⟩ := bind_eq_ok.mp h
    cases h
    right
    rw [propTimeHistory_updateAsCapable]
    change timed.propTimeHistory = _ ∨ timed.propTimeHistory = _
    rw [propTimeHistory_updateMeanLinkDelay htimed, ← propTimeHistory_add]
    exact propTimeHistory_updateNeighborRateRatio hrated

theorem propTimeHistory_waitingForPdelayIntervalTimerAction
    (h : sm.waitingForPdelayIntervalTimerAction = .ok sm') :
    sm'.propTimeHistory = sm.propTimeHistory ∨
      sm'.propTimeHistory = sm.propTimeHistory.record (sm.t3, sm.t4) ∨
      sm'.propTimeHistory =
        (sm.propTimeHistory.record (sm.t3, sm.t4)).restart := by
  unfold waitingForPdelayIntervalTimerAction at h
  obtain ⟨measured, hmeasured, h⟩ := bind_eq_ok.mp h
  unfold freeMessages at h
  obtain ⟨req, _, h⟩ := bind_eq_ok.mp h
  obtain ⟨resp, _, h⟩ := bind_eq_ok.mp h
  obtain ⟨followUp, _, h⟩ := bind_eq_ok.mp h
  have hhistory := propTimeHistory_measureDelay hmeasured
  cases h
  exact hhistory

theorem propTimeHistory_action {ts : UScaledNs} {state : MDPdelayReqSMState}
    (hstate : state ≠ waitingForPdelayIntervalTimer)
    (h : action ts state sm = .ok sm') :
    sm'.propTimeHistory = sm.propTimeHistory := by
  cases state with
  | waitingForPdelayIntervalTimer => exact absurd rfl hstate
  | reset =>
      cases h
      unfold resetAction
      dsimp only
      split <;> rfl
  | _ =>
      cases h
      rfl

end History

end MDPdelayReqSM

end TimeSync
end Ziggo
