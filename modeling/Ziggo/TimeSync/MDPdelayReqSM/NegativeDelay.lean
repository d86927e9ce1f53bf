import Ziggo.TsnDrivers.FixedPoint
import Ziggo.TsnDrivers.Multiplication
import Ziggo.TimeSync.MDPdelayReqSM.Completion

/-!
# Exits for a negative delay

`computePropTime` ends the process if the four timestamps of an exchange show a
negative delay.  Two of them are the word of the peer, and `t4` is stored after
the run that may use it.  This module determines the runs that end so, by what
is stored before each call and what the call brings.
-/

namespace Ziggo
namespace TimeSync

open Foundation TsnDrivers

namespace MDPdelayReqSM

open MDPdelayReqSMState BinaryFraction

/-!
## The rate ratio in use

What `computePdelayRateRatio` makes of the samples that are stored, once the
exchange at hand has been recorded as one more.
-/

/-- A difference of two times, modulo `2 ^ 96`. -/
def elapsed (since now : UScaledNs) : Nat :=
  (now.toNat + 2 ^ 96 - since.toNat) % 2 ^ 96

/-- The slot of the oldest sample, which gives way if the history is full. -/
def oldestSlot (sm : MDPdelayReqSM) : Fin maxLength :=
  if sm.isEmptyPropTime = false ∧
      sm.listHeadPropTime = sm.listTailPropTime + 1 then
    sm.listHeadPropTime + 1
  else
    sm.listHeadPropTime

def OnlySample (sm : MDPdelayReqSM) : Prop :=
  sm.oldestSlot = sm.listTailPropTime + 1

instance (sm : MDPdelayReqSM) : Decidable sm.OnlySample :=
  inferInstanceAs (Decidable (_ = _))

/-- The time since the oldest sample on the clock of the peer. -/
def peerElapsed (sm : MDPdelayReqSM) : Nat :=
  elapsed (sm.lCorrectedResponderEventTimestamp sm.oldestSlot) sm.t3

/-- The time since the oldest sample on the local clock. -/
def localElapsed (sm : MDPdelayReqSM) : Nat :=
  elapsed (sm.lPdelayRespEventIngressTimestamp sm.oldestSlot) sm.t4

/--
The quotient of the two, rounded down to a multiple of `2 ^ -32`.  It is one if
there is nothing to compare, and if it would be off by more than a thousandth.
-/
def sampledRatio (sm : MDPdelayReqSM) : Rat :=
  let r : Rat :=
    (2 ^ 32 * sm.peerElapsed / sm.localElapsed : Nat) / 2 ^ 32
  if sm.OnlySample ∨ sm.localElapsed = 0 ∨ |r - 1| > 1 / 1000 then 1 else r

/-- The ratio that the link delay is computed with. -/
def rateRatio (sm : MDPdelayReqSM) : Rat :=
  if sm.perPortGlobal.computeNeighborRateRatio then sm.sampledRatio else 1

/-- The division does not hang, since time has passed here if it has there. -/
def RatioReturns (sm : MDPdelayReqSM) : Prop :=
  sm.perPortGlobal.computeNeighborRateRatio = true -> ¬ sm.OnlySample ->
    sm.localElapsed = 0 -> sm.peerElapsed = 0

/--
The timestamps that are stored show a negative delay: the answer has come before
the request was sent, or the peer says that it took longer than the time in
between.  That time is measured in units of the peer: it is multiplied by the
ratio, rounded to 16 bits behind the point, with the limb that `uscaledns_mul`
misplaces.
-/
def ShowsNegative (sm : MDPdelayReqSM) : Prop :=
  sm.t4.toNat < sm.t1.toNat ∨
    misplaced ((sm.t4.toNat - sm.t1.toNat) * fixedPoint 16 sm.rateRatio) <
      elapsed sm.t2 sm.t3

/-- The link delay is going to be computed, and comes out negative. -/
def NegativeDelay (sm : MDPdelayReqSM) : Prop :=
  sm.perPortGlobal.asymmetryMeasurementMode = false ∧
    sm.perPortGlobal.computeMeanLinkDelay = true ∧
    sm.RatioReturns ∧
    sm.ShowsNegative

/-- A port that does not compute the ratio has one to work with. -/
def Unrated (sm : MDPdelayReqSM) : Prop :=
  sm.perPortGlobal.computeNeighborRateRatio = false ->
    sm.perPortGlobal.neighborRateRatio = 1

section Ratio

variable {sm : MDPdelayReqSM}

theorem toNat_subtract_elapsed (now since : UScaledNs) :
    (uscalednsSubtract now since).toNat = elapsed since now :=
  toNat_uscalednsSubtract now since

theorem ratioOperands_onlySample (h : sm.OnlySample) :
    sm.mdPdelayAddRespAndRespFollowUpTimestamp.ratioOperands = none :=
  if_pos (Or.inr h.symm)

theorem ratioOperands_several (h : ¬ sm.OnlySample) :
    sm.mdPdelayAddRespAndRespFollowUpTimestamp.ratioOperands =
      some
        (uscalednsSubtract sm.t3
          (sm.lCorrectedResponderEventTimestamp sm.oldestSlot),
        uscalednsSubtract sm.t4
          (sm.lPdelayRespEventIngressTimestamp sm.oldestSlot)) := by
  have hne : sm.oldestSlot ≠ sm.listTailPropTime + 1 := h
  have hhead :
      sm.mdPdelayAddRespAndRespFollowUpTimestamp.listHeadPropTime =
        sm.oldestSlot := rfl
  unfold ratioOperands
  rw [hhead, if_neg fun hnone => hnone.elim (by simp [
    mdPdelayAddRespAndRespFollowUpTimestamp]) fun hsame => hne hsame.symm]
  unfold mdPdelayAddRespAndRespFollowUpTimestamp
  dsimp only
  rw [Function.update_self, Function.update_self, Function.update_of_ne hne,
    Function.update_of_ne hne]

theorem replaced_ratio (q r : Rat) (tail head : Fin maxLength) :
    (exists newHead,
      (do
        let r <- (.ok q : Except Fault Rat)
        if |r - 1| > 1 / 1000 then
          return (1, tail)
        return (r, head)) = .ok (r, newHead)) <->
      r = if |q - 1| > 1 / 1000 then 1 else q := by
  change (exists newHead,
    (if |q - 1| > 1 / 1000 then .ok (1, tail) else .ok (q, head) :
      Except Fault (Rat × Fin maxLength)) = .ok (r, newHead)) <-> _
  split_ifs <;> simp [eq_comm]

theorem computePdelayRateRatio_add (r : Rat) :
    (exists head,
      sm.mdPdelayAddRespAndRespFollowUpTimestamp.computePdelayRateRatio =
        .ok (r, head)) <->
      (¬ sm.OnlySample -> sm.localElapsed = 0 -> sm.peerElapsed = 0) ∧
        r = sm.sampledRatio := by
  unfold sampledRatio
  dsimp only
  by_cases honly : sm.OnlySample
  · rw [computePdelayRateRatio_none (ratioOperands_onlySample honly),
      if_pos (Or.inl honly)]
    simp [honly, eq_comm]
  · rw [computePdelayRateRatio_some (ratioOperands_several honly)]
    by_cases hlocal : sm.localElapsed = 0
    · rw [if_pos (Or.inr (Or.inl hlocal))]
      by_cases hpeer : sm.peerElapsed = 0
      · rw [uscalednsDiv_zero ((toNat_subtract_elapsed _ _).trans hpeer)
          ((toNat_subtract_elapsed _ _).trans hlocal), replaced_ratio]
        simp [hpeer]
      · obtain ⟨f, hf⟩ := (uscalednsDiv_diverges_iff _ _).mpr
          ⟨(toNat_subtract_elapsed _ _).trans hlocal, fun hzero =>
            hpeer ((toNat_subtract_elapsed _ _).symm.trans hzero)⟩
        rw [hf]
        simp [bind, Except.bind, honly, hlocal, hpeer]
    · have hpos : 0 < (uscalednsSubtract sm.t4
          (sm.lPdelayRespEventIngressTimestamp sm.oldestSlot)).toNat := by
        rw [toNat_subtract_elapsed]
        exact Nat.pos_of_ne_zero hlocal
      rw [uscalednsDiv_ok hpos, replaced_ratio, toNat_subtract_elapsed,
        toNat_subtract_elapsed]
      change r = (if |((2 ^ 32 * sm.peerElapsed / sm.localElapsed : Nat) : Rat) /
        2 ^ 32 - 1| > 1 / 1000 then 1 else _) <-> _
      simp only [honly, hlocal, false_or, false_implies, implies_true, true_and]
      exact Iff.rfl

theorem rateRatio_near (sm : MDPdelayReqSM) :
    |sm.rateRatio - 1| ≤ 1 / 1000 := by
  have hone : |(1 : Rat) - 1| ≤ 1 / 1000 := by norm_num
  unfold rateRatio sampledRatio
  dsimp only
  split_ifs with hcompute hreplaced
  · exact hone
  · push Not at hreplaced
    exact hreplaced.right.right
  · exact hone

theorem updateNeighborRateRatio_add {rated : MDPdelayReqSM}
    (hunrated : sm.Unrated)
    (h : sm.mdPdelayAddRespAndRespFollowUpTimestamp.updateNeighborRateRatio =
      .ok rated) :
    sm.RatioReturns ∧ rated.perPortGlobal.neighborRateRatio = sm.rateRatio := by
  unfold updateNeighborRateRatio at h
  unfold RatioReturns rateRatio
  split at h
  case isTrue hcompute =>
    change sm.perPortGlobal.computeNeighborRateRatio = true at hcompute
    obtain ⟨⟨r, head⟩, hratio, h⟩ := bind_eq_ok.mp h
    obtain ⟨hreturns, hr⟩ := (computePdelayRateRatio_add r).mp ⟨head, hratio⟩
    cases h
    rw [if_pos hcompute]
    exact ⟨fun _ => hreturns, hr⟩
  case isFalse hcompute =>
    change ¬ sm.perPortGlobal.computeNeighborRateRatio = true at hcompute
    cases h
    rw [if_neg hcompute]
    exact ⟨fun h => absurd h hcompute, hunrated (by simpa using hcompute)⟩

theorem updateNeighborRateRatio_of_returns (h : sm.RatioReturns) :
    exists rated,
      sm.mdPdelayAddRespAndRespFollowUpTimestamp.updateNeighborRateRatio =
        .ok rated := by
  unfold updateNeighborRateRatio
  split
  case isTrue hcompute =>
    obtain ⟨head, hratio⟩ :=
      (computePdelayRateRatio_add sm.sampledRatio).mpr ⟨h hcompute, rfl⟩
    exact ⟨_, bind_eq_ok.mpr ⟨_, hratio, rfl⟩⟩
  case isFalse => exact ⟨_, rfl⟩

end Ratio

section Computations

variable {sm : MDPdelayReqSM}

/-- The tests of `computePropTime` fail. -/
def Rejected (sm : MDPdelayReqSM) : Prop :=
  sm.t4.toNat < sm.t1.toNat ∨
    (uscalednsMulDouble (uscalednsSubtract sm.t4 sm.t1)
      sm.perPortGlobal.neighborRateRatio).toNat <
        (uscalednsSubtract sm.t3 sm.t2).toNat

theorem computePropTime_exit_iff :
    sm.computePropTime = .error .exit <-> sm.Rejected := by
  unfold computePropTime Rejected
  simp only [uscalednsCompare_neg]
  by_cases hanswered : sm.t4.toNat < sm.t1.toNat
  · rw [if_pos hanswered]
    exact iff_of_true rfl (Or.inl hanswered)
  · rw [if_neg hanswered, or_iff_right hanswered]
    by_cases hturnaround :
        (uscalednsMulDouble (uscalednsSubtract sm.t4 sm.t1)
          sm.perPortGlobal.neighborRateRatio).toNat <
        (uscalednsSubtract sm.t3 sm.t2).toNat
    · rw [if_pos hturnaround]
      exact iff_of_true rfl hturnaround
    · rw [if_neg hturnaround]
      exact iff_of_false (fun h => (by cases h)) hturnaround

theorem updateNeighborRateRatio_ne_exit :
    sm.updateNeighborRateRatio ≠ .error .exit := by
  intro h
  rcases updateNeighborRateRatio_error h with h | h <;> cases h

theorem updateMeanLinkDelay_exit_iff :
    sm.updateMeanLinkDelay = .error .exit <->
      sm.perPortGlobal.computeMeanLinkDelay = true ∧ sm.Rejected := by
  unfold updateMeanLinkDelay
  split
  case isTrue hcompute =>
    rw [← computePropTime_exit_iff, bind_eq_error]
    constructor
    · rintro (h | ⟨_, _, h⟩)
      · exact ⟨hcompute, h⟩
      · cases h
    · exact fun h => Or.inl h.right
  case isFalse hcompute =>
    exact iff_of_false (fun h => (by cases h)) fun h => hcompute h.left

theorem measureDelay_exit_iff :
    sm.measureDelay = .error .exit <->
      sm.perPortGlobal.asymmetryMeasurementMode = false ∧
        exists rated,
          sm.mdPdelayAddRespAndRespFollowUpTimestamp.updateNeighborRateRatio =
              .ok rated ∧
            rated.perPortGlobal.computeMeanLinkDelay = true ∧
            rated.Rejected := by
  unfold measureDelay
  cases hmode : sm.perPortGlobal.asymmetryMeasurementMode with
  | true => exact iff_of_false (fun h => (by cases h)) fun h => (by cases h.left)
  | false =>
      rw [if_neg (by simp), bind_eq_error]
      simp only [true_and]
      constructor
      · rintro (h | ⟨rated, hrated, h⟩)
        · exact absurd h updateNeighborRateRatio_ne_exit
        · rcases bind_eq_error.mp h with h | ⟨measured, _, h⟩
          · exact ⟨rated, hrated, updateMeanLinkDelay_exit_iff.mp h⟩
          · rcases bind_eq_error.mp h with h | ⟨_, _, h⟩
            · cases Ptr.deref_eq_error h
            · cases h
      · rintro ⟨rated, hrated, h⟩
        refine Or.inr ⟨rated, hrated, bind_eq_error.mpr (Or.inl ?_)⟩
        exact updateMeanLinkDelay_exit_iff.mpr h

theorem toNat_uscalednsMulDouble_near (t : UScaledNs) {r : Rat}
    (hnear : |r - 1| ≤ 1 / 1000) :
    (uscalednsMulDouble t r).toNat = misplaced (t.toNat * fixedPoint 16 r) := by
  obtain ⟨hlow, hhigh⟩ := abs_le.mp hnear
  have hvalue : (uscalednsDouble r).toNat = fixedPoint 16 r :=
    toNat_uscalednsDouble (by norm_num; linarith)
  have hnarrow : fixedPoint 16 r < 2 ^ 32 := by
    have hunits := (abs_le.mp (fixedPoint_units 16 (r := r) (by linarith))).right
    have hscale : (2 : Rat) ^ 16 = 65536 := by norm_num
    rw [hscale] at hunits
    have hcast : (fixedPoint 16 r : Rat) < 2 ^ 32 := by linarith
    exact_mod_cast hcast
  unfold uscalednsMulDouble
  rw [toNat_uscalednsMul_of_narrow (hvalue ▸ hnarrow), hvalue]

theorem rejected_iff {rated : MDPdelayReqSM}
    (hratio : rated.perPortGlobal.neighborRateRatio = sm.rateRatio)
    (ht1 : rated.t1 = sm.t1) (ht2 : rated.t2 = sm.t2) (ht3 : rated.t3 = sm.t3)
    (ht4 : rated.t4 = sm.t4) : rated.Rejected <-> sm.ShowsNegative := by
  unfold Rejected ShowsNegative
  rw [ht1, ht2, ht3, ht4, hratio,
    toNat_uscalednsMulDouble_near _ (rateRatio_near sm),
    toNat_subtract_elapsed sm.t3]
  refine or_congr_right' fun hanswered => ?_
  rw [toNat_uscalednsSubtract_of_le (not_lt.mp hanswered)]

theorem measureDelay_exit_iff_negativeDelay (hunrated : sm.Unrated) :
    measureDelay
        { sm with rcvdPdelayRespFollowUp := false, lostResponses := 0 } =
      .error .exit <-> sm.NegativeDelay := by
  have hsame : forall {rated : MDPdelayReqSM},
      updateNeighborRateRatio (mdPdelayAddRespAndRespFollowUpTimestamp
        { sm with rcvdPdelayRespFollowUp := false, lostResponses := 0 }) =
          .ok rated ->
      RatioReturns sm ∧
        rated.perPortGlobal.computeMeanLinkDelay =
          sm.perPortGlobal.computeMeanLinkDelay ∧
        (rated.Rejected <-> sm.ShowsNegative) := by
    intro rated hrated
    obtain ⟨hreturns, hratio⟩ := @updateNeighborRateRatio_add
      { sm with rcvdPdelayRespFollowUp := false, lostResponses := 0 } rated
      hunrated hrated
    have hdata := exchangeData_updateNeighborRateRatio hrated
    have hsettings : rated.settings = sm.settings :=
      congrArg ExchangeData.settings hdata
    exact ⟨hreturns, congrArg Settings.computeMeanLinkDelay hsettings,
      rejected_iff hratio (congrArg ExchangeData.t1 hdata)
        (congrArg ExchangeData.t2 hdata) (congrArg ExchangeData.t3 hdata)
        (congrArg ExchangeData.t4 hdata)⟩
  rw [measureDelay_exit_iff]
  constructor
  · rintro ⟨hmode, rated, hrated, hcompute, hrejected⟩
    obtain ⟨hreturns, hcomputes, hiff⟩ := hsame hrated
    exact ⟨hmode, hcomputes.symm.trans hcompute, hreturns, hiff.mp hrejected⟩
  · rintro ⟨hmode, hcompute, hreturns, hnegative⟩
    obtain ⟨rated, hrated⟩ := @updateNeighborRateRatio_of_returns
      { sm with rcvdPdelayRespFollowUp := false, lostResponses := 0 } hreturns
    obtain ⟨_, hcomputes, hiff⟩ := hsame hrated
    exact ⟨hmode, rated, hrated, hcomputes.trans hcompute, hiff.mpr hnegative⟩

theorem action_exit_iff {ts : UScaledNs} {state : MDPdelayReqSMState} :
    action ts state sm = .error .exit <->
      state = waitingForPdelayIntervalTimer ∧
        measureDelay
          { sm with rcvdPdelayRespFollowUp := false, lostResponses := 0 } =
            .error .exit := by
  cases state with
  | waitingForPdelayIntervalTimer =>
      change sm.waitingForPdelayIntervalTimerAction = _ <-> _
      unfold waitingForPdelayIntervalTimerAction
      rw [bind_eq_error]
      constructor
      · rintro (h | ⟨_, _, h⟩)
        · exact ⟨rfl, h⟩
        · cases freeMessages_error h
      · exact fun h => Or.inl h.right
  | _ => exact iff_of_false (fun h => (by cases h)) fun h => (by cases h.left)

end Computations

/-!
## Ports that do not compute the ratio
-/

section Unrated

variable {sm sm' : MDPdelayReqSM}

theorem unrated_measureDelay (hunrated : sm.Unrated)
    (h : sm.measureDelay = .ok sm') : sm'.Unrated := by
  unfold measureDelay at h
  split at h
  case isTrue =>
    cases h
    exact hunrated
  case isFalse =>
    obtain ⟨rated, hrated, h⟩ := bind_eq_ok.mp h
    obtain ⟨measured, hmeasured, h⟩ := bind_eq_ok.mp h
    obtain ⟨resp, _, h⟩ := bind_eq_ok.mp h
    cases h
    have hrated' : rated.Unrated := by
      unfold updateNeighborRateRatio at hrated
      split at hrated
      case isTrue hcompute =>
        obtain ⟨⟨r, head⟩, _, hrated⟩ := bind_eq_ok.mp hrated
        cases hrated
        exact fun hnot => absurd (hcompute.symm.trans hnot) (by decide)
      case isFalse =>
        cases hrated
        exact hunrated
    have hmeasured' : measured.Unrated := by
      unfold updateMeanLinkDelay at hmeasured
      split at hmeasured
      case isTrue =>
        obtain ⟨propTime, _, hmeasured⟩ := bind_eq_ok.mp hmeasured
        cases hmeasured
        exact hrated'
      case isFalse =>
        cases hmeasured
        exact hrated'
    unfold updateAsCapable
    dsimp only
    split_ifs <;> exact hmeasured'

theorem unrated_action {ts : UScaledNs} {state : MDPdelayReqSMState}
    (hunrated : sm.Unrated) (h : action ts state sm = .ok sm') :
    sm'.Unrated := by
  cases state with
  | waitingForPdelayIntervalTimer =>
      obtain ⟨measured, hmeasured, h⟩ := bind_eq_ok.mp h
      have hmeasured' : measured.Unrated := @unrated_measureDelay
        { sm with rcvdPdelayRespFollowUp := false, lostResponses := 0 } measured
        hunrated hmeasured
      obtain ⟨req, _, h⟩ := bind_eq_ok.mp h
      obtain ⟨resp, _, h⟩ := bind_eq_ok.mp h
      obtain ⟨followUp, _, h⟩ := bind_eq_ok.mp h
      cases h
      exact hmeasured'
  | initialSendPdelayReq =>
      cases h
      exact fun _ => rfl
  | reset =>
      cases h
      unfold resetAction
      dsimp only
      split <;> exact hunrated
  | _ =>
      cases h
      exact hunrated

theorem unrated_attempt {ts : UScaledNs} {state : MDPdelayReqSMState}
    (hunrated : sm.Unrated) :
    (attempt halt sm (action ts state sm)).Unrated :=
  attempt_preserves (fun _ haction => unrated_action hunrated haction)
    (fun _ _ => hunrated)

end Unrated

end MDPdelayReqSM

namespace MDPdelayReqMachine

open MDPdelayReqSM

/-!
## Calls
-/

/--
The call does not complete an exchange with timestamps that show a negative
delay.  A call that brings the answer itself finds the `t4` of an earlier one.
-/
def Credible (m : MDPdelayReqMachine) (e : Event) : Prop :=
  Completes m e -> ¬ (received m e).NegativeDelay

theorem negativeDelay_of_evidence {sm sm' : MDPdelayReqSM}
    (h : sm'.evidence = sm.evidence) :
    sm'.NegativeDelay <-> sm.NegativeDelay := by
  have hsame : sm'.evidence.NegativeDelay <-> sm.evidence.NegativeDelay := by
    rw [h]
  exact hsame

section Calls

variable {m : MDPdelayReqMachine} {e : Event} {ts : UScaledNs}

theorem unrated_run (h : m.vars.Unrated) (ts : UScaledNs) :
    (m.run ts).vars.Unrated :=
  Program.run_preserves (behaviour ts).program (I := MDPdelayReqSM.Unrated)
    (fun _ _ hsm => unrated_attempt hsm) (fun _ _ _ hsm _ => hsm)
    (fun _ hsm => hsm) passes (m := m.ready) h

theorem unrated_runEntries (h : m.vars.Unrated) {state : MDPdelayReqSMState}
    {entry : MDPdelayReqSM} (hmem : (state, entry) ∈ m.runEntries ts) :
    entry.Unrated :=
  Program.entries_preserves (behaviour ts).program
    (I := MDPdelayReqSM.Unrated) (fun _ _ hsm => unrated_attempt hsm)
    (fun _ _ _ hsm _ => hsm) passes (m := m.ready) h state entry hmem

theorem unrated_step (h : m.vars.Unrated) (e : Event) :
    (step m e).vars.Unrated := by
  unfold step
  split
  · exact h
  · cases e with
    | run ts => exact unrated_run h ts
    | txts ts tsuTimestamp =>
        dsimp only [txts]
        split
        · exact h
        · split
          · exact h
          · exact @unrated_run
              { m with vars := m.vars.storeTimestamp tsuTimestamp } h ts
    | recvResp ts tsuTimestamp resp =>
        exact @unrated_run { m with vars := m.vars.storeResp resp } h ts
    | recvRespFollowUp ts followUp =>
        exact @unrated_run
          { m with vars := m.vars.storeRespFollowUp followUp } h ts

theorem unrated_of_entered (h : m.vars.Unrated) {state : MDPdelayReqSMState}
    {entry : MDPdelayReqSM} (hmem : (state, entry) ∈ entered m e) :
    entry.Unrated := by
  obtain ⟨ts, m0, hstarts, hentries⟩ := starts_of_entered hmem
  have hm0 : m0.vars.Unrated := by
    cases hstarts <;> exact h
  exact unrated_runEntries hm0 hentries

/-- A run fails to measure the delay of an exchange that it completes. -/
def FailsIn (entries : List (MDPdelayReqSMState × MDPdelayReqSM)) : Prop :=
  exists entry,
    (MDPdelayReqSMState.waitingForPdelayIntervalTimer, entry) ∈ entries ∧
      measureDelay
        { entry with rcvdPdelayRespFollowUp := false, lostResponses := 0 } =
          .error .exit

theorem run_exit_iff (ts : UScaledNs) (hrun : m.vars.process.stop = none) :
    (m.run ts).vars.process.stop = some .exit <->
      FailsIn (m.runEntries ts) := by
  have hready : m.ready.vars.process.stop = none := hrun
  refine (Behaviour.fault_run_iff (behaviour_records ts)
    (fun _ _ h => by cases transition_error h) (by decide) passes hready).trans ?_
  constructor
  · rintro ⟨state, entry, hmem, h⟩
    obtain ⟨rfl, hmeasure⟩ := action_exit_iff.mp h
    exact ⟨entry, hmem, hmeasure⟩
  · rintro ⟨entry, hmem, h⟩
    exact ⟨_, entry, hmem, (@action_exit_iff entry ts _).mpr ⟨rfl, h⟩⟩

/-- A call ends the process exactly if it finds a negative delay. -/
theorem step_exit_iff (e : Event) (hrun : m.vars.process.stop = none) :
    (step m e).vars.process.stop = some .exit <-> FailsIn (entered m e) := by
  have hnothing : m.vars.process.stop = some .exit <-> FailsIn [] := by
    unfold FailsIn
    rw [hrun]
    simp
  rw [step_running e hrun, entered_running e hrun]
  cases e with
  | run ts => exact run_exit_iff ts hrun
  | txts ts tsuTimestamp =>
      dsimp only [txts]
      split
      · exact hnothing
      · split
        · exact hnothing
        · exact @run_exit_iff
            { m with vars := m.vars.storeTimestamp tsuTimestamp } ts hrun
  | recvResp ts tsuTimestamp resp =>
      exact @run_exit_iff { m with vars := m.vars.storeResp resp } ts hrun
  | recvRespFollowUp ts followUp =>
      exact @run_exit_iff { m with vars := m.vars.storeRespFollowUp followUp }
        ts hrun

end Calls

/-!
## Whole runs
-/

section Runs

variable {memory : MDPdelayReqSM} {history : List Event}

theorem init_ne_exit (hrun : memory.process.stop = none) :
    (initMdPdelayReqSm memory).vars.process.stop ≠ some .exit := by
  intro h
  obtain ⟨entry, hmem, _⟩ := (run_exit_iff _ hrun).mp h
  have hstart : forall m : MDPdelayReqMachine, m.state = .init ->
      ¬ m.Quiescent -> forall ts,
      (MDPdelayReqSMState.waitingForPdelayIntervalTimer, entry) ∉
        m.runEntries ts := by
    intro m hstate hq ts
    by_cases henabled : m.vars.Enabled
    · exact runEntries_init hstate hq henabled
    · exact runEntries_not_enabled henabled entry
  exact hstart _ rfl (fun hq => (by cases hq)) _ hmem

/-- The first request of an enabled port is sent with a ratio of one. -/
theorem unrated_of_enabled
    (hrunning :
      (runEvents step (initMdPdelayReqSm memory) history).vars.process.stop =
        none)
    (henabled :
      (runEvents step (initMdPdelayReqSm memory) history).vars.Enabled) :
    (runEvents step (initMdPdelayReqSm memory) history).vars.Unrated := by
  have hinit : Enabled { memory with portEnabled0 := true } :=
    enabled_of_settings (settings_init memory).symm (enabled_runEvents henabled)
  have hfirst : (initMdPdelayReqSm memory).vars.process.stop ≠ none ∨
      (initMdPdelayReqSm memory).vars.Unrated := by
    by_cases hstart : (initMdPdelayReqSm memory).vars.process.stop = none
    · have hfresh : (initMdPdelayReqSm memory).vars.Fresh :=
        (fresh_run rfl (fun hq => (by cases hq)) hinit hstart).right
      exact Or.inr fun _ => hfresh.right.right.right
    · exact Or.inl hstart
  have hstep : forall (m : MDPdelayReqMachine) (e : Event),
      m.vars.process.stop ≠ none ∨ m.vars.Unrated ->
      (step m e).vars.process.stop ≠ none ∨ (step m e).vars.Unrated := by
    rintro m e (hstop | hunrated)
    · rw [step_stopped e hstop]
      exact Or.inl hstop
    · exact Or.inr (unrated_step hunrated e)
  exact (@run_invariant_always _ _ step _
    (fun m => m.vars.process.stop ≠ none ∨ m.vars.Unrated) hfirst hstep
    history).resolve_left (not_not.mpr hrunning)

theorem credible_iff (e : Event)
    (hrunning :
      (runEvents step (initMdPdelayReqSm memory) history).vars.process.stop =
        none) :
    Credible (runEvents step (initMdPdelayReqSm memory) history) e <->
      (step (runEvents step (initMdPdelayReqSm memory) history)
        e).vars.process.stop ≠ some .exit := by
  have hnegative : forall {entry : MDPdelayReqSM},
      (MDPdelayReqSMState.waitingForPdelayIntervalTimer, entry) ∈
        entered (runEvents step (initMdPdelayReqSm memory) history) e ->
      Completes (runEvents step (initMdPdelayReqSm memory) history) e ->
      (measureDelay
          { entry with rcvdPdelayRespFollowUp := false, lostResponses := 0 } =
            .error .exit <->
        (received (runEvents step (initMdPdelayReqSm memory) history)
          e).NegativeDelay) := by
    intro entry hmem hcompletes
    have hunrated := unrated_of_enabled hrunning hcompletes.right.left
    exact (measureDelay_exit_iff_negativeDelay
      (unrated_of_entered hunrated hmem)).trans
        (negativeDelay_of_evidence (evidence_of_entered hmem))
  rw [Ne, step_exit_iff e hrunning]
  constructor
  · rintro hcredible ⟨entry, hmem, hmeasure⟩
    have hcompletes := (completes_iff e).mpr ⟨entry, hmem⟩
    exact hcredible hcompletes ((hnegative hmem hcompletes).mp hmeasure)
  · intro hnone hcompletes hreceived
    obtain ⟨entry, hmem⟩ := (completes_iff e).mp hcompletes
    exact hnone ⟨entry, hmem, (hnegative hmem hcompletes).mpr hreceived⟩

/--
No run gets to an `exit` of `computePropTime` if none of its calls completes an
exchange with timestamps that show a negative delay, and only then.
-/
theorem exit_unreachable_iff (hrun : memory.process.stop = none)
    (events : List Event) :
    (forall history rest, events = history ++ rest ->
      (runEvents step (initMdPdelayReqSm memory) history).vars.process.stop ≠
        some .exit) <->
      Along step Credible (initMdPdelayReqSm memory) events := by
  constructor
  · intro h history e rest hevents
    by_cases hstop :
        (runEvents step (initMdPdelayReqSm memory) history).vars.process.stop =
          none
    · rw [credible_iff e hstop, ← runEvents_concat step]
      exact h (history ++ [e]) rest (by rw [hevents]; simp)
    · exact fun hcompletes => absurd hcompletes.left hstop
  · rintro h history rest rfl
    refine history_invariant
      (I := fun _ m => m.vars.process.stop ≠ some .exit) (init_ne_exit hrun) ?_
      h.prefix
    intro before e hbefore hcredible
    by_cases hstop :
        (runEvents step (initMdPdelayReqSm memory) before).vars.process.stop =
          none
    · exact (credible_iff e hstop).mp hcredible
    · rw [step_stopped e hstop]
      exact hbefore

end Runs

/-!
## A peer that takes too long

The messages of the run below arrive in order, and the timestamps of the
hardware are 0 for the request and 2 for the answer.  The peer says that it
took 100 nanoseconds to answer.
-/

/-- The timestamps of the hardware, in the order in which they are fetched. -/
def localTimestamps (events : List Event) : List UScaledNs :=
  events.filterMap fun e =>
    match e with
    | .txts _ tsuTimestamp => some tsuTimestamp.ts
    | .recvResp _ tsuTimestamp _ => some tsuTimestamp.ts
    | _ => none

/--
The timestamps of the hardware do not decrease, and no request has a later one
than an answer to it.
-/
def HardwareOrdered (events : List Event) : Prop :=
  (localTimestamps events).Pairwise (fun a b => a.toNat ≤ b.toNat) ∧
    forall tsReq tsResp reqTimestamp respTimestamp resp,
      .txts tsReq reqTimestamp ∈ events ->
      .recvResp tsResp respTimestamp resp ∈ events ->
      resp.head.sequenceId = reqTimestamp.sequenceID ->
      reqTimestamp.ts.toNat ≤ respTimestamp.ts.toNat

def lateFollowUp : PTPMsgPdelayRespFollowUp :=
  { respFollowUpTo 0 with
    responseOriginTimestamp :=
      { secondsMsb := 0, secondsLsb := 0, nanoseconds := 100 } }

def lateEvent : Event :=
  .recvRespFollowUp (atNs 3) lateFollowUp

theorem hardwareOrdered_late :
    HardwareOrdered (orderedHistory ++ [lateEvent]) := by
  constructor
  · change List.Pairwise _ [atNs 0, atNs 2]
    decide
  · intro tsReq tsResp reqTimestamp respTimestamp resp hreq hresp _
    simp only [orderedHistory, lateEvent, List.cons_append, List.nil_append,
      List.mem_cons, reduceCtorEq, List.not_mem_nil, or_false, false_or,
      Event.txts.injEq, Event.recvResp.injEq] at hreq hresp
    rw [hreq.right, hresp.right.left]
    decide

/-- The memory of the instance that computes its link delay. -/
def measuringMemory : MDPdelayReqSM :=
  { zeroedMemory with
    perPortGlobal :=
      { zeroedMemory.perPortGlobal with computeMeanLinkDelay := true } }

/-- The request has been sent and answered. -/
def lateMachine : MDPdelayReqMachine :=
  runEvents step (initMdPdelayReqSm measuringMemory) orderedHistory

theorem late_completes : Completes lateMachine lateEvent :=
  ⟨rfl, ⟨rfl, rfl, rfl⟩, rfl, rfl, rfl, respTo 0, rfl, Or.inr rfl⟩

/-- The peer says 100 nanoseconds where 2 have passed. -/
theorem late_negativeDelay : (received lateMachine lateEvent).NegativeDelay :=
  ⟨rfl, rfl, fun hcompute => (by cases hcompute), Or.inr (by decide +kernel)⟩

theorem late_peer_ends_process :
    ¬ forall (memory : MDPdelayReqSM) (events : List Event),
      memory.process.stop = none -> HardwareOrdered events ->
      forall history rest, events = history ++ rest ->
        (runEvents step (initMdPdelayReqSm memory) history).vars.process.stop ≠
          some .exit := by
  intro hall
  have hne := hall measuringMemory _ rfl hardwareOrdered_late
    (orderedHistory ++ [lateEvent]) [] (List.append_nil _).symm
  rw [runEvents_concat] at hne
  exact (credible_iff lateEvent rfl).mpr hne late_completes late_negativeDelay

/-- The peer answers at once, and says so. -/
def completedHistory : List Event :=
  orderedHistory ++ [.recvRespFollowUp (atNs 3) (respFollowUpTo 0)]

theorem completedHistory_credible :
    Along step Credible (initMdPdelayReqSm measuringMemory)
      completedHistory := by
  refine along_cons.mpr ⟨?_, along_cons.mpr ⟨?_, along_cons.mpr ⟨?_,
    along_nil _ _⟩⟩⟩
  · rintro ⟨_, _, _, _, _, hflag, _⟩
    cases hflag
  · rintro ⟨_, _, _, followUp, hhand, _⟩
    cases hhand.left
  · rintro _ ⟨_, _, _, hnegative⟩
    revert hnegative
    unfold ShowsNegative
    decide +kernel

theorem exit_unreachable_iff_completed :
    Along step Credible (initMdPdelayReqSm measuringMemory) completedHistory ∧
      (runEvents step (initMdPdelayReqSm measuringMemory)
        completedHistory).vars.process.stop ≠ some .exit :=
  ⟨completedHistory_credible,
    (@exit_unreachable_iff measuringMemory rfl completedHistory).mpr
      completedHistory_credible completedHistory [] (List.append_nil _).symm⟩

end MDPdelayReqMachine

end TimeSync
end Ziggo
