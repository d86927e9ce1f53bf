import Ziggo.Foundation.Simulation
import Ziggo.TimeSync.MDPdelayReqSM
import Ziggo.TimeSync.MDPdelayRespSM

/-!
# What the machines for the delays of the links see

The initiator and the responder of a port read few of the globals, and the only
globals of a port that the initiator writes are the delay and the rate ratio of
its link.
-/

namespace Ziggo
namespace TimeSync

open Foundation TsnDrivers

/-- The globals `x` of an instance with those from `g` that the machines read. -/
def besidePdelay (x g : PerPTPInstanceGlobal) : PerPTPInstanceGlobal :=
  { x with
    BEGIN := g.BEGIN
    thisClock := g.thisClock }

/-- The globals `x` of a port with those from `port` that the machines see. -/
def besidePdelayPort (x port : PerPortGlobal) : PerPortGlobal :=
  { x with
    portOper := port.portOper
    thisPort := port.thisPort
    asymmetryMeasurementMode := port.asymmetryMeasurementMode
    computeNeighborRateRatio := port.computeNeighborRateRatio
    computeMeanLinkDelay := port.computeMeanLinkDelay
    neighborRateRatio := port.neighborRateRatio
    meanLinkDelay := port.meanLinkDelay }

/-- The globals `x` of a port with those from `port` that a responder reads. -/
def besidePdelayRespPort (x port : PerPortGlobal) : PerPortGlobal :=
  { x with
    portOper := port.portOper
    thisPort := port.thisPort }

/-- The globals of an entity with the sequence number of another machine. -/
def besidePdelayEntity (syncSequenceId : UInt16) (g : MDEntityGlobal) :
    MDEntityGlobal :=
  { g with syncSequenceId := syncSequenceId }

variable {x : PerPTPInstanceGlobal} {p : PerPortGlobal} {id : UInt16}
  {ts : UScaledNs}

/-!
## The initiator
-/

namespace MDPdelayReqSM

open MDPdelayReqSMState

/-- The variables with other values of what lies beside the machine. -/
def beside (x : PerPTPInstanceGlobal) (p : PerPortGlobal) (id : UInt16)
    (sm : MDPdelayReqSM) : MDPdelayReqSM :=
  { sm with
    perPTPInstanceGlobal := besidePdelay x sm.perPTPInstanceGlobal
    perPortGlobal := besidePdelayPort p sm.perPortGlobal
    mdEntityGlobal := besidePdelayEntity id sm.mdEntityGlobal }

def Beside (x : PerPTPInstanceGlobal) (p : PerPortGlobal) (id : UInt16)
    (v w : MDPdelayReqSM) : Prop :=
  w = v.beside x p id

theorem Beside.process {v w : MDPdelayReqSM} (h : Beside x p id v w) :
    w.process = v.process := by
  obtain rfl := h
  rfl

theorem beside_resetAction (sm : MDPdelayReqSM) :
    (sm.beside x p id).resetAction = sm.resetAction.beside x p id := by
  unfold resetAction
  dsimp only
  rw [apply_ite (beside x p id)]
  rfl

theorem beside_updateAsCapable (sm : MDPdelayReqSM) (resp : PTPMsgPdelayResp) :
    (sm.beside x p id).updateAsCapable resp =
      (sm.updateAsCapable resp).beside x p id := by
  unfold updateAsCapable
  dsimp only
  rw [apply_ite (beside x p id), apply_ite (beside x p id),
    apply_ite (beside x p id)]
  rfl

theorem beside_updateNeighborRateRatio (sm : MDPdelayReqSM) :
    Outcomes (Beside x p id) sm.updateNeighborRateRatio
      (sm.beside x p id).updateNeighborRateRatio :=
  .ite Iff.rfl (.bind_same fun _ => .ok rfl) (.ok rfl)

theorem beside_updateMeanLinkDelay (sm : MDPdelayReqSM) :
    Outcomes (Beside x p id) sm.updateMeanLinkDelay
      (sm.beside x p id).updateMeanLinkDelay :=
  .ite Iff.rfl (.bind_same fun _ => .ok rfl) (.ok rfl)

theorem beside_measureDelay (sm : MDPdelayReqSM) :
    Outcomes (Beside x p id) sm.measureDelay (sm.beside x p id).measureDelay := by
  refine .ite Iff.rfl (.ok rfl) (.bind
    (beside_updateNeighborRateRatio
      sm.mdPdelayAddRespAndRespFollowUpTimestamp) ?_)
  rintro v _ rfl
  refine .bind (beside_updateMeanLinkDelay v) ?_
  rintro v _ rfl
  exact .bind_same fun resp => .ok (beside_updateAsCapable
    { v with
      mdEntityGlobal := { v.mdEntityGlobal with isMeasuringDelay := true } }
    resp)

theorem beside_freeMessages (sm : MDPdelayReqSM) :
    Outcomes (Beside x p id) sm.freeMessages (sm.beside x p id).freeMessages :=
  .bind_same fun _ => .bind_same fun _ => .bind_same fun _ => .ok rfl

theorem beside_action (s : MDPdelayReqSMState) (sm : MDPdelayReqSM) :
    Outcomes (Beside x p id) (action ts s sm)
      (action ts s (sm.beside x p id)) := by
  cases s with
  | init => exact .ok rfl
  | notEnabled => exact .ok rfl
  | initialSendPdelayReq => exact .ok rfl
  | waitingForPdelayResp => exact .ok rfl
  | waitingForPdelayRespFollowUp => exact .ok rfl
  | waitingForPdelayIntervalTimer =>
      refine .bind (beside_measureDelay _) ?_
      rintro v _ rfl
      exact beside_freeMessages v
  | reset => exact .ok (beside_resetAction sm)
  | sendPdelayReq => exact .ok rfl

theorem simulates_beside :
    Program.Simulates (Beside x p id) (behaviour ts).program
      (behaviour ts).program := by
  refine Behaviour.simulates ?_ ?_ ?_ ?_
  · rintro s v _ rfl
    exact beside_action s v
  · rintro s v _ rfl
    cases s <;> rfl
  · rintro v _ rfl
    rfl
  · rintro f v _ rfl
    rfl

/-- What lies beside the two globals of the port that the machine writes. -/
structure Rest where
  perPTPInstanceGlobal : PerPTPInstanceGlobal
  perPortGlobal : PerPortGlobal
  syncSequenceId : UInt16

def rest (sm : MDPdelayReqSM) : Rest where
  perPTPInstanceGlobal := sm.perPTPInstanceGlobal
  perPortGlobal :=
    { sm.perPortGlobal with
      neighborRateRatio := 0
      meanLinkDelay := default }
  syncSequenceId := sm.mdEntityGlobal.syncSequenceId

theorem rest_updateAsCapable (sm : MDPdelayReqSM) (resp : PTPMsgPdelayResp) :
    (sm.updateAsCapable resp).rest = sm.rest := by
  unfold updateAsCapable
  dsimp only
  split_ifs <;> rfl

theorem rest_updateNeighborRateRatio {sm sm' : MDPdelayReqSM}
    (h : sm.updateNeighborRateRatio = .ok sm') : sm'.rest = sm.rest := by
  unfold updateNeighborRateRatio at h
  split at h
  · obtain ⟨_, _, hreturn⟩ := bind_eq_ok.mp h
    cases hreturn
    rfl
  · cases h
    rfl

theorem rest_updateMeanLinkDelay {sm sm' : MDPdelayReqSM}
    (h : sm.updateMeanLinkDelay = .ok sm') : sm'.rest = sm.rest := by
  unfold updateMeanLinkDelay at h
  split at h
  · obtain ⟨_, _, hreturn⟩ := bind_eq_ok.mp h
    cases hreturn
    rfl
  · cases h
    rfl

theorem rest_measureDelay {sm sm' : MDPdelayReqSM}
    (h : sm.measureDelay = .ok sm') : sm'.rest = sm.rest := by
  unfold measureDelay at h
  split at h
  · cases h
    rfl
  · obtain ⟨rated, hrated, h⟩ := bind_eq_ok.mp h
    obtain ⟨measured, hmeasured, h⟩ := bind_eq_ok.mp h
    obtain ⟨resp, _, h⟩ := bind_eq_ok.mp h
    cases h
    have hrate := rest_updateNeighborRateRatio hrated
    have hdelay : measured.rest = rated.rest :=
      rest_updateMeanLinkDelay hmeasured
    exact (rest_updateAsCapable
      { measured with
        mdEntityGlobal :=
          { measured.mdEntityGlobal with isMeasuringDelay := true } }
      resp).trans (hdelay.trans hrate)

theorem rest_action {s : MDPdelayReqSMState} {sm sm' : MDPdelayReqSM}
    (h : action ts s sm = .ok sm') : sm'.rest = sm.rest := by
  cases s with
  | waitingForPdelayIntervalTimer =>
      obtain ⟨measured, hmeasured, h⟩ := bind_eq_ok.mp h
      obtain ⟨_, _, h⟩ := bind_eq_ok.mp h
      obtain ⟨_, _, h⟩ := bind_eq_ok.mp h
      obtain ⟨_, _, h⟩ := bind_eq_ok.mp h
      cases h
      have hmeasure := rest_measureDelay hmeasured
      exact hmeasure
  | reset =>
      cases h
      unfold resetAction
      dsimp only
      split <;> rfl
  | _ =>
      cases h
      rfl

end MDPdelayReqSM

namespace MDPdelayReqMachine

open MDPdelayReqSM

theorem rest_run (m : MDPdelayReqMachine) :
    (m.run ts).vars.rest = m.vars.rest := by
  refine Behaviour.run_preserves (behaviour ts)
    (I := fun sm => sm.rest = m.vars.rest) ?_ ?_ ?_ ?_ passes rfl
  · intro s v v' hv haction
    exact (rest_action haction).trans hv
  · exact fun _ _ _ hv _ => hv
  · exact fun _ _ _ hv _ => hv
  · exact fun _ hv => hv

theorem rest_init (memory : MDPdelayReqSM) :
    (initMdPdelayReqSm memory).vars.rest = memory.rest :=
  rest_run _

/-- The calls write two globals of the port, and none of the instance. -/
theorem rest_step (m : MDPdelayReqMachine) (e : Event) :
    (m.step e).vars.rest = m.vars.rest := by
  unfold step
  split
  · rfl
  · cases e with
    | run ts => exact rest_run m
    | txts ts tsuTimestamp =>
        change (m.txts ts tsuTimestamp).vars.rest = _
        unfold txts
        split
        · rfl
        · split
          · rfl
          · exact rest_run _
    | recvResp ts tsuTimestamp pdelayResp => exact rest_run _
    | recvRespFollowUp ts pdelayRespFollowUp => exact rest_run _

variable {m n : MDPdelayReqMachine}

theorem beside_run (h : m.Related (Beside x p id) n) :
    (m.run ts).Related (Beside x p id) (n.run ts) := by
  apply simulates_beside.run
  obtain ⟨hstate, hlast, hvars⟩ := h
  refine ⟨?_, hlast, hvars⟩
  unfold ready
  rw [hstate, hvars]
  rfl

theorem beside_init {v w : MDPdelayReqSM} (h : Beside x p id v w) :
    (initMdPdelayReqSm v).Related (Beside x p id) (initMdPdelayReqSm w) := by
  obtain rfl := h
  exact beside_run ⟨rfl, rfl, rfl⟩

theorem beside_txts (h : m.Related (Beside x p id) n)
    (tsuTimestamp : TSUTimestamp) :
    (m.txts ts tsuTimestamp).Related (Beside x p id)
      (n.txts ts tsuTimestamp) := by
  have hsequence : n.vars.pdelayReqSequenceId = m.vars.pdelayReqSequenceId := by
    rw [h.vars]
    rfl
  have hstored : Beside x p id (m.vars.storeTimestamp tsuTimestamp)
      (n.vars.storeTimestamp tsuTimestamp) := by
    rw [h.vars]
    rfl
  unfold txts
  rw [h.state, hsequence]
  split
  · exact h
  · split
    · exact h
    · exact beside_run ⟨rfl, h.lastState, hstored⟩

theorem beside_step (h : m.Related (Beside x p id) n) (e : Event) :
    (m.step e).Related (Beside x p id) (n.step e) := by
  have hstop : n.vars.process.stop = m.vars.process.stop := by
    rw [h.vars]
    rfl
  unfold step
  rw [hstop]
  split
  · exact h
  · cases e with
    | run ts => exact beside_run h
    | txts ts tsuTimestamp => exact beside_txts h tsuTimestamp
    | recvResp ts tsuTimestamp pdelayResp =>
        have hrun :
            (run { m with vars := m.vars.storeResp pdelayResp } ts).Related
              (Beside x p id)
              (run { n with vars := n.vars.storeResp pdelayResp } ts) :=
          beside_run ⟨h.state, h.lastState, by rw [h.vars]; rfl⟩
        exact ⟨hrun.state, hrun.lastState,
          congrArg (storeRespTimestamp · tsuTimestamp) hrun.vars⟩
    | recvRespFollowUp ts pdelayRespFollowUp =>
        exact beside_run ⟨h.state, h.lastState, by rw [h.vars]; rfl⟩

end MDPdelayReqMachine

/-!
## The responder
-/

namespace MDPdelayRespSM

open MDPdelayRespSMState

/-- The variables with other values of what lies beside the machine. -/
def beside (x : PerPTPInstanceGlobal) (p : PerPortGlobal)
    (sm : MDPdelayRespSM) : MDPdelayRespSM :=
  { sm with
    perPTPInstanceGlobal := besidePdelay x sm.perPTPInstanceGlobal
    perPortGlobal := besidePdelayRespPort p sm.perPortGlobal }

def Beside (x : PerPTPInstanceGlobal) (p : PerPortGlobal)
    (v w : MDPdelayRespSM) : Prop :=
  w = v.beside x p

theorem Beside.process {v w : MDPdelayRespSM} (h : Beside x p v w) :
    w.process = v.process := by
  obtain rfl := h
  rfl

theorem beside_txPdelayResp (sm : MDPdelayRespSM) :
    Outcomes (Beside x p) sm.txPdelayResp (sm.beside x p).txPdelayResp :=
  .bind_same fun _ => .ok rfl

theorem beside_txPdelayRespFollowUp (sm : MDPdelayRespSM) :
    Outcomes (Beside x p) sm.txPdelayRespFollowUp
      (sm.beside x p).txPdelayRespFollowUp :=
  .bind_same fun _ => .ok rfl

theorem beside_action (s : MDPdelayRespSMState) (sm : MDPdelayRespSM) :
    Outcomes (Beside x p) (action s sm) (action s (sm.beside x p)) := by
  cases s with
  | init => exact .ok rfl
  | notEnabled => exact .ok rfl
  | initialWaitingForPdelayReq => exact .ok rfl
  | sentPdelayRespWaitingForTimestamp =>
      exact .bind_same fun _ => beside_txPdelayResp _
  | waitingForPdelayReq =>
      refine .bind_same fun _ => .bind (beside_txPdelayRespFollowUp _) ?_
      rintro v _ rfl
      exact .bind_same fun _ => .bind_same fun _ => .bind_same fun _ => .ok rfl

theorem simulates_beside :
    Program.Simulates (Beside x p) behaviour.program behaviour.program := by
  refine Behaviour.simulates ?_ ?_ ?_ ?_
  · rintro s v _ rfl
    exact beside_action s v
  · rintro s v _ rfl
    cases s <;> rfl
  · rintro v _ rfl
    rfl
  · rintro f v _ rfl
    rfl

def globals (sm : MDPdelayRespSM) : PerPTPInstanceGlobal × PerPortGlobal :=
  (sm.perPTPInstanceGlobal, sm.perPortGlobal)

theorem globals_action {s : MDPdelayRespSMState} {sm sm' : MDPdelayRespSM}
    (h : action s sm = .ok sm') : sm'.globals = sm.globals := by
  cases s with
  | sentPdelayRespWaitingForTimestamp =>
      obtain ⟨_, _, h⟩ := bind_eq_ok.mp h
      obtain ⟨_, _, h⟩ := bind_eq_ok.mp h
      cases h
      rfl
  | waitingForPdelayReq =>
      obtain ⟨_, _, h⟩ := bind_eq_ok.mp h
      obtain ⟨_, hsent, h⟩ := bind_eq_ok.mp h
      obtain ⟨_, _, hsent⟩ := bind_eq_ok.mp hsent
      cases hsent
      obtain ⟨_, _, h⟩ := bind_eq_ok.mp h
      obtain ⟨_, _, h⟩ := bind_eq_ok.mp h
      obtain ⟨_, _, h⟩ := bind_eq_ok.mp h
      cases h
      rfl
  | _ =>
      cases h
      rfl

end MDPdelayRespSM

namespace MDPdelayRespMachine

open MDPdelayRespSM

theorem globals_run (m : MDPdelayRespMachine) :
    m.run.vars.globals = m.vars.globals := by
  refine Behaviour.run_preserves behaviour
    (I := fun sm => sm.globals = m.vars.globals) ?_ ?_ ?_ ?_ passes rfl
  · intro s v v' hv haction
    exact (globals_action haction).trans hv
  · exact fun _ _ _ hv _ => hv
  · exact fun _ _ _ hv _ => hv
  · exact fun _ hv => hv

theorem globals_init (memory : MDPdelayRespSM) :
    (initMdPdelayRespSm memory).vars.globals = memory.globals :=
  globals_run _

theorem globals_step (m : MDPdelayRespMachine) (e : Event) :
    (m.step e).vars.globals = m.vars.globals := by
  unfold step
  split
  · rfl
  · cases e with
    | txts tsuTimestamp =>
        change (m.txts tsuTimestamp).vars.globals = _
        unfold txts
        split
        · rfl
        · split
          · rfl
          · split
            · rfl
            · exact globals_run _
    | recvReq tsuTimestamp pdelayReq => exact globals_run _

variable {m n : MDPdelayRespMachine}

theorem beside_run (h : m.Related (Beside x p) n) :
    m.run.Related (Beside x p) n.run := by
  apply simulates_beside.run
  obtain ⟨hstate, hlast, hvars⟩ := h
  refine ⟨?_, hlast, hvars⟩
  unfold ready
  rw [hstate, hvars]
  rfl

theorem beside_init {v w : MDPdelayRespSM} (h : Beside x p v w) :
    (initMdPdelayRespSm v).Related (Beside x p) (initMdPdelayRespSm w) := by
  obtain rfl := h
  exact beside_run ⟨rfl, rfl, rfl⟩

theorem beside_txts (h : m.Related (Beside x p) n)
    (tsuTimestamp : TSUTimestamp) :
    (m.txts tsuTimestamp).Related (Beside x p) (n.txts tsuTimestamp) := by
  have hreq : n.vars.rcvdPdelayReqPtr = m.vars.rcvdPdelayReqPtr := by
    rw [h.vars]
    rfl
  have hstored : Beside x p (m.vars.storeTimestamp tsuTimestamp)
      (n.vars.storeTimestamp tsuTimestamp) := by
    rw [h.vars]
    rfl
  unfold txts
  rw [h.state, hreq]
  split
  · exact h
  · split
    · exact ⟨rfl, h.lastState, congrArg (halt _) h.vars⟩
    · split
      · exact h
      · exact beside_run ⟨rfl, h.lastState, hstored⟩

theorem beside_step (h : m.Related (Beside x p) n) (e : Event) :
    (m.step e).Related (Beside x p) (n.step e) := by
  have hstop : n.vars.process.stop = m.vars.process.stop := by
    rw [h.vars]
    rfl
  unfold step
  rw [hstop]
  split
  · exact h
  · cases e with
    | txts tsuTimestamp => exact beside_txts h tsuTimestamp
    | recvReq tsuTimestamp pdelayReq =>
        exact beside_run ⟨h.state, h.lastState, by rw [h.vars]; rfl⟩

end MDPdelayRespMachine

end TimeSync
end Ziggo
