import Ziggo.TimeSync.MDPdelayReqSM.Exchange

/-!
# Provenance of the four timestamps

The link delay is computed from four timestamps that arrive with different
events.  This module traces them back to the events they came from, and
determines the deliveries for which they belong to one exchange.
-/

namespace Ziggo
namespace TimeSync

open Foundation TsnDrivers

namespace MDPdelayReqSM

open MDPdelayReqSMState

/-!
## What a run keeps
-/

/--
No action writes `t2`, `t3` or `t4`, sets a flag of a received message, or
makes a pointer designate another message.
-/
structure Kept (sm sm' : MDPdelayReqSM) : Prop where
  t2 : sm'.t2 = sm.t2
  t3 : sm'.t3 = sm.t3
  t4 : sm'.t4 = sm.t4
  resp : forall resp, sm'.rcvdPdelayRespPtr = .live resp ->
    sm.rcvdPdelayRespPtr = .live resp
  rcvdPdelayResp : sm'.rcvdPdelayResp = true -> sm.rcvdPdelayResp = true
  followUp : sm'.rcvdPdelayRespFollowUp = true ->
    sm.rcvdPdelayRespFollowUp = true ∧
      sm'.rcvdPdelayRespFollowUpPtr = sm.rcvdPdelayRespFollowUpPtr

theorem Kept.refl (sm : MDPdelayReqSM) : Kept sm sm :=
  ⟨rfl, rfl, rfl, fun _ h => h, fun h => h, fun h => ⟨h, rfl⟩⟩

theorem Kept.trans {sm sm' sm'' : MDPdelayReqSM} (h : Kept sm sm')
    (h' : Kept sm' sm'') : Kept sm sm'' := by
  refine ⟨h'.t2.trans h.t2, h'.t3.trans h.t3, h'.t4.trans h.t4,
    fun resp hresp => h.resp resp (h'.resp resp hresp),
    fun hflag => h.rcvdPdelayResp (h'.rcvdPdelayResp hflag), fun hflag => ?_⟩
  have hmiddle := h'.followUp hflag
  have hfirst := h.followUp hmiddle.left
  exact ⟨hfirst.left, hmiddle.right.trans hfirst.right⟩

theorem free_not_live {Object : Type} {p p' : Ptr Object} (h : p.free = .ok p')
    (object : Object) : p' ≠ .live object := by
  cases p with
  | null =>
      cases h
      simp
  | live other =>
      cases h
      simp
  | released =>
      cases h

theorem resp_freeMessages {sm sm' : MDPdelayReqSM}
    (h : sm.freeMessages = .ok sm') (resp : PTPMsgPdelayResp) :
    sm'.rcvdPdelayRespPtr ≠ .live resp := by
  unfold freeMessages at h
  obtain ⟨freedReq, _, h⟩ := bind_eq_ok.mp h
  obtain ⟨freedResp, hfreed, h⟩ := bind_eq_ok.mp h
  obtain ⟨freedFollowUp, _, h⟩ := bind_eq_ok.mp h
  cases h
  exact free_not_live hfreed resp

theorem kept_waitingForPdelayIntervalTimerAction {sm sm' : MDPdelayReqSM}
    (h : sm.waitingForPdelayIntervalTimerAction = .ok sm') : Kept sm sm' := by
  have hdata := exchangeData_waitingForPdelayIntervalTimerAction h
  have hflag : sm'.rcvdPdelayResp = sm.rcvdPdelayResp :=
    congrArg ExchangeData.rcvdPdelayResp hdata
  have hcleared : sm'.rcvdPdelayRespFollowUp = false :=
    congrArg ExchangeData.rcvdPdelayRespFollowUp hdata
  unfold waitingForPdelayIntervalTimerAction at h
  obtain ⟨measured, _, h⟩ := bind_eq_ok.mp h
  refine ⟨congrArg ExchangeData.t2 hdata, congrArg ExchangeData.t3 hdata,
    congrArg ExchangeData.t4 hdata, fun resp hresp => ?_, fun htrue => ?_,
    fun htrue => ?_⟩
  · exact absurd hresp (resp_freeMessages h resp)
  · exact hflag.symm.trans htrue
  · rw [hcleared] at htrue
    cases htrue

theorem kept_action {ts : UScaledNs} {state : MDPdelayReqSMState}
    {sm sm' : MDPdelayReqSM} (h : action ts state sm = .ok sm') :
    Kept sm sm' := by
  cases state with
  | init | notEnabled =>
      cases h
      exact Kept.refl sm
  | waitingForPdelayIntervalTimer =>
      exact kept_waitingForPdelayIntervalTimerAction h
  | waitingForPdelayResp | sendPdelayReq =>
      cases h
      exact ⟨rfl, rfl, rfl, fun _ h => h, fun h => h, fun h => ⟨h, rfl⟩⟩
  | waitingForPdelayRespFollowUp =>
      cases h
      exact ⟨rfl, rfl, rfl, fun _ h => h, fun h => (by cases h),
        fun h => ⟨h, rfl⟩⟩
  | initialSendPdelayReq =>
      cases h
      exact ⟨rfl, rfl, rfl, fun _ h => h, fun h => (by cases h),
        fun h => (by cases h)⟩
  | reset =>
      cases h
      unfold resetAction
      dsimp only
      split <;>
        exact ⟨rfl, rfl, rfl, fun _ h => h, fun h => (by cases h),
          fun h => ⟨h, rfl⟩⟩

theorem kept_run (ts : UScaledNs) (fuel : Nat) (m : MDPdelayReqMachine) :
    Kept m.vars ((behaviour ts).program.run fuel m).vars := by
  apply Program.run_preserves (behaviour ts).program (I := Kept m.vars)
  · intro state sm hkept
    change Kept m.vars (attempt halt sm (action ts state sm))
    cases haction : action ts state sm with
    | error f =>
        exact hkept.trans
          ⟨rfl, rfl, rfl, fun _ h => h, fun h => h, fun h => ⟨h, rfl⟩⟩
    | ok sm' =>
        exact hkept.trans (kept_action haction)
  · intro state sm f hkept _
    exact hkept.trans
      ⟨rfl, rfl, rfl, fun _ h => h, fun h => h, fun h => ⟨h, rfl⟩⟩
  · intro sm hkept
    exact hkept.trans
      ⟨rfl, rfl, rfl, fun _ h => h, fun h => h, fun h => ⟨h, rfl⟩⟩
  · exact Kept.refl m.vars

/-!
## The way to the last state

A run starts in a state `s0` with variables `sm0`.  As long as it only goes
through waiting states, what it evaluates is what it started from.
-/

/-- What the waiting states pass on: all but the two flags that they clear. -/
def evidence (sm : MDPdelayReqSM) : MDPdelayReqSM :=
  { sm with rcvdPdelayResp := false, rcvdMDTimestampReceiveMDPReq := false }

theorem read_evidence {α : Type} {sm sm' : MDPdelayReqSM}
    (read : MDPdelayReqSM -> α) (h : sm'.evidence = sm.evidence) :
    read sm'.evidence = read sm.evidence :=
  congrArg read h

theorem answers_of_evidence {sm sm' : MDPdelayReqSM}
    (h : sm'.evidence = sm.evidence) {resp : PTPMsgPdelayResp}
    (hanswers : sm'.Answers resp) : sm.Answers resp := by
  have hsequenceId : sm'.pdelayReqSequenceId = sm.pdelayReqSequenceId :=
    read_evidence pdelayReqSequenceId h
  have hportId : sm'.portId = sm.portId := read_evidence portId h
  unfold Answers at *
  rw [← hsequenceId, ← hportId]
  exact hanswers

section Way

variable (ts : UScaledNs) (s0 : MDPdelayReqSMState) (sm0 : MDPdelayReqSM)

/-- The run starts with the timestamp that a sending state waits for. -/
def TimestampCame : Prop :=
  (s0 = initialSendPdelayReq ∨ s0 = sendPdelayReq) ∧
    sm0.rcvdMDTimestampReceiveMDPReq = true

/-- The run leaves the first waiting state with the answer at hand. -/
def AnswerTaken : Prop :=
  (TimestampCame s0 sm0 ∨ s0 = waitingForPdelayResp) ∧
    sm0.rcvdPdelayResp = true ∧
    exists resp, sm0.rcvdPdelayRespPtr = .live resp ∧ sm0.Answers resp

def Entering (state : MDPdelayReqSMState) (sm : MDPdelayReqSM) : Prop :=
  match state with
  | waitingForPdelayResp =>
      sm.evidence = sm0.evidence ∧ sm.rcvdPdelayResp = sm0.rcvdPdelayResp ∧
        TimestampCame s0 sm0
  | waitingForPdelayRespFollowUp =>
      sm.evidence = sm0.evidence ∧ AnswerTaken s0 sm0
  | waitingForPdelayIntervalTimer =>
      sm.evidence = sm0.evidence ∧ sm.intervalElapsed ts = false ∧
        sm.duplicateResp = .ok false ∧ sm.respFollowUpAccepted = .ok true ∧
        ((s0 = waitingForPdelayRespFollowUp ∧ sm = sm0) ∨ AnswerTaken s0 sm0)
  | _ => True

def Staying (state : MDPdelayReqSMState) (sm : MDPdelayReqSM) : Prop :=
  match state with
  | initialSendPdelayReq =>
      (s0 = initialSendPdelayReq ∧ sm = sm0) ∨ sm.NoTimestamp
  | sendPdelayReq => (s0 = sendPdelayReq ∧ sm = sm0) ∨ sm.NoTimestamp
  | waitingForPdelayResp =>
      sm.evidence = sm0.evidence ∧ sm.rcvdPdelayResp = sm0.rcvdPdelayResp ∧
        (TimestampCame s0 sm0 ∨ s0 = waitingForPdelayResp)
  | waitingForPdelayRespFollowUp =>
      sm.evidence = sm0.evidence ∧
        ((s0 = waitingForPdelayRespFollowUp ∧ sm = sm0) ∨ AnswerTaken s0 sm0)
  | _ => True

theorem staying_start : Staying s0 sm0 s0 sm0 := by
  cases s0 with
  | initialSendPdelayReq | sendPdelayReq =>
      exact Or.inl ⟨rfl, rfl⟩
  | waitingForPdelayResp =>
      exact ⟨rfl, rfl, Or.inr rfl⟩
  | waitingForPdelayRespFollowUp =>
      exact ⟨rfl, Or.inl ⟨rfl, rfl⟩⟩
  | _ => trivial

variable {ts s0 sm0}

theorem staying_action {state : MDPdelayReqSMState} {sm sm' : MDPdelayReqSM}
    (hbefore : Before state sm) (hentering : Entering ts s0 sm0 state sm)
    (h : action ts state sm = .ok sm') : Staying s0 sm0 state sm' := by
  cases state with
  | initialSendPdelayReq =>
      cases h
      exact Or.inr rfl
  | sendPdelayReq =>
      cases h
      exact Or.inr hbefore.right
  | waitingForPdelayResp =>
      cases h
      exact ⟨hentering.left, hentering.right.left, Or.inl hentering.right.right⟩
  | waitingForPdelayRespFollowUp =>
      cases h
      exact ⟨hentering.left, Or.inr hentering.right⟩
  | _ => trivial

theorem timestampCame_of_staying {state : MDPdelayReqSMState}
    {sm : MDPdelayReqSM}
    (hstate : state = initialSendPdelayReq ∨ state = sendPdelayReq)
    (hstaying : (s0 = state ∧ sm = sm0) ∨ sm.NoTimestamp)
    (hflag : sm.rcvdMDTimestampReceiveMDPReq = true) :
    sm = sm0 ∧ TimestampCame s0 sm0 := by
  rcases hstaying with ⟨rfl, rfl⟩ | hnone
  · exact ⟨rfl, hstate, hflag⟩
  · unfold NoTimestamp at hnone
    rw [hnone] at hflag
    cases hflag

theorem entering_transition {state next : MDPdelayReqSMState}
    {sm : MDPdelayReqSM} (hduring : During state sm)
    (hstaying : Staying s0 sm0 state sm)
    (h : transition ts state sm = .ok next) (hne : next ≠ state) :
    Entering ts s0 sm0 next sm := by
  cases state with
  | init =>
      cases h
      trivial
  | notEnabled =>
      cases notEnabled_left h hne
      trivial
  | initialSendPdelayReq =>
      rcases initialSendPdelayReq_left h hne with ⟨rfl, hflag⟩
      rcases timestampCame_of_staying (Or.inl rfl) hstaying hflag with
        ⟨rfl, hcame⟩
      exact ⟨rfl, rfl, hcame⟩
  | sendPdelayReq =>
      rcases sendPdelayReq_left h hne with ⟨rfl, hflag⟩
      rcases timestampCame_of_staying (Or.inr rfl) hstaying hflag with
        ⟨rfl, hcame⟩
      exact ⟨rfl, rfl, hcame⟩
  | waitingForPdelayResp =>
      rcases hstaying with ⟨hevidence, hflag, hway⟩
      rcases waitingForPdelayResp_cases hduring.right.left h with
        rfl | hstay | ⟨rfl, hreceived, resp, hresp, hanswers⟩
      · trivial
      · exact absurd hstay hne
      · have hptr : sm.rcvdPdelayRespPtr = sm0.rcvdPdelayRespPtr :=
          read_evidence rcvdPdelayRespPtr hevidence
        exact ⟨hevidence, hway, hflag.symm.trans hreceived, resp,
          hptr.symm.trans hresp, answers_of_evidence hevidence hanswers⟩
  | waitingForPdelayRespFollowUp =>
      rcases waitingForPdelayRespFollowUp_cases h with
        rfl | hstay | ⟨rfl, helapsed, hduplicate, haccepted⟩
      · trivial
      · exact absurd hstay hne
      · exact ⟨hstaying.left, helapsed, hduplicate, haccepted, hstaying.right⟩
  | waitingForPdelayIntervalTimer =>
      rcases waitingForPdelayIntervalTimer_left h hne with ⟨rfl, _⟩
      trivial
  | reset =>
      rcases reset_left h hne with ⟨rfl, _⟩
      trivial

end Way

/-- What the first request is sent with. -/
def Fresh (sm : MDPdelayReqSM) : Prop :=
  sm.NoTimestamp ∧ sm.rcvdPdelayResp = false ∧
    sm.rcvdPdelayRespFollowUp = false ∧ sm.perPortGlobal.neighborRateRatio = 1

end MDPdelayReqSM

namespace MDPdelayReqMachine

open MDPdelayReqSM

/-- The conditions of the annotation, together with the way of the run. -/
def way (ts : UScaledNs) (s0 : MDPdelayReqSMState) (sm0 : MDPdelayReqSM) :
    Program.Annotation (behaviour ts).program :=
  (behaviour ts).annotate
    (fun state sm =>
      (sm.Enabled ∧ Before state sm) ∧ Entering ts s0 sm0 state sm)
    (fun state sm => (sm.Enabled ∧ During state sm) ∧ Staying s0 sm0 state sm)
    (fun _ _ _ hpre h =>
      ⟨⟨enabled_of_settings (settings_action h) hpre.left.left,
          during_action hpre.left.right h⟩,
        staying_action hpre.left.right hpre.right h⟩)
    (fun _ _ _ hpost h hne =>
      ⟨⟨hpost.left.left, before_transition hpost.left.right h hne⟩,
        entering_transition hpost.left.right hpost.right h hne⟩)

section Way

variable {m : MDPdelayReqMachine} {ts : UScaledNs}

theorem way_holds (hq : m.Quiescent) (henabled : m.vars.Enabled)
    (hduring : During m.state m.vars) :
    (way ts m.state m.vars).Holds m :=
  ⟨fun _ => ⟨⟨henabled, hduring⟩, staying_start m.state m.vars⟩,
    fun h => absurd hq h⟩

theorem staying_run (hq : m.Quiescent) (henabled : m.vars.Enabled)
    (hduring : During m.state m.vars)
    (hrunning : (m.run ts).vars.process.stop = none) :
    Staying m.state m.vars (m.run ts).state (m.run ts).vars := by
  unfold run at *
  rw [ready_enabled henabled] at *
  exact ((way ts m.state m.vars).run_post passes
    (way_holds hq henabled hduring) hrunning).right.right

theorem entering_of_entries (hq : m.Quiescent) (henabled : m.vars.Enabled)
    (hduring : During m.state m.vars) {state : MDPdelayReqSMState}
    {sm : MDPdelayReqSM} (h : (state, sm) ∈ m.runEntries ts) :
    Before state sm ∧ Entering ts m.state m.vars state sm := by
  unfold runEntries at h
  rw [ready_enabled henabled] at h
  have hpre := (way ts m.state m.vars).entries_pre passes
    (way_holds hq henabled hduring) state sm h
  exact ⟨hpre.left.right, hpre.right⟩

end Way

/-!
## Ports that are not enabled
-/

/-- A run from the first states gets no further than the first request. -/
def opening (ts : UScaledNs) : Program.Annotation (behaviour ts).program :=
  (behaviour ts).annotate
    (fun state _ =>
      state = .init ∨ state = .notEnabled ∨ state = .initialSendPdelayReq)
    (fun state sm =>
      state = .init ∨ state = .notEnabled ∨
        (state = .initialSendPdelayReq ∧ sm.Fresh))
    (fun state sm sm' hpre h => by
      rcases hpre with rfl | rfl | rfl
      · exact Or.inl rfl
      · exact Or.inr (Or.inl rfl)
      · cases h
        exact Or.inr (Or.inr ⟨rfl, rfl, rfl, rfl, rfl⟩))
    (fun state sm next hpost h hne => by
      rcases hpost with rfl | rfl | ⟨rfl, hfresh⟩
      · cases h
        exact Or.inr (Or.inl rfl)
      · have hnext : transition ts .notEnabled sm = .ok next := h
        exact Or.inr (Or.inr (notEnabled_left hnext hne))
      · have hnext : transition ts .initialSendPdelayReq sm = .ok next := h
        have hnone : sm.rcvdMDTimestampReceiveMDPReq = false := hfresh.left
        rcases initialSendPdelayReq_left hnext hne with ⟨_, hflag⟩
        exact absurd (hnone.symm.trans hflag) (by decide))

theorem runEntries_not_enabled {m : MDPdelayReqMachine} {ts : UScaledNs}
    (h : ¬ m.vars.Enabled) (sm : MDPdelayReqSM) :
    (MDPdelayReqSMState.waitingForPdelayIntervalTimer, sm) ∉
      m.runEntries ts := by
  have hstate : m.ready.state = .notEnabled := by
    change m.vars.allStateTransition m.state = .notEnabled
    rw [allStateTransition, if_pos]
    unfold Enabled at h
    grind
  have hholds : (opening ts).Holds m.ready :=
    ⟨fun _ => Or.inr (Or.inl hstate), fun _ => Or.inr (Or.inl hstate)⟩
  intro hmem
  rcases (opening ts).entries_pre passes hholds _ sm hmem with
    hstate | hstate | hstate <;> cases hstate

theorem settings_attempt (ts : UScaledNs) (state : MDPdelayReqSMState)
    (sm : MDPdelayReqSM) :
    ((behaviour ts).program.action state sm).settings = sm.settings := by
  change (attempt halt sm (action ts state sm)).settings = sm.settings
  cases haction : action ts state sm with
  | error f =>
      rfl
  | ok sm' =>
      exact settings_action haction

theorem settings_run (m : MDPdelayReqMachine) (ts : UScaledNs) :
    (m.run ts).vars.settings = m.vars.settings := by
  apply Program.run_preserves (behaviour ts).program
    (I := fun sm => sm.settings = m.vars.settings)
  · intro state sm hsettings
    exact (settings_attempt ts state sm).trans hsettings
  · intro state sm f hsettings _
    exact hsettings
  · intro sm hsettings
    exact hsettings
  · rfl

theorem settings_runEntries {m : MDPdelayReqMachine} {ts : UScaledNs}
    {state : MDPdelayReqSMState} {sm : MDPdelayReqSM}
    (h : (state, sm) ∈ m.runEntries ts) : sm.settings = m.vars.settings := by
  refine Program.entries_preserves (behaviour ts).program
    (I := fun sm => sm.settings = m.vars.settings) ?_ ?_ passes ?_ state sm h
  · intro state sm hsettings
    exact (settings_attempt ts state sm).trans hsettings
  · intro state sm f hsettings _
    exact hsettings
  · rfl

theorem settings_step (m : MDPdelayReqMachine) (e : Event) :
    (step m e).vars.settings = m.vars.settings := by
  unfold step
  split
  · rfl
  · cases e with
    | run ts =>
        exact settings_run m ts
    | txts ts tsuTimestamp =>
        dsimp only [txts]
        split
        · rfl
        · split
          · rfl
          · exact settings_run
              { m with vars := m.vars.storeTimestamp tsuTimestamp } ts
    | recvResp ts tsuTimestamp pdelayResp =>
        exact settings_run { m with vars := m.vars.storeResp pdelayResp } ts
    | recvRespFollowUp ts pdelayRespFollowUp =>
        exact settings_run
          { m with vars := m.vars.storeRespFollowUp pdelayRespFollowUp } ts

theorem settings_runEvents (m : MDPdelayReqMachine) (es : List Event) :
    (runEvents step m es).vars.settings = m.vars.settings :=
  @run_invariant_always _ _ step m
    (fun n => n.vars.settings = m.vars.settings) rfl
    (fun n e h => (settings_step n e).trans h) es

/-!
## Links to the history

Whatever the machine may still use is linked to the event that it came with.
The links hold in every run; only what is accepted depends on the deliveries.
-/

/-- The response behind the pointer came with `t2` and `t4`. -/
def RespLinked (history : List Event) (sm : MDPdelayReqSM) : Prop :=
  exists ts tsuTimestamp resp, Event.recvResp ts tsuTimestamp resp ∈ history ∧
    sm.t2 = uscalednsPtpmsgtimestamp resp.requestReceiptTimestamp ∧
    sm.t4 = tsuTimestamp.ts ∧
    forall stored, sm.rcvdPdelayRespPtr = .live stored -> stored = resp

/-- The follow-up behind the pointer came with `t3`. -/
def FollowUpLinked (history : List Event) (sm : MDPdelayReqSM) : Prop :=
  exists ts followUp, Event.recvRespFollowUp ts followUp ∈ history ∧
    sm.rcvdPdelayRespFollowUpPtr = .live followUp ∧
    sm.t3 = uscalednsPtpmsgtimestamp followUp.responseOriginTimestamp

/-- `t1` came after everything was sent that has been sent now. -/
def TimestampLinked (start : MDPdelayReqMachine) (history : List Event)
    (sm : MDPdelayReqSM) : Prop :=
  exists before ts tsuTimestamp after,
    history = before ++ .txts ts tsuTimestamp :: after ∧
      (runEvents step start before).vars.process.sent = sm.process.sent ∧
      tsuTimestamp.sequenceID = sm.pdelayReqSequenceId ∧
      sm.t1 = tsuTimestamp.ts

section Links

variable {start : MDPdelayReqMachine} {history : List Event}
  {sm sm' : MDPdelayReqSM}

theorem RespLinked.kept (h : RespLinked history sm) (hkept : Kept sm sm') :
    RespLinked history sm' := by
  rcases h with ⟨ts, t, resp, hmem, ht2, ht4, hstored⟩
  exact ⟨ts, t, resp, hmem, hkept.t2.trans ht2, hkept.t4.trans ht4,
    fun stored h => hstored stored (hkept.resp stored h)⟩

theorem RespLinked.later (h : RespLinked history sm) (e : Event) :
    RespLinked (history ++ [e]) sm := by
  rcases h with ⟨ts, t, resp, hmem, hstored⟩
  exact ⟨ts, t, resp, List.mem_append_left [e] hmem, hstored⟩

theorem FollowUpLinked.kept (h : FollowUpLinked history sm)
    (hkept : Kept sm sm') (hflag : sm'.rcvdPdelayRespFollowUp = true) :
    FollowUpLinked history sm' := by
  rcases h with ⟨ts, followUp, hmem, hptr, ht3⟩
  exact ⟨ts, followUp, hmem, (hkept.followUp hflag).right.trans hptr,
    hkept.t3.trans ht3⟩

theorem FollowUpLinked.later (h : FollowUpLinked history sm) (e : Event) :
    FollowUpLinked (history ++ [e]) sm := by
  rcases h with ⟨ts, followUp, hmem, hstored⟩
  exact ⟨ts, followUp, List.mem_append_left [e] hmem, hstored⟩

theorem RespLinked.of_evidence (h : RespLinked history sm)
    (hevidence : sm'.evidence = sm.evidence) : RespLinked history sm' := by
  rcases h with ⟨ts, t, resp, hmem, ht2, ht4, hstored⟩
  have hptr : sm'.rcvdPdelayRespPtr = sm.rcvdPdelayRespPtr :=
    read_evidence rcvdPdelayRespPtr hevidence
  exact ⟨ts, t, resp, hmem, (read_evidence t2 hevidence).trans ht2,
    (read_evidence t4 hevidence).trans ht4,
    fun stored h => hstored stored (hptr.symm.trans h)⟩

theorem FollowUpLinked.of_evidence (h : FollowUpLinked history sm)
    (hevidence : sm'.evidence = sm.evidence) : FollowUpLinked history sm' := by
  rcases h with ⟨ts, followUp, hmem, hptr, ht3⟩
  exact ⟨ts, followUp, hmem,
    (read_evidence rcvdPdelayRespFollowUpPtr hevidence).trans hptr,
    (read_evidence t3 hevidence).trans ht3⟩

theorem TimestampLinked.of_evidence (h : TimestampLinked start history sm)
    (hevidence : sm'.evidence = sm.evidence) :
    TimestampLinked start history sm' := by
  rcases h with ⟨before, ts, t, after, hhistory, hsent, hsequenceId, ht1⟩
  exact ⟨before, ts, t, after, hhistory,
    hsent.trans (read_evidence (fun x => x.process.sent) hevidence).symm,
    hsequenceId.trans (read_evidence pdelayReqSequenceId hevidence).symm,
    (read_evidence t1 hevidence).trans ht1⟩

theorem TimestampLinked.later (h : TimestampLinked start history sm)
    (e : Event) : TimestampLinked start (history ++ [e]) sm := by
  rcases h with ⟨before, ts, t, after, hhistory, hstored⟩
  refine ⟨before, ts, t, after ++ [e], ?_, hstored⟩
  rw [hhistory]
  simp

end Links

/-- What has been evaluated and found wanting. -/
structure Settled (m : MDPdelayReqMachine) : Prop where
  resp : m.state = .waitingForPdelayResp -> m.vars.rcvdPdelayResp = false
  followUp : m.state = .waitingForPdelayRespFollowUp ->
    m.vars.duplicateResp = .ok false ∧ m.vars.respFollowUpAccepted = .ok false

structure Linked (start : MDPdelayReqMachine) (history : List Event)
    (m : MDPdelayReqMachine) : Prop extends AtRest m, Settled m where
  respLinked :
    m.vars.rcvdPdelayResp = true ∨ m.state = .waitingForPdelayRespFollowUp ->
      RespLinked history m.vars
  followUpLinked : m.vars.rcvdPdelayRespFollowUp = true ->
    FollowUpLinked history m.vars
  timestampLinked :
    m.state = .waitingForPdelayResp ∨
        m.state = .waitingForPdelayRespFollowUp ->
      TimestampLinked start history m.vars

section Run

variable {m : MDPdelayReqMachine} {ts : UScaledNs}

theorem settled_of_transition
    (h : transition ts m.state m.vars = .ok m.state) : Settled m := by
  refine ⟨fun hstate => ?_, fun hstate => ?_⟩
  · rw [hstate] at h
    change m.vars.waitingForPdelayRespStateTransition ts = _ at h
    by_contra hflag
    have hflag' : m.vars.rcvdPdelayResp = true := by simpa using hflag
    unfold waitingForPdelayRespStateTransition at h
    rw [hflag', if_pos rfl] at h
    split at h
    · cases h
    · obtain ⟨resp, _, h⟩ := bind_eq_ok.mp h
      obtain ⟨req, _, h⟩ := bind_eq_ok.mp h
      split at h <;> cases h
  · rw [hstate] at h
    change m.vars.waitingForPdelayRespFollowUpStateTransition ts = _ at h
    unfold waitingForPdelayRespFollowUpStateTransition at h
    split at h
    · cases h
    · obtain ⟨duplicate, hduplicate, h⟩ := bind_eq_ok.mp h
      split at h
      · cases h
      · rename_i hnot
        obtain ⟨accepted, haccepted, h⟩ := bind_eq_ok.mp h
        split at h
        · cases h
        · rename_i hnot'
          exact ⟨by rw [hduplicate]; simpa using hnot,
            by rw [haccepted]; simpa using hnot'⟩

theorem settled_run (hrunning : (m.run ts).vars.process.stop = none) :
    Settled (m.run ts) := by
  have hsettled :=
    (Program.run_settled (behaviour ts).program passes hrunning).right
  exact @settled_of_transition _ ts (Behaviour.transition_goto.mp hsettled)

theorem respInUse_run (hq : m.Quiescent) (henabled : m.vars.Enabled)
    (hduring : During m.state m.vars)
    (hrunning : (m.run ts).vars.process.stop = none)
    (h : (m.run ts).vars.rcvdPdelayResp = true ∨
      (m.run ts).state = .waitingForPdelayRespFollowUp) :
    m.vars.rcvdPdelayResp = true ∨
      m.state = .waitingForPdelayRespFollowUp := by
  rcases h with hflag | hstate
  · exact Or.inl ((kept_run ts passes m.ready).rcvdPdelayResp hflag)
  · have hstaying := staying_run hq henabled hduring hrunning
    rw [hstate] at hstaying
    rcases hstaying.right with ⟨hs0, _⟩ | htaken
    · exact Or.inr hs0
    · exact Or.inl htaken.right.left

theorem waiting_run (hq : m.Quiescent) (henabled : m.vars.Enabled)
    (hduring : During m.state m.vars)
    (hrunning : (m.run ts).vars.process.stop = none)
    (h : (m.run ts).state = .waitingForPdelayResp ∨
      (m.run ts).state = .waitingForPdelayRespFollowUp) :
    (m.run ts).vars.evidence = m.vars.evidence ∧
      (TimestampCame m.state m.vars ∨ m.state = .waitingForPdelayResp ∨
        m.state = .waitingForPdelayRespFollowUp) := by
  have hstaying := staying_run hq henabled hduring hrunning
  rcases h with hstate | hstate
  · rw [hstate] at hstaying
    exact ⟨hstaying.left, hstaying.right.right.imp_right Or.inl⟩
  · rw [hstate] at hstaying
    refine ⟨hstaying.left, ?_⟩
    rcases hstaying.right with ⟨hs0, _⟩ | htaken
    · exact Or.inr (Or.inr hs0)
    · exact htaken.left.imp_right Or.inl

theorem linked_run {start : MDPdelayReqMachine} {history : List Event}
    (hq : m.Quiescent) (henabled : m.vars.Enabled)
    (hduring : During m.state m.vars)
    (hrest : AtRest (m.run ts))
    (hresp : m.vars.rcvdPdelayResp = true ∨
        m.state = .waitingForPdelayRespFollowUp -> RespLinked history m.vars)
    (hfollowUp : m.vars.rcvdPdelayRespFollowUp = true ->
      FollowUpLinked history m.vars)
    (htimestamp : TimestampCame m.state m.vars ∨
        m.state = .waitingForPdelayResp ∨
        m.state = .waitingForPdelayRespFollowUp ->
      TimestampLinked start history m.vars) :
    Linked start history (m.run ts) := by
  have hkept : Kept m.vars (m.run ts).vars := kept_run ts passes m.ready
  refine ⟨hrest, settled_run hrest.running, fun huse => ?_, fun hflag => ?_,
    fun hstate => ?_⟩
  · exact (hresp (respInUse_run hq henabled hduring hrest.running huse)).kept
      hkept
  · exact (hfollowUp (hkept.followUp hflag).left).kept hkept hflag
  · have hwaiting := waiting_run hq henabled hduring hrest.running hstate
    exact (htimestamp hwaiting.right).of_evidence hwaiting.left

end Run

section Step

variable {start : MDPdelayReqMachine} {history : List Event}
  {m : MDPdelayReqMachine}

theorem Linked.later (h : Linked start history m) (e : Event) :
    Linked start (history ++ [e]) m :=
  ⟨h.toAtRest, h.toSettled, fun huse => (h.respLinked huse).later e,
    fun hflag => (h.followUpLinked hflag).later e,
    fun hstate => (h.timestampLinked hstate).later e⟩

/-- No timestamp has come that a run without one could take. -/
theorem AtRest.not_timestampCame (h : AtRest m) :
    ¬ TimestampCame m.state m.vars := by
  rintro ⟨hstate, hflag⟩
  rw [h.awaiting hstate] at hflag
  cases hflag

theorem Linked.timestampLinked_of (h : Linked start history m) (e : Event)
    (hwaiting : TimestampCame m.state m.vars ∨
      m.state = .waitingForPdelayResp ∨
      m.state = .waitingForPdelayRespFollowUp) :
    TimestampLinked start (history ++ [e]) m.vars := by
  rcases hwaiting with hcame | hstate
  · exact absurd hcame h.toAtRest.not_timestampCame
  · exact (h.timestampLinked hstate).later e

theorem Linked.step_txts (h : Linked start history m)
    (hm : m = runEvents step start history) {ts : UScaledNs}
    {tsuTimestamp : TSUTimestamp}
    (hstate : m.state = .initialSendPdelayReq ∨ m.state = .sendPdelayReq)
    (hsequenceId : tsuTimestamp.sequenceID = m.vars.pdelayReqSequenceId)
    (hrest : AtRest
      (run { m with vars := m.vars.storeTimestamp tsuTimestamp } ts)) :
    Linked start (history ++ [.txts ts tsuTimestamp])
      (run { m with vars := m.vars.storeTimestamp tsuTimestamp } ts) := by
  have hlinked : TimestampLinked start (history ++ [.txts ts tsuTimestamp])
      (m.vars.storeTimestamp tsuTimestamp) := by
    refine ⟨history, ts, tsuTimestamp, [], rfl, ?_, hsequenceId, rfl⟩
    rw [← hm]
    rfl
  refine @linked_run { m with vars := m.vars.storeTimestamp tsuTimestamp } ts
    start _ h.quiescent h.enabled
    (during_storeTimestamp tsuTimestamp hstate h.during) hrest
    (fun huse => ?_) (fun hflag => ?_) (fun _ => hlinked)
  · exact (h.respLinked huse).later _
  · exact (h.followUpLinked hflag).later _

theorem Linked.step_recvResp (h : Linked start history m) {ts : UScaledNs}
    (tsuTimestamp : TSUTimestamp) (pdelayResp : PTPMsgPdelayResp)
    (hrest : AtRest (run { m with vars := m.vars.storeResp pdelayResp } ts)) :
    Linked start (history ++ [.recvResp ts tsuTimestamp pdelayResp])
      (m.recvResp ts tsuTimestamp pdelayResp) := by
  have hkept : Kept (m.vars.storeResp pdelayResp)
      (run { m with vars := m.vars.storeResp pdelayResp } ts).vars :=
    kept_run ts passes (ready { m with vars := m.vars.storeResp pdelayResp })
  have hsettled := settled_run hrest.running
  have hduring : During m.state (m.vars.storeResp pdelayResp) :=
    during_storeResp pdelayResp h.during
  refine ⟨⟨hrest.running, hrest.quiescent, hrest.enabled,
      during_mono id id id id hrest.during, hrest.awaiting⟩,
    ⟨hsettled.resp, hsettled.followUp⟩, fun _ => ?_, fun hflag => ?_,
    fun hstate => ?_⟩
  · refine ⟨ts, tsuTimestamp, pdelayResp, by simp, hkept.t2, rfl, ?_⟩
    intro stored hstored
    exact (Ptr.live.inj (hkept.resp stored hstored)).symm
  · have hlinked : FollowUpLinked
        (history ++ [.recvResp ts tsuTimestamp pdelayResp])
        (m.vars.storeResp pdelayResp) :=
      (h.followUpLinked (hkept.followUp hflag).left).later _
    have hlater := hlinked.kept hkept hflag
    exact hlater
  · have hwaiting := @waiting_run
      { m with vars := m.vars.storeResp pdelayResp } ts h.quiescent h.enabled
      hduring hrest.running hstate
    have hlinked : TimestampLinked start
        (history ++ [.recvResp ts tsuTimestamp pdelayResp])
        (m.vars.storeResp pdelayResp) :=
      h.timestampLinked_of _ hwaiting.right
    have hlater := hlinked.of_evidence hwaiting.left
    exact hlater

theorem Linked.step_recvRespFollowUp (h : Linked start history m)
    {ts : UScaledNs} (pdelayRespFollowUp : PTPMsgPdelayRespFollowUp)
    (hrest : AtRest
      (run { m with vars := m.vars.storeRespFollowUp pdelayRespFollowUp } ts)) :
    Linked start (history ++ [.recvRespFollowUp ts pdelayRespFollowUp])
      (m.recvRespFollowUp ts pdelayRespFollowUp) := by
  refine @linked_run
    { m with vars := m.vars.storeRespFollowUp pdelayRespFollowUp } ts start _
    h.quiescent h.enabled
    (during_storeRespFollowUp pdelayRespFollowUp h.during) hrest
    (fun huse => ?_) (fun _ => ?_) (fun hwaiting => ?_)
  · exact (h.respLinked huse).later _
  · exact ⟨ts, pdelayRespFollowUp, by simp, rfl, rfl⟩
  · exact h.timestampLinked_of _ hwaiting

/-- Every call that leaves the process running keeps the links. -/
theorem linked_step (h : Linked start history m)
    (hm : m = runEvents step start history) (e : Event)
    (hrunning : (step m e).vars.process.stop = none) :
    Linked start (history ++ [e]) (step m e) := by
  have hrest := atRest_step h.toAtRest hrunning
  rw [step_running e h.running] at *
  cases e with
  | run ts =>
      exact linked_run h.quiescent h.enabled h.during hrest
        (fun huse => (h.respLinked huse).later _)
        (fun hflag => (h.followUpLinked hflag).later _)
        (fun hwaiting => h.timestampLinked_of _ hwaiting)
  | txts ts tsuTimestamp =>
      dsimp only [txts] at *
      split
      · exact h.later _
      · rename_i hstate
        rw [if_neg hstate] at hrest
        split
        · exact h.later _
        · rename_i hsequenceId
          rw [if_neg hsequenceId] at hrest
          exact h.step_txts hm (sending_of_not hstate)
            (not_not.mp hsequenceId) hrest
  | recvResp ts tsuTimestamp pdelayResp =>
      refine h.step_recvResp tsuTimestamp pdelayResp ?_
      have hduring : During m.state (m.vars.storeResp pdelayResp) :=
        during_storeResp pdelayResp h.during
      exact atRest_run (m := { m with vars := m.vars.storeResp pdelayResp })
        h.enabled (holds_of_during h.quiescent h.enabled hduring) hrunning
  | recvRespFollowUp ts pdelayRespFollowUp =>
      exact h.step_recvRespFollowUp pdelayRespFollowUp hrest

end Step

/-!
## Evaluations of the propagation time
-/

def PropTimeEvaluated (m : MDPdelayReqMachine) (e : Event)
    (sm : MDPdelayReqSM) : Prop :=
  exists entry : MDPdelayReqSM,
    (MDPdelayReqSMState.waitingForPdelayIntervalTimer, entry) ∈ entered m e ∧
      entry.perPortGlobal.asymmetryMeasurementMode = false ∧
      updateNeighborRateRatio (mdPdelayAddRespAndRespFollowUpTimestamp
        { entry with rcvdPdelayRespFollowUp := false, lostResponses := 0 }) =
          .ok sm ∧
      sm.perPortGlobal.computeMeanLinkDelay = true

/--
The four timestamps belong to the exchange of the `Pdelay_Req` sent last: `t1`
came with its sequence number after it was sent, `t2` and `t4` with one answer
to it, and `t3` with a follow-up from the source of that answer.
-/
def RightProvenance (start : MDPdelayReqMachine) (events : List Event)
    (sm : MDPdelayReqSM) : Prop :=
  exists req resp respFollowUp,
    sm.process.sent.getLast? =
        some
          { port := sm.perPortGlobal.thisPort
            message := .pdelayReq req } ∧
      (exists before ts tsuTimestamp after,
        events = before ++ .txts ts tsuTimestamp :: after ∧
          (runEvents step start before).vars.process.sent = sm.process.sent ∧
          tsuTimestamp.sequenceID = req.head.sequenceId ∧
          sm.t1 = tsuTimestamp.ts) ∧
      (exists ts tsuTimestamp, .recvResp ts tsuTimestamp resp ∈ events ∧
        resp.head.sequenceId = req.head.sequenceId ∧
        resp.requestingPortIdentity = sm.portId ∧
        sm.t2 = uscalednsPtpmsgtimestamp resp.requestReceiptTimestamp ∧
        sm.t4 = tsuTimestamp.ts) ∧
      exists ts, .recvRespFollowUp ts respFollowUp ∈ events ∧
        respFollowUp.head.sequenceId = req.head.sequenceId ∧
        respFollowUp.head.sourcePortIdentity = resp.head.sourcePortIdentity ∧
        sm.t3 =
          uscalednsPtpmsgtimestamp respFollowUp.responseOriginTimestamp

/-- A follow-up for the outstanding request is waiting to be used. -/
def FollowUpAtHand (sm : MDPdelayReqSM)
    (followUp : PTPMsgPdelayRespFollowUp) : Prop :=
  sm.rcvdPdelayRespFollowUp = true ∧
    sm.rcvdPdelayRespFollowUpPtr = .live followUp ∧
    followUp.head.sequenceId = sm.pdelayReqSequenceId

/-- The acceptance test takes the follow-up and the response for a pair. -/
def TakenForPair (sm : MDPdelayReqSM) (resp : PTPMsgPdelayResp)
    (followUp : PTPMsgPdelayRespFollowUp) : Prop :=
  followUp.head.sourcePortIdentity = resp.head.sourcePortIdentity ∨
    resp.requestingPortIdentity = sm.portId

/--
The call does not complete an exchange with messages of different exchanges.
If the messages are there before the timestamp of the request, they have one
source.  A response does not meet a follow-up that came before it.  A follow-up
that is taken meets the answer to the request, and comes from its source.
-/
def InOrder (m : MDPdelayReqMachine) (e : Event) : Prop :=
  match e with
  | .run _ => True
  | .txts ts tsuTimestamp =>
      m.state = .initialSendPdelayReq ∨ m.state = .sendPdelayReq ->
      tsuTimestamp.sequenceID = m.vars.pdelayReqSequenceId ->
      m.vars.intervalElapsed ts = false ->
      m.vars.rcvdPdelayResp = true ->
      forall resp followUp, m.vars.rcvdPdelayRespPtr = .live resp ->
        m.vars.Answers resp -> FollowUpAtHand m.vars followUp ->
        followUp.head.sourcePortIdentity = resp.head.sourcePortIdentity
  | .recvResp ts _ resp =>
      m.vars.intervalElapsed ts = false ->
      forall followUp, FollowUpAtHand m.vars followUp ->
        ¬ (m.state = .waitingForPdelayResp ∧ m.vars.Answers resp) ∧
          ¬ (m.state = .waitingForPdelayRespFollowUp ∧
            resp.head.sequenceId ≠ m.vars.pdelayReqSequenceId ∧
            TakenForPair m.vars resp followUp)
  | .recvRespFollowUp ts followUp =>
      m.state = .waitingForPdelayRespFollowUp ->
      m.vars.intervalElapsed ts = false ->
      followUp.head.sequenceId = m.vars.pdelayReqSequenceId ->
      forall resp, m.vars.rcvdPdelayRespPtr = .live resp ->
        TakenForPair m.vars resp followUp ->
        m.vars.Answers resp ∧
          followUp.head.sourcePortIdentity = resp.head.sourcePortIdentity

/-- `InOrder` where the propagation time is computed at all. -/
def InOrderIfMeasured (m : MDPdelayReqMachine) (e : Event) : Prop :=
  m.vars.perPortGlobal.asymmetryMeasurementMode = false ->
    m.vars.perPortGlobal.computeMeanLinkDelay = true -> InOrder m e

section Evaluation

variable {sm sm' : MDPdelayReqSM}

theorem intervalElapsed_of_evidence (h : sm'.evidence = sm.evidence)
    (ts : UScaledNs) : sm'.intervalElapsed ts = sm.intervalElapsed ts := by
  have htimer : sm'.pdelayIntervalTimer = sm.pdelayIntervalTimer :=
    read_evidence pdelayIntervalTimer h
  have hinterval : sm'.mdEntityGlobal.pdelayReqInterval =
      sm.mdEntityGlobal.pdelayReqInterval :=
    read_evidence (fun x => x.mdEntityGlobal.pdelayReqInterval) h
  unfold intervalElapsed
  rw [htimer, hinterval]

theorem followUpAtHand_of_evidence (h : sm'.evidence = sm.evidence)
    {followUp : PTPMsgPdelayRespFollowUp} (hfollowUp : FollowUpAtHand sm' followUp) :
    FollowUpAtHand sm followUp := by
  have hflag : sm'.rcvdPdelayRespFollowUp = sm.rcvdPdelayRespFollowUp :=
    read_evidence rcvdPdelayRespFollowUp h
  have hptr : sm'.rcvdPdelayRespFollowUpPtr = sm.rcvdPdelayRespFollowUpPtr :=
    read_evidence rcvdPdelayRespFollowUpPtr h
  have hsequenceId : sm'.pdelayReqSequenceId = sm.pdelayReqSequenceId :=
    read_evidence pdelayReqSequenceId h
  unfold FollowUpAtHand at *
  rw [← hflag, ← hptr, ← hsequenceId]
  exact hfollowUp

/-- An accepted follow-up is at hand, and taken for one of the stored response. -/
theorem accepted_pair (hreq : sm.Outstanding)
    (h : sm.respFollowUpAccepted = .ok true) :
    exists followUp resp, FollowUpAtHand sm followUp ∧
      sm.rcvdPdelayRespPtr = .live resp ∧ TakenForPair sm resp followUp := by
  rcases respFollowUpAccepted_cases hreq h with
    ⟨hflag, followUp, resp, hfollowUp, hresp, hsequenceId⟩
  rw [respFollowUpAccepted_stored hflag hfollowUp hresp hreq] at h
  have hpair := of_decide_eq_true (Except.ok.inj h)
  exact ⟨followUp, resp, ⟨hflag, hfollowUp, hsequenceId⟩, hresp, hpair.right⟩

theorem rightProvenance_of_links {start : MDPdelayReqMachine}
    {events : List Event} {resp : PTPMsgPdelayResp}
    {followUp : PTPMsgPdelayRespFollowUp} (hlast : sm.LastSent)
    (htimestamp : TimestampLinked start events sm)
    (hresp : RespLinked events sm) (hfollowUp : FollowUpLinked events sm)
    (hptr : sm.rcvdPdelayRespPtr = .live resp) (hanswers : sm.Answers resp)
    (hhand : FollowUpAtHand sm followUp)
    (hsource : followUp.head.sourcePortIdentity =
      resp.head.sourcePortIdentity) :
    RightProvenance start events sm := by
  rcases hresp with ⟨tsResp, t, stored, hmemResp, ht2, ht4, hstored⟩
  rcases hfollowUp with ⟨tsFollowUp, stored', hmemFollowUp, hstored', ht3⟩
  have hsame : resp = stored := hstored resp hptr
  have hsame' : followUp = stored' :=
    Ptr.live.inj (hhand.right.left.symm.trans hstored')
  subst hsame hsame'
  exact ⟨sm.setPdelayReq, resp, followUp, hlast, htimestamp,
    ⟨tsResp, t, hmemResp, hanswers.left, hanswers.right, ht2, ht4⟩,
    tsFollowUp, hmemFollowUp, hhand.right.right, hsource, ht3⟩

theorem RightProvenance.of_exchangeData {start : MDPdelayReqMachine}
    {events : List Event} (h : RightProvenance start events sm)
    (hsettings : sm'.settings = sm.settings) (ht1 : sm'.t1 = sm.t1)
    (ht2 : sm'.t2 = sm.t2) (ht3 : sm'.t3 = sm.t3) (ht4 : sm'.t4 = sm.t4)
    (hprocess : sm'.process = sm.process) :
    RightProvenance start events sm' := by
  have hthisPort : sm'.perPortGlobal.thisPort = sm.perPortGlobal.thisPort :=
    congrArg Settings.thisPort hsettings
  unfold RightProvenance
  rw [portId_of_settings hsettings, ht1, ht2, ht3, ht4, hprocess, hthisPort]
  exact h

end Evaluation

section Calls

variable {start : MDPdelayReqMachine} {history : List Event}
  {m : MDPdelayReqMachine} {entry : MDPdelayReqSM} {ts : UScaledNs}

theorem Linked.run_provenance (h : Linked start history m) :
    (MDPdelayReqSMState.waitingForPdelayIntervalTimer, entry) ∉
      m.runEntries ts := by
  intro hmem
  rcases entering_of_entries h.quiescent h.enabled h.during hmem with
    ⟨_, _, _, _, haccepted, ⟨hstate, hsame⟩ | ⟨hcame | hstate, hflag, _⟩⟩
  · rw [hsame, (h.toSettled.followUp hstate).right] at haccepted
    cases haccepted
  · exact h.toAtRest.not_timestampCame hcame
  · rw [h.toSettled.resp hstate] at hflag
    cases hflag

theorem Linked.txts_provenance (h : Linked start history m)
    (hm : m = runEvents step start history) {tsuTimestamp : TSUTimestamp}
    (hstate : m.state = .initialSendPdelayReq ∨ m.state = .sendPdelayReq)
    (hsequenceId : tsuTimestamp.sequenceID = m.vars.pdelayReqSequenceId)
    (horder : InOrder m (.txts ts tsuTimestamp))
    (hmem : (MDPdelayReqSMState.waitingForPdelayIntervalTimer, entry) ∈
      runEntries { m with vars := m.vars.storeTimestamp tsuTimestamp } ts) :
    RightProvenance start (history ++ [.txts ts tsuTimestamp]) entry := by
  have hduring := during_storeTimestamp tsuTimestamp hstate h.during
  rcases @entering_of_entries
    { m with vars := m.vars.storeTimestamp tsuTimestamp } ts h.quiescent
    h.enabled hduring _ entry hmem with
    ⟨hbefore, hevidence, helapsed, _, haccepted, hway⟩
  rcases accepted_pair hbefore.right.left haccepted with
    ⟨followUp, resp, hhand, hptr, _⟩
  have htaken : AnswerTaken m.state (m.vars.storeTimestamp tsuTimestamp) := by
    rcases hway with ⟨hs0, _⟩ | htaken
    · change m.state = _ at hs0
      rw [hs0] at hstate
      rcases hstate with hstate | hstate <;> cases hstate
    · exact htaken
  rcases htaken with ⟨_, hflag, resp', hptr', hanswers⟩
  have hsame : resp' = resp := by
    have hptrs := read_evidence rcvdPdelayRespPtr hevidence
    exact Ptr.live.inj (hptr'.symm.trans (hptrs.symm.trans hptr))
  subst hsame
  have hhand0 : FollowUpAtHand m.vars followUp :=
    followUpAtHand_of_evidence hevidence hhand
  have helapsed0 : m.vars.intervalElapsed ts = false :=
    (intervalElapsed_of_evidence hevidence ts).symm.trans helapsed
  have hsource := horder hstate hsequenceId helapsed0 hflag resp' followUp hptr'
    hanswers hhand0
  have htimestamp : TimestampLinked start
      (history ++ [.txts ts tsuTimestamp])
      (m.vars.storeTimestamp tsuTimestamp) := by
    refine ⟨history, ts, tsuTimestamp, [], rfl, ?_, hsequenceId, rfl⟩
    rw [← hm]
    rfl
  have hresp : RespLinked (history ++ [.txts ts tsuTimestamp])
      (m.vars.storeTimestamp tsuTimestamp) :=
    (h.respLinked (Or.inl hflag)).later _
  have hfollowUp : FollowUpLinked (history ++ [.txts ts tsuTimestamp])
      (m.vars.storeTimestamp tsuTimestamp) :=
    (h.followUpLinked hhand0.left).later _
  exact rightProvenance_of_links hbefore.right.right.left
    (htimestamp.of_evidence hevidence) (hresp.of_evidence hevidence)
    (hfollowUp.of_evidence hevidence) hptr
    (answers_of_evidence hevidence.symm hanswers) hhand hsource

/-- A response that completes an exchange meets a follow-up that came early. -/
theorem Linked.recvResp_provenance (h : Linked start history m)
    {tsuTimestamp : TSUTimestamp} {pdelayResp : PTPMsgPdelayResp}
    (horder : InOrder m (.recvResp ts tsuTimestamp pdelayResp)) :
    (MDPdelayReqSMState.waitingForPdelayIntervalTimer, entry) ∉
      runEntries { m with vars := m.vars.storeResp pdelayResp } ts := by
  intro hmem
  have hduring : During m.state (m.vars.storeResp pdelayResp) :=
    during_storeResp pdelayResp h.during
  rcases @entering_of_entries { m with vars := m.vars.storeResp pdelayResp } ts
    h.quiescent h.enabled hduring _ entry hmem with
    ⟨hbefore, hevidence, helapsed, hduplicate, haccepted, hway⟩
  rcases accepted_pair hbefore.right.left haccepted with
    ⟨followUp, resp, hhand, hptr, hpair⟩
  have hptr0 : (m.vars.storeResp pdelayResp).rcvdPdelayRespPtr = .live resp :=
    (read_evidence rcvdPdelayRespPtr hevidence).symm.trans hptr
  have hsame : resp = pdelayResp := (Ptr.live.inj hptr0).symm
  subst hsame
  have hhand0 : FollowUpAtHand m.vars followUp :=
    @followUpAtHand_of_evidence (m.vars.storeResp resp) entry hevidence
      followUp hhand
  have helapsed0 : m.vars.intervalElapsed ts = false :=
    (@intervalElapsed_of_evidence (m.vars.storeResp resp) entry hevidence
      ts).symm.trans helapsed
  have hnot := horder helapsed0 followUp hhand0
  rcases hway with ⟨hs0, hentry⟩ | ⟨hcame | hs0, _, resp', hresp', hanswers⟩
  · change entry = m.vars.storeResp resp at hentry
    subst hentry
    refine hnot.right ⟨hs0, fun hsequenceId => ?_, hpair⟩
    have hstored := @duplicateResp_stored (m.vars.storeResp resp) resp rfl rfl
      hbefore.right.left
    rw [hstored] at hduplicate
    exact of_decide_eq_false (Except.ok.inj hduplicate) hsequenceId
  · exact h.toAtRest.not_timestampCame hcame
  · have hsame' : resp = resp' := Ptr.live.inj hresp'
    subst hsame'
    exact hnot.left ⟨hs0, hanswers⟩

theorem Linked.recvRespFollowUp_provenance (h : Linked start history m)
    {pdelayRespFollowUp : PTPMsgPdelayRespFollowUp}
    (horder : InOrder m (.recvRespFollowUp ts pdelayRespFollowUp))
    (hmem : (MDPdelayReqSMState.waitingForPdelayIntervalTimer, entry) ∈
      runEntries
        { m with vars := m.vars.storeRespFollowUp pdelayRespFollowUp } ts) :
    RightProvenance start
      (history ++ [.recvRespFollowUp ts pdelayRespFollowUp]) entry := by
  have hduring := during_storeRespFollowUp pdelayRespFollowUp h.during
  rcases @entering_of_entries
    { m with vars := m.vars.storeRespFollowUp pdelayRespFollowUp } ts
    h.quiescent h.enabled hduring _ entry hmem with
    ⟨hbefore, hevidence, helapsed, _, haccepted, hway⟩
  rcases accepted_pair hbefore.right.left haccepted with
    ⟨followUp, resp, hhand, hptr, hpair⟩
  have hstate : m.state = .waitingForPdelayRespFollowUp ∧
      entry = m.vars.storeRespFollowUp pdelayRespFollowUp := by
    rcases hway with hstay | ⟨hcame | hs0, hflag, _⟩
    · exact hstay
    · exact absurd hcame h.toAtRest.not_timestampCame
    · exact absurd hflag (by
        change m.vars.rcvdPdelayResp ≠ true
        rw [h.toSettled.resp hs0]
        decide)
  rcases hstate with ⟨hstate, rfl⟩
  have hsame : followUp = pdelayRespFollowUp :=
    (Ptr.live.inj hhand.right.left).symm
  subst hsame
  have hright := horder hstate helapsed hhand.right.right resp hptr hpair
  have hresp : RespLinked (history ++ [.recvRespFollowUp ts followUp])
      (m.vars.storeRespFollowUp followUp) :=
    (h.respLinked (Or.inr hstate)).later _
  have hfollowUp : FollowUpLinked (history ++ [.recvRespFollowUp ts followUp])
      (m.vars.storeRespFollowUp followUp) :=
    ⟨ts, followUp, by simp, rfl, rfl⟩
  have htimestamp : TimestampLinked start
      (history ++ [.recvRespFollowUp ts followUp])
      (m.vars.storeRespFollowUp followUp) :=
    (h.timestampLinked (Or.inr hstate)).later _
  exact rightProvenance_of_links hbefore.right.right.left htimestamp hresp
    hfollowUp hptr hright.left hhand hright.right

theorem entered_running (e : Event) (h : m.vars.process.stop = none) :
    entered m e =
      match e with
      | .run ts => m.runEntries ts
      | .txts ts tsuTimestamp =>
          if m.state ≠ .sendPdelayReq ∧ m.state ≠ .initialSendPdelayReq then
            []
          else if tsuTimestamp.sequenceID ≠ m.vars.pdelayReqSequenceId then
            []
          else
            runEntries { m with vars := m.vars.storeTimestamp tsuTimestamp } ts
      | .recvResp ts _ pdelayResp =>
          runEntries { m with vars := m.vars.storeResp pdelayResp } ts
      | .recvRespFollowUp ts pdelayRespFollowUp =>
          runEntries
            { m with vars := m.vars.storeRespFollowUp pdelayRespFollowUp }
            ts := by
  unfold entered
  exact if_neg (by rw [h]; simp)

theorem Linked.provenance (h : Linked start history m)
    (hm : m = runEvents step start history) {e : Event} (horder : InOrder m e)
    (hmem : (MDPdelayReqSMState.waitingForPdelayIntervalTimer, entry) ∈
      entered m e) :
    RightProvenance start (history ++ [e]) entry := by
  rw [entered_running e h.running] at hmem
  cases e with
  | run ts =>
      exact absurd hmem h.run_provenance
  | txts ts tsuTimestamp =>
      dsimp only at hmem
      split at hmem
      · cases hmem
      · rename_i hstate
        split at hmem
        · cases hmem
        · rename_i hsequenceId
          exact h.txts_provenance hm (sending_of_not hstate)
            (not_not.mp hsequenceId) horder hmem
  | recvResp ts tsuTimestamp pdelayResp =>
      exact absurd hmem (h.recvResp_provenance horder)
  | recvRespFollowUp ts pdelayRespFollowUp =>
      exact h.recvRespFollowUp_provenance horder hmem

/-- The machine that the run in a call starts from. -/
inductive Starts (m : MDPdelayReqMachine) : Event -> UScaledNs ->
    MDPdelayReqMachine -> Prop
  | run (ts : UScaledNs) : Starts m (.run ts) ts m
  | txts (ts : UScaledNs) (tsuTimestamp : TSUTimestamp)
      (hstate : m.state = .initialSendPdelayReq ∨ m.state = .sendPdelayReq) :
      Starts m (.txts ts tsuTimestamp) ts
        { m with vars := m.vars.storeTimestamp tsuTimestamp }
  | recvResp (ts : UScaledNs) (tsuTimestamp : TSUTimestamp)
      (pdelayResp : PTPMsgPdelayResp) :
      Starts m (.recvResp ts tsuTimestamp pdelayResp) ts
        { m with vars := m.vars.storeResp pdelayResp }
  | recvRespFollowUp (ts : UScaledNs)
      (pdelayRespFollowUp : PTPMsgPdelayRespFollowUp) :
      Starts m (.recvRespFollowUp ts pdelayRespFollowUp) ts
        { m with vars := m.vars.storeRespFollowUp pdelayRespFollowUp }

theorem starts_of_entered {e : Event} {state : MDPdelayReqSMState}
    (hmem : (state, entry) ∈ entered m e) :
    exists ts m0, Starts m e ts m0 ∧ (state, entry) ∈ m0.runEntries ts := by
  by_cases hrunning : m.vars.process.stop = none
  case neg =>
    unfold entered at hmem
    rw [if_pos hrunning] at hmem
    cases hmem
  rw [entered_running e hrunning] at hmem
  cases e with
  | run ts => exact ⟨ts, m, .run ts, hmem⟩
  | txts ts tsuTimestamp =>
      dsimp only at hmem
      split at hmem
      · cases hmem
      case isFalse hstate =>
        split at hmem
        · cases hmem
        · exact ⟨ts, _, .txts ts tsuTimestamp (sending_of_not hstate), hmem⟩
  | recvResp ts tsuTimestamp pdelayResp =>
      exact ⟨ts, _, .recvResp ts tsuTimestamp pdelayResp, hmem⟩
  | recvRespFollowUp ts pdelayRespFollowUp =>
      exact ⟨ts, _, .recvRespFollowUp ts pdelayRespFollowUp, hmem⟩

theorem Starts.settings {e : Event} {ts : UScaledNs}
    {m0 : MDPdelayReqMachine} (h : Starts m e ts m0) :
    m0.vars.settings = m.vars.settings := by
  cases h <;> rfl

theorem Starts.during {e : Event} {ts : UScaledNs}
    {m0 : MDPdelayReqMachine} (h : Starts m e ts m0) (hrest : AtRest m) :
    During m0.state m0.vars := by
  cases h with
  | run => exact hrest.during
  | txts _ tsuTimestamp hstate =>
      exact during_storeTimestamp tsuTimestamp hstate hrest.during
  | recvResp _ tsuTimestamp pdelayResp =>
      exact during_storeResp pdelayResp hrest.during
  | recvRespFollowUp _ pdelayRespFollowUp =>
      exact during_storeRespFollowUp pdelayRespFollowUp hrest.during

theorem Starts.quiescent {e : Event} {ts : UScaledNs}
    {m0 : MDPdelayReqMachine} (h : Starts m e ts m0) (hrest : AtRest m) :
    m0.Quiescent := by
  cases h with
  | run => exact hrest.quiescent
  | txts => exact hrest.quiescent
  | recvResp => exact hrest.quiescent
  | recvRespFollowUp => exact hrest.quiescent

theorem Starts.enabled {e : Event} {ts : UScaledNs}
    {m0 : MDPdelayReqMachine} (h : Starts m e ts m0) (hrest : AtRest m) :
    m0.vars.Enabled := by
  cases h with
  | run => exact hrest.enabled
  | txts => exact hrest.enabled
  | recvResp => exact hrest.enabled
  | recvRespFollowUp => exact hrest.enabled

/-- Without an enabled port no call gets to the last state. -/
theorem entered_not_enabled {e : Event} (henabled : ¬ m.vars.Enabled) :
    (MDPdelayReqSMState.waitingForPdelayIntervalTimer, entry) ∉
      entered m e := by
  intro hmem
  obtain ⟨ts, m0, hstarts, hentry⟩ := starts_of_entered hmem
  refine runEntries_not_enabled (m := m0) (fun hm0 => henabled ?_) entry hentry
  exact enabled_of_settings hstarts.settings.symm hm0

end Calls

/-!
## Whole runs
-/

theorem fresh_run {m : MDPdelayReqMachine} {ts : UScaledNs}
    (hstate : m.state = .init) (hq : ¬ m.Quiescent) (henabled : m.vars.Enabled)
    (hrunning : (m.run ts).vars.process.stop = none) :
    (m.run ts).state = .initialSendPdelayReq ∧ (m.run ts).vars.Fresh := by
  have hholds : (opening ts).Holds m :=
    ⟨fun h => absurd h hq, fun _ => Or.inl hstate⟩
  have henabled' : (m.run ts).vars.Enabled :=
    enabled_of_settings (settings_run m ts) henabled
  have hsettled :=
    (Program.run_settled (behaviour ts).program passes hrunning).right
  have hnext : transition ts (m.run ts).state (m.run ts).vars =
      .ok (m.run ts).state := Behaviour.transition_goto.mp hsettled
  have hpost : (opening ts).Post (m.run ts).state (m.run ts).vars := by
    unfold run at hrunning ⊢
    rw [ready_enabled henabled] at hrunning ⊢
    exact ((opening ts).run_post passes hholds hrunning).right
  rcases hpost with hinit | hdisabled | hfresh
  · rw [hinit] at hnext
    cases hnext
  · rw [hdisabled] at hnext
    simp [transition, notEnabledStateTransition, henabled'.right.left,
      henabled'.right.right] at hnext
  · exact hfresh

section Runs

variable {memory : MDPdelayReqSM}

theorem linked_init (hBEGIN : memory.perPTPInstanceGlobal.BEGIN = false)
    (hportOper : memory.perPortGlobal.portOper = true)
    (hrunning : (initMdPdelayReqSm memory).vars.process.stop = none) :
    Linked (initMdPdelayReqSm memory) [] (initMdPdelayReqSm memory) := by
  have henabled : Enabled { memory with portEnabled0 := true } :=
    ⟨hBEGIN, hportOper, rfl⟩
  have hfresh : (initMdPdelayReqSm memory).state = .initialSendPdelayReq ∧
      (initMdPdelayReqSm memory).vars.Fresh :=
    fresh_run rfl (fun hq => (by cases hq)) henabled hrunning
  rcases hfresh with ⟨hstate, _, hresp, hfollowUp, _⟩
  refine ⟨atRest_init hBEGIN hportOper hrunning, settled_run hrunning,
    fun huse => ?_, fun hflag => ?_, fun hwaiting => ?_⟩
  · rw [hresp, hstate] at huse
    rcases huse with huse | huse <;> cases huse
  · rw [hfollowUp] at hflag
    cases hflag
  · rw [hstate] at hwaiting
    rcases hwaiting with hwaiting | hwaiting <;> cases hwaiting

theorem linked_runEvents
    (hBEGIN : memory.perPTPInstanceGlobal.BEGIN = false)
    (hportOper : memory.perPortGlobal.portOper = true) (history : List Event)
    (hrunning :
      (runEvents step (initMdPdelayReqSm memory) history).vars.process.stop =
        none) :
    Linked (initMdPdelayReqSm memory) history
      (runEvents step (initMdPdelayReqSm memory) history) := by
  induction history using List.reverseRecOn with
  | nil =>
      exact linked_init hBEGIN hportOper hrunning
  | append_singleton history e ih =>
      rw [runEvents_concat] at *
      by_cases hstop :
          (runEvents step (initMdPdelayReqSm memory) history).vars.process.stop
            = none
      · exact linked_step (ih hstop) rfl e hrunning
      · rw [step_stopped e hstop] at hrunning
        exact absurd hrunning hstop

theorem settings_init (memory : MDPdelayReqSM) :
    (initMdPdelayReqSm memory).vars.settings =
      settings { memory with portEnabled0 := true } :=
  settings_run _ _

theorem enabled_runEvents {m : MDPdelayReqMachine} {history : List Event}
    (h : (runEvents step m history).vars.Enabled) : m.vars.Enabled :=
  enabled_of_settings (settings_runEvents m history).symm h

theorem linked_of_enabled {history : List Event}
    (hrunning :
      (runEvents step (initMdPdelayReqSm memory) history).vars.process.stop =
        none)
    (henabled :
      (runEvents step (initMdPdelayReqSm memory) history).vars.Enabled) :
    Linked (initMdPdelayReqSm memory) history
      (runEvents step (initMdPdelayReqSm memory) history) := by
  have hinit : Enabled { memory with portEnabled0 := true } :=
    enabled_of_settings (settings_init memory).symm (enabled_runEvents henabled)
  exact linked_runEvents hinit.left hinit.right.left history hrunning

/-- Wherever a call gets to the last state, its messages have been in order. -/
theorem entered_provenance {history : List Event} {e : Event}
    {entry : MDPdelayReqSM}
    (horder : InOrder (runEvents step (initMdPdelayReqSm memory) history) e)
    (hmem : (MDPdelayReqSMState.waitingForPdelayIntervalTimer, entry) ∈
      entered (runEvents step (initMdPdelayReqSm memory) history) e) :
    RightProvenance (initMdPdelayReqSm memory) (history ++ [e]) entry := by
  by_cases hrunning :
      (runEvents step (initMdPdelayReqSm memory) history).vars.process.stop =
        none
  · by_cases henabled :
        (runEvents step (initMdPdelayReqSm memory) history).vars.Enabled
    · exact (linked_of_enabled hrunning henabled).provenance rfl horder hmem
    · exact absurd hmem (entered_not_enabled henabled)
  · unfold entered at hmem
    rw [if_pos hrunning] at hmem
    cases hmem

theorem settings_entered {m : MDPdelayReqMachine} {e : Event}
    {state : MDPdelayReqSMState} {entry : MDPdelayReqSM}
    (hmem : (state, entry) ∈ entered m e) :
    entry.settings = m.vars.settings := by
  obtain ⟨ts, m0, hstarts, hentry⟩ := starts_of_entered hmem
  exact (settings_runEntries hentry).trans hstarts.settings

/--
In every run whose calls are in order, the four timestamps that the propagation
time is computed from belong to the exchange of the request sent last.
-/
theorem prop_time_provenance {events : List Event}
    (horder : Along step InOrderIfMeasured (initMdPdelayReqSm memory) events)
    {history rest : List Event} {e : Event}
    (hevents : events = history ++ e :: rest) {sm : MDPdelayReqSM}
    (hevaluated : PropTimeEvaluated
      (runEvents step (initMdPdelayReqSm memory) history) e sm) :
    RightProvenance (initMdPdelayReqSm memory) (history ++ [e]) sm := by
  rcases hevaluated with ⟨entry, hmem, hasymmetry, hrated, hcompute⟩
  have hdata := exchangeData_updateNeighborRateRatio hrated
  have hentry : sm.settings = entry.settings :=
    congrArg ExchangeData.settings hdata
  have hsettings := settings_entered hmem
  have horder' := horder history e rest hevents
    ((congrArg Settings.asymmetryMeasurementMode hsettings).symm.trans
      hasymmetry)
    ((congrArg Settings.computeMeanLinkDelay
      (hentry.trans hsettings)).symm.trans hcompute)
  exact (entered_provenance horder' hmem).of_exchangeData hentry
    (congrArg ExchangeData.t1 hdata) (congrArg ExchangeData.t2 hdata)
    (congrArg ExchangeData.t3 hdata) (congrArg ExchangeData.t4 hdata)
    (congrArg ExchangeData.process hdata)

end Runs

/-!
The instance below computes its link delay.  Its first exchange completes in
order.  If the follow-up overtakes the response, the delay is computed before
the ingress timestamp of the response has been stored.
-/

def measuringMachine : MDPdelayReqMachine :=
  initMdPdelayReqSm
    { zeroedMemory with
      perPortGlobal :=
        { zeroedMemory.perPortGlobal with computeMeanLinkDelay := true } }

def orderedHistory : List Event :=
  [.txts (atNs 1) (txTimestamp 0 0),
    .recvResp (atNs 2) (txTimestamp 2 0) (respTo 0)]

def overtakenHistory : List Event :=
  [.txts (atNs 1) (txTimestamp 0 0),
    .recvRespFollowUp (atNs 2) (respFollowUpTo 0)]

/-- The variables with which a call enters its `i`-th state. -/
def nthEntry (m : MDPdelayReqMachine) (e : Event) (i : Nat) : MDPdelayReqSM :=
  ((entered m e)[i]?.getD (.init, m.vars)).2

def evaluation (m : MDPdelayReqMachine) (e : Event) (i : Nat) :
    MDPdelayReqSM :=
  mdPdelayAddRespAndRespFollowUpTimestamp
    { nthEntry m e i with rcvdPdelayRespFollowUp := false, lostResponses := 0 }

theorem evaluated_of_nthEntry {m : MDPdelayReqMachine} {e : Event} {i : Nat}
    (hentered : (entered m e)[i]?.map Prod.fst =
      some .waitingForPdelayIntervalTimer)
    (hasymmetry :
      (nthEntry m e i).perPortGlobal.asymmetryMeasurementMode = false)
    (hratio : (nthEntry m e i).perPortGlobal.computeNeighborRateRatio = false)
    (hdelay : (nthEntry m e i).perPortGlobal.computeMeanLinkDelay = true) :
    PropTimeEvaluated m e (evaluation m e i) := by
  refine ⟨nthEntry m e i, ?_, hasymmetry, ?_, hdelay⟩
  · rcases Option.map_eq_some_iff.mp hentered with ⟨⟨state, sm⟩, hget, hstate⟩
    unfold nthEntry
    rw [hget, ← hstate]
    exact List.mem_of_getElem? hget
  · unfold updateNeighborRateRatio
    rw [if_neg]
    · rfl
    · change ¬ (nthEntry m e i).perPortGlobal.computeNeighborRateRatio = true
      rw [hratio]
      decide

theorem ordered_exchange_provenance :
    RightProvenance measuringMachine
      (orderedHistory ++ [.recvRespFollowUp (atNs 3) (respFollowUpTo 0)])
      (evaluation (runEvents step measuringMachine orderedHistory)
        (.recvRespFollowUp (atNs 3) (respFollowUpTo 0)) 0) := by
  have horder : Along step InOrderIfMeasured measuringMachine
      (orderedHistory ++ .recvRespFollowUp (atNs 3) (respFollowUpTo 0) :: []) := by
    refine along_cons.mpr ⟨?_, along_cons.mpr ⟨?_, along_cons.mpr ⟨?_,
      along_nil _ _⟩⟩⟩
    · intro _ _ _ _ _ hflag
      cases hflag
    · intro _ _ _ followUp hhand
      cases hhand.left
    · intro _ _ _ _ _ resp hresp _
      cases Ptr.live.inj hresp
      exact ⟨⟨rfl, rfl⟩, rfl⟩
  have hevaluated : PropTimeEvaluated
      (runEvents step measuringMachine orderedHistory)
      (.recvRespFollowUp (atNs 3) (respFollowUpTo 0))
      (evaluation (runEvents step measuringMachine orderedHistory)
        (.recvRespFollowUp (atNs 3) (respFollowUpTo 0)) 0) :=
    evaluated_of_nthEntry (by decide) rfl rfl rfl
  exact prop_time_provenance horder rfl hevaluated

theorem overtaken_resp_spoils_provenance :
    ¬ forall (memory : MDPdelayReqSM) (history : List Event) (e : Event)
        (sm : MDPdelayReqSM),
      PropTimeEvaluated (runEvents step (initMdPdelayReqSm memory) history) e
        sm ->
      RightProvenance (initMdPdelayReqSm memory) (history ++ [e]) sm := by
  intro h
  have hevaluated : PropTimeEvaluated
      (runEvents step measuringMachine overtakenHistory)
      (.recvResp (atNs 3) (txTimestamp 3 0) (respTo 0))
      (evaluation (runEvents step measuringMachine overtakenHistory)
        (.recvResp (atNs 3) (txTimestamp 3 0) (respTo 0)) 1) :=
    evaluated_of_nthEntry (by decide) rfl rfl rfl
  rcases h _ _ _ _ hevaluated with
    ⟨_, resp, _, _, _, ⟨ts, t, hmem, _, _, _, ht4⟩, _⟩
  have ht : t = txTimestamp 3 0 := by
    simp only [overtakenHistory, List.cons_append, List.nil_append,
      List.mem_cons, reduceCtorEq, List.not_mem_nil, or_false, false_or,
      Event.recvResp.injEq] at hmem
    exact hmem.right.left
  rw [ht] at ht4
  revert ht4
  decide

end MDPdelayReqMachine

end TimeSync
end Ziggo
