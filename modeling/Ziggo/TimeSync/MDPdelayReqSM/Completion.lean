import Ziggo.Foundation.Faults
import Ziggo.TimeSync.MDPdelayReqSM.RateRatio

/-!
# Calls that complete an exchange

An exchange is complete when its timestamp, its answer and the follow-up are
all there, in whatever order they come.  This module says by the variables
before a call and by what the call brings whether the call completes the
exchange, and shows that the last state is entered in exactly these calls.
-/

namespace Ziggo
namespace TimeSync

open Foundation TsnDrivers

namespace MDPdelayReqMachine

open MDPdelayReqSM

/-- The variables before a call, with the input of the call stored. -/
def received (m : MDPdelayReqMachine) (e : Event) : MDPdelayReqSM :=
  match e with
  | .run _ => m.vars
  | .txts _ tsuTimestamp => m.vars.storeTimestamp tsuTimestamp
  | .recvResp _ _ pdelayResp => m.vars.storeResp pdelayResp
  | .recvRespFollowUp _ pdelayRespFollowUp =>
      m.vars.storeRespFollowUp pdelayRespFollowUp

/--
The call brings what an exchange still lacks, before `pdelayReqInterval` has
elapsed: the timestamp of the request when an answer and a follow-up are at
hand, a response that a follow-up has overtaken, or the follow-up that is taken
for one of the stored response.
-/
def Completes (m : MDPdelayReqMachine) (e : Event) : Prop :=
  m.vars.process.stop = none ∧ m.vars.Enabled ∧
    match e with
    | .run _ => False
    | .txts ts tsuTimestamp =>
        (m.state = .initialSendPdelayReq ∨ m.state = .sendPdelayReq) ∧
          tsuTimestamp.sequenceID = m.vars.pdelayReqSequenceId ∧
          m.vars.intervalElapsed ts = false ∧
          m.vars.rcvdPdelayResp = true ∧
          exists resp followUp, m.vars.rcvdPdelayRespPtr = .live resp ∧
            m.vars.Answers resp ∧ FollowUpAtHand m.vars followUp
    | .recvResp _ _ _ => Overtaken m e
    | .recvRespFollowUp ts followUp =>
        m.state = .waitingForPdelayRespFollowUp ∧
          m.vars.intervalElapsed ts = false ∧
          followUp.head.sequenceId = m.vars.pdelayReqSequenceId ∧
          exists resp, m.vars.rcvdPdelayRespPtr = .live resp ∧
            TakenForPair m.vars resp followUp

/-!
## The way to the last state
-/

section Way

variable {sm : MDPdelayReqSM} {ts : UScaledNs} {last : MDPdelayReqSMState}
  {resp : PTPMsgPdelayResp} {followUp : PTPMsgPdelayRespFollowUp}

theorem accepted_of_pair (hreq : sm.Outstanding)
    (hresp : sm.rcvdPdelayRespPtr = .live resp)
    (hhand : FollowUpAtHand sm followUp) (hpair : TakenForPair sm resp followUp) :
    sm.respFollowUpAccepted = .ok true := by
  obtain ⟨hflag, hfollowUp, hsequenceId⟩ := hhand
  rw [respFollowUpAccepted_stored hflag hfollowUp hresp hreq]
  exact congrArg Except.ok (decide_eq_true ⟨hsequenceId, hpair⟩)

/-- The second waiting state is left at once if the follow-up is there. -/
theorem mem_entries_respFollowUp (fuel : Nat)
    (hlast : last ≠ .waitingForPdelayRespFollowUp)
    (hrunning : sm.process.stop = none) (hreq : sm.Outstanding)
    (helapsed : sm.intervalElapsed ts = false)
    (hresp : sm.rcvdPdelayRespPtr = .live resp) (hanswers : sm.Answers resp)
    (hhand : FollowUpAtHand sm followUp) :
    (MDPdelayReqSMState.waitingForPdelayIntervalTimer,
        sm.waitingForPdelayRespFollowUpAction) ∈
      (behaviour ts).program.entries (fuel + 2)
        { state := .waitingForPdelayRespFollowUp, lastState := some last,
          vars := sm } := by
  have helapsed' :
      sm.waitingForPdelayRespFollowUpAction.intervalElapsed ts = false :=
    helapsed
  have haccepted :
      sm.waitingForPdelayRespFollowUpAction.respFollowUpAccepted = .ok true :=
    @accepted_of_pair sm.waitingForPdelayRespFollowUpAction resp followUp hreq
      hresp hhand (Or.inr hanswers.right)
  have hnext : transition ts .waitingForPdelayRespFollowUp
      sm.waitingForPdelayRespFollowUpAction =
        .ok .waitingForPdelayIntervalTimer :=
    waitingForPdelayRespFollowUp_next helapsed' (duplicateResp_absent rfl)
      haccepted
  refine Behaviour.mem_entries_enter_leave (fuel + 1) (not_quiescent hlast) rfl
    hrunning hnext (by simp) ?_
  exact Behaviour.mem_entries_enter fuel (not_quiescent (by simp))

/-- The first one is left at once if the answer is there. -/
theorem mem_entries_resp (fuel : Nat) (hlast : last ≠ .waitingForPdelayResp)
    (hrunning : sm.process.stop = none) (hreq : sm.Outstanding)
    (helapsed : sm.intervalElapsed ts = false)
    (hflag : sm.rcvdPdelayResp = true)
    (hresp : sm.rcvdPdelayRespPtr = .live resp) (hanswers : sm.Answers resp)
    (hhand : FollowUpAtHand sm followUp) :
    exists entry,
      (MDPdelayReqSMState.waitingForPdelayIntervalTimer, entry) ∈
        (behaviour ts).program.entries (fuel + 3)
          { state := .waitingForPdelayResp, lastState := some last,
            vars := sm } := by
  have hnext : transition ts .waitingForPdelayResp
      sm.waitingForPdelayRespAction = .ok .waitingForPdelayRespFollowUp :=
    waitingForPdelayResp_answers helapsed hflag hresp hreq hanswers
  have hmem := @mem_entries_respFollowUp sm.waitingForPdelayRespAction ts
    .waitingForPdelayResp resp followUp fuel (by decide) hrunning hreq helapsed
    hresp hanswers hhand
  exact ⟨_, Behaviour.mem_entries_enter_leave (fuel + 2) (not_quiescent hlast)
    rfl hrunning hnext (by simp) hmem⟩

end Way

section Calls

variable {start : MDPdelayReqMachine} {history : List Event}
  {m : MDPdelayReqMachine} {e : Event} {ts : UScaledNs}
  {entry : MDPdelayReqSM}

theorem mem_runEntries_leave (h : AtRest m) (sm : MDPdelayReqSM)
    (hsettings : sm.settings = m.vars.settings)
    (hprocess : sm.process = m.vars.process) {next : MDPdelayReqSMState}
    (hnext : transition ts m.state sm = .ok next) (hne : m.state ≠ next)
    {state : MDPdelayReqSMState}
    (hmem : (state, entry) ∈ (behaviour ts).program.entries 15
      { state := next, lastState := some m.state, vars := sm }) :
    (state, entry) ∈ runEntries { m with vars := sm } ts := by
  have hrunning : sm.process.stop = none := by
    rw [hprocess]
    exact h.running
  have henabled : sm.Enabled := enabled_of_settings hsettings h.enabled
  unfold runEntries
  rw [@ready_enabled { m with vars := sm } henabled]
  exact Behaviour.mem_entries_leave 15 h.quiescent hrunning hnext hne hmem

theorem AtRest.outstanding (h : AtRest m)
    (hstate : m.state = .initialSendPdelayReq ∨ m.state = .sendPdelayReq ∨
      m.state = .waitingForPdelayResp ∨
      m.state = .waitingForPdelayRespFollowUp) : m.vars.Outstanding := by
  have hduring := h.during
  rcases hstate with hstate | hstate | hstate | hstate
  · rw [hstate] at hduring
    exact hduring.right.left
  · rw [hstate] at hduring
    exact hduring.right.left
  · rw [hstate] at hduring
    exact hduring.right.left
  · rw [hstate] at hduring
    exact hduring.right.left

theorem entered_of_txts (h : AtRest m) {tsuTimestamp : TSUTimestamp}
    (hcompletes : Completes m (.txts ts tsuTimestamp)) :
    exists entry,
      (MDPdelayReqSMState.waitingForPdelayIntervalTimer, entry) ∈
        runEntries { m with vars := m.vars.storeTimestamp tsuTimestamp } ts := by
  obtain ⟨_, _, hstate, _, helapsed, hflag, resp, followUp, hresp, hanswers,
    hhand⟩ := hcompletes
  have hreq : m.vars.Outstanding :=
    h.outstanding (hstate.imp_right Or.inl)
  have hnext : transition ts m.state (m.vars.storeTimestamp tsuTimestamp) =
      .ok .waitingForPdelayResp := by
    rcases hstate with hstate | hstate
    · rw [hstate]
      rfl
    · rw [hstate]
      rfl
  have hne : m.state ≠ .waitingForPdelayResp := by
    rcases hstate with hstate | hstate
    · rw [hstate]
      decide
    · rw [hstate]
      decide
  obtain ⟨entry, hmem⟩ := @mem_entries_resp
    (m.vars.storeTimestamp tsuTimestamp) ts m.state resp followUp 12 hne
    h.running hreq helapsed hflag hresp hanswers hhand
  exact ⟨entry, mem_runEntries_leave h (m.vars.storeTimestamp tsuTimestamp) rfl
    rfl hnext hne hmem⟩

theorem entered_of_recvResp (h : AtRest m) {tsuTimestamp : TSUTimestamp}
    {resp : PTPMsgPdelayResp}
    (hovertaken : Overtaken m (.recvResp ts tsuTimestamp resp)) :
    exists entry,
      (MDPdelayReqSMState.waitingForPdelayIntervalTimer, entry) ∈
        runEntries { m with vars := m.vars.storeResp resp } ts := by
  obtain ⟨helapsed, followUp, hhand, ⟨hstate, hanswers⟩ |
    ⟨hstate, hother, hpair⟩⟩ := hovertaken
  · have hreq : (m.vars.storeResp resp).Outstanding :=
      h.outstanding (Or.inr (Or.inr (Or.inl hstate)))
    have hnext : transition ts m.state (m.vars.storeResp resp) =
        .ok .waitingForPdelayRespFollowUp := by
      rw [hstate]
      exact waitingForPdelayResp_answers helapsed rfl rfl hreq hanswers
    have hne : m.state ≠ .waitingForPdelayRespFollowUp := by
      rw [hstate]
      decide
    exact ⟨_, mem_runEntries_leave h (m.vars.storeResp resp) rfl rfl hnext hne
      (@mem_entries_respFollowUp (m.vars.storeResp resp) ts m.state resp
        followUp 13 hne h.running hreq helapsed rfl hanswers hhand)⟩
  · have hreq : (m.vars.storeResp resp).Outstanding :=
      h.outstanding (Or.inr (Or.inr (Or.inr hstate)))
    have helapsed' : (m.vars.storeResp resp).intervalElapsed ts = false :=
      helapsed
    have hduplicate : (m.vars.storeResp resp).duplicateResp = .ok false :=
      (@duplicateResp_stored (m.vars.storeResp resp) resp rfl rfl hreq).trans
        (congrArg Except.ok (decide_eq_false hother))
    have haccepted :
        (m.vars.storeResp resp).respFollowUpAccepted = .ok true :=
      @accepted_of_pair (m.vars.storeResp resp) resp followUp hreq rfl hhand
        hpair
    have hnext : transition ts m.state (m.vars.storeResp resp) =
        .ok .waitingForPdelayIntervalTimer := by
      rw [hstate]
      exact waitingForPdelayRespFollowUp_next helapsed' hduplicate haccepted
    have hne : m.state ≠ .waitingForPdelayIntervalTimer := by
      rw [hstate]
      decide
    exact ⟨_, mem_runEntries_leave h (m.vars.storeResp resp) rfl rfl hnext hne
      (Behaviour.mem_entries_enter 14 (not_quiescent hne))⟩

theorem entered_of_recvRespFollowUp (h : AtRest m) (hsettled : Settled m)
    {followUp : PTPMsgPdelayRespFollowUp}
    (hcompletes : Completes m (.recvRespFollowUp ts followUp)) :
    exists entry,
      (MDPdelayReqSMState.waitingForPdelayIntervalTimer, entry) ∈
        runEntries { m with vars := m.vars.storeRespFollowUp followUp } ts := by
  obtain ⟨_, _, hstate, helapsed, hsequenceId, resp, hresp, hpair⟩ := hcompletes
  have hreq : (m.vars.storeRespFollowUp followUp).Outstanding :=
    h.outstanding (Or.inr (Or.inr (Or.inr hstate)))
  have helapsed' :
      (m.vars.storeRespFollowUp followUp).intervalElapsed ts = false :=
    helapsed
  have hduplicate :
      (m.vars.storeRespFollowUp followUp).duplicateResp = .ok false :=
    (hsettled.followUp hstate).left
  have haccepted :
      (m.vars.storeRespFollowUp followUp).respFollowUpAccepted = .ok true :=
    @accepted_of_pair (m.vars.storeRespFollowUp followUp) resp followUp hreq
      hresp ⟨rfl, rfl, hsequenceId⟩ hpair
  have hnext : transition ts m.state (m.vars.storeRespFollowUp followUp) =
      .ok .waitingForPdelayIntervalTimer := by
    rw [hstate]
    exact waitingForPdelayRespFollowUp_next helapsed' hduplicate haccepted
  have hne : m.state ≠ .waitingForPdelayIntervalTimer := by
    rw [hstate]
    decide
  exact ⟨_, mem_runEntries_leave h (m.vars.storeRespFollowUp followUp) rfl rfl
    hnext hne (Behaviour.mem_entries_enter 14 (not_quiescent hne))⟩

/-!
## The calls that enter it
-/

theorem Linked.evidence_of_entered (h : Linked start history m)
    (hmem : (MDPdelayReqSMState.waitingForPdelayIntervalTimer, entry) ∈
      entered m e) : entry.evidence = (received m e).evidence := by
  obtain ⟨ts, m0, hstarts, hentries⟩ := starts_of_entered hmem
  obtain ⟨_, hevidence, _⟩ := entering_of_entries
    (hstarts.quiescent h.toAtRest) (hstarts.enabled h.toAtRest)
    (hstarts.during h.toAtRest) hentries
  refine hevidence.trans ?_
  cases hstarts <;> rfl

theorem Linked.completes_txts (h : Linked start history m)
    {tsuTimestamp : TSUTimestamp}
    (hstate : m.state = .initialSendPdelayReq ∨ m.state = .sendPdelayReq)
    (hsequenceId : tsuTimestamp.sequenceID = m.vars.pdelayReqSequenceId)
    (hmem : (MDPdelayReqSMState.waitingForPdelayIntervalTimer, entry) ∈
      runEntries { m with vars := m.vars.storeTimestamp tsuTimestamp } ts) :
    Completes m (.txts ts tsuTimestamp) := by
  have hduring := during_storeTimestamp tsuTimestamp hstate h.during
  obtain ⟨hbefore, hevidence, helapsed, _, haccepted, hway⟩ :=
    @entering_of_entries
      { m with vars := m.vars.storeTimestamp tsuTimestamp } ts h.quiescent
      h.enabled hduring _ entry hmem
  obtain ⟨followUp, _, hhand, _⟩ :=
    accepted_pair hbefore.right.left haccepted
  have hhand0 : FollowUpAtHand m.vars followUp :=
    followUpAtHand_of_evidence hevidence hhand
  have helapsed0 : m.vars.intervalElapsed ts = false :=
    (intervalElapsed_of_evidence hevidence ts).symm.trans helapsed
  rcases hway with ⟨hs0, _⟩ | ⟨_, hflag, resp, hresp, hanswers⟩
  · change m.state = _ at hs0
    rw [hs0] at hstate
    rcases hstate with hstate | hstate <;> cases hstate
  · exact ⟨h.running, h.enabled, hstate, hsequenceId, helapsed0, hflag, resp,
      followUp, hresp, hanswers, hhand0⟩

theorem Linked.completes_recvRespFollowUp (h : Linked start history m)
    {followUp : PTPMsgPdelayRespFollowUp}
    (hmem : (MDPdelayReqSMState.waitingForPdelayIntervalTimer, entry) ∈
      runEntries { m with vars := m.vars.storeRespFollowUp followUp } ts) :
    Completes m (.recvRespFollowUp ts followUp) := by
  have hduring := during_storeRespFollowUp followUp h.during
  obtain ⟨hbefore, _, helapsed, _, haccepted, hway⟩ :=
    @entering_of_entries
      { m with vars := m.vars.storeRespFollowUp followUp } ts h.quiescent
      h.enabled hduring _ entry hmem
  obtain ⟨stored, resp, hhand, hresp, hpair⟩ :=
    accepted_pair hbefore.right.left haccepted
  rcases hway with ⟨hstate, rfl⟩ | ⟨hcame | hs0, hflag, _⟩
  · have hsame : stored = followUp := (Ptr.live.inj hhand.right.left).symm
    subst hsame
    exact ⟨h.running, h.enabled, hstate, helapsed, hhand.right.right, resp,
      hresp, hpair⟩
  · exact absurd hcame h.toAtRest.not_timestampCame
  · have hnone := h.toSettled.resp hs0
    exact absurd (hnone.symm.trans hflag) (by decide)

/-- The calls that complete an exchange are those that enter the last state. -/
theorem Linked.completes_iff (h : Linked start history m) (e : Event) :
    Completes m e <->
      exists entry, (MDPdelayReqSMState.waitingForPdelayIntervalTimer, entry) ∈
        entered m e := by
  rw [entered_running e h.running]
  cases e with
  | run ts =>
      exact iff_of_false (fun hcompletes => hcompletes.right.right)
        fun ⟨_, hmem⟩ => h.run_provenance hmem
  | txts ts tsuTimestamp =>
      constructor
      · intro hcompletes
        obtain ⟨_, _, hstate, hsequenceId, _⟩ := id hcompletes
        have hsending : ¬ (m.state ≠ .sendPdelayReq ∧
            m.state ≠ .initialSendPdelayReq) :=
          fun hnot => hstate.elim hnot.right hnot.left
        dsimp only
        rw [if_neg hsending, if_neg (not_not.mpr hsequenceId)]
        exact entered_of_txts h.toAtRest hcompletes
      · rintro ⟨entry, hmem⟩
        dsimp only at hmem
        split at hmem
        · cases hmem
        case isFalse hstate =>
          split at hmem
          · cases hmem
          case isFalse hsequenceId =>
            exact h.completes_txts (sending_of_not hstate)
              (not_not.mp hsequenceId) hmem
  | recvResp ts tsuTimestamp resp =>
      constructor
      · rintro ⟨_, _, hovertaken⟩
        exact entered_of_recvResp h.toAtRest hovertaken
      · rintro ⟨entry, hmem⟩
        exact ⟨h.running, h.enabled, h.overtaken hmem⟩
  | recvRespFollowUp ts followUp =>
      constructor
      · exact entered_of_recvRespFollowUp h.toAtRest h.toSettled
      · rintro ⟨entry, hmem⟩
        exact h.completes_recvRespFollowUp hmem

end Calls

/-!
## Whole runs
-/

section Runs

variable {memory : MDPdelayReqSM} {history : List Event}

/-- In every run, whatever the port, the last state is entered by these calls. -/
theorem completes_iff (e : Event) :
    Completes (runEvents step (initMdPdelayReqSm memory) history) e <->
      exists entry, (MDPdelayReqSMState.waitingForPdelayIntervalTimer, entry) ∈
        entered (runEvents step (initMdPdelayReqSm memory) history) e := by
  by_cases hrunning :
      (runEvents step (initMdPdelayReqSm memory) history).vars.process.stop =
        none
  · by_cases henabled :
        (runEvents step (initMdPdelayReqSm memory) history).vars.Enabled
    · exact (linked_of_enabled hrunning henabled).completes_iff e
    · exact iff_of_false (fun h => henabled h.right.left)
        fun ⟨_, hmem⟩ => entered_not_enabled henabled hmem
  · refine iff_of_false (fun h => hrunning h.left) ?_
    rintro ⟨entry, hmem⟩
    unfold entered at hmem
    rw [if_pos hrunning] at hmem
    cases hmem

theorem evidence_of_entered {e : Event} {entry : MDPdelayReqSM}
    (hmem : (MDPdelayReqSMState.waitingForPdelayIntervalTimer, entry) ∈
      entered (runEvents step (initMdPdelayReqSm memory) history) e) :
    entry.evidence =
      (received (runEvents step (initMdPdelayReqSm memory) history)
        e).evidence := by
  obtain ⟨hrunning, henabled, _⟩ := (completes_iff e).mpr ⟨entry, hmem⟩
  exact (linked_of_enabled hrunning henabled).evidence_of_entered hmem

end Runs

end MDPdelayReqMachine

end TimeSync
end Ziggo
