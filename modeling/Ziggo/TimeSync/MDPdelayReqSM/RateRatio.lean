import Ziggo.Foundation.Transitions
import Ziggo.TimeSync.MDPdelayReqSM.History
import Ziggo.TimeSync.MDPdelayReqSM.Provenance

/-!
# The rate ratio of the neighbor

The rate ratio is the quotient of two differences between the oldest and the
newest sample of a history.  The divisor is zero if the two have one ingress
time.  This module determines the deliveries for which each exchange records an
ingress time of its own.
-/

namespace Ziggo
namespace TimeSync

open Foundation TsnDrivers

namespace MDPdelayReqSM

open MDPdelayReqSMState

/-!
## The history of ingress times
-/

def ingressHistory (sm : MDPdelayReqSM) : History UScaledNs maxLength where
  slots := sm.lPdelayRespEventIngressTimestamp
  head := sm.listHeadPropTime
  tail := sm.listTailPropTime
  isEmpty := sm.isEmptyPropTime

section History

variable {sm sm' : MDPdelayReqSM}

theorem ingressHistory_eq (sm : MDPdelayReqSM) :
    sm.ingressHistory = sm.propTimeHistory.map Prod.snd :=
  rfl

theorem ingressHistory_waitingForPdelayIntervalTimerAction
    (h : sm.waitingForPdelayIntervalTimerAction = .ok sm') :
    sm'.ingressHistory = sm.ingressHistory ∨
      sm'.ingressHistory = sm.ingressHistory.record sm.t4 ∨
      sm'.ingressHistory = (sm.ingressHistory.record sm.t4).restart := by
  have hrecord := History.map_record Prod.snd (sm.t3, sm.t4) sm.propTimeHistory
  rw [ingressHistory_eq sm', ingressHistory_eq sm]
  rcases propTimeHistory_waitingForPdelayIntervalTimerAction h with
    hsame | hrecorded | hrestarted
  · rw [hsame]
    exact Or.inl rfl
  · rw [hrecorded]
    exact Or.inr (Or.inl hrecord)
  · rw [hrestarted]
    exact Or.inr (Or.inr (congrArg History.restart hrecord))

theorem ingressHistory_action {ts : UScaledNs} {state : MDPdelayReqSMState}
    (hstate : state ≠ waitingForPdelayIntervalTimer)
    (h : action ts state sm = .ok sm') :
    sm'.ingressHistory = sm.ingressHistory := by
  rw [ingressHistory_eq, propTimeHistory_action hstate h]
  rfl

end History

/-!
## Ingress times of one run
-/

/--
Within a run with the ingress time `t4`, which is recorded at most once: what
it was recorded with is released.
-/
structure Unrecorded (known : UScaledNs -> Prop) (t4 : UScaledNs)
    (sm : MDPdelayReqSM) : Prop where
  ingress : sm.t4 = t4
  ready : sm.ingressHistory.Ready
  samples : forall t, t ∈ sm.ingressHistory.samples -> known t ∨ t = t4
  fresh : forall resp, sm.rcvdPdelayRespPtr = .live resp ->
    t4 ∉ sm.ingressHistory.samples

section Unrecorded

variable {known : UScaledNs -> Prop} {t4 : UScaledNs} {sm sm' : MDPdelayReqSM}

theorem Unrecorded.halt (h : Unrecorded known t4 sm) (f : Fault) :
    Unrecorded known t4 (halt f sm) :=
  ⟨h.ingress, h.ready, h.samples, h.fresh⟩

theorem Unrecorded.of_unchanged (h : Unrecorded known t4 sm)
    (hkept : Kept sm sm')
    (hhistory : sm'.ingressHistory = sm.ingressHistory) :
    Unrecorded known t4 sm' where
  ingress := hkept.t4.trans h.ingress
  ready := by
    rw [hhistory]
    exact h.ready
  samples t ht := by
    rw [hhistory] at ht
    exact h.samples t ht
  fresh resp hresp := by
    rw [hhistory]
    exact h.fresh resp (hkept.resp resp hresp)

/-- The ingress time is recorded and the response it came with released. -/
theorem Unrecorded.of_recorded (h : Unrecorded known t4 sm)
    (hkept : Kept sm sm')
    (hreleased : forall resp, sm'.rcvdPdelayRespPtr ≠ .live resp)
    (hhistory : sm'.ingressHistory = sm.ingressHistory.record sm.t4 ∨
      sm'.ingressHistory = (sm.ingressHistory.record sm.t4).restart) :
    Unrecorded known t4 sm' := by
  have hsamples : forall t,
      t ∈ (sm.ingressHistory.record sm.t4).samples -> known t ∨ t = t4 := by
    intro t ht
    rcases History.mem_samples_record h.ready ht with hnew | hold
    · exact Or.inr (hnew.trans h.ingress)
    · exact h.samples t hold
  refine ⟨hkept.t4.trans h.ingress, ?_, ?_,
    fun resp hresp => absurd hresp (hreleased resp)⟩
  · rcases hhistory with hrecorded | hrestarted
    · rw [hrecorded]
      exact History.ready_record _ _
    · rw [hrestarted]
      exact History.ready_restart rfl
  · intro t ht
    rcases hhistory with hrecorded | hrestarted
    · rw [hrecorded] at ht
      exact hsamples t ht
    · rw [hrestarted] at ht
      exact hsamples t (History.mem_samples_restart rfl ht)

theorem Unrecorded.action (h : Unrecorded known t4 sm) {ts : UScaledNs}
    {state : MDPdelayReqSMState} (haction : action ts state sm = .ok sm') :
    Unrecorded known t4 sm' := by
  have hkept := kept_action haction
  by_cases hstate : state = waitingForPdelayIntervalTimer
  · subst hstate
    change sm.waitingForPdelayIntervalTimerAction = .ok sm' at haction
    rcases ingressHistory_waitingForPdelayIntervalTimerAction haction with
      hsame | hrecorded
    · exact h.of_unchanged hkept hsame
    · refine h.of_recorded hkept (fun resp => ?_) hrecorded
      unfold waitingForPdelayIntervalTimerAction at haction
      obtain ⟨measured, _, hfree⟩ := bind_eq_ok.mp haction
      exact resp_freeMessages hfree resp
  · exact h.of_unchanged hkept (ingressHistory_action hstate haction)

theorem Unrecorded.attempt (h : Unrecorded known t4 sm) (ts : UScaledNs)
    (state : MDPdelayReqSMState) :
    Unrecorded known t4 ((behaviour ts).program.action state sm) :=
  attempt_preserves (fun _ haction => h.action haction)
    (fun f _ => h.halt f)

/-- A fresh ingress time differs from the oldest one in the history. -/
theorem Unrecorded.divisor_ne_zero (h : Unrecorded known t4 sm)
    {resp : PTPMsgPdelayResp} (hresp : sm.rcvdPdelayRespPtr = .live resp)
    {t1 t2 : UScaledNs}
    (hoperands : sm.mdPdelayAddRespAndRespFollowUpTimestamp.ratioOperands =
      some (t1, t2)) : t2.toNat ≠ 0 := by
  unfold ratioOperands at hoperands
  split at hoperands
  case isTrue => cases hoperands
  case isFalse hseveral =>
    cases hoperands
    have hne : (sm.ingressHistory.record sm.t4).head ≠
        (sm.ingressHistory.record sm.t4).tail :=
      fun hsame => hseveral (Or.inr hsame.symm)
    have holdest := History.oldest_mem h.ready sm.t4 hne
    have hnewest : (sm.ingressHistory.record sm.t4).slots
        (sm.ingressHistory.record sm.t4).tail = t4 :=
      (Function.update_self _ _ _).trans h.ingress
    rw [Ne, toNat_uscalednsSubtract_eq_zero]
    intro hzero
    have hsame : (sm.ingressHistory.record sm.t4).slots
        (sm.ingressHistory.record sm.t4).head = t4 := hzero.trans hnewest
    rw [hsame] at holdest
    exact h.fresh resp hresp holdest

end Unrecorded

end MDPdelayReqSM

namespace MDPdelayReqMachine

open MDPdelayReqSM

/-!
## Runs and calls
-/

section Calls

variable {known : UScaledNs -> Prop} {t4 : UScaledNs}
  {m m0 : MDPdelayReqMachine} {e : Event} {ts : UScaledNs}
  {entry : MDPdelayReqSM}

theorem unrecorded_run (h : Unrecorded known t4 m.vars) :
    Unrecorded known t4 (m.run ts).vars :=
  Program.run_preserves (behaviour ts).program
    (fun state _ hsm => hsm.attempt ts state) (fun _ _ f hsm _ => hsm.halt f)
    (fun _ hsm => hsm.halt .diverges) passes (m := m.ready) h

theorem unrecorded_entry (h : Unrecorded known t4 m.vars)
    {state : MDPdelayReqSMState} (hmem : (state, entry) ∈ m.runEntries ts) :
    Unrecorded known t4 entry :=
  Program.entries_preserves (behaviour ts).program
    (fun state _ hsm => hsm.attempt ts state) (fun _ _ f hsm _ => hsm.halt f)
    passes (m := m.ready) h state entry hmem

theorem ingressHistory_run
    (hnone : forall entry,
      (MDPdelayReqSMState.waitingForPdelayIntervalTimer, entry) ∉
        m.runEntries ts) :
    (m.run ts).vars.ingressHistory = m.vars.ingressHistory := by
  have hrun := Program.run_entries (behaviour ts).program
    (I := fun past sm =>
      (exists entry,
        (MDPdelayReqSMState.waitingForPdelayIntervalTimer, entry) ∈ past) ∨
        sm.ingressHistory = m.vars.ingressHistory)
    (fun past state sm hsm => ?_) (fun _ _ _ _ hsm _ => hsm)
    (fun _ _ hsm => hsm) passes (m := m.ready) (@Or.inr (exists entry,
        (MDPdelayReqSMState.waitingForPdelayIntervalTimer, entry) ∈
          ([] : List (MDPdelayReqSMState × MDPdelayReqSM))) _ rfl)
  · rcases hrun with ⟨entry, hentry⟩ | hsame
    · rw [List.nil_append] at hentry
      exact absurd hentry (hnone entry)
    · exact hsame
  · by_cases hstate : state = .waitingForPdelayIntervalTimer
    · subst hstate
      exact Or.inl ⟨sm, by simp⟩
    · refine hsm.imp (fun ⟨entry, hentry⟩ =>
        ⟨entry, List.mem_append_left _ hentry⟩) fun hsame => ?_
      change (attempt halt sm (action ts state sm)).ingressHistory = _
      cases haction : action ts state sm with
      | error f => exact hsame
      | ok sm' => exact (ingressHistory_action hstate haction).trans hsame

theorem Starts.ingress (h : Starts m e ts m0) : m0.vars.t4 = m.vars.t4 := by
  cases h <;> rfl

theorem Starts.ingressHistory (h : Starts m e ts m0) :
    m0.vars.ingressHistory = m.vars.ingressHistory := by
  cases h <;> rfl

/-- An exchange is completed with both messages at hand. -/
theorem received_of_entered (hstarts : Starts m e ts m0) (hrest : AtRest m)
    (hmem : (MDPdelayReqSMState.waitingForPdelayIntervalTimer, entry) ∈
      m0.runEntries ts) :
    exists resp, entry.rcvdPdelayRespPtr = .live resp := by
  obtain ⟨hbefore, _, _, _, haccepted, _⟩ :=
    entering_of_entries (hstarts.quiescent hrest) (hstarts.enabled hrest)
      (hstarts.during hrest) hmem
  obtain ⟨_, resp, _, hresp, _⟩ :=
    accepted_pair hbefore.right.left haccepted
  exact ⟨resp, hresp⟩

end Calls

/-!
## Exchanges that a response completes
-/

/--
A response completes an exchange itself, with a follow-up that has overtaken
it.  Its ingress time is stored only after that.
-/
def Overtaken (m : MDPdelayReqMachine) (e : Event) : Prop :=
  match e with
  | .recvResp ts _ resp =>
      m.vars.intervalElapsed ts = false ∧
        exists followUp, FollowUpAtHand m.vars followUp ∧
          ((m.state = .waitingForPdelayResp ∧ m.vars.Answers resp) ∨
            (m.state = .waitingForPdelayRespFollowUp ∧
              resp.head.sequenceId ≠ m.vars.pdelayReqSequenceId ∧
              TakenForPair m.vars resp followUp))
  | _ => False

section Completion

variable {start : MDPdelayReqMachine} {history : List Event}
  {m m0 : MDPdelayReqMachine} {e : Event} {ts : UScaledNs}
  {entry : MDPdelayReqSM}

theorem Linked.overtaken (h : Linked start history m)
    {tsuTimestamp : TSUTimestamp} {resp : PTPMsgPdelayResp}
    (hmem : (MDPdelayReqSMState.waitingForPdelayIntervalTimer, entry) ∈
      runEntries { m with vars := m.vars.storeResp resp } ts) :
    Overtaken m (.recvResp ts tsuTimestamp resp) := by
  by_contra hnot
  have horder : InOrder m (.recvResp ts tsuTimestamp resp) := by
    intro helapsed followUp hhand
    exact ⟨fun hanswered => hnot ⟨helapsed, followUp, hhand, Or.inl hanswered⟩,
      fun htaken => hnot ⟨helapsed, followUp, hhand, Or.inr htaken⟩⟩
  exact h.recvResp_provenance horder hmem

theorem Linked.completing (h : Linked start history m)
    (hstarts : Starts m e ts m0)
    (hmem : (MDPdelayReqSMState.waitingForPdelayIntervalTimer, entry) ∈
      m0.runEntries ts) :
    Overtaken m e ∨ (RespLinked history m.vars ∧
      m0.vars.rcvdPdelayRespPtr = m.vars.rcvdPdelayRespPtr) := by
  obtain ⟨_, _, _, _, _, hway⟩ :=
    entering_of_entries (hstarts.quiescent h.toAtRest)
      (hstarts.enabled h.toAtRest) (hstarts.during h.toAtRest) hmem
  cases hstarts with
  | run => exact absurd hmem h.run_provenance
  | txts _ tsuTimestamp hstate =>
      refine Or.inr ⟨h.respLinked ?_, rfl⟩
      rcases hway with ⟨hs0, _⟩ | ⟨_, hflag, _⟩
      · exact Or.inr hs0
      · exact Or.inl hflag
  | recvResp => exact Or.inl (h.overtaken hmem)
  | recvRespFollowUp =>
      refine Or.inr ⟨h.respLinked ?_, rfl⟩
      rcases hway with ⟨hs0, _⟩ | ⟨_, hflag, _⟩
      · exact Or.inr hs0
      · exact Or.inl hflag

end Completion

/-!
## Ingress times of all runs
-/

/-- The hardware timestamps of the responses that have come. -/
def ingressTimestamps (history : List Event) : List UScaledNs :=
  history.filterMap fun
    | .recvResp _ tsuTimestamp _ => some tsuTimestamp.ts
    | _ => none

theorem ingressTimestamps_recvResp (history : List Event) (ts : UScaledNs)
    (tsuTimestamp : TSUTimestamp) (pdelayResp : PTPMsgPdelayResp) :
    ingressTimestamps (history ++ [.recvResp ts tsuTimestamp pdelayResp]) =
      ingressTimestamps history ++ [tsuTimestamp.ts] := by
  unfold ingressTimestamps
  rw [List.filterMap_append]
  rfl

theorem RespLinked.mem {history : List Event} {sm : MDPdelayReqSM}
    (h : RespLinked history sm) : sm.t4 ∈ ingressTimestamps history := by
  obtain ⟨ts, tsuTimestamp, resp, hmem, _, ht4, _⟩ := h
  rw [ht4]
  exact List.mem_filterMap.mpr ⟨_, hmem, rfl⟩

/--
The history holds ingress times of responses that have been released.  The one
of the response at hand is not among them.
-/
structure Sampled (received : List UScaledNs) (m : MDPdelayReqMachine) :
    Prop where
  ready : m.vars.ingressHistory.Ready
  ingress : received ≠ [] -> m.vars.t4 ∈ received
  samples : forall t, t ∈ m.vars.ingressHistory.samples -> t ∈ received
  fresh : forall resp, m.vars.rcvdPdelayRespPtr = .live resp ->
    m.vars.t4 ∉ m.vars.ingressHistory.samples

/--
A response that completes an exchange itself does so with the ingress time of
an earlier response, which has not been recorded.
-/
def FreshIfOvertaken (received : List UScaledNs) (m : MDPdelayReqMachine)
    (e : Event) : Prop :=
  Overtaken m e ->
    received ≠ [] ∧ m.vars.t4 ∉ m.vars.ingressHistory.samples

section Samples

variable {start : MDPdelayReqMachine} {history : List Event}
  {m m0 : MDPdelayReqMachine} {e : Event} {ts : UScaledNs}
  {entry : MDPdelayReqSM}

/-- A run that completes an exchange starts with a fresh ingress time. -/
theorem Sampled.unrecorded (h : Sampled (ingressTimestamps history) m)
    (hlinked : Linked start history m)
    (hfresh : FreshIfOvertaken (ingressTimestamps history) m e)
    (hstarts : Starts m e ts m0)
    (hmem : (MDPdelayReqSMState.waitingForPdelayIntervalTimer, entry) ∈
      m0.runEntries ts) :
    Unrecorded (fun t => t ∈ ingressTimestamps history) m.vars.t4 m0.vars ∧
      m.vars.t4 ∈ ingressTimestamps history := by
  have hready : m0.vars.ingressHistory.Ready := by
    rw [hstarts.ingressHistory]
    exact h.ready
  have hsamples : forall t, t ∈ m0.vars.ingressHistory.samples ->
      t ∈ ingressTimestamps history ∨ t = m.vars.t4 := by
    rw [hstarts.ingressHistory]
    exact fun t ht => Or.inl (h.samples t ht)
  rcases hlinked.completing hstarts hmem with hovertaken | ⟨hresp, hptr⟩
  · obtain ⟨hsome, hnew⟩ := hfresh hovertaken
    refine ⟨⟨hstarts.ingress, hready, hsamples, fun _ _ => ?_⟩, h.ingress hsome⟩
    rw [hstarts.ingressHistory]
    exact hnew
  · refine ⟨⟨hstarts.ingress, hready, hsamples, fun resp hlive => ?_⟩, hresp.mem⟩
    rw [hstarts.ingressHistory]
    exact h.fresh resp (hptr.symm.trans hlive)

theorem Sampled.run (h : Sampled (ingressTimestamps history) m)
    (hlinked : Linked start history m)
    (hfresh : FreshIfOvertaken (ingressTimestamps history) m e)
    (hstarts : Starts m e ts m0) :
    (m0.run ts).vars.ingressHistory.Ready ∧
      (forall t, t ∈ (m0.run ts).vars.ingressHistory.samples ->
        t ∈ ingressTimestamps history) ∧
      (m0.vars.rcvdPdelayRespPtr = m.vars.rcvdPdelayRespPtr ->
        forall resp, (m0.run ts).vars.rcvdPdelayRespPtr = .live resp ->
          m.vars.t4 ∉ (m0.run ts).vars.ingressHistory.samples) := by
  by_cases hcompleted : exists entry,
      (MDPdelayReqSMState.waitingForPdelayIntervalTimer, entry) ∈
        m0.runEntries ts
  · obtain ⟨entry, hmem⟩ := hcompleted
    obtain ⟨hbefore, hknown⟩ := h.unrecorded hlinked hfresh hstarts hmem
    have hafter := @unrecorded_run _ _ m0 ts hbefore
    refine ⟨hafter.ready, fun t ht => ?_, fun _ => hafter.fresh⟩
    rcases hafter.samples t ht with hold | hnew
    · exact hold
    · rw [hnew]
      exact hknown
  · have hsame : (m0.run ts).vars.ingressHistory = m0.vars.ingressHistory :=
      ingressHistory_run fun entry hmem => hcompleted ⟨entry, hmem⟩
    rw [hsame, hstarts.ingressHistory]
    refine ⟨h.ready, h.samples, fun hptr resp hlive => h.fresh resp ?_⟩
    have hkept : Kept m0.vars (m0.run ts).vars := kept_run ts passes m0.ready
    exact hptr.symm.trans (hkept.resp resp hlive)

theorem Sampled.of_run (h : Sampled (ingressTimestamps history) m)
    (hlinked : Linked start history m)
    (hfresh : FreshIfOvertaken (ingressTimestamps history) m e)
    (hstarts : Starts m e ts m0)
    (hptr : m0.vars.rcvdPdelayRespPtr = m.vars.rcvdPdelayRespPtr) :
    Sampled (ingressTimestamps history) (m0.run ts) := by
  obtain ⟨hready, hsamples, hnew⟩ := h.run hlinked hfresh hstarts
  have hkept : Kept m0.vars (m0.run ts).vars := kept_run ts passes m0.ready
  have hingress : (m0.run ts).vars.t4 = m.vars.t4 :=
    hkept.t4.trans hstarts.ingress
  refine ⟨hready, fun hsome => ?_, hsamples, fun resp hlive => ?_⟩
  · rw [hingress]
    exact h.ingress hsome
  · rw [hingress]
    exact hnew hptr resp hlive

theorem Sampled.step (h : Sampled (ingressTimestamps history) m)
    (hlinked : Linked start history m)
    (hfresh : FreshIfOvertaken (ingressTimestamps history) m e)
    (hdistinct : (ingressTimestamps (history ++ [e])).Nodup) :
    Sampled (ingressTimestamps (history ++ [e])) (step m e) := by
  rw [step_running e hlinked.running]
  cases e with
  | run ts =>
      have hsame : ingressTimestamps (history ++ [.run ts]) =
          ingressTimestamps history := by
        simp [ingressTimestamps]
      rw [hsame]
      exact h.of_run hlinked hfresh (.run ts) rfl
  | txts ts tsuTimestamp =>
      have hsame : ingressTimestamps (history ++ [.txts ts tsuTimestamp]) =
          ingressTimestamps history := by
        simp [ingressTimestamps]
      rw [hsame]
      dsimp only [txts]
      split
      · exact h
      case isFalse hstate =>
        split
        · exact h
        · exact h.of_run hlinked hfresh
            (.txts ts tsuTimestamp (sending_of_not hstate)) rfl
  | recvRespFollowUp ts followUp =>
      have hsame :
          ingressTimestamps (history ++ [.recvRespFollowUp ts followUp]) =
            ingressTimestamps history := by
        simp [ingressTimestamps]
      rw [hsame]
      exact h.of_run hlinked hfresh (.recvRespFollowUp ts followUp) rfl
  | recvResp ts tsuTimestamp resp =>
      rw [ingressTimestamps_recvResp] at hdistinct ⊢
      obtain ⟨hready, hsamples, _⟩ :=
        h.run hlinked hfresh (.recvResp ts tsuTimestamp resp)
      refine ⟨hready, fun _ => ?_, fun t ht => ?_, fun _ _ hknown => ?_⟩
      · exact List.mem_append_right _ (List.mem_singleton.mpr rfl)
      · exact List.mem_append_left _ (hsamples t ht)
      · exact List.disjoint_of_nodup_append hdistinct (hsamples _ hknown)
          (List.mem_singleton.mpr rfl)

theorem runEntries_init (hstate : m.state = .init) (hq : ¬ m.Quiescent)
    (henabled : m.vars.Enabled) :
    (MDPdelayReqSMState.waitingForPdelayIntervalTimer, entry) ∉
      m.runEntries ts := by
  have hholds : (opening ts).Holds m :=
    ⟨fun h => absurd h hq, fun _ => Or.inl hstate⟩
  intro hmem
  unfold runEntries at hmem
  rw [ready_enabled henabled] at hmem
  rcases (opening ts).entries_pre passes hholds _ entry hmem with
    hstate | hstate | hstate
  · cases hstate
  · cases hstate
  · cases hstate

end Samples

/-!
## Divisors
-/

/-- The operands with which a call evaluates `computePdelayRateRatio`. -/
def RatioComputed (m : MDPdelayReqMachine) (e : Event) (t1 t2 : UScaledNs) :
    Prop :=
  exists entry : MDPdelayReqSM,
    (MDPdelayReqSMState.waitingForPdelayIntervalTimer, entry) ∈ entered m e ∧
      entry.perPortGlobal.asymmetryMeasurementMode = false ∧
      entry.perPortGlobal.computeNeighborRateRatio = true ∧
      (mdPdelayAddRespAndRespFollowUpTimestamp
        { entry with
          rcvdPdelayRespFollowUp := false
          lostResponses := 0 }).ratioOperands = some (t1, t2)

/-- In the run no exchange records an ingress time a second time. -/
def RecordsFresh (memory : MDPdelayReqSM) (events : List Event) : Prop :=
  forall history e rest, events = history ++ e :: rest ->
    FreshIfOvertaken (ingressTimestamps history)
      (runEvents step (initMdPdelayReqSm memory) history) e

section Runs

variable {memory : MDPdelayReqSM} {events history : List Event}

theorem RecordsFresh.init {e : Event}
    (h : RecordsFresh memory (events ++ [e])) : RecordsFresh memory events := by
  intro history e' rest hevents
  apply h history e' (rest ++ [e])
  rw [hevents]
  simp

/-- It is enough that no follow-up overtakes its response. -/
theorem recordsFresh_of_order
    (h : Along step (fun m e => ¬ Overtaken m e) (initMdPdelayReqSm memory)
      events) : RecordsFresh memory events :=
  fun history e rest hevents hovertaken =>
    absurd hovertaken (h history e rest hevents)

theorem sampled_init (hBEGIN : memory.perPTPInstanceGlobal.BEGIN = false)
    (hportOper : memory.perPortGlobal.portOper = true) :
    Sampled [] (initMdPdelayReqSm memory) := by
  have hhistory := @ingressHistory_run
    { state := .init
      lastState := none
      vars :=
        { memory with
          portEnabled0 := true
          listHeadPropTime := 0
          listTailPropTime := Fin.last _
          isEmptyPropTime := true } }
    { subns := 0, nsec := 0, nsecMsb := 0 }
    fun entry => runEntries_init rfl (fun hq => (by cases hq))
      ⟨hBEGIN, hportOper, rfl⟩
  have hsamples :
      (initMdPdelayReqSm memory).vars.ingressHistory.samples = [] := by
    unfold initMdPdelayReqSm
    rw [hhistory]
    rfl
  have hround : (0 : Fin maxLength) = Fin.last _ + 1 := by decide
  refine ⟨?_, fun hsome => absurd rfl hsome, fun t ht => ?_, fun _ _ ht => ?_⟩
  · unfold initMdPdelayReqSm
    rw [hhistory]
    exact fun _ => hround
  · rw [hsamples] at ht
    cases ht
  · rw [hsamples] at ht
    cases ht

theorem sampled_runEvents
    (hBEGIN : memory.perPTPInstanceGlobal.BEGIN = false)
    (hportOper : memory.perPortGlobal.portOper = true)
    (hrunning :
      (runEvents step (initMdPdelayReqSm memory) history).vars.process.stop =
        none)
    (hdistinct : (ingressTimestamps history).Nodup)
    (hfresh : RecordsFresh memory history) :
    Sampled (ingressTimestamps history)
      (runEvents step (initMdPdelayReqSm memory) history) := by
  induction history using List.reverseRecOn with
  | nil => exact sampled_init hBEGIN hportOper
  | append_singleton history e ih =>
      rw [runEvents_concat] at *
      by_cases hstop :
          (runEvents step (initMdPdelayReqSm memory) history).vars.process.stop
            = none
      · have hprefix : (ingressTimestamps history).Nodup := by
          unfold ingressTimestamps at hdistinct ⊢
          rw [List.filterMap_append] at hdistinct
          exact hdistinct.of_append_left
        exact (ih hstop hprefix hfresh.init).step
          (linked_runEvents hBEGIN hportOper history hstop)
          (hfresh history e [] rfl) hdistinct
      · rw [step_stopped e hstop] at hrunning
        exact absurd hrunning hstop

/--
If the responses have hardware timestamps of their own and no exchange records
one of them a second time, the rate ratio is never divided by zero.
-/
theorem rateRatio_divisor {e : Event} {rest : List Event}
    (hevents : events = history ++ e :: rest)
    (hdistinct : (ingressTimestamps events).Nodup)
    (hfresh : RecordsFresh memory events) {t1 t2 : UScaledNs}
    (hratio : RatioComputed (runEvents step (initMdPdelayReqSm memory) history)
      e t1 t2) : t2.toNat ≠ 0 := by
  obtain ⟨entry, hmem, _, _, hoperands⟩ := hratio
  by_cases hrunning :
      (runEvents step (initMdPdelayReqSm memory) history).vars.process.stop =
        none
  · by_cases henabled :
        (runEvents step (initMdPdelayReqSm memory) history).vars.Enabled
    · have hinit : Enabled { memory with portEnabled0 := true } :=
        enabled_of_settings (settings_init memory).symm
          (enabled_runEvents henabled)
      have hlinked := linked_runEvents hinit.left hinit.right.left history
        hrunning
      have hprefix : (ingressTimestamps history).Nodup := by
        unfold ingressTimestamps at hdistinct ⊢
        rw [hevents, List.filterMap_append] at hdistinct
        exact hdistinct.of_append_left
      have hsampled := sampled_runEvents hinit.left hinit.right.left hrunning
        hprefix fun before e' after hbefore =>
          hfresh before e' (after ++ e :: rest) (by
            rw [hevents, hbefore]
            simp)
      obtain ⟨ts, m0, hstarts, hentry⟩ := starts_of_entered hmem
      obtain ⟨hbefore, _⟩ := hsampled.unrecorded hlinked
        (hfresh history e rest hevents) hstarts hentry
      obtain ⟨resp, hresp⟩ :=
        received_of_entered hstarts hlinked.toAtRest hentry
      exact (unrecorded_entry hbefore hentry).divisor_ne_zero hresp hoperands
    · exact absurd hmem (entered_not_enabled henabled)
  · unfold entered at hmem
    rw [if_pos hrunning] at hmem
    cases hmem

end Runs

end MDPdelayReqMachine

end TimeSync
end Ziggo
