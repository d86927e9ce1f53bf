import Ziggo.TimeSync.ClockMasterLoop.OriginTime
import Ziggo.TimeSync.TimeSyncMainLoop.Hangs

/-!
# How the process ends

A process that has ended was ended by a group of machines, by the frame that has
been taken from the queue or by its port.  A run of the main loop does not hang
but in a division by zero, or while it waits for a timestamp that never comes.
-/

namespace Ziggo
namespace TimeSync

open Foundation TsnDrivers

namespace MDPdelayRespMachine

open MDPdelayRespSM

/-- The responder sets the pointer to a request that it has released to `NULL`. -/
def Owned (m : MDPdelayRespMachine) : Prop :=
  m.vars.rcvdPdelayReqPtr ≠ .released

theorem owned_run {m : MDPdelayRespMachine} (h : m.Owned) : m.run.Owned := by
  refine Behaviour.run_preserves behaviour
    (I := fun sm => sm.rcvdPdelayReqPtr ≠ .released) ?_ ?_ ?_ ?_ passes h
  · intro s v v' hv haction
    cases s with
    | sentPdelayRespWaitingForTimestamp =>
        obtain ⟨_, _, rfl⟩ := sentAction_cases haction
        exact hv
    | waitingForPdelayReq =>
        obtain ⟨_, _, rfl⟩ := waitingAction_cases haction
        exact Ptr.null_ne_released
    | _ =>
        cases haction
        exact hv
  · exact fun _ _ _ hv _ => hv
  · exact fun _ _ _ hv _ => hv
  · exact fun _ hv => hv

theorem owned_step {m : MDPdelayRespMachine} (h : m.Owned) (e : Event) :
    (m.step e).Owned := by
  unfold step
  split
  · exact h
  · cases e with
    | txts tsuTimestamp =>
        change (m.txts tsuTimestamp).Owned
        unfold txts
        split
        · exact h
        · split
          · exact h
          · split
            · exact h
            · exact @owned_run
                { m with vars := m.vars.storeTimestamp tsuTimestamp } h
    | recvReq tsuTimestamp pdelayReq =>
        exact @owned_run
          { m with vars := m.vars.storeReq tsuTimestamp pdelayReq }
          fun hreleased => nomatch hreleased

end MDPdelayRespMachine

namespace MDPdelayReqSM

end MDPdelayReqSM

/-!
## Reception without a timestamp
-/

/-- An event message for which its port has no timestamp, and never gets one. -/
def Untimed (rxTimestamps : UInt16 -> List TSUTimestamp) (buffer : List UInt8) :
    Prop :=
  exists msgType,
    msgTypeOfCode (bufferHeader buffer).messageType = some msgType ∧
      isEvent msgType = true ∧
        (parseSrcPort buffer ≠ 0xFFFF ->
          forall ts, ts ∈ rxTimestamps (parseSrcPort buffer) ->
            ¬ Answers msgType (bufferHeader buffer).sequenceId ts)

section Reception

variable {allocated : Allocated} {r : Receiver}

theorem recvMsg_ne_diverges {msgType : PTPMsgType} {header : PTPMsgHeader}
    {payload : List UInt8} :
    recvMsg msgType header allocated payload ≠ .error .diverges := by
  intro h
  cases msgType with
  | announce =>
      rcases bind_eq_error.mp h with h | ⟨_, _, h⟩
      · rcases bind_eq_error.mp h with h | ⟨_, _, h⟩
        · exact copyOctets_ne_diverges h
        · cases h
      · cases h
  | _ => cases h

theorem recvTimestamp_diverges {msgType : PTPMsgType} {header : PTPMsgHeader}
    {buffer : List UInt8}
    (h : recvTimestamp msgType header (parseSrcPort buffer) allocated r =
      .error .diverges) :
    isEvent msgType = true ∧
      (parseSrcPort buffer ≠ 0xFFFF ->
        forall ts, ts ∈ r.rxTimestamps (parseSrcPort buffer) ->
          ¬ Answers msgType header.sequenceId ts) := by
  constructor
  · unfold recvTimestamp at h
    split at h
    · assumption
    · cases h
  · intro hport ts hts hanswers
    obtain ⟨result, hok⟩ := (recvTimestamp_ok_iff hport).mpr fun _ =>
      ⟨ts, hts, hanswers⟩
    cases hok.symm.trans h

theorem recvFrame_diverges (h : recvFrame allocated r = .error .diverges) :
    Untimed r.rxTimestamps r.rxBuffer := by
  cases htype : msgTypeOfCode (bufferHeader r.rxBuffer).messageType with
  | none =>
      rw [recvFrame_unknown htype] at h
      cases h
  | some msgType =>
      have htype' := htype
      unfold bufferHeader at htype'
      unfold recvFrame at h
      dsimp only at h
      rw [htype'] at h
      rcases bind_eq_error.mp h with h | ⟨_, _, h⟩
      · exact absurd h recvMsg_ne_diverges
      · rcases bind_eq_error.mp h with h | ⟨_, _, h⟩
        · exact ⟨msgType, htype, recvTimestamp_diverges h⟩
        · cases h

theorem recvPtpFrame_diverges (h : recvPtpFrame allocated r = .error .diverges) :
    exists packet queue, r.queue = packet :: queue ∧
      Untimed r.rxTimestamps (popped packet r.rxBuffer) := by
  unfold recvPtpFrame at h
  split at h
  · cases h
  · rename_i packet queue hqueue
    have huntimed := recvFrame_diverges h
    dsimp only at huntimed
    unfold popped
    exact ⟨packet, queue, hqueue, huntimed⟩

end Reception

namespace TimeSyncMainLoop

/-!
## Causes
-/

/-- A group of machines has ended the process. -/
def EndedBy (f : Fault) (m : TimeSyncMainLoop) : Prop :=
  m.announceLoop.process.stop = some f ∨
    m.clockMasterLoop.syncLoop.stop = some f ∨
      (exists i, (m.mdPdelayReqSms i).vars.process.stop = some f) ∨
        exists i, (m.mdPdelayRespSms i).vars.process.stop = some f

/-- The frame that is taken from the queue ends the process. -/
def ReceptionFails (f : Fault) (allocated : Allocated) (receiver : Receiver) :
    Prop :=
  recvPtpFrame allocated receiver = .error f ∨
    exists received receiver',
      recvPtpFrame allocated receiver = .ok (some received, receiver') ∧
        smIndex received.portNumber = .error f

/-- In one of the passes a frame has ended the process. -/
def Interrupted (config : Config) (memory : MainLoopMemory)
    (passes : List Inputs) (f : Fault) : Prop :=
  exists history inputs rest, passes = history ++ inputs :: rest ∧
    ReceptionFails f inputs.allocated
      (arrive inputs (after config memory history)).receiver

/-- The end of the process has one of the causes. -/
structure Accounted (cause : Fault -> Prop) (m : TimeSyncMainLoop) : Prop where
  owned : forall i, (m.mdPdelayRespSms i).Owned
  ends : forall f, m.stop = some f -> m.EndedBy f ∨ cause f

theorem Accounted.mono {cause cause' : Fault -> Prop} {m : TimeSyncMainLoop}
    (h : m.Accounted cause) (hcause : forall f, cause f -> cause' f) :
    m.Accounted cause' :=
  ⟨h.owned, fun f hf => (h.ends f hf).imp_right (hcause f)⟩

/-- A statement ends the process by one of the causes only. -/
def Accounts (cause : Fault -> Prop)
    (statement : TimeSyncMainLoop -> TimeSyncMainLoop) : Prop :=
  forall m, m.stop = none -> m.Accounted cause ->
    (statement m).Accounted cause

section Rules

variable {cause : Fault -> Prop} {m : TimeSyncMainLoop}

theorem Accounted.thenDo {statement : TimeSyncMainLoop -> TimeSyncMainLoop}
    (h : m.Accounted cause) (hstatement : Accounts cause statement) :
    (m.thenDo statement).Accounted cause := by
  unfold TimeSyncMainLoop.thenDo
  split
  · exact h
  · rename_i hstop
    exact hstatement m (not_not.mp hstop) h

theorem Accounted.halt (h : m.Accounted cause) {f : Fault} (hf : cause f) :
    (m.halt f).Accounted cause :=
  ⟨h.owned, fun _ hstop => Or.inr (Option.some.inj hstop ▸ hf)⟩

theorem accounts_callAnnounce (statement : AnnounceLoop -> AnnounceLoop) :
    Accounts cause (callAnnounce statement) := by
  refine fun m hrunning h => ⟨h.owned, fun f hf => Or.inl (Or.inl ?_)⟩
  change m.stop.or _ = some f at hf
  rw [hrunning] at hf
  exact hf

theorem accounts_callClockMaster
    (statement : ClockMasterLoop -> ClockMasterLoop) :
    Accounts cause (callClockMaster statement) := by
  refine fun m hrunning h => ⟨h.owned, fun f hf =>
    Or.inl (Or.inr (Or.inl ?_))⟩
  change m.stop.or _ = some f at hf
  rw [hrunning] at hf
  exact hf

theorem accounts_callSync (statement : SyncLoop -> SyncLoop) :
    Accounts cause (callSync statement) :=
  accounts_callClockMaster _

theorem accounts_callPdelayReq (i : PortIndex)
    (statement : MDPdelayReqMachine -> MDPdelayReqMachine) :
    Accounts cause (callPdelayReq i statement) := by
  refine fun m hrunning h => ⟨h.owned, fun f hf =>
    Or.inl (Or.inr (Or.inr (Or.inl ⟨i, ?_⟩)))⟩
  have hself := Function.update_self i (statement (m.loadPdelayReq i))
    m.mdPdelayReqSms
  change m.stop.or _ = some f at hf
  rw [hrunning] at hf
  change (Function.update m.mdPdelayReqSms i _ i).vars.process.stop = some f
  rw [hself]
  exact hf

theorem accounts_callPdelayResp (i : PortIndex)
    {statement : MDPdelayRespMachine -> MDPdelayRespMachine}
    (howned : forall sm, sm.Owned -> (statement sm).Owned) :
    Accounts cause (callPdelayResp i statement) := by
  refine fun m hrunning h => ⟨?_, fun f hf =>
    Or.inl (Or.inr (Or.inr (Or.inr ⟨i, ?_⟩)))⟩
  · exact (Function.forall_update_iff _ fun _ (sm : MDPdelayRespMachine) =>
      sm.Owned).mpr ⟨howned (m.loadPdelayResp i) (h.owned i),
        fun j _ => h.owned j⟩
  · have hself := Function.update_self i (statement (m.loadPdelayResp i))
      m.mdPdelayRespSms
    change m.stop.or _ = some f at hf
    rw [hrunning] at hf
    change (Function.update m.mdPdelayRespSms i _ i).vars.process.stop = some f
    rw [hself]
    exact hf

theorem accounts_announce (e : AnnounceLoop.Event) :
    Accounts cause (announce e) :=
  accounts_callAnnounce _

theorem accounts_sync (e : SyncLoop.Event) : Accounts cause (sync e) :=
  accounts_callSync _

theorem accounts_pdelayReq (i : PortIndex) (e : MDPdelayReqMachine.Event) :
    Accounts cause (pdelayReq i e) :=
  accounts_callPdelayReq i _

theorem accounts_pdelayResp (i : PortIndex) (e : MDPdelayRespMachine.Event) :
    Accounts cause (pdelayResp i e) :=
  accounts_callPdelayResp i fun _ h => MDPdelayRespMachine.owned_step h e

end Rules

/-!
## Passes
-/

section Passes

variable {cause : Fault -> Prop} {m : TimeSyncMainLoop} {ts : UScaledNs}

theorem Accounted.checkTimeouts (h : m.Accounted cause) (i : PortIndex) :
    (checkTimeouts ts m i).Accounted cause := by
  unfold TimeSyncMainLoop.checkTimeouts
  refine Accounted.thenDo ?_ (accounts_callAnnounce _)
  refine Accounted.thenDo ?_ (accounts_callSync _)
  exact h.thenDo (accounts_callPdelayReq i _)

theorem receiver_thenDo {statement : TimeSyncMainLoop -> TimeSyncMainLoop}
    (h : forall m, (statement m).receiver = m.receiver) (m : TimeSyncMainLoop) :
    (m.thenDo statement).receiver = m.receiver := by
  unfold thenDo
  split
  · rfl
  · exact h m

theorem receiver_checkTimeouts (m : TimeSyncMainLoop) (i : PortIndex) :
    (TimeSyncMainLoop.checkTimeouts ts m i).receiver = m.receiver := by
  unfold TimeSyncMainLoop.checkTimeouts
  have hreq : forall m, (pdelayReq i (.run ts) m).receiver = m.receiver :=
    fun _ => rfl
  have hsync : forall m, (sync (.timeout i ts) m).receiver = m.receiver :=
    fun _ => rfl
  have hannounce : forall m,
      (announce (.timeout i ts) m).receiver = m.receiver := fun _ => rfl
  rw [receiver_thenDo hannounce, receiver_thenDo hsync, receiver_thenDo hreq]

theorem Accounted.handleMessage (h : m.Accounted cause) (hrunning : m.stop = none)
    {external : Bool} {received : Received} {receiver receiver' : Receiver}
    {allocated : Allocated}
    (hreceived : recvPtpFrame allocated receiver =
      .ok (some received, receiver')) (i : PortIndex) :
    (handleMessage ts i (dispatchMsg external received.ts received.message)
      m).Accounted cause := by
  obtain ⟨⟨header, payload, hcase⟩, hevent⟩ := cases_of_received hreceived
  have hkind := kind_of_recvMsg hcase
  cases hmessage : received.message with
  | pdelayReq message =>
      rw [hmessage] at hkind
      obtain ⟨tsuTs, hts⟩ := Option.isSome_iff_exists.mp
        (hevent (hkind ▸ rfl))
      rw [hts]
      exact accounts_pdelayResp i (.recvReq tsuTs message) m hrunning h
  | pdelayResp message =>
      rw [hmessage] at hkind
      obtain ⟨tsuTs, hts⟩ := Option.isSome_iff_exists.mp
        (hevent (hkind ▸ rfl))
      rw [hts]
      exact accounts_pdelayReq i (.recvResp ts tsuTs message) m hrunning h
  | pdelayRespFollowUp message =>
      exact accounts_pdelayReq i (.recvRespFollowUp ts message) m hrunning h
  | sync message =>
      rw [hmessage] at hkind
      obtain ⟨tsuTs, hts⟩ := Option.isSome_iff_exists.mp
        (hevent (hkind ▸ rfl))
      rw [hts]
      exact accounts_sync (.sync i ts tsuTs message) m hrunning h
  | followUp message =>
      exact accounts_sync (.followUp i ts message) m hrunning h
  | announce message =>
      cases external with
      | false => exact accounts_announce (.announce i ts message) m hrunning h
      | true => exact accounts_announce (.announce i ts message) m hrunning h

theorem Accounted.receive {allocated : Allocated} {receiver : Receiver}
    (h : m.Accounted cause) (hreceiver : m.receiver = receiver)
    (hcause : forall f, ReceptionFails f allocated receiver -> cause f) :
    (receive ts allocated m).Accounted cause := by
  subst hreceiver
  unfold TimeSyncMainLoop.receive
  cases hreceived : recvPtpFrame allocated m.receiver with
  | error f => exact h.halt (hcause f (Or.inl hreceived))
  | ok result =>
      obtain ⟨result, receiver⟩ := result
      have hpopped : Accounted cause { m with receiver := receiver } :=
        ⟨h.owned, h.ends⟩
      cases result with
      | none => exact hpopped
      | some received =>
          have hprint : printPdelayReq { m with receiver := receiver } =
              { m with receiver := receiver } := if_neg (h.owned 0)
          change Accounted cause ((printPdelayReq
            { m with receiver := receiver }).thenDo _)
          rw [hprint]
          refine hpopped.thenDo fun m' hrunning h' => ?_
          unfold switchReceived
          cases hindex : smIndex received.portNumber with
          | error f =>
              have hdispatch : dispatch
                  m'.perPTPInstanceGlobal.externalPortConfigurationEnabled
                  (some received) = .error f :=
                bind_eq_error.mpr (Or.inl hindex)
              rw [hdispatch]
              exact h'.halt
                (hcause f (Or.inr ⟨received, receiver, hreceived, hindex⟩))
          | ok i =>
              have hdispatch : dispatch
                  m'.perPTPInstanceGlobal.externalPortConfigurationEnabled
                  (some received) = _ :=
                bind_eq_ok.mpr ⟨i, hindex, rfl⟩
              rw [hdispatch]
              exact h'.handleMessage hrunning hreceived i

theorem Accounted.thenReceive {allocated : Allocated} {receiver : Receiver}
    (h : m.Accounted cause) (hreceiver : m.receiver = receiver)
    (hcause : forall f, ReceptionFails f allocated receiver -> cause f)
    (ts : UScaledNs) :
    (m.thenDo (TimeSyncMainLoop.receive ts allocated)).Accounted cause := by
  unfold TimeSyncMainLoop.thenDo
  split
  · exact h
  · exact h.receive hreceiver hcause

theorem accounts_handleTxTimestamp (i : PortIndex) (tsuTs : TSUTimestamp) :
    Accounts cause (handleTxTimestamp ts i tsuTs) := by
  intro m hrunning h
  unfold handleTxTimestamp
  split
  · exact accounts_callPdelayReq i _ m hrunning h
  · split
    · exact accounts_pdelayResp i _ m hrunning h
    · split
      · exact accounts_callSync _ m hrunning h
      · exact h

theorem Accounted.checkTxTimestamp {inputs : Inputs} (h : m.Accounted cause)
    (i : PortIndex) : (checkTxTimestamp inputs m i).Accounted cause := by
  unfold TimeSyncMainLoop.checkTxTimestamp
  split
  · exact h
  · exact h.thenDo (accounts_handleTxTimestamp i _)

/-- A pass adds one cause: the frame that it takes from the queue. -/
theorem Accounted.pass {inputs : Inputs} (h : m.Accounted cause)
    (hcause : forall f, ReceptionFails f inputs.allocated
      (arrive inputs m).receiver -> cause f) :
    (m.pass inputs).Accounted cause := by
  by_cases hrunning : m.stop = none
  · have harrived : m.thenDo (arrive inputs) = arrive inputs m :=
      thenDo_running hrunning _
    have hbegins : (arrive inputs m).Accounted cause := ⟨h.owned, h.ends⟩
    have hclock : ((arrive inputs m).thenDo (tick inputs.reading)).Accounted
        cause := hbegins.thenDo (accounts_callClockMaster _)
    have htick : forall m, (tick inputs.reading m).receiver = m.receiver :=
      fun _ => rfl
    have hreceiver := receiver_thenDo htick (arrive inputs m)
    obtain ⟨htimeouts, hreceiver'⟩ := foldl_preserves
      (I := fun m' : TimeSyncMainLoop => m'.Accounted cause ∧
        m'.receiver = (arrive inputs m).receiver)
      (fun m' i h' =>
        ⟨@Accounted.checkTimeouts cause m' inputs.currentTs h'.left i,
          (receiver_checkTimeouts m' i).trans h'.right⟩)
      (List.finRange nPorts) ⟨hclock, hreceiver⟩
    have hreceived := htimeouts.thenReceive hreceiver' hcause
      inputs.currentTs
    have hselected := hreceived.thenDo
      (accounts_callAnnounce fun l => l.step .select)
    have hpass := foldl_preserves (I := Accounted cause)
      (fun _ i h' => @Accounted.checkTxTimestamp cause _ inputs h' i)
      (List.finRange nPorts) hselected
    unfold TimeSyncMainLoop.pass
    dsimp only
    rw [harrived]
    exact hpass
  · have hstays : forall statement : TimeSyncMainLoop -> TimeSyncMainLoop,
        m.thenDo statement = m := fun _ => if_pos hrunning
    have htimeouts : forall i,
        TimeSyncMainLoop.checkTimeouts inputs.currentTs m i = m := by
      intro i
      unfold TimeSyncMainLoop.checkTimeouts
      rw [hstays, hstays, hstays]
    have hstamps : forall i, TimeSyncMainLoop.checkTxTimestamp inputs m i = m := by
      intro i
      unfold TimeSyncMainLoop.checkTxTimestamp
      split
      · rfl
      · exact hstays _
    unfold TimeSyncMainLoop.pass
    dsimp only
    rw [hstays, hstays, List.foldl_fixed' htimeouts, hstays, hstays,
      List.foldl_fixed' hstamps]
    exact h

end Passes

/-!
## Runs
-/

section Runs

variable (config : Config) (memory : MainLoopMemory)

theorem after_concat (history : List Inputs) (inputs : Inputs) :
    after config memory (history ++ [inputs]) =
      (after config memory history).pass inputs := by
  unfold after
  rw [runEvents_concat]

end Runs

/-!
## Runs that hang
-/

section Hangs

variable {config : Config} {memory : MainLoopMemory} {passes : List Inputs}
  {c : Parts}

/-- The clock master rests, and the machines below it come to an end. -/
def MasterConvergent (w : ClockMasterLoop) : Prop :=
  w.Steady ∧ w.syncLoop.Convergent

theorem MasterConvergent.step {w : ClockMasterLoop} (h : MasterConvergent w)
    (e : ClockMasterLoop.Event) : MasterConvergent (w.step e) := by
  refine ⟨ClockMasterLoop.steady_step h.left e, ?_⟩
  rcases ClockMasterLoop.syncLoop_step h.left e with heq | ⟨e', heq⟩
  · rw [heq]
    exact h.right
  · rw [heq]
    exact h.right.step e'

section Stops

variable {m : TimeSyncMainLoop} (h : c.Composes config m)

include h

end Stops

/-- In one of the passes the loop waits for a timestamp that never comes. -/
def WaitsForTimestamp (config : Config) (memory : MainLoopMemory)
    (passes : List Inputs) : Prop :=
  exists history inputs rest packet queue,
    passes = history ++ inputs :: rest ∧
      (arrive inputs (after config memory history)).receiver.queue =
        packet :: queue ∧
      Untimed (arrive inputs (after config memory history)).receiver.rxTimestamps
        (popped packet (after config memory history).receiver.rxBuffer)

theorem Interrupted.waits (h : Interrupted config memory passes .diverges) :
    WaitsForTimestamp config memory passes := by
  obtain ⟨history, inputs, rest, hpasses, hfails⟩ := h
  rcases hfails with hfails | ⟨received, _, _, hindex⟩
  · obtain ⟨packet, queue, hqueue, huntimed⟩ := recvPtpFrame_diverges hfails
    exact ⟨history, inputs, rest, packet, queue, hpasses, hqueue, huntimed⟩
  · unfold smIndex at hindex
    split at hindex
    · cases hindex
    · cases hindex

end Hangs

end TimeSyncMainLoop

end TimeSync
end Ziggo
