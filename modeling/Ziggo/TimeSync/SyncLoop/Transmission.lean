import Ziggo.TimeSync.SyncLoop.Initialization
import Ziggo.TimeSync.SyncLoop.Relates
import Ziggo.TimeSync.Transmission

/-!
# Transmitted Sync and Follow_Up messages

The machines that send `Sync` and `Follow_Up` messages name the source that the
senders of the ports hand to them, and number the `Sync` messages.
-/

namespace Ziggo
namespace TimeSync

open Foundation TsnDrivers

namespace MDSyncSendSM

/-- What the machine has sent, and what it is about to send. -/
structure Transmits (thisClock : ClockIdentity) (port : Port)
    (sm : MDSyncSendSM) : Prop where
  thisPort : sm.perPortGlobal.thisPort = port
  received : forall mdSync, sm.rcvdMDSyncPtr = .live mdSync ->
    mdSync.sourcePortIdentity =
      { clockIdentity := thisClock, portNumber := portNumberOf port }
  source : Source thisClock port [.sync, .followUp] sm.process.sent
  consecutive : Consecutive (sequenceIds .sync port sm.process.sent)
    sm.mdEntityGlobal.syncSequenceId

section Actions

variable {thisClock : ClockIdentity} {port : Port} {sm : MDSyncSendSM}
  {mdSync : MDSyncSend}

theorem Transmits.withMDSync (h : Transmits thisClock port sm)
    (hsource : mdSync.sourcePortIdentity =
      { clockIdentity := thisClock, portNumber := portNumberOf port }) :
    Transmits thisClock port (sm.withMDSync mdSync) where
  thisPort := h.thisPort
  received mdSync' hlive := by
    cases hlive
    exact hsource
  source := h.source
  consecutive := h.consecutive

theorem Transmits.withTimestamp (h : Transmits thisClock port sm)
    (tsuTimestamp : TSUTimestamp) :
    Transmits thisClock port (sm.withTimestamp tsuTimestamp) :=
  ⟨h.thisPort, h.received, h.source, h.consecutive⟩

theorem Transmits.synced (h : Transmits thisClock port sm)
    (hmdSync : sm.rcvdMDSyncPtr = .live mdSync) :
    Transmits thisClock port (sm.synced mdSync) := by
  have hsent : (sm.synced mdSync).process.sent = sm.process.sent ++
      [{ port := port, message := .sync (sm.setSyncTwoStep mdSync) }] := by
    rw [← h.thisPort]
    rfl
  refine ⟨h.thisPort, h.received, ?_, ?_⟩
  · rw [hsent]
    exact h.source.send (h.received mdSync hmdSync) (by simp [PTPMsg.kind])
  · have hids := @sequenceIds_send .sync port sm.process.sent
      (.sync (sm.setSyncTwoStep mdSync)) rfl
    rw [hsent, hids]
    exact h.consecutive.send

theorem Transmits.followedUp (h : Transmits thisClock port sm)
    (hmdSync : sm.rcvdMDSyncPtr = .live mdSync) (sync : PTPMsgSync) :
    Transmits thisClock port (sm.followedUp mdSync sync) := by
  have hsent : (sm.followedUp mdSync sync).process.sent = sm.process.sent ++
      [{ port := port
         message := .followUp (followUpOf mdSync sm.syncEventEgressTimestamp
           sync.head.sequenceId) }] := by
    rw [← h.thisPort]
    rfl
  refine ⟨h.thisPort, h.received, ?_, ?_⟩
  · rw [hsent]
    exact h.source.send (h.received mdSync hmdSync) (by simp [PTPMsg.kind])
  · rw [hsent, sequenceIds_other (by simp [PTPMsg.kind])]
    exact h.consecutive

end Actions

end MDSyncSendSM

namespace MDSyncSendMachine

open MDSyncSendSM

section Calls

variable {thisClock : ClockIdentity} {port : Port} {m : MDSyncSendMachine}
  {mdSync : MDSyncSend} {tsuTimestamp : TSUTimestamp}

theorem transmits_recvMDSync (h : AtRest m)
    (hm : Transmits thisClock port m.vars)
    (hsource : mdSync.sourcePortIdentity =
      { clockIdentity := thisClock, portNumber := portNumberOf port }) :
    Transmits thisClock port (step m (.recvMDSync mdSync)).vars := by
  have hstored := hm.withMDSync hsource
  by_cases hstate : m.state = .sendSync
  · rw [step_recvMDSync_waiting h hstate]
    exact hstored
  · by_cases hcapable : m.vars.Capable
    · rw [step_recvMDSync_sent h hstate hcapable]
      exact hstored.synced rfl
    · rw [step_recvMDSync_unable h (h.initializing_of_incapable hcapable)
        hcapable]
      exact hstored

theorem transmits_txts (h : AtRest m) (hm : Transmits thisClock port m.vars) :
    Transmits thisClock port (step m (.txts tsuTimestamp)).vars := by
  by_cases hstate : m.state = .sendSync
  · cases hmatch : m.vars.timestampMatches tsuTimestamp with
    | false =>
        rw [step_txts_mismatch h hmatch]
        exact hm
    | true =>
        have hduring := h.during
        rw [hstate] at hduring
        obtain ⟨_, ⟨mdSync, hmdSync⟩, sync, hsent⟩ := hduring
        have hfollowed :=
          (hm.withTimestamp tsuTimestamp).followedUp hmdSync sync
        cases hflag : m.vars.rcvdMDSyncMDSS with
        | false =>
            rw [step_txts_followedUp h hstate hmatch hmdSync hsent.left hflag]
            exact hfollowed
        | true =>
            rw [step_txts_pending h hstate hmatch hmdSync hsent.left hflag]
            exact hfollowed.synced hmdSync
  · rw [step_txts_unexpected h hstate]
    exact hm

end Calls

end MDSyncSendMachine

namespace SyncLoop

/-!
## The machines of the loop
-/

/-- The machine of one port that sends `Sync` and `Follow_Up` messages. -/
structure Sends (s : Settings) (i : PortIndex) (m : MDSyncSendMachine) :
    Prop where
  atRest : m.AtRest
  instanceSettings : instanceSettings m.vars.perPTPInstanceGlobal =
    s.instanceSettings
  portSettings : portSettings m.vars.perPortGlobal = s.portSettings i
  transmits : m.vars.Transmits s.instanceSettings.thisClock
    (s.portSettings i).thisPort

/-- All ports send with the given settings. -/
def Sending (s : Settings) (l : SyncLoop) : Prop :=
  l.settings = s ∧ forall i, Sends s i (l.mdSyncSendSms i)

section Calls

variable {s : Settings} {l : SyncLoop}

theorem Sending.load (h : Sending s l) (i : PortIndex) :
    (PortSyncSyncSendSM.loadMDSyncSend l i).AtRest ∧
      (PortSyncSyncSendSM.loadMDSyncSend l i).vars.Transmits
        s.instanceSettings.thisClock (s.portSettings i).thisPort := by
  obtain ⟨hsettings, hsends⟩ := h
  have hinstance : instanceSettings l.perPTPInstanceGlobal =
      s.instanceSettings := congrArg Settings.instanceSettings hsettings
  have hport : portSettings (l.perPortGlobal i) = s.portSettings i :=
    congrFun (congrArg Settings.portSettings hsettings) i
  refine ⟨?_, ?_⟩
  · exact PortSyncSyncSendSM.atRest_load (hsends i).atRest rfl
      (hinstance.trans (hsends i).instanceSettings.symm)
      (hport.trans (hsends i).portSettings.symm)
  · obtain ⟨_, hreceived, hsource, hconsecutive⟩ := (hsends i).transmits
    exact ⟨congrArg PortSettings.thisPort hport, hreceived, hsource,
      hconsecutive⟩

theorem Sending.store (h : Sending s l) {i : PortIndex}
    {m : MDSyncSendMachine} (hrest : m.AtRest)
    (hglobals : m.globals = (PortSyncSyncSendSM.loadMDSyncSend l i).globals)
    (htransmits : m.vars.Transmits s.instanceSettings.thisClock
      (s.portSettings i).thisPort) :
    Sending s (PortSyncSyncSendSM.storeMDSyncSend i m l) := by
  obtain ⟨hsettings, hsends⟩ := h
  refine ⟨hsettings, fun j => ?_⟩
  change Sends s j (Function.update l.mdSyncSendSms i m j)
  by_cases hj : j = i
  · subst hj
    rw [Function.update_self]
    refine ⟨hrest, ?_, ?_, htransmits⟩
    · rw [show m.vars.perPTPInstanceGlobal = l.perPTPInstanceGlobal from
        congrArg Prod.fst hglobals]
      exact congrArg Settings.instanceSettings hsettings
    · rw [show m.vars.perPortGlobal = l.perPortGlobal j from
        congrArg Prod.snd hglobals]
      exact congrFun (congrArg Settings.portSettings hsettings) j
  · rw [Function.update_of_ne hj]
    exact hsends j

theorem Sending.txMDSync (h : Sending s l) (i : PortIndex)
    (sm : PortSyncSyncSendSM) :
    Sending s (PortSyncSyncSendSM.txMDSync i
      (sm.setMDSync l.perPTPInstanceGlobal (l.perPortGlobal i)) l) := by
  obtain ⟨hrest, htransmits⟩ := h.load i
  have hsource : (sm.setMDSync l.perPTPInstanceGlobal
      (l.perPortGlobal i)).sourcePortIdentity =
        { clockIdentity := s.instanceSettings.thisClock
          portNumber := portNumberOf (s.portSettings i).thisPort } := by
    rw [← h.left]
    rfl
  have hcalled : Sending s (l.call (.mdSyncSend i
      (sm.setMDSync l.perPTPInstanceGlobal (l.perPortGlobal i)))) := h
  exact hcalled.store (MDSyncSendMachine.atRest_step hrest _)
    (MDSyncSendMachine.globals_recvMDSync hrest _)
    (MDSyncSendMachine.transmits_recvMDSync hrest htransmits hsource)

theorem Sending.txts (h : Sending s l) (i : PortIndex)
    (tsuTimestamp : TSUTimestamp) : Sending s (txts i tsuTimestamp l) := by
  obtain ⟨hrest, htransmits⟩ := h.load i
  exact h.store (MDSyncSendMachine.atRest_step hrest _)
    (MDSyncSendMachine.globals_txts hrest _)
    (MDSyncSendMachine.transmits_txts hrest htransmits)

end Calls

theorem admits_sending (s : Settings) :
    Admits fun l l' => Sending s l -> Sending s l' where
  silent {l l'} h hl := by
    have hsettings : l'.settings = l.settings := congrArg LowerView.settings h
    have hsms : l'.mdSyncSendSms = l.mdSyncSendSms :=
      congrArg LowerView.mdSyncSendSms h
    unfold Sending
    rw [hsettings, hsms]
    exact hl
  trans h h' hl := h' (h hl)
  call _ _ h := h
  transmit i sm _ h := h.txMDSync i sm

theorem sending_step {s : Settings} {l : SyncLoop} (h : Sending s l)
    (e : Event) : Sending s (l.step e) := by
  refine (admits_sending s).thenDo (fun l => ?_) l h
  exact (admits_sending s).handle (fun i t _ h => h.txts i t) e l

/-!
## Runs
-/

/-- The machines of some ports have been initialized. -/
structure Launched (s : Settings) (done : PortIndex -> Prop) (l : SyncLoop) :
    Prop where
  starting : Starting done l
  settings : l.settings = s
  sends : forall i, done i -> Sends s i (l.mdSyncSendSms i)
  silent : forall i, ¬ done i -> (l.mdSyncSendSms i).vars.process.sent = []

theorem sends_startedMDSyncSend {l : SyncLoop} {i : PortIndex}
    (hoperating : l.resetting = false) (hfresh : Fresh l i)
    (hsilent : (l.mdSyncSendSms i).vars.process.sent = []) :
    Sends l.settings i (startedMDSyncSend l i) := by
  have hglobals := @globals_startedMDSyncSend l i hfresh
  have hstarted := @MDSyncSendMachine.initMdSyncSendSm_eq
    (PortSyncSyncSendSM.loadMDSyncSend l i).vars hfresh
  have hsent : (startedMDSyncSend l i).vars.process.sent = [] := by
    unfold startedMDSyncSend
    rw [hstarted]
    exact hsilent
  have hnull : (startedMDSyncSend l i).vars.rcvdMDSyncPtr = .null := by
    unfold startedMDSyncSend
    rw [hstarted]
    rfl
  refine ⟨atRest_startedMDSyncSend hoperating hfresh, ?_, ?_, ?_, ?_, ?_, ?_⟩
  · exact congrArg (fun g => TimeSync.instanceSettings g.1) hglobals
  · exact congrArg (fun g => TimeSync.portSettings g.2) hglobals
  · exact congrArg (fun g => g.2.thisPort) hglobals
  · intro mdSync hlive
    rw [hnull] at hlive
    cases hlive
  · rw [hsent]
    exact source_nil
  · rw [hsent]
    exact consecutive_nil _

theorem Launched.initPort {s : Settings} {done : PortIndex -> Prop}
    {l : SyncLoop} {i : PortIndex} (hi : ¬ done i) (h : Launched s done l) :
    Launched s (fun j => j = i ∨ done j) (initPort l i) := by
  have hfresh := h.starting.fresh i hi
  have hoperating := h.starting.configured.operating
  have hstarting := h.starting.initPort hi
  rw [initPort_eq hoperating h.starting.running hfresh] at hstarting ⊢
  have hself : (started i l).mdSyncSendSms i =
      startedMDSyncSend (senderStarted i (receiverStarted i l)) i :=
    Function.update_self i _ _
  have hother : forall {j}, j ≠ i ->
      (started i l).mdSyncSendSms j = l.mdSyncSendSms j := fun hj =>
    PortSyncSyncSendSM.update_other hj
  have hsettings : (senderStarted i (receiverStarted i l)).settings = s :=
    (congrArg LowerView.settings
      (PortSyncSyncSendSM.lowerView_clearSlowDown i _)).trans h.settings
  refine ⟨hstarting, (settings_started i l).trans h.settings, fun j hj => ?_,
    fun j hj => ?_⟩
  · by_cases hji : j = i
    · subst hji
      rw [hself, ← hsettings]
      exact sends_startedMDSyncSend hoperating hfresh (h.silent j hi)
    · rw [hother hji]
      exact h.sends j (hj.resolve_left hji)
  · rw [not_or] at hj
    rw [hother hj.left]
    exact h.silent j hj.right

theorem launched_start (config : Config) (memory : SyncMemory) :
    Launched (initial config memory).settings
      (fun j => j ∈ List.finRange nPorts ∨ False) (start config memory) := by
  unfold start
  rw [instance_started]
  exact foldl_distinct
    (I := Launched (initial config memory).settings)
    (fun _ _ _ hi h => h.initPort hi) (List.nodup_finRange nPorts)
    (fun _ _ h => h)
    ⟨starting_initial config memory, rfl, fun _ h => h.elim, fun _ _ => rfl⟩

theorem sending_after (config : Config) (memory : SyncMemory)
    (es : List Event) :
    Sending (initial config memory).settings (after config memory es) := by
  have hlaunched := launched_start config memory
  have hstart : Sending (initial config memory).settings
      (start config memory) :=
    ⟨hlaunched.settings, fun i =>
      hlaunched.sends i (Or.inl (List.mem_finRange i))⟩
  unfold after
  exact @run_invariant_always _ _ step (start config memory)
    (Sending (initial config memory).settings) hstart
    (fun _ e h => sending_step h e) es

end SyncLoop

end TimeSync
end Ziggo
