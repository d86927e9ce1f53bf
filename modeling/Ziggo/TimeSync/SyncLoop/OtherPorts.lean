import Ziggo.TimeSync.SyncLoop.Forwarding

/-!
# Messages on other ports

What a pair of messages on a port that is not the slave port changes.
-/

namespace Ziggo
namespace TimeSync

open Foundation TsnDrivers

/-- The port on which a message or a timeout is handled. -/
def SyncLoop.Event.port : SyncLoop.Event -> Option PortIndex
  | .sync i _ _ _ => some i
  | .followUp i _ _ => some i
  | .timeout i _ => some i
  | _ => none

namespace SyncLoop

/-- The receiver of a port that is not the slave port is called. -/
def Aside (l : SyncLoop) (e : Event) : Prop :=
  exists i, e.port = some i ∧
    l.perPTPInstanceGlobal.selectedState i.succ ≠ .slavePort

/-- Neither the instance nor the clock slave nor a sender notices an event. -/
structure Unnoticed (l l' : SyncLoop) : Prop where
  instanceGlobal : l'.perPTPInstanceGlobal = l.perPTPInstanceGlobal
  slave : l'.clockSlaveSyncSm = l.clockSlaveSyncSm
  rtc : l'.rtc = l.rtc
  senders : l'.mdSyncSendSms = l.mdSyncSendSms
  running : l'.stop = l.stop

/-- The timeout for a pair that is passed on is the one that is set already. -/
def KeepsTimeout (l : SyncLoop) (e : Event) : Prop :=
  forall p, accepted l e = some p ->
    exists interval,
      PortSyncSyncReceiveSM.intervalOf l p.port (p.mdSync l) = .ok interval ∧
        uscalednsAdd p.ts interval =
          l.perPTPInstanceGlobal.syncReceiptTimeoutTime

section Steps

variable {l : SyncLoop} {e : Event}

theorem receives_of_port {i : PortIndex} (h : e.port = some i) :
    e.Receives := by
  cases e with
  | sync => trivial
  | followUp => trivial
  | timeout => trivial
  | clockMaster => cases h
  | txts => cases h
  | select => cases h
  | delay => cases h
  | announce => cases h

theorem port_of_accepted {p : Pair} (h : accepted l e = some p) :
    e.port = some p.port := by
  obtain ⟨_, l', hheard, _⟩ := accepted_eq_some h
  cases e with
  | sync =>
      simp only [heard] at hheard
      split at hheard
      · cases hheard
        rfl
      · cases hheard
  | followUp =>
      simp only [heard] at hheard
      split at hheard
      · cases hheard
        rfl
      · cases hheard
  | timeout =>
      simp only [heard] at hheard
      split at hheard
      · cases hheard
        rfl
      · cases hheard
  | clockMaster => cases hheard
  | txts => cases hheard
  | select => cases hheard
  | delay => cases hheard
  | announce => cases hheard

theorem unnoticed_refl (l : SyncLoop) : Unnoticed l l :=
  ⟨rfl, rfl, rfl, rfl, rfl⟩

/-- The site forgets the structure of a port that is not the slave port. -/
theorem output_ignored {ts : UScaledNs} {pss : PortSyncSync}
    (hoperating : l.resetting = false) (hrunning : l.stop = none)
    (hrest : SiteSyncSyncSM.Rests l)
    (hnot : l.perPTPInstanceGlobal.selectedState pss.localPortNumber ≠
      .slavePort) :
    output (SiteSyncSyncSM.recvPSSync ts pss l) =
      output (l.call (.siteSyncSync pss)) := by
  have hfrom : SiteSyncSyncSM.fromSlavePort l pss = false :=
    decide_eq_false fun h => hnot h.left
  rw [SiteSyncSyncSM.recvPSSync_ignored hoperating hrunning hrest hfrom]
  rfl

/-- A new timeout is all that the pair leaves behind. -/
theorem unnoticed_delivered (h : l.AtRest)
    {sms sms' : PortIndex -> MDSyncReceiveSM} {i : PortIndex} {ts : UScaledNs}
    {mdSync : MDSyncReceive} {interval : UScaledNs}
    (hready : (withMessages sms l).Ready) (hport : l.portReady i = true)
    (hinterval : PortSyncSyncReceiveSM.intervalOf l i mdSync = .ok interval)
    (hnot : l.perPTPInstanceGlobal.selectedState i.succ ≠ .slavePort) :
    Unnoticed l (withMessages sms' (PortSyncSyncReceiveSM.recvMDSync i ts mdSync
        (withMessages sms l))) <->
      uscalednsAdd ts interval =
        l.perPTPInstanceGlobal.syncReceiptTimeoutTime := by
  have harrives := @arrives_delivered l h sms sms' i ts mdSync interval hready
    hport hinterval
  have hthis : (PortSyncSyncReceiveSM.psSyncFor l i ts mdSync
      interval).localPortNumber = i.succ := h.ready.configured.thisPort i
  have hresult := harrives.result.trans
    (output_ignored harrives.configured.operating harrives.running
      harrives.rests (by rw [hthis]; exact hnot))
  have hinstance := congrArg Output.perPTPInstanceGlobal hresult
  constructor
  · intro hsame
    have htime : uscalednsAdd ts interval = _ :=
      congrArg PerPTPInstanceGlobal.syncReceiptTimeoutTime hinstance.symm
    rw [htime]
    exact congrArg PerPTPInstanceGlobal.syncReceiptTimeoutTime
      hsame.instanceGlobal
  · intro htime
    refine ⟨hinstance.trans ?_, congrArg Output.clockSlaveSyncSm hresult,
      congrArg Output.rtc hresult, congrArg Output.mdSyncSendSms hresult,
      congrArg Output.stop hresult⟩
    change PortSyncSyncSendSM.withSyncReceiptTimeoutTime
      (uscalednsAdd ts interval) l.perPTPInstanceGlobal = _
    rw [htime]
    rfl

theorem unnoticed_step_iff (h : l.Steady) (haside : Aside l e) :
    Unnoticed l (l.step e) <-> KeepsTimeout l e := by
  obtain ⟨i, hport, hnot⟩ := haside
  by_cases hrunning : l.stop = none
  · have hrest := h hrunning
    rw [step_running hrunning]
    cases haccepted : accepted l e with
    | none =>
        obtain ⟨sms, hhandle⟩ :=
          handle_not_accepted hrest (receives_of_port hport) haccepted
        rw [hhandle]
        refine iff_of_true ⟨rfl, rfl, rfl, rfl, rfl⟩ fun p hp => ?_
        rw [haccepted] at hp
        cases hp
    | some p =>
        obtain ⟨hready, sms, sms', hbelow, hhandle⟩ :=
          handle_accepted hrest haccepted
        have hsame : p.port = i :=
          Option.some.inj ((port_of_accepted haccepted).symm.trans hport)
        rw [← hsame] at hnot
        have hkeeps : KeepsTimeout l e <->
            exists interval,
              PortSyncSyncReceiveSM.intervalOf l p.port (p.mdSync l) =
                  .ok interval ∧
                uscalednsAdd p.ts interval =
                  l.perPTPInstanceGlobal.syncReceiptTimeoutTime := by
          unfold KeepsTimeout
          rw [haccepted]
          simp
        rw [hhandle, hkeeps]
        cases hinterval : PortSyncSyncReceiveSM.intervalOf l p.port
            (p.mdSync l) with
        | error f =>
            have hcall := @PortSyncSyncReceiveSM.recvMDSync_error
              (withMessages sms l) p.port p.ts (p.mdSync l) hbelow hready f
              hinterval
            refine iff_of_false (fun hsame => ?_) (by simp)
            have hstop := hsame.running
            rw [hcall, hrunning] at hstop
            cases hstop
        | ok interval =>
            rw [unnoticed_delivered hrest hbelow hready hinterval hnot]
            simp
  · rw [step_stopped hrunning]
    refine iff_of_true (unnoticed_refl l) fun p hp => ?_
    exact absurd (accepted_eq_some hp).left hrunning

end Steps

/--
In a run the messages on the other ports go unnoticed exactly if each timeout
that they set is the one that has been set before.
-/
theorem aside_unnoticed_iff (config : Config) (memory : SyncMemory)
    (es : List Event) :
    Along step (fun l e => Aside l e -> Unnoticed l (l.step e))
        (start config memory) es <->
      Along step (fun l e => Aside l e -> KeepsTimeout l e)
        (start config memory) es := by
  have hsteady : forall history,
      (runEvents step (start config memory) history).Steady :=
    steady_after config memory
  constructor
  · intro h history e rest hes haside
    exact (unnoticed_step_iff (hsteady history) haside).mp
      (h history e rest hes haside)
  · intro h history e rest hes haside
    exact (unnoticed_step_iff (hsteady history) haside).mpr
      (h history e rest hes haside)

def masterPortPair : List Event :=
  [.sync 1 default default default, .followUp 1 default default]

/-- A pair on a master port keeps the slave port from its timeout. -/
theorem master_port_pair_noticed :
    ¬ Along step (fun l e => Aside l e -> Unnoticed l (l.step e))
      (start bridgeConfig default) masterPortPair := by
  intro h
  have hlast : Aside (after bridgeConfig default [.sync 1 default default default])
      (.followUp 1 default default) ->
      Unnoticed (after bridgeConfig default [.sync 1 default default default])
        (after bridgeConfig default masterPortPair) :=
    @Along.last _ _ step _ _ [.sync 1 default default default] _ h
  have hsame := (hlast ⟨1, rfl, by decide +kernel⟩).instanceGlobal
  have htime := congrArg PerPTPInstanceGlobal.syncReceiptTimeoutTime hsame
  have hdiffer : (after bridgeConfig default
        masterPortPair).perPTPInstanceGlobal.syncReceiptTimeoutTime ≠
      (after bridgeConfig default
        [.sync 1 default default
          default]).perPTPInstanceGlobal.syncReceiptTimeoutTime := by
    decide +kernel
  exact hdiffer htime

end SyncLoop

end TimeSync
end Ziggo
