import Ziggo.TimeSync.TimeSyncMainLoop
import Ziggo.TimeSync.TimeSyncMainLoop.Parts

/-!
# Calls in the main loop

The main loop is composed of its parts, and stays so in every call: the part
that is called takes a step of its own loop, and another part learns what the
call has changed of the globals that it reads.
-/

namespace Ziggo
namespace TimeSync

open Foundation TsnDrivers

namespace TimeSyncMainLoop

/-- The variables of the loop that its parts share. -/
def shared (m : TimeSyncMainLoop) : Shared where
  perPTPInstanceGlobal := m.perPTPInstanceGlobal
  perPortGlobal := m.perPortGlobal
  mdEntityGlobal := m.mdEntityGlobal

/-- States of the parts of the loop, each in a loop of its own. -/
structure Parts where
  announceLoop : AnnounceLoop
  clockMasterLoop : ClockMasterLoop
  mdPdelayReqSms : PortIndex -> MDPdelayReqMachine
  mdPdelayRespSms : PortIndex -> MDPdelayRespMachine

namespace Parts

/-- No part has ended the process. -/
structure Running (c : Parts) : Prop where
  announceLoop : c.announceLoop.process.stop = none
  clockMasterLoop : c.clockMasterLoop.syncLoop.stop = none
  mdPdelayReqSms : forall i, (c.mdPdelayReqSms i).vars.process.stop = none
  mdPdelayRespSms : forall i, (c.mdPdelayRespSms i).vars.process.stop = none

structure Composes (config : Config) (c : Parts) (m : TimeSyncMainLoop) :
    Prop where
  configured : AnnounceLoop.Configured config m.loadAnnounce
  announceLoop : m.shared.ShowsAnnounce c.announceLoop m.announceLoop
  clockMasterLoop :
    m.shared.ShowsClockMaster c.clockMasterLoop m.clockMasterLoop
  mdPdelayReqSms : forall i,
    m.shared.ShowsPdelayReq i (c.mdPdelayReqSms i) (m.mdPdelayReqSms i)
  mdPdelayRespSms : forall i,
    m.shared.ShowsPdelayResp i (c.mdPdelayRespSms i) (m.mdPdelayRespSms i)
  running : m.stop = none -> c.Running

end Parts

variable {config : Config} {c : Parts} {m : TimeSyncMainLoop}

def Parts.withSync (c : Parts) (statement : SyncLoop -> SyncLoop) : Parts :=
  { c with
    clockMasterLoop :=
      c.clockMasterLoop.withSyncLoop (statement c.clockMasterLoop.syncLoop) }

open Parts

theorem composes_halt (h : c.Composes config m) (f : Fault) :
    c.Composes config (m.halt f) :=
  ⟨h.configured, h.announceLoop, h.clockMasterLoop, h.mdPdelayReqSms,
    h.mdPdelayRespSms, fun hrunning => nomatch hrunning⟩

theorem composes_receiver (h : c.Composes config m) (receiver : Receiver) :
    c.Composes config { m with receiver := receiver } :=
  ⟨h.configured, h.announceLoop, h.clockMasterLoop, h.mdPdelayReqSms,
    h.mdPdelayRespSms, h.running⟩

theorem composes_callAnnounce (h : c.Composes config m)
    {statement : AnnounceLoop -> AnnounceLoop}
    (hsees : forall x ps, Preserves (AnnounceLoop.Beside x ps) statement)
    (hconfigured : forall l, AnnounceLoop.Configured config l ->
      AnnounceLoop.Configured config (statement l)) :
    Composes config
      (({ c with announceLoop := statement c.announceLoop } : Parts).withSync
        (SyncLoop.select
          (statement m.loadAnnounce).perPTPInstanceGlobal.selectedState
          (statement m.loadAnnounce).perPTPInstanceGlobal.gmPresent
          (statement m.loadAnnounce).perPTPInstanceGlobal.syncReceiptTimeoutTime))
      (m.callAnnounce statement) := by
  have hstatement := hsees _ _ _ _ h.announceLoop
  have hleaves := h.configured.leaves (hconfigured _ h.configured)
    (hsees _ _ _ _ m.loadAnnounce.beside_refl)
  have hsync := hleaves.sameForSync m.mdEntityGlobal
  have hpdelay := hleaves.sameForPdelay m.mdEntityGlobal
  exact
    { configured := hconfigured _ h.configured
      announceLoop := hstatement.rebase
      clockMasterLoop := Shared.ShowsClockMaster.withSyncLoop h.clockMasterLoop
        fun hl => Shared.ShowsSync.same (hl.select _ _ _) hsync
      mdPdelayReqSms := fun i =>
        Shared.ShowsPdelayReq.same (h.mdPdelayReqSms i) (hpdelay i)
      mdPdelayRespSms := fun i =>
        Shared.ShowsPdelayResp.same (h.mdPdelayRespSms i) (hpdelay i).resp
      running := fun hrunning => by
        obtain ⟨hbefore, hafter⟩ := Option.or_eq_none_iff.mp hrunning
        have hrest := h.running hbefore
        refine ⟨?_, hrest.clockMasterLoop, hrest.mdPdelayReqSms,
          hrest.mdPdelayRespSms⟩
        exact (congrArg Process.stop hstatement.process).symm.trans hafter }

theorem configured_leaves {l' : SyncLoop}
    (h : AnnounceLoop.Configured config m.loadAnnounce)
    (hleaves : m.loadSync.Leaves l') {m' : TimeSyncMainLoop}
    (hglobal : m'.perPTPInstanceGlobal = l'.perPTPInstanceGlobal)
    (hports : m'.perPortGlobal = l'.perPortGlobal) :
    AnnounceLoop.Configured config m'.loadAnnounce where
  global := by
    have hkept := hleaves.instanceSettings
    rw [← hglobal] at hkept
    exact hkept.trans h.global
  port i := by
    have hkept := hleaves.portSettings i
    rw [← hports] at hkept
    exact hkept.trans (h.port i)

theorem composes_callClockMaster (h : c.Composes config m)
    {statement : ClockMasterLoop -> ClockMasterLoop}
    (hsees : forall x ps es, Preserves (ClockMasterLoop.Beside x ps es) statement)
    (henvironment : (statement m.loadClockMaster).syncLoop.environment =
      m.loadSync.environment) :
    Composes config
      { c with
        announceLoop := c.announceLoop.setSyncReceiptTimeoutTime
          (statement m.loadClockMaster).syncLoop.perPTPInstanceGlobal.syncReceiptTimeoutTime
        clockMasterLoop := statement c.clockMasterLoop }
      (m.callClockMaster statement) := by
  have hstatement := hsees _ _ _ _ _ h.clockMasterLoop
  have hself : m.loadClockMaster.Beside m.loadSync.perPTPInstanceGlobal
      m.loadSync.perPortGlobal m.loadSync.entities m.loadClockMaster :=
    ⟨⟨rfl, rfl, _, rfl⟩, m.loadSync, m.loadSync.beside_refl, rfl⟩
  have hleaves : m.loadSync.Leaves (statement m.loadClockMaster).syncLoop :=
    ⟨(hsees _ _ _ _ _ hself).syncLoop, henvironment⟩
  have hannounce := hleaves.sameForAnnounce
  have hpdelay := hleaves.sameForPdelay
  exact
    { configured := configured_leaves h.configured hleaves rfl rfl
      announceLoop := Shared.ShowsAnnounce.same
        (h.announceLoop.setSyncReceiptTimeoutTime _) hannounce
      clockMasterLoop := hstatement.rebase
      mdPdelayReqSms := fun i =>
        Shared.ShowsPdelayReq.same (h.mdPdelayReqSms i) (hpdelay i)
      mdPdelayRespSms := fun i =>
        Shared.ShowsPdelayResp.same (h.mdPdelayRespSms i) (hpdelay i).resp
      running := fun hrunning => by
        obtain ⟨hbefore, hafter⟩ := Option.or_eq_none_iff.mp hrunning
        have hrest := h.running hbefore
        refine ⟨hrest.announceLoop, ?_, hrest.mdPdelayReqSms,
          hrest.mdPdelayRespSms⟩
        exact hstatement.syncLoop.stop.symm.trans hafter }

/-- What the initiator of a link leaves is what it finds next. -/
theorem showsPdelayReq_self {s : Shared} {i : PortIndex}
    {sm own : MDPdelayReqMachine} (hrest : own.vars.rest = s.rest i)
    (h : sm.Related
      (MDPdelayReqSM.Beside own.vars.perPTPInstanceGlobal own.vars.perPortGlobal
        own.vars.mdEntityGlobal.syncSequenceId) own)
    {sms owns : PortIndex -> MDPdelayReqMachine} :
    (s.storePdelay i own.vars).ShowsPdelayReq i (Function.update sms i sm i)
      (Function.update owns i own i) := by
  have hglobal : s.perPTPInstanceGlobal = own.vars.perPTPInstanceGlobal :=
    (congrArg MDPdelayReqSM.Rest.perPTPInstanceGlobal hrest).symm
  have hport : (s.storePdelay i own.vars).perPortGlobal i =
      own.vars.perPortGlobal := Function.update_self _ _ _
  have hentity : (s.storePdelay i own.vars).mdEntityGlobal i =
      own.vars.mdEntityGlobal := Function.update_self _ _ _
  have hglobal' : (s.storePdelay i own.vars).perPTPInstanceGlobal =
      own.vars.perPTPInstanceGlobal := hglobal
  rw [Function.update_self, Function.update_self]
  unfold Shared.ShowsPdelayReq Shared.loadPdelayReq
  rw [hport, hentity, hglobal']
  exact h

theorem composes_callPdelayReq (h : c.Composes config m) {i : PortIndex}
    {statement : MDPdelayReqMachine -> MDPdelayReqMachine}
    (hsees : forall x p n m m',
      Machine.Related (MDPdelayReqSM.Beside x p n) m m' ->
        (statement m).Related (MDPdelayReqSM.Beside x p n) (statement m'))
    (hrest : forall m, (statement m).vars.rest = m.vars.rest) :
    Composes config
      (({ c with
          mdPdelayReqSms := Function.update c.mdPdelayReqSms i
            (statement (c.mdPdelayReqSms i)) } : Parts).withSync
        (SyncLoop.setMeanLinkDelay i
          (statement (m.loadPdelayReq i)).vars.perPortGlobal.meanLinkDelay))
      (m.callPdelayReq i statement) := by
  have hstatement := MDPdelayReqMachine.rebase
    (hsees _ _ _ _ _ (h.mdPdelayReqSms i))
  have hkept : (statement (m.loadPdelayReq i)).vars.rest = m.shared.rest i :=
    hrest _
  have hannounce := Shared.sameForAnnounce_storePdelay hkept
  have hsync := Shared.sameForSync_storePdelay hkept
  have hresp := Shared.sameForPdelayResp_storePdelay hkept
  have hother : forall j, j ≠ i -> m.shared.SameForPdelay j
      (m.shared.storePdelay i (statement (m.loadPdelayReq i)).vars) :=
    fun j hj => Shared.sameForPdelay_storePdelay hj
  exact
    { configured := ⟨h.configured.global, fun j =>
        (Shared.portSettings_storePdelay hkept j).trans (h.configured.port j)⟩
      announceLoop := Shared.ShowsAnnounce.same h.announceLoop hannounce
      clockMasterLoop := Shared.ShowsClockMaster.withSyncLoop h.clockMasterLoop
        fun hl => Shared.ShowsSync.same (hl.setMeanLinkDelay _ _) hsync
      mdPdelayReqSms := fun j => by
        by_cases hj : j = i
        · subst hj
          exact showsPdelayReq_self hkept hstatement
        · have hpart := @Function.update_of_ne _ _ _ _ _ hj
            (statement (c.mdPdelayReqSms i)) c.mdPdelayReqSms
          have hown := @Function.update_of_ne _ _ _ _ _ hj
            (statement (m.loadPdelayReq i)) m.mdPdelayReqSms
          have hsame := Shared.ShowsPdelayReq.same (h.mdPdelayReqSms j)
            (hother j hj)
          rw [← hpart, ← hown] at hsame
          exact hsame
      mdPdelayRespSms := fun j =>
        Shared.ShowsPdelayResp.same (h.mdPdelayRespSms j) (hresp j)
      running := fun hrunning => by
        obtain ⟨hbefore, hafter⟩ := Option.or_eq_none_iff.mp hrunning
        have hrest := h.running hbefore
        have hstop : (statement (m.loadPdelayReq i)).vars.process =
            (statement (c.mdPdelayReqSms i)).vars.process :=
          hstatement.vars.process
        have hself : (statement (c.mdPdelayReqSms i)).vars.process.stop =
            none := (congrArg Process.stop hstop).symm.trans hafter
        exact ⟨hrest.announceLoop, hrest.clockMasterLoop,
          (Function.forall_update_iff _ fun _ (sm : MDPdelayReqMachine) =>
            sm.vars.process.stop = none).mpr
              ⟨hself, fun j _ => hrest.mdPdelayReqSms j⟩,
          hrest.mdPdelayRespSms⟩ }

theorem showsPdelayResp_self {s : Shared} {i : PortIndex}
    {sm own : MDPdelayRespMachine}
    (hglobals : own.vars.globals =
      (s.perPTPInstanceGlobal, s.perPortGlobal i))
    (h : sm.Related
      (MDPdelayRespSM.Beside s.perPTPInstanceGlobal (s.perPortGlobal i)) own)
    {sms owns : PortIndex -> MDPdelayRespMachine} :
    s.ShowsPdelayResp i (Function.update sms i sm i)
      (Function.update owns i own i) := by
  have hglobal : s.perPTPInstanceGlobal = own.vars.perPTPInstanceGlobal :=
    (congrArg Prod.fst hglobals).symm
  have hport : s.perPortGlobal i = own.vars.perPortGlobal :=
    (congrArg Prod.snd hglobals).symm
  have hload : s.loadPdelayResp i own = own := by
    unfold Shared.loadPdelayResp
    rw [hglobal, hport]
  rw [Function.update_self, Function.update_self]
  unfold Shared.ShowsPdelayResp
  rw [hload]
  exact h

theorem composes_callPdelayResp (h : c.Composes config m) {i : PortIndex}
    {statement : MDPdelayRespMachine -> MDPdelayRespMachine}
    (hsees : forall x p m m', Machine.Related (MDPdelayRespSM.Beside x p) m m' ->
      (statement m).Related (MDPdelayRespSM.Beside x p) (statement m'))
    (hglobals : forall m, (statement m).vars.globals = m.vars.globals) :
    Composes config
      { c with
        mdPdelayRespSms := Function.update c.mdPdelayRespSms i
          (statement (c.mdPdelayRespSms i)) }
      (m.callPdelayResp i statement) := by
  have hstatement := hsees _ _ _ _ (h.mdPdelayRespSms i)
  exact
    { configured := h.configured
      announceLoop := h.announceLoop
      clockMasterLoop := h.clockMasterLoop
      mdPdelayReqSms := h.mdPdelayReqSms
      mdPdelayRespSms := fun j => by
        by_cases hj : j = i
        · subst hj
          exact showsPdelayResp_self (hglobals _) hstatement
        · have hpart := @Function.update_of_ne _ _ _ _ _ hj
            (statement (c.mdPdelayRespSms i)) c.mdPdelayRespSms
          have hown := @Function.update_of_ne _ _ _ _ _ hj
            (statement (m.loadPdelayResp i)) m.mdPdelayRespSms
          have hsame := h.mdPdelayRespSms j
          rw [← hpart, ← hown] at hsame
          exact hsame
      running := fun hrunning => by
        obtain ⟨hbefore, hafter⟩ := Option.or_eq_none_iff.mp hrunning
        have hrest := h.running hbefore
        have hstop : (statement (m.loadPdelayResp i)).vars.process =
            (statement (c.mdPdelayRespSms i)).vars.process :=
          hstatement.vars.process
        have hself : (statement (c.mdPdelayRespSms i)).vars.process.stop =
            none := (congrArg Process.stop hstop).symm.trans hafter
        exact ⟨hrest.announceLoop, hrest.clockMasterLoop, hrest.mdPdelayReqSms,
          (Function.forall_update_iff _ fun _ (sm : MDPdelayRespMachine) =>
            sm.vars.process.stop = none).mpr
              ⟨hself, fun j _ => hrest.mdPdelayRespSms j⟩⟩ }

end TimeSyncMainLoop

end TimeSync
end Ziggo
