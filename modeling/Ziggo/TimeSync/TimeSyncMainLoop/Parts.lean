import Ziggo.TimeSync.TimeSyncMainLoop.Globals

/-!
# The parts of the main loop

A state of the main loop consists of a state of each group of machines: the one
that the group reaches in a loop of its own, where nothing lies beside it.  A
call of one group keeps this if the other groups are told what it changes.
-/

namespace Ziggo
namespace TimeSync

open Foundation TsnDrivers

/-!
## The variables that a call hands over
-/

namespace Shared

variable {s s' : Shared}

def loadAnnounce (s : Shared) (l : AnnounceLoop) : AnnounceLoop :=
  { l with
    perPTPInstanceGlobal := s.perPTPInstanceGlobal
    perPortGlobal := s.perPortGlobal }

def loadMDSyncSend (s : Shared) (i : PortIndex) (m : MDSyncSendMachine) :
    MDSyncSendMachine :=
  { m with vars := { m.vars with mdEntityGlobal := s.mdEntityGlobal i } }

def loadSync (s : Shared) (l : SyncLoop) : SyncLoop :=
  { l with
    perPTPInstanceGlobal := s.perPTPInstanceGlobal
    perPortGlobal := s.perPortGlobal
    mdSyncSendSms := fun i => s.loadMDSyncSend i (l.mdSyncSendSms i) }

def loadClockMaster (s : Shared) (w : ClockMasterLoop) : ClockMasterLoop :=
  w.withSyncLoop (s.loadSync w.syncLoop)

def loadPdelayReq (s : Shared) (i : PortIndex) (m : MDPdelayReqMachine) :
    MDPdelayReqMachine :=
  { m with
    vars :=
      { m.vars with
        perPortGlobal := s.perPortGlobal i
        perPTPInstanceGlobal := s.perPTPInstanceGlobal
        mdEntityGlobal := s.mdEntityGlobal i } }

def loadPdelayResp (s : Shared) (i : PortIndex) (m : MDPdelayRespMachine) :
    MDPdelayRespMachine :=
  { m with
    vars :=
      { m.vars with
        perPortGlobal := s.perPortGlobal i
        perPTPInstanceGlobal := s.perPTPInstanceGlobal } }

/-!
## Views

A group in the main loop holds what it holds in its own loop.
-/

/-- The group with the variables `own` is in the state `a` of its own loop. -/
def ShowsAnnounce (s : Shared) (a own : AnnounceLoop) : Prop :=
  a.Beside s.perPTPInstanceGlobal s.perPortGlobal (s.loadAnnounce own)

def ShowsSync (s : Shared) (l own : SyncLoop) : Prop :=
  l.Beside s.perPTPInstanceGlobal s.perPortGlobal s.mdEntityGlobal
    (s.loadSync own)

def ShowsClockMaster (s : Shared) (w own : ClockMasterLoop) : Prop :=
  w.Beside s.perPTPInstanceGlobal s.perPortGlobal s.mdEntityGlobal
    (s.loadClockMaster own)

def ShowsPdelayReq (s : Shared) (i : PortIndex) (m own : MDPdelayReqMachine) :
    Prop :=
  m.Related
    (MDPdelayReqSM.Beside s.perPTPInstanceGlobal (s.perPortGlobal i)
      (s.mdEntityGlobal i).syncSequenceId)
    (s.loadPdelayReq i own)

def ShowsPdelayResp (s : Shared) (i : PortIndex) (m own : MDPdelayRespMachine) :
    Prop :=
  m.Related
    (MDPdelayRespSM.Beside s.perPTPInstanceGlobal (s.perPortGlobal i))
    (s.loadPdelayResp i own)

theorem ShowsAnnounce.same {a own : AnnounceLoop} (h : s.ShowsAnnounce a own)
    (hsame : s.SameForAnnounce s') : s'.ShowsAnnounce a own :=
  { h with
    perPTPInstanceGlobal := by
      have hglobal : s.perPTPInstanceGlobal =
          besideAnnounce s.perPTPInstanceGlobal a.perPTPInstanceGlobal :=
        h.perPTPInstanceGlobal
      refine hsame.perPTPInstanceGlobal.trans ?_
      rw [hglobal]
      rfl
    perPortGlobal := fun i => by
      obtain ⟨_, hport⟩ : PortBeside (s.perPortGlobal i) (a.perPortGlobal i)
          (s.perPortGlobal i) := h.perPortGlobal i
      obtain ⟨interval, hport'⟩ := hsame.perPortGlobal i
      refine ⟨interval, hport'.trans ?_⟩
      rw [hport]
      rfl }

theorem eq_beside {x : PerPTPInstanceGlobal} {ps : PerPortGlobalArray}
    {es : PortIndex -> MDEntityGlobal} {slack : SyncSlack} {l : SyncLoop}
    {g : PerPTPInstanceGlobal} {ports : PerPortGlobalArray}
    {sms : PortIndex -> MDSyncSendMachine}
    (hglobal : g = besideSync x l.perPTPInstanceGlobal)
    (hports : forall i, ports i =
      besideSyncPort (ps i) (slack.intervals i) (l.perPortGlobal i))
    (hsms : forall i,
      sms i = SyncLoop.sendBeside slack es i (l.mdSyncSendSms i)) :
    ({ l with
        perPTPInstanceGlobal := g
        perPortGlobal := ports
        mdSyncSendSms := sms } : SyncLoop) = l.beside x ps es slack := by
  unfold SyncLoop.beside
  rw [hglobal, funext hports, funext hsms]

theorem ShowsSync.same {l own : SyncLoop} (h : s.ShowsSync l own)
    (hsame : s.SameForSync s') : s'.ShowsSync l own := by
  obtain ⟨slack, hloop⟩ := h
  choose intervals hintervals using hsame.perPortGlobal
  have hglobal : s.perPTPInstanceGlobal =
      besideSync s.perPTPInstanceGlobal l.perPTPInstanceGlobal :=
    congrArg SyncLoop.perPTPInstanceGlobal hloop
  have hport : forall i, s.perPortGlobal i =
      besideSyncPort (s.perPortGlobal i) (slack.intervals i)
        (l.perPortGlobal i) := fun i =>
    congrFun (congrArg SyncLoop.perPortGlobal hloop) i
  have hentity : forall i, s.mdEntityGlobal i =
      besideSyncEntity (s.mdEntityGlobal i)
        (l.mdSyncSendSms i).vars.mdEntityGlobal := fun i =>
    congrArg (fun l : SyncLoop => (l.mdSyncSendSms i).vars.mdEntityGlobal) hloop
  refine ⟨{ slack with intervals := intervals }, ?_⟩
  have hload : s'.loadSync own = s'.loadSync (s.loadSync own) := rfl
  rw [hload, hloop]
  refine eq_beside (l := l) ?_ (fun i => ?_) fun i => ?_
  · refine hsame.perPTPInstanceGlobal.trans ?_
    rw [hglobal]
    rfl
  · refine (hintervals i).trans ?_
    rw [hport i]
    rfl
  · have hentity' : s'.mdEntityGlobal i =
        besideSyncEntity (s'.mdEntityGlobal i)
          (l.mdSyncSendSms i).vars.mdEntityGlobal := by
      refine (hsame.mdEntityGlobal i).trans ?_
      rw [hentity i]
      rfl
    unfold SyncLoop.sendBeside
    rw [← hentity']
    rfl

theorem ShowsPdelayReq.same {i : PortIndex} {m own : MDPdelayReqMachine}
    (h : s.ShowsPdelayReq i m own) (hsame : s.SameForPdelay i s') :
    s'.ShowsPdelayReq i m own := by
  refine ⟨h.state, h.lastState, ?_⟩
  have hvars : (s.loadPdelayReq i own).vars =
      m.vars.beside s.perPTPInstanceGlobal (s.perPortGlobal i)
        (s.mdEntityGlobal i).syncSequenceId := h.vars
  have hglobal : s.perPTPInstanceGlobal =
      besidePdelay s.perPTPInstanceGlobal m.vars.perPTPInstanceGlobal :=
    congrArg MDPdelayReqSM.perPTPInstanceGlobal hvars
  have hport : s.perPortGlobal i =
      besidePdelayPort (s.perPortGlobal i) m.vars.perPortGlobal :=
    congrArg MDPdelayReqSM.perPortGlobal hvars
  have hentity : s.mdEntityGlobal i =
      besidePdelayEntity (s.mdEntityGlobal i).syncSequenceId
        m.vars.mdEntityGlobal :=
    congrArg MDPdelayReqSM.mdEntityGlobal hvars
  have hglobal' : s'.perPTPInstanceGlobal =
      besidePdelay s'.perPTPInstanceGlobal m.vars.perPTPInstanceGlobal := by
    refine hsame.perPTPInstanceGlobal.trans ?_
    rw [hglobal]
    rfl
  have hport' : s'.perPortGlobal i =
      besidePdelayPort (s'.perPortGlobal i) m.vars.perPortGlobal := by
    refine hsame.perPortGlobal.trans ?_
    rw [hport]
    rfl
  have hentity' : s'.mdEntityGlobal i =
      besidePdelayEntity (s'.mdEntityGlobal i).syncSequenceId
        m.vars.mdEntityGlobal := by
    refine hsame.mdEntityGlobal.trans ?_
    rw [hentity]
    rfl
  have hload : (s'.loadPdelayReq i own).vars =
      { (s.loadPdelayReq i own).vars with
        perPTPInstanceGlobal := s'.perPTPInstanceGlobal
        perPortGlobal := s'.perPortGlobal i
        mdEntityGlobal := s'.mdEntityGlobal i } := rfl
  unfold MDPdelayReqSM.Beside MDPdelayReqSM.beside
  rw [hload, hvars, ← hglobal', ← hport', ← hentity']
  rfl

theorem ShowsPdelayResp.same {i : PortIndex} {m own : MDPdelayRespMachine}
    (h : s.ShowsPdelayResp i m own) (hsame : s.SameForPdelayResp i s') :
    s'.ShowsPdelayResp i m own := by
  refine ⟨h.state, h.lastState, ?_⟩
  have hvars : (s.loadPdelayResp i own).vars =
      m.vars.beside s.perPTPInstanceGlobal (s.perPortGlobal i) := h.vars
  have hglobal : s.perPTPInstanceGlobal =
      besidePdelay s.perPTPInstanceGlobal m.vars.perPTPInstanceGlobal :=
    congrArg MDPdelayRespSM.perPTPInstanceGlobal hvars
  have hport : s.perPortGlobal i =
      besidePdelayRespPort (s.perPortGlobal i) m.vars.perPortGlobal :=
    congrArg MDPdelayRespSM.perPortGlobal hvars
  have hglobal' : s'.perPTPInstanceGlobal =
      besidePdelay s'.perPTPInstanceGlobal m.vars.perPTPInstanceGlobal := by
    refine hsame.perPTPInstanceGlobal.trans ?_
    rw [hglobal]
    rfl
  have hport' : s'.perPortGlobal i =
      besidePdelayRespPort (s'.perPortGlobal i) m.vars.perPortGlobal := by
    refine hsame.perPortGlobal.trans ?_
    rw [hport]
    rfl
  have hload : (s'.loadPdelayResp i own).vars =
      { (s.loadPdelayResp i own).vars with
        perPTPInstanceGlobal := s'.perPTPInstanceGlobal
        perPortGlobal := s'.perPortGlobal i } := rfl
  unfold MDPdelayRespSM.Beside MDPdelayRespSM.beside
  rw [hload, hvars, ← hglobal', ← hport']
  rfl

end Shared

/-!
## What a call leaves

After a call what lies beside a group is what the call has found there.
-/

section Rebase

variable {x : PerPTPInstanceGlobal} {p : PerPortGlobal}
  {ps : PerPortGlobalArray} {es : PortIndex -> MDEntityGlobal} {n : UInt16}

theorem AnnounceLoop.Beside.rebase {l l' : AnnounceLoop}
    (h : l.Beside x ps l') :
    l.Beside l'.perPTPInstanceGlobal l'.perPortGlobal l' :=
  { h with
    perPTPInstanceGlobal := by
      rw [h.perPTPInstanceGlobal]
      rfl
    perPortGlobal := fun i => by
      obtain ⟨interval, hport⟩ := h.perPortGlobal i
      refine ⟨interval, ?_⟩
      rw [hport]
      rfl }

theorem SyncLoop.Beside.rebase {l l' : SyncLoop} (h : l.Beside x ps es l') :
    l.Beside l'.perPTPInstanceGlobal l'.perPortGlobal l'.entities l' := by
  obtain ⟨slack, rfl⟩ := h
  exact ⟨slack, rfl⟩

theorem ClockMasterLoop.Beside.rebase {w w' : ClockMasterLoop}
    (h : w.Beside x ps es w') :
    w.Beside w'.syncLoop.perPTPInstanceGlobal w'.syncLoop.perPortGlobal
      w'.syncLoop.entities w' := by
  obtain ⟨l, hl, heq⟩ := h.clockMaster
  have hsync : w'.syncLoop = l := congrArg ClockMaster.syncLoop heq
  refine ⟨h.clockMasterSyncReceiveSm, l, ?_, heq⟩
  rw [hsync]
  exact hl.rebase

theorem MDPdelayReqMachine.rebase {m m' : MDPdelayReqMachine}
    (h : m.Related (MDPdelayReqSM.Beside x p n) m') :
    m.Related
      (MDPdelayReqSM.Beside m'.vars.perPTPInstanceGlobal m'.vars.perPortGlobal
        m'.vars.mdEntityGlobal.syncSequenceId) m' := by
  obtain ⟨hstate, hlast, hvars⟩ := h
  refine ⟨hstate, hlast, ?_⟩
  rw [hvars]
  rfl

end Rebase

namespace SyncLoop

/-- The other groups have changed what the machines read. -/
def select (selectedState : Port -> PortState) (gmPresent : Bool)
    (time : UScaledNs) (l : SyncLoop) : SyncLoop :=
  PortSyncSyncSendSM.setSyncReceiptTimeoutTime time
    (setSelectedState selectedState gmPresent l)

theorem beside_select {x : PerPTPInstanceGlobal} {ps : PerPortGlobalArray}
    {es : PortIndex -> MDEntityGlobal} (selectedState : Port -> PortState)
    (gmPresent : Bool) (time : UScaledNs) :
    Preserves (Beside x ps es) (select selectedState gmPresent time) := by
  rintro l _ ⟨slack, rfl⟩
  exact ⟨slack, rfl⟩

end SyncLoop

namespace Shared

variable {s s' : Shared}

theorem ShowsAnnounce.setSyncReceiptTimeoutTime {a own : AnnounceLoop}
    (h : s.ShowsAnnounce a own) (time : UScaledNs) :
    (s.setSyncReceiptTimeoutTime time).ShowsAnnounce
      (a.setSyncReceiptTimeoutTime time) own :=
  (AnnounceLoop.beside_setSyncReceiptTimeoutTime time _ _ h).rebase

theorem ShowsClockMaster.withSyncLoop {w own : ClockMasterLoop}
    {statement : SyncLoop -> SyncLoop} (h : s.ShowsClockMaster w own)
    (hsync : s.ShowsSync w.syncLoop own.syncLoop ->
      s'.ShowsSync (statement w.syncLoop) own.syncLoop) :
    s'.ShowsClockMaster (w.withSyncLoop (statement w.syncLoop)) own := by
  obtain ⟨l, _, heq⟩ := h.clockMaster
  refine ⟨h.clockMasterSyncReceiveSm, s'.loadSync own.syncLoop,
    hsync (ClockMasterLoop.Beside.syncLoop h), ?_⟩
  exact congrArg
    (fun c : ClockMaster => { c with syncLoop := s'.loadSync own.syncLoop }) heq

theorem ShowsSync.select {l own : SyncLoop} (h : s.ShowsSync l own)
    (selectedState : Port -> PortState) (gmPresent : Bool) (time : UScaledNs) :
    ((s.select selectedState gmPresent).setSyncReceiptTimeoutTime
      time).ShowsSync (l.select selectedState gmPresent time) own :=
  (SyncLoop.beside_select selectedState gmPresent time _ _ h).rebase

theorem ShowsSync.setMeanLinkDelay {l own : SyncLoop} (h : s.ShowsSync l own)
    (i : PortIndex) (delay : UScaledNs) :
    (s.setMeanLinkDelay i delay).ShowsSync (l.setMeanLinkDelay i delay) own :=
  (SyncLoop.beside_setMeanLinkDelay i delay _ _ h).rebase

end Shared

end TimeSync
end Ziggo
