import Ziggo.TimeSync.MDSyncSendSM.Egress
import Ziggo.TimeSync.SyncLoop.FollowUps
import Ziggo.TimeSync.SyncLoop.SlaveTime

/-!
# Residence times

A `Follow_Up` that is sent on corrects the time of the master by the time that
its `Sync` has spent in the bridge and on the link before it.
-/

namespace Ziggo
namespace TimeSync

open Foundation TsnDrivers

/-!
## The correction

Each operation agrees with that on integers modulo `2 ^ 64`, if no fraction is
in its way.
-/

theorem toInt_modEq (c : Int64) : c.toInt ≡ c.toUInt64.toNat [ZMOD 2 ^ 64] := by
  have hvalue := toInt_eq_toNat c
  unfold Int.ModEq
  split at hvalue <;> omega

theorem uint64Uscaledns_modEq (t : UScaledNs) :
    ((uint64Uscaledns t).toNat : Int) ≡ t.toNat [ZMOD 2 ^ 64] := by
  rw [toNat_uint64Uscaledns]
  unfold Int.ModEq
  omega

theorem uscalednsSubtract_modEq (t1 t2 : UScaledNs) :
    ((uscalednsSubtract t1 t2).toNat : Int) ≡ t1.toNat - t2.toNat
      [ZMOD 2 ^ 64] := by
  have hlt := t2.toNat_lt
  rw [toNat_uscalednsSubtract]
  unfold Int.ModEq
  omega

/-- The time is a number of whole nanoseconds. -/
def Whole (t : UScaledNs) : Prop :=
  t.subns = 0

instance (t : UScaledNs) : Decidable (Whole t) :=
  inferInstanceAs (Decidable (_ = _))

theorem Whole.toNat_mod {t : UScaledNs} (h : Whole t) : t.toNat % 2 ^ 16 = 0 := by
  rw [t.toNat_mod, h]
  rfl

theorem whole_of_toNat_mod {t : UScaledNs} (h : t.toNat % 2 ^ 16 = 0) :
    Whole t := by
  rw [t.toNat_mod] at h
  exact UInt16.toNat_inj.mp h

theorem Whole.subtract {t1 t2 : UScaledNs} (h1 : Whole t1) (h2 : Whole t2) :
    Whole (uscalednsSubtract t1 t2) := by
  have hmod1 := h1.toNat_mod
  have hmod2 := h2.toNat_mod
  have hlt := t2.toNat_lt
  apply whole_of_toNat_mod
  rw [toNat_uscalednsSubtract]
  omega

theorem uscalednsAdd_modEq {t1 t2 : UScaledNs} (h1 : Whole t1)
    (h2 : Whole t2) :
    ((uscalednsAdd t1 t2).toNat : Int) ≡ t1.toNat + t2.toNat [ZMOD 2 ^ 64] := by
  have hexact := (uscalednsAdd_exact_iff t1 t2).mpr (by
    rw [h1, h2]
    decide)
  rw [hexact]
  unfold Int.ModEq
  omega

def WholeCorrection (c : Int64) : Prop :=
  c.toInt % 2 ^ 16 = 0

theorem WholeCorrection.whole {c : Int64} (h : WholeCorrection c) :
    Whole (uscalednsUint64 c.toUInt64) := by
  have hmod := toInt_modEq c
  unfold WholeCorrection at h
  unfold Int.ModEq at hmod
  apply whole_of_toNat_mod
  rw [toNat_uscalednsUint64]
  omega

theorem Whole.add {t1 t2 : UScaledNs} (h1 : Whole t1) (h2 : Whole t2) :
    Whole (uscalednsAdd t1 t2) := by
  have hmod1 := h1.toNat_mod
  have hmod2 := h2.toNat_mod
  have hexact := (uscalednsAdd_exact_iff t1 t2).mpr (by
    rw [h1, h2]
    decide)
  apply whole_of_toNat_mod
  rw [hexact]
  omega

/-- The correction of a `Follow_Up` as the machines compute it. -/
def residenceCorrection (c1 c2 : Int64) (egress ingress delay : UScaledNs) :
    Int64 :=
  (uint64Uscaledns (uscalednsAdd (ClockSlaveSyncSM.correctionSum c1 c2)
    (uscalednsSubtract egress (uscalednsSubtract ingress delay)))).toInt64

/-- Without fractions no sum on the way to the correction is off. -/
theorem toInt_residenceCorrection {c1 c2 : Int64}
    {egress ingress delay : UScaledNs} (hc1 : WholeCorrection c1)
    (hc2 : WholeCorrection c2) (hegress : Whole egress)
    (hingress : Whole ingress) (hdelay : Whole delay) :
    (residenceCorrection c1 c2 egress ingress delay).toInt ≡
      c1.toInt + c2.toInt + (egress.toNat - ingress.toNat + delay.toNat)
        [ZMOD 2 ^ 64] := by
  have hcorrections : ((ClockSlaveSyncSM.correctionSum c1 c2).toNat : Int) ≡
      c1.toInt + c2.toInt [ZMOD 2 ^ 64] := by
    refine (uscalednsAdd_modEq hc1.whole hc2.whole).trans ?_
    rw [toNat_uscalednsUint64, toNat_uscalednsUint64]
    exact (toInt_modEq c1).symm.add (toInt_modEq c2).symm
  have hupstream : ((uscalednsSubtract egress
      (uscalednsSubtract ingress delay)).toNat : Int) ≡
        egress.toNat - (ingress.toNat - delay.toNat) [ZMOD 2 ^ 64] :=
    (uscalednsSubtract_modEq _ _).trans
      (Int.ModEq.rfl.sub (uscalednsSubtract_modEq ingress delay))
  have hsum := uscalednsAdd_modEq (hc1.whole.add hc2.whole)
    (hegress.subtract (hingress.subtract hdelay))
  have hvalue : (residenceCorrection c1 c2 egress ingress delay).toInt ≡ _
      [ZMOD 2 ^ 64] :=
    (toInt_modEq _).trans ((uint64Uscaledns_modEq _).trans hsum)
  refine hvalue.trans ((hcorrections.add hupstream).trans ?_)
  rw [sub_add]

/-!
## Waiting for a timestamp
-/

namespace MDSyncSendMachine

open MDSyncSendSM

/-- The machine waits for the timestamp of the `Sync` that it sent last. -/
structure Awaits (mdSync : MDSyncSend) (sync : PTPMsgSync)
    (m : MDSyncSendMachine) : Prop where
  state : m.state = .sendSync
  received : m.vars.rcvdMDSyncPtr = .live mdSync
  consumed : m.vars.rcvdMDSyncMDSS = false
  transmitted : m.vars.txSyncPtr = .live sync

section Calls

variable {m : MDSyncSendMachine} {mdSync : MDSyncSend} {sync : PTPMsgSync}

theorem Awaits.withGlobals (h : Awaits mdSync sync m)
    (g : PerPTPInstanceGlobal) (port : PerPortGlobal) :
    Awaits mdSync sync (m.withGlobals g port) :=
  ⟨h.state, h.received, h.consumed, h.transmitted⟩

theorem Awaits.syncSent (hawaits : Awaits mdSync sync m) (h : AtRest m) :
    m.vars.SyncSent sync := by
  have hduring := h.during
  rw [hawaits.state] at hduring
  obtain ⟨_, _, last, hlast⟩ := hduring
  have hsame := hlast.left.symm.trans hawaits.transmitted
  cases hsame
  exact hlast

theorem awaits_recvMDSync (h : AtRest m) (hstate : m.state ≠ .sendSync)
    (hcapable : m.vars.Capable) (mdSync : MDSyncSend) :
    exists sync, Awaits mdSync sync (step m (.recvMDSync mdSync)) ∧
      (step m (.recvMDSync mdSync)).vars.process.sent =
        m.vars.process.sent ++
          [{ port := m.vars.perPortGlobal.thisPort, message := .sync sync }] ∧
      sync.head.sequenceId = m.vars.mdEntityGlobal.syncSequenceId := by
  rw [step_recvMDSync_sent h hstate hcapable]
  exact ⟨_, ⟨rfl, rfl, rfl, rfl⟩, rfl, rfl⟩

/-- Timestamps of other messages change nothing. -/
theorem Awaits.txts_other (hawaits : Awaits mdSync sync m) (h : AtRest m)
    {tsuTimestamp : TSUTimestamp}
    (hother : ¬ (tsuTimestamp.sequenceID = sync.head.sequenceId ∧
      sync.head.sequenceId ≠ 65535)) :
    step m (.txts tsuTimestamp) = m := by
  refine step_txts_mismatch h ?_
  rw [← Bool.not_eq_true,
    timestampMatches_iff (hawaits.syncSent h) tsuTimestamp]
  exact hother

theorem Awaits.txts_sync (hawaits : Awaits mdSync sync m) (h : AtRest m)
    {tsuTimestamp : TSUTimestamp}
    (hnumber : tsuTimestamp.sequenceID = sync.head.sequenceId)
    (hne : sync.head.sequenceId ≠ 65535) :
    (step m (.txts tsuTimestamp)).vars.process.sent =
      m.vars.process.sent ++
        [{ port := m.vars.perPortGlobal.thisPort
           message := .followUp (followUpOf mdSync tsuTimestamp.ts
             sync.head.sequenceId) }] := by
  have hsent := hawaits.syncSent h
  have hmatch := (timestampMatches_iff hsent tsuTimestamp).mpr ⟨hnumber, hne⟩
  rw [step_txts_followedUp h hawaits.state hmatch hawaits.received hsent.left
    hawaits.consumed]
  rfl

end Calls

end MDSyncSendMachine

namespace SyncLoop

open MDSyncSendMachine

/-- No structure is handed to a port that waits for a timestamp. -/
def InTurn (l : SyncLoop) (e : Event) : Prop :=
  forall i, ¬ Unhanded i l e -> (l.mdSyncSendSms i).state ≠ .sendSync

def nextNumber (l : SyncLoop) (i : PortIndex) : UInt16 :=
  (l.mdSyncSendSms i).vars.mdEntityGlobal.syncSequenceId

structure Pair.InNanoseconds (p : Pair) (l : SyncLoop) : Prop where
  sync : WholeCorrection p.sync.head.correctionField
  followUp : WholeCorrection p.followUp.head.correctionField
  ingress : Whole p.ingress
  delay : Whole (l.perPortGlobal p.port).meanLinkDelay

/--
The pair leads to a `Sync` on port `i`, and the egress timestamp of that `Sync`
to a `Follow_Up` with the residence time.
-/
structure CarriesResidenceTime (l : SyncLoop) (e : Event) (p : Pair)
    (i : PortIndex) (l' : SyncLoop) (tsuTimestamp : TSUTimestamp) : Prop where
  sync : exists sync, ((l.step e).mdSyncSendSms i).vars.process.sent =
      (l.mdSyncSendSms i).vars.process.sent ++
        [{ port := i.succ, message := .sync sync }] ∧
    sync.head.sequenceId = tsuTimestamp.sequenceID
  followUp : exists message,
    ((l'.step (.txts i tsuTimestamp)).mdSyncSendSms i).vars.process.sent =
      (l'.mdSyncSendSms i).vars.process.sent ++
        [{ port := i.succ, message := .followUp message }] ∧
    message.preciseOriginTimestamp = p.followUp.preciseOriginTimestamp ∧
    message.head.correctionField.toInt ≡
      p.sync.head.correctionField.toInt +
        p.followUp.head.correctionField.toInt +
        (tsuTimestamp.ts.toNat - p.ingress.toNat +
          (l.perPortGlobal p.port).meanLinkDelay.toNat) [ZMOD 2 ^ 64]

/-- What the machine of a port receives for a pair. -/
structure OfPair (l : SyncLoop) (p : Pair) (mdSync : MDSyncSend) : Prop where
  origin : mdSync.preciseOriginTimestamp = p.followUp.preciseOriginTimestamp
  correction : mdSync.followUpCorrectionField =
    ClockSlaveSyncSM.correctionSum p.sync.head.correctionField
      p.followUp.head.correctionField
  upstream : mdSync.upstreamTxTime = uscalednsSubtract p.ingress
    (l.perPortGlobal p.port).meanLinkDelay

section Pairs

variable {s : Settings} {l l' : SyncLoop} {e : Event} {p : Pair}
  {i : PortIndex}

theorem thisPort_of_portSettings (h : l.AtRest) {port : PerPortGlobal}
    (hport : portSettings port = portSettings (l.perPortGlobal i)) :
    port.thisPort = i.succ :=
  (congrArg PortSettings.thisPort hport).trans
    (h.ready.configured.thisPort i)

theorem capable_of_eligible (h : l.AtRest) {pss : PortSyncSync}
    (heligible : PortSyncSyncSendSM.Eligible pss l i) :
    (PortSyncSyncSendSM.loadMDSyncSend l i).vars.Capable := by
  obtain ⟨hready, _⟩ := of_decide_eq_true heligible.right
  exact ⟨hready, h.ready.configured.mode i⟩

theorem awaits_of_pair (h : l.AtRest) (hon : OnSlavePort l e p)
    (hhanded : ¬ Unhanded i l e)
    (hwaiting : (l.mdSyncSendSms i).state ≠ .sendSync) :
    exists mdSync sync, OfPair l p mdSync ∧
      Awaits mdSync sync ((l.step e).mdSyncSendSms i) ∧
      ((l.step e).mdSyncSendSms i).vars.process.sent =
        (l.mdSyncSendSms i).vars.process.sent ++
          [{ port := i.succ, message := .sync sync }] ∧
      sync.head.sequenceId = nextNumber l i := by
  cases hinterval : PortSyncSyncReceiveSM.intervalOf l p.port (p.mdSync l) with
  | error f =>
      obtain ⟨mdSync, hmem⟩ := mem_news_of_handed hhanded
      rw [news_error h hon.accepted hinterval] at hmem
      cases List.mem_singleton.mp hmem
  | ok interval =>
      obtain ⟨l', harrives⟩ := hon.arrives h hinterval
      obtain ⟨heligible, g, port, hrest, hport, hstep⟩ :=
        step_of_handed harrives hhanded
      have hcapable : ((l.mdSyncSendSms i).withGlobals g port).vars.Capable :=
        (@capable_withGlobals (PortSyncSyncSendSM.loadMDSyncSend l i) g port
          hport).mpr (capable_of_eligible h heligible)
      obtain ⟨sync, hawaits, hsent, hnumber⟩ :=
        awaits_recvMDSync hrest hwaiting hcapable
          (PortSyncSyncSendSM.mdSyncFor
            (PortSyncSyncReceiveSM.psSyncFor l p.port p.ts (p.mdSync l)
              interval) l' i)
      rw [← hstep] at hawaits hsent
      refine ⟨_, sync, ⟨rfl, rfl, rfl⟩, hawaits, ?_, hnumber⟩
      rw [← thisPort_of_portSettings h hport]
      exact hsent

/-- As long as a port waits, it is not handed anything. -/
theorem awaits_step (hsending : Sending s l) {mdSync : MDSyncSend}
    {sync : PTPMsgSync} (hawaits : Awaits mdSync sync (l.mdSyncSendSms i))
    (hturn : InTurn l e)
    (hfirst : forall tsuTimestamp, e = .txts i tsuTimestamp ->
      tsuTimestamp.sequenceID ≠ sync.head.sequenceId) :
    Awaits mdSync sync ((l.step e).mdSyncSendSms i) := by
  have hunhanded : Unhanded i l e := by
    by_contra hhanded
    exact hturn i hhanded hawaits.state
  rcases unhanded_step hunhanded with ⟨tsuTimestamp, rfl, hsms⟩ | hsms
  · have hloaded : Awaits mdSync sync (PortSyncSyncSendSM.loadMDSyncSend l i) :=
      hawaits.withGlobals _ _
    rw [hsms, hloaded.txts_other (hsending.load i).left
      (fun hmatch => hfirst tsuTimestamp rfl hmatch.left)]
    exact hloaded
  · rw [hsms]
    exact hawaits

theorem awaits_run (hsending : Sending s l) {mdSync : MDSyncSend}
    {sync : PTPMsgSync} (hawaits : Awaits mdSync sync (l.mdSyncSendSms i))
    {later : List Event} (hturn : Along step InTurn l later)
    (hfirst : forall tsuTimestamp, .txts i tsuTimestamp ∈ later ->
      tsuTimestamp.sequenceID ≠ sync.head.sequenceId) :
    Sending s (runEvents step l later) ∧
      Awaits mdSync sync ((runEvents step l later).mdSyncSendSms i) := by
  induction later generalizing l with
  | nil => exact ⟨hsending, hawaits⟩
  | cons e later ih =>
      obtain ⟨hnow, hrest⟩ := along_cons.mp hturn
      refine ih (sending_step hsending e) (awaits_step hsending hawaits hnow ?_)
        hrest ?_
      · rintro tsuTimestamp rfl
        exact hfirst tsuTimestamp List.mem_cons_self
      · intro tsuTimestamp hmem
        exact hfirst tsuTimestamp (List.mem_cons_of_mem _ hmem)

/-- What the egress timestamp of the `Sync` leads to. -/
theorem followUp_of_awaits (h : l'.AtRest) (hsending : Sending s l')
    {mdSync : MDSyncSend} {sync : PTPMsgSync}
    (hawaits : Awaits mdSync sync (l'.mdSyncSendSms i))
    {tsuTimestamp : TSUTimestamp}
    (hnumber : tsuTimestamp.sequenceID = sync.head.sequenceId) :
    ((l'.step (.txts i tsuTimestamp)).mdSyncSendSms i).vars.process.sent =
      (l'.mdSyncSendSms i).vars.process.sent ++
        if sync.head.sequenceId = 65535 then []
        else
          [{ port := i.succ
             message := .followUp (MDSyncSendSM.followUpOf mdSync
               tsuTimestamp.ts sync.head.sequenceId) }] := by
  have hmachine : (l'.step (.txts i tsuTimestamp)).mdSyncSendSms i =
      (PortSyncSyncSendSM.loadMDSyncSend l' i).step (.txts tsuTimestamp) := by
    rw [step_running h.ready.running]
    exact Function.update_self _ _ _
  have hloaded : Awaits mdSync sync (PortSyncSyncSendSM.loadMDSyncSend l' i) :=
    hawaits.withGlobals _ _
  have hrest := (hsending.load i).left
  rw [hmachine]
  by_cases hlast : sync.head.sequenceId = 65535
  · rw [if_pos hlast, List.append_nil,
      hloaded.txts_other hrest (fun hmatch => hmatch.right hlast)]
    rfl
  · rw [if_neg hlast, hloaded.txts_sync hrest hnumber hlast,
      ← h.ready.configured.thisPort i]
    rfl

theorem correction_of_pair {mdSync : MDSyncSend} (h : OfPair l p mdSync)
    (hwhole : p.InNanoseconds l) {egress : UScaledNs} (hegress : Whole egress)
    (sequenceId : UInt16) :
    (MDSyncSendSM.followUpOf mdSync egress
        sequenceId).head.correctionField.toInt ≡
      p.sync.head.correctionField.toInt +
        p.followUp.head.correctionField.toInt +
        (egress.toNat - p.ingress.toNat +
          (l.perPortGlobal p.port).meanLinkDelay.toNat) [ZMOD 2 ^ 64] := by
  have hcorrection := toInt_residenceCorrection hwhole.sync hwhole.followUp
    hegress hwhole.ingress hwhole.delay
  unfold residenceCorrection at hcorrection
  rw [← h.correction, ← h.upstream] at hcorrection
  exact hcorrection

end Pairs

/--
In a run in which no port is handed a structure while it waits, a pair leads to
the right `Follow_Up` exactly if its `Sync` does not have the largest number.
-/
theorem residence_time_iff (config : Config) (memory : SyncMemory)
    {history later : List Event} {e : Event}
    (hturn : Along step InTurn (start config memory) (history ++ e :: later))
    {p : Pair} (hon : OnSlavePort (after config memory history) e p)
    (hwhole : p.InNanoseconds (after config memory history)) {i : PortIndex}
    (hhanded : ¬ Unhanded i (after config memory history) e)
    {tsuTimestamp : TSUTimestamp}
    (hnumber : tsuTimestamp.sequenceID =
      nextNumber (after config memory history) i)
    (hfirst : forall tsuTimestamp', .txts i tsuTimestamp' ∈ later ->
      tsuTimestamp'.sequenceID ≠ tsuTimestamp.sequenceID)
    (hegress : Whole tsuTimestamp.ts)
    (hrunning : (after config memory (history ++ e :: later)).stop = none) :
    CarriesResidenceTime (after config memory history) e p i
        (after config memory (history ++ e :: later)) tsuTimestamp <->
      nextNumber (after config memory history) i ≠ 65535 := by
  have hrest : (after config memory history).AtRest :=
    steady_after config memory history (accepted_eq_some hon.accepted).left
  have hrest' := steady_after config memory (history ++ e :: later) hrunning
  have hsending := sending_after config memory history
  have hnow := hturn history e later rfl
  have hlater : Along step InTurn ((after config memory history).step e)
      later := by
    intro before e' rest heq
    have hthen := hturn (history ++ e :: before) e' rest (by
      rw [heq, List.append_assoc]
      rfl)
    rw [runEvents_append] at hthen
    exact hthen
  obtain ⟨mdSync, sync, hpair, hawaits, hsync, hsame⟩ :=
    awaits_of_pair hrest hon hhanded (hnow i hhanded)
  rw [← hsame] at hnumber ⊢
  rw [hnumber] at hfirst
  obtain ⟨hsending', hawaits'⟩ :=
    awaits_run (sending_step hsending e) hawaits hlater hfirst
  have hafter : runEvents step ((after config memory history).step e) later =
      after config memory (history ++ e :: later) :=
    (runEvents_append step (start config memory) history (e :: later)).symm
  rw [hafter] at hsending' hawaits'
  have hsent := followUp_of_awaits hrest' hsending' hawaits' hnumber
  constructor
  · rintro ⟨_, message, hmessage, _⟩ hlast
    rw [hsent, if_pos hlast] at hmessage
    simp at hmessage
  · intro hlast
    rw [if_neg hlast] at hsent
    exact ⟨⟨sync, hsync, hnumber.symm⟩, _, hsent, hpair.origin,
      correction_of_pair hpair hwhole hegress _⟩

/-!
In the instance `rand` returns the number of the first `Sync`, and a pair comes
by port 1.
-/

def numberedMemory (n : UInt16) : SyncMemory :=
  { (default : SyncMemory) with rand := fun _ _ => n }

def ingressTime : UScaledNs where
  subns := 0
  nsec := 1000
  nsecMsb := 0

def egressNumbered (n : UInt16) : TSUTimestamp where
  ts := { subns := 0, nsec := 1700, nsecMsb := 0 }
  sequenceID := n
  msgType := PTPMsgType.sync.code

/-- The pair that `syncEvent` and `followUpEvent` bring. -/
def firstPair : Pair where
  port := 0
  ts := default
  sync := default
  followUp :=
    { (default : PTPMsgFollowUp) with
      preciseOriginTimestamp :=
        { secondsMsb := 0, secondsLsb := 1, nanoseconds := 0 } }
  ingress := ingressTime

/-- The loop once the `Sync` of the pair has come. -/
def syncReceived (n : UInt16) : SyncLoop :=
  after bridgeConfig (numberedMemory n) [syncEvent ingressTime]

theorem onSlavePort_firstPair {n : UInt16}
    (hfields : (accepted (syncReceived n) (followUpEvent 1)).map
        (fun p => (p.port, p.ts, p.sync, p.followUp, p.ingress)) =
      some (firstPair.port, firstPair.ts, firstPair.sync, firstPair.followUp,
        firstPair.ingress))
    (hslave : (syncReceived n).perPTPInstanceGlobal.selectedState
      firstPair.port.succ = .slavePort)
    (hpresent : (syncReceived n).perPTPInstanceGlobal.gmPresent = true) :
    OnSlavePort (syncReceived n) (followUpEvent 1) firstPair := by
  obtain ⟨p, hp, heq⟩ := Option.map_eq_some_iff.mp hfields
  have hsame : p = firstPair := by
    cases p
    cases heq
    rfl
  exact ⟨hsame ▸ hp, hslave, hpresent⟩

theorem inNanoseconds_firstPair {n : UInt16}
    (hdelay : Whole ((syncReceived n).perPortGlobal
      firstPair.port).meanLinkDelay) :
    firstPair.InNanoseconds (syncReceived n) := by
  refine ⟨?_, ?_, rfl, hdelay⟩
  · unfold WholeCorrection
    decide
  · unfold WholeCorrection
    decide

theorem first_residence_time :
    CarriesResidenceTime (syncReceived 0) (followUpEvent 1) firstPair 1
      (after bridgeConfig (numberedMemory 0)
        ([syncEvent ingressTime] ++ followUpEvent 1 :: []))
      (egressNumbered 0) := by
  have hturn : Along step InTurn (start bridgeConfig (numberedMemory 0))
      ([syncEvent ingressTime] ++ followUpEvent 1 :: []) := by
    refine along_cons.mpr ⟨?_, along_cons.mpr ⟨?_, along_nil _ _⟩⟩
    · exact fun i _ => by
        revert i
        decide +kernel
    · exact fun i _ => by
        revert i
        decide +kernel
  have hegress : Whole (egressNumbered 0).ts := rfl
  refine (residence_time_iff bridgeConfig (numberedMemory 0) hturn
    (onSlavePort_firstPair (by decide +kernel) (by decide +kernel)
      (by decide +kernel))
    (inNanoseconds_firstPair (by decide +kernel)) (by decide +kernel)
    (by decide +kernel) (fun _ hmem => by cases hmem) hegress
    (by decide +kernel)).mpr ?_
  decide +kernel

/-- A second pair, which comes before the timestamp of the first `Sync`. -/
def secondPair : List Event :=
  [syncEvent { ingressTime with nsec := 1100 }, followUpEvent 2]

def overtaken : SyncLoop :=
  after bridgeConfig (numberedMemory 0)
    ([syncEvent ingressTime] ++ followUpEvent 1 :: secondPair)

/-- The `Follow_Up` to the first `Sync`. -/
def overtakenFollowUp : PTPMsgFollowUp :=
  (newFollowUps overtaken (overtaken.step (.txts 1 (egressNumbered 0)))
    1).headD default

theorem overtaken_pair_loses_residence_time :
    ¬ forall (config : Config) (memory : SyncMemory)
        (history later : List Event) (e : Event) (p : Pair) (i : PortIndex)
        (tsuTimestamp : TSUTimestamp) (message : PTPMsgFollowUp),
      OnSlavePort (after config memory history) e p ->
      p.InNanoseconds (after config memory history) ->
      ¬ Unhanded i (after config memory history) e ->
      ((after config memory history).mdSyncSendSms i).state ≠ .sendSync ->
      tsuTimestamp.sequenceID = nextNumber (after config memory history) i ->
      (forall tsuTimestamp', .txts i tsuTimestamp' ∈ later ->
        tsuTimestamp'.sequenceID ≠ tsuTimestamp.sequenceID) ->
      Whole tsuTimestamp.ts ->
      message ∈ newFollowUps (after config memory (history ++ e :: later))
        ((after config memory (history ++ e :: later)).step
          (.txts i tsuTimestamp)) i ->
      message.preciseOriginTimestamp = p.followUp.preciseOriginTimestamp ∧
        message.head.correctionField.toInt ≡
          p.sync.head.correctionField.toInt +
            p.followUp.head.correctionField.toInt +
            (tsuTimestamp.ts.toNat - p.ingress.toNat +
              ((after config memory history).perPortGlobal
                p.port).meanLinkDelay.toNat) [ZMOD 2 ^ 64] := by
  intro h
  have hnone : forall tsuTimestamp', .txts 1 tsuTimestamp' ∈ secondPair ->
      tsuTimestamp'.sequenceID ≠ (egressNumbered 0).sequenceID := by
    intro tsuTimestamp' hmem
    simp [secondPair, syncEvent, followUpEvent] at hmem
  obtain ⟨horigin, _⟩ := h bridgeConfig (numberedMemory 0)
    [syncEvent ingressTime] secondPair (followUpEvent 1) firstPair 1
    (egressNumbered 0) overtakenFollowUp
    (onSlavePort_firstPair (by decide +kernel) (by decide +kernel)
      (by decide +kernel))
    (inNanoseconds_firstPair (by decide +kernel)) (by decide +kernel)
    (by decide +kernel) (by decide +kernel) hnone rfl (by decide +kernel)
  revert horigin
  decide +kernel

end SyncLoop

end TimeSync
end Ziggo
