import Ziggo.TsnDrivers.Division
import Ziggo.TimeSync.SyncLoop.Steps

/-!
# Forwarding of synchronization information

A structure of the slave port updates the clock slave once and goes to each
other master port once, unless the division of the clock slave hangs.
-/

namespace Ziggo
namespace TimeSync

open Foundation TsnDrivers

namespace ClockSlaveSyncSM

/-!
## When the division hangs
-/

/-- The oldest sample once a sample has been added. -/
def oldest (sm : ClockSlaveSyncSM) : Fin maxLength :=
  if sm.isEmptyPeriod = false ∧ sm.listHeadPeriod = sm.listTailPeriod + 1 then
    sm.listHeadPeriod + 1
  else
    sm.listHeadPeriod

/-- A structure shows a time of its own for a local time that is in the history. -/
def SameInstant (pss : PortSyncSync) (l : SyncLoop) : Prop :=
  l.clockSlaveSyncSm.oldest ≠ l.clockSlaveSyncSm.listTailPeriod + 1 ∧
    l.clockSlaveSyncSm.lSyncReceiptLocalTime l.clockSlaveSyncSm.oldest =
      uscalednsAdd pss.upstreamTxTime (meanLinkDelayOf l pss.localPortNumber) ∧
    l.clockSlaveSyncSm.lSyncReceiptTime l.clockSlaveSyncSm.oldest ≠
      syncReceiptTimeOf pss (meanLinkDelayOf l pss.localPortNumber)

instance (pss : PortSyncSync) (l : SyncLoop) : Decidable (SameInstant pss l) :=
  inferInstanceAs (Decidable (_ ∧ _))

variable {pss : PortSyncSync} {l : SyncLoop}

/-- The division hangs exactly on two samples of one local time. -/
theorem stuck_iff : Stuck pss l <-> SameInstant pss l := by
  have hinterval : (sampled pss l).noInterval = false <->
      l.clockSlaveSyncSm.oldest ≠ l.clockSlaveSyncSm.listTailPeriod + 1 := by
    change decide (false = true ∨ l.clockSlaveSyncSm.oldest =
      l.clockSlaveSyncSm.listTailPeriod + 1) = false <-> _
    simp
  unfold Stuck SameInstant
  rw [hinterval]
  refine and_congr_right fun hne => ?_
  have hlocal : elapsedLocalTime (sampled pss l) =
      uscalednsSubtract
        (uscalednsAdd pss.upstreamTxTime (meanLinkDelayOf l pss.localPortNumber))
        (l.clockSlaveSyncSm.lSyncReceiptLocalTime
          l.clockSlaveSyncSm.oldest) :=
    congrArg₂ uscalednsSubtract (Function.update_self _ _ _)
      (Function.update_of_ne hne _ _)
  have htime : elapsedTime (sampled pss l) =
      uscalednsSubtract
        (syncReceiptTimeOf pss (meanLinkDelayOf l pss.localPortNumber))
        (l.clockSlaveSyncSm.lSyncReceiptTime l.clockSlaveSyncSm.oldest) :=
    congrArg₂ uscalednsSubtract (Function.update_self _ _ _)
      (Function.update_of_ne hne _ _)
  rw [uscalednsDiv_diverges_iff, hlocal, htime, Ne,
    toNat_uscalednsSubtract_eq_zero, toNat_uscalednsSubtract_eq_zero]

theorem meanLinkDelayOf_of_environment {l' : SyncLoop}
    (h : l'.environment = l.environment) (q : Port) :
    meanLinkDelayOf l' q = meanLinkDelayOf l q := by
  have hdelay : (fun i => (l'.perPortGlobal i).meanLinkDelay) =
      fun i => (l.perPortGlobal i).meanLinkDelay :=
    congrArg SyncLoop.Environment.meanLinkDelay h
  unfold meanLinkDelayOf
  rw [hdelay]

theorem sameInstant_of_environment {l' : SyncLoop}
    (h : l'.environment = l.environment)
    (hslave : l'.clockSlaveSyncSm = l.clockSlaveSyncSm) :
    SameInstant pss l' <-> SameInstant pss l := by
  unfold SameInstant
  rw [hslave, meanLinkDelayOf_of_environment h]

end ClockSlaveSyncSM

def Call.updatesSlave : Call -> Bool
  | .setRtcSyncOffset _ _ => true
  | _ => false

/-- The call hands a structure to `MDSyncSendSM` of a port. -/
def Call.sendsTo (i : PortIndex) : Call -> Bool
  | .mdSyncSend j _ => j = i
  | _ => false

def Call.reachesSite : Call -> Bool
  | .siteSyncSync _ => true
  | _ => false

namespace SyncLoop

/-!
## The calls that a structure leads to
-/

/-- The port hands structures of port `q` on. -/
structure Due (l : SyncLoop) (q : Port) (i : PortIndex) : Prop where
  other : q ≠ i.succ
  slave : l.perPTPInstanceGlobal.selectedState q = .slavePort
  grandmaster : l.perPTPInstanceGlobal.gmPresent = true
  enabled : l.portReady i = true
  master : l.perPTPInstanceGlobal.selectedState i.succ = .masterPort

/-- The calls of one event forward the structure of the slave port. -/
structure Forwards (l : SyncLoop) (new : List Call) : Prop where
  single : new.countP Call.reachesSite ≤ 1
  sound : forall before i mdSync rest,
    new = before ++ .mdSyncSend i mdSync :: rest ->
    exists pss, .siteSyncSync pss ∈ before ∧ Due l pss.localPortNumber i
  once : forall pss, .siteSyncSync pss ∈ new ->
    SiteSyncSyncSM.fromSlavePort l pss = true ->
    new.countP Call.updatesSlave = 1 ∧
      forall i, Due l pss.localPortNumber i -> new.countP (Call.sendsTo i) = 1

section Structures

variable {l l' : SyncLoop} {pss : PortSyncSync}

theorem due_iff (h : l.Configured)
    (hslave : SiteSyncSyncSM.fromSlavePort l pss = true) (i : PortIndex) :
    Due l pss.localPortNumber i <-> PortSyncSyncSendSM.Eligible pss l i := by
  obtain ⟨hstate, hpresent⟩ := of_decide_eq_true hslave
  unfold PortSyncSyncSendSM.Eligible PortSyncSyncSendSM.masterReady
  rw [h.thisPort i, decide_eq_true_iff]
  constructor
  · intro hdue
    exact ⟨hdue.other, hdue.enabled, hdue.master⟩
  · rintro ⟨hother, henabled, hmaster⟩
    exact ⟨hother, hstate, hpresent, henabled, hmaster⟩

/-- The calls of the site and the machines below it. -/
def response (pss : PortSyncSync) (l : SyncLoop) (tail : List Call) :
    List Call :=
  .siteSyncSync pss ::
    .setRtcSyncOffset
      (ClockSlaveSyncSM.syncOffset (ClockSlaveSyncSM.recorded pss l)).1
      (ClockSlaveSyncSM.syncOffset (ClockSlaveSyncSM.recorded pss l)).2 ::
    (ClockSlaveSyncSM.divisions pss l ++ tail)

theorem fromSlavePort_of_environment (h : l'.environment = l.environment) :
    SiteSyncSyncSM.fromSlavePort l' pss =
      SiteSyncSyncSM.fromSlavePort l pss := by
  have hstate : l'.perPTPInstanceGlobal.selectedState =
      l.perPTPInstanceGlobal.selectedState :=
    congrArg Environment.selectedState h
  have hpresent : l'.perPTPInstanceGlobal.gmPresent =
      l.perPTPInstanceGlobal.gmPresent := congrArg Environment.gmPresent h
  unfold SiteSyncSyncSM.fromSlavePort
  rw [hstate, hpresent]

theorem divisions_calls (c : Call)
    (h : c ∈ ClockSlaveSyncSM.divisions pss l) :
    exists t1 t2, c = .uscalednsDiv t1 t2 := by
  unfold ClockSlaveSyncSM.divisions at h
  split at h
  · cases h
  · rw [List.mem_singleton] at h
    exact ⟨_, _, h⟩

theorem sends_calls {c : Call} {ports : List PortIndex}
    (h : c ∈ PortSyncSyncSendSM.sends pss l ports) :
    exists i, PortSyncSyncSendSM.Eligible pss l i ∧
      c = .mdSyncSend i (PortSyncSyncSendSM.mdSyncFor pss l i) := by
  unfold PortSyncSyncSendSM.sends at h
  obtain ⟨i, hi, rfl⟩ := List.mem_map.mp h
  exact ⟨i, of_decide_eq_true (List.mem_filter.mp hi).right, rfl⟩

theorem countP_divisions {f : Call -> Bool}
    (hf : forall t1 t2, f (.uscalednsDiv t1 t2) = false) :
    (ClockSlaveSyncSM.divisions pss l).countP f = 0 := by
  rw [List.countP_eq_zero]
  intro c hc
  obtain ⟨t1, t2, rfl⟩ := divisions_calls c hc
  simp [hf]

theorem countP_sends {f : Call -> Bool} {ports : List PortIndex}
    (hf : forall i mdSync, f (.mdSyncSend i mdSync) = false) :
    (PortSyncSyncSendSM.sends pss l ports).countP f = 0 := by
  rw [List.countP_eq_zero]
  intro c hc
  obtain ⟨i, _, rfl⟩ := sends_calls hc
  simp [hf]

/-- Each eligible port is handed the structure once. -/
theorem countP_sendsTo (i : PortIndex) :
    (PortSyncSyncSendSM.sends pss l SiteSyncSyncSM.ports).countP
        (Call.sendsTo i) =
      if PortSyncSyncSendSM.Eligible pss l i then 1 else 0 := by
  have hcount : forall ports : List PortIndex,
      (PortSyncSyncSendSM.sends pss l ports).countP (Call.sendsTo i) =
        if PortSyncSyncSendSM.Eligible pss l i then ports.count i else 0 := by
    intro ports
    induction ports with
    | nil => simp [PortSyncSyncSendSM.sends]
    | cons j ports ih =>
        rw [PortSyncSyncSendSM.sends_cons, List.countP_append, ih,
          List.count_cons]
        by_cases hj : j = i
        · subst hj
          by_cases heligible : PortSyncSyncSendSM.Eligible pss l j
          · simp [heligible, Call.sendsTo, Nat.add_comm]
          · simp [heligible]
        · by_cases heligible : PortSyncSyncSendSM.Eligible pss l j
          · simp [heligible, Call.sendsTo, hj]
          · simp [heligible, hj]
  rw [hcount, List.count_eq_one_of_mem (List.nodup_finRange nPorts)
    (List.mem_finRange i)]

theorem countP_leading {f : Call -> Bool}
    (hf : forall i mdSync, f (.portSyncSyncReceive i mdSync) = false)
    {pre : List Call} (hpre : Leading pre) : pre.countP f = 0 := by
  rcases hpre with rfl | ⟨i, mdSync, rfl⟩
  · rfl
  · simp [hf]

theorem not_mem_leading {pre : List Call} (hpre : Leading pre) {c : Call}
    (hc : forall i mdSync, c ≠ .portSyncSyncReceive i mdSync) : c ∉ pre := by
  rcases hpre with rfl | ⟨i, mdSync, rfl⟩
  · exact List.not_mem_nil
  · rw [List.mem_singleton]
    exact hc i mdSync

/-- What stands before a later call includes the earlier one. -/
theorem mem_before {α : Type} {before rest pre tail : List α} {a b : α}
    (h : before ++ a :: rest = pre ++ b :: tail) (hpre : a ∉ pre)
    (hne : a ≠ b) : b ∈ before := by
  rcases List.append_eq_append_iff.mp h with ⟨mid, hmid, hrest⟩ |
    ⟨mid, hmid, hrest⟩
  · cases mid with
    | nil => exact absurd (List.cons.inj hrest).left hne
    | cons c mid =>
        rw [hmid, (List.cons.inj hrest).left] at hpre
        exact absurd (List.mem_append_right before List.mem_cons_self) hpre
  · cases mid with
    | nil => exact absurd (List.cons.inj hrest).left.symm hne
    | cons c mid =>
        rw [hmid, (List.cons.inj hrest).left]
        exact List.mem_append_right pre List.mem_cons_self

/-- Calls that never reach the site forward nothing. -/
theorem forwards_leading {pre : List Call} (hpre : Leading pre) :
    Forwards l pre where
  single := by
    rw [countP_leading (fun _ _ => rfl) hpre]
    exact Nat.zero_le 1
  sound before i mdSync rest h := by
    refine absurd (h ▸ List.mem_append_right before List.mem_cons_self)
      (not_mem_leading hpre (by simp))
  once pss hmem := absurd hmem (not_mem_leading hpre (by simp))

theorem forwards_ignored {pre : List Call} (hpre : Leading pre)
    (hnot : SiteSyncSyncSM.fromSlavePort l pss = false) :
    Forwards l (pre ++ [.siteSyncSync pss]) where
  single := by
    rw [List.countP_append, countP_leading (fun _ _ => rfl) hpre]
    exact Nat.le_refl 1
  sound before i mdSync rest h := by
    have hmem : Call.mdSyncSend i mdSync ∈ pre ++ [.siteSyncSync pss] :=
      h ▸ List.mem_append_right before List.mem_cons_self
    rcases List.mem_append.mp hmem with hmem | hmem
    · exact absurd hmem (not_mem_leading hpre (by simp))
    · simp at hmem
  once pss' hmem hslave := by
    rcases List.mem_append.mp hmem with hmem | hmem
    · exact absurd hmem (not_mem_leading hpre (by simp))
    · have hsame : pss' = pss := by simpa using hmem
      rw [hsame, hnot] at hslave
      cases hslave

theorem forwards_response (h : l.Configured) {pre : List Call}
    (hpre : Leading pre)
    (hslave : SiteSyncSyncSM.fromSlavePort l pss = true) :
    Forwards l (pre ++ response pss l
      (PortSyncSyncSendSM.sends pss l SiteSyncSyncSM.ports)) where
  single := by
    unfold response
    rw [List.countP_append, countP_leading (fun _ _ => rfl) hpre,
      List.countP_cons, List.countP_cons, List.countP_append,
      countP_divisions (fun _ _ => rfl), countP_sends (fun _ _ => rfl)]
    exact Nat.le_refl 1
  sound before i mdSync rest hnew := by
    -- the call is one of those that follow the call of the site
    have hmem : Call.mdSyncSend i mdSync ∈
        PortSyncSyncSendSM.sends pss l SiteSyncSyncSM.ports := by
      have hmem : Call.mdSyncSend i mdSync ∈ pre ++ response pss l
          (PortSyncSyncSendSM.sends pss l SiteSyncSyncSM.ports) :=
        hnew ▸ List.mem_append_right before List.mem_cons_self
      unfold response at hmem
      simp only [List.mem_append, List.mem_cons, reduceCtorEq, false_or] at hmem
      rcases hmem with hmem | hmem | hmem
      · exact absurd hmem (not_mem_leading hpre (by simp))
      · obtain ⟨_, _, heq⟩ := divisions_calls _ hmem
        cases heq
      · exact hmem
    obtain ⟨j, heligible, heq⟩ := sends_calls hmem
    cases heq
    refine ⟨pss, ?_, (due_iff h hslave i).mpr heligible⟩
    exact mem_before hnew.symm (not_mem_leading hpre (by simp)) (by simp)
  once pss' hmem _ := by
    have hsame : pss' = pss := by
      unfold response at hmem
      simp only [List.mem_append, List.mem_cons, reduceCtorEq, false_or,
        Call.siteSyncSync.injEq] at hmem
      rcases hmem with hmem | hmem | hmem | hmem
      · exact absurd hmem (not_mem_leading hpre (by simp))
      · exact hmem
      · obtain ⟨_, _, heq⟩ := divisions_calls _ hmem
        cases heq
      · obtain ⟨_, _, heq⟩ := sends_calls hmem
        cases heq
    subst hsame
    unfold response
    refine ⟨?_, fun i hdue => ?_⟩
    · rw [List.countP_append, countP_leading (fun _ _ => rfl) hpre,
        List.countP_cons, List.countP_cons, List.countP_append,
        countP_divisions (fun _ _ => rfl), countP_sends (fun _ _ => rfl)]
      rfl
    · rw [List.countP_append, countP_leading (fun _ _ => rfl) hpre,
        List.countP_cons, List.countP_cons, List.countP_append,
        countP_divisions (fun _ _ => rfl), countP_sendsTo,
        if_pos ((due_iff h hslave i).mp hdue)]
      rfl

/-- A structure that hangs the division goes to no port. -/
theorem not_forwards_stuck (h : l.Configured) {pre : List Call}
    (hpre : Leading pre)
    (hslave : SiteSyncSyncSM.fromSlavePort l pss = true) {i : PortIndex}
    (heligible : PortSyncSyncSendSM.Eligible pss l i) :
    ¬ Forwards l (pre ++ response pss l []) := by
  intro hforwards
  have hmem : Call.siteSyncSync pss ∈ pre ++ response pss l [] :=
    List.mem_append_right pre List.mem_cons_self
  have hcount := (hforwards.once pss hmem hslave).right i
    ((due_iff h hslave i).mpr heligible)
  unfold response at hcount
  rw [List.countP_append, countP_leading (fun _ _ => rfl) hpre,
    List.countP_cons, List.countP_cons, List.countP_append,
    countP_divisions (fun _ _ => rfl)] at hcount
  cases hcount

/-- Where no port is due the hanging division withholds nothing. -/
theorem sends_eq_nil
    (h : forall i, ¬ PortSyncSyncSendSM.Eligible pss l i) :
    PortSyncSyncSendSM.sends pss l SiteSyncSyncSM.ports = [] := by
  unfold PortSyncSyncSendSM.sends
  rw [List.map_eq_nil_iff, List.filter_eq_nil_iff]
  intro i _
  simpa using h i

end Structures

section Steps

variable {l l' l'' : SyncLoop} {ts : UScaledNs} {pss : PortSyncSync}
  {pre : List Call}

theorem response_of_arrival (h : Arrives ts pss l l' pre l'')
    (tail : List Call) : response pss l' tail = response pss l tail := by
  have hdelay := ClockSlaveSyncSM.meanLinkDelayOf_of_environment h.environment
    pss.localPortNumber
  have hoffset : ClockSlaveSyncSM.syncOffset
        (ClockSlaveSyncSM.recorded pss l') =
      ClockSlaveSyncSM.syncOffset (ClockSlaveSyncSM.recorded pss l) := by
    unfold ClockSlaveSyncSM.recorded ClockSlaveSyncSM.recordSync
      ClockSlaveSyncSM.syncOffset
    dsimp only
    rw [hdelay]
  have hsampled : ClockSlaveSyncSM.sampled pss l' =
      ClockSlaveSyncSM.sampled pss l := by
    unfold ClockSlaveSyncSM.sampled ClockSlaveSyncSM.recordSync
    dsimp only
    rw [hdelay, h.slave]
  unfold response ClockSlaveSyncSM.divisions
  rw [hoffset, hsampled]

theorem calls_of_arrival (h : Arrives ts pss l l' pre l'') :
    l''.calls = l.calls ++ pre ++
      if SiteSyncSyncSM.fromSlavePort l pss then
        response pss l
          (if ClockSlaveSyncSM.SameInstant pss l then [] else
            PortSyncSyncSendSM.sends pss l SiteSyncSyncSM.ports)
      else
        [.siteSyncSync pss] := by
  have hresult : l''.calls = (SiteSyncSyncSM.recvPSSync ts pss l').calls :=
    congrArg Output.calls h.result
  have hfrom := @fromSlavePort_of_environment l l' pss h.environment
  have hoperating := h.configured.operating
  rw [hresult, ← h.calls]
  cases hslave : SiteSyncSyncSM.fromSlavePort l pss with
  | false =>
      rw [SiteSyncSyncSM.recvPSSync_ignored hoperating h.running h.rests
        (hfrom.trans hslave)]
      rfl
  | true =>
      rw [if_pos rfl, ← response_of_arrival h]
      have hinstant : ClockSlaveSyncSM.Stuck pss l' <->
          ClockSlaveSyncSM.SameInstant pss l :=
        ClockSlaveSyncSM.stuck_iff.trans
          (ClockSlaveSyncSM.sameInstant_of_environment h.environment h.slave)
      by_cases hstuck : ClockSlaveSyncSM.SameInstant pss l
      · rw [if_pos hstuck, SiteSyncSyncSM.calls_recvPSSync_stuck ts hoperating
          h.running h.rests (hfrom.trans hslave) (hinstant.mpr hstuck)]
        unfold response
        rw [List.append_nil]
      · rw [if_neg hstuck, SiteSyncSyncSM.calls_recvPSSync ts hoperating
          h.running h.rests (hfrom.trans hslave) (fun h => hstuck
            (hinstant.mp h)),
          PortSyncSyncSendSM.sends_of_environment pss h.environment]
        rfl

/-!
## Runs
-/

/-- The structure that comes to the site at an event goes to every port due. -/
def Passes (l : SyncLoop) (e : Event) : Prop :=
  forall ts pss, delivery l e = some (ts, pss) ->
    SiteSyncSyncSM.fromSlavePort l pss = true ->
    ClockSlaveSyncSM.SameInstant pss l ->
    forall i, ¬ PortSyncSyncSendSM.Eligible pss l i

theorem forwards_news_iff (h : l.Steady) (e : Event) :
    Forwards l (news l e) <-> Passes l e := by
  cases hdelivery : delivery l e with
  | none =>
      obtain ⟨pre, hpre, hcalls⟩ := leading_of_no_delivery h hdelivery
      rw [news_of_calls hcalls]
      refine iff_of_true (forwards_leading hpre) fun ts pss hsome => ?_
      rw [hdelivery] at hsome
      cases hsome
  | some arrival =>
      obtain ⟨ts, pss⟩ := arrival
      have hrest := h (delivery_eq_some hdelivery).left
      obtain ⟨l', pre, harrives⟩ := arrives_of_delivery hrest hdelivery
      have hcalls := calls_of_arrival harrives
      rw [List.append_assoc] at hcalls
      rw [news_of_calls hcalls]
      have hpasses : Passes l e <->
          (SiteSyncSyncSM.fromSlavePort l pss = true ->
            ClockSlaveSyncSM.SameInstant pss l ->
            forall i, ¬ PortSyncSyncSendSM.Eligible pss l i) := by
        unfold Passes
        rw [hdelivery]
        simp
      rw [hpasses]
      have hconfigured := hrest.ready.configured
      cases hslave : SiteSyncSyncSM.fromSlavePort l pss with
      | false =>
          refine iff_of_true ?_ fun hfalse => by cases hfalse
          exact forwards_ignored harrives.leading hslave
      | true =>
          rw [if_pos rfl]
          by_cases hinstant : ClockSlaveSyncSM.SameInstant pss l
          · rw [if_pos hinstant]
            constructor
            · intro hforwards _ _ i heligible
              exact not_forwards_stuck hconfigured harrives.leading hslave
                heligible hforwards
            · intro hnone
              rw [← sends_eq_nil (hnone rfl hinstant)]
              exact forwards_response hconfigured harrives.leading hslave
          · rw [if_neg hinstant]
            refine iff_of_true ?_ fun _ hfalse => absurd hfalse hinstant
            exact forwards_response hconfigured harrives.leading hslave

/--
In a run each structure of the slave port is forwarded once to every port due
exactly if no structure that shows a new time for a known local time has a port
to go to.
-/
theorem forwarded_once_iff (config : Config) (memory : SyncMemory)
    (es : List Event) :
    Along step (fun l e => Forwards l (news l e)) (start config memory) es <->
      Along step Passes (start config memory) es := by
  have hsteady : forall history,
      (runEvents step (start config memory) history).Steady :=
    steady_after config memory
  constructor
  · intro h history e rest hes
    exact (forwards_news_iff (hsteady history) e).mp (h history e rest hes)
  · intro h history e rest hes
    exact (forwards_news_iff (hsteady history) e).mpr (h history e rest hes)

end Steps

/-!
## A bridge with two ports
-/

/-- Port 1 is the slave port and port 2 the only master port. -/
def bridgeConfig : Config where
  systemIdentity := default
  ptpPorts p :=
    if p = 1 then .slavePort else if p = 2 then .masterPort else .disabledPort
  externalPortConfigurationEnabled := true

/-- A `Sync` with sequence number 0 on port 1. -/
def syncEvent (ingress : UScaledNs) : Event :=
  .sync 0 ingress { (default : TSUTimestamp) with ts := ingress } default

/-- A `Follow_Up` with sequence number 0 on port 1. -/
def followUpEvent (seconds : UInt32) : Event :=
  .followUp 0 default
    { (default : PTPMsgFollowUp) with
      preciseOriginTimestamp :=
        { secondsMsb := 0, secondsLsb := seconds, nanoseconds := 0 } }

/-- One pair of messages, and a `Sync` with the same ingress timestamp. -/
def repeatedInstant : List Event :=
  [syncEvent default, followUpEvent 1, syncEvent default]

/-- What the second `Follow_Up` brings to the site. -/
def repeatedStructure : PortSyncSync :=
  ((delivery (after bridgeConfig default repeatedInstant)
    (followUpEvent 2)).getD default).2

theorem repeated_instant_not_forwarded :
    ¬ Along step (fun l e => Forwards l (news l e))
      (start bridgeConfig default) (repeatedInstant ++ [followUpEvent 2]) := by
  intro h
  have hlast : Forwards (after bridgeConfig default repeatedInstant)
      (news (after bridgeConfig default repeatedInstant) (followUpEvent 2)) :=
    h.last
  have hmem : .siteSyncSync repeatedStructure ∈
      news (after bridgeConfig default repeatedInstant) (followUpEvent 2) := by
    decide +kernel
  have hdue : Due (after bridgeConfig default repeatedInstant)
      repeatedStructure.localPortNumber 1 :=
    ⟨by decide +kernel, by decide +kernel, by decide +kernel,
      by decide +kernel, by decide +kernel⟩
  have honce := (hlast.once repeatedStructure hmem (by decide +kernel)).right 1
    hdue
  have hnone : (news (after bridgeConfig default repeatedInstant)
      (followUpEvent 2)).countP (Call.sendsTo 1) = 0 := by decide +kernel
  rw [hnone] at honce
  cases honce

end SyncLoop

end TimeSync
end Ziggo
