import Mathlib.Data.Rat.Floor
import Ziggo.TimeSync.AnnounceLoop.Frames
import Ziggo.TimeSync.EthFrame.RoundTrip
import Ziggo.TimeSync.SyncLoop.Forwarding
import Ziggo.TimeSync.SyncLoop.Relates

/-!
# Receipt timeouts

A received `Sync` and a received `Announce` both state the logarithm of the
interval to the next one.  The module determines for which logarithms the
machines derive the receipt timeout from it.
-/

namespace Ziggo
namespace TimeSync

open Foundation TsnDrivers

namespace SyncLoop

theorem admits_prefix : Admits fun l l' => l.calls <+: l'.calls where
  silent {l l'} h := by
    have hcalls : l'.calls = l.calls := congrArg LowerView.calls h
    rw [hcalls]
  trans h h' := h.trans h'
  call c l := List.prefix_append l.calls [c]
  transmit _ _ l := List.prefix_append l.calls _

end SyncLoop

open SyncLoop

theorem SiteSyncSyncSM.calls_recvPSSync_prefix (ts : UScaledNs)
    (pss : PortSyncSync) (l : SyncLoop) :
    l.calls ++ [.siteSyncSync pss] <+: (recvPSSync ts pss l).calls :=
  relates_recvPSSync_called admits_prefix ts pss l

/-!
## The derived interval
-/

/-- The interval and the timeout that a receipt timeout count asks for. -/
structure ReceiptTimeout (count : UInt16) (logInterval : Int8)
    (ts interval timeout : UScaledNs) : Prop where
  interval : (interval.toNat : Int) =
    ⌊(count.toNat : Rat) * 10 ^ 9 * 2 ^ logInterval.toInt⌋ * 2 ^ 16
  later : ts.toNat < timeout.toNat

/-- The logarithm is not negative, and the sum with the time of reception fits. -/
def Timeable (count : UInt16) (logInterval : Int8) (ts : UScaledNs) : Prop :=
  0 ≤ logInterval ∧
    ts.toNat + count.toNat * 10 ^ 9 * 2 ^ logInterval.toInt.toNat * 2 ^ 16 +
        (if ts.subns = 0xFFFF then 2 ^ 16 else 0) < 2 ^ 96

section Intervals

variable {count : UInt16} {logInterval : Int8}

theorem interval_le (hcount : count.toNat ≤ 255) (hle : logInterval ≤ 24) :
    count.toNat * 10 ^ 9 * 2 ^ logInterval.toInt.toNat ≤
      255 * 10 ^ 9 * 2 ^ 24 := by
  have hshift : logInterval.toInt.toNat ≤ 24 := by
    have hint : logInterval.toInt ≤ 24 := Int8.le_iff_toInt_le.mp hle
    omega
  exact Nat.mul_le_mul (Nat.mul_le_mul_right _ hcount)
    (Nat.pow_le_pow_right (by decide) hshift)

theorem timeoutInterval_eq_ok (hcount : count.toNat ≤ 255)
    (hlog : 0 ≤ logInterval) (hle : logInterval ≤ 24) :
    exists interval,
      PortAnnounceInformationSM.timeoutInterval count logInterval =
          .ok interval ∧
        interval.subns = 0 ∧
        interval.toNat =
          count.toNat * 10 ^ 9 * 2 ^ logInterval.toInt.toNat * 2 ^ 16 := by
  have hproduct := interval_le hcount hle
  have hnsec : (count.toUInt64 * oneSecNs *
      UInt64.ofNat (2 ^ logInterval.toInt.toNat)).toNat =
        count.toNat * 10 ^ 9 * 2 ^ logInterval.toInt.toNat := by
    have hsmall : 2 ^ logInterval.toInt.toNat < 2 ^ 64 :=
      Nat.pow_lt_pow_right (by decide) (by
        have hint : logInterval.toInt ≤ 24 := Int8.le_iff_toInt_le.mp hle
        omega)
    have hfirst : count.toNat * 10 ^ 9 < 2 ^ 64 := by omega
    rw [UInt64.toNat_mul, UInt64.toNat_mul, UInt16.toNat_toUInt64,
      UInt64.toNat_ofNat_of_lt' hsmall]
    change count.toNat * 10 ^ 9 % 2 ^ 64 * _ % 2 ^ 64 = _
    rw [Nat.mod_eq_of_lt hfirst, Nat.mod_eq_of_lt (by omega)]
  have hmax : logInterval ≤ 30 :=
    Int8.le_trans hle (show (24 : Int8) ≤ 30 by decide)
  refine ⟨_, if_pos ⟨hlog, hmax⟩, rfl, ?_⟩
  unfold UScaledNs.toNat
  dsimp only
  rw [hnsec]
  simp

theorem timeoutInterval_negative (hlog : ¬ 0 ≤ logInterval) :
    PortAnnounceInformationSM.timeoutInterval count logInterval =
      .error .overflow :=
  if_neg fun h => hlog h.left

theorem floor_interval (count n : Nat) :
    ⌊(count : Rat) * 10 ^ 9 * 2 ^ (n : Int)⌋ =
      ((count * 10 ^ 9 * 2 ^ n : Nat) : Int) := by
  have hcast : (count : Rat) * 10 ^ 9 * 2 ^ (n : Int) =
      ((count * 10 ^ 9 * 2 ^ n : Nat) : Rat) := by
    rw [zpow_natCast]
    norm_cast
  rw [hcast, Int.floor_natCast]

/-- The sum of a time and a whole number of nanoseconds is later if it fits. -/
theorem lt_uscalednsAdd_iff {ts interval : UScaledNs}
    (hsubns : interval.subns = 0) (hpos : 0 < interval.toNat)
    (hlt : interval.toNat < 2 ^ 95) :
    ts.toNat < (uscalednsAdd ts interval).toNat <->
      ts.toNat + interval.toNat + (if ts.subns = 0xFFFF then 2 ^ 16 else 0) <
        2 ^ 96 := by
  have hts := ts.toNat_lt
  have hinterval := interval.toNat_lt
  have herror : additionError ts interval =
      if ts.subns = 0xFFFF then 2 ^ 16 else 0 := by
    unfold additionError
    rw [hsubns]
    exact if_congr (UInt16.toNat_inj (b := 0xFFFF)) rfl rfl
  rw [toNat_uscalednsAdd, herror]
  split
  · omega
  · omega

theorem receiptTimeout_iff (hcount : 1 ≤ count.toNat ∧ count.toNat ≤ 255)
    (hle : logInterval ≤ 24) (ts : UScaledNs) :
    (exists interval,
        PortAnnounceInformationSM.timeoutInterval count logInterval =
            .ok interval ∧
          ReceiptTimeout count logInterval ts interval
            (uscalednsAdd ts interval)) <->
      Timeable count logInterval ts := by
  by_cases hlog : 0 ≤ logInterval
  · obtain ⟨interval, hok, hsubns, hvalue⟩ :=
      timeoutInterval_eq_ok hcount.right hlog hle
    have hpos : 0 < interval.toNat := by
      rw [hvalue]
      have := hcount.left
      positivity
    have hlt : interval.toNat < 2 ^ 95 := by
      have hproduct := interval_le hcount.right hle
      rw [hvalue]
      omega
    have hlater := @lt_uscalednsAdd_iff ts interval hsubns hpos hlt
    rw [hvalue] at hlater
    constructor
    · rintro ⟨interval', hok', htimeout⟩
      rw [hok] at hok'
      cases hok'
      exact ⟨hlog, hlater.mp htimeout.later⟩
    · rintro ⟨_, hfits⟩
      refine ⟨interval, hok, ?_, hlater.mpr hfits⟩
      have hint : 0 ≤ logInterval.toInt := Int8.le_iff_toInt_le.mp hlog
      rw [← Int.toNat_of_nonneg hint, floor_interval, hvalue]
      push_cast
      rfl
  · refine iff_of_false ?_ fun htimeable => hlog htimeable.left
    rintro ⟨interval, hok, _⟩
    rw [timeoutInterval_negative hlog] at hok
    cases hok

end Intervals

/-!
## The timeouts of the machines
-/

/-- The machine of a port hands the timeout of its `Sync` to the site. -/
def SyncTimesOut (i : PortIndex) (ts : UScaledNs) (count : UInt16)
    (logInterval : Int8) (l : SyncLoop) : Prop :=
  let l' := PortSyncSyncReceiveSM.receivedSyncAction i ts l
  exists pss, l.calls ++ [.siteSyncSync pss] <+: l'.calls ∧
    ReceiptTimeout count logInterval ts
      (l'.perPortGlobal i).syncReceiptTimeoutTimeInterval
      pss.syncReceiptTimeoutTime

/-- The machine of a port sets the timeout of its `Announce`. -/
def AnnounceTimesOut (ts : UScaledNs) (count : UInt16) (logInterval : Int8)
    (sm : PortAnnounceInformationSM) : Prop :=
  exists sm', sm.superiorMasterPortAction ts = .ok sm' ∧
    ReceiptTimeout count logInterval ts
      sm'.perPortGlobal.announceReceiptTimeoutTimeInterval
      sm'.announceReceiptTimeoutTime

/-- What the site is handed, and what it leaves as it is. -/
theorem PortSyncSyncReceiveSM.passOn_timeout (i : PortIndex) (ts : UScaledNs)
    (mdSync : MDSyncReceive) (l : SyncLoop) :
    exists pss,
      l.calls ++ [.siteSyncSync pss] <+: (passOn i ts mdSync l).calls ∧
        ((passOn i ts mdSync l).perPortGlobal i).syncReceiptTimeoutTimeInterval =
          (l.perPortGlobal i).syncReceiptTimeoutTimeInterval ∧
        pss.syncReceiptTimeoutTime =
          uscalednsAdd ts (l.perPortGlobal i).syncReceiptTimeoutTimeInterval := by
  have hprefix := SiteSyncSyncSM.calls_recvPSSync_prefix ts
    (psSyncOf (l.heap 0) mdSync (l.perPortGlobal i).thisPort
      (l.portSyncSyncReceiveSms i).rateRatio
      (uscalednsAdd ts (l.perPortGlobal i).syncReceiptTimeoutTimeInterval))
    (PortSyncSyncSendSM.setSyncReceiptTimeoutTime
      (uscalednsAdd ts (l.perPortGlobal i).syncReceiptTimeoutTimeInterval)
      (dropBlock l))
  have hview := congrArg SiteView.syncReceiptTimeoutTimeInterval
    (SiteSyncSyncSM.siteView_recvPSSync ts
      (psSyncOf (l.heap 0) mdSync (l.perPortGlobal i).thisPort
        (l.portSyncSyncReceiveSms i).rateRatio
        (uscalednsAdd ts (l.perPortGlobal i).syncReceiptTimeoutTimeInterval))
      (PortSyncSyncSendSM.setSyncReceiptTimeoutTime
        (uscalednsAdd ts (l.perPortGlobal i).syncReceiptTimeoutTimeInterval)
        (dropBlock l)))
  exact ⟨_, hprefix, congrFun hview i, rfl⟩

section Machines

variable {count : UInt16} {logInterval : Int8} {ts : UScaledNs}

theorem syncTimesOut_iff {i : PortIndex} {l : SyncLoop} {mdSync : MDSyncReceive}
    (hlive : (l.portSyncSyncReceiveSms i).rcvdMDSyncPtrPSSR = .live mdSync)
    (hport : (l.perPortGlobal i).syncReceiptTimeout = count)
    (hlog : mdSync.logMessageInterval = logInterval) :
    SyncTimesOut i ts count logInterval l <->
      exists interval,
        PortAnnounceInformationSM.timeoutInterval count logInterval =
            .ok interval ∧
          ReceiptTimeout count logInterval ts interval
            (uscalednsAdd ts interval) := by
  unfold SyncTimesOut PortSyncSyncReceiveSM.receivedSyncAction
  dsimp only
  rw [withObject_of_live hlive, hport, hlog]
  cases PortAnnounceInformationSM.timeoutInterval count logInterval with
  | error f =>
      refine iff_of_false ?_ fun ⟨_, hok, _⟩ => by cases hok
      rintro ⟨pss, hcalls, _⟩
      have hlength := hcalls.length_le
      simp [halt] at hlength
  | ok interval =>
      dsimp only
      generalize hset : PortSyncSyncReceiveSM.setTimeoutInterval i interval _ =
        l'
      have hinterval :
          (l'.perPortGlobal i).syncReceiptTimeoutTimeInterval = interval := by
        rw [← hset]
        exact congrArg PerPortGlobal.syncReceiptTimeoutTimeInterval
          (PortSyncSyncSendSM.port_assignPort i _ _)
      have hcalls : l'.calls = l.calls := by
        rw [← hset]
        rfl
      obtain ⟨pss, hprefix, hkept, htimeout⟩ :=
        PortSyncSyncReceiveSM.passOn_timeout i ts mdSync l'
      rw [hcalls] at hprefix
      rw [hinterval] at hkept htimeout
      constructor
      · rintro ⟨pss', hprefix', hreceipt⟩
        have heq : pss' = pss := by
          have hlists := List.prefix_of_prefix_length_le hprefix' hprefix
            (by simp)
          simpa using hlists.eq_of_length (by simp)
        rw [heq, hkept, htimeout] at hreceipt
        exact ⟨interval, rfl, hreceipt⟩
      · rintro ⟨interval', hok, hreceipt⟩
        cases hok
        refine ⟨pss, hprefix, ?_⟩
        rw [hkept, htimeout]
        exact hreceipt

theorem announceTimesOut_iff {sm : PortAnnounceInformationSM}
    {announce : PTPMsgAnnounce} (hlive : sm.rcvdAnnouncePtr = .live announce)
    (hpath : announce.pathTraceTLV.lengthField.toNat ≤ 64)
    (hinitial : sm.perPortGlobal.initialLogAnnounceInterval = 0)
    (hport : sm.perPortGlobal.announceReceiptTimeout = count)
    (hlog : announce.head.logMessageInterval = logInterval) :
    AnnounceTimesOut ts count logInterval sm <->
      exists interval,
        PortAnnounceInformationSM.timeoutInterval count logInterval =
            .ok interval ∧
          ReceiptTimeout count logInterval ts interval
            (uscalednsAdd ts interval) := by
  obtain ⟨array, hcopy⟩ := (@exists_copyOctets_iff
    announce.pathTraceTLV.lengthField.toNat announce.pathTraceTLV.pathSequence
    sm.perPortGlobal.annPathSequence).mpr hpath
  have hderef : sm.rcvdAnnouncePtr.deref = .ok announce := by
    rw [hlive]
    rfl
  unfold AnnounceTimesOut
  constructor
  · rintro ⟨sm', haction, hreceipt⟩
    obtain ⟨announce', hderef', hrest⟩ := bind_eq_ok.mp haction
    rw [hderef] at hderef'
    cases hderef'
    obtain ⟨sm₁, hrecord, hrest⟩ := bind_eq_ok.mp hrest
    obtain ⟨_, _, hreturn⟩ := bind_eq_ok.mp hrecord
    cases hreturn
    obtain ⟨interval, hinterval, hrest⟩ := bind_eq_ok.mp hrest
    obtain ⟨_, _, hreturn⟩ := bind_eq_ok.mp hrest
    cases hreturn
    dsimp only at hinterval
    rw [hport, hlog] at hinterval
    exact ⟨interval, hinterval, hreceipt⟩
  · rintro ⟨interval, hinterval, hreceipt⟩
    obtain ⟨_, hsecond⟩ : exists interval,
        PortAnnounceInformationSM.timeoutInterval
          sm.perPortGlobal.announceReceiptTimeout
          sm.perPortGlobal.initialLogAnnounceInterval = .ok interval := by
      rw [hinitial]
      exact ⟨_, if_pos ⟨by decide, by decide⟩⟩
    rw [← hport, ← hlog] at hinterval
    refine ⟨_, bind_eq_ok.mpr ⟨announce, hderef, bind_eq_ok.mpr
      ⟨_, bind_eq_ok.mpr ⟨array, hcopy, rfl⟩, bind_eq_ok.mpr
        ⟨interval, hinterval, bind_eq_ok.mpr ⟨_, hsecond, rfl⟩⟩⟩⟩, ?_⟩
    exact hreceipt

end Machines

/--
Both machines time a message out as it asks for exactly if its logarithm is not
negative and the time of the timeout can be represented.
-/
theorem timesOut_iff (count : UInt16) (logInterval : Int8) (ts : UScaledNs)
    (hcount : 1 ≤ count.toNat ∧ count.toNat ≤ 255)
    (hlog : -24 ≤ logInterval ∧ logInterval ≤ 24)
    (i : PortIndex) (l : SyncLoop) (mdSync : MDSyncReceive)
    (hsync : (l.portSyncSyncReceiveSms i).rcvdMDSyncPtrPSSR = .live mdSync)
    (hsyncCount : (l.perPortGlobal i).syncReceiptTimeout = count)
    (hsyncLog : mdSync.logMessageInterval = logInterval)
    (sm : PortAnnounceInformationSM) (header : PTPMsgHeader)
    (allocated announce : PTPMsgAnnounce) (payload : List UInt8)
    (hreceived : recvAnnounce header allocated payload = .ok announce)
    (hannounce : sm.rcvdAnnouncePtr = .live announce)
    (hinitial : sm.perPortGlobal.initialLogAnnounceInterval = 0)
    (hannounceCount : sm.perPortGlobal.announceReceiptTimeout = count)
    (hannounceLog : announce.head.logMessageInterval = logInterval) :
    (SyncTimesOut i ts count logInterval l <-> Timeable count logInterval ts) ∧
      (AnnounceTimesOut ts count logInterval sm <->
        Timeable count logInterval ts) := by
  have htimeable := receiptTimeout_iff hcount hlog.right ts
  constructor
  · exact (syncTimesOut_iff hsync hsyncCount hsyncLog).trans htimeable
  · exact (announceTimesOut_iff hannounce
      (lengthField_of_recvAnnounce hreceived) hinitial hannounceCount
      hannounceLog).trans htimeable

/-- The loop once its first port has received a structure. -/
def loopWith (logInterval : Int8) : SyncLoop :=
  PortSyncSyncReceiveSM.assign 0
    { (default : PortSyncSyncReceiveSM) with
      rcvdMDSyncPtrPSSR :=
        .live
          { (default : MDSyncReceive) with logMessageInterval := logInterval } }
    (start bridgeConfig default)

/-- The message that is read from an empty frame. -/
def emptyAnnounce : PTPMsgAnnounce :=
  match recvAnnounce default default [] with
  | .ok announce => announce
  | .error _ => default

def informationWith (announce : PTPMsgAnnounce) : PortAnnounceInformationSM :=
  { (default : PortAnnounceInformationSM) with
    perPortGlobal :=
      { (default : PerPortGlobal) with announceReceiptTimeout := 3 }
    rcvdAnnouncePtr := .live announce }

theorem timesOut_iff_oneSecond :
    (SyncTimesOut 0 default 3 0 (loopWith 0) <-> Timeable 3 0 default) ∧
      (AnnounceTimesOut default 3 0 (informationWith emptyAnnounce) <->
        Timeable 3 0 default) :=
  timesOut_iff 3 0 default (by decide) (by decide) 0 (loopWith 0) _ rfl
    (by decide +kernel) rfl _ default default _ [] rfl rfl rfl rfl
    (by decide +kernel)

/-- A peer that sends eight messages each second is not timed at all. -/
theorem frequentSync_not_timed :
    ¬ forall (count : UInt16) (logInterval : Int8) (ts : UScaledNs)
        (i : PortIndex) (l : SyncLoop) (mdSync : MDSyncReceive),
      1 ≤ count.toNat ∧ count.toNat ≤ 255 ->
      -24 ≤ logInterval ∧ logInterval ≤ 24 ->
      (l.portSyncSyncReceiveSms i).rcvdMDSyncPtrPSSR = .live mdSync ->
      (l.perPortGlobal i).syncReceiptTimeout = count ->
      mdSync.logMessageInterval = logInterval ->
      SyncTimesOut i ts count logInterval l := by
  intro h
  have hcount : ((loopWith (-3)).perPortGlobal 0).syncReceiptTimeout = 3 := by
    decide +kernel
  have htimed := h 3 (-3) default 0 (loopWith (-3)) _ (by decide) (by decide)
    rfl hcount rfl
  have htimeable := (receiptTimeout_iff (by decide) (by decide) default).mp
    ((syncTimesOut_iff rfl hcount rfl).mp htimed)
  exact absurd htimeable.left (by decide)

end TimeSync
end Ziggo
