import Ziggo.TimeSync.MDSyncSendSM

/-!
# The calls of the synchronization sender

What each call does to a machine at rest.  No call ever ends the process, so
the description covers every run.
-/

namespace Ziggo
namespace TimeSync

open Foundation TsnDrivers

namespace MDSyncSendSM

open MDSyncSendSMState

/-- The instance is in operation, as `TimeSyncMainLoop` configures it. -/
def Configured (sm : MDSyncSendSM) : Prop :=
  sm.perPTPInstanceGlobal.BEGIN = false ∧
    sm.perPTPInstanceGlobal.instanceEnable = true

/-- The port may send a `Sync`. -/
def Capable (sm : MDSyncSendSM) : Prop :=
  sm.portReady = true ∧ sm.perPortGlobal.asymmetryMeasurementMode = false

theorem allStateTransition_capable {sm : MDSyncSendSM} (h : sm.Configured)
    (hready : sm.portReady = true) (state : MDSyncSendSMState) :
    sm.allStateTransition state = state := by
  simp [allStateTransition, h.left, h.right, hready]

theorem allStateTransition_initializing {sm : MDSyncSendSM} :
    sm.allStateTransition initializing = initializing := by
  simp [allStateTransition]

theorem syncRequested_eq {sm : MDSyncSendSM} (h : sm.Capable) :
    sm.syncRequested = sm.rcvdMDSyncMDSS := by
  simp [syncRequested, h.left, h.right]

theorem capable_of_syncRequested {sm : MDSyncSendSM}
    (h : sm.syncRequested = true) : sm.Capable := by
  simp only [syncRequested, decide_eq_true_eq] at h
  exact ⟨h.right.left, h.right.right⟩

/-- No pointer of the machine designates an object that has been released. -/
structure Owned (sm : MDSyncSendSM) : Prop where
  mdSync : sm.rcvdMDSyncPtr ≠ .released
  sync : sm.txSyncPtr ≠ .released
  timestamp : sm.rcvdMDTimestampReceivePtr ≠ .released
  followUp : sm.txFollowUpPtr ≠ .released

theorem free_owned {Object : Type} {p : Ptr Object} (h : p ≠ .released) :
    exists p', p.free = .ok p' := by
  cases p with
  | null => exact ⟨_, rfl⟩
  | live object => exact ⟨_, rfl⟩
  | released => exact absurd rfl h

/-!
## Actions and inputs without faults
-/

def synced (sm : MDSyncSendSM) (mdSync : MDSyncSend) : MDSyncSendSM :=
  { sm with
    rcvdMDSyncMDSS := false
    txSyncPtr := .live (sm.setSyncTwoStep mdSync)
    mdEntityGlobal :=
      { sm.mdEntityGlobal with
        syncSequenceId := sm.mdEntityGlobal.syncSequenceId + 1 }
    process := sm.process.sendPtpFrame sm.perPortGlobal.thisPort
      (.sync (sm.setSyncTwoStep mdSync)) }

/-- The variables after the `Follow_Up` to `sync`, built from `mdSync`. -/
def followedUp (sm : MDSyncSendSM) (mdSync : MDSyncSend) (sync : PTPMsgSync) :
    MDSyncSendSM :=
  let followUp :=
    followUpOf mdSync sm.syncEventEgressTimestamp sync.head.sequenceId
  { sm with
    rcvdMDTimestampReceiveMDSS := false
    txFollowUpPtr := .live followUp
    process := sm.process.sendPtpFrame sm.perPortGlobal.thisPort
      (.followUp followUp) }

def withMDSync (sm : MDSyncSendSM) (mdSync : MDSyncSend) : MDSyncSendSM :=
  { sm with
    rcvdMDSyncMDSS := true
    rcvdMDSyncPtr := .live mdSync }

def withTimestamp (sm : MDSyncSendSM) (tsuTimestamp : TSUTimestamp) :
    MDSyncSendSM :=
  { sm with
    rcvdMDTimestampReceiveMDSS := true
    rcvdMDTimestampReceivePtr := .live tsuTimestamp
    syncEventEgressTimestamp := tsuTimestamp.ts }

section Actions

variable {sm : MDSyncSendSM} {mdSync : MDSyncSend} {sync : PTPMsgSync}

theorem sendSyncAction_owned (howned : sm.Owned)
    (hmdSync : sm.rcvdMDSyncPtr = .live mdSync) :
    sm.sendSyncAction = .ok (sm.synced mdSync) := by
  have hderef : sm.rcvdMDSyncPtr.deref = .ok mdSync :=
    Ptr.deref_eq_ok.mpr hmdSync
  rcases free_owned howned.sync with ⟨freed, hfree⟩
  unfold sendSyncAction
  dsimp only
  rw [hfree]
  simp only [bind, Except.bind]
  rw [hderef]
  rfl

theorem sendFollowUpAction_owned (howned : sm.Owned)
    (hmdSync : sm.rcvdMDSyncPtr = .live mdSync)
    (hsync : sm.txSyncPtr = .live sync) :
    sm.sendFollowUpAction = .ok (sm.followedUp mdSync sync) := by
  have hderef : sm.rcvdMDSyncPtr.deref = .ok mdSync :=
    Ptr.deref_eq_ok.mpr hmdSync
  have hderef' : sm.txSyncPtr.deref = .ok sync := Ptr.deref_eq_ok.mpr hsync
  rcases free_owned howned.followUp with ⟨freed, hfree⟩
  unfold sendFollowUpAction setFollowUp
  dsimp only
  rw [hfree]
  simp only [bind, Except.bind]
  rw [hderef, hderef']
  rfl

theorem storeMDSync_owned (howned : sm.Owned) :
    sm.storeMDSync mdSync = .ok (sm.withMDSync mdSync) := by
  rcases free_owned howned.mdSync with ⟨freed, hfree⟩
  unfold storeMDSync
  rw [hfree]
  rfl

theorem storeTimestamp_owned (howned : sm.Owned)
    {tsuTimestamp : TSUTimestamp} :
    sm.storeTimestamp tsuTimestamp = .ok (sm.withTimestamp tsuTimestamp) := by
  rcases free_owned howned.timestamp with ⟨freed, hfree⟩
  unfold storeTimestamp
  rw [hfree]
  rfl

theorem Owned.synced (howned : sm.Owned) : (sm.synced mdSync).Owned :=
  ⟨howned.mdSync, Ptr.live_ne_released _, howned.timestamp, howned.followUp⟩

theorem Owned.followedUp (howned : sm.Owned) :
    (sm.followedUp mdSync sync).Owned :=
  ⟨howned.mdSync, howned.sync, howned.timestamp, Ptr.live_ne_released _⟩

theorem Owned.withMDSync (howned : sm.Owned) : (sm.withMDSync mdSync).Owned :=
  ⟨Ptr.live_ne_released _, howned.sync, howned.timestamp, howned.followUp⟩

theorem Owned.withTimestamp (howned : sm.Owned) {tsuTimestamp : TSUTimestamp} :
    (sm.withTimestamp tsuTimestamp).Owned :=
  ⟨howned.mdSync, howned.sync, Ptr.live_ne_released _, howned.followUp⟩

end Actions

/-!
## States of a machine at rest
-/

/-- The timestamp of the last `Sync` has not come, or has been used. -/
def NoTimestamp (sm : MDSyncSendSM) : Prop :=
  sm.rcvdMDTimestampReceiveMDSS = false

def SyncSent (sm : MDSyncSendSM) (sync : PTPMsgSync) : Prop :=
  sm.txSyncPtr = .live sync ∧
    sm.process.sent.getLast? =
        some
          { port := sm.perPortGlobal.thisPort
            message := .sync sync } ∧
      sm.mdEntityGlobal.syncSequenceId = sync.head.sequenceId + 1

/-- What holds while the machine rests in a state. -/
def During (state : MDSyncSendSMState) (sm : MDSyncSendSM) : Prop :=
  match state with
  | init => False
  | initializing => sm.rcvdMDSyncMDSS = true -> ¬ sm.Capable
  | sendSync =>
      sm.Capable ∧ sm.rcvdMDSyncPtr.IsLive ∧ exists sync, sm.SyncSent sync
  | sendFollowUp => sm.Capable ∧ sm.rcvdMDSyncMDSS = false

end MDSyncSendSM

namespace MDSyncSendMachine

open MDSyncSendSM

structure AtRest (m : MDSyncSendMachine) : Prop where
  running : m.vars.process.stop = none
  quiescent : m.Quiescent
  configured : m.vars.Configured
  owned : m.vars.Owned
  noTimestamp : m.vars.NoTimestamp
  during : During m.state m.vars

/-- A port that may not send any `Sync` has never left the first state. -/
theorem AtRest.initializing_of_incapable {m : MDSyncSendMachine}
    (h : AtRest m) (hcapable : ¬ m.vars.Capable) :
    m.state = .initializing := by
  have hduring := h.during
  cases hstate : m.state with
  | init =>
      rw [hstate] at hduring
      exact hduring.elim
  | initializing => rfl
  | sendSync | sendFollowUp =>
      rw [hstate] at hduring
      exact absurd hduring.left hcapable

theorem ready_capable {m : MDSyncSendMachine} (hconfigured : m.vars.Configured)
    (hready : m.vars.portReady = true) : m.ready = m := by
  unfold ready
  rw [allStateTransition_capable hconfigured hready]

theorem ready_initializing {m : MDSyncSendMachine}
    (hstate : m.state = .initializing) : m.ready = m := by
  unfold ready
  rw [hstate, allStateTransition_initializing, ← hstate]

section Calls

variable {m : MDSyncSendMachine} {mdSync : MDSyncSend} {sync : PTPMsgSync}
  {tsuTimestamp : TSUTimestamp}

theorem step_recvMDSync (h : AtRest m) :
    step m (.recvMDSync mdSync) =
      run { m with vars := m.vars.withMDSync mdSync } := by
  unfold step
  rw [if_neg (by rw [h.running]; simp)]
  change m.recvMDSync mdSync = _
  unfold recvMDSync runStored
  rw [storeMDSync_owned h.owned]

theorem step_txts_unexpected (h : AtRest m) (hstate : m.state ≠ .sendSync) :
    step m (.txts tsuTimestamp) = m := by
  unfold step
  rw [if_neg (by rw [h.running]; simp)]
  change m.txts tsuTimestamp = _
  unfold txts
  rw [if_pos hstate]

theorem step_txts_mismatch (h : AtRest m)
    (hmatch : m.vars.timestampMatches tsuTimestamp = false) :
    step m (.txts tsuTimestamp) = m := by
  unfold step
  rw [if_neg (by rw [h.running]; simp)]
  change m.txts tsuTimestamp = _
  unfold txts
  rw [if_pos hmatch]
  split <;> rfl

theorem step_txts_match (h : AtRest m) (hstate : m.state = .sendSync)
    (hmatch : m.vars.timestampMatches tsuTimestamp = true) :
    step m (.txts tsuTimestamp) =
      run { m with vars := m.vars.withTimestamp tsuTimestamp } := by
  unfold step
  rw [if_neg (by rw [h.running]; simp)]
  change m.txts tsuTimestamp = _
  unfold txts runStored
  rw [if_neg (by simp [hstate]), if_neg (by simp [hmatch]),
    storeTimestamp_owned h.owned]

/-- A structure that comes while the machine waits is stored, and no more. -/
theorem step_recvMDSync_waiting (h : AtRest m) (hstate : m.state = .sendSync) :
    step m (.recvMDSync mdSync) =
      { m with vars := m.vars.withMDSync mdSync } := by
  have hduring := h.during
  rw [hstate] at hduring
  have hready : (m.vars.withMDSync mdSync).portReady = true :=
    hduring.left.left
  have hconfigured : (m.vars.withMDSync mdSync).Configured := h.configured
  have hnone : m.vars.rcvdMDTimestampReceiveMDSS = false := h.noTimestamp
  have hnext : transition m.state (m.vars.withMDSync mdSync) =
      .ok m.state := by
    rw [hstate]
    change Except.ok
      (if m.vars.rcvdMDTimestampReceiveMDSS = true then _ else _) = _
    rw [hnone]
    rfl
  rw [step_recvMDSync h]
  unfold run
  rw [@ready_capable { m with vars := m.vars.withMDSync mdSync } hconfigured
    hready]
  exact Behaviour.run_rest 15 h.quiescent h.running hnext

theorem step_recvMDSync_unable (h : AtRest m) (hstate : m.state = .initializing)
    (hcapable : ¬ m.vars.Capable) :
    step m (.recvMDSync mdSync) =
      { m with vars := m.vars.withMDSync mdSync } := by
  have hnot : (m.vars.withMDSync mdSync).syncRequested = false := by
    by_contra hrequested
    exact hcapable
      (@capable_of_syncRequested (m.vars.withMDSync mdSync)
        (by simpa using hrequested))
  have hnext : transition m.state (m.vars.withMDSync mdSync) =
      .ok m.state := by
    rw [hstate]
    change Except.ok
      (if (m.vars.withMDSync mdSync).syncRequested = true then _ else _) = _
    rw [hnot]
    rfl
  rw [step_recvMDSync h]
  unfold run
  rw [@ready_initializing { m with vars := m.vars.withMDSync mdSync } hstate]
  exact Behaviour.run_rest 15 h.quiescent h.running hnext

theorem step_recvMDSync_sent (h : AtRest m) (hstate : m.state ≠ .sendSync)
    (hcapable : m.vars.Capable) :
    step m (.recvMDSync mdSync) =
      { state := .sendSync, lastState := some .sendSync,
        vars := (m.vars.withMDSync mdSync).synced mdSync } := by
  have hcapable' : (m.vars.withMDSync mdSync).Capable := hcapable
  have hconfigured : (m.vars.withMDSync mdSync).Configured := h.configured
  have hrequested : (m.vars.withMDSync mdSync).syncRequested = true :=
    (syncRequested_eq hcapable').trans rfl
  have hnext : transition m.state (m.vars.withMDSync mdSync) =
      .ok .sendSync := by
    have hduring := h.during
    cases hs : m.state with
    | init =>
        rw [hs] at hduring
        exact hduring.elim
    | sendSync => exact absurd hs hstate
    | initializing | sendFollowUp =>
        change Except.ok
          (if (m.vars.withMDSync mdSync).syncRequested = true then _
            else _) = _
        rw [hrequested]
        rfl
  have hnone : m.vars.rcvdMDTimestampReceiveMDSS = false := h.noTimestamp
  have hrest : transition .sendSync
      ((m.vars.withMDSync mdSync).synced mdSync) = .ok .sendSync := by
    change Except.ok
      (if m.vars.rcvdMDTimestampReceiveMDSS = true then _ else _) = _
    rw [hnone]
    rfl
  have hleave := @Behaviour.run_leave _ _ _ behaviour
    { m with vars := m.vars.withMDSync mdSync } 15 .sendSync h.quiescent
    h.running hnext hstate
  rw [step_recvMDSync h]
  unfold run passes
  rw [@ready_capable { m with vars := m.vars.withMDSync mdSync } hconfigured
    hcapable'.left, hleave]
  refine Behaviour.run_enter_rest 14 ?_
    (sendSyncAction_owned h.owned.withMDSync rfl) h.running hrest
  simpa [Machine.Quiescent] using hstate

theorem step_txts_leave (h : AtRest m) (hstate : m.state = .sendSync)
    (hmatch : m.vars.timestampMatches tsuTimestamp = true) :
    step m (.txts tsuTimestamp) =
      behaviour.program.run 15
        { state := .sendFollowUp, lastState := some .sendSync,
          vars := m.vars.withTimestamp tsuTimestamp } := by
  have hduring := h.during
  rw [hstate] at hduring
  have hready : (m.vars.withTimestamp tsuTimestamp).portReady = true :=
    hduring.left.left
  have hconfigured : (m.vars.withTimestamp tsuTimestamp).Configured :=
    h.configured
  have hnext : transition m.state (m.vars.withTimestamp tsuTimestamp) =
      .ok .sendFollowUp := by
    rw [hstate]
    rfl
  have hleave := @Behaviour.run_leave _ _ _ behaviour
    { m with vars := m.vars.withTimestamp tsuTimestamp } 15 .sendFollowUp
    h.quiescent h.running hnext (by simp [hstate])
  rw [step_txts_match h hstate hmatch]
  unfold run passes
  rw [@ready_capable { m with vars := m.vars.withTimestamp tsuTimestamp }
    hconfigured hready, hleave, hstate]

theorem step_txts_followedUp (h : AtRest m) (hstate : m.state = .sendSync)
    (hmatch : m.vars.timestampMatches tsuTimestamp = true)
    (hmdSync : m.vars.rcvdMDSyncPtr = .live mdSync)
    (hsync : m.vars.txSyncPtr = .live sync)
    (hflag : m.vars.rcvdMDSyncMDSS = false) :
    step m (.txts tsuTimestamp) =
      { state := .sendFollowUp, lastState := some .sendFollowUp,
        vars :=
          (m.vars.withTimestamp tsuTimestamp).followedUp mdSync sync } := by
  have hduring := h.during
  rw [hstate] at hduring
  have hcapable :
      ((m.vars.withTimestamp tsuTimestamp).followedUp mdSync sync).Capable :=
    hduring.left
  have hrest : transition .sendFollowUp
      ((m.vars.withTimestamp tsuTimestamp).followedUp mdSync sync) =
        .ok .sendFollowUp := by
    change Except.ok (if syncRequested _ = true then _ else _) = _
    rw [syncRequested_eq hcapable]
    change Except.ok (if m.vars.rcvdMDSyncMDSS = true then _ else _) = _
    rw [hflag]
    rfl
  rw [step_txts_leave h hstate hmatch]
  exact Behaviour.run_enter_rest 14 (by simp [Machine.Quiescent])
    (sendFollowUpAction_owned h.owned.withTimestamp hmdSync hsync) h.running
    hrest

/-- A structure that has come in the meantime is sent a `Sync` for at once. -/
theorem step_txts_pending (h : AtRest m) (hstate : m.state = .sendSync)
    (hmatch : m.vars.timestampMatches tsuTimestamp = true)
    (hmdSync : m.vars.rcvdMDSyncPtr = .live mdSync)
    (hsync : m.vars.txSyncPtr = .live sync)
    (hflag : m.vars.rcvdMDSyncMDSS = true) :
    step m (.txts tsuTimestamp) =
      { state := .sendSync, lastState := some .sendSync,
        vars :=
          ((m.vars.withTimestamp tsuTimestamp).followedUp mdSync sync).synced
            mdSync } := by
  have hduring := h.during
  rw [hstate] at hduring
  have hcapable :
      ((m.vars.withTimestamp tsuTimestamp).followedUp mdSync sync).Capable :=
    hduring.left
  have hnext : transition .sendFollowUp
      ((m.vars.withTimestamp tsuTimestamp).followedUp mdSync sync) =
        .ok .sendSync := by
    change Except.ok (if syncRequested _ = true then _ else _) = _
    rw [syncRequested_eq hcapable]
    change Except.ok (if m.vars.rcvdMDSyncMDSS = true then _ else _) = _
    rw [hflag]
    rfl
  have hleave := @Behaviour.run_enter_leave _ _ _ behaviour
    { state := .sendFollowUp, lastState := some .sendSync,
      vars := m.vars.withTimestamp tsuTimestamp } 14
    ((m.vars.withTimestamp tsuTimestamp).followedUp mdSync sync) .sendSync
    (by simp [Machine.Quiescent])
    (sendFollowUpAction_owned h.owned.withTimestamp hmdSync hsync) h.running
    hnext (by simp)
  rw [step_txts_leave h hstate hmatch, hleave]
  exact Behaviour.run_enter_rest 13 (by simp [Machine.Quiescent])
    (sendSyncAction_owned h.owned.withTimestamp.followedUp hmdSync) h.running
    rfl

theorem syncSent_synced (sm : MDSyncSendSM) (mdSync : MDSyncSend) :
    (sm.synced mdSync).SyncSent (sm.setSyncTwoStep mdSync) :=
  ⟨rfl, List.getLast?_concat, rfl⟩

theorem atRest_recvMDSync (h : AtRest m) (mdSync : MDSyncSend) :
    AtRest (step m (.recvMDSync mdSync)) := by
  have hduring := h.during
  by_cases hstate : m.state = .sendSync
  · rw [hstate] at hduring
    rcases hduring with ⟨hcapable, _, sync, hsent⟩
    rw [step_recvMDSync_waiting h hstate]
    refine ⟨h.running, h.quiescent, h.configured, h.owned.withMDSync,
      h.noTimestamp, ?_⟩
    change During m.state (m.vars.withMDSync mdSync)
    rw [hstate]
    exact ⟨hcapable, Ptr.isLive_live mdSync, sync, hsent⟩
  · by_cases hcapable : m.vars.Capable
    · rw [step_recvMDSync_sent h hstate hcapable]
      exact ⟨h.running, rfl, h.configured, h.owned.withMDSync.synced,
        h.noTimestamp, hcapable, Ptr.isLive_live mdSync, _,
        syncSent_synced _ mdSync⟩
    · have hinitializing := h.initializing_of_incapable hcapable
      rw [step_recvMDSync_unable h hinitializing hcapable]
      refine ⟨h.running, h.quiescent, h.configured, h.owned.withMDSync,
        h.noTimestamp, ?_⟩
      change During m.state (m.vars.withMDSync mdSync)
      rw [hinitializing]
      exact fun _ => hcapable

theorem atRest_txts (h : AtRest m) (tsuTimestamp : TSUTimestamp) :
    AtRest (step m (.txts tsuTimestamp)) := by
  by_cases hstate : m.state = .sendSync
  · cases hmatch : m.vars.timestampMatches tsuTimestamp with
    | false =>
        rw [step_txts_mismatch h hmatch]
        exact h
    | true =>
        have hduring := h.during
        rw [hstate] at hduring
        rcases hduring with ⟨hcapable, ⟨mdSync, hmdSync⟩, sync, hsent⟩
        cases hflag : m.vars.rcvdMDSyncMDSS with
        | false =>
            rw [step_txts_followedUp h hstate hmatch hmdSync hsent.left hflag]
            exact ⟨h.running, rfl, h.configured,
              h.owned.withTimestamp.followedUp, rfl, hcapable, hflag⟩
        | true =>
            rw [step_txts_pending h hstate hmatch hmdSync hsent.left hflag]
            exact ⟨h.running, rfl, h.configured,
              h.owned.withTimestamp.followedUp.synced, rfl, hcapable,
              ⟨mdSync, hmdSync⟩, _, syncSent_synced _ mdSync⟩
  · rw [step_txts_unexpected h hstate]
    exact h

theorem atRest_step (h : AtRest m) (e : Event) : AtRest (step m e) := by
  cases e with
  | recvMDSync mdSync => exact atRest_recvMDSync h mdSync
  | txts tsuTimestamp => exact atRest_txts h tsuTimestamp

end Calls

/-!
## Runs
-/

section Runs

variable {memory : MDSyncSendSM}

theorem initMdSyncSendSm_eq (hrunning : memory.process.stop = none) :
    initMdSyncSendSm memory =
      { state := .initializing
        lastState := some .initializing
        vars := initializingAction
          { memory with
            rcvdMDSyncPtr := .null
            rcvdMDTimestampReceivePtr := .null
            txSyncPtr := .null
            txFollowUpPtr := .null } } := by
  have hrest : forall sm : MDSyncSendSM,
      transition .initializing sm.initializingAction = .ok .initializing := by
    intro sm
    change Except.ok (if syncRequested _ = true then _ else _) = _
    rw [if_neg]
    · simp [syncRequested, initializingAction]
  unfold initMdSyncSendSm run ready
  rcases hstate : allStateTransition _ _ with _ | _ | _ | _
  · refine (Behaviour.run_enter_leave 15 (by simp [Machine.Quiescent]) rfl
      hrunning rfl (by simp)).trans ?_
    exact Behaviour.run_enter_rest 14 (by simp [Machine.Quiescent]) rfl hrunning
      (hrest _)
  · exact Behaviour.run_enter_rest 15 (by simp [Machine.Quiescent]) rfl hrunning
      (hrest _)
  all_goals
    unfold allStateTransition at hstate
    split at hstate <;> cases hstate

theorem atRest_init (hconfigured : memory.Configured)
    (hrunning : memory.process.stop = none) :
    AtRest (initMdSyncSendSm memory) := by
  rw [initMdSyncSendSm_eq hrunning]
  refine ⟨hrunning, rfl, hconfigured, ⟨?_, ?_, ?_, ?_⟩, rfl, fun hflag => ?_⟩
  · exact Ptr.null_ne_released
  · exact Ptr.null_ne_released
  · exact Ptr.null_ne_released
  · exact Ptr.null_ne_released
  · cases hflag

theorem atRest_runEvents (hconfigured : memory.Configured)
    (hrunning : memory.process.stop = none) (history : List Event) :
    AtRest (runEvents step (initMdSyncSendSm memory) history) :=
  run_invariant_always (atRest_init hconfigured hrunning)
    (fun _ e h => atRest_step h e) history

end Runs

end MDSyncSendMachine

end TimeSync
end Ziggo
