import Ziggo.TimeSync.MDSyncSendSM.Invariant

/-!
# Egress timestamps

The egress timestamp of a `Sync` leads to its `Follow_Up`.  This module
determines for which sequence numbers it does, and from which structures the
follow-up is built.
-/

namespace Ziggo
namespace TimeSync

open Foundation TsnDrivers

namespace MDSyncSendSM

/-- The test on a timestamp fails for the last sequence number. -/
theorem timestampMatches_iff {sm : MDSyncSendSM} {sync : PTPMsgSync}
    (hsent : sm.SyncSent sync) (tsuTimestamp : TSUTimestamp) :
    sm.timestampMatches tsuTimestamp = true <->
      tsuTimestamp.sequenceID = sync.head.sequenceId ∧
        sync.head.sequenceId ≠ 65535 := by
  have hnext : sm.mdEntityGlobal.syncSequenceId.toNat =
      (sync.head.sequenceId.toNat + 1) % 65536 := by
    rw [hsent.right.right, UInt16.toNat_add]
    rfl
  have hbound : sync.head.sequenceId.toNat < 65536 :=
    UInt16.toNat_lt sync.head.sequenceId
  have hlast : sync.head.sequenceId = 65535 <->
      sync.head.sequenceId.toNat = 65535 := by
    rw [← UInt16.toNat_inj]
    rfl
  rw [timestampMatches, decide_eq_true_eq, hnext, ne_eq, hlast,
    ← UInt16.toNat_inj]
  constructor
  · intro h
    constructor <;> omega
  · rintro ⟨heq, hne⟩
    rw [heq, Nat.mod_eq_of_lt (by omega)]
    omega

end MDSyncSendSM

namespace MDSyncSendMachine

open MDSyncSendSM

/-- The machines that a sequence of calls leads to. -/
def Reachable (m : MDSyncSendMachine) : Prop :=
  exists (memory : MDSyncSendSM) (history : List Event),
    memory.Configured ∧ memory.process.stop = none ∧
      m = runEvents step (initMdSyncSendSm memory) history

theorem Reachable.atRest {m : MDSyncSendMachine} (h : Reachable m) :
    AtRest m := by
  rcases h with ⟨memory, history, hconfigured, hrunning, rfl⟩
  exact atRest_runEvents hconfigured hrunning history

section FollowUp

variable {m : MDSyncSendMachine} {tsuTimestamp : TSUTimestamp}

/-- An accepted timestamp leads to the follow-up state first. -/
theorem entered_txts (h : AtRest m) (hstate : m.state = .sendSync)
    (hmatch : m.vars.timestampMatches tsuTimestamp = true) :
    (entered m (.txts tsuTimestamp)).head? =
      some (.sendFollowUp, m.vars.withTimestamp tsuTimestamp) := by
  have hduring := h.during
  rw [hstate] at hduring
  have hready : ready { m with vars := m.vars.withTimestamp tsuTimestamp } =
      { m with vars := m.vars.withTimestamp tsuTimestamp } :=
    @ready_capable { m with vars := m.vars.withTimestamp tsuTimestamp }
      h.configured hduring.left.left
  have hquiescent :
      Machine.Quiescent { m with vars := m.vars.withTimestamp tsuTimestamp } :=
    h.quiescent
  have henter : behaviour.program.enter
      { m with vars := m.vars.withTimestamp tsuTimestamp } =
        m.vars.withTimestamp tsuTimestamp :=
    Program.enter_quiescent _ hquiescent
  have hpass : behaviour.program.pass
      { m with vars := m.vars.withTimestamp tsuTimestamp } =
        { state := .sendFollowUp, lastState := some m.state,
          vars := m.vars.withTimestamp tsuTimestamp } := by
    rw [Program.pass_goto _ (by rw [henter]; exact h.running)
      (Behaviour.transition_goto.mpr (by rw [henter, hstate]; rfl)), henter]
    rfl
  unfold entered
  rw [if_neg (by rw [h.running]; simp)]
  dsimp only
  rw [if_neg (by simp [hstate]), if_neg (by simp [hmatch]),
    storeTimestamp_owned h.owned]
  change (behaviour.program.entries 16 _).head? = _
  rw [hready, Program.entries, if_pos hquiescent, hpass, List.nil_append,
    if_neg (by simp [Machine.Quiescent, hstate]), Program.entries,
    if_neg (by simp [Machine.Quiescent, hstate])]
  rfl

/--
The call goes on to the follow-up state and sends one `Follow_Up`, with the
sequence number `s`, before anything else that it sends.
-/
structure FollowedUp (m : MDSyncSendMachine) (e : Event) (s : UInt16) :
    Prop where
  entered : (entered m e).head?.map Prod.fst = some .sendFollowUp
  sent : exists (followUp : PTPMsgFollowUp) (later : List Frame),
    (step m e).vars.process.sent =
        m.vars.process.sent ++
          { port := m.vars.perPortGlobal.thisPort
            message := .followUp followUp } :: later ∧
      followUp.head.sequenceId = s ∧
      forall frame, frame ∈ later ->
        forall other, frame.message ≠ .followUp other

/-- What the call sends when it accepts the timestamp. -/
theorem followedUp_of_match (h : AtRest m) (hstate : m.state = .sendSync)
    (hmatch : m.vars.timestampMatches tsuTimestamp = true) {sync : PTPMsgSync}
    (hsync : m.vars.SyncSent sync) :
    FollowedUp m (.txts tsuTimestamp) sync.head.sequenceId := by
  have hduring := h.during
  rw [hstate] at hduring
  rcases hduring.right.left with ⟨mdSync, hmdSync⟩
  refine ⟨by rw [entered_txts h hstate hmatch]; rfl, ?_⟩
  refine ⟨followUpOf mdSync tsuTimestamp.ts sync.head.sequenceId, ?_⟩
  cases hflag : m.vars.rcvdMDSyncMDSS with
  | false =>
      rw [step_txts_followedUp h hstate hmatch hmdSync hsync.left hflag]
      refine ⟨[], rfl, rfl, fun frame hmem => ?_⟩
      cases hmem
  | true =>
      rw [step_txts_pending h hstate hmatch hmdSync hsync.left hflag]
      refine ⟨[_], List.append_assoc _ _ _, rfl, fun frame hmem other => ?_⟩
      rw [List.mem_singleton.mp hmem]
      simp

/--
The timestamp of the last `Sync` leads to its `Follow_Up` exactly if the
sequence number of the `Sync` is not the largest one.
-/
theorem sync_followed_up_iff (hreachable : Reachable m)
    (hstate : m.state = .sendSync) {port : Port} {sync : PTPMsgSync}
    (hsent : m.vars.process.sent.getLast? =
      some { port := port, message := .sync sync })
    (hsequenceId : tsuTimestamp.sequenceID = sync.head.sequenceId) :
    FollowedUp m (.txts tsuTimestamp) sync.head.sequenceId <->
      sync.head.sequenceId ≠ 65535 := by
  have h := hreachable.atRest
  have hduring := h.during
  rw [hstate] at hduring
  rcases hduring with ⟨_, _, last, hlast⟩
  have hsame : last = sync := by
    have hframe := hlast.right.left
    rw [hsent] at hframe
    cases hframe
    rfl
  subst hsame
  have hiff := timestampMatches_iff hlast tsuTimestamp
  cases hmatch : m.vars.timestampMatches tsuTimestamp with
  | true =>
      exact ⟨fun _ => (hiff.mp hmatch).right,
        fun _ => followedUp_of_match h hstate hmatch hlast⟩
  | false =>
      refine ⟨fun hfollowedUp => ?_, fun hne => ?_⟩
      · rcases hfollowedUp.sent with ⟨followUp, later, hframes, _⟩
        rw [step_txts_mismatch h hmatch] at hframes
        exact absurd hframes (by simp)
      · rw [hiff.mpr ⟨hsequenceId, hne⟩] at hmatch
        cases hmatch

end FollowUp

/-!
The instance below has the last sequence number in the 16 bits that `rand`
returns, or the one before it.
-/

def memoryWith (rand : UInt16) : MDSyncSendSM :=
  { (default : MDSyncSendSM) with
    perPTPInstanceGlobal :=
      { (default : PerPTPInstanceGlobal) with instanceEnable := true }
    perPortGlobal :=
      { (default : PerPortGlobal) with
        portOper := true
        ptpPortEnabled := true
        asCapable := true
        thisPort := 1 }
    process := { (default : Process) with rand := fun _ => rand } }

def mdSyncAt (seconds : UInt32) : MDSyncSend :=
  { (default : MDSyncSend) with
    preciseOriginTimestamp :=
      { secondsMsb := 0, secondsLsb := seconds, nanoseconds := 0 } }

def egressOf (n : UInt16) : TSUTimestamp where
  ts := default
  sequenceID := n
  msgType := PTPMsgType.sync.code

/-- The machine that has sent a `Sync` with sequence number `n`. -/
def waitingMachine (n : UInt16) : MDSyncSendMachine :=
  runEvents step (initMdSyncSendSm (memoryWith n)) [.recvMDSync (mdSyncAt 1)]

def firstSync (n : UInt16) : PTPMsgSync where
  head := ptpMsgHeaderTemplate .sync sizeofPTPFrameSync default n 0 0

theorem penultimate_sync_followed_up :
    FollowedUp (waitingMachine 65534) (.txts (egressOf 65534)) 65534 := by
  have hsent : (waitingMachine 65534).vars.process.sent.getLast? =
      some { port := 1, message := .sync (firstSync 65534) } := by
    decide
  exact (sync_followed_up_iff
    ⟨memoryWith 65534, [.recvMDSync (mdSyncAt 1)], ⟨rfl, rfl⟩, rfl, rfl⟩
    (by decide) hsent rfl).mpr (by decide)

theorem last_sync_not_followed_up :
    ¬ forall (m : MDSyncSendMachine) (port : Port) (sync : PTPMsgSync)
        (tsuTimestamp : TSUTimestamp),
      Reachable m -> m.state = .sendSync ->
      m.vars.process.sent.getLast? =
        some { port := port, message := .sync sync } ->
      tsuTimestamp.sequenceID = sync.head.sequenceId ->
      FollowedUp m (.txts tsuTimestamp) sync.head.sequenceId := by
  intro h
  have hfollowedUp := h (waitingMachine 65535) 1 (firstSync 65535)
    (egressOf 65535)
    ⟨memoryWith 65535, [.recvMDSync (mdSyncAt 1)], ⟨rfl, rfl⟩, rfl, rfl⟩
    (by decide) (by decide) rfl
  have hentered := hfollowedUp.entered
  revert hentered
  decide

end MDSyncSendMachine

end TimeSync
end Ziggo
