import Ziggo.TimeSync.MDSyncSendSM.Egress

/-!
# Structures and their messages

A `Sync` and its `Follow_Up` belong to one structure from above.  The machine
keeps one structure only, and a new one may come between the two messages.
-/

namespace Ziggo
namespace TimeSync

open Foundation TsnDrivers

namespace MDSyncSendMachine

open MDSyncSendSM

/--
A timestamp that the machine accepts finds the structure that its `Sync` was
sent for: no other one has come since.
-/
def InOrder (m : MDSyncSendMachine) (e : Event) : Prop :=
  match e with
  | .recvMDSync _ => True
  | .txts tsuTimestamp =>
      m.state = .sendSync ->
      m.vars.timestampMatches tsuTimestamp = true ->
      m.vars.rcvdMDSyncMDSS = false

def newFrames (m : MDSyncSendMachine) (e : Event) : List Frame :=
  (step m e).vars.process.sent.drop m.vars.process.sent.length

theorem newFrames_of_sent {m : MDSyncSendMachine} {e : Event}
    {frames : List Frame}
    (h : (step m e).vars.process.sent = m.vars.process.sent ++ frames) :
    newFrames m e = frames := by
  unfold newFrames
  rw [h, List.drop_left]

/--
The arrival of `mdSync` caused `sync`, and nothing has been sent between that
call and the present state of the machine.
-/
def CausedBy (start : MDSyncSendMachine) (history : List Event)
    (sent : List Frame) (mdSync : MDSyncSend) (sync : PTPMsgSync) : Prop :=
  exists before after,
    history = before ++ .recvMDSync mdSync :: after ∧
      (newFrames (runEvents step start before) (.recvMDSync mdSync)).map
          Frame.message = [.sync sync] ∧
      (step (runEvents step start before)
        (.recvMDSync mdSync)).vars.process.sent = sent

theorem CausedBy.later {start : MDSyncSendMachine} {history : List Event}
    {sent : List Frame} {mdSync : MDSyncSend} {sync : PTPMsgSync}
    (h : CausedBy start history sent mdSync sync) (e : Event) :
    CausedBy start (history ++ [e]) sent mdSync sync := by
  rcases h with ⟨before, after, hhistory, hcaused⟩
  refine ⟨before, after ++ [e], ?_, hcaused⟩
  rw [hhistory]
  simp

/-- The machine waits with the structure that its last `Sync` was sent for. -/
def Linked (start : MDSyncSendMachine) (history : List Event)
    (m : MDSyncSendMachine) : Prop :=
  m.state = .sendSync -> m.vars.rcvdMDSyncMDSS = false ->
    exists mdSync sync, m.vars.rcvdMDSyncPtr = .live mdSync ∧
      m.vars.SyncSent sync ∧
      CausedBy start history m.vars.process.sent mdSync sync

section Step

variable {start : MDSyncSendMachine} {history : List Event}

theorem linked_recvMDSync (hrest : AtRest (runEvents step start history))
    (mdSync : MDSyncSend) :
    Linked start (history ++ [.recvMDSync mdSync])
      (step (runEvents step start history) (.recvMDSync mdSync)) := by
  intro hstate' hflag'
  by_cases hstate : (runEvents step start history).state = .sendSync
  · rw [step_recvMDSync_waiting hrest hstate] at hflag'
    cases hflag'
  · by_cases hcapable : (runEvents step start history).vars.Capable
    · have hstep := @step_recvMDSync_sent _ mdSync hrest hstate hcapable
      refine ⟨mdSync,
        ((runEvents step start history).vars.withMDSync mdSync).setSyncTwoStep
          mdSync, ?_, ?_, history, [], rfl, ?_, rfl⟩
      · rw [hstep]
        rfl
      · rw [hstep]
        exact syncSent_synced _ mdSync
      · rw [newFrames_of_sent (by rw [hstep]; rfl)]
        rfl
    · have hinitializing := hrest.initializing_of_incapable hcapable
      rw [step_recvMDSync_unable hrest hinitializing hcapable] at hstate'
      exact absurd hstate' hstate

theorem linked_txts (hrest : AtRest (runEvents step start history))
    (hlinked : Linked start history (runEvents step start history))
    {tsuTimestamp : TSUTimestamp}
    (horder : InOrder (runEvents step start history) (.txts tsuTimestamp)) :
    Linked start (history ++ [.txts tsuTimestamp])
      (step (runEvents step start history) (.txts tsuTimestamp)) := by
  have hstay : step (runEvents step start history) (.txts tsuTimestamp) =
      runEvents step start history ->
      Linked start (history ++ [.txts tsuTimestamp])
        (step (runEvents step start history) (.txts tsuTimestamp)) := by
    intro hstep
    rw [hstep]
    intro hstate hflag
    rcases hlinked hstate hflag with ⟨mdSync, sync, hmdSync, hsync, hcaused⟩
    exact ⟨mdSync, sync, hmdSync, hsync, hcaused.later _⟩
  by_cases hstate : (runEvents step start history).state = .sendSync
  · cases hmatch :
        (runEvents step start history).vars.timestampMatches tsuTimestamp with
    | false =>
        exact hstay (step_txts_mismatch hrest hmatch)
    | true =>
        have hflag := horder hstate hmatch
        rcases hlinked hstate hflag with ⟨mdSync, sync, hmdSync, hsync, _⟩
        rw [step_txts_followedUp hrest hstate hmatch hmdSync hsync.left hflag]
        intro hstate'
        cases hstate'
  · exact hstay (step_txts_unexpected hrest hstate)

theorem newFrames_unchanged {m : MDSyncSendMachine} {e : Event}
    (h : (step m e).vars.process = m.vars.process) : newFrames m e = [] := by
  unfold newFrames
  rw [h, List.drop_length]

theorem txts_of_followUp {m : MDSyncSendMachine} (h : AtRest m) {e : Event}
    {port : Port} {followUp : PTPMsgFollowUp}
    (hmem : { port := port, message := .followUp followUp } ∈ newFrames m e) :
    exists tsuTimestamp, e = .txts tsuTimestamp ∧ m.state = .sendSync ∧
      m.vars.timestampMatches tsuTimestamp = true := by
  cases e with
  | recvMDSync mdSync =>
      by_cases hstate : m.state = .sendSync
      · rw [newFrames_unchanged
          (by rw [step_recvMDSync_waiting h hstate]; rfl)] at hmem
        cases hmem
      · by_cases hcapable : m.vars.Capable
        · rw [newFrames_of_sent
            (by rw [step_recvMDSync_sent h hstate hcapable]; rfl)] at hmem
          cases List.mem_singleton.mp hmem
        · have hinitializing := h.initializing_of_incapable hcapable
          rw [newFrames_unchanged
            (by rw [step_recvMDSync_unable h hinitializing hcapable]; rfl)]
            at hmem
          cases hmem
  | txts tsuTimestamp =>
      by_cases hstate : m.state = .sendSync
      · cases hmatch : m.vars.timestampMatches tsuTimestamp with
        | false =>
            rw [newFrames_unchanged (by rw [step_txts_mismatch h hmatch])]
              at hmem
            cases hmem
        | true => exact ⟨tsuTimestamp, rfl, hstate, hmatch⟩
      · rw [newFrames_unchanged (by rw [step_txts_unexpected h hstate])]
          at hmem
        cases hmem

end Step

/--
The follow-up is built from the structure that caused the last `Sync`, whose
sequence number it has, and from the egress timestamp of that `Sync`.
-/
def Paired (start : MDSyncSendMachine) (history : List Event) (e : Event)
    (followUp : PTPMsgFollowUp) : Prop :=
  exists mdSync sync tsuTimestamp, e = .txts tsuTimestamp ∧
    CausedBy start history
      (runEvents step start history).vars.process.sent mdSync sync ∧
    sync.head.sequenceId = followUp.head.sequenceId ∧
    tsuTimestamp.sequenceID = followUp.head.sequenceId ∧
    followUp =
      followUpOf mdSync tsuTimestamp.ts followUp.head.sequenceId

section Runs

variable {memory : MDSyncSendSM}

theorem linked_runEvents (hconfigured : memory.Configured)
    (hrunning : memory.process.stop = none) {history : List Event}
    (horder : Along step InOrder (initMdSyncSendSm memory) history) :
    Linked (initMdSyncSendSm memory) history
      (runEvents step (initMdSyncSendSm memory) history) := by
  refine history_invariant (I := Linked (initMdSyncSendSm memory)) ?_ ?_ horder
  · intro hstate
    rw [initMdSyncSendSm_eq hrunning] at hstate
    cases hstate
  · intro history e hlinked hok
    have hrest := atRest_runEvents hconfigured hrunning history
    cases e with
    | recvMDSync mdSync => exact linked_recvMDSync hrest mdSync
    | txts tsuTimestamp => exact linked_txts hrest hlinked hok

/--
In every run in which no new structure comes between a `Sync` and its accepted
timestamp, every `Follow_Up` belongs to its `Sync`.
-/
theorem follow_up_paired (hconfigured : memory.Configured)
    (hrunning : memory.process.stop = none) {events : List Event}
    (horder : Along step InOrder (initMdSyncSendSm memory) events)
    {history rest : List Event} {e : Event}
    (hevents : events = history ++ e :: rest) {port : Port}
    {followUp : PTPMsgFollowUp}
    (hsent : { port := port, message := .followUp followUp } ∈
      newFrames (runEvents step (initMdSyncSendSm memory) history) e) :
    Paired (initMdSyncSendSm memory) history e followUp := by
  have hrest := atRest_runEvents hconfigured hrunning history
  rcases txts_of_followUp hrest hsent with ⟨tsuTimestamp, rfl, hstate, hmatch⟩
  have hflag := horder history _ rest hevents hstate hmatch
  rw [hevents] at horder
  rcases linked_runEvents hconfigured hrunning horder.prefix hstate hflag with
    ⟨mdSync, sync, hmdSync, hsync, hcaused⟩
  rw [newFrames_of_sent (by
    rw [step_txts_followedUp hrest hstate hmatch hmdSync hsync.left hflag]
    rfl)] at hsent
  cases List.mem_singleton.mp hsent
  exact ⟨mdSync, sync, tsuTimestamp, rfl, hcaused, rfl,
    ((timestampMatches_iff hsync tsuTimestamp).mp hmatch).left, rfl⟩

end Runs

/-!
In the instance a second structure comes before the timestamp of the first
`Sync`, and the follow-up is built from the second one.
-/

def pairedHistory : List Event :=
  [.recvMDSync (mdSyncAt 1)]

def replacedHistory : List Event :=
  [.recvMDSync (mdSyncAt 1), .recvMDSync (mdSyncAt 2)]

theorem first_follow_up_paired :
    Paired (initMdSyncSendSm (memoryWith 0)) pairedHistory
      (.txts (egressOf 0)) (followUpOf (mdSyncAt 1) default 0) := by
  have horder : Along step InOrder (initMdSyncSendSm (memoryWith 0))
      (pairedHistory ++ .txts (egressOf 0) :: []) := by
    refine along_cons.mpr ⟨trivial, along_cons.mpr ⟨?_, along_nil _ _⟩⟩
    intro _ _
    rfl
  have hsent : { port := 1
                 message := .followUp (followUpOf (mdSyncAt 1) default 0) } ∈
      newFrames (runEvents step (initMdSyncSendSm (memoryWith 0)) pairedHistory)
        (.txts (egressOf 0)) := by
    decide
  exact follow_up_paired ⟨rfl, rfl⟩ rfl horder rfl hsent

theorem replaced_structure_breaks_pairing :
    ¬ forall (memory : MDSyncSendSM) (history : List Event) (e : Event)
        (port : Port) (followUp : PTPMsgFollowUp),
      memory.Configured -> memory.process.stop = none ->
      { port := port, message := .followUp followUp } ∈
        newFrames (runEvents step (initMdSyncSendSm memory) history) e ->
      Paired (initMdSyncSendSm memory) history e followUp := by
  intro h
  have hpaired := h (memoryWith 0) replacedHistory (.txts (egressOf 0)) 1
    (followUpOf (mdSyncAt 2) default 0) ⟨rfl, rfl⟩ rfl (by decide)
  rcases hpaired with ⟨mdSync, sync, tsuTimestamp, htxts,
    ⟨before, after, hhistory, hframes, _⟩, _, _, hfollowUp⟩
  cases before with
  | nil =>
      -- The first structure has another origin timestamp.
      cases hhistory
      have horigin : (mdSyncAt 2).preciseOriginTimestamp =
          (mdSyncAt 1).preciseOriginTimestamp :=
        congrArg PTPMsgFollowUp.preciseOriginTimestamp hfollowUp
      exact absurd horigin (by decide)
  | cons e before =>
      cases before with
      | nil =>
          -- The second structure has caused no message.
          cases hhistory
          have hnone : newFrames
              (runEvents step (initMdSyncSendSm (memoryWith 0))
                [.recvMDSync (mdSyncAt 1)]) (.recvMDSync (mdSyncAt 2)) = [] := by
            decide
          rw [hnone] at hframes
          cases hframes
      | cons e' before =>
          have hlength := congrArg List.length hhistory
          simp [replacedHistory] at hlength

end MDSyncSendMachine

end TimeSync
end Ziggo
