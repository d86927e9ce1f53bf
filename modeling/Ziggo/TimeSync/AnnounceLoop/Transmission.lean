import Ziggo.TimeSync.AnnounceLoop.Invariant
import Ziggo.TimeSync.Transmission

/-!
# Transmitted Announce messages

Every `Announce` names the port that it leaves by.  All messages of a port have
the number that its machine drew first, for nothing ever changes that number.
-/

namespace Ziggo
namespace TimeSync

open Foundation TsnDrivers

namespace PortAnnounceTransmitMachine

open PortAnnounceTransmitSM

/-- The messages that have left by the port all have the number at hand. -/
structure Repeats (port : Port) (sm : PortAnnounceTransmitSM) : Prop where
  leaves : sm.perPortGlobal.thisPort = port
  ids : forall id, id ∈ sequenceIds .announce port sm.process.sent ->
    id = sm.sequenceId

section Calls

variable {port : Port} {sm sm' : PortAnnounceTransmitSM}

theorem transmitAnnounceAction_sends (h : sm.transmitAnnounceAction = .ok sm') :
    sm'.perPortGlobal = sm.perPortGlobal ∧ sm'.sequenceId = sm.sequenceId ∧
      exists announce, announce.head.sequenceId = sm.sequenceId ∧
        sm'.process.sent = sm.process.sent ++
          [{ port := sm.perPortGlobal.thisPort
             message := .announce announce }] := by
  obtain ⟨announce, hset, hrest⟩ := bind_eq_ok.mp h
  obtain ⟨sent, htx, hreturn⟩ := bind_eq_ok.mp hrest
  cases hreturn
  obtain ⟨_, hlive, hsend⟩ := bind_eq_ok.mp htx
  cases hlive
  cases hsend
  obtain ⟨pathSequence, _, hannounce⟩ := bind_eq_ok.mp hset
  cases hannounce
  exact ⟨rfl, rfl, _, rfl, rfl⟩

theorem Repeats.unsent (h : Repeats port sm)
    (hport : sm'.perPortGlobal = sm.perPortGlobal)
    (hid : sm'.sequenceId = sm.sequenceId)
    (hsent : sm'.process.sent = sm.process.sent) : Repeats port sm' where
  leaves := (congrArg PerPortGlobal.thisPort hport).trans h.leaves
  ids := by
    rw [hsent, hid]
    exact h.ids

theorem Repeats.transmit (h : Repeats port sm)
    (haction : sm.transmitAnnounceAction = .ok sm') : Repeats port sm' := by
  obtain ⟨hport, hid, announce, hnumber, hsent⟩ :=
    transmitAnnounceAction_sends haction
  have hids := @sequenceIds_send .announce port sm.process.sent
    (.announce announce) rfl
  refine ⟨(congrArg PerPortGlobal.thisPort hport).trans h.leaves, ?_⟩
  rw [hsent, h.leaves, hids, hid]
  intro id hmem
  rcases List.mem_append.mp hmem with hold | hnew
  · exact h.ids id hold
  · exact (List.mem_singleton.mp hnew).trans hnumber

theorem repeats_run {m : PortAnnounceTransmitMachine}
    (h : Repeats port m.vars) (ts : UScaledNs) :
    Repeats port (m.run ts).vars := by
  refine Behaviour.run_preserves (behaviour ts) (I := Repeats port)
    ?_ ?_ ?_ ?_ passes (m := m.ready) h
  · intro state v v' h haction
    cases state with
    | transmitAnnounce => exact h.transmit haction
    | _ =>
        cases haction
        exact h.unsent rfl rfl rfl
  · exact fun _ _ _ h _ => h.unsent rfl rfl rfl
  · exact fun _ _ _ h _ => h.unsent rfl rfl rfl
  · exact fun _ h => h.unsent rfl rfl rfl

end Calls

end PortAnnounceTransmitMachine

namespace AnnounceLoop

/-!
## Sources
-/

/-- The loop has sent `Announce` messages only, and they name their ports. -/
structure Announcing (config : Config) (l : AnnounceLoop) : Prop where
  configured : Configured config l
  names : forall frame, frame ∈ l.process.sent ->
    frame.Names config.systemIdentity.clockIdentity ∧
      frame.message.kind = .announce

section Sources

variable {config : Config} {l l' : AnnounceLoop}

theorem Announcing.congr (h : Announcing config l)
    (hconfigured : Configured config l')
    (hsent : l'.process.sent = l.process.sent) : Announcing config l' where
  configured := hconfigured
  names := by
    rw [hsent]
    exact h.names

theorem Announcing.transmit (h : Announcing config l) {i : PortIndex}
    {m : PortAnnounceTransmitMachine}
    (hframe : PortAnnounceTransmitMachine.CallFrame
      (l.loadPortAnnounceTransmit i) m.vars) :
    Announcing config (l.storePortAnnounceTransmit i m) := by
  obtain ⟨frames, hsent, hcarries⟩ := hframe.sent
  refine ⟨h.configured.transmit hframe, fun frame hframe => ?_⟩
  change frame ∈ m.vars.process.sent at hframe
  rw [hsent] at hframe
  rcases List.mem_append.mp hframe with hold | hnew
  · exact h.names frame hold
  · obtain ⟨sequenceId, pathSequence, _, rfl⟩ := hcarries frame hnew
    refine ⟨?_, rfl⟩
    rw [← h.configured.thisClock]
    rfl

theorem announcing_start (config : Config) (memory : LoopMemory) :
    Announcing config (start config memory) := by
  have hkept : KeptInit (Announcing config) := by
    constructor
    case selection =>
      exact fun l m h _ hframe =>
        h.congr (h.configured.selection hframe) hframe.sent
    case information =>
      exact fun l i m h _ hframe =>
        h.congr (h.configured.information hframe) hframe.sent
    case informationExt =>
      exact fun l i m h _ hframe =>
        h.congr (h.configured.informationExt hframe) hframe.sent
    case transmit => exact fun l i m h hframe => h.transmit hframe
  refine hkept.start ⟨⟨rfl, fun _ => rfl⟩, fun frame hmem => ?_⟩
  cases hmem

theorem kept_announcing (config : Config) (e : Event) :
    Kept e (Announcing config) := by
  constructor
  case selection =>
    exact fun l m h _ _ hframe =>
      h.congr (h.configured.selection hframe) hframe.sent
  case information =>
    exact fun l i m h _ _ hframe =>
      h.congr (h.configured.information hframe) hframe.sent
  case informationExt =>
    exact fun l i m h _ _ hframe =>
      h.congr (h.configured.informationExt hframe) hframe.sent
  case transmit => exact fun l i m h _ hframe => h.transmit hframe
  case syncReceipt =>
    exact fun l time h => h.congr ⟨h.configured.global, h.configured.port⟩ rfl

theorem announcing_after (config : Config) (memory : LoopMemory)
    (es : List Event) : Announcing config (after config memory es) :=
  run_invariant_always (announcing_start config memory)
    (fun _ e h => (kept_announcing config e).step h) es

end Sources

/-!
## Sequence numbers
-/

/-- The messages of a port have the number of its machine. -/
def Repeated (l : AnnounceLoop) (i : PortIndex) : Prop :=
  forall id, id ∈ sequenceIds .announce i.succ l.process.sent ->
    id = (l.portAnnounceTransmitSms i).vars.sequenceId

/-- No message has left by the port. -/
def Untouched (l : AnnounceLoop) (i : PortIndex) : Prop :=
  sequenceIds .announce i.succ l.process.sent = []

/-- The part of the loop on which the numbers of its messages depend. -/
structure Unchanged (l l' : AnnounceLoop) : Prop where
  sent : l'.process.sent = l.process.sent
  portAnnounceTransmitSms :
    l'.portAnnounceTransmitSms = l.portAnnounceTransmitSms

section Numbers

variable {config : Config} {l l' : AnnounceLoop} {i j : PortIndex}

theorem Unchanged.repeated (h : Unchanged l l') (hl : l.Repeated i) :
    l'.Repeated i := by
  unfold Repeated
  rw [h.sent, h.portAnnounceTransmitSms]
  exact hl

theorem Unchanged.untouched (h : Unchanged l l') (hl : l.Untouched i) :
    l'.Untouched i := by
  unfold Untouched
  rw [h.sent]
  exact hl

theorem unchanged_initSelection (l : AnnounceLoop) :
    Unchanged l l.initSelection := by
  unfold initSelection
  split
  · exact ⟨rfl, rfl⟩
  · exact ⟨(PortStateSelectionMachine.callFrame_run
      (PortStateSelectionMachine.callFrame_initial _)).sent, rfl⟩

theorem unchanged_initInformation (i : PortIndex) (l : AnnounceLoop) :
    Unchanged l (l.initInformation i) := by
  unfold initInformation
  split
  · exact ⟨(PortAnnounceInformationExtMachine.callFrame_init _).sent, rfl⟩
  · exact ⟨(PortAnnounceInformationMachine.callFrame_init _).sent, rfl⟩

theorem unchanged_runSelection (l : AnnounceLoop) :
    Unchanged l l.runSelection := by
  unfold runSelection
  split
  · exact ⟨rfl, rfl⟩
  · have hloaded : PortStateSelectionMachine.CallFrame
        l.loadPortStateSelection l.loadPortStateSelection :=
      ⟨rfl, fun _ => rfl, fun h => h, rfl, fun h => h⟩
    exact ⟨(PortStateSelectionMachine.callFrame_run
      (m := { l.portStateSelectionSm with
        vars := l.loadPortStateSelection }) hloaded).sent, rfl⟩

theorem unchanged_runInformation (i : PortIndex) (ts : UScaledNs)
    (l : AnnounceLoop) : Unchanged l (l.runInformation i ts) := by
  unfold runInformation
  split
  · exact ⟨rfl, rfl⟩
  · have hloaded := PortAnnounceInformationMachine.callFrame_refl
      (l.loadPortAnnounceInformation i)
    exact ⟨(PortAnnounceInformationMachine.callFrame_run
      (m := { l.portAnnounceInformationSms i with
        vars := l.loadPortAnnounceInformation i }) hloaded ts).sent, rfl⟩

theorem unchanged_recvAnnounce (i : PortIndex) (ts : UScaledNs)
    (announce : PTPMsgAnnounce) (l : AnnounceLoop) :
    Unchanged l (l.recvAnnounce i ts announce) := by
  unfold recvAnnounce
  split
  · exact ⟨(PortAnnounceInformationExtMachine.callFrame_recvAnnounce
      { l.portAnnounceInformationExtSms i with
        vars := l.loadPortAnnounceInformationExt i } announce).sent, rfl⟩
  · exact ⟨(PortAnnounceInformationMachine.callFrame_recvAnnounce
      { l.portAnnounceInformationSms i with
        vars := l.loadPortAnnounceInformation i } ts announce).sent, rfl⟩

theorem unchanged_syncReceipt (time : UScaledNs) (l : AnnounceLoop) :
    Unchanged l (l.setSyncReceiptTimeoutTime time) :=
  ⟨rfl, rfl⟩

theorem Unchanged.thenDo {statement : AnnounceLoop -> AnnounceLoop}
    (h : forall l, Unchanged l (statement l)) (l : AnnounceLoop) :
    Unchanged l (l.thenDo statement) := by
  unfold AnnounceLoop.thenDo
  split
  · exact ⟨rfl, rfl⟩
  · exact h l

theorem sequenceIds_other_port {frames : List Frame} (hij : i ≠ j)
    (h : forall frame, frame ∈ frames -> frame.port = j.succ)
    (sent : List Frame) :
    sequenceIds .announce i.succ (sent ++ frames) =
      sequenceIds .announce i.succ sent := by
  have hnone : sequenceIds .announce i.succ frames = [] := by
    unfold sequenceIds
    rw [List.filter_eq_nil_iff.mpr, List.map_nil]
    intro frame hframe
    have hport : frame.port ≠ i.succ := by
      rw [h frame hframe]
      exact fun hsame => hij (Fin.succ_injective _ hsame).symm
    simp [hport]
  rw [sequenceIds_append, hnone, List.append_nil]

/-- A call of the machine of one port sends on this port only. -/
theorem sequenceIds_transmit (h : Configured config l) (hij : i ≠ j)
    {m : PortAnnounceTransmitMachine}
    (hframe : PortAnnounceTransmitMachine.CallFrame
      (l.loadPortAnnounceTransmit j) m.vars) :
    sequenceIds .announce i.succ m.vars.process.sent =
      sequenceIds .announce i.succ l.process.sent := by
  obtain ⟨frames, hsent, hcarries⟩ := hframe.sent
  rw [hsent]
  refine sequenceIds_other_port hij (fun frame hmem => ?_) _
  obtain ⟨_, _, _, rfl⟩ := hcarries frame hmem
  exact h.thisPort j

theorem Repeated.transmit (h : Configured config l) (hl : l.Repeated i)
    {m : PortAnnounceTransmitMachine}
    (hframe : PortAnnounceTransmitMachine.CallFrame
      (l.loadPortAnnounceTransmit j) m.vars)
    (hself : i = j -> PortAnnounceTransmitMachine.Repeats j.succ m.vars) :
    (l.storePortAnnounceTransmit j m).Repeated i := by
  have hsms : (l.storePortAnnounceTransmit j m).portAnnounceTransmitSms =
      Function.update l.portAnnounceTransmitSms j m := rfl
  unfold Repeated
  rw [hsms]
  by_cases hij : i = j
  · subst hij
    rw [Function.update_self]
    exact (hself rfl).ids
  · rw [Function.update_of_ne hij]
    intro id hmem
    refine hl id ?_
    rw [← sequenceIds_transmit h hij hframe]
    exact hmem

theorem Repeated.runTransmit (h : Configured config l) (hl : l.Repeated i)
    (j : PortIndex) (ts : UScaledNs) : (l.runTransmit j ts).Repeated i := by
  unfold AnnounceLoop.runTransmit
  refine hl.transmit h (callFrame_runTransmit l j ts) fun hij => ?_
  subst hij
  refine PortAnnounceTransmitMachine.repeats_run ?_ ts
  exact ⟨h.thisPort i, hl⟩

theorem repeated_step (h : Configured config l) (hl : l.Repeated i)
    (e : Event) : (step l e).Repeated i := by
  cases e with
  | timeout j ts =>
      have hinformation := Unchanged.thenDo (unchanged_runInformation j ts) l
      have hconfigured := h.thenRunInformation j ts
      exact thenDo_preserves (I := fun l => l.Repeated i)
        (hinformation.repeated hl)
        (fun hl _ => hl.runTransmit hconfigured j ts)
  | announce j ts message =>
      have hrecv := Unchanged.thenDo (unchanged_recvAnnounce j ts message) l
      have hselection := Unchanged.thenDo unchanged_runSelection
        (l.thenDo (recvAnnounce j ts message))
      exact hselection.repeated (hrecv.repeated hl)
  | select =>
      exact (Unchanged.thenDo unchanged_runSelection l).repeated hl
  | syncReceipt time =>
      exact (Unchanged.thenDo (unchanged_syncReceipt time) l).repeated hl

/-!
The machines are initialized one after the other, and one that has not been
initialized has not sent anything.
-/

theorem Untouched.repeated (h : l.Untouched i) : l.Repeated i := by
  intro id hmem
  rw [h] at hmem
  cases hmem

/-- The machines of some ports have drawn their numbers. -/
structure Numbering (config : Config) (done : PortIndex -> Prop)
    (l : AnnounceLoop) : Prop where
  configured : Configured config l
  repeated : forall i, l.Repeated i
  untouched : forall i, ¬ done i -> l.Untouched i

theorem repeated_initTransmit (h : Configured config l)
    (hrepeated : l.Repeated i) (hnew : l.Untouched j) :
    (l.initTransmit j).Repeated i := by
  unfold AnnounceLoop.initTransmit
  refine hrepeated.transmit h
    (PortAnnounceTransmitMachine.callFrame_init _) fun _ => ?_
  unfold PortAnnounceTransmitMachine.initPortAnnounceTransmitSm
  refine PortAnnounceTransmitMachine.repeats_run ⟨h.thisPort j, ?_⟩ _
  intro id hmem
  have hnone : id ∈ sequenceIds .announce j.succ l.process.sent := hmem
  rw [hnew] at hnone
  cases hnone

theorem untouched_initTransmit (h : Configured config l)
    (huntouched : l.Untouched i) (hij : i ≠ j) :
    (l.initTransmit j).Untouched i := by
  unfold Untouched
  refine Eq.trans ?_ huntouched
  unfold AnnounceLoop.initTransmit
  exact sequenceIds_transmit h hij
    (PortAnnounceTransmitMachine.callFrame_init _)

theorem Numbering.initPort {done : PortIndex -> Prop} {i : PortIndex}
    (hi : ¬ done i) (h : Numbering config done l) :
    Numbering config (fun j => j = i ∨ done j) (l.initPort i) := by
  have hinformation := Unchanged.thenDo (unchanged_initInformation i) l
  have hconfigured := h.configured.thenInitInformation i
  have huntouched := fun j hj => hinformation.untouched (h.untouched j hj)
  have hrepeated := fun j => hinformation.repeated (h.repeated j)
  constructor
  case configured =>
    exact (keptInit_configured config).initPort h.configured i
  case repeated =>
    intro j
    exact thenDo_preserves (I := fun l => l.Repeated j) (hrepeated j)
      (fun hj _ => repeated_initTransmit hconfigured hj (huntouched i hi))
  case untouched =>
    intro j hj
    rw [not_or] at hj
    exact thenDo_preserves (I := fun l => l.Untouched j)
      (huntouched j hj.right)
      (fun hold _ => untouched_initTransmit hconfigured hold hj.left)

theorem repeated_start (config : Config) (memory : LoopMemory)
    (i : PortIndex) : (start config memory).Repeated i := by
  have hselection := unchanged_initSelection (initial config memory)
  have hnone : forall i, (initial config memory).Untouched i := fun _ => rfl
  have hbegin : Numbering config (fun _ => False)
      (initial config memory).initSelection :=
    ⟨(keptInit_configured config).initSelection ⟨rfl, fun _ => rfl⟩,
      fun i => hselection.repeated (hnone i).repeated,
      fun i _ => hselection.untouched (hnone i)⟩
  have hend := foldl_distinct (I := Numbering config)
    (fun _ _ _ hi h => h.initPort hi) (List.nodup_finRange nPorts)
    (fun _ _ h => h) hbegin
  exact hend.repeated i

theorem repeated_after (config : Config) (memory : LoopMemory)
    (es : List Event) (i : PortIndex) :
    (after config memory es).Repeated i := by
  have hrun : Configured config (after config memory es) ∧
      (after config memory es).Repeated i := by
    unfold after
    exact run_invariant_always
      (I := fun l => Configured config l ∧ l.Repeated i)
      ⟨configured_start config memory, repeated_start config memory i⟩
      (fun _ e h => ⟨(kept_configured config e).step h.left,
        repeated_step h.left h.right e⟩) es
  exact hrun.right

end Numbers

end AnnounceLoop

end TimeSync
end Ziggo
