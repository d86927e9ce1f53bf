import Ziggo.TimeSync.AnnounceLoop.Ageing
import Ziggo.TimeSync.PortStateSelectionSM.PathTrace

/-!
# Accepted messages

A port accepts a message as superior or as repeated information, and records its
path.  As long as the port holds received information, the path that it has
recorded is the one of the message that it has accepted last.
-/

namespace Ziggo
namespace TimeSync

open Foundation TsnDrivers

/-- The port has recorded the path of the message, if its information is received. -/
def Records (latest : Option PTPMsgAnnounce) (port : PerPortGlobal) : Prop :=
  port.infoIs = .received ->
    exists message, latest = some message ∧ heldPath port = message.path

theorem Records.congr {latest : Option PTPMsgAnnounce}
    {port port' : PerPortGlobal} (h : Records latest port)
    (hinfo : port'.infoIs = port.infoIs)
    (hheld : heldPath port' = heldPath port) : Records latest port' := by
  unfold Records
  rw [hinfo, hheld]
  exact h

theorem entries_copyOctets_div {count : Nat}
    {source destination array : PathArray}
    (h : copyOctets count source destination = .ok array) :
    entries array (count / clockIdentityLength) =
      entries source (count / clockIdentityLength) := by
  unfold copyOctets at h
  split at h
  · cases h
    refine entries_congr fun i hi => ?_
    funext j
    have hj : j.val < 8 := j.isLt
    have hoctet : clockIdentityLength * i.val + j.val < count := by
      change i.val < count / 8 at hi
      change 8 * i.val + j.val < count
      omega
    exact if_pos hoctet
  · cases h

/-!
## The machine of a port
-/

namespace PortAnnounceInformationMachine

open PortAnnounceInformationSM

/-- The message that the machine accepts in the state that it enters. -/
def acceptedAt :
    PortAnnounceInformationSMState × PortAnnounceInformationSM ->
      Option PTPMsgAnnounce
  | (.repeatedMasterPort, sm) => sm.rcvdAnnouncePtr.deref.toOption
  | (.superiorMasterPort, sm) => sm.rcvdAnnouncePtr.deref.toOption
  | _ => none

def accepted (m : PortAnnounceInformationMachine) (ts : UScaledNs) :
    List PTPMsgAnnounce :=
  ((behaviour ts).program.entries passes m.ready).filterMap acceptedAt

variable {ts : UScaledNs} {state : PortAnnounceInformationSMState}
  {sm sm' : PortAnnounceInformationSM} {announce : PTPMsgAnnounce}

theorem heldPath_recordOtherAnnounceInfo
    (h : sm.recordOtherAnnounceInfo announce = .ok sm') :
    heldPath sm'.perPortGlobal = announce.path := by
  obtain ⟨array, hcopy, hreturn⟩ := bind_eq_ok.mp h
  have hshort : announce.pathTraceTLV.lengthField.toNat ≤ 64 :=
    exists_copyOctets_iff.mp ⟨array, hcopy⟩
  have hcount : announce.pathCount.toUInt8.toNat = announce.pathCount := by
    have hle : announce.pathCount ≤ 8 := by
      change announce.pathTraceTLV.lengthField.toNat / 8 ≤ 8
      omega
    change announce.pathCount % 256 = announce.pathCount
    exact Nat.mod_eq_of_lt (hle.trans_lt (by decide))
  cases hreturn
  change entries array announce.pathCount.toUInt8.toNat = announce.path
  rw [hcount]
  exact entries_copyOctets_div hcopy

theorem records_action {past : List PTPMsgAnnounce}
    (h : Records past.getLast? sm.perPortGlobal)
    (haction : action ts state sm = .ok sm') :
    Records (past ++ (acceptedAt (state, sm)).toList).getLast?
      sm'.perPortGlobal := by
  cases state with
  | repeatedMasterPort =>
      obtain ⟨announce, hlive, hrest⟩ := bind_eq_ok.mp haction
      obtain ⟨recorded, hrecord, hreturn⟩ := bind_eq_ok.mp hrest
      have hheld := heldPath_recordOtherAnnounceInfo hrecord
      cases hreturn
      refine fun _ => ⟨announce, ?_, hheld⟩
      change (past ++ sm.rcvdAnnouncePtr.deref.toOption.toList).getLast? = _
      rw [hlive]
      exact List.getLast?_concat
  | superiorMasterPort =>
      obtain ⟨announce, hlive, hrest⟩ := bind_eq_ok.mp haction
      obtain ⟨recorded, hrecord, hrest⟩ := bind_eq_ok.mp hrest
      obtain ⟨_, _, hrest⟩ := bind_eq_ok.mp hrest
      obtain ⟨_, _, hreturn⟩ := bind_eq_ok.mp hrest
      have hheld := heldPath_recordOtherAnnounceInfo hrecord
      cases hreturn
      refine fun _ => ⟨announce, ?_, hheld⟩
      change (past ++ sm.rcvdAnnouncePtr.deref.toOption.toList).getLast? = _
      rw [hlive]
      exact List.getLast?_concat
  | receive =>
      obtain ⟨_, _, hreturn⟩ := bind_eq_ok.mp haction
      cases hreturn
      change Records (past ++ []).getLast? _
      rw [List.append_nil]
      exact h
  | disabled =>
      cases haction
      intro hreceived
      cases hreceived
  | aged =>
      cases haction
      intro hreceived
      cases hreceived
  | update =>
      cases haction
      intro hreceived
      cases hreceived
  | _ =>
      cases haction
      change Records (past ++ []).getLast? _
      rw [List.append_nil]
      exact h

theorem records_run {m : PortAnnounceInformationMachine}
    {past : List PTPMsgAnnounce}
    (h : Records past.getLast? m.vars.perPortGlobal)
    (hruns : (m.run ts).vars.process.stop = none) :
    Records (past ++ m.accepted ts).getLast? (m.run ts).vars.perPortGlobal := by
  have hrun := @Program.run_entries _ _ _ (behaviour ts).program
    (fun entered sm => sm.process.stop = none ->
      Records (past ++ entered.filterMap acceptedAt).getLast? sm.perPortGlobal)
    ?_ ?_ ?_ passes [] m.ready ?_
  · exact hrun hruns
  · intro entered state sm h
    refine attempt_preserves
      (I := fun sm' => sm'.process.stop = none ->
        Records (past ++ (entered ++ [(state, sm)]).filterMap
          acceptedAt).getLast? sm'.perPortGlobal)
      (v := sm) (r := action ts state sm) ?_ ?_
    · intro sm' haction hstop
      have hprocess := (frame_action haction).process
      rw [hprocess] at hstop
      rw [List.filterMap_append, ← List.append_assoc]
      exact records_action (h hstop) haction
    · intro f _ hstop
      cases hstop
  · intro entered state sm f h _ hstop
    cases hstop
  · intro entered sm h hstop
    cases hstop
  · intro _
    rw [List.filterMap_nil, List.append_nil]
    exact h

theorem records_store {past : List PTPMsgAnnounce}
    (h : Records past.getLast? sm.perPortGlobal)
    (hstore : sm.storeAnnounce announce = .ok sm') :
    Records past.getLast? sm'.perPortGlobal := by
  obtain ⟨_, _, hreturn⟩ := bind_eq_ok.mp hstore
  cases hreturn
  exact h

end PortAnnounceInformationMachine

namespace AnnounceLoop

variable {config : Config} {memory : LoopMemory} {l : AnnounceLoop}
  {i : PortIndex}

/-!
## Runs
-/

/-- The messages that a port accepts at an event, in BMCA mode. -/
def acceptedIn (l : AnnounceLoop) (i : PortIndex) (e : Event) :
    List PTPMsgAnnounce :=
  if e.port = some i then
    match l.informationCall e with
    | some (m, ts) => m.accepted ts
    | none => []
  else
    []

/-- The messages that a port accepts at the events of a run. -/
def acceptedFrom (i : PortIndex) : AnnounceLoop -> List Event ->
    List PTPMsgAnnounce
  | _, [] => []
  | l, e :: es => l.acceptedIn i e ++ acceptedFrom i (step l e) es

/--
The message that a port has accepted most recently, as superior or as repeated
information.  No port has a message to accept while it is initialized.
-/
def lastAccepted (config : Config) (memory : LoopMemory) (es : List Event)
    (i : PortIndex) : Option PTPMsgAnnounce :=
  (acceptedFrom i (start config memory) es).getLast?

theorem acceptedFrom_concat (l : AnnounceLoop) (es : List Event) (e : Event) :
    acceptedFrom i l (es ++ [e]) =
      acceptedFrom i l es ++ (runEvents step l es).acceptedIn i e := by
  induction es generalizing l with
  | nil =>
      exact List.append_nil _
  | cons e' es ih =>
      rw [List.cons_append, acceptedFrom, acceptedFrom, ih, runEvents_cons,
        List.append_assoc]

theorem lastAccepted_concat (config : Config) (memory : LoopMemory)
    (es : List Event) (e : Event) (i : PortIndex) :
    lastAccepted config memory (es ++ [e]) i =
      (acceptedFrom i (start config memory) es ++
        (after config memory es).acceptedIn i e).getLast? :=
  congrArg List.getLast? (acceptedFrom_concat _ es e)

/-- The loop once an event has been handed to the machine of its port. -/
def handed (l : AnnounceLoop) (e : Event) : AnnounceLoop :=
  match e with
  | .timeout i ts => l.thenDo (runInformation i ts)
  | .announce i ts message => l.thenDo (recvAnnounce i ts message)
  | .select => l
  | .syncReceipt _ => l

theorem perPortGlobal_storeInformation_self (l : AnnounceLoop) (i : PortIndex)
    (m : PortAnnounceInformationMachine) :
    (l.storePortAnnounceInformation i m).perPortGlobal i =
      m.vars.perPortGlobal :=
  Function.update_self i _ _

theorem perPortGlobal_storeInformation_of_ne (l : AnnounceLoop)
    {j : PortIndex} (h : j ≠ i) (m : PortAnnounceInformationMachine) :
    (l.storePortAnnounceInformation i m).perPortGlobal j =
      l.perPortGlobal j :=
  Function.update_of_ne h _ _

theorem acceptedIn_of_ne {e : Event} (h : e.port ≠ some i) :
    l.acceptedIn i e = [] :=
  if_neg h

theorem acceptedIn_of_call {e : Event} (hport : e.port = some i)
    {m : PortAnnounceInformationMachine} {ts : UScaledNs}
    (hcall : l.informationCall e = some (m, ts)) :
    l.acceptedIn i e = m.accepted ts := by
  unfold acceptedIn
  rw [if_pos hport, hcall]

theorem informationCall_announce (hruns : l.Runs) {ts : UScaledNs}
    {message : PTPMsgAnnounce} {sm : PortAnnounceInformationSM}
    (hstore : (l.loadPortAnnounceInformation i).storeAnnounce message =
      .ok sm) :
    l.informationCall (.announce i ts message) =
      some ({ l.informationMachine i with vars := sm }, ts) := by
  have hstop : ¬ l.process.stop ≠ none := not_not.mpr hruns
  unfold informationCall
  rw [if_neg hstop]
  dsimp only
  rw [hstore]

theorem records_store {past : List PTPMsgAnnounce} {j : PortIndex}
    (h : Records past.getLast? (l.perPortGlobal j)) {e : Event}
    (hport : e.port = some i) {m : PortAnnounceInformationMachine}
    (hm : j = i -> Records (past ++ l.acceptedIn j e).getLast?
      m.vars.perPortGlobal) :
    Records (past ++ l.acceptedIn j e).getLast?
      ((l.storePortAnnounceInformation i m).perPortGlobal j) := by
  by_cases hji : j = i
  · have hrecords := hm hji
    subst hji
    rw [perPortGlobal_storeInformation_self]
    exact hrecords
  · have hother : e.port ≠ some j := by
      rw [hport]
      exact fun heq => hji (Option.some.inj heq).symm
    rw [perPortGlobal_storeInformation_of_ne l hji, acceptedIn_of_ne hother,
      List.append_nil]
    exact h

theorem records_handed {past : List PTPMsgAnnounce} {j : PortIndex} {e : Event}
    (hmode : ¬ l.External) (h : Records past.getLast? (l.perPortGlobal j))
    (hruns : (l.handed e).Runs) :
    Records (past ++ l.acceptedIn j e).getLast?
      ((l.handed e).perPortGlobal j) := by
  cases e with
  | timeout i ts =>
      obtain ⟨hl, hcall⟩ := runs_of_thenDo hruns
      change Records _ ((l.thenDo (runInformation i ts)).perPortGlobal j)
      rw [thenDo_runs hl]
      unfold AnnounceLoop.runInformation at hcall ⊢
      rw [if_neg hmode] at hcall ⊢
      refine records_store h rfl fun hji => ?_
      subst hji
      rw [acceptedIn_of_call rfl (informationCall_timeout hl j ts)]
      exact PortAnnounceInformationMachine.records_run
        (m := l.informationMachine j) h hcall
  | announce i ts message =>
      obtain ⟨hl, hcall⟩ := runs_of_thenDo hruns
      change Records _ ((l.thenDo (recvAnnounce i ts message)).perPortGlobal j)
      rw [thenDo_runs hl]
      unfold AnnounceLoop.recvAnnounce at hcall ⊢
      rw [if_neg hmode] at hcall ⊢
      refine records_store h rfl fun hji => ?_
      subst hji
      change (PortAnnounceInformationMachine.recvAnnounce
        (l.informationMachine j) ts message).vars.process.stop = none at hcall
      change Records _ (PortAnnounceInformationMachine.recvAnnounce
        (l.informationMachine j) ts message).vars.perPortGlobal
      unfold PortAnnounceInformationMachine.recvAnnounce at hcall ⊢
      cases hstore : (l.informationMachine j).vars.storeAnnounce message with
      | error f =>
          rw [hstore] at hcall
          cases hcall
      | ok sm =>
          rw [hstore] at hcall
          rw [acceptedIn_of_call rfl (informationCall_announce hl hstore)]
          exact PortAnnounceInformationMachine.records_run
            (PortAnnounceInformationMachine.records_store h hstore) hcall
  | select =>
      rw [acceptedIn_of_ne (by intro hport; cases hport), List.append_nil]
      exact h
  | syncReceipt time =>
      rw [acceptedIn_of_ne (by intro hport; cases hport), List.append_nil]
      exact h

theorem records_runSelection {K : Knowledge} (hinformed : Informed config K l)
    (hmode : ¬ l.External) (hruns : l.Runs) {latest : Option PTPMsgAnnounce}
    (h : Records latest (l.perPortGlobal i)) :
    Records latest (l.runSelection.perPortGlobal i) := by
  have henabled := hinformed.elected.configured.enabled hruns
  by_cases hasked : l.Asked
  · rw [runSelection_asked hinformed.elected.selection henabled hmode hasked,
      elect_perPortGlobal]
    unfold AnnounceLoop.tree
    rw [ports_updtStatesTree]
    exact h.congr rfl rfl
  · rw [runSelection_idle hinformed.elected.selection henabled hmode hasked]
    exact h

theorem hears_sourceKnowledge (thisClock : ClockIdentity) (e : Event) :
    e.Hears (sourceKnowledge thisClock).heard := by
  cases e <;> exact trivial

theorem records_step (hconfigmode :
      config.externalPortConfigurationEnabled = false)
    (hinformed : l.Runs -> Informed config
      (sourceKnowledge config.systemIdentity.clockIdentity) l)
    {past : List PTPMsgAnnounce} {e : Event}
    (h : Records past.getLast? (l.perPortGlobal i))
    (hruns : (step l e).Runs) :
    Records (past ++ l.acceptedIn i e).getLast?
      ((step l e).perPortGlobal i) := by
  have hl := runs_of_step hruns
  have hmode := (hinformed hl).not_external hconfigmode
  cases e with
  | timeout j ts =>
      have hcall : (l.handed (.timeout j ts)).Runs :=
        (runs_of_thenDo hruns).left
      change Records _
        ((thenDo (l.handed (.timeout j ts)) (runTransmit j ts)).perPortGlobal i)
      rw [thenDo_runs hcall, (runTransmit_vars _ j ts).right]
      exact records_handed hmode h hcall
  | announce j ts message =>
      have hcall : (l.handed (.announce j ts message)).Runs :=
        (runs_of_thenDo hruns).left
      have hselecting := informed_selecting hconfigmode hinformed
        (hears_sourceKnowledge _ (.announce j ts message)) hcall
      change Records _
        ((thenDo (l.handed (.announce j ts message))
          runSelection).perPortGlobal i)
      rw [thenDo_runs hcall]
      exact records_runSelection hselecting
        (hselecting.not_external hconfigmode) hcall
        (records_handed hmode h hcall)
  | select =>
      change Records _ ((thenDo l runSelection).perPortGlobal i)
      rw [thenDo_runs hl]
      exact records_runSelection (hinformed hl) hmode hl
        (records_handed (e := .select) hmode h hl)
  | syncReceipt time =>
      change Records _
        ((thenDo l (setSyncReceiptTimeoutTime time)).perPortGlobal i)
      rw [thenDo_runs hl]
      exact records_handed (e := .syncReceipt time) hmode h hl

/-- Nothing is known of received vectors, since none has been received. -/
def silentKnowledge (thisClock : ClockIdentity) : Knowledge where
  own p := p.sourcePortClockIdentity = thisClock
  foreign _ := False
  heard _ := False
  accept _ _ _ hheard _ _ := hheard

theorem not_received_start (hmode : config.externalPortConfigurationEnabled = false)
    (hruns : (start config memory).Runs) (i : PortIndex) :
    ((start config memory).perPortGlobal i).infoIs ≠ .received := by
  have hfirst : FirstElection config memory
      (silentKnowledge config.systemIdentity.clockIdentity) := fun _ => rfl
  have hinformed := informed_start hfirst hmode hruns
  intro hreceived
  rcases (hinformed.information i).sound with hinfo | hinfo | hknows
  · exact absurd (hinfo.symm.trans hreceived) (by decide)
  · exact absurd (hinfo.symm.trans hreceived) (by decide)
  · rcases hknows with ⟨hinfo, _⟩ | ⟨_, hforeign⟩
    · exact absurd (hinfo.symm.trans hreceived) (by decide)
    · exact hforeign

theorem informed_source (hmode : config.externalPortConfigurationEnabled = false)
    (es : List Event) (hruns : (after config memory es).Runs) :
    Informed config (sourceKnowledge config.systemIdentity.clockIdentity)
      (after config memory es) :=
  informed_after (electable_sourceKnowledge config.systemIdentity)
    (firstElection_sourceKnowledge config memory) hmode
    (fun e _ => hears_sourceKnowledge _ e) hruns

/-- In every run a port with received information has recorded its last message. -/
theorem records_after (hmode : config.externalPortConfigurationEnabled = false)
    (es : List Event) (i : PortIndex) (hruns : (after config memory es).Runs) :
    Records (lastAccepted config memory es i)
      ((after config memory es).perPortGlobal i) := by
  induction es using List.reverseRecOn with
  | nil =>
      have hafter : after config memory [] = start config memory :=
        runEvents_nil _ _
      rw [hafter] at hruns ⊢
      intro hreceived
      exact absurd hreceived (not_received_start hmode hruns i)
  | append_singleton es e ih =>
      have hafter : after config memory (es ++ [e]) =
          step (after config memory es) e :=
        runEvents_concat _ _ _ _
      rw [hafter] at hruns ⊢
      rw [lastAccepted_concat]
      exact records_step hmode (informed_source hmode es)
        (ih (runs_of_step hruns)) hruns

end AnnounceLoop

end TimeSync
end Ziggo
