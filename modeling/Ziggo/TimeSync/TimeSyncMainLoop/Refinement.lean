import Ziggo.TimeSync.TimeSyncMainLoop.Start

/-!
# The runs of the main loop

A run of the main loop is composed of a run of each group of machines in its own
loop.  A pass leads each group through events at the time that the pass has read,
and the other groups take part in it only by the variables that they set.
-/

namespace Ziggo
namespace TimeSync

open Foundation TsnDrivers

/-!
## Events of a pass
-/

/-- The event may happen in a pass of the main loop at the time `ts`. -/
def AnnounceLoop.Event.At (ts : UScaledNs) : AnnounceLoop.Event -> Prop
  | .timeout _ ts' => ts' = ts
  | .announce _ ts' message =>
      ts' = ts ∧ message.pathTraceTLV.lengthField.toNat ≤ 64
  | .select => True
  | .syncReceipt _ => True

def SyncLoop.Event.At (ts : UScaledNs) : SyncLoop.Event -> Prop
  | .sync _ ts' _ _ => ts' = ts
  | .followUp _ ts' _ => ts' = ts
  | .timeout _ ts' => ts' = ts
  | .clockMaster _ _ => False
  | .txts _ _ => True
  | .select _ _ => True
  | .delay _ _ => True
  | .announce _ => True

theorem SyncLoop.Event.At.not_fromClockMaster {ts : UScaledNs}
    {e : SyncLoop.Event} (h : e.At ts) : ¬ e.FromClockMaster := by
  cases e with
  | clockMaster => exact h.elim
  | _ => exact fun hmaster => hmaster

def ClockMasterLoop.Event.At (reading : ClockReading) :
    ClockMasterLoop.Event -> Prop
  | .tick reading' => reading' = reading
  | .sync e _ => e.At reading.timestamp

def MDPdelayReqMachine.Event.At (ts : UScaledNs) :
    MDPdelayReqMachine.Event -> Prop
  | .run ts' => ts' = ts
  | .txts ts' _ => ts' = ts
  | .recvResp ts' _ _ => ts' = ts
  | .recvRespFollowUp ts' _ => ts' = ts

/-!
## Variables that another group has set
-/

namespace ClockMasterLoop

variable {reading : ClockReading}

theorem reaches_sync (w : ClockMasterLoop) {e : SyncLoop.Event}
    (he : e.At reading.timestamp) (hrunning : w.syncLoop.stop = none) :
    Reaches step (Event.At reading) w
      (w.withSyncLoop (w.syncLoop.step e)) := by
  have hstep : w.withSyncLoop (w.syncLoop.step e) =
      w.step (.sync e he.not_fromClockMaster) :=
    (step_running hrunning (.sync e he.not_fromClockMaster)).symm
  rw [hstep]
  exact .event w he

theorem reaches_select (w : ClockMasterLoop) (hrunning : w.syncLoop.stop = none)
    (selectedState : Port -> PortState) (gmPresent : Bool) (time : UScaledNs) :
    Reaches step (Event.At reading) w
      (w.withSyncLoop (w.syncLoop.select selectedState gmPresent time)) := by
  have hselect := @reaches_sync reading w (.select selectedState gmPresent)
    trivial hrunning
  have hstate : w.syncLoop.step (.select selectedState gmPresent) =
      w.syncLoop.setSelectedState selectedState gmPresent :=
    SyncLoop.thenDo_running hrunning _
  rw [hstate] at hselect
  refine hselect.trans ?_
  have htime := @reaches_sync reading
    (w.withSyncLoop (w.syncLoop.setSelectedState selectedState gmPresent))
    (.announce time) trivial hrunning
  have hannounce : (w.syncLoop.setSelectedState selectedState gmPresent).step
      (.announce time) = w.syncLoop.select selectedState gmPresent time :=
    @SyncLoop.thenDo_running (w.syncLoop.setSelectedState selectedState gmPresent)
      hrunning _
  rw [← hannounce]
  exact htime

theorem reaches_delay (w : ClockMasterLoop) (hrunning : w.syncLoop.stop = none)
    (i : PortIndex) (delay : UScaledNs) :
    Reaches step (Event.At reading) w
      (w.withSyncLoop (w.syncLoop.setMeanLinkDelay i delay)) := by
  have hdelay := @reaches_sync reading w (.delay i delay) trivial hrunning
  have hstep : w.syncLoop.step (.delay i delay) =
      w.syncLoop.setMeanLinkDelay i delay :=
    SyncLoop.thenDo_running hrunning _
  rw [hstep] at hdelay
  exact hdelay

theorem reaches_delays (w : ClockMasterLoop) (hrunning : w.syncLoop.stop = none)
    (delays : PortIndex -> UScaledNs) (ports : List PortIndex)
    (e : Surroundings) :
    Reaches step (Event.At reading)
      (w.withSyncLoop (w.syncLoop.withSurroundings e))
      (w.withSyncLoop (w.syncLoop.withSurroundings
        { e with
          meanLinkDelay := fun i =>
            if i ∈ ports then delays i else e.meanLinkDelay i })) := by
  induction ports generalizing e with
  | nil => exact .refl _
  | cons i ports ih =>
      have hdelay := @reaches_delay reading
        (w.withSyncLoop (w.syncLoop.withSurroundings e)) hrunning i (delays i)
      have hset : (w.syncLoop.withSurroundings e).setMeanLinkDelay i (delays i) =
          w.syncLoop.withSurroundings
            { e with
              meanLinkDelay :=
                Function.update e.meanLinkDelay i (delays i) } :=
        SyncLoop.setMeanLinkDelay_withSurroundings e w.syncLoop i (delays i)
      change Reaches _ _ _ (w.withSyncLoop
        ((w.syncLoop.withSurroundings e).setMeanLinkDelay i (delays i))) at hdelay
      rw [hset] at hdelay
      have hsame : (fun j => if j ∈ i :: ports then delays j
            else e.meanLinkDelay j) =
          fun j => if j ∈ ports then delays j
            else Function.update e.meanLinkDelay i (delays i) j := by
        funext j
        by_cases hj : j = i
        · subst hj
          simp
        · simp [hj]
      rw [hsame]
      exact hdelay.trans (ih _)

/-- The other groups may set the variables one after the other. -/
theorem reaches_withSurroundings (w : ClockMasterLoop)
    (hrunning : w.syncLoop.stop = none) (e : Surroundings) :
    Reaches step (Event.At reading) w
      (w.withSyncLoop (w.syncLoop.withSurroundings e)) := by
  have hselect := @reaches_select reading w hrunning e.selectedState e.gmPresent
    e.syncReceiptTimeoutTime
  have hselected : w.syncLoop.select e.selectedState e.gmPresent
        e.syncReceiptTimeoutTime =
      w.syncLoop.withSurroundings
        { e with meanLinkDelay := w.syncLoop.surroundings.meanLinkDelay } := rfl
  have hall : (fun i => if i ∈ List.finRange nPorts then e.meanLinkDelay i
      else w.syncLoop.surroundings.meanLinkDelay i) = e.meanLinkDelay :=
    funext fun i => if_pos (List.mem_finRange i)
  have hdelays := @reaches_delays reading w hrunning e.meanLinkDelay
    (List.finRange nPorts)
    { e with meanLinkDelay := w.syncLoop.surroundings.meanLinkDelay }
  dsimp only at hdelays
  rw [hall] at hdelays
  rw [hselected] at hselect
  exact hselect.trans hdelays

end ClockMasterLoop

theorem AnnounceLoop.reaches_syncReceipt {ts : UScaledNs} (l : AnnounceLoop)
    (hrunning : l.process.stop = none) (time : UScaledNs) :
    Reaches step (Event.At ts) l (l.setSyncReceiptTimeoutTime time) := by
  have hstep : l.setSyncReceiptTimeoutTime time = l.step (.syncReceipt time) :=
    (thenDo_runs hrunning _).symm
  rw [hstep]
  exact .event l trivial

/-!
## Messages that have been received
-/

section Received

variable {allocated : Allocated} {receiver receiver' : Receiver}
  {received : Received}

theorem cases_of_received
    (h : recvPtpFrame allocated receiver = .ok (some received, receiver')) :
    (exists header payload,
      recvMsg received.returnType header allocated payload =
        .ok received.message) ∧
      (isEvent received.returnType = true -> received.ts.isSome = true) := by
  unfold recvPtpFrame at h
  split at h
  · cases h
  · unfold recvFrame at h
    dsimp only at h
    split at h
    · cases h
    · obtain ⟨message, hmessage, h⟩ := bind_eq_ok.mp h
      obtain ⟨⟨ts, rest⟩, hts, h⟩ := bind_eq_ok.mp h
      cases h
      refine ⟨⟨_, _, hmessage⟩, fun hevent => ?_⟩
      unfold recvTimestamp at hts
      change isEvent _ = true at hevent
      rw [if_pos hevent] at hts
      obtain ⟨_, _, hts⟩ := bind_eq_ok.mp hts
      cases hts
      rfl

theorem lengthField_of_received
    (h : recvPtpFrame allocated receiver = .ok (some received, receiver'))
    {message : PTPMsgAnnounce} (hmessage : received.message = .announce message) :
    message.pathTraceTLV.lengthField.toNat ≤ 64 := by
  obtain ⟨⟨header, payload, hcase⟩, _⟩ := cases_of_received h
  rw [hmessage] at hcase
  cases htype : received.returnType with
  | announce =>
      rw [htype] at hcase
      obtain ⟨announce, hannounce, hreturn⟩ := bind_eq_ok.mp hcase
      cases hreturn
      exact lengthField_of_recvAnnounce hannounce
  | _ =>
      rw [htype] at hcase
      cases hcase

end Received

namespace TimeSyncMainLoop

/-!
## Steps of the parts
-/

namespace Parts

/-- Each part continues by events of one pass. -/
structure Continues (inputs : Inputs) (c c' : Parts) : Prop where
  announceLoop : Reaches AnnounceLoop.step (AnnounceLoop.Event.At inputs.currentTs)
    c.announceLoop c'.announceLoop
  clockMasterLoop : Reaches ClockMasterLoop.step
    (ClockMasterLoop.Event.At inputs.reading) c.clockMasterLoop c'.clockMasterLoop
  mdPdelayReqSms : forall i, Reaches MDPdelayReqMachine.step
    (MDPdelayReqMachine.Event.At inputs.currentTs) (c.mdPdelayReqSms i)
    (c'.mdPdelayReqSms i)
  mdPdelayRespSms : forall i, Reaches MDPdelayRespMachine.step (fun _ => True)
    (c.mdPdelayRespSms i) (c'.mdPdelayRespSms i)

variable {inputs : Inputs} {c c' c'' : Parts}

theorem Continues.refl (c : Parts) : Continues inputs c c :=
  ⟨.refl _, .refl _, fun _ => .refl _, fun _ => .refl _⟩

theorem Continues.trans (h : Continues inputs c c')
    (h' : Continues inputs c' c'') : Continues inputs c c'' :=
  ⟨h.announceLoop.trans h'.announceLoop,
    h.clockMasterLoop.trans h'.clockMasterLoop,
    fun i => (h.mdPdelayReqSms i).trans (h'.mdPdelayReqSms i),
    fun i => (h.mdPdelayRespSms i).trans (h'.mdPdelayRespSms i)⟩

end Parts

open Parts

/-- The loop is composed of parts that continue from `c`. -/
def Tracks (config : Config) (inputs : Inputs) (c : Parts)
    (m : TimeSyncMainLoop) : Prop :=
  exists c', c.Continues inputs c' ∧ c'.Composes config m

/-- The parts follow a statement of a pass. -/
def Followed (config : Config) (inputs : Inputs)
    (statement : TimeSyncMainLoop -> TimeSyncMainLoop) : Prop :=
  forall c m, m.stop = none -> c.Composes config m ->
    Tracks config inputs c (statement m)

section Calls

variable {config : Config} {inputs : Inputs} {c : Parts} {m : TimeSyncMainLoop}

theorem Tracks.refl (h : c.Composes config m) : Tracks config inputs c m :=
  ⟨c, .refl c, h⟩

theorem Tracks.thenDo {statement : TimeSyncMainLoop -> TimeSyncMainLoop}
    (h : Tracks config inputs c m)
    (hstatement : Followed config inputs statement) :
    Tracks config inputs c (m.thenDo statement) := by
  obtain ⟨c', hcontinues, hcomposes⟩ := h
  unfold TimeSyncMainLoop.thenDo
  split
  · exact ⟨c', hcontinues, hcomposes⟩
  · rename_i hstop
    obtain ⟨c'', hcontinues', hcomposes'⟩ :=
      hstatement c' m (not_not.mp hstop) hcomposes
    exact ⟨c'', hcontinues.trans hcontinues', hcomposes'⟩

theorem Tracks.foldl {Index : Type}
    {statement : TimeSyncMainLoop -> Index -> TimeSyncMainLoop}
    (hstatement : forall i m, Tracks config inputs c m ->
      Tracks config inputs c (statement m i))
    (indices : List Index) (h : Tracks config inputs c m) :
    Tracks config inputs c (indices.foldl statement m) := by
  induction indices generalizing m with
  | nil => exact h
  | cons i indices ih => exact ih (hstatement i m h)

theorem followed_halt (f : Fault) : Followed config inputs (halt f) :=
  fun c _ _ h => ⟨c, .refl c, composes_halt h f⟩

theorem followed_announce {e : AnnounceLoop.Event} (he : e.At inputs.currentTs) :
    Followed config inputs (announce e) := by
  intro c m hstop h
  have hrunning := h.running hstop
  have hcall := composes_callAnnounce h
    (fun _ _ => AnnounceLoop.beside_step e)
    (fun _ hl => (AnnounceLoop.kept_configured config e).step hl)
  refine ⟨_, ?_, hcall⟩
  exact ⟨.event c.announceLoop he,
    c.clockMasterLoop.reaches_select hrunning.clockMasterLoop _ _ _,
    fun _ => .refl _, fun _ => .refl _⟩

theorem followed_sync {e : SyncLoop.Event} (he : e.At inputs.currentTs)
    (hcall : e.IsCall) : Followed config inputs (sync e) := by
  intro c m hstop h
  have hrunning := h.running hstop
  have hcomposes := composes_callClockMaster h
    (fun _ _ _ => ClockMasterLoop.beside_withSyncLoop (SyncLoop.beside_step e))
    (SyncLoop.environment_step m.loadSync hcall)
  refine ⟨_, ?_, hcomposes⟩
  exact ⟨c.announceLoop.reaches_syncReceipt hrunning.announceLoop _,
    c.clockMasterLoop.reaches_sync he hrunning.clockMasterLoop,
    fun _ => .refl _, fun _ => .refl _⟩

theorem followed_tick : Followed config inputs (tick inputs.reading) := by
  intro c m hstop h
  have hrunning := h.running hstop
  have hcomposes := composes_callClockMaster h
    (fun _ _ _ => ClockMasterLoop.beside_step (.tick inputs.reading))
    (ClockMasterLoop.environment_tick m.loadClockMaster inputs.reading)
  refine ⟨_, ?_, hcomposes⟩
  exact ⟨c.announceLoop.reaches_syncReceipt hrunning.announceLoop _,
    .event c.clockMasterLoop rfl, fun _ => .refl _, fun _ => .refl _⟩

theorem followed_pdelayReq {e : MDPdelayReqMachine.Event}
    (he : e.At inputs.currentTs) (i : PortIndex) :
    Followed config inputs (pdelayReq i e) := by
  intro c m hstop h
  have hrunning := h.running hstop
  have hcomposes := composes_callPdelayReq h (i := i)
    (fun _ _ _ _ _ hsm => MDPdelayReqMachine.beside_step hsm e)
    (fun sm => MDPdelayReqMachine.rest_step sm e)
  refine ⟨_, ?_, hcomposes⟩
  refine ⟨.refl _, c.clockMasterLoop.reaches_delay hrunning.clockMasterLoop i _,
    fun j => ?_, fun _ => .refl _⟩
  by_cases hj : j = i
  · subst hj
    have hself := Function.update_self j ((c.mdPdelayReqSms j).step e)
      c.mdPdelayReqSms
    change Reaches _ _ _ (Function.update c.mdPdelayReqSms j _ j)
    rw [hself]
    exact .event _ he
  · have hother := Function.update_of_ne hj ((c.mdPdelayReqSms i).step e)
      c.mdPdelayReqSms
    change Reaches _ _ _ (Function.update c.mdPdelayReqSms i _ j)
    rw [hother]
    exact .refl _

theorem followed_pdelayResp (e : MDPdelayRespMachine.Event) (i : PortIndex) :
    Followed config inputs (pdelayResp i e) := by
  intro c m hstop h
  have hcomposes := composes_callPdelayResp h (i := i)
    (fun _ _ _ _ hsm => MDPdelayRespMachine.beside_step hsm e)
    (fun sm => MDPdelayRespMachine.globals_step sm e)
  refine ⟨_, ?_, hcomposes⟩
  refine ⟨.refl _, .refl _, fun _ => .refl _, fun j => ?_⟩
  by_cases hj : j = i
  · subst hj
    have hself := Function.update_self j ((c.mdPdelayRespSms j).step e)
      c.mdPdelayRespSms
    change Reaches _ _ _ (Function.update c.mdPdelayRespSms j _ j)
    rw [hself]
    exact .event _ trivial
  · have hother := Function.update_of_ne hj ((c.mdPdelayRespSms i).step e)
      c.mdPdelayRespSms
    change Reaches _ _ _ (Function.update c.mdPdelayRespSms i _ j)
    rw [hother]
    exact .refl _

end Calls

/-!
## Passes
-/

section Passes

variable {config : Config} {inputs : Inputs} {c : Parts} {m : TimeSyncMainLoop}

theorem followed_arrive : Followed config inputs (arrive inputs) :=
  fun c _ _ h => ⟨c, .refl c, composes_receiver h _⟩

theorem tracks_checkTimeouts (i : PortIndex) (h : Tracks config inputs c m) :
    Tracks config inputs c (checkTimeouts inputs.currentTs m i) :=
  ((h.thenDo (followed_pdelayReq (e := .run inputs.currentTs) rfl i)).thenDo
    (followed_sync (e := .timeout i inputs.currentTs) rfl trivial)).thenDo
      (followed_announce (e := .timeout i inputs.currentTs) rfl)

theorem followed_handleMessage {external : Bool} {received : Received}
    {receiver receiver' : Receiver} {allocated : Allocated}
    (hreceived : recvPtpFrame allocated receiver = .ok (some received, receiver'))
    (i : PortIndex) :
    Followed config inputs
      (handleMessage inputs.currentTs i
        (dispatchMsg external received.ts received.message)) := by
  intro c m hstop h
  cases hmessage : received.message with
  | pdelayReq message =>
      cases received.ts with
      | none => exact followed_halt _ c m hstop h
      | some tsuTs => exact followed_pdelayResp _ i c m hstop h
  | pdelayResp message =>
      cases received.ts with
      | none => exact followed_halt _ c m hstop h
      | some tsuTs =>
          exact followed_pdelayReq (e := .recvResp inputs.currentTs tsuTs message)
            rfl i c m hstop h
  | pdelayRespFollowUp message =>
      exact followed_pdelayReq (e := .recvRespFollowUp inputs.currentTs message)
        rfl i c m hstop h
  | sync message =>
      cases received.ts with
      | none => exact followed_halt _ c m hstop h
      | some tsuTs =>
          exact followed_sync (e := .sync i inputs.currentTs tsuTs message) rfl
            trivial c m hstop h
  | followUp message =>
      exact followed_sync (e := .followUp i inputs.currentTs message) rfl trivial
        c m hstop h
  | announce message =>
      have hlength := lengthField_of_received hreceived hmessage
      have hcall := @followed_announce config inputs
        (.announce i inputs.currentTs message) ⟨rfl, hlength⟩ c m hstop h
      cases external with
      | false => exact hcall
      | true => exact hcall

theorem followed_switchReceived {received : Received}
    {receiver receiver' : Receiver} {allocated : Allocated}
    (hreceived : recvPtpFrame allocated receiver =
      .ok (some received, receiver')) :
    Followed config inputs (switchReceived inputs.currentTs received) := by
  intro c m hstop h
  unfold switchReceived
  split
  · exact followed_halt _ c m hstop h
  · exact .refl h
  · rename_i i call hdispatch
    obtain ⟨j, _, hcall⟩ := bind_eq_ok.mp hdispatch
    cases hcall
    exact followed_handleMessage hreceived i c m hstop h

theorem followed_printPdelayReq : Followed config inputs printPdelayReq := by
  intro c m hstop h
  unfold printPdelayReq
  split
  · exact followed_halt _ c m hstop h
  · exact .refl h

theorem followed_receive :
    Followed config inputs (receive inputs.currentTs inputs.allocated) := by
  intro c m hstop h
  unfold receive
  split
  · exact followed_halt _ c m hstop h
  · rename_i result receiver hreceived
    have hreceiver := composes_receiver h receiver
    cases result with
    | none => exact .refl hreceiver
    | some received =>
        exact Tracks.thenDo
          (followed_printPdelayReq c { m with receiver := receiver } hstop
            hreceiver) (followed_switchReceived hreceived)

theorem followed_handleTxTimestamp (i : PortIndex) (tsuTs : TSUTimestamp) :
    Followed config inputs (handleTxTimestamp inputs.currentTs i tsuTs) := by
  intro c m hstop h
  unfold handleTxTimestamp
  split
  · exact followed_pdelayReq (e := .txts inputs.currentTs tsuTs) rfl i c m hstop h
  · split
    · exact followed_pdelayResp _ i c m hstop h
    · split
      · exact followed_sync (e := .txts i tsuTs) trivial trivial c m hstop h
      · exact .refl h

theorem tracks_checkTxTimestamp (i : PortIndex) (h : Tracks config inputs c m) :
    Tracks config inputs c (checkTxTimestamp inputs m i) := by
  unfold checkTxTimestamp
  split
  · exact h
  · exact h.thenDo (followed_handleTxTimestamp i _)

theorem tracks_pass (h : c.Composes config m) :
    Tracks config inputs c (m.pass inputs) := by
  have harrived : Tracks config inputs c (m.thenDo (arrive inputs)) :=
    (Tracks.refl h).thenDo followed_arrive
  have hclock := harrived.thenDo followed_tick
  have htimeouts := hclock.foldl (fun i _ h => tracks_checkTimeouts i h)
    (List.finRange nPorts)
  have hselected := (htimeouts.thenDo followed_receive).thenDo
    (followed_announce (e := .select) trivial)
  exact hselected.foldl (fun i _ h => tracks_checkTxTimestamp i h)
    (List.finRange nPorts)

end Passes

/-!
## Runs
-/

section Runs

variable (config : Config) (memory : MainLoopMemory)

/-- Each part is in a state of a run of its own, one segment for each pass. -/
structure Parts.FollowsRuns (passes : List Inputs) (c : Parts) : Prop where
  announceLoop : Follows AnnounceLoop.step
    (fun inputs : Inputs => AnnounceLoop.Event.At inputs.currentTs)
    (Parts.start config memory).announceLoop passes c.announceLoop
  /-- Before the first pass the other groups set a few variables. -/
  clockMasterLoop : exists w,
    (forall reading, Reaches ClockMasterLoop.step
      (ClockMasterLoop.Event.At reading)
      (Parts.start config memory).clockMasterLoop w) ∧
      Follows ClockMasterLoop.step
        (fun inputs : Inputs => ClockMasterLoop.Event.At inputs.reading) w passes
        c.clockMasterLoop
  mdPdelayReqSms : forall i, Follows MDPdelayReqMachine.step
    (fun inputs : Inputs => MDPdelayReqMachine.Event.At inputs.currentTs)
    ((Parts.start config memory).mdPdelayReqSms i) passes (c.mdPdelayReqSms i)
  mdPdelayRespSms : forall i, Follows MDPdelayRespMachine.step
    (fun _ _ => True) ((Parts.start config memory).mdPdelayRespSms i) passes
    (c.mdPdelayRespSms i)

variable {config memory} {passes : List Inputs} {c c' : Parts}

theorem Parts.FollowsRuns.concat (h : c.FollowsRuns config memory passes)
    {inputs : Inputs} (hcontinues : c.Continues inputs c') :
    c'.FollowsRuns config memory (passes ++ [inputs]) := by
  obtain ⟨w, hstart, hfollows⟩ := h.clockMasterLoop
  exact ⟨h.announceLoop.concat hcontinues.announceLoop,
    ⟨w, hstart, hfollows.concat hcontinues.clockMasterLoop⟩,
    fun i => (h.mdPdelayReqSms i).concat (hcontinues.mdPdelayReqSms i),
    fun i => (h.mdPdelayRespSms i).concat (hcontinues.mdPdelayRespSms i)⟩

theorem Parts.followsRuns_nil {statement : SyncLoop -> SyncLoop}
    (h : forall reading, Reaches ClockMasterLoop.step
      (ClockMasterLoop.Event.At reading)
      (Parts.start config memory).clockMasterLoop
      ((Parts.start config memory).withSync statement).clockMasterLoop) :
    ((Parts.start config memory).withSync statement).FollowsRuns config memory
      [] :=
  ⟨.start _, ⟨_, h, .start _⟩, fun _ => .start _, fun _ => .start _⟩

variable (config memory) in
theorem followsRuns_start :
    exists c, Parts.FollowsRuns config memory [] c ∧
      c.Composes config (start config memory) := by
  have hbegins := begins_start config memory
  obtain ⟨e, hcomposes⟩ := hbegins.composes
  have hreaches := fun reading => @ClockMasterLoop.reaches_withSurroundings
    reading (Parts.start config memory).clockMasterLoop hbegins.syncLoop.running e
  exact ⟨_, Parts.followsRuns_nil hreaches, hcomposes⟩

/-- A run of the main loop is composed of runs of its parts. -/
theorem after_composed (config : Config) (memory : MainLoopMemory)
    (passes : List Inputs) :
    exists c, Parts.FollowsRuns config memory passes c ∧
      c.Composes config (after config memory passes) := by
  unfold after
  induction passes using List.reverseRecOn with
  | nil =>
      rw [runEvents_nil]
      exact followsRuns_start config memory
  | append_singleton passes inputs ih =>
      obtain ⟨c, hfollows, hcomposes⟩ := ih
      obtain ⟨c', hcontinues, hcomposes'⟩ := @tracks_pass config inputs c _
        hcomposes
      rw [runEvents_concat]
      exact ⟨c', hfollows.concat hcontinues, hcomposes'⟩

end Runs

end TimeSyncMainLoop

end TimeSync
end Ziggo
