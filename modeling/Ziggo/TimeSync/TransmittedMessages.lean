import Ziggo.TimeSync.AnnounceLoop.Transmission
import Ziggo.TimeSync.MDPdelayReqSM.Transmission
import Ziggo.TimeSync.MDPdelayRespSM.Transmission
import Ziggo.TimeSync.SyncLoop.Transmission

/-!
# All messages of an instance

The messages that the machines of one instance send, of any kind and on any
port: which source they name, and how they are numbered.
-/

namespace Ziggo
namespace TimeSync

open Foundation TsnDrivers

/-- What the machines of an instance start on, and what happens to them. -/
structure InstanceRun where
  loopMemory : LoopMemory
  loopEvents : List AnnounceLoop.Event
  syncMemory : SyncMemory
  syncEvents : List SyncLoop.Event
  pdelayReqMemory : PortIndex -> MDPdelayReqSM
  pdelayReqEvents : PortIndex -> List MDPdelayReqMachine.Event
  pdelayRespMemory : PortIndex -> MDPdelayRespSM
  pdelayRespEvents : PortIndex -> List MDPdelayRespMachine.Event

instance : Inhabited InstanceRun where
  default :=
    { loopMemory := default
      loopEvents := []
      syncMemory := default
      syncEvents := []
      pdelayReqMemory := fun _ => default
      pdelayReqEvents := fun _ => []
      pdelayRespMemory := fun _ => default
      pdelayRespEvents := fun _ => [] }

namespace InstanceRun

/-- What has been sent by the machine that sends a kind of messages on a port. -/
def sent (config : Config) (r : InstanceRun) (kind : PTPMsgType)
    (i : PortIndex) : List Frame :=
  match kind with
  | .announce =>
      (AnnounceLoop.after config r.loopMemory r.loopEvents).process.sent
  | .sync | .followUp =>
      ((SyncLoop.after config r.syncMemory r.syncEvents).mdSyncSendSms
        i).vars.process.sent
  | .pdelayReq =>
      (MDPdelayReqMachine.after config i (r.pdelayReqMemory i)
        (r.pdelayReqEvents i)).vars.process.sent
  | .pdelayResp | .pdelayRespFollowUp =>
      (MDPdelayRespMachine.after config i (r.pdelayRespMemory i)
        (r.pdelayRespEvents i)).vars.process.sent

def Transmits (config : Config) (r : InstanceRun) (frame : Frame) : Prop :=
  exists kind i, frame ∈ r.sent config kind i

end InstanceRun

/-!
## Sources
-/

/-- The message is a `Pdelay_Resp` or a `Pdelay_Resp_Follow_Up`. -/
def Frame.IsPdelayAnswer (frame : Frame) : Prop :=
  frame.message.kind = .pdelayResp ∨ frame.message.kind = .pdelayRespFollowUp

instance (frame : Frame) : Decidable frame.IsPdelayAnswer :=
  inferInstanceAs (Decidable (_ ∨ _))

/-- The clock that a message of an instance names as its source. -/
def Frame.clockIdentity (frame : Frame) (thisClock : ClockIdentity) :
    ClockIdentity :=
  if frame.IsPdelayAnswer then defaultClockIdentity else thisClock

section Sources

variable {config otherConfig : Config} {r otherRun : InstanceRun}
  {frame other : Frame}

theorem Frame.Names.clockIdentity_eq {a b : ClockIdentity}
    (ha : frame.Names a) (hb : frame.Names b) : a = b :=
  congrArg PortIdentity.clockIdentity (ha.symm.trans hb)

theorem portNumberOf_injective : Function.Injective portNumberOf := by
  decide

/-- Messages name the same source if they name the same clock and port. -/
theorem Frame.Names.source_eq_iff {a b : ClockIdentity} (ha : frame.Names a)
    (hb : other.Names b) :
    frame.message.head.sourcePortIdentity =
        other.message.head.sourcePortIdentity <->
      frame.port = other.port ∧ a = b := by
  unfold Names at ha hb
  rw [ha, hb, PortIdentity.mk.injEq, and_comm]
  exact and_congr_left fun _ => portNumberOf_injective.eq_iff

theorem Frame.names_of_kind {thisClock : ClockIdentity} {kinds : List PTPMsgType}
    (h : frame.Names thisClock) (hkind : frame.message.kind ∈ kinds)
    (hresp : .pdelayResp ∉ kinds) (hfollowUp : .pdelayRespFollowUp ∉ kinds) :
    frame.Names (frame.clockIdentity thisClock) := by
  unfold clockIdentity
  rw [if_neg]
  · exact h
  · rintro (heq | heq)
    · exact hresp (heq ▸ hkind)
    · exact hfollowUp (heq ▸ hkind)

/-- The source of every message: answers name the default clock. -/
theorem InstanceRun.Transmits.names (h : r.Transmits config frame) :
    frame.Names (frame.clockIdentity config.systemIdentity.clockIdentity) := by
  obtain ⟨kind, i, hmem⟩ := h
  have hsync : frame ∈ ((SyncLoop.after config r.syncMemory
        r.syncEvents).mdSyncSendSms i).vars.process.sent ->
      frame.Names
        (frame.clockIdentity config.systemIdentity.clockIdentity) := by
    intro hmem
    have hsends := (SyncLoop.sending_after config r.syncMemory
      r.syncEvents).right i
    obtain ⟨_, hnames, hkind⟩ := hsends.transmits.source frame hmem
    exact Frame.names_of_kind hnames hkind (by decide) (by decide)
  have hresp : frame ∈ (MDPdelayRespMachine.after config i
        (r.pdelayRespMemory i) (r.pdelayRespEvents i)).vars.process.sent ->
      frame.Names
        (frame.clockIdentity config.systemIdentity.clockIdentity) := by
    intro hmem
    have hreplies := MDPdelayRespMachine.replies_after config i
      (r.pdelayRespMemory i) (r.pdelayRespEvents i)
    obtain ⟨_, hnames, hkind⟩ := hreplies.source frame hmem
    unfold Frame.clockIdentity
    rw [if_pos]
    · exact hnames
    · simpa [Frame.IsPdelayAnswer] using hkind
  cases kind with
  | announce =>
      have hannouncing := AnnounceLoop.announcing_after config r.loopMemory
        r.loopEvents
      obtain ⟨hnames, hkind⟩ := hannouncing.names frame hmem
      exact Frame.names_of_kind hnames (List.mem_singleton.mpr hkind)
        (by decide) (by decide)
  | sync | followUp => exact hsync hmem
  | pdelayReq =>
      have hnamed := @MDPdelayReqMachine.named_after config i
        (r.pdelayReqMemory i) (r.pdelayReqEvents i)
      obtain ⟨_, hnames, hkind⟩ := hnamed.source frame hmem
      exact Frame.names_of_kind hnames hkind (by decide) (by decide)
  | pdelayResp | pdelayRespFollowUp => exact hresp hmem

theorem clockIdentity_eq_iff {a b : ClockIdentity} (hne : a ≠ b) :
    frame.clockIdentity a = other.clockIdentity b <->
      (frame.IsPdelayAnswer ∧
          (other.IsPdelayAnswer ∨ b = defaultClockIdentity)) ∨
        (other.IsPdelayAnswer ∧ a = defaultClockIdentity) := by
  unfold Frame.clockIdentity
  by_cases hframe : frame.IsPdelayAnswer
  · by_cases hother : other.IsPdelayAnswer
    · simp [hframe, hother]
    · simp [hframe, hother, eq_comm]
  · by_cases hother : other.IsPdelayAnswer
    · simp [hframe, hother]
    · simp [hframe, hother, hne]

/--
A message names the instance and the port it leaves by, unless it answers a
`Pdelay_Req`.  Two instances name the same source only with such an answer.
-/
theorem names_thisClock_iff (h : r.Transmits config frame) :
    (frame.Names config.systemIdentity.clockIdentity <->
      (frame.IsPdelayAnswer ->
        config.systemIdentity.clockIdentity = defaultClockIdentity)) ∧
      forall otherConfig otherRun other,
        InstanceRun.Transmits otherConfig otherRun other ->
        config.systemIdentity.clockIdentity ≠
          otherConfig.systemIdentity.clockIdentity ->
        (frame.message.head.sourcePortIdentity =
            other.message.head.sourcePortIdentity <->
          frame.port = other.port ∧
            ((frame.IsPdelayAnswer ∧ (other.IsPdelayAnswer ∨
                otherConfig.systemIdentity.clockIdentity =
                  defaultClockIdentity)) ∨
              (other.IsPdelayAnswer ∧
                config.systemIdentity.clockIdentity =
                  defaultClockIdentity))) := by
  constructor
  · have hnames := h.names
    unfold Frame.clockIdentity at hnames
    by_cases hanswer : frame.IsPdelayAnswer
    · rw [if_pos hanswer] at hnames
      constructor
      · exact fun hown _ => hown.clockIdentity_eq hnames
      · intro hdefault
        rw [hdefault hanswer]
        exact hnames
    · rw [if_neg hanswer] at hnames
      exact iff_of_true hnames fun hyes => absurd hyes hanswer
  · intro otherConfig otherRun other hother hne
    rw [h.names.source_eq_iff hother.names, clockIdentity_eq_iff hne]

end Sources

/-- A clock all of whose octets are the given one. -/
def clockOf (octet : UInt8) : Config where
  systemIdentity :=
    { (default : SystemIdentity) with clockIdentity := fun _ => octet }
  ptpPorts := fun p => if p = 0 then .slavePort else .masterPort
  externalPortConfigurationEnabled := true

/-- A peer asks for the delay of the link of port 1. -/
def askedRun : InstanceRun :=
  { (default : InstanceRun) with
    pdelayRespEvents := fun _ => [.recvReq default default] }

/-- What port 1 of a clock sends first as an answer. -/
def askedAnswer (octet : UInt8) : Frame :=
  match askedRun.sent (clockOf octet) .pdelayResp 0 with
  | frame :: _ => frame
  | [] => { port := 0, message := .pdelayResp default }

theorem transmits_askedAnswer_one :
    askedRun.Transmits (clockOf 1) (askedAnswer 1) :=
  ⟨.pdelayResp, 0, by decide +kernel⟩

theorem transmits_askedAnswer_two :
    askedRun.Transmits (clockOf 2) (askedAnswer 2) :=
  ⟨.pdelayResp, 0, by decide +kernel⟩

/-- The answers of two clocks name the same source. -/
theorem answers_name_one_source :
    ¬ (askedAnswer 1).Names (clockOf 1).systemIdentity.clockIdentity ∧
      (askedAnswer 1).message.head.sourcePortIdentity =
        (askedAnswer 2).message.head.sourcePortIdentity := by
  have hanswer : (askedAnswer 1).IsPdelayAnswer := by decide +kernel
  have hother : (askedAnswer 2).IsPdelayAnswer := by decide +kernel
  obtain ⟨hnames, hsources⟩ := names_thisClock_iff transmits_askedAnswer_one
  constructor
  · intro hown
    exact absurd (hnames.mp hown hanswer) (by decide)
  · exact (hsources (clockOf 2) askedRun (askedAnswer 2)
      transmits_askedAnswer_two (by decide)).mpr
        ⟨by decide +kernel, Or.inl ⟨hanswer, Or.inl hother⟩⟩

/-- An answer names the default clock, whatever clock gives it. -/
theorem answer_names_other_clock :
    ¬ forall (config : Config) (r : InstanceRun) (frame : Frame),
      r.Transmits config frame ->
      frame.Names config.systemIdentity.clockIdentity := by
  intro h
  have hnames := h (clockOf 1) askedRun (askedAnswer 1)
    transmits_askedAnswer_one
  exact absurd hnames (by decide +kernel)

/-!
## Sequence numbers
-/

/-- The kinds of messages that a port numbers itself. -/
def IsNumbered (kind : PTPMsgType) : Prop :=
  kind = .announce ∨ kind = .sync ∨ kind = .pdelayReq

/--
On an enabled port, the numbers of two consecutive messages of a kind differ by
one if and only if the messages are not `Announce` messages.
-/
theorem consecutive_ids_iff {config : Config} {i : PortIndex}
    (henabled : config.ptpPorts i.succ ≠ .disabledPort) (r : InstanceRun)
    {kind : PTPMsgType} (hkind : IsNumbered kind) {a b : UInt16}
    (hab : [a, b] <:+: sequenceIds kind i.succ (r.sent config kind i)) :
    b = a + 1 <-> kind ≠ .announce := by
  rcases hkind with rfl | rfl | rfl
  · have hrepeated := AnnounceLoop.repeated_after config r.loopMemory
      r.loopEvents i
    have ha := hrepeated a (hab.subset (by simp))
    have hb := hrepeated b (hab.subset (by simp))
    refine iff_of_false (fun hnext => ?_) (fun hne => hne rfl)
    rw [ha, hb] at hnext
    exact absurd hnext (by simp)
  · have hsends := (SyncLoop.sending_after config r.syncMemory
      r.syncEvents).right i
    refine iff_of_true ?_ (by decide)
    exact hsends.transmits.consecutive.adjacent hab
  · have hissues := @MDPdelayReqMachine.issues_after config i
      (r.pdelayReqMemory i) henabled (r.pdelayReqEvents i)
    refine iff_of_true ?_ (by decide)
    exact hissues.numbered.adjacent hab

def secondsOf (n : UInt64) : UScaledNs where
  subns := 0
  nsec := n * oneSecNs
  nsecMsb := 0

/--
Port 1 is checked for timeouts every two seconds, and its first request is not
answered.
-/
def announcingRun : InstanceRun :=
  { (default : InstanceRun) with
    loopEvents :=
      [.timeout 0 (secondsOf 2), .timeout 0 (secondsOf 4),
        .timeout 0 (secondsOf 6)]
    pdelayReqEvents := fun _ =>
      [.txts default default, .run (secondsOf 2)] }

theorem announced_twice :
    [0, 0] <:+: sequenceIds .announce (0 : PortIndex).succ
      (announcingRun.sent (clockOf 1) .announce 0) := by
  decide +kernel

theorem announced_twice_iff :
    ((0 : UInt16) = 0 + 1 <-> PTPMsgType.announce ≠ .announce) ∧
      ((1 : UInt16) = 0 + 1 <-> PTPMsgType.pdelayReq ≠ .announce) := by
  have hrequests : [0, 1] <:+: sequenceIds .pdelayReq (0 : PortIndex).succ
      (announcingRun.sent (clockOf 1) .pdelayReq 0) := by
    decide +kernel
  exact ⟨@consecutive_ids_iff (clockOf 1) 0 (by decide) announcingRun .announce
      (Or.inl rfl) 0 0 announced_twice,
    @consecutive_ids_iff (clockOf 1) 0 (by decide) announcingRun .pdelayReq
      (Or.inr (Or.inr rfl)) 0 1 hrequests⟩

/-- Two messages of a port carry the same number. -/
theorem announces_not_numbered :
    ¬ forall (config : Config) (i : PortIndex) (r : InstanceRun)
        (kind : PTPMsgType) (a b : UInt16),
      config.ptpPorts i.succ ≠ .disabledPort -> IsNumbered kind ->
      [a, b] <:+: sequenceIds kind i.succ (r.sent config kind i) ->
      b = a + 1 := by
  intro h
  have hnext := h (clockOf 1) 0 announcingRun .announce 0 0 (by decide)
    (Or.inl rfl) announced_twice
  exact absurd hnext (by decide)

end TimeSync
end Ziggo
