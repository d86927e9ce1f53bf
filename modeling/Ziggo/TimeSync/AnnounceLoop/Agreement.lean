import Ziggo.Foundation.Network
import Ziggo.TimeSync.AnnounceLoop.Outcome
import Ziggo.TimeSync.EthFrame.RoundTrip

/-!
# Agreement of two clocks

Two instances in BMCA mode hear nothing but each other.  The messages between
them may be late, lost, repeated or out of order.  The one with the better
identity remains its own grandmaster, and the other one follows nobody else.
-/

namespace Ziggo
namespace TimeSync

open Foundation TsnDrivers

/-- The octets of the message are read as the given one. -/
def Arrives (sent received : PTPMsgAnnounce) : Prop :=
  exists payload rest allocated, txAnnounce sent = .ok payload ∧
    recvAnnounce sent.head allocated (payload ++ rest) = .ok received

theorem Arrives.information {sent received : PTPMsgAnnounce}
    (h : Arrives sent received) :
    received.systemIdentity = sent.systemIdentity ∧
      received.stepsRemoved = sent.stepsRemoved := by
  obtain ⟨payload, rest, allocated, hsent, hreceived⟩ := h
  obtain ⟨path, hrecv, _⟩ := recvAnnounce_txAnnounce rest hsent allocated
  cases hreceived.symm.trans hrecv
  exact ⟨rfl, rfl⟩

/-!
## What the clocks know of each other
-/

/-- What the better clock says: that it is the grandmaster. -/
def SaysItself (better : SystemIdentity) (announce : PTPMsgAnnounce) : Prop :=
  announce.systemIdentity = better ∧ announce.stepsRemoved = 0

/-- What the other clock says: that it is one hop away, or is one itself. -/
def SaysEither (better worse : SystemIdentity) (announce : PTPMsgAnnounce) :
    Prop :=
  announce.systemIdentity = worse ∨
    (announce.systemIdentity = better ∧ announce.stepsRemoved = 1)

/-- The better clock accepts nothing that the other one says. -/
def betterKnowledge {better worse : SystemIdentity}
    (h : Superior (systemPriorityOf better) (systemPriorityOf worse))
    (hne : better ≠ worse) : Knowledge where
  own p := p.sourcePortClockIdentity = better.clockIdentity ∧
    p.rootSystemIdentity = better ∧ p.stepsRemoved = 0
  foreign _ := False
  heard := SaysEither better worse
  accept announce old held hheard hheld hsuperior := by
    obtain ⟨_, hroot, hsteps⟩ := hheld.resolve_right id
    rcases hheard with hworse | ⟨hbetter, hone⟩
    · have hback : Superior held
          (PortAnnounceInformationSM.messagePriorityOf old announce) :=
        superior_of_roots h hne hroot hworse
      exact irrefl_of Superior _ (trans_of Superior hback hsuperior)
    · have hzero := hsuperior.notWorse.steps (hbetter.trans hroot.symm) hsteps
      exact absurd (hone.symm.trans hzero) (by decide)

/-- The other clock accepts the better one. -/
def worseKnowledge (better worse : SystemIdentity) : Knowledge where
  own p := p.sourcePortClockIdentity = worse.clockIdentity ∧
    ((p.rootSystemIdentity = worse ∧ p.stepsRemoved = 0) ∨
      (p.rootSystemIdentity = better ∧ p.stepsRemoved = 1))
  foreign p := p.rootSystemIdentity = better ∧ p.stepsRemoved = 0
  heard := SaysItself better
  accept _ _ _ hheard _ _ := hheard

section Instances

variable {better worse : Config}

theorem settled_better (hmode : better.externalPortConfigurationEnabled = false)
    (hordinary : better.Ordinary)
    (h : Superior (systemPriorityOf better.systemIdentity)
      (systemPriorityOf worse.systemIdentity))
    (hne : better.systemIdentity ≠ worse.systemIdentity) :
    AnnounceLoop.Settled better (betterKnowledge h hne)
      (SaysItself better.systemIdentity) where
  mode := hmode
  ordinary := hordinary
  electable :=
    { source := fun _ hown => hown.left
      system := fun _ => ⟨rfl, rfl, rfl⟩
      received := fun _ _ hforeign => hforeign.elim }
  apart _ hforeign := hforeign.elim
  tells _ _ hown hidentity hsteps :=
    ⟨hidentity.trans hown.right.left, hsteps.trans hown.right.right⟩

theorem settled_worse (hmode : worse.externalPortConfigurationEnabled = false)
    (hordinary : worse.Ordinary)
    (hne : better.systemIdentity ≠ worse.systemIdentity) :
    AnnounceLoop.Settled worse
      (worseKnowledge better.systemIdentity worse.systemIdentity)
      (SaysEither better.systemIdentity worse.systemIdentity) where
  mode := hmode
  ordinary := hordinary
  electable :=
    { source := fun _ hown => hown.left
      system := fun _ => ⟨rfl, Or.inl ⟨rfl, rfl⟩⟩
      received := fun p _ hforeign _ _ =>
        ⟨rfl, Or.inr ⟨hforeign.left,
          congrArg (fun steps => steps + 1) hforeign.right⟩⟩ }
  apart _ hforeign heq := hne (hforeign.left.symm.trans heq)
  tells _ _ hown hidentity hsteps := by
    obtain ⟨_, ⟨hworse, _⟩ | ⟨hbetter, hone⟩⟩ := hown
    · exact Or.inl (hidentity.trans hworse)
    · exact Or.inr ⟨hidentity.trans hbetter, hsteps.trans hone⟩

end Instances

/-!
## Two linked clocks
-/

/-- The better clock `a` and the other clock `b`. -/
inductive Party where
  | a
  | b
deriving DecidableEq

/-- Two instances, and the port of each that leads to the other one. -/
structure LinkedClocks where
  config : Party -> Config
  memory : Party -> LoopMemory
  port : Party -> PortIndex

namespace LinkedClocks

open AnnounceLoop

def start (s : LinkedClocks) (p : Party) : AnnounceLoop :=
  AnnounceLoop.start (s.config p) (s.memory p)

/-- The link takes the messages that leave by one of its ports to the other. -/
def network (s : LinkedClocks) :
    Network Party AnnounceLoop AnnounceLoop.Event Frame where
  step := AnnounceLoop.step
  sends l frame := frame ∈ l.process.sent
  receives e frame :=
    match e with
    | .announce i _ announce =>
        frame = { port := i.succ, message := .announce announce }
    | _ => False
  carries p q sent received :=
    p ≠ q ∧ sent.port = (s.port p).succ ∧ received.port = (s.port q).succ ∧
      exists announce announce', sent.message = .announce announce ∧
        received.message = .announce announce' ∧ Arrives announce announce'

/-- What the link delivers is what the other clock says. -/
theorem hears_of_carried {s : LinkedClocks} {p : Party}
    {e : AnnounceLoop.Event} {heard : PTPMsgAnnounce -> Prop}
    {said : Party -> PTPMsgAnnounce -> Prop}
    (h : forall frame, s.network.receives e frame ->
      exists q sent, s.network.carries q p sent frame ∧
        forall announce, sent.message = .announce announce -> said q announce)
    (hheard : forall q announce announce', q ≠ p -> Arrives announce announce' ->
      said q announce -> heard announce') : e.Hears heard := by
  cases e with
  | announce i ts message =>
      obtain ⟨q, sent, hcarries, hsaid⟩ := h _ rfl
      obtain ⟨hne, _, _, announce, announce', hsent, hreceived, harrives⟩ :=
        hcarries
      cases PTPMsg.announce.inj hreceived
      exact hheard q announce message hne harrives (hsaid announce hsent)
  | timeout i ts => trivial
  | select => trivial
  | syncReceipt time => trivial

/-- What each clock says. -/
def said (s : LinkedClocks) : Party -> PTPMsgAnnounce -> Prop
  | .a => SaysItself (s.config .a).systemIdentity
  | .b => SaysEither (s.config .a).systemIdentity (s.config .b).systemIdentity

section Runs

variable {s : LinkedClocks}
  (hbetter : Superior (systemPriorityOf (s.config .a).systemIdentity)
    (systemPriorityOf (s.config .b).systemIdentity))
  (hne : (s.config .a).systemIdentity ≠ (s.config .b).systemIdentity)

def knowledge : Party -> Knowledge
  | .a => betterKnowledge hbetter hne
  | .b => worseKnowledge (s.config .a).systemIdentity
      (s.config .b).systemIdentity

theorem settled_knowledge
    (hmode : forall p,
      (s.config p).externalPortConfigurationEnabled = false)
    (hordinary : forall p, (s.config p).Ordinary) (p : Party) :
    Settled (s.config p) (knowledge hbetter hne p) (s.said p) := by
  cases p with
  | a => exact settled_better (hmode .a) (hordinary .a) hbetter hne
  | b => exact settled_worse (hmode .b) (hordinary .b) hne

theorem heard_of_said {p q : Party} (hpq : q ≠ p)
    {announce announce' : PTPMsgAnnounce} (h : Arrives announce announce')
    (hsaid : s.said q announce) : (knowledge hbetter hne p).heard announce' := by
  obtain ⟨hidentity, hsteps⟩ := h.information
  cases p with
  | a =>
      cases q with
      | a => exact absurd rfl hpq
      | b =>
          change SaysEither _ _ announce'
          unfold SaysEither
          rw [hidentity, hsteps]
          exact hsaid
  | b =>
      cases q with
      | a =>
          change SaysItself _ announce'
          unfold SaysItself
          rw [hidentity, hsteps]
          exact hsaid
      | b => exact absurd rfl hpq

theorem invariant_network
    (hsettled : forall p,
      Settled (s.config p) (knowledge hbetter hne p) (s.said p)) :
    s.network.Invariant
      (fun p l => Configured (s.config p) l ∧
        Agreeing (s.config p) (knowledge hbetter hne p) (s.said p) l)
      (fun p frame => forall announce,
        frame.message = .announce announce -> s.said p announce) where
  step p l e h hreceived := by
    have hheard := hears_of_carried hreceived
      (fun _ _ _ hpq harrives hsaid =>
        heard_of_said hbetter hne hpq harrives hsaid)
    exact ⟨(kept_configured (s.config p) e).step h.left,
      agreeing_step (hsettled p) h.right hheard⟩
  told _ _ frame h hmem := h.right.told frame hmem

theorem agreeing_after
    (hmode : forall p,
      (s.config p).externalPortConfigurationEnabled = false)
    (hzeroed : forall p, (s.memory p).Zeroed)
    (hordinary : forall p, (s.config p).Ordinary)
    {es : List (Party × AnnounceLoop.Event)}
    (hes : Along s.network.next s.network.Possible s.start es) (p : Party) :
    Configured (s.config p) (s.network.after s.start es p) ∧
      Agreeing (s.config p) (knowledge hbetter hne p) (s.said p)
        (s.network.after s.start es p) := by
  have hsettled := settled_knowledge hbetter hne hmode hordinary
  refine (invariant_network hbetter hne hsettled).after (fun p => ?_) hes p
  exact ⟨configured_start (s.config p) (s.memory p),
    agreeing_start (hsettled p) (hzeroed p)⟩

end Runs

/--
In every state that two linked clocks reach, the better one has no slave port
and is its own grandmaster, and the other one has a slave port only if it
follows the better one.
-/
theorem linked_clocks_agree (s : LinkedClocks)
    (hmode : forall p,
      (s.config p).externalPortConfigurationEnabled = false)
    (hzeroed : forall p, (s.memory p).Zeroed)
    (hordinary : forall p, (s.config p).Ordinary)
    (hdistinct : (s.config .a).systemIdentity.clockIdentity ≠
      (s.config .b).systemIdentity.clockIdentity)
    (hbetter : Superior (systemPriorityOf (s.config .a).systemIdentity)
      (systemPriorityOf (s.config .b).systemIdentity))
    (es : List (Party × AnnounceLoop.Event))
    (hes : Along s.network.next s.network.Possible s.start es) :
    let a := (s.network.after s.start es .a).perPTPInstanceGlobal
    let b := (s.network.after s.start es .b).perPTPInstanceGlobal
    (forall i : PortIndex, a.selectedState i.succ ≠ .slavePort) ∧
      a.gmPriority = a.systemPriority ∧
      (forall i : PortIndex, b.selectedState i.succ = .slavePort ->
        b.gmPriority.rootSystemIdentity =
          a.systemPriority.rootSystemIdentity) ∧
      ¬ exists i j : PortIndex, a.selectedState i.succ = .slavePort ∧
        b.selectedState j.succ = .slavePort := by
  have hne : (s.config .a).systemIdentity ≠ (s.config .b).systemIdentity :=
    fun heq => hdistinct (congrArg SystemIdentity.clockIdentity heq)
  have hafter := agreeing_after hbetter hne hmode hzeroed hordinary hes
  obtain ⟨hconfigured, ha⟩ := hafter .a
  obtain ⟨_, hb⟩ := hafter .b
  have hsystem := hconfigured.systemPriority
  rcases ha.outcome with ⟨hgm, hmaster⟩ | ⟨_, hforeign, _⟩
  · refine ⟨hmaster, hgm.trans hsystem.symm, fun i hslave => ?_, ?_⟩
    · rcases hb.outcome with ⟨_, hnone⟩ | ⟨p, hforeign, hgm⟩
      · exact absurd hslave (hnone i)
      · rw [hgm, hsystem]
        exact hforeign.left
    · rintro ⟨i, _, hslave, _⟩
      exact hmaster i hslave
  · exact hforeign.elim

/-- An instance whose identity is made of one octet, with port 1 enabled. -/
def identifiedBy (octet : UInt8) : Config where
  systemIdentity := (filledVector octet).rootSystemIdentity
  ptpPorts p := if p = 1 then .masterPort else .disabledPort
  externalPortConfigurationEnabled := false

def firstPorts : LinkedClocks where
  config
    | .a => identifiedBy 100
    | .b => identifiedBy 200
  memory _ := default
  port _ := 0

/-- Both clocks become grandmasters, and the better one announces itself. -/
def firstEvents : List (Party × AnnounceLoop.Event) :=
  [(.a, .syncReceipt distantTime), (.a, .select), (.a, .timeout 0 oneSecond),
    (.b, .syncReceipt distantTime), (.b, .select), (.b, .timeout 0 oneSecond)]

def betterMessage : PTPMsgAnnounce :=
  match (firstPorts.network.after firstPorts.start firstEvents
    .a).process.sent with
  | { port := _, message := .announce announce } :: _ => announce
  | _ => default

/-- What the message is read as when its octets arrive. -/
def overTheWire (message : PTPMsgAnnounce) : PTPMsgAnnounce :=
  match txAnnounce message >>= recvAnnounce message.head message with
  | .ok received => received
  | .error _ => default

theorem arrives_overTheWire {message : PTPMsgAnnounce}
    (h : message.pathTraceTLV.lengthField.toNat ≤
      maxPathTraceN * clockIdentityLength) :
    Arrives message (overTheWire message) := by
  obtain ⟨payload, hsent⟩ :
      exists payload, txAnnounce message = .ok payload := by
    obtain ⟨path, hpath⟩ := exists_copyOctets_iff.mpr h
    exact ⟨_, bind_eq_ok.mpr ⟨path, hpath, rfl⟩⟩
  obtain ⟨_, hreceived, _⟩ := recvAnnounce_txAnnounce [] hsent message
  have hread := hreceived
  rw [List.append_nil] at hread
  refine ⟨payload, [], message, hsent, ?_⟩
  unfold overTheWire
  rw [bind_eq_ok.mpr ⟨payload, hsent, hread⟩]
  exact hreceived

/-- The message of the better clock arrives. -/
def lastEvent : Party × AnnounceLoop.Event :=
  (.b, .announce 0 oneSecond (overTheWire betterMessage))

theorem possible_lastEvent :
    firstPorts.network.Possible
      (firstPorts.network.after firstPorts.start firstEvents) lastEvent := by
  intro message hmessage
  cases hmessage
  refine ⟨.a, { port := 1, message := .announce betterMessage }, ?_, ?_⟩
  · exact ⟨by decide, rfl, rfl, _, _, rfl, rfl,
      arrives_overTheWire (by decide +kernel)⟩
  · change _ ∈ (firstPorts.network.after firstPorts.start firstEvents
      .a).process.sent
    decide +kernel

/-- The first events deliver nothing, and the last one what has been sent. -/
theorem possible_events :
    Along firstPorts.network.next firstPorts.network.Possible firstPorts.start
      (firstEvents ++ [lastEvent]) := by
  refine (along_of_forall (fun n e he => ?_) firstPorts.start).concat
    possible_lastEvent
  revert he
  simp only [firstEvents, List.mem_cons, List.not_mem_nil, or_false]
  rintro (rfl | rfl | rfl | rfl | rfl | rfl) <;> exact fun _ h => h.elim

theorem linked_clocks_agree_firstPorts :
    (firstPorts.network.after firstPorts.start (firstEvents ++ [lastEvent])
        .b).perPTPInstanceGlobal.selectedState (0 : PortIndex).succ =
      .slavePort ∧
      (firstPorts.network.after firstPorts.start (firstEvents ++ [lastEvent])
        .b).perPTPInstanceGlobal.gmPriority.rootSystemIdentity =
      (firstPorts.network.after firstPorts.start (firstEvents ++ [lastEvent])
        .a).perPTPInstanceGlobal.systemPriority.rootSystemIdentity := by
  have hslave : (firstPorts.network.after firstPorts.start
      (firstEvents ++ [lastEvent]) .b).perPTPInstanceGlobal.selectedState
        (0 : PortIndex).succ = .slavePort := by
    decide +kernel
  have hordinary : forall p, (firstPorts.config p).Ordinary := by
    intro p
    cases p <;> exact ⟨by decide, by decide⟩
  obtain ⟨_, _, hfollows, _⟩ := linked_clocks_agree firstPorts
    (fun p => (by cases p <;> rfl)) (fun _ => ⟨rfl, fun _ => rfl⟩) hordinary
    (by decide +kernel) (by decide +kernel) (firstEvents ++ [lastEvent])
    possible_events
  exact ⟨hslave, hfollows 0 hslave⟩

end LinkedClocks

end TimeSync
end Ziggo
