import Ziggo.TimeSync.AnnounceLoop.Permission
import Ziggo.TimeSync.ClockMasterLoop.Pacing
import Ziggo.TimeSync.MDPdelayReqSM.Pacing

/-!
# The pace of the messages

Three state machines send messages at regular intervals.  Each of them has a
timer of its own, and nothing that arrives makes it send before the timer says.
-/

namespace Ziggo
namespace TimeSync

open Foundation TsnDrivers

/--
The messages of a run whose events come in order keep their intervals, whatever
arrives in between.  An `Announce` leaves only by a master port whose information
is settled, or that is configured from outside, also when the machines are
initialized.  No update of that information brings two of them closer together.
-/
theorem messages_paced (config : Config) (i : PortIndex) :
    (config.ptpPorts i.succ ≠ .disabledPort ->
      forall memory es, MDPdelayReqMachine.emitter.InOrder es ->
        Apart
          (MDPdelayReqMachine.after config i memory es).pdelayReqInterval.toNat
          (MDPdelayReqMachine.requestTimes config i memory es)) ∧
    (forall memory es, (AnnounceLoop.emitter i).InOrder es ->
      Apart ((AnnounceLoop.after config memory es).announceInterval i).toNat
        (AnnounceLoop.announceTimes config memory i es)) ∧
    (forall memory es, ClockMasterLoop.emitter.InOrder es ->
      Apart
        (ClockMasterLoop.after config memory es).clockMasterSyncInterval.toNat
        (ClockMasterLoop.structureTimes config memory es)) ∧
    (forall memory es, (AnnounceLoop.emitter i).InOrder es -> forall e,
      let l := AnnounceLoop.after config memory es
      (l.step e).announceCount i ≠ l.announceCount i ->
        exists ts, e = .timeout i ts ∧
          (l.thenDo (AnnounceLoop.runInformation i ts)).MayAnnounce i) ∧
    forall memory ports j,
      let l := AnnounceLoop.startedPorts config memory ports
      (l.initPort j).announceCount i ≠ l.announceCount i ->
        i = j ∧ (l.thenDo (AnnounceLoop.initInformation j)).MayAnnounce i := by
  refine ⟨?_, ?_, ?_, ?_, ?_⟩
  · intro henabled memory es horder
    exact MDPdelayReqMachine.requests_apart henabled horder
  · intro memory es horder
    exact AnnounceLoop.announces_apart config memory i horder
  · intro memory es horder
    exact ClockMasterLoop.structures_apart config memory horder
  · intro memory es horder e l hsends
    exact AnnounceLoop.announces_permitted config memory i horder hsends
  · intro memory ports j l hsends
    exact AnnounceLoop.first_announces_permitted config memory i ports j hsends

/-!
In the instance the local clock is the source for all ports.  Each of its
machines is asked to send too early once.
-/

/-- A number of nanoseconds since the machines have been initialized. -/
def nanoseconds (nsec : UInt64) : UScaledNs :=
  { subns := 0, nsec := nsec, nsecMsb := 0 }

/-- The first request is transmitted, and its interval passes. -/
def requestEvents : List MDPdelayReqMachine.Event :=
  [.txts (nanoseconds 1000)
      { ts := nanoseconds 10
        sequenceID := 0
        msgType := PTPMsgType.pdelayReq.code },
    .run (nanoseconds 999999999), .run (nanoseconds 1000000000)]

def timeouts : List AnnounceLoop.Event :=
  [.timeout 0 (nanoseconds 999999999), .timeout 0 (nanoseconds 1000000000)]

def laterReading : ClockReading where
  clock :=
    { secondH := 0
      secondL := 2
      nanosecond := 500000000
      fracNano := 0x37 }
  nanosecond_lt := by decide

open ClockMasterLoop in
def ticks : List ClockMasterLoop.Event :=
  [.tick sourceReading, .tick (readingOf 600000000 0x37 (by decide)),
    .tick laterReading]

open ClockMasterLoop in
theorem messages_paced_secondly :
    (MDPdelayReqMachine.requestTimes clockConfig 0 default requestEvents =
        [0, 1000000000 * 2 ^ 16] ∧
      Apart
        (MDPdelayReqMachine.after clockConfig 0 default
          requestEvents).pdelayReqInterval.toNat
        (MDPdelayReqMachine.requestTimes clockConfig 0 default
          requestEvents)) ∧
    (AnnounceLoop.announceTimes clockConfig default 0 timeouts =
        [0, 1000000000 * 2 ^ 16] ∧
      Apart
        ((AnnounceLoop.after clockConfig default timeouts).announceInterval
          0).toNat
        (AnnounceLoop.announceTimes clockConfig default 0 timeouts)) ∧
    (structureTimes clockConfig clockMemory ticks =
        [sourceReading.timestamp.toNat, laterReading.timestamp.toNat] ∧
      Apart (after clockConfig clockMemory ticks).clockMasterSyncInterval.toNat
        (structureTimes clockConfig clockMemory ticks)) ∧
    (exists ts,
      AnnounceLoop.Event.timeout 0 (nanoseconds 1000000000) = .timeout 0 ts ∧
        ((AnnounceLoop.after clockConfig default []).thenDo
          (AnnounceLoop.runInformation 0 ts)).MayAnnounce 0) ∧
    (0 : PortIndex) = 0 ∧
      ((AnnounceLoop.startedPorts clockConfig default []).thenDo
        (AnnounceLoop.initInformation 0)).MayAnnounce 0 := by
  obtain ⟨hrequests, hannounces, hstructures, hpermitted, hfirst⟩ :=
    messages_paced clockConfig 0
  refine ⟨⟨by decide +kernel, ?_⟩, ⟨by decide +kernel, ?_⟩,
    ⟨by decide +kernel, ?_⟩, ?_, ?_⟩
  · exact hrequests (by decide) default requestEvents (by decide +kernel)
  · exact hannounces default timeouts (by decide +kernel)
  · exact hstructures clockMemory ticks (by decide +kernel)
  · exact hpermitted default [] (by decide) _ (by decide +kernel)
  · exact hfirst default [] 0 (by decide +kernel)

end TimeSync
end Ziggo
