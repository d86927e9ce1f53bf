import Ziggo.TimeSync.MDSyncReceiveSM

/-!
# Synchronization messages in the main loop

The part of `TimeSyncMainLoop` that concerns `Sync` and `Follow_Up` messages:
the initialization of the state machines and the calls that the loop makes.
-/

namespace Ziggo
namespace TimeSync

open Foundation TsnDrivers

/--
The contents of the variables before they are set.  The random numbers that the
ports draw are part of the processes of their machines.
-/
structure SyncMemory where
  perPTPInstanceGlobal : PerPTPInstanceGlobal
  perPortGlobal : PerPortGlobalArray
  siteSyncSyncSm : SiteSyncSyncSM
  clockSlaveSyncSm : ClockSlaveSyncSM
  portSyncSyncReceiveSms : PortIndex -> PortSyncSyncReceiveSM
  portSyncSyncSendSms : PortIndex -> PortSyncSyncSendSM
  mdSyncSendSms : PortIndex -> MDSyncSendSM
  mdSyncReceiveSms : PortIndex -> MDSyncReceiveSM
  rand : PortIndex -> Nat -> UInt16
  rtc : Rtc
  heap : Nat -> PortSyncSync
deriving Inhabited

namespace SyncLoop

/-!
## Initialization
-/

/-- The variables before the first call of a state machine. -/
def initial (config : Config) (memory : SyncMemory) : SyncLoop where
  perPTPInstanceGlobal :=
    AnnounceLoop.initPerPTPInstanceGlobal config memory.perPTPInstanceGlobal
  perPortGlobal i :=
    AnnounceLoop.initPerPortGlobal config i (memory.perPortGlobal i)
  siteSyncSyncSm := memory.siteSyncSyncSm
  clockSlaveSyncSm := { memory.clockSlaveSyncSm with period := 8 }
  portSyncSyncReceiveSms := memory.portSyncSyncReceiveSms
  portSyncSyncSendSms := memory.portSyncSyncSendSms
  mdSyncSendSms i :=
    { state := .init
      lastState := none
      vars :=
        { memory.mdSyncSendSms i with
          process := { stop := none, sent := [], rand := memory.rand i } } }
  mdSyncReceiveSms := memory.mdSyncReceiveSms
  rtc := memory.rtc
  heap := memory.heap
  calls := []
  stop := none

def initMDSyncSend (i : PortIndex) (l : SyncLoop) : SyncLoop :=
  PortSyncSyncSendSM.storeMDSyncSend i
    (.initMdSyncSendSm (PortSyncSyncSendSM.loadMDSyncSend l i).vars) l

def initPort (l : SyncLoop) (i : PortIndex) : SyncLoop :=
  (((l.thenDo (PortSyncSyncReceiveSM.initPortSyncSyncReceiveSm i)).thenDo
    (PortSyncSyncSendSM.initPortSyncSyncSendSm i)).thenDo
    (initMDSyncSend i)).thenDo (MDSyncReceiveSM.initMdSyncReceiveSm i)

/-- The loop once all machines have been initialized. -/
def start (config : Config) (memory : SyncMemory) : SyncLoop :=
  (List.finRange nPorts).foldl initPort
    (((initial config memory).thenDo SiteSyncSyncSM.initSiteSyncSyncSm).thenDo
      ClockSlaveSyncSM.initClockSlaveSyncSm)

/-!
## Events
-/

/-- What happens to the variables of the loop. -/
inductive Event where
  /-- The loop handles a `Sync`. -/
  | sync (i : PortIndex) (ts : UScaledNs) (tsuTimestamp : TSUTimestamp)
    (message : PTPMsgSync)
  /-- The loop handles a `Follow_Up`. -/
  | followUp (i : PortIndex) (ts : UScaledNs) (message : PTPMsgFollowUp)
  /-- The loop checks one port for a timeout. -/
  | timeout (i : PortIndex) (ts : UScaledNs)
  /-- The clock master passes a structure to the site. -/
  | clockMaster (ts : UScaledNs) (pss : PortSyncSync)
  /-- The loop reads the timestamp of a transmission. -/
  | txts (i : PortIndex) (tsuTimestamp : TSUTimestamp)
  /-- The loop selects the port states. -/
  | select (selectedState : Port -> PortState) (gmPresent : Bool)
  /-- The loop measures the delay of a link. -/
  | delay (i : PortIndex) (meanLinkDelay : UScaledNs)
  /-- The machines for `Announce` messages set `syncReceiptTimeoutTime`. -/
  | announce (syncReceiptTimeoutTime : UScaledNs)

/-- `md_sync_send_sm_txts` -/
def txts (i : PortIndex) (tsuTimestamp : TSUTimestamp) (l : SyncLoop) :
    SyncLoop :=
  PortSyncSyncSendSM.storeMDSyncSend i
    (MDSyncSendMachine.step (PortSyncSyncSendSM.loadMDSyncSend l i)
      (.txts tsuTimestamp)) l

def setSelectedState (selectedState : Port -> PortState) (gmPresent : Bool)
    (l : SyncLoop) : SyncLoop :=
  { l with
    perPTPInstanceGlobal :=
      { l.perPTPInstanceGlobal with
        selectedState := selectedState
        gmPresent := gmPresent } }

def setMeanLinkDelay (i : PortIndex) (meanLinkDelay : UScaledNs)
    (l : SyncLoop) : SyncLoop :=
  PortSyncSyncSendSM.assignPort i
    { l.perPortGlobal i with meanLinkDelay := meanLinkDelay } l

/-- The statement of the loop that an event stands for. -/
def handle (e : Event) (l : SyncLoop) : SyncLoop :=
  match e with
  | .sync i ts tsuTimestamp message =>
      MDSyncReceiveSM.recvSync i ts tsuTimestamp message l
  | .followUp i ts message => MDSyncReceiveSM.recvFollowUp i ts message l
  | .timeout i ts => MDSyncReceiveSM.run i ts l
  | .clockMaster ts pss => SiteSyncSyncSM.recvPSSync ts pss l
  | .txts i tsuTimestamp => txts i tsuTimestamp l
  | .select selectedState gmPresent => setSelectedState selectedState gmPresent l
  | .delay i meanLinkDelay => setMeanLinkDelay i meanLinkDelay l
  | .announce time => PortSyncSyncSendSM.setSyncReceiptTimeoutTime time l

def step (l : SyncLoop) (e : Event) : SyncLoop :=
  l.thenDo (handle e)

/-- The loop after a sequence of events. -/
def after (config : Config) (memory : SyncMemory) (es : List Event) :
    SyncLoop :=
  runEvents step (start config memory) es

end SyncLoop

end TimeSync
end Ziggo
