import Ziggo.TsnDrivers.CurrentTimestamp
import Ziggo.TimeSync.ClockMasterSyncSendSM
import Ziggo.TimeSync.SyncLoop

/-!
# The clock master in the main loop

The part of `TimeSyncMainLoop` that makes the local clock a source of time.  In
each pass the loop hands the current time to one machine of the clock master and
runs the other one, which passes it to the site.
-/

namespace Ziggo
namespace TimeSync

open Foundation TsnDrivers

/-- The contents of the variables before they are set, and what the clock shows. -/
structure ClockMasterMemory where
  clockMasterSyncReceiveSm : ClockMasterSyncReceiveSM
  clockMasterSyncSendSm : ClockMasterSyncSendSM
  clockMasterGlobal : ClockMasterGlobal
  sync : SyncMemory
  /-- What the clock shows at the calls of `get_current_timestamp`. -/
  readings : Nat -> ClockReading

structure ClockMasterLoop where
  clockMasterSyncReceiveSm : ClockMasterSyncReceiveMachine
  clockMaster : ClockMaster

def SyncLoop.Event.FromClockMaster : SyncLoop.Event -> Prop
  | .clockMaster _ _ => True
  | _ => False

namespace ClockMasterLoop

/-- The variables of the machines that handle `Sync` messages. -/
def syncLoop (w : ClockMasterLoop) : SyncLoop :=
  w.clockMaster.syncLoop

def withSyncLoop (w : ClockMasterLoop) (l : SyncLoop) : ClockMasterLoop :=
  { w with clockMaster := { w.clockMaster with syncLoop := l } }

/-- A statement.  A process that has ended executes none. -/
def thenDo (w : ClockMasterLoop)
    (statement : ClockMasterLoop -> ClockMasterLoop) : ClockMasterLoop :=
  if w.syncLoop.stop ≠ none then w else statement w

/-- The machine of the clock source as a call finds it. -/
def loadSyncReceive (w : ClockMasterLoop) : ClockMasterSyncReceiveMachine :=
  { w.clockMasterSyncReceiveSm with
    vars :=
      { w.clockMasterSyncReceiveSm.vars with
        perPTPInstanceGlobal := w.syncLoop.perPTPInstanceGlobal
        clockMasterGlobal := w.clockMaster.clockMasterGlobal } }

/-- The variables after a call of the machine of the clock source. -/
def storeSyncReceive (m : ClockMasterSyncReceiveMachine)
    (w : ClockMasterLoop) : ClockMasterLoop where
  clockMasterSyncReceiveSm := m
  clockMaster :=
    { w.clockMaster with
      clockMasterGlobal := m.vars.clockMasterGlobal
      syncLoop :=
        { w.syncLoop with stop := w.syncLoop.stop.or m.vars.process.stop } }

/-!
## Initialization
-/

/-- The part of the initialization that concerns the clock master. -/
def initClockMasterGlobal (g : ClockMasterGlobal) : ClockMasterGlobal :=
  { g with
    clockSourceTimeBaseIndicatorOld := 0
    clockSourceTimeBaseIndicator := 0
    clockSourcePhaseOffset := { subns := 0, nsec := 0, nsecMsb := 0 }
    clockSourceFreqOffset := 0
    clockMasterSyncInterval :=
      ClockMasterSyncSendSM.computeClockMasterSyncInterval }

/-- The variables before the first call of a state machine. -/
def initial (config : Config) (memory : ClockMasterMemory) :
    ClockMasterLoop where
  clockMasterSyncReceiveSm :=
    { state := .init
      lastState := none
      vars :=
        { memory.clockMasterSyncReceiveSm with
          process :=
            { memory.clockMasterSyncReceiveSm.process with stop := none } } }
  clockMaster :=
    { clockMasterSyncSendSm := memory.clockMasterSyncSendSm
      clockMasterGlobal := initClockMasterGlobal memory.clockMasterGlobal
      syncLoop := SyncLoop.initial config memory.sync
      currentTimestamp := fun n => (memory.readings n).timestamp }

def initSyncReceive (w : ClockMasterLoop) : ClockMasterLoop :=
  storeSyncReceive (.initClockMasterSyncReceiveSm w.loadSyncReceive.vars) w

def initSyncSend (w : ClockMasterLoop) : ClockMasterLoop :=
  { w with
    clockMaster :=
      ClockMasterSyncSendSM.initClockMasterSyncSendSm w.clockMaster }

/-- The loop once the machines of the clock master have been initialized. -/
def clockMasterStarted (config : Config) (memory : ClockMasterMemory) :
    ClockMasterLoop :=
  ((initial config memory).thenDo initSyncReceive).thenDo initSyncSend

/--
The loop once all machines have been initialized.  The first two leave the
variables of the others as they are.
-/
def start (config : Config) (memory : ClockMasterMemory) : ClockMasterLoop :=
  (clockMasterStarted config memory).thenDo fun w =>
    w.withSyncLoop (SyncLoop.start config memory.sync)

/-!
## Events
-/

/-- The message that the loop builds for the current time. -/
def sourceTimeReq (currentTs : UScaledNs) : ClockSourceTimeInvoke where
  sourceTime := currentTs
  timeBaseIndicator := 0
  lastGmPhaseChange := { subns := 0, nsec := 0, nsecMsb := 0 }
  lastGmFreqChange := 0

def recvSourceTime (currentTs : UScaledNs) (w : ClockMasterLoop) :
    ClockMasterLoop :=
  storeSyncReceive (w.loadSyncReceive.recvSourceTime (sourceTimeReq currentTs)) w

def runSyncSend (currentTs : UScaledNs) (w : ClockMasterLoop) :
    ClockMasterLoop :=
  { w with clockMaster := ClockMasterSyncSendSM.run currentTs w.clockMaster }

/-- The statements of one pass that concern the clock master. -/
def updateMasterTime (currentTs : UScaledNs) (w : ClockMasterLoop) :
    ClockMasterLoop :=
  (w.recvSourceTime currentTs).thenDo (runSyncSend currentTs)

/-- What happens to the variables of the loop. -/
inductive Event where
  /-- A pass of the loop begins at the time that the clock shows. -/
  | tick (reading : ClockReading)
  /-- Something happens that does not come from the clock master. -/
  | sync (e : SyncLoop.Event) (h : ¬ e.FromClockMaster)

/-- The statements that an event stands for. -/
def handle (e : Event) (w : ClockMasterLoop) : ClockMasterLoop :=
  match e with
  | .tick reading => updateMasterTime reading.timestamp w
  | .sync e _ => w.withSyncLoop (w.syncLoop.step e)

def step (w : ClockMasterLoop) (e : Event) : ClockMasterLoop :=
  w.thenDo (handle e)

/-- The loop after a sequence of events. -/
def after (config : Config) (memory : ClockMasterMemory) (es : List Event) :
    ClockMasterLoop :=
  runEvents step (start config memory) es

end ClockMasterLoop

end TimeSync
end Ziggo
