import Ziggo.TimeSync.TimeSyncMainLoop.Endings

/-!
# The acknowledgements of the hardware

The clock and the timestamping unit answer a request when they have acknowledged
it, and the program reads a control register until they do.  So far a pass has
taken their answers for granted.  Here the hardware may leave each request of a
pass without an acknowledgement, and the process then hangs.
-/

namespace Ziggo
namespace TimeSync

open Foundation TsnDrivers

/--
The call belongs to a request for the time: `setPSSyncCMSS` makes one for each
structure of port 0, and `updateSlaveTime` for each offset.
-/
def Call.asksTime : Call -> Bool
  | .siteSyncSync pss => pss.localPortNumber = 0
  | .setRtcSyncOffset _ _ => true
  | _ => false

/-- A request that the program waits for. -/
inductive Poll where
  /-- `RTC_GET_TIME` in `RTC_CTRL` -/
  | rtcGetTime
  /-- `TSU_GET_QUE` in the `TSU_TXCTRL` of a port -/
  | tsuGetQue (i : PortIndex)
deriving DecidableEq, Repr

namespace TimeSyncMainLoop

/-- A pass whose requests the hardware may leave without an acknowledgement. -/
structure PolledInputs extends Inputs where
  /-- The poll with this number in the pass comes to an end. -/
  acknowledged : Nat -> Bool

/-!
## The requests of a pass
-/

/-- One pass until it checks for the timestamps of transmissions. -/
def receiveAndSelect (m : TimeSyncMainLoop) (inputs : Inputs) :
    TimeSyncMainLoop :=
  let ts := inputs.currentTs
  let m := (m.thenDo (arrive inputs)).thenDo (tick inputs.reading)
  let m := (List.finRange nPorts).foldl (checkTimeouts ts) m
  (m.thenDo (receive ts inputs.allocated)).thenDo (announce .select)

example (m : TimeSyncMainLoop) (inputs : Inputs) :
    m.pass inputs = (List.finRange nPorts).foldl (checkTxTimestamp inputs)
      (m.receiveAndSelect inputs) := rfl

/-- `tsu_tx_get_timestamp` makes a request if the queue of the port is not empty. -/
def txPolls (inputs : Inputs) :
    List PortIndex -> TimeSyncMainLoop -> List Poll
  | [], _ => []
  | i :: ports, m =>
      let later := txPolls inputs ports (checkTxTimestamp inputs m i)
      if m.stop = none ∧ (inputs.txTimestamps i).isSome then
        .tsuGetQue i :: later
      else
        later

def timeCalls (m : TimeSyncMainLoop) (inputs : Inputs) : List Call :=
  ((m.pass inputs).clockMasterLoop.syncLoop.calls.drop
    m.clockMasterLoop.syncLoop.calls.length).filter Call.asksTime

/-- The requests of a pass, the first one first. -/
def polls (m : TimeSyncMainLoop) (inputs : Inputs) : List Poll :=
  .rtcGetTime ::
    (m.timeCalls inputs).map (fun _ => .rtcGetTime) ++
      txPolls inputs (List.finRange nPorts) (m.receiveAndSelect inputs)

/-- A process that has not ended makes a request that is not acknowledged. -/
def Unanswered (m : TimeSyncMainLoop) (inputs : PolledInputs) : Prop :=
  m.stop = none ∧
    exists k, k < (m.polls inputs.toInputs).length ∧
      inputs.acknowledged k = false

instance (m : TimeSyncMainLoop) (inputs : PolledInputs) :
    Decidable (m.Unanswered inputs) :=
  inferInstanceAs (Decidable (_ ∧ exists k, k < _ ∧ _))

/--
One pass of the loop.  Of a process that waits for an acknowledgement only this
is kept, that it hangs.
-/
def polledPass (m : TimeSyncMainLoop) (inputs : PolledInputs) :
    TimeSyncMainLoop :=
  if m.Unanswered inputs then
    m.halt .diverges
  else
    m.pass inputs.toInputs

/-- The loop after a sequence of passes. -/
def polledAfter (config : Config) (memory : MainLoopMemory)
    (passes : List PolledInputs) : TimeSyncMainLoop :=
  runEvents polledPass (start config memory) passes

/-!
## Runs that hang
-/

section Hangs

variable {config : Config} {memory : MainLoopMemory}
  {passes : List PolledInputs}

/-- In one of the passes the loop waits for an acknowledgement that never comes. -/
def WaitsForAcknowledgement (config : Config) (memory : MainLoopMemory)
    (passes : List PolledInputs) : Prop :=
  exists history inputs rest poll k,
    passes = history ++ inputs :: rest ∧
      (polledAfter config memory history).stop = none ∧
      ((polledAfter config memory history).polls inputs.toInputs)[k]? =
        some poll ∧
      inputs.acknowledged k = false

theorem Unanswered.waits {history : List PolledInputs} {inputs : PolledInputs}
    (h : (polledAfter config memory history).Unanswered inputs) :
    WaitsForAcknowledgement config memory (history ++ [inputs]) := by
  obtain ⟨hrunning, k, hk, hmissing⟩ := h
  exact ⟨history, inputs, [], _, k, rfl, hrunning, List.getElem?_eq_getElem hk,
    hmissing⟩

theorem WaitsForAcknowledgement.append {history : List PolledInputs}
    (h : WaitsForAcknowledgement config memory history)
    (later : List PolledInputs) :
    WaitsForAcknowledgement config memory (history ++ later) := by
  obtain ⟨history', inputs, rest, poll, k, rfl, hpoll⟩ := h
  exact ⟨history', inputs, rest ++ later, poll, k, by simp, hpoll⟩

end Hangs

/-!
In the instance a `Sync` message arrives in the first pass, without a timestamp.
-/

def zeroMemory : MainLoopMemory where
  perPTPInstanceGlobal := default
  perPortGlobal := default
  mdEntityGlobal := default
  announceLoop := default
  clockMasterLoop := ClockMasterLoop.clockMemory
  mdPdelayReqSms := default
  mdPdelayRespSms := default
  rand _ _ := 0
  receiver :=
    { queue := []
      rxBuffer := []
      rxTimestamps := fun _ => [] }

def quietPass (reading : ClockReading) : Inputs where
  reading := reading
  packets := []
  rxTimestamps _ := []
  allocated :=
    { announce := default
      ts := default }
  txTimestamps _ := none

/-- The clock does not acknowledge the second request of the first pass. -/
example : (polledAfter ClockMasterLoop.clockConfig zeroMemory
    [{ quietPass ClockMasterLoop.sourceReading with
        acknowledged := fun k => k ≠ 1 }]).stop = some .diverges := by
  decide +kernel

end TimeSyncMainLoop

end TimeSync
end Ziggo
