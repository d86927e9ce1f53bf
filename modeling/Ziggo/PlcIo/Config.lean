import Mathlib.Data.List.Basic
import Mathlib.Data.UInt
import Ziggo.Foundation.Machine

/-!
# The configuration of a packetized PLC

`init_configure` of `config.cpp` reads the topology and the schedule of the
network.  It determines the streams that end and that begin at this node and
the window in which the PLC computes.  The documents are given as they are
after parsing.
-/

namespace Ziggo
namespace PlcIo

open Foundation

abbrev MacAddr := Vector UInt8 6

/-- The members of an object of `topo["nodes"]` that are used. -/
structure Node where
  id : Int32
  mac : MacAddr
deriving DecidableEq

/-- The members of a flow in the schedule of a link that are used. -/
structure Flow where
  jobId : Int32
  flowId : Int32
deriving DecidableEq, Repr

structure Job where
  jobId : Int32
  period : UInt32
  start : UInt32
  endTime : UInt32
deriving DecidableEq, Repr

/-- The elements of the schedule.  Other types than these two are skipped. -/
inductive Element where
  | link (source target : Int32) (schedule : List Flow)
  | switch (mac : MacAddr) (schedule : List Job)
  | other
deriving DecidableEq

/-- What `init_configure` stores. -/
structure Config where
  /-- `input_seq_ids`, whose length is `INPUT_STREAM_NUM`. -/
  inputSeqIds : List UInt32
  /-- `output_seq_ids`, whose length is `OUTPUT_STREAM_NUM`. -/
  outputSeqIds : List UInt32
  outputDstAddresses : List MacAddr
  outputSrcAddress : MacAddr
  cycleTime : UInt32
  computeOffset : UInt32
  computeTime : UInt32

/-- The variables as they are declared. -/
def initialConfig (myMacAddr : MacAddr) : Config where
  inputSeqIds := []
  outputSeqIds := []
  outputDstAddresses := []
  outputSrcAddress := myMacAddr
  cycleTime := 0
  computeOffset := 0
  computeTime := 0

/-!
## The ends of a flow
-/

/-- Two objects of type `unordered_set<int>`, which list each element once. -/
structure FlowSets where
  sOutflow : List Int32
  sInflow : List Int32

def insertFlows (jobId flowId source target : Int32) :
    List Flow -> FlowSets -> FlowSets
  | [], sets => sets
  | flow :: flows, sets =>
      insertFlows jobId flowId source target flows
        (if jobId = flow.jobId ∧ flowId = flow.flowId then
          { sOutflow := sets.sOutflow.insert source
            sInflow := sets.sInflow.insert target }
        else
          sets)

def insertLinks (jobId flowId : Int32) : List Element -> FlowSets -> FlowSets
  | [], sets => sets
  | .link source target flows :: sche, sets =>
      insertLinks jobId flowId sche
        (insertFlows jobId flowId source target flows sets)
  | _ :: sche, sets => insertLinks jobId flowId sche sets

/--
The loop over a set that looks for an element outside the other set.  It returns
from the function when it finds a second one.
-/
def findEnd (other : List Int32) : List Int32 -> Int32 -> Option Int32
  | [], found => some found
  | id :: ids, found =>
      if id ∈ other then
        findEnd other ids found
      else if found ≠ -1 then
        none
      else
        findEnd other ids id

/--
`find_src_dst`, which returns `false` where the result is `none`.  The order in
which an `unordered_set` is traversed is not specified: `traverse` stands for it.
-/
def findSrcDst (traverse : List Int32 -> List Int32) (sche : List Element)
    (jobId flowId : Int32) : Option (Int32 × Int32) := do
  let sets := insertLinks jobId flowId sche { sOutflow := [], sInflow := [] }
  let srcId <- findEnd sets.sInflow (traverse sets.sOutflow) (-1)
  let dstId <- findEnd sets.sOutflow (traverse sets.sInflow) (-1)
  if srcId ≠ -1 ∧ dstId ≠ -1 then some (srcId, dstId) else none

/-!
## The streams
-/

/--
`(job_id << 8) | flow_id`, converted to `uint32_t`.  Bits that the shift moves
out of the `int` are lost.
-/
def seqId (flow : Flow) : UInt32 :=
  (flow.jobId.toUInt32 <<< 8) ||| flow.flowId.toUInt32

example : seqId ⟨2, 3⟩ = 0x203 := by decide

/-- `mId2mac`, in which a later node with the same id replaces an earlier one. -/
def id2mac (nodes : List Node) (id : Int32) : Option MacAddr :=
  (nodes.reverse.find? fun node => node.id = id).map Node.mac

def addInputStreams (jobId : Int32) : List Flow -> Config -> Config
  | [], config => config
  | flow :: flows, config =>
      addInputStreams jobId flows
        (if flow.jobId ≠ jobId then
          config
        else
          { config with inputSeqIds := config.inputSeqIds ++ [seqId flow] })

/-- The constructor of `MacAddr` fails for a node that is not in the topology. -/
def addOutputStreams (traverse : List Int32 -> List Int32) (nodes : List Node)
    (sche : List Element) (jobId : Int32) :
    List Flow -> Config -> Except Fault Config
  | [], config => .ok config
  | flow :: flows, config =>
      if flow.jobId ≠ jobId then
        addOutputStreams traverse nodes sche jobId flows config
      else
        match findSrcDst traverse sche jobId flow.flowId with
        | none => .error .exit
        | some (_, dstId) =>
            match id2mac nodes dstId with
            | none => .error .exit
            | some dstAddr =>
                addOutputStreams traverse nodes sche jobId flows
                  { config with
                    outputSeqIds := config.outputSeqIds ++ [seqId flow]
                    outputDstAddresses := config.outputDstAddresses ++ [dstAddr] }

/-- The loop over the links for one job of this node. -/
def addStreams (traverse : List Int32 -> List Int32) (nodes : List Node)
    (sche : List Element) (myId jobId : Int32) :
    List Element -> Config -> Except Fault Config
  | [], config => .ok config
  | .link source target flows :: elements, config => do
      let config :=
        if target = myId then addInputStreams jobId flows config else config
      let config <-
        if source = myId then
          addOutputStreams traverse nodes sche jobId flows config
        else
          .ok config
      addStreams traverse nodes sche myId jobId elements config
  | _ :: elements, config =>
      addStreams traverse nodes sche myId jobId elements config

def addJobs (traverse : List Int32 -> List Int32) (nodes : List Node)
    (sche : List Element) (myId : Int32) :
    List Job -> Config -> Except Fault Config
  | [], config => .ok config
  | job :: jobs, config => do
      let config <- addStreams traverse nodes sche myId job.jobId sche config
      addJobs traverse nodes sche myId jobs config

def addSwitches (traverse : List Int32 -> List Int32) (nodes : List Node)
    (sche : List Element) (myId : Int32) (myMacAddr : MacAddr) :
    List Element -> Config -> Except Fault Config
  | [], config => .ok config
  | .switch mac jobs :: elements, config => do
      let config <-
        if mac ≠ myMacAddr then
          .ok config
        else
          addJobs traverse nodes sche myId jobs config
      addSwitches traverse nodes sche myId myMacAddr elements config
  | _ :: elements, config =>
      addSwitches traverse nodes sche myId myMacAddr elements config

/-!
## The window
-/

/-- The instants of a job, in units of 2^14 nanoseconds in the schedule. -/
def setWindow (job : Job) (config : Config) : Config :=
  { config with
    cycleTime := job.period <<< 14
    computeOffset := job.start <<< 14
    computeTime := (job.endTime - job.start - 1) <<< 14 }

def setSwitchWindow : List Job -> Config -> Except Fault Config
  | [job], config => .ok (setWindow job config)
  | _, _ => .error .assertion

def setWindows (myMacAddr : MacAddr) :
    List Element -> Config -> Except Fault Config
  | [], config => .ok config
  | .switch mac jobs :: elements, config => do
      let config <-
        if mac ≠ myMacAddr then .ok config else setSwitchWindow jobs config
      setWindows myMacAddr elements config
  | _ :: elements, config => setWindows myMacAddr elements config

def initConfigure (traverse : List Int32 -> List Int32) (nodes : List Node)
    (sche : List Element) (myMacAddr : MacAddr) : Except Fault Config :=
  match nodes.reverse.find? fun node => node.mac = myMacAddr with
  | none => .error .exit
  | some node =>
      -- The node with id -1 is taken for one that is not found.
      if node.id = -1 then
        .error .exit
      else do
        let config <- addSwitches traverse nodes sche node.id myMacAddr sche
          (initialConfig myMacAddr)
        setWindows myMacAddr sche config

end PlcIo
end Ziggo
