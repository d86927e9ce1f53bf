import Ziggo.TimeSync.TimeSyncMainLoop.Polling

/-!
# The configuration and the start of the process

`get_config_from_json` looks for the node of the program in `config.json`, and
the process exits if it finds none or no port states for it.  Then all machines
are initialized.  Some of them send a message, and the process exits if the
transfer of one fails.
-/

namespace Ziggo
namespace TimeSync

open Foundation TsnDrivers

/-!
## The configuration
-/

/-- The numbers of `system_identity` in `config.json`. -/
structure IdentityEntry where
  priority1 : Int32
  clockClass : Int32
  clockAccuracy : Int32
  offsetScaledLogVariance : Int32
  priority2 : Int32
  clockIdentity : List Int32

/--
A node in `config.json`, with the members that are read.  The MAC address is in
lower case, and the numbers of `ptp_ports` are those of port states.
-/
structure ConfigNode where
  type : String
  mac : String
  id : Int32
  ptpPorts : Option (List PortState)
  externalPortConfigurationEnabled : Option Int32
  systemIdentity : Option IdentityEntry

/-- The variables of `TimeSyncMainLoop` that hold the configuration. -/
structure ConfigVars where
  systemIdentity : SystemIdentity
  ptpPorts : Port -> PortState
  /-- `config_ptp_ports[0]` is no longer -1. -/
  ptpPortsSet : Bool
  externalPortConfigurationEnabled : Bool

def setDefaultConfig (vars : ConfigVars) : ConfigVars :=
  { vars with
    systemIdentity :=
      { priority1 := 254
        clockClass := 248
        clockAccuracy := 254
        offsetScaledLogVariance := 17258
        priority2 := 247
        clockIdentity := fun _ => 0 }
    externalPortConfigurationEnabled := false }

/-- The loop that assigns values to an array, one after the other. -/
def assignAll {α : Type} {length : Nat} (values : List α)
    (array : Fin length -> α) : Except Fault (Fin length -> α) :=
  if values.length ≤ length then
    .ok fun i => values.getD i (array i)
  else
    .error .outOfBounds

def octetOf (n : Int32) : UInt8 :=
  n.toUInt32.toUInt8

def readIdentity (entry : IdentityEntry) (identity : SystemIdentity) :
    Except Fault SystemIdentity := do
  let clockIdentity <-
    assignAll (entry.clockIdentity.map octetOf) identity.clockIdentity
  return {
    priority1 := octetOf entry.priority1
    clockClass := octetOf entry.clockClass
    clockAccuracy := octetOf entry.clockAccuracy
    offsetScaledLogVariance := entry.offsetScaledLogVariance.toUInt32.toUInt16
    priority2 := octetOf entry.priority2
    clockIdentity := clockIdentity }

def identityOf (node : ConfigNode) (identity : SystemIdentity) :
    Except Fault SystemIdentity :=
  match node.systemIdentity with
  | none => .ok identity
  | some entry => readIdentity entry identity

/-- The members that follow the port states. -/
def readSettings (node : ConfigNode) (vars : ConfigVars) :
    Except Fault ConfigVars := do
  let identity <- identityOf node vars.systemIdentity
  return { vars with
    systemIdentity := identity
    externalPortConfigurationEnabled :=
      match node.externalPortConfigurationEnabled with
      | none => vars.externalPortConfigurationEnabled
      | some n => n ≠ 0 }

/-- An empty list of port states ends the function at once. -/
def readNode (node : ConfigNode) (vars : ConfigVars) :
    Except Fault ConfigVars :=
  match node.ptpPorts with
  | some [] => .ok vars
  | ports? => do
      let ptpPorts <- assignAll (ports?.getD []) vars.ptpPorts
      let vars <- readSettings node
        { vars with
          ptpPorts := ptpPorts
          ptpPortsSet := vars.ptpPortsSet || ports?.isSome }
      if node.id = -1 then .error .exit else .ok vars

def getConfigFromJson (nodes : List ConfigNode) (macAddr : String)
    (vars : ConfigVars) : Except Fault ConfigVars :=
  match nodes.find? fun node => node.type = "switch" ∧ node.mac = macAddr with
  | none => .error .exit
  | some node => readNode node vars

namespace ConfigVars

def toConfig (vars : ConfigVars) : Config where
  systemIdentity := vars.systemIdentity
  ptpPorts := vars.ptpPorts
  externalPortConfigurationEnabled := vars.externalPortConfigurationEnabled

end ConfigVars

/-- The configuration that `TimeSyncMainLoop` begins with. -/
def configure (nodes : List ConfigNode) (macAddr : String)
    (vars : ConfigVars) : Except Fault Config := do
  let vars <- getConfigFromJson nodes macAddr
    (setDefaultConfig { vars with ptpPortsSet := false })
  if vars.ptpPortsSet then .ok vars.toConfig else .error .exit

/-!
## What a node has to say
-/

theorem exists_assignAll {α : Type} {length : Nat} {values : List α}
    {array : Fin length -> α} :
    (exists array', assignAll values array = .ok array') <->
      values.length ≤ length := by
  unfold assignAll
  constructor
  · rintro ⟨_, h⟩
    split at h
    · assumption
    · cases h
  · intro h
    rw [if_pos h]
    exact ⟨_, rfl⟩

/-- The node names states for some of the ports, and fits into the variables. -/
structure ConfigNode.Complete (node : ConfigNode) : Prop where
  ports : exists ports, node.ptpPorts = some ports ∧ ports ≠ [] ∧
    ports.length ≤ nPorts + 1
  identity : forall entry, node.systemIdentity = some entry ->
    entry.clockIdentity.length ≤ clockIdentityLength
  id : node.id ≠ -1

theorem exists_readIdentity {entry : IdentityEntry} {identity : SystemIdentity} :
    (exists identity', readIdentity entry identity = .ok identity') <->
      entry.clockIdentity.length ≤ clockIdentityLength := by
  rw [← List.length_map octetOf, ← @exists_assignAll _ _ _ identity.clockIdentity]
  constructor
  · rintro ⟨_, h⟩
    obtain ⟨clockIdentity, hclock, _⟩ := bind_eq_ok.mp h
    exact ⟨clockIdentity, hclock⟩
  · rintro ⟨clockIdentity, hclock⟩
    exact ⟨_, bind_eq_ok.mpr ⟨clockIdentity, hclock, rfl⟩⟩

theorem exists_identityOf {node : ConfigNode} {identity : SystemIdentity} :
    (exists identity', identityOf node identity = .ok identity') <->
      forall entry, node.systemIdentity = some entry ->
        entry.clockIdentity.length ≤ clockIdentityLength := by
  unfold identityOf
  cases node.systemIdentity with
  | none => exact iff_of_true ⟨_, rfl⟩ fun _ h => nomatch h
  | some entry =>
      refine exists_readIdentity.trans ⟨fun h entry' hentry => ?_,
        fun h => h entry rfl⟩
      cases hentry
      exact h

theorem exists_readSettings {node : ConfigNode} {vars : ConfigVars} :
    (exists vars', readSettings node vars = .ok vars') <->
      forall entry, node.systemIdentity = some entry ->
        entry.clockIdentity.length ≤ clockIdentityLength := by
  rw [← @exists_identityOf node vars.systemIdentity]
  constructor
  · rintro ⟨_, h⟩
    obtain ⟨identity, hidentity, _⟩ := bind_eq_ok.mp h
    exact ⟨identity, hidentity⟩
  · rintro ⟨identity, hidentity⟩
    exact ⟨_, bind_eq_ok.mpr ⟨identity, hidentity, rfl⟩⟩

theorem ptpPortsSet_readSettings {node : ConfigNode} {vars vars' : ConfigVars}
    (h : readSettings node vars = .ok vars') :
    vars'.ptpPortsSet = vars.ptpPortsSet := by
  obtain ⟨_, _, h⟩ := bind_eq_ok.mp h
  cases h
  rfl

/-- The function leaves port states behind exactly if the node is complete. -/
theorem exists_readNode {node : ConfigNode} {vars : ConfigVars}
    (hunset : vars.ptpPortsSet = false) :
    (exists vars', readNode node vars = .ok vars' ∧ vars'.ptpPortsSet = true) <->
      node.Complete := by
  constructor
  · rintro ⟨vars', h, hset⟩
    unfold readNode at h
    split at h
    · -- The list is empty, and the variables are those from before.
      cases h
      rw [hunset] at hset
      cases hset
    · rename_i hne
      obtain ⟨ptpPorts, hports, h⟩ := bind_eq_ok.mp h
      obtain ⟨read, hsettings, h⟩ := bind_eq_ok.mp h
      split at h
      · cases h
      · rename_i hid
        cases h
        have hkept := ptpPortsSet_readSettings hsettings
        rw [hset, hunset, Bool.false_or] at hkept
        obtain ⟨ports, hsome⟩ := Option.isSome_iff_exists.mp hkept.symm
        refine ⟨⟨ports, hsome, fun hnil => hne (hnil ▸ hsome), ?_⟩, ?_, hid⟩
        · rw [hsome] at hports
          exact exists_assignAll.mp ⟨ptpPorts, hports⟩
        · exact (@exists_readSettings node _).mp ⟨_, hsettings⟩
  · rintro ⟨⟨ports, hports, hne, hlength⟩, hidentity, hid⟩
    obtain ⟨ptpPorts, hassign⟩ :=
      (@exists_assignAll _ _ ports vars.ptpPorts).mpr hlength
    obtain ⟨read, hsettings⟩ := (@exists_readSettings node
      { vars with
        ptpPorts := ptpPorts
        ptpPortsSet := vars.ptpPortsSet || node.ptpPorts.isSome }).mpr hidentity
    refine ⟨read, ?_, ?_⟩
    · unfold readNode
      split
      · rename_i hnil
        rw [hports] at hnil
        exact absurd (Option.some.inj hnil) hne
      · rw [hports] at hsettings ⊢
        refine bind_eq_ok.mpr ⟨ptpPorts, hassign, bind_eq_ok.mpr
          ⟨read, hsettings, if_neg hid⟩⟩
    · rw [ptpPortsSet_readSettings hsettings, hports]
      exact Bool.or_true _

theorem exists_configure {nodes : List ConfigNode} {macAddr : String}
    {vars : ConfigVars} :
    (exists config, configure nodes macAddr vars = .ok config) <->
      exists node,
        nodes.find? (fun node => node.type = "switch" ∧ node.mac = macAddr) =
          some node ∧ node.Complete := by
  constructor
  · rintro ⟨config, h⟩
    obtain ⟨read, hread, h⟩ := bind_eq_ok.mp h
    unfold getConfigFromJson at hread
    split at hread
    · cases hread
    · rename_i node hnode
      split at h
      · rename_i hset
        exact ⟨node, hnode, (exists_readNode rfl).mp ⟨read, hread, hset⟩⟩
      · cases h
  · rintro ⟨node, hnode, hcomplete⟩
    obtain ⟨read, hread, hset⟩ := (@exists_readNode node
      (setDefaultConfig { vars with ptpPortsSet := false }) rfl).mpr hcomplete
    refine ⟨read.toConfig, bind_eq_ok.mpr ⟨read, ?_, if_pos hset⟩⟩
    unfold getConfigFromJson
    rw [hnode]
    exact hread

namespace TimeSyncMainLoop

/-!
## The start of the process
-/

/-- The messages that have been transferred, one machine after the other. -/
def transfers (m : TimeSyncMainLoop) : List Frame :=
  m.announceLoop.process.sent ++
    (List.finRange nPorts).flatMap fun i =>
      (m.clockMasterLoop.syncLoop.mdSyncSendSms i).vars.process.sent ++
        (m.mdPdelayReqSms i).vars.process.sent ++
        (m.mdPdelayRespSms i).vars.process.sent

/--
`DMA_send` ends the process if the transfer of a message fails.  It succeeds for
the messages with the given numbers.
-/
def transferAll (transferred : Nat -> Bool) (m : TimeSyncMainLoop) :
    TimeSyncMainLoop :=
  if forall k, k < m.transfers.length -> transferred k = true then
    m
  else
    m.halt .exit

theorem stop_transferAll {transferred : Nat -> Bool} {m : TimeSyncMainLoop}
    (hrunning : m.stop = none) :
    (m.transferAll transferred).stop = none <->
      forall k, k < m.transfers.length -> transferred k = true := by
  unfold transferAll
  split
  · exact iff_of_true hrunning ‹_›
  · exact iff_of_false (fun h => nomatch h) ‹_›

/-- `TimeSyncMainLoop` up to its loop. -/
def boot (nodes : List ConfigNode) (macAddr : String) (vars : ConfigVars)
    (memory : MainLoopMemory) (transferred : Nat -> Bool) :
    Except Fault TimeSyncMainLoop := do
  let config <- configure nodes macAddr vars
  return (start config memory).thenDo (transferAll transferred)

/--
The process gets to its loop exactly if its node in `config.json` is complete and
the messages of the initialization can be transferred.
-/
theorem exists_boot {nodes : List ConfigNode} {macAddr : String}
    {vars : ConfigVars} {memory : MainLoopMemory} {transferred : Nat -> Bool} :
    (exists m, boot nodes macAddr vars memory transferred = .ok m ∧
        m.stop = none) <->
      (exists node,
        nodes.find? (fun node => node.type = "switch" ∧ node.mac = macAddr) =
          some node ∧ node.Complete) ∧
      forall config, configure nodes macAddr vars = .ok config ->
        forall k, k < (start config memory).transfers.length ->
          transferred k = true := by
  rw [← @exists_configure nodes macAddr vars]
  have hstop : forall config,
      ((start config memory).thenDo (transferAll transferred)).stop = none <->
        forall k, k < (start config memory).transfers.length ->
          transferred k = true := by
    intro config
    have hrunning := running_start config memory
    rw [thenDo_running hrunning]
    exact stop_transferAll hrunning
  constructor
  · rintro ⟨m, h, hrunning⟩
    obtain ⟨config, hconfig, h⟩ := bind_eq_ok.mp h
    have hm : (start config memory).thenDo (transferAll transferred) = m :=
      Except.ok.inj h
    rw [← hm, hstop config] at hrunning
    refine ⟨⟨config, hconfig⟩, fun config' hconfig' => ?_⟩
    have heq := hconfig.symm.trans hconfig'
    rw [← Except.ok.inj heq]
    exact hrunning
  · rintro ⟨⟨config, hconfig⟩, htransferred⟩
    exact ⟨_, bind_eq_ok.mpr ⟨config, hconfig, rfl⟩,
      (hstop config).mpr (htransferred config hconfig)⟩

/-- A switch of the configuration, with one port of each role. -/
def switchNode : ConfigNode where
  type := "switch"
  mac := "00:0a:35:00:00:53"
  id := 8
  ptpPorts :=
    some [.masterPort, .masterPort, .disabledPort, .slavePort, .disabledPort]
  externalPortConfigurationEnabled := some 1
  systemIdentity := none

def emptyVars : ConfigVars where
  systemIdentity := default
  ptpPorts _ := .disabledPort
  ptpPortsSet := false
  externalPortConfigurationEnabled := false

/-- The transfer of the second message of the initialization fails. -/
example :
    (boot [switchNode] "00:0a:35:00:00:53" emptyVars zeroMemory
      fun k => k ≠ 1).map TimeSyncMainLoop.stop = .ok (some .exit) := by
  decide +kernel

end TimeSyncMainLoop

end TimeSync
end Ziggo
