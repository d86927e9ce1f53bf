import Ziggo.Foundation.Machine
import Ziggo.Foundation.Runs
import Ziggo.TsnDrivers.PtpTypes
import Ziggo.TsnDrivers.UScaledNs
import Ziggo.TimeSync.MDPdelayReqSM
import Ziggo.TimeSync.MDPdelayReqSM.Invariant
import Ziggo.TimeSync.MDPdelayReqSM.Exchange
import Ziggo.TimeSync.MDPdelayReqSM.Provenance
import Ziggo.TimeSync.MDPdelayRespSM
import Ziggo.TimeSync.MDPdelayRespSM.Response
import Ziggo.TimeSync.MDSyncSendSM
import Ziggo.TimeSync.MDSyncSendSM.Invariant
import Ziggo.TimeSync.MDSyncSendSM.Egress
import Ziggo.TimeSync.MDSyncSendSM.Pairing
import Ziggo.Foundation.ByteOrder
import Ziggo.TsnDrivers.PriorityVector
import Ziggo.Foundation.SignedInt
import Ziggo.Foundation.SortUnique
import Ziggo.TsnDrivers.Gcl
import Ziggo.Topo.ApplyGcl
import Ziggo.Topo.ApplyGcl.Intervals
import Ziggo.TimeSync.PortAnnounceInformationSM
import Ziggo.TimeSync.PortStateSelectionSM
import Ziggo.Foundation.Election
import Ziggo.TsnDrivers.PriorityOrder
import Ziggo.TimeSync.PortAnnounceInformationExtSM
import Ziggo.TimeSync.PortAnnounceTransmitSM
import Ziggo.TimeSync.PortStateSelectionSM.Election
import Ziggo.TimeSync.AnnounceLoop
import Ziggo.TimeSync.AnnounceLoop.Frames
import Ziggo.TimeSync.AnnounceLoop.Invariant
import Ziggo.TimeSync.AnnounceLoop.PathTrace
import Ziggo.TimeSync.AnnounceLoop.PortRoles
import Ziggo.TimeSync.AnnounceLoop.Relay
import Ziggo.TimeSync.AnnounceLoop.Announces
import Ziggo.Foundation.Layout
import Ziggo.TimeSync.MsgFrame
import Ziggo.TimeSync.EthFrame
import Ziggo.TimeSync.EthFrame.RoundTrip
import Ziggo.Foundation.Faults
import Ziggo.TimeSync.MDPdelayReqSM.NegativeDelay
import Ziggo.TimeSync.ReceivedMessages
import Ziggo.Foundation.Embedded
import Ziggo.TimeSync.SyncVariables
import Ziggo.TimeSync.ClockSlaveSyncSM
import Ziggo.TimeSync.PortSyncSyncReceiveSM
import Ziggo.TimeSync.MDSyncReceiveSM
import Ziggo.TimeSync.SyncLoop
import Ziggo.TimeSync.SyncLoop.Frames
import Ziggo.TimeSync.SyncLoop.ClockSlave
import Ziggo.TimeSync.SyncLoop.Senders
import Ziggo.TimeSync.SyncLoop.Site
import Ziggo.TimeSync.SyncLoop.Receivers
import Ziggo.TimeSync.SyncLoop.Invariant
import Ziggo.TimeSync.SyncLoop.Initialization
import Ziggo.TsnDrivers.Division
import Ziggo.TimeSync.SyncLoop.Steps
import Ziggo.TimeSync.SyncLoop.Forwarding
import Ziggo.TimeSync.SyncLoop.OtherPorts
import Ziggo.TimeSync.SyncLoop.Pairing
import Ziggo.TimeSync.SyncLoop.SlaveTime
import Ziggo.TimeSync.PortStateSelectionSM.Selection
import Ziggo.TimeSync.AnnounceLoop.Information
import Ziggo.TimeSync.AnnounceLoop.Informed
import Ziggo.TimeSync.AnnounceLoop.Selection
import Ziggo.TimeSync.AnnounceLoop.OwnInformation
import Ziggo.TimeSync.AnnounceLoop.Echo
import Ziggo.TimeSync.SyncLoop.ReceiptTimeout
import Ziggo.TimeSync.SyncLoop.Transmission
import Ziggo.TimeSync.AnnounceLoop.Transmission
import Ziggo.TimeSync.MDPdelayReqSM.Transmission
import Ziggo.TimeSync.MDPdelayRespSM.Transmission
import Ziggo.TimeSync.TransmittedMessages
import Ziggo.Foundation.Network
import Ziggo.TimeSync.AnnounceLoop.Outcome
import Ziggo.TimeSync.AnnounceLoop.Agreement
import Ziggo.Foundation.Transitions
import Ziggo.TimeSync.AnnounceLoop.Ageing
import Ziggo.Foundation.Termination
import Ziggo.TimeSync.RunLoops.Announces
import Ziggo.TimeSync.RunLoops.Delays
import Ziggo.TimeSync.RunLoops.Synchronization
import Ziggo.DmaProxy.BufferQueue
import Ziggo.DmaProxy.BufferQueue.Refinement
import Ziggo.Foundation.CriticalRegion
import Ziggo.DmaProxy.Threads
import Ziggo.DmaProxy.Threads.Flow
import Ziggo.DmaProxy.Threads.Invariant
import Ziggo.DmaProxy.Threads.Order
import Ziggo.DmaProxy.Threads.Delivery
import Ziggo.DmaProxy.Threads.Receiver
import Ziggo.Foundation.RingBuffer
import Ziggo.TsnDrivers.SwitchRules
import Ziggo.TsnDrivers.SwitchRules.Table
import Ziggo.Foundation.Cuts
import Ziggo.Topo.ApplyGcl.GateSchedule
import Ziggo.Foundation.NetworkOrder
import Ziggo.Foundation.Paths
import Ziggo.PlcIo.Config
import Ziggo.PlcIo.Config.FlowPath
import Ziggo.PlcIo.HardwareLayer
import Ziggo.PlcIo.HardwareLayer.StreamIds
import Ziggo.PlcIo.HardwareLayer.ComputeTime
import Ziggo.PlcIo.HardwareLayer.Streams
import Ziggo.PlcIo.HardwareLayer.Join
import Ziggo.TimeSync.EthFrame.Dispatch
import Ziggo.Foundation.Matching
import Ziggo.TsnDrivers.Tsu
import Ziggo.TimeSync.EthFrame.Timestamps
import Ziggo.TimeSync.ClockMasterSyncReceiveSM
import Ziggo.TimeSync.ClockMasterSyncSendSM
import Ziggo.TimeSync.RunLoops.ClockMaster
import Ziggo.TimeSync.RunLoops.Nesting
import Ziggo.TimeSync.RunLoops
import Ziggo.TimeSync.SyncLoop.FollowUps
import Ziggo.TimeSync.SyncLoop.Grandmaster
import Ziggo.TsnDrivers.Multiplication
import Ziggo.TimeSync.MDPdelayReqSM.LinkDelay
import Ziggo.TimeSync.ClockOffset
import Ziggo.TimeSync.ElapsedTimes
import Ziggo.TsnDrivers.LocalClockTimestamp
import Ziggo.TimeSync.AnnounceLoop.Serving
import Ziggo.TimeSync.AnnounceLoop.Superseding
import Ziggo.TimeSync.AnnounceLoop.Notification
import Ziggo.TimeSync.OriginTime
import Ziggo.TimeSync.ClockMasterLoop
import Ziggo.TimeSync.ClockMasterLoop.Invariant
import Ziggo.TimeSync.ClockMasterLoop.OriginTime
import Ziggo.TimeSync.SyncLoop.ResidenceTime
import Ziggo.Foundation.Overwriting
import Ziggo.TimeSync.PortStateSelectionSM.PathTrace
import Ziggo.TimeSync.AnnounceLoop.Acceptances
import Ziggo.TimeSync.AnnounceLoop.PathFollowing
import Ziggo.Foundation.CircularHistory
import Ziggo.TimeSync.MDPdelayReqSM.RateRatio
import Ziggo.TimeSync.SyncLoop.SlavePeriod
import Ziggo.TimeSync.Divisions
import Ziggo.TimeSync.MDPdelayReqSM.History
import Ziggo.TimeSync.ClockSlaveSyncSM.History
import Ziggo.TimeSync.Histories
import Ziggo.Foundation.BinaryFraction
import Ziggo.TsnDrivers.FixedPoint
import Ziggo.TimeSync.ClockSlaveSyncSM.Period
import Ziggo.Foundation.Pacing
import Ziggo.TimeSync.MDPdelayReqSM.Pacing
import Ziggo.TimeSync.AnnounceLoop.Pacing
import Ziggo.TimeSync.AnnounceLoop.Permission
import Ziggo.TimeSync.ClockMasterLoop.Pacing
import Ziggo.TimeSync.Pacing
import Ziggo.Foundation.Simulation
import Ziggo.TimeSync.TimeSyncMainLoop
import Ziggo.TimeSync.TimeSyncMainLoop.Announces
import Ziggo.TimeSync.TimeSyncMainLoop.Delays
import Ziggo.TimeSync.TimeSyncMainLoop.Synchronization
import Ziggo.TimeSync.TimeSyncMainLoop.ClockMaster
import Ziggo.TimeSync.TimeSyncMainLoop.Globals
import Ziggo.TimeSync.TimeSyncMainLoop.Parts
import Ziggo.TimeSync.TimeSyncMainLoop.Composition
import Ziggo.TimeSync.TimeSyncMainLoop.Initialization
import Ziggo.TimeSync.TimeSyncMainLoop.Surroundings
import Ziggo.TimeSync.TimeSyncMainLoop.Start
import Ziggo.TimeSync.TimeSyncMainLoop.Refinement
import Ziggo.TimeSync.TimeSyncMainLoop.Hangs
import Ziggo.TimeSync.TimeSyncMainLoop.Endings
import Ziggo.TimeSync.TimeSyncMainLoop.Pacing
import Ziggo.TimeSync.TimeSyncMainLoop.Invariant
import Ziggo.TimeSync.MDPdelayReqSM.Completion
import Ziggo.TimeSync.TimeSyncMainLoop.Polling
import Ziggo.TimeSync.TimeSyncMainLoop.Configuration
