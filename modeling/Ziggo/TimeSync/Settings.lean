import Ziggo.TsnDrivers.PtpTypes

/-!
# Settings

The global variables that the main loop sets once.  No state machine that
handles `Announce` messages changes them.
-/

namespace Ziggo
namespace TimeSync

open TsnDrivers

structure InstanceSettings where
  BEGIN : Bool
  instanceEnable : Bool
  thisClock : ClockIdentity
  systemPriority : PriorityVector
  externalPortConfigurationEnabled : Bool

def instanceSettings (g : PerPTPInstanceGlobal) : InstanceSettings where
  BEGIN := g.BEGIN
  instanceEnable := g.instanceEnable
  thisClock := g.thisClock
  systemPriority := g.systemPriority
  externalPortConfigurationEnabled := g.externalPortConfigurationEnabled

structure PortSettings where
  asCapable : Bool
  asymmetryMeasurementMode : Bool
  portOper : Bool
  ptpPortEnabled : Bool
  thisPort : Port

def portSettings (port : PerPortGlobal) : PortSettings where
  asCapable := port.asCapable
  asymmetryMeasurementMode := port.asymmetryMeasurementMode
  portOper := port.portOper
  ptpPortEnabled := port.ptpPortEnabled
  thisPort := port.thisPort

end TimeSync
end Ziggo
