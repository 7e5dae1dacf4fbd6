import UchiPulse.Common.Udp
import UchiPulse.Hub.Repository

/-! The communication state of the devices that were enabled when the hub started. It
lives in memory only. Times are seconds on a monotonic clock. -/
namespace UchiPulse.Hub
open Common Db Sql

inductive CommunicationStatus where
  | initialWait | online | offline
deriving DecidableEq

structure DeviceState where
  deviceId : String
  status : CommunicationStatus
  initialWaitStartedAt : Nat
  lastSeenAt : Option Nat
deriving DecidableEq

inductive StateUpdateError where
  | invalidMessage (error : CodecError)
  | emptyDeviceId
deriving DecidableEq

structure CommunicationStateManager where
  devices : String → Option DeviceState
  offlineTimeout : Nat

def deviceIdOf : UdpMessage → DeviceId
  | .hello deviceId => deviceId
  | .heartbeat deviceId => deviceId
  | .event deviceId _ _ => deviceId
  | .ack deviceId _ => deviceId

namespace CommunicationStateManager

def fromDatabase (initialWaitStartedAt offlineTimeout : Nat) : Session CommunicationStateManager := do
  let devices ← listEnabledDevices
  return {
    devices := fun deviceId =>
      if devices.any (·.deviceId = deviceId) then
        some { deviceId,status := .initialWait,initialWaitStartedAt,lastSeenAt := none }
      else none,
    offlineTimeout }

def device (self : CommunicationStateManager) (deviceId : String) : Option DeviceState :=
  self.devices deviceId

/-- An ACK is valid syntax, but does not mark a device online. -/
def observeMessage (self : CommunicationStateManager) (message : UdpMessage) (now : Nat) :
    Except StateUpdateError Bool × CommunicationStateManager :=
  let deviceId := deviceIdOf message
  if isBlank deviceId.val then (.error .emptyDeviceId,self)
  else if message.messageType = .ack then (.ok false,self)
  else
    match self.devices deviceId.val with
    | none => (.ok false,self)
    | some state =>
      (.ok true,{ self with
        devices := fun other =>
          if other = deviceId.val then some { state with status := .online,lastSeenAt := some now }
          else self.devices other })

/-- Elapsed time saturates at zero. -/
def markOffline (self : CommunicationStateManager) (now : Nat) : CommunicationStateManager :=
  { self with
    devices := fun deviceId =>
      (self.devices deviceId).map fun state =>
        if now - state.lastSeenAt.getD state.initialWaitStartedAt ≥ self.offlineTimeout then
          { state with status := .offline }
        else state }

/-- Observing a message leaves the set of managed devices. -/
theorem observeMessage_managed (self : CommunicationStateManager) (message : UdpMessage) (now : Nat)
    (deviceId : String) :
    ((self.observeMessage message now).2.device deviceId).isSome = (self.device deviceId).isSome := by
  simp only [observeMessage,device]
  split_ifs
  · rfl
  · rfl
  · cases found : self.devices (deviceIdOf message).val with
    | none => rfl
    | some state =>
      simp only
      split
      next same => simp [same,found]
      next => rfl

end CommunicationStateManager

end UchiPulse.Hub
