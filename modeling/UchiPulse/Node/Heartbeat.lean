import UchiPulse.Node.Udp

/-! The node's task that answers discovery requests and sends heartbeats. Times are in any
unit, and the interval is in the same one. -/
namespace UchiPulse.Node
open Common Json

def heartbeatBufferSize : Nat := 256

def NodeUdpProtocol.hello (self : NodeUdpProtocol) : UdpMessage := .hello self.deviceId
def NodeUdpProtocol.heartbeat (self : NodeUdpProtocol) : UdpMessage := .heartbeat self.deviceId

/-- Whether the hub's endpoint is known, and when a heartbeat was last due. -/
structure HeartbeatTask where
  hubEndpoint : Bool
  lastHeartbeat : Nat
deriving DecidableEq

/-- One turn of the loop: the hub may have asked for a HELLO. -/
def HeartbeatTask.turn (skip : Reader Unit) (protocol : NodeUdpProtocol) (interval : Nat) (self : HeartbeatTask)
    (request : Bool) (now : Nat) : HeartbeatTask × List (List UInt8) :=
  let hubEndpoint := self.hubEndpoint || request
  let hello :=
    if request then (NodeUdpProtocol.encodeMessage skip protocol.hello heartbeatBufferSize).toOption.toList else []
  if now - self.lastHeartbeat ≥ interval then
    let heartbeat :=
      if hubEndpoint then (NodeUdpProtocol.encodeMessage skip protocol.heartbeat heartbeatBufferSize).toOption.toList
      else []
    ({ hubEndpoint,lastHeartbeat := now },hello ++ heartbeat)
  else ({ self with hubEndpoint },hello)

end UchiPulse.Node
