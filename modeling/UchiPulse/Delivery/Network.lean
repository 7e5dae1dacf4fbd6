import UchiPulse.Delivery.Safety
import UchiPulse.Node.Discovery

/-! Many nodes, the hub, and strangers on one network. The hub asks for the nodes when it starts,
and a node talks to where the latest request came from. What a single node has to do with is a
run of the node and the hub alone. -/
namespace UchiPulse.Hub
open Common Json

def helloRequestType : String := "HELLO_REQUEST"

/-- The request of the hub, which is none of the messages. -/
def helloRequest : List UInt8 := writeObject [("type",writeText helloRequestType)]

def encodeHelloRequest (destination : Nat) : Except CodecError (List UInt8) :=
  if helloRequest.length ≤ destination then .ok helloRequest else .error .bufferTooSmall

end UchiPulse.Hub

namespace UchiPulse.Delivery
open Common Json Node Hub Db

/-- The addresses and the settings of the parties. A node has a socket for each of its tasks. -/
structure Layout (ι α : Type) where
  hub : α
  helloRequestAddr : α
  control : ι → α
  event : ι → α
  deviceId : ι → DeviceId
  interval : ι → Nat

/-- Who sent a datagram, and as what. -/
inductive Origin (ι : Type) where
  | request
  | reply
  | event (node : ι)
  | control (node : ι)
  | stranger
deriving DecidableEq

structure Transmission (ι α : Type) where
  origin : Origin ι
  source : α
  target : α
  payload : List UInt8
deriving DecidableEq

structure Tasks (α : Type) where
  discovery : DiscoveryTask α
  protocol : NodeUdpProtocol
  sender : EventSender

structure Station (α : Type) where
  /-- The boot ids the node has used. -/
  bootIds : List UInt64
  tasks : Option (Tasks α)
  created : List PendingEvent
  delivered : List PendingEvent

structure Network (ι α A : Type) where
  stations : ι → Station α
  /-- Every datagram ever sent. Each may arrive at any time, any number of times, or never. -/
  sent : List (Transmission ι α)
  up : Bool
  hub : HubUdpProcessor (Recorded A)

def eventRxSize : Nat := 512
def helloRequestSize : Nat := 64

/-- What a node's wait for an ACK ends with. -/
inductive Waited (ι α : Type) where
  | arrives (transmission : Transmission ι α)
  | failed
  | elapsed

/-- A datagram that does not fit is not received. -/
def Waited.received {ι α : Type} : Waited ι α → Received
  | arrives transmission => if transmission.payload.length ≤ eventRxSize then .datagram transmission.payload else .failed
  | failed => .failed
  | elapsed => .elapsed

inductive NetworkMove (ι α : Type) where
  | boot (node : ι) (bootId : UInt64) (eventRetryCount : UInt8) (now : Nat)
  | powerOff (node : ι)
  | trigger (node : ι) (action : TriggeredAction)
  | turn (node : ι) (received : Option (Transmission ι α)) (now : Nat)
  | attempt (node : ι) (sends : Bool)
  | wait (node : ι) (waited : Waited ι α) (deadlineReached : Bool)
  | receive (transmission : Transmission ι α) (now : Nat) (receivedAt : String) (env : Env) (sends : Bool)
  | crash (transmission : Transmission ι α) (now : Nat) (receivedAt : String) (env : Env) (called : Bool)
  | quiet (now : Nat)
  | stop
  | restart (connection : Connection) (initialWaitStartedAt offlineTimeout : Nat) (env : Env) (sends : Bool)
  | speak (source target : α) (payload : List UInt8)

/-- What the hub's buffer takes of a datagram. -/
def Transmission.read {ι α : Type} (self : Transmission ι α) : List UInt8 := self.payload.take receiveBufferSize

section
variable {ι α A E : Type} [DecidableEq ι] (skip : Reader Unit) (handler : ActionHandler A E) (start : A)
  (layout : Layout ι α)

namespace Network

def change (self : Network ι α A) (node : ι) (station : Station α) : Network ι α A :=
  { self with stations := Function.update self.stations node station }

def send (self : Network ι α A) (transmissions : List (Transmission ι α)) : Network ι α A :=
  { self with sent := self.sent ++ transmissions }

/-- An address that takes no request, or no reply, ends the hub. -/
def step (self : Network ι α A) : NetworkMove ι α → Network ι α A
  | .boot node bootId eventRetryCount now =>
    self.change node { self.stations node with
      bootIds := bootId :: (self.stations node).bootIds
      tasks := (EventSender.new (layout.deviceId node).val bootId eventRetryCount).toOption.map fun sender =>
        { discovery := { hubEndpoint := none,lastHeartbeat := now },protocol := sender.protocol,sender } }
  | .powerOff node => self.change node { self.stations node with tasks := none }
  | .trigger node action =>
    match (self.stations node).tasks with
    | none => self
    | some tasks =>
      let (event,sender) := tasks.sender.accept skip action
      self.change node { self.stations node with
        tasks := some { tasks with sender }
        created := (self.stations node).created ++ event.toList }
  | .turn node received now =>
    match (self.stations node).tasks with
    | none => self
    | some tasks =>
      let (discovery,datagrams) := tasks.discovery.turn skip tasks.protocol (layout.interval node)
        (received.map fun transmission => (transmission.source,transmission.payload)) now
      (self.change node { self.stations node with tasks := some { tasks with discovery } }).send
        (datagrams.map fun datagram =>
          { origin := .control node,source := layout.control node,target := datagram.1,payload := datagram.2 })
  | .attempt node sends =>
    match (self.stations node).tasks with
    | none => self
    | some tasks =>
      match tasks.discovery.hubEndpoint with
      | none =>
        self.change node { self.stations node with
          tasks := some { tasks with sender := (tasks.sender.attempt false sends).2 } }
      | some target =>
        let (datagram,sender) := tasks.sender.attempt true sends
        (self.change node { self.stations node with tasks := some { tasks with sender } }).send
          (datagram.toList.map fun payload =>
            { origin := .event node,source := layout.event node,target,payload })
  | .wait node waited deadlineReached =>
    match (self.stations node).tasks with
    | none => self
    | some tasks =>
      let (event,sender) := tasks.sender.waitForAck skip waited.received deadlineReached
      self.change node { self.stations node with
        tasks := some { tasks with sender }
        delivered := (self.stations node).delivered ++ event.toList }
  | .receive transmission now receivedAt env sends =>
    if self.up then
      match Hub.receive skip handler.recorded transmission.read now receivedAt env self.hub with
      | (.continues none,hub) => { self with hub }
      | (.continues (some payload),hub) =>
        if sends then
          { self with hub }.send [{ origin := .reply,source := layout.hub,target := transmission.source,payload }]
        else { self with up := false,hub }
      | (.stops _,hub) => { self with up := false,hub }
    else self
  | .crash transmission now receivedAt env called =>
    if self.up then
      let hub := (Hub.receive skip handler.recorded transmission.read now receivedAt env self.hub).2
      { self with
        up := false
        hub := if called then hub else { hub with actionHandler := self.hub.actionHandler } }
    else self
  | .quiet now => if self.up then { self with hub := self.hub.markOffline now } else self
  | .stop => { self with up := false }
  | .restart connection initialWaitStartedAt offlineTimeout env sends =>
    match HubUdpProcessor.fromDatabase connection initialWaitStartedAt offlineTimeout
      { handler := start,calls := calls self.hub } env with
    | .error _ => { self with up := false }
    | .ok hub =>
      match encodeHelloRequest helloRequestSize,sends with
      | .ok payload,true => { self with up := true,hub }.send
          [{ origin := .request,source := layout.hub,target := layout.helloRequestAddr,payload }]
      | _,_ => { self with up := false,hub }
  | .speak source target payload => self.send [{ origin := .stranger,source,target,payload }]

def run (self : Network ι α A) (moves : List (NetworkMove ι α)) : Network ι α A :=
  moves.foldl (step skip handler start layout) self

/-- Neither a discovery request, nor an EVENT or an ACK of a node. -/
def Foreign (payload : List UInt8) : Prop :=
  isHelloRequest payload = false ∧ ∀ node,
    (∀ eventId actionId, decode (UdpMessage.codec skip) payload ≠ .ok (.event (layout.deviceId node) eventId actionId)) ∧
    ∀ eventId, decode (UdpMessage.codec skip) payload ≠ .ok (.ack (layout.deviceId node) eventId)

/-- A boot has a new id, only what was sent arrives, and only where it is sent to; strangers do
not speak for the hub and the nodes, and nobody else writes the event history. -/
def Allowed (self : Network ι α A) : NetworkMove ι α → Prop
  | .boot node bootId _ _ => bootId ∉ (self.stations node).bootIds
  | .turn node (some transmission) _ => transmission ∈ self.sent ∧
      (transmission.target = layout.control node ∨ transmission.target = layout.helloRequestAddr)
  | .wait node (.arrives transmission) _ => transmission ∈ self.sent ∧ transmission.target = layout.event node
  | .receive transmission _ _ env _ => transmission ∈ self.sent ∧
      (transmission.target = layout.hub ∨ transmission.target = layout.helloRequestAddr) ∧ Sql.Stable env history
  | .crash transmission _ _ env _ => transmission ∈ self.sent ∧
      (transmission.target = layout.hub ∨ transmission.target = layout.helloRequestAddr) ∧ Sql.Stable env history
  | .restart connection _ _ env _ => connection.working = none ∧
      history connection.committed = history self.hub.database.committed ∧ Sql.Stable env history
  | .speak _ _ payload => Foreign skip layout payload ∧ Foreign skip layout (payload.take receiveBufferSize)
  | _ => True

def Possible : Network ι α A → List (NetworkMove ι α) → Prop
  | _, [] => True
  | self, move :: moves => self.Allowed skip layout move ∧ Possible (self.step skip handler start layout move) moves

/-! ### One node and the hub -/

/-- What matters to the delivery of a node's events. -/
def Carries (node : ι) (transmission : Transmission ι α) : Bool :=
  transmission.origin = .reply || transmission.origin = .event node

/-- The node and the hub alone. -/
def view (self : Network ι α A) (node : ι) : System A where
  bootIds := (self.stations node).bootIds
  node := (self.stations node).tasks.map (·.sender)
  sent := (self.sent.filter (Carries node)).map (·.payload)
  created := (self.stations node).created
  delivered := (self.stations node).delivered
  up := self.up
  hub := self.hub

/-- What a move is to a node and the hub alone. A reply that cannot be sent is a crash. -/
def moves (self : Network ι α A) (node : ι) : NetworkMove ι α → List Move
  | .boot other bootId eventRetryCount _ => if other = node then [.boot bootId eventRetryCount] else []
  | .powerOff other => if other = node then [.powerOff] else []
  | .trigger other action => if other = node then [.trigger action] else []
  | .turn .. => []
  | .attempt other sends =>
    if other = node then
      [.attempt ((self.stations node).tasks.any (·.discovery.hubEndpoint.isSome)) sends] else []
  | .wait other waited deadlineReached => if other = node then [.wait waited.received deadlineReached] else []
  | .receive transmission now receivedAt env sends =>
    match (Hub.receive skip handler.recorded transmission.read now receivedAt env self.hub).1,sends with
    | .continues (some _),false => [.crash transmission.read now receivedAt env true]
    | _,_ => [.receive transmission.read now receivedAt env]
  | .crash transmission now receivedAt env called => [.crash transmission.read now receivedAt env called]
  | .quiet now => [.quiet now]
  | .stop => [.stop]
  | .restart connection initialWaitStartedAt offlineTimeout env sends =>
    .restart connection initialWaitStartedAt offlineTimeout env :: if sends then [] else [.stop]
  | .speak .. => []

end Network

end

end UchiPulse.Delivery
