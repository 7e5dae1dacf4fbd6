import UchiPulse.Hub.Recorded
import UchiPulse.Node.Sender

/-! A node, the hub and the network between them. The node may reboot and the hub may be
restarted on its database at any time; the network loses, duplicates, delays and reorders
datagrams, but nobody forges an EVENT or an ACK of the node. -/
namespace UchiPulse.Delivery
open Common Json Node Hub Db

structure System (A : Type) where
  /-- The boot ids the node has used. -/
  bootIds : List UInt64
  node : Option EventSender
  /-- Every datagram ever sent. Each may arrive at any time, any number of times, or never. -/
  sent : List (List UInt8)
  /-- The EVENTs that triggered actions became. -/
  created : List PendingEvent
  /-- The EVENTs the node has marked as delivered. -/
  delivered : List PendingEvent
  up : Bool
  /-- While the hub is down, only its database and the record of calls matter. -/
  hub : HubUdpProcessor (Recorded A)

/-- What may happen next. -/
inductive Move where
  | boot (bootId : UInt64) (eventRetryCount : UInt8)
  | powerOff
  | trigger (action : TriggeredAction)
  | attempt (discovered sends : Bool)
  | wait (received : Received) (deadlineReached : Bool)
  | receive (payload : List UInt8) (now : Nat) (receivedAt : String) (env : Env)
  /-- The hub dies on a datagram: the statements after that fail, nothing is answered, and
  the handler may not have been called any more. -/
  | crash (payload : List UInt8) (now : Nat) (receivedAt : String) (env : Env) (called : Bool)
  /-- No datagram arrives for a while. -/
  | quiet (now : Nat)
  | stop
  | restart (connection : Connection) (initialWaitStartedAt offlineTimeout : Nat) (env : Env)

section
variable {A E : Type} (skip : Reader Unit) (handler : ActionHandler A E) (start : A) (deviceId : DeviceId)

def step (self : System A) : Move → System A
  | .boot bootId eventRetryCount =>
    { self with
      bootIds := bootId :: self.bootIds
      node := (EventSender.new deviceId.val bootId eventRetryCount).toOption }
  | .powerOff => { self with node := none }
  | .trigger action =>
    match self.node with
    | none => self
    | some sender =>
      let (event,next) := sender.accept skip action
      { self with node := some next,created := self.created ++ event.toList }
  | .attempt discovered sends =>
    match self.node with
    | none => self
    | some sender =>
      let (datagram,next) := sender.attempt discovered sends
      { self with node := some next,sent := self.sent ++ datagram.toList }
  | .wait received deadlineReached =>
    match self.node with
    | none => self
    | some sender =>
      let (event,next) := sender.waitForAck skip received deadlineReached
      { self with node := some next,delivered := self.delivered ++ event.toList }
  | .receive payload now receivedAt env =>
    if self.up then
      match Hub.receive skip handler.recorded payload now receivedAt env self.hub with
      | (.continues reply,hub) => { self with sent := self.sent ++ reply.toList,hub }
      | (.stops _,hub) => { self with up := false,hub }
    else self
  | .crash payload now receivedAt env called =>
    if self.up then
      let hub := (Hub.receive skip handler.recorded payload now receivedAt env self.hub).2
      { self with
        up := false
        hub := if called then hub else { hub with actionHandler := self.hub.actionHandler } }
    else self
  | .quiet now => if self.up then { self with hub := self.hub.markOffline now } else self
  | .stop => { self with up := false }
  | .restart connection initialWaitStartedAt offlineTimeout env =>
    match HubUdpProcessor.fromDatabase connection initialWaitStartedAt offlineTimeout
      { handler := start,calls := calls self.hub } env with
    | .error _ => { self with up := false }
    | .ok hub => { self with up := true,hub }

def run (self : System A) (moves : List Move) : System A := moves.foldl (step skip handler start deviceId) self

/-- Sent at some time, or neither an EVENT nor an ACK of the node. -/
def Genuine (sent : List (List UInt8)) (payload : List UInt8) : Prop :=
  payload ∈ sent ∨
    (∀ eventId actionId, decode (UdpMessage.codec skip) payload ≠ .ok (.event deviceId eventId actionId)) ∧
    ∀ eventId, decode (UdpMessage.codec skip) payload ≠ .ok (.ack deviceId eventId)

/-- A boot has a new id, a datagram is genuine, and nobody else writes the event history. -/
def Allowed (self : System A) : Move → Prop
  | .boot bootId _ => bootId ∉ self.bootIds
  | .wait (.datagram payload) _ => Genuine skip deviceId self.sent payload
  | .receive payload _ _ env => Genuine skip deviceId self.sent payload ∧ Sql.Stable env history
  | .crash payload _ _ env _ => Genuine skip deviceId self.sent payload ∧ Sql.Stable env history
  | .restart connection _ _ env =>
    connection.working = none ∧
      history connection.committed = history self.hub.database.committed ∧ Sql.Stable env history
  | _ => True

def Possible : System A → List Move → Prop
  | _, [] => True
  | self, move :: moves =>
    Allowed skip deviceId self move ∧ Possible (step skip handler start deviceId self move) moves

end

/-- The node is off and nothing is on its way. Rows of the node in the history are of boots
it has had before. -/
structure Initial {A : Type} (deviceId : DeviceId) (system : System A) : Prop where
  node : system.node = none
  sent : system.sent = []
  created : system.created = []
  delivered : system.delivered = []
  idle : system.hub.database.working = none
  calls : calls system.hub = []
  unique : ((history system.hub.database.committed).map fun row => (row.deviceId,row.eventId)).Nodup
  rows : ∀ row ∈ history system.hub.database.committed, row.deviceId = deviceId.val →
    ∃ bootId ∈ system.bootIds, ∃ sequence, row.eventId = eventIdText bootId sequence

end UchiPulse.Delivery
