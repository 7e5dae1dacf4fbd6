import UchiPulse.Hub.Ack
import UchiPulse.Node.Udp

/-! Identifiers on their way between a node and the hub. A message that was written is
read back with its identifiers escaped; the hub's ACK escapes them once more. -/
namespace UchiPulse.Delivery
open Common Json Node Hub Db

/-- A written message is read back as it was exactly when its identifiers are plain. -/
theorem decode_encode_iff (skip : Reader Unit) (message : UdpMessage) (destination : Nat)
    (written : List UInt8) (encoded : encode (UdpMessage.codec skip) message destination = .ok written) :
    decode (UdpMessage.codec skip) written = .ok message ↔ message.Plain := by
  obtain ⟨rfl,-⟩ := encode_eq_ok.mp encoded
  exact message.decode_write_self skip

/-- A reply of the hub acknowledges the event its datagram was read as. -/
theorem receive_reply {A E : Type} {skip : Reader Unit} {handler : ActionHandler A E}
    {payload reply : List UInt8} {now : Nat} {receivedAt : String} {env : Env}
    {self next : HubUdpProcessor A}
    (replied : receive skip handler payload now receivedAt env self = (.continues (some reply),next)) :
    ∃ deviceId eventId actionId,
      decode (UdpMessage.codec skip) payload = .ok (.event deviceId eventId actionId) ∧
      reply = (UdpMessage.codec skip).write (.ack deviceId eventId) := by
  obtain ⟨deviceId,eventId,duplicate,status,ack,accepted,written⟩ :=
    receive_replied _ _ _ _ _ _ _ _ (congrArg Prod.fst replied)
  obtain ⟨rfl,actionId,decoded⟩ :=
    HubUdpProcessor.processDatagram_accepted (Program.result_eq accepted)
  exact ⟨deviceId,eventId,actionId,decoded,written⟩

/-- The texts of an event read from its own datagram. -/
theorem event_image {deviceId found : DeviceId} {eventId known : EventId} {actionId action : ActionId}
    (image : (UdpMessage.event deviceId eventId actionId).image = some (.event found known action)) :
    found.val = escape deviceId.val ∧ known.val = escape eventId.val := by
  simp only [UdpMessage.image,Option.bind_eq_some_iff,Option.map_eq_some_iff,UdpMessage.event.injEq] at image
  obtain ⟨device,deviceImage,event,eventImage,rfl,rfl,-⟩ := image
  exact ⟨image_text_val deviceImage,image_text_val eventImage⟩

/-- What a node makes of an ACK for identifiers that were escaped once before. -/
theorem ackMatches_escaped (skip : Reader Unit) (protocol : NodeUdpProtocol) (event : PendingEvent)
    {deviceId : DeviceId} {eventId : EventId} (device : deviceId.val = escape protocol.deviceId.val)
    (known : eventId.val = escape event.eventId.val) :
    protocol.ackMatches skip event ((UdpMessage.codec skip).write (.ack deviceId eventId)) = true ↔
      Plain protocol.deviceId.val ∧ Plain event.eventId.val := by
  have same {n : Nat} {text : Text n} {found : Text n} (once : found.val = escape text.val) :
      (Codec.text n).image found = some text ↔ Plain text.val := by
    rw [Codec.text,Text.ofString?_eq_some,once,eq_comm,escape_escape_eq_self_iff]
  rw [NodeUdpProtocol.ackMatches_iff,decode_write,← same device,← same known]
  simp only [UdpMessage.codec,UdpMessage.image,Option.bind_eq_some_iff,Option.map_eq_some_iff,UdpMessage.ack.injEq]
  constructor
  · rintro ⟨_,deviceImage,_,eventImage,rfl,rfl⟩
    exact ⟨deviceImage,eventImage⟩
  · rintro ⟨deviceImage,eventImage⟩
    exact ⟨_,deviceImage,_,eventImage,rfl,rfl⟩

/-- A message survives its encoding, and the ACK for a node's event is recognised by the
node, exactly when the identifiers need no escape. -/
theorem identifiers_preserved_iff (skip : Reader Unit) :
    (∀ message destination written,
      encode (UdpMessage.codec skip) message destination = .ok written →
        (decode (UdpMessage.codec skip) written = .ok message ↔ message.Plain)) ∧
    ∀ (A E : Type) (handler : ActionHandler A E) (env : Env) (now : Nat) (receivedAt : String)
      (hub next : HubUdpProcessor A) (protocol : NodeUdpProtocol) (event : PendingEvent)
      (destination : Nat) (datagram reply : List UInt8), event.deviceId = protocol.deviceId →
        NodeUdpProtocol.encodeMessage skip event.message destination = .ok datagram →
        receive skip handler datagram now receivedAt env hub = (.continues (some reply),next) →
        (protocol.ackMatches skip event reply = true ↔ event.message.Plain) := by
  refine ⟨decode_encode_iff skip,?_⟩
  intro A E handler env now receivedAt hub next protocol event destination datagram reply own sent replied
  obtain ⟨deviceId,eventId,actionId,decoded,rfl⟩ := receive_reply replied
  rw [NodeUdpProtocol.encodeMessage_eq_ok sent,decode_write] at decoded
  obtain ⟨device,known⟩ := event_image decoded
  rw [own] at device
  rw [ackMatches_escaped skip protocol event device known,PendingEvent.message,UdpMessage.Plain,own]

/-- The node `n` after its first boot, with its first event on the way. -/
def smallNode : NodeUdpProtocol where
  deviceId := smallDevice
  eventIds := { bootId := 1,nextSequence := 2 }

def firstEvent : PendingEvent where
  deviceId := smallDevice
  eventId := firstEventId
  actionId := 1

theorem identifiers_preserved_iff_plain :
    decode (UdpMessage.codec fun _ => none) ((UdpMessage.codec fun _ => none).write firstEvent.message) =
      .ok firstEvent.message ∧
    smallNode.ackMatches (fun _ => none) firstEvent
      ((UdpMessage.codec fun _ => none).write (.ack firstEvent.deviceId firstEvent.eventId)) = true := by
  have plain : firstEvent.message.Plain := by
    refine ⟨?_,?_⟩ <;> decide
  have sent : NodeUdpProtocol.encodeMessage (fun _ => none) firstEvent.message 512 = .ok plainEvent := by
    decide +kernel
  have replied : (receive (fun _ => none) ActionEngine.handler plainEvent 0 "0" Env.quiet smallHub).1 =
      .continues (some ((UdpMessage.codec fun _ => none).write
        (.ack firstEvent.deviceId firstEvent.eventId))) := by
    decide +kernel
  obtain ⟨messages,acks⟩ := identifiers_preserved_iff fun _ => none
  exact ⟨(messages firstEvent.message 512 _ (by decide +kernel)).mpr plain,
    (acks _ _ _ _ _ _ _ _ smallNode firstEvent 512 _ _ rfl sent (Prod.ext replied rfl)).mpr plain⟩

/-- The node `node\01`, and a hub that knows it under the name it reads. -/
def backslashNode : NodeUdpProtocol :=
  { smallNode with deviceId := ⟨"node\\01",by decide⟩ }

def renamedHub : HubUdpProcessor ActionEngine :=
  { smallHub with
    database := .opened { smallHub.database.committed with
      devices := smallHub.database.committed.devices.map ({ · with deviceId := "node\\\\01" }) }
    state := { smallHub.state with
      devices := fun deviceId =>
        if deviceId = "node\\\\01" then (smallHub.state.devices "n").map ({ · with deviceId }) else none } }

theorem backslash_device_renamed :
    (∃ written, encode (UdpMessage.codec fun _ => none) (.hello backslashNode.deviceId) 512 = .ok written ∧
      decode (UdpMessage.codec fun _ => none) written ≠ .ok (.hello backslashNode.deviceId)) ∧
    ∃ datagram reply,
      NodeUdpProtocol.encodeMessage (fun _ => none)
        { firstEvent with deviceId := backslashNode.deviceId }.message 512 = .ok datagram ∧
      (receive (fun _ => none) ActionEngine.handler datagram 0 "0" Env.quiet renamedHub).1 =
        .continues (some reply) ∧
      backslashNode.ackMatches (fun _ => none) { firstEvent with deviceId := backslashNode.deviceId } reply =
        false := by
  refine ⟨⟨(UdpMessage.codec fun _ => none).write (.hello backslashNode.deviceId),by decide +kernel,
    by decide +kernel⟩,
    (UdpMessage.codec fun _ => none).write { firstEvent with deviceId := backslashNode.deviceId }.message,
    (UdpMessage.codec fun _ => none).write (.ack ⟨"node\\\\01",by decide⟩ firstEvent.eventId),
    by decide +kernel,by decide +kernel,by decide +kernel⟩

end UchiPulse.Delivery
