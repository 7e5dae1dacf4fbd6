import UchiPulse.Hub.Processing

/-! The acknowledgement of an accepted event. The identifiers come raw from the datagram
and are escaped again on the way out, so that the ACK can outgrow the loop's buffer. -/
namespace UchiPulse.Hub
open Common Db Sql Json

/-- The bytes an identifier takes between the quotes of the ACK. -/
def escapedLength (text : String) : Nat := (Utf8.bytes (escape text)).length

/-- `{"type":"ACK","device_id":"","event_id":""}` -/
def ackFrameLength : Nat := 43

theorem ack_length (skip : Reader Unit) (deviceId : DeviceId) (eventId : EventId) :
    ((UdpMessage.codec skip).write (.ack deviceId eventId)).length =
      ackFrameLength + escapedLength deviceId.val + escapedLength eventId.val :=
  UdpMessage.write_length skip _

/-- The buffer takes exactly the ACKs whose escaped identifiers leave room for the rest. -/
theorem encode_ack_iff (skip : Reader Unit) (deviceId : DeviceId) (eventId : EventId) :
    (∃ reply, encode (UdpMessage.codec skip) (.ack deviceId eventId) ackBufferSize = .ok reply) ↔
      escapedLength deviceId.val + escapedLength eventId.val ≤ ackBufferSize - ackFrameLength := by
  simp only [encode_eq_ok,ack_length,ackBufferSize,ackFrameLength]
  constructor
  · rintro ⟨_,-,fits⟩
    omega
  · exact fun fits => ⟨_,rfl,by omega⟩

/-- The escaped identifiers of an event datagram leave room for the rest of its ACK. -/
def AckFits (skip : Reader Unit) (payload : List UInt8) : Prop :=
  ∀ deviceId eventId actionId, decode (UdpMessage.codec skip) payload = .ok (.event deviceId eventId actionId) →
    escapedLength deviceId.val + escapedLength eventId.val ≤ ackBufferSize - ackFrameLength

/-- An accepted event is acknowledged, and the loop goes on, exactly when the identifiers
of the datagram leave room; otherwise the program ends. -/
theorem ack_encoded_iff {A E : Type} (skip : Reader Unit) (handler : ActionHandler A E)
    (payload : List UInt8) (now : Nat) (receivedAt : String) (env : Env)
    (self next : HubUdpProcessor A) (deviceId : DeviceId) (eventId : EventId) (duplicate : Bool)
    (status : ActionExecutionStatus E) (ack : UdpMessage)
    (accepted : HubUdpProcessor.processDatagram skip handler payload now receivedAt env self =
      (.ok (.eventAccepted deviceId eventId duplicate status ack),next)) :
    ((∃ reply, encode (UdpMessage.codec skip) ack ackBufferSize = .ok reply) ↔ AckFits skip payload) ∧
    ((∀ error, (receive skip handler payload now receivedAt env self).1 ≠ .stops error) ↔
      AckFits skip payload) := by
  obtain ⟨rfl,actionId,decoded⟩ := HubUdpProcessor.processDatagram_accepted accepted
  have own : AckFits skip payload ↔
      escapedLength deviceId.val + escapedLength eventId.val ≤ ackBufferSize - ackFrameLength := by
    constructor
    · intro fits
      exact fits deviceId eventId actionId decoded
    · intro fits device event action found
      cases decoded.symm.trans found
      exact fits
  have fits := encode_ack_iff skip deviceId eventId
  rw [own,← fits]
  refine ⟨Iff.rfl,?_⟩
  simp only [receive,accepted]
  cases encode (UdpMessage.codec skip) (.ack deviceId eventId) ackBufferSize <;> simp

/-- A hub with one enabled device and one enabled action. -/
def smallHub : HubUdpProcessor ActionEngine where
  database := .opened { Tables.empty with
    devices := [{
      deviceId := "n",name := "node",deviceType := "FAMILY",registeredAt := "0",updatedAt := "0",
      enabled := true }],
    actions := [{
      actionId := 1,actionName := "call",targetType := "COMMON",targetFamilyId := none,
      webMessage := none,enabled := true }] }
  state := {
    devices := fun deviceId => if deviceId = "n" then
      some { deviceId,status := .initialWait,initialWaitStartedAt := 0,lastSeenAt := none } else none,
    offlineTimeout := 180 }
  actionHandler := .new

def smallDevice : DeviceId := ⟨"n",by decide⟩

/-- The identifier of a node's first event. -/
def firstEventId : EventId := ⟨"0000000000000001-0000000000000001",by decide⟩

def plainEvent : List UInt8 :=
  (UdpMessage.codec fun _ => none).write (.event smallDevice firstEventId 1)

theorem ack_encoded_iff_plain :
    (∃ reply, encode (UdpMessage.codec fun _ => none) (.ack smallDevice firstEventId) ackBufferSize =
      .ok reply) ∧
    ∀ error, (receive (fun _ => none) ActionEngine.handler plainEvent 0 "0" Env.quiet smallHub).1 ≠
      .stops error := by
  have accepted : (HubUdpProcessor.processDatagram (fun _ => none) ActionEngine.handler plainEvent 0 "0"
      Env.quiet smallHub).1 =
        .ok (.eventAccepted smallDevice firstEventId false .applied (.ack smallDevice firstEventId)) := by
    decide +kernel
  have short := ack_encoded_iff (fun _ => none) ActionEngine.handler plainEvent 0 "0" Env.quiet smallHub _
    _ _ _ _ _ (Prod.ext accepted rfl)
  have fits : AckFits (fun _ => none) plainEvent := by
    intro deviceId eventId actionId decoded
    have read : decode (UdpMessage.codec fun _ => none) plainEvent =
        .ok (.event smallDevice firstEventId 1) := by
      decide +kernel
    cases read.symm.trans decoded
    decide
  exact ⟨short.1.mpr fits,short.2.mpr fits⟩

/-- An event whose identifier reads as 128 backslashes. -/
def backslashEvent : List UInt8 :=
  (UdpMessage.codec fun _ => none).write
    (.event smallDevice ⟨String.ofList (List.replicate 64 '\\'),by decide⟩ 1)

theorem backslash_event_stops_hub : backslashEvent.length ≤ receiveBufferSize ∧
    (receive (fun _ => none) ActionEngine.handler backslashEvent 0 "0" Env.quiet smallHub).1 =
      .stops .bufferTooSmall := by
  constructor <;> decide +kernel

end UchiPulse.Hub
