import UchiPulse.Common.Types

/-! The UDP wire format: an object tagged by its `type`, read by a visitor of its own
that keeps the last occurrence of each key and skips the keys it does not know. -/
namespace UchiPulse.Common
open Json

inductive MessageType where
  | hello | heartbeat | event | ack
deriving DecidableEq

def MessageType.name : MessageType → String
  | .hello => "HELLO"
  | .heartbeat => "HEARTBEAT"
  | .event => "EVENT"
  | .ack => "ACK"

def MessageType.ofName : String → Option MessageType
  | "HELLO" => some .hello
  | "HEARTBEAT" => some .heartbeat
  | "EVENT" => some .event
  | "ACK" => some .ack
  | _ => none

def MessageType.codec : Codec MessageType := .names MessageType.name MessageType.ofName

inductive UdpMessage where
  | hello (deviceId : DeviceId)
  | heartbeat (deviceId : DeviceId)
  | event (deviceId : DeviceId) (eventId : EventId) (actionId : ActionId)
  | ack (deviceId : DeviceId) (eventId : EventId)
deriving DecidableEq

def UdpMessage.messageType : UdpMessage → MessageType
  | .hello .. => .hello
  | .heartbeat .. => .heartbeat
  | .event .. => .event
  | .ack .. => .ack

/-! ### Writing -/

def UdpMessage.entries (message : UdpMessage) : List (String × List UInt8) :=
  ("type",MessageType.codec.write message.messageType) ::
    match message with
    | .hello deviceId => [("device_id",(Codec.text _).write deviceId)]
    | .heartbeat deviceId => [("device_id",(Codec.text _).write deviceId)]
    | .event deviceId eventId actionId =>
      [("device_id",(Codec.text _).write deviceId),("event_id",(Codec.text _).write eventId),
        ("action_id",Codec.u32.write actionId)]
    | .ack deviceId eventId =>
      [("device_id",(Codec.text _).write deviceId),("event_id",(Codec.text _).write eventId)]

/-! ### Reading -/

inductive Field where
  | messageType | deviceId | eventId | actionId | ignore
deriving DecidableEq

def Field.ofKey : String → Field
  | "type" => .messageType
  | "device_id" => .deviceId
  | "event_id" => .eventId
  | "action_id" => .actionId
  | _ => .ignore

/-- The visitor's local variables. -/
structure Draft where
  messageType : Option MessageType := none
  deviceId : Option DeviceId := none
  eventId : Option EventId := none
  actionId : Option ActionId := none
deriving DecidableEq

/-- One round of the visitor's loop, over the reads a map offers for its next value. -/
def visitField {m : Type → Type} [Monad m] (nextType : m MessageType) (nextDevice : m DeviceId)
    (nextEvent : m EventId) (nextAction : m ActionId) (nextIgnored : m Unit) (field : Field)
    (draft : Draft) : m Draft :=
  match field with
  | .messageType => do
    let value ← nextType
    return { draft with messageType := some value }
  | .deviceId => do
    let value ← nextDevice
    return { draft with deviceId := some value }
  | .eventId => do
    let value ← nextEvent
    return { draft with eventId := some value }
  | .actionId => do
    let value ← nextAction
    return { draft with actionId := some value }
  | .ignore => do
    let _ ← nextIgnored
    return draft

/-- What the visitor returns after its loop. -/
def Draft.finish (draft : Draft) : Option UdpMessage :=
  match draft.messageType,draft.deviceId with
  | none,_ => none
  | _,none => none
  | some messageType,some deviceId =>
    match messageType,draft.eventId,draft.actionId with
    | .hello,none,none => some (.hello deviceId)
    | .heartbeat,none,none => some (.heartbeat deviceId)
    | .event,some eventId,some actionId => some (.event deviceId eventId actionId)
    | .ack,some eventId,none => some (.ack deviceId eventId)
    | _,_,_ => none

/-- The visitor over the bytes of an object; `skip` passes over an ignored value. -/
def visit (skip : Reader Unit) (key : String) (draft : Draft) : Reader Draft :=
  visitField MessageType.codec.read (Codec.text _).read (Codec.text _).read Codec.u32.read skip
    (Field.ofKey key) draft

def UdpMessage.read (skip : Reader Unit) : Reader UdpMessage := fun input =>
  match readObject (visit skip) {} input with
  | some (draft,left) => draft.finish.map (·,left)
  | none => none

theorem MessageType.image (messageType : MessageType) :
    MessageType.codec.image messageType = some messageType := by
  cases messageType <;> decide

/-- What is read where a message was written. -/
def UdpMessage.image : UdpMessage → Option UdpMessage
  | .hello deviceId => ((Codec.text _).image deviceId).map .hello
  | .heartbeat deviceId => ((Codec.text _).image deviceId).map .heartbeat
  | .event deviceId eventId actionId =>
    ((Codec.text _).image deviceId).bind fun deviceId =>
      ((Codec.text _).image eventId).map fun eventId => .event deviceId eventId actionId
  | .ack deviceId eventId =>
    ((Codec.text _).image deviceId).bind fun deviceId =>
      ((Codec.text _).image eventId).map fun eventId => .ack deviceId eventId

section
variable {skip : Reader Unit} {draft : Draft} {entries : List (String × List UInt8)}

theorem visit_type (draft : Draft) (input : List UInt8) : visit skip "type" draft input =
    (MessageType.codec.read input).map fun (value,left) => ({ draft with messageType := some value },left) := by
  change (MessageType.codec.read input).bind _ = _
  cases MessageType.codec.read input <;> rfl

theorem visit_device (draft : Draft) (input : List UInt8) : visit skip "device_id" draft input =
    ((Codec.text deviceIdCapacity).read input).map fun (value,left) => ({ draft with deviceId := some value },left) := by
  change ((Codec.text deviceIdCapacity).read input).bind _ = _
  cases (Codec.text deviceIdCapacity).read input <;> rfl

theorem visit_event (draft : Draft) (input : List UInt8) : visit skip "event_id" draft input =
    ((Codec.text eventIdCapacity).read input).map fun (value,left) => ({ draft with eventId := some value },left) := by
  change ((Codec.text eventIdCapacity).read input).bind _ = _
  cases (Codec.text eventIdCapacity).read input <;> rfl

theorem visit_action (draft : Draft) (input : List UInt8) : visit skip "action_id" draft input =
    (Codec.u32.read input).map fun (value,left) => ({ draft with actionId := some value },left) := by
  change (Codec.u32.read input).bind _ = _
  cases Codec.u32.read input <;> rfl

theorem accepts_type (messageType : MessageType) {out : Option Draft}
    (more : Accepts (visit skip) { draft with messageType := some messageType } entries out) :
    Accepts (visit skip) draft (("type",MessageType.codec.write messageType) :: entries) out := by
  have step : Accepts (visit skip) draft
      (("type",MessageType.codec.write messageType) :: entries)
      ((MessageType.codec.image messageType).bind fun _ => out) :=
    .value MessageType.codec messageType (fun value => { draft with messageType := some value }) (fun _ => out)
    (visit_type draft)
    (fun found image => by
      rw [MessageType.image,Option.some.injEq] at image
      rwa [← image])
  rwa [MessageType.image] at step

theorem accepts_device (deviceId : DeviceId) (out : DeviceId → Option Draft)
    (more : ∀ found, Accepts (visit skip) { draft with deviceId := some found } entries (out found)) :
    Accepts (visit skip) draft (("device_id",(Codec.text _).write deviceId) :: entries)
      (((Codec.text _).image deviceId).bind out) :=
  .value (Codec.text _) deviceId (fun value => { draft with deviceId := some value }) out
    (visit_device draft)
    fun found _ => more found

theorem accepts_event (eventId : EventId) (out : EventId → Option Draft)
    (more : ∀ found, Accepts (visit skip) { draft with eventId := some found } entries (out found)) :
    Accepts (visit skip) draft (("event_id",(Codec.text _).write eventId) :: entries)
      (((Codec.text _).image eventId).bind out) :=
  .value (Codec.text _) eventId (fun value => { draft with eventId := some value }) out
    (visit_event draft)
    fun found _ => more found

theorem accepts_action (actionId : ActionId) :
    Accepts (visit skip) draft [("action_id",Codec.u32.write actionId)]
      (some { draft with actionId := some actionId }) :=
  .value Codec.u32 actionId (fun value => { draft with actionId := some value })
    (fun value => some { draft with actionId := some value })
    (visit_action draft)
    fun _ _ => .done _

end

/-- The visitor's loop over a written message ends in a draft of its image. -/
theorem UdpMessage.accepts (skip : Reader Unit) (message : UdpMessage) : ∃ out,
    Accepts (visit skip) {} message.entries out ∧ out.bind Draft.finish = message.image := by
  cases message with
  | hello deviceId =>
    refine ⟨_,accepts_type _ (accepts_device deviceId
      (fun found => some { messageType := some .hello,deviceId := some found }) fun _ => .done _),?_⟩
    simp only [UdpMessage.image]
    cases (Codec.text deviceIdCapacity).image deviceId <;> rfl
  | heartbeat deviceId =>
    refine ⟨_,accepts_type _ (accepts_device deviceId
      (fun found => some { messageType := some .heartbeat,deviceId := some found }) fun _ => .done _),?_⟩
    simp only [UdpMessage.image]
    cases (Codec.text deviceIdCapacity).image deviceId <;> rfl
  | event deviceId eventId actionId =>
    refine ⟨_,accepts_type _ (accepts_device deviceId _ fun _ => accepts_event eventId
      (fun _ => some _) fun _ => accepts_action actionId),?_⟩
    simp only [UdpMessage.image]
    cases (Codec.text deviceIdCapacity).image deviceId with
    | none => rfl
    | some deviceId => cases (Codec.text eventIdCapacity).image eventId <;> rfl
  | ack deviceId eventId =>
    refine ⟨_,accepts_type _ (accepts_device deviceId
      (fun device => ((Codec.text _).image eventId).bind fun event =>
        some { messageType := some .ack,deviceId := some device,eventId := some event })
      fun _ => accepts_event eventId _ fun _ => .done _),?_⟩
    simp only [UdpMessage.image]
    cases (Codec.text deviceIdCapacity).image deviceId with
    | none => rfl
    | some deviceId => cases (Codec.text eventIdCapacity).image eventId <;> rfl

theorem UdpMessage.plain_entries (message : UdpMessage) : ∀ entry ∈ message.entries, Plain entry.1 := by
  have keys : ∀ key ∈ ["type","device_id","event_id","action_id"], Plain key := by decide
  intro entry member
  apply keys
  cases message <;>
    simp only [UdpMessage.entries,List.mem_cons,List.not_mem_nil,or_false] at member <;>
    rcases member with rfl | rfl | rfl | rfl <;> simp

def UdpMessage.codec (skip : Reader Unit) : Codec UdpMessage where
  write message := writeObject message.entries
  read := UdpMessage.read skip
  image := UdpMessage.image
  opens message := ⟨openBrace,_,rfl,by decide⟩
  reads message rest _ := by
    obtain ⟨out,accepts,finish⟩ := message.accepts skip
    rw [UdpMessage.read,readObject_writeObject accepts message.plain_entries,← finish]
    cases out <;> rfl

/-- The identifiers of a message. -/
def UdpMessage.Plain : UdpMessage → Prop
  | .hello deviceId => Json.Plain deviceId.val
  | .heartbeat deviceId => Json.Plain deviceId.val
  | .event deviceId eventId _ => Json.Plain deviceId.val ∧ Json.Plain eventId.val
  | .ack deviceId eventId => Json.Plain deviceId.val ∧ Json.Plain eventId.val

theorem UdpMessage.image_eq_self (message : UdpMessage) :
    message.image = some message ↔ message.Plain := by
  cases message with
  | hello deviceId =>
    rw [UdpMessage.Plain,← image_text,UdpMessage.image]
    cases (Codec.text deviceIdCapacity).image deviceId <;> simp
  | heartbeat deviceId =>
    rw [UdpMessage.Plain,← image_text,UdpMessage.image]
    cases (Codec.text deviceIdCapacity).image deviceId <;> simp
  | event deviceId eventId actionId =>
    rw [UdpMessage.Plain,← image_text,← image_text,UdpMessage.image]
    cases (Codec.text deviceIdCapacity).image deviceId <;>
      cases (Codec.text eventIdCapacity).image eventId <;> simp
  | ack deviceId eventId =>
    rw [UdpMessage.Plain,← image_text,← image_text,UdpMessage.image]
    cases (Codec.text deviceIdCapacity).image deviceId <;>
      cases (Codec.text eventIdCapacity).image eventId <;> simp

/-- A message is read back as it was written exactly when its identifiers are plain. -/
theorem UdpMessage.decode_write_self (skip : Reader Unit) (message : UdpMessage) :
    decode (UdpMessage.codec skip) ((UdpMessage.codec skip).write message) = .ok message ↔ message.Plain := by
  rw [decode_write]
  exact message.image_eq_self

/-- What a message takes: its frame, and its identifiers and number as they are written. -/
theorem UdpMessage.write_length (skip : Reader Unit) (message : UdpMessage) :
    ((UdpMessage.codec skip).write message).length = match message with
      | .hello deviceId => 31 + (Utf8.bytes (escape deviceId.val)).length
      | .heartbeat deviceId => 35 + (Utf8.bytes (escape deviceId.val)).length
      | .event deviceId eventId actionId => 58 + (Utf8.bytes (escape deviceId.val)).length +
          (Utf8.bytes (escape eventId.val)).length + (writeNat actionId.toNat).length
      | .ack deviceId eventId => 43 + (Utf8.bytes (escape deviceId.val)).length +
          (Utf8.bytes (escape eventId.val)).length := by
  have hello : (MessageType.codec.write .hello).length = 7 := by decide
  have heartbeat : (MessageType.codec.write .heartbeat).length = 11 := by decide
  have event : (MessageType.codec.write .event).length = 7 := by decide
  have ack : (MessageType.codec.write .ack).length = 5 := by decide
  have type : (Utf8.bytes "type").length = 4 := by decide
  have device : (Utf8.bytes "device_id").length = 9 := by decide
  have identifier : (Utf8.bytes "event_id").length = 8 := by decide
  have asked : (Utf8.bytes "action_id").length = 9 := by decide
  have number (actionId : ActionId) : Codec.u32.write actionId = writeNat actionId.toNat := rfl
  cases message <;>
    simp only [UdpMessage.codec,UdpMessage.entries,UdpMessage.messageType,Codec.text,writeObject,writeItems,
      writeRest,List.flatMap_cons,List.flatMap_nil,writeEntry,writeText,List.length_cons,List.length_append,
      List.length_nil,hello,heartbeat,event,ack,type,device,identifier,asked,number] <;>
    omega

end UchiPulse.Common
