import UchiPulse.Hub.Action
import UchiPulse.Hub.State

/-! The hub's processing of one datagram. The action handler is a parameter, as in the
source; the processor and its handler share one database connection. -/
namespace UchiPulse.Hub
open Common Db Sql Json

structure EventContext where
  deviceId : String
  eventId : String
  actionId : ActionId
  payload : String
deriving DecidableEq

/-- What the processor asks of its handler, with the connection at hand. -/
structure ActionHandler (A E : Type) where
  validateEvent : A → ActionId → Program Env Connection E Unit
  handleEvent : EventContext → Program Env (Connection × A) E Unit

/-- The handler that validates and executes actions. -/
def ActionEngine.handler : ActionHandler ActionEngine ActionError where
  validateEvent _ actionId := do
    let _ ← ActionEngine.validateEvent actionId
  handleEvent event := do
    let _ ← ActionEngine.execute event.actionId

inductive ActionExecutionStatus (E : Type) where
  | applied
  | failed (error : E)
  | skippedDuplicate
deriving DecidableEq

inductive PacketOutcome (E : Type) where
  | ignored
  | helloAccepted (deviceId : DeviceId)
  | heartbeatAccepted (deviceId : DeviceId)
  | eventAccepted (deviceId : DeviceId) (eventId : EventId) (duplicate : Bool)
      (actionStatus : ActionExecutionStatus E) (ack : UdpMessage)
deriving DecidableEq

inductive UdpProcessingError (E : Type) where
  | invalidMessage (error : CodecError)
  | invalidDeviceId
  | invalidEventId
  | state (error : StateUpdateError)
  | database (error : DatabaseError)
  | actionValidation (error : E)
deriving DecidableEq

structure HubUdpProcessor (A : Type) where
  database : Connection
  state : CommunicationStateManager
  actionHandler : A

namespace HubUdpProcessor
variable {A E : Type}

/-- A computation of the processor. What it did before an error stays done. -/
abbrev Processing (A E α : Type) := Program Env (HubUdpProcessor A) (UdpProcessingError E) α

def onDatabase {ε α : Type} (wrap : ε → UdpProcessingError E) (session : Program Env Connection ε α) :
    Processing A E α :=
  Program.zoom database (fun database self => { self with database }) wrap session

/-- A new processor, unless the devices cannot be read. -/
def fromDatabase (database : Connection) (initialWaitStartedAt offlineTimeout : Nat)
    (actionHandler : A) (env : Env) : Except DatabaseError (HubUdpProcessor A) :=
  match CommunicationStateManager.fromDatabase initialWaitStartedAt offlineTimeout env database with
  | (.ok state,database) => .ok { database,state,actionHandler }
  | (.error error,_) => .error error

def markOffline (self : HubUdpProcessor A) (now : Nat) : HubUdpProcessor A :=
  { self with state := self.state.markOffline now }

def validateMessage (message : UdpMessage) : Processing A E Unit := do
  Program.failIf (isBlank (deviceIdOf message).val) .invalidDeviceId
  match message with
  | .event _ eventId _ => Program.failIf (isBlank eventId.val) .invalidEventId
  | _ => return

def isEnabledManagedDevice (deviceId : String) : Processing A E Bool := do
  let self ← Program.get
  if self.state.device deviceId = none then return false
  let device ← onDatabase .database (getDevice deviceId)
  return device.any (·.enabled)

def observeMessage (message : UdpMessage) (now : Nat) : Processing A E Unit := do
  let self ← Program.get
  let (outcome,state) := self.state.observeMessage message now
  Program.modify fun self => { self with state }
  match outcome with
  | .ok _ => return
  | .error error => Program.fail (.state error)

/-- Store a validated event and let the handler act on it once. -/
def processEvent (handler : ActionHandler A E) (payload : List UInt8) (receivedAt : String)
    (deviceId : DeviceId) (eventId : EventId) (actionId : ActionId) :
    Processing A E (PacketOutcome E) := do
  match Utf8.decode payload with
  | none => Program.fail (.invalidMessage .invalidJson)
  | some payloadText =>
    let inserted ← onDatabase .database (insertEvent {
      receivedAt,deviceId := deviceId.val,eventId := eventId.val,payload := payloadText })
    let ack := .ack deviceId eventId
    if inserted = false then return .eventAccepted deviceId eventId true .skippedDuplicate ack
    let actionStatus ← Program.attempt (Program.zoom (fun self => (self.database,self.actionHandler))
      (fun (database,actionHandler) self => { self with database,actionHandler }) id
      (handler.handleEvent {
        deviceId := deviceId.val,eventId := eventId.val,actionId,payload := payloadText }))
    return .eventAccepted deviceId eventId false
      (match actionStatus with
        | .ok () => .applied
        | .error error => .failed error) ack

/-- The checks an event must pass before it is observed; a known event is answered at once. -/
def checkEvent (handler : ActionHandler A E) (message : UdpMessage) (now : Nat) :
    Processing A E (Option (PacketOutcome E)) := do
  match message with
  | .event deviceId eventId actionId =>
    let known ← onDatabase .database (getEvent deviceId.val eventId.val)
    if known ≠ none then
      observeMessage message now
      return some (.eventAccepted deviceId eventId true .skippedDuplicate (.ack deviceId eventId))
    let self ← Program.get
    onDatabase .actionValidation (handler.validateEvent self.actionHandler actionId)
    return none
  | _ => return none

/-- A message of an enabled device. -/
def processMessage (handler : ActionHandler A E) (payload : List UInt8) (now : Nat)
    (receivedAt : String) (message : UdpMessage) : Processing A E (PacketOutcome E) := do
  match ← checkEvent handler message now with
  | some outcome => return outcome
  | none =>
    observeMessage message now
    match message with
    | .hello deviceId => return .helloAccepted deviceId
    | .heartbeat deviceId => return .heartbeatAccepted deviceId
    | .event deviceId eventId actionId =>
      processEvent handler payload receivedAt deviceId eventId actionId
    | .ack _ _ => return .ignored

def processDatagram (skip : Reader Unit) (handler : ActionHandler A E) (payload : List UInt8)
    (now : Nat) (receivedAt : String) : Processing A E (PacketOutcome E) := do
  match decode (UdpMessage.codec skip) payload with
  | .error error => Program.fail (.invalidMessage error)
  | .ok message =>
    validateMessage message
    let enabled ← isEnabledManagedDevice (deviceIdOf message).val
    if enabled = false then return .ignored
    if message.messageType = .ack then return .ignored
    processMessage handler payload now receivedAt message

/-! ### How its steps end -/

section
variable {env : Env} {self next : HubUdpProcessor A}

theorem onDatabase_eq_ok {ε α : Type} {wrap : ε → UdpProcessingError E} {session : Program Env Connection ε α}
    {value : α} : onDatabase wrap session env self = (.ok value,next) ↔
      ∃ database, session env self.database = (.ok value,database) ∧ next = { self with database } := by
  simp only [onDatabase,Program.zoom]
  rcases session env self.database with ⟨error | found,database⟩ <;> simp [eq_comm]

theorem validateMessage_eq_ok {message : UdpMessage} :
    validateMessage (E := E) message env self = (.ok (),next) ↔ isBlank (deviceIdOf message).val = false ∧
      (∀ deviceId eventId actionId, message = .event deviceId eventId actionId → isBlank eventId.val = false) ∧
      next = self := by
  unfold validateMessage
  constructor
  · intro ok
    obtain ⟨_,_,checked,rest⟩ := Program.bind_eq_ok.mp ok
    obtain ⟨deviceNamed,rfl⟩ := Program.failIf_eq_ok.mp checked
    refine ⟨Bool.eq_false_iff.mpr deviceNamed,?_⟩
    cases message with
    | event deviceId eventId actionId =>
      obtain ⟨eventNamed,rfl⟩ := Program.failIf_eq_ok.mp rest
      refine ⟨fun _ _ _ same => ?_,rfl⟩
      cases same
      exact Bool.eq_false_iff.mpr eventNamed
    | hello deviceId =>
      cases rest
      exact ⟨fun _ _ _ same => (by cases same),rfl⟩
    | heartbeat deviceId =>
      cases rest
      exact ⟨fun _ _ _ same => (by cases same),rfl⟩
    | ack deviceId eventId =>
      cases rest
      exact ⟨fun _ _ _ same => (by cases same),rfl⟩
  · rintro ⟨deviceNamed,eventNamed,rfl⟩
    refine Program.bind_eq_ok.mpr ⟨(),next,Program.failIf_eq_ok.mpr ⟨Bool.eq_false_iff.mp deviceNamed,rfl⟩,?_⟩
    cases message with
    | event deviceId eventId actionId =>
      exact Program.failIf_eq_ok.mpr ⟨Bool.eq_false_iff.mp (eventNamed _ _ _ rfl),rfl⟩
    | hello deviceId => rfl
    | heartbeat deviceId => rfl
    | ack deviceId eventId => rfl

/-- A named message is observed without an error. -/
theorem observeMessage_run (env : Env) (self : HubUdpProcessor A) {message : UdpMessage} (now : Nat)
    (named : isBlank (deviceIdOf message).val = false) : observeMessage (E := E) message now env self =
      (.ok (),{ self with state := (self.state.observeMessage message now).2 }) := by
  have accepted : ∃ seen, (self.state.observeMessage message now).1 = .ok seen := by
    simp only [CommunicationStateManager.observeMessage,named,Bool.false_eq_true,if_false]
    split_ifs
    · exact ⟨_,rfl⟩
    · cases self.state.devices (deviceIdOf message).val <;> exact ⟨_,rfl⟩
  obtain ⟨seen,accepted⟩ := accepted
  rcases outcome : self.state.observeMessage message now with ⟨result,state⟩
  rw [outcome] at accepted
  cases accepted
  simp only [observeMessage,Program.bind_run,Program.get_run,Program.modify_run,outcome]
  rfl

theorem processMessage_hello (handler : ActionHandler A E) (env : Env) (self : HubUdpProcessor A)
    (payload : List UInt8) (now : Nat) (receivedAt : String) {deviceId : DeviceId} (named : isBlank deviceId.val = false) :
    processMessage handler payload now receivedAt (.hello deviceId) env self = (.ok (.helloAccepted deviceId),
      { self with state := (self.state.observeMessage (.hello deviceId) now).2 }) :=
  Program.bind_eq_ok.mpr ⟨none,_,rfl,Program.bind_eq_ok.mpr ⟨(),_,observeMessage_run env self now named,rfl⟩⟩

theorem processMessage_heartbeat (handler : ActionHandler A E) (env : Env) (self : HubUdpProcessor A)
    (payload : List UInt8) (now : Nat) (receivedAt : String) {deviceId : DeviceId} (named : isBlank deviceId.val = false) :
    processMessage handler payload now receivedAt (.heartbeat deviceId) env self = (.ok (.heartbeatAccepted deviceId),
      { self with state := (self.state.observeMessage (.heartbeat deviceId) now).2 }) :=
  Program.bind_eq_ok.mpr ⟨none,_,rfl,Program.bind_eq_ok.mpr ⟨(),_,observeMessage_run env self now named,rfl⟩⟩

end

end HubUdpProcessor

/-! ### The receive loop -/

def receiveBufferSize : Nat := 2048
def ackBufferSize : Nat := 256

/-- What the loop does with a datagram: it goes on, perhaps with a reply to send, or the
program ends with an encoding error. -/
inductive LoopStep where
  | continues (reply : Option (List UInt8))
  | stops (error : CodecError)
deriving DecidableEq

/-- One received datagram in the main loop. -/
def receive {A E : Type} (skip : Reader Unit) (handler : ActionHandler A E) (payload : List UInt8)
    (now : Nat) (receivedAt : String) (env : Env) (processor : HubUdpProcessor A) :
    LoopStep × HubUdpProcessor A :=
  match HubUdpProcessor.processDatagram skip handler payload now receivedAt env processor with
  | (.ok (.eventAccepted _ _ _ _ ack),processor) =>
    match encode (UdpMessage.codec skip) ack ackBufferSize with
    | .ok reply => (.continues (some reply),processor.markOffline now)
    | .error error => (.stops error,processor)
  | (_,processor) => (.continues none,processor.markOffline now)

section
variable {A E : Type} (skip : Reader Unit) (handler : ActionHandler A E) (payload : List UInt8) (now : Nat)
  (receivedAt : String) (env : Env) (processor : HubUdpProcessor A)

/-- After the datagram, time may pass for the devices. -/
theorem receive_after :
    let processed :=
      (HubUdpProcessor.processDatagram skip handler payload now receivedAt env processor).2
    (receive skip handler payload now receivedAt env processor).2 = processed ∨
      (receive skip handler payload now receivedAt env processor).2 = processed.markOffline now := by
  intro processed
  unfold processed receive
  split
  next ran =>
    rw [ran]
    split
    · exact .inr rfl
    · exact .inl rfl
  next ran =>
    rw [ran]
    exact .inr rfl

/-- A reply is the ACK of an accepted event. -/
theorem receive_replied (reply : List UInt8)
    (replied : (receive skip handler payload now receivedAt env processor).1 = .continues (some reply)) :
    ∃ deviceId eventId duplicate status ack,
      (HubUdpProcessor.processDatagram skip handler payload now receivedAt env processor).1 =
        .ok (.eventAccepted deviceId eventId duplicate status ack) ∧
      reply = (UdpMessage.codec skip).write ack := by
  unfold receive at replied
  split at replied
  next deviceId eventId duplicate status ack _ accepted =>
    cases encoded : encode (UdpMessage.codec skip) ack ackBufferSize with
    | error error => rw [encoded] at replied; cases replied
    | ok bytes =>
      rw [encoded] at replied
      cases replied
      exact ⟨_,_,_,_,_,by rw [accepted],(encode_eq_ok.mp encoded).1⟩
  next => cases replied

end

end UchiPulse.Hub
