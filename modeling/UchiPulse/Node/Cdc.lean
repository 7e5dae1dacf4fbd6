import UchiPulse.Common.Cdc
import UchiPulse.Node.Storage

/-! The node's CDC endpoint. Each line has one reply; the configuration and its record
change with the replies of two commands only. -/
namespace UchiPulse.Node
open Common Json

def maxCdcLineSize : Nat := 4096

/-- What `set_config` sends; every field may be left out. -/
structure NodeCdcParams where
  deviceId : Option DeviceId
  wifi : Option WifiConfig
  network : Option NetworkConfig
  gpioInputs : Option (Vec GpioInputConfig maxPersistedGpioInputs)
  inputMappings : Option (Vec InputMapping maxPersistedInputMappings)
  doubleClickIntervalMs : Option UInt32
  longPressThresholdMs : Option UInt32
  ackTimeoutMs : Option UInt32
  eventRetryCount : Option UInt8
  heartbeatIntervalSec : Option UInt32
deriving DecidableEq

structure NodeCdcStatus where
  deviceId : DeviceId
  ipAddress : Option Ipv4Text
  hubEndpoint : Option (Text 64)
deriving DecidableEq

/-- The data of a successful response. -/
inductive NodeCdcData where
  | config (config : PersistedNodeConfig)
  | status (status : NodeCdcStatus)
  | empty
deriving DecidableEq

inductive CdcAction where
  | none | reboot
deriving DecidableEq

structure CdcHandleResult where
  response : List UInt8
  action : CdcAction
deriving DecidableEq

inductive CdcParameterError where
  | missingField
  | invalidConfig (error : ConfigValidationError)
deriving DecidableEq

inductive CdcHandlerError where
  | responseTooLarge
deriving DecidableEq

structure RequestIdOnly where
  requestId : Option RequestId

structure NodeCdcHandler (S : Type) where
  manager : ConfigManager S

/-! ### JSON -/

section
variable (skip : Reader Unit)

theorem writeNat_ne_null (value : Nat) : (writeNat value).head? ≠ some 110 := by
  obtain ⟨char,chars,shape,-⟩ := toDigits_head value
  have digit : char.isDigit = true :=
    Nat.isDigit_of_mem_toDigits (b := 10) (n := value) (by decide) (by decide) (by simp [shape])
  have range := Char.isDigit_iff_toNat.mp digit
  have high : char.toNat ≤ 57 := range.2
  rw [writeNat_eq,shape,List.flatMap_cons,(digit_byte digit).1]
  simp only [List.cons_append,List.head?_cons,ne_eq,Option.some.injEq]
  intro same
  have code := congrArg UInt8.toNat same
  have letter : UInt8.toNat 110 = 110 := rfl
  have nine : '9'.toNat = 57 := rfl
  rw [UInt8.toNat_ofNat',letter] at code
  omega

def NodeCdcParams.fields : Fields ["device_id","wifi","network","gpio_inputs","input_mappings",
    "double_click_interval_ms","long_press_threshold_ms","ack_timeout_ms","event_retry_count",
    "heartbeat_interval_sec"] NodeCdcParams :=
  (configFields
    (.optional "device_id" (.option (.text _) fun _ => by nofun))
    (.optional "wifi" (.option (WifiConfig.codec skip) fun _ => by nofun))
    (.optional "network" (.option (NetworkConfig.codec skip) fun _ => by nofun))
    (.optional "gpio_inputs" (.option (.vec (GpioInputConfig.codec skip) _) fun _ => by nofun))
    (.optional "input_mappings" (.option (.vec (InputMapping.codec skip) _) fun _ => by nofun))
    (.optional "double_click_interval_ms" (.option .u32 fun _ => writeNat_ne_null _))
    (.optional "long_press_threshold_ms" (.option .u32 fun _ => writeNat_ne_null _))
    (.optional "ack_timeout_ms" (.option .u32 fun _ => writeNat_ne_null _))
    (.optional "event_retry_count" (.option .u8 fun _ => writeNat_ne_null _))
    (.optional "heartbeat_interval_sec" (.option .u32 fun _ => writeNat_ne_null _))).iso
    (fun (deviceId,wifi,network,gpioInputs,inputMappings,doubleClickIntervalMs,longPressThresholdMs,
        ackTimeoutMs,eventRetryCount,heartbeatIntervalSec) =>
      { deviceId,wifi,network,gpioInputs,inputMappings,doubleClickIntervalMs,longPressThresholdMs,
        ackTimeoutMs,eventRetryCount,heartbeatIntervalSec })
    fun self => (self.deviceId,self.wifi,self.network,self.gpioInputs,self.inputMappings,
      self.doubleClickIntervalMs,self.longPressThresholdMs,self.ackTimeoutMs,self.eventRetryCount,
      self.heartbeatIntervalSec)

def NodeCdcParams.codec : Codec NodeCdcParams := .object skip (fields skip) configKeys_plain

def NodeCdcStatus.fields : Fields ["device_id","ip_address","hub_endpoint"] NodeCdcStatus :=
  ((Fields.required "device_id" (.text _)).both <|
    (Fields.optional "ip_address" (.option (.text _) fun _ => by nofun)).both <|
    Fields.optional "hub_endpoint" (.option (.text _) fun _ => by nofun)).iso
    (fun (deviceId,ipAddress,hubEndpoint) => { deviceId,ipAddress,hubEndpoint })
    fun self => (self.deviceId,self.ipAddress,self.hubEndpoint)

def NodeCdcStatus.codec : Codec NodeCdcStatus := .object skip fields

def RequestIdOnly.fields : Fields ["request_id"] RequestIdOnly :=
  (Fields.optional "request_id" (.option (.text _) fun _ => by nofun)).iso
    (fun requestId => { requestId }) fun self => self.requestId

def RequestIdOnly.codec : Codec RequestIdOnly := .object skip fields

def NodeCdcData.write : NodeCdcData → List UInt8
  | .config found => (PersistedNodeConfig.codec skip).write found
  | .status found => (NodeCdcStatus.codec skip).write found
  | .empty => writeObject []

end

/-! ### Parameters -/

namespace NodeCdcParams

/-- A field that `set_config` must have. -/
def field {α : Type} : Option α → Except CdcParameterError α
  | none => .error .missingField
  | some value => .ok value

def intoConfig (self : NodeCdcParams) : Except CdcParameterError PersistedNodeConfig := do
  let deviceId ← field self.deviceId
  let wifi ← field self.wifi
  let network ← field self.network
  let gpioInputs ← field self.gpioInputs
  let inputMappings ← field self.inputMappings
  let doubleClickIntervalMs ← field self.doubleClickIntervalMs
  let longPressThresholdMs ← field self.longPressThresholdMs
  let ackTimeoutMs ← field self.ackTimeoutMs
  let eventRetryCount ← field self.eventRetryCount
  let heartbeatIntervalSec ← field self.heartbeatIntervalSec
  let config : PersistedNodeConfig := {
    deviceId,wifi,network,gpioInputs,inputMappings,doubleClickIntervalMs,longPressThresholdMs
    ackTimeoutMs,eventRetryCount,heartbeatIntervalSec }
  match config.validate with
  | .error error => .error (.invalidConfig error)
  | .ok () => .ok config

/-- A configuration with all its fields. -/
def ofConfig (config : PersistedNodeConfig) : NodeCdcParams where
  deviceId := some config.deviceId
  wifi := some config.wifi
  network := some config.network
  gpioInputs := some config.gpioInputs
  inputMappings := some config.inputMappings
  doubleClickIntervalMs := some config.doubleClickIntervalMs
  longPressThresholdMs := some config.longPressThresholdMs
  ackTimeoutMs := some config.ackTimeoutMs
  eventRetryCount := some config.eventRetryCount
  heartbeatIntervalSec := some config.heartbeatIntervalSec

theorem field_ok {α : Type} {found : Option α} {value : α} : field found = .ok value ↔ found = some value := by
  cases found <;> simp [field]

/-- Exactly the parameters that state a valid configuration are taken. -/
theorem intoConfig_ok {self : NodeCdcParams} {config : PersistedNodeConfig} :
    self.intoConfig = .ok config ↔ self = .ofConfig config ∧ config.validate = .ok () := by
  have checked {config found : PersistedNodeConfig} : (match config.validate with
      | .error error => .error (CdcParameterError.invalidConfig error)
      | .ok () => .ok config) = Except.ok found ↔ config = found ∧ config.validate = .ok () := by
    cases config.validate <;> simp
  simp only [intoConfig,bind_ok,field_ok,checked]
  constructor
  · rintro ⟨_,h1,_,h2,_,h3,_,h4,_,h5,_,h6,_,h7,_,h8,_,h9,_,h10,rfl,valid⟩
    obtain ⟨_,_,_,_,_,_,_,_,_,_⟩ := self
    cases h1; cases h2; cases h3; cases h4; cases h5; cases h6; cases h7; cases h8; cases h9; cases h10
    exact ⟨rfl,valid⟩
  · rintro ⟨rfl,valid⟩
    exact ⟨_,rfl,_,rfl,_,rfl,_,rfl,_,rfl,_,rfl,_,rfl,_,rfl,_,rfl,_,rfl,rfl,valid⟩

end NodeCdcParams

/-! ### Replies -/

/-- What a line is answered with, before it is encoded. -/
structure NodeReply where
  response : CdcResponse NodeCdcData
  action : CdcAction
deriving DecidableEq

/-- A text that does not fit is left out. -/
def message (value : String) : Text 128 := (text 128 value).toOption.getD (.empty 128)

def NodeReply.ok (requestId : RequestId) (data : NodeCdcData) : NodeReply where
  response := .success cdcProtocolVersion requestId data
  action := .none

def NodeReply.failed (requestId : RequestId) (code : CdcErrorCode) (errorMessage : String) : NodeReply where
  response := .failure cdcProtocolVersion requestId code (message errorMessage)
  action := .none

def NodeReply.encoded (skip : Reader Unit) (self : NodeReply) (destination : Nat) :
    Except CdcHandlerError CdcHandleResult :=
  match encodeLine (self.response.write (NodeCdcData.write skip)) destination with
  | .error _ => .error .responseTooLarge
  | .ok response => .ok { response,action := self.action }

namespace NodeCdcHandler
variable {S ε : Type} (skip : Reader Unit) (device : ConfigStorage S ε)

def setConfig (self : NodeCdcHandler S) (requestId : RequestId) (params : NodeCdcParams) :
    NodeCdcHandler S × NodeReply :=
  match params.intoConfig with
  | .error .missingField => (self,.failed requestId .invalidParameter "missing configuration field")
  | .error (.invalidConfig _) => (self,.failed requestId .invalidConfig "invalid configuration")
  | .ok config =>
    match self.manager.setConfig skip device config with
    | (manager,.ok ()) => ({ manager },.ok requestId .empty)
    | (manager,.error (.invalidConfig _)) =>
      ({ manager },.failed requestId .invalidConfig "invalid configuration")
    | (manager,.error (.storage _)) =>
      ({ manager },.failed requestId .saveFailed "configuration save failed")
    | (manager,.error (.serialization _)) =>
      ({ manager },.failed requestId .saveFailed "configuration save failed")

def factoryReset (self : NodeCdcHandler S) (requestId : RequestId) : NodeCdcHandler S × NodeReply :=
  match self.manager.factoryReset device with
  | (manager,.ok ()) => ({ manager },.ok requestId .empty)
  | (manager,.error (.storage _)) =>
    ({ manager },.failed requestId .saveFailed "configuration reset failed")
  | (manager,.error (.invalidConfig _)) =>
    ({ manager },.failed requestId .operationFailed "configuration reset failed")
  | (manager,.error (.serialization _)) =>
    ({ manager },.failed requestId .operationFailed "configuration reset failed")

/-- A request of the supported version. -/
def command (self : NodeCdcHandler S) (request : CdcRequest NodeCdcParams) (ipAddress : Option Ipv4Text)
    (hubEndpoint : Option (Text 64)) : NodeCdcHandler S × NodeReply :=
  match request.command.val with
  | "get_config" => (self,.ok request.requestId (.config self.manager.config))
  | "get_status" => (self,.ok request.requestId (.status {
      deviceId := self.manager.config.deviceId,ipAddress,hubEndpoint }))
  | "set_config" => self.setConfig skip device request.requestId request.params
  | "factory_reset" => self.factoryReset device request.requestId
  | "reboot" => (self,{ NodeReply.ok request.requestId .empty with action := .reboot })
  | "get_info" | "get_inputs" | "get_outputs" =>
    (self,.failed request.requestId .notSupported "command is not supported on the node yet")
  | _ => (self,.failed request.requestId .invalidCommand "unknown command")

def decodeRequest (line : List UInt8) : Except CodecError (CdcRequest NodeCdcParams) :=
  decodeLine (CdcRequest.codec skip (NodeCdcParams.codec skip)) line

/-- The identifier of a line that is no request. -/
def recoverRequestId (line : List UInt8) : RequestId :=
  ((decodeLine (RequestIdOnly.codec skip) line).toOption.bind (·.requestId)).getD (.empty _)

def reply (self : NodeCdcHandler S) (line : List UInt8) (ipAddress : Option Ipv4Text)
    (hubEndpoint : Option (Text 64)) : NodeCdcHandler S × NodeReply :=
  match decodeRequest skip line with
  | .error _ => (self,.failed (recoverRequestId skip line) .invalidJson "invalid JSON")
  | .ok request =>
    if request.version ≠ cdcProtocolVersion then
      (self,.failed request.requestId .unsupportedVersion "unsupported protocol version")
    else self.command skip device request ipAddress hubEndpoint

/-- Every branch ends with the encoding of its response. -/
def handleLineWithStatus (self : NodeCdcHandler S) (line : List UInt8) (destination : Nat)
    (ipAddress : Option Ipv4Text) (hubEndpoint : Option (Text 64)) :
    NodeCdcHandler S × Except CdcHandlerError CdcHandleResult :=
  let (handler,reply) := self.reply skip device line ipAddress hubEndpoint
  (handler,reply.encoded skip destination)

def handleLine (self : NodeCdcHandler S) (line : List UInt8) (destination : Nat) :
    NodeCdcHandler S × Except CdcHandlerError CdcHandleResult :=
  self.handleLineWithStatus skip device line destination none none

end NodeCdcHandler

end UchiPulse.Node
