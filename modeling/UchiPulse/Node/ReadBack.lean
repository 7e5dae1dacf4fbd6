import UchiPulse.Lib.JsonSize
import UchiPulse.Node.Boot
import UchiPulse.Node.Commands

/-! What a saved configuration is read back as. The response holds it with all escapes, which
the line that saved it did not have to, so that it can outgrow the line. -/
namespace UchiPulse.Node
open Common Json NodeCdcHandler

/-! ### Sizes -/

def GpioInputConfig.size (self : GpioInputConfig) : Nat :=
  objectSize [("gpio",natSize self.gpio.toNat),("active_high",boolSize self.activeHigh),
    ("debounce_ms",natSize self.debounceMs.toNat)]

def InputMapping.size (self : InputMapping) : Nat :=
  objectSize [("gpio",natSize self.gpio.toNat),("input_event",textSize self.inputEvent.name),
    ("action_id",natSize self.actionId.toNat),("enabled",boolSize self.enabled)]

def WifiConfig.size (self : WifiConfig) : Nat :=
  objectSize [("ssid",textSize self.ssid.val),("password",textSize self.password.val)]

def StaticIpv4Config.size (self : StaticIpv4Config) : Nat :=
  objectSize [("ip_address",textSize self.ipAddress.val),("prefix_length",natSize self.prefixLength.toNat),
    ("gateway",textSize self.gateway.val),("dns",textSize self.dns.val)]

def NetworkConfig.size (self : NetworkConfig) : Nat :=
  objectSize [("mode",textSize self.mode.name),("static_ipv4",optionSize StaticIpv4Config.size self.staticIpv4)]

/-- The bytes a configuration takes in a response. -/
def PersistedNodeConfig.size (self : PersistedNodeConfig) : Nat :=
  objectSize [("device_id",textSize self.deviceId.val),("wifi",self.wifi.size),("network",self.network.size),
    ("gpio_inputs",arraySize (self.gpioInputs.items.map GpioInputConfig.size)),
    ("input_mappings",arraySize (self.inputMappings.items.map InputMapping.size)),
    ("double_click_interval_ms",natSize self.doubleClickIntervalMs.toNat),
    ("long_press_threshold_ms",natSize self.longPressThresholdMs.toNat),
    ("ack_timeout_ms",natSize self.ackTimeoutMs.toNat),("event_retry_count",natSize self.eventRetryCount.toNat),
    ("heartbeat_interval_sec",natSize self.heartbeatIntervalSec.toNat)]

section
variable (skip : Reader Unit)

theorem GpioInputConfig.write_size (self : GpioInputConfig) :
    ((GpioInputConfig.codec skip).write self).length = self.size := by
  simp [GpioInputConfig.codec,GpioInputConfig.fields,GpioInputConfig.size,Fields.iso,Fields.both,Fields.required,
    Fields.one]

theorem InputMapping.write_size (self : InputMapping) :
    ((InputMapping.codec skip).write self).length = self.size := by
  simp [InputMapping.codec,InputMapping.fields,InputMapping.size,Fields.iso,Fields.both,Fields.required,
    Fields.one,InputEvent.codec]

theorem WifiConfig.write_size (self : WifiConfig) : ((WifiConfig.codec skip).write self).length = self.size := by
  simp [WifiConfig.codec,WifiConfig.fields,WifiConfig.size,Fields.iso,Fields.both,Fields.required,Fields.one]

theorem StaticIpv4Config.write_size (self : StaticIpv4Config) :
    ((StaticIpv4Config.codec skip).write self).length = self.size := by
  simp [StaticIpv4Config.codec,StaticIpv4Config.fields,StaticIpv4Config.size,Fields.iso,Fields.both,
    Fields.required,Fields.one]

theorem NetworkConfig.write_size (self : NetworkConfig) :
    ((NetworkConfig.codec skip).write self).length = self.size := by
  simp [NetworkConfig.codec,NetworkConfig.fields,NetworkConfig.size,Fields.iso,Fields.both,Fields.required,
    Fields.optional,Fields.one,NetworkMode.codec,StaticIpv4Config.write_size]

theorem PersistedNodeConfig.write_size (self : PersistedNodeConfig) :
    ((PersistedNodeConfig.codec skip).write self).length = self.size := by
  have entries : (PersistedNodeConfig.fields skip).entries self =
      [("device_id",(Codec.text _).write self.deviceId),("wifi",(WifiConfig.codec skip).write self.wifi),
      ("network",(NetworkConfig.codec skip).write self.network),
      ("gpio_inputs",((GpioInputConfig.codec skip).vec _).write self.gpioInputs),
      ("input_mappings",((InputMapping.codec skip).vec _).write self.inputMappings),
      ("double_click_interval_ms",Codec.u32.write self.doubleClickIntervalMs),
      ("long_press_threshold_ms",Codec.u32.write self.longPressThresholdMs),
      ("ack_timeout_ms",Codec.u32.write self.ackTimeoutMs),("event_retry_count",Codec.u8.write self.eventRetryCount),
      ("heartbeat_interval_sec",Codec.u32.write self.heartbeatIntervalSec)] := rfl
  rw [PersistedNodeConfig.codec,Codec.object_size,entries]
  simp only [List.map_cons,List.map_nil,Codec.text_size,Codec.u8_size,Codec.u32_size,Codec.vec_size,
    WifiConfig.write_size,NetworkConfig.write_size,GpioInputConfig.write_size,InputMapping.write_size]
  rfl

theorem StorageEnvelope.write_size (self : StorageEnvelope) : ((StorageEnvelope.codec skip).write self).length =
    objectSize [("version",natSize self.version.toNat),("config",self.config.size)] := by
  have entries : (StorageEnvelope.fields skip).entries self =
      [("version",Codec.u8.write self.version),("config",(PersistedNodeConfig.codec skip).write self.config)] := rfl
  rw [StorageEnvelope.codec,Codec.object_size,entries]
  simp only [List.map_cons,List.map_nil,Codec.u8_size,PersistedNodeConfig.write_size]

/-- The members around a configuration and an identifier take 49 bytes. -/
theorem NodeReply.write_config_size (requestId : RequestId) (config : PersistedNodeConfig) :
    ((NodeReply.ok requestId (.config config)).response.write (NodeCdcData.write skip)).length =
      config.size + textSize requestId.val + 49 := by
  have version : (writeNat cdcProtocolVersion.toNat).length = 1 := by decide
  have status : (writeText CdcStatus.ok.name).length = 4 := by decide
  simp only [NodeReply.ok,CdcResponse.success,CdcResponse.write,CdcResponse.outcome,Option.map_some,Option.map_none,
    Option.toList_some,Option.toList_none,List.append_nil,writeObject_size,List.map_cons,List.map_nil,version,status,
    writeText_size requestId.val,NodeCdcData.write,PersistedNodeConfig.write_size,CdcResponse.success_size]

end

/-! ### The largest configuration without escapes -/

theorem natSize_u8 (value : UInt8) : natSize value.toNat ≤ 3 :=
  natSize_le (by decide) (by have small := value.toNat_lt; omega)

theorem natSize_u16 (value : UInt16) : natSize value.toNat ≤ 5 :=
  natSize_le (by decide) (by have small := value.toNat_lt; omega)

theorem natSize_u32 (value : UInt32) : natSize value.toNat ≤ 10 :=
  natSize_le (by decide) (by have small := value.toNat_lt; omega)

theorem natSize_pin {gpio : UInt8} (supported : gpio ∈ supportedGpioPins) : natSize gpio.toNat ≤ 2 := by
  have small : ∀ gpio ∈ supportedGpioPins, gpio.toNat < 100 := by decide +kernel
  have below := small gpio supported
  exact natSize_le (by decide) (by omega)

theorem textSize_text {n : Nat} {text : Text n} (plain : Plain text.val) : textSize text.val ≤ 2 + n :=
  textSize_plain plain ▸ Nat.add_le_add_left text.fits 2

theorem GpioInputConfig.size_le {self : GpioInputConfig} (supported : self.gpio ∈ supportedGpioPins) :
    self.size ≤ 51 :=
  objectSize_le [("gpio",2),("active_high",5),("debounce_ms",5)]
    (.cons ⟨rfl,natSize_pin supported⟩ <| .cons ⟨rfl,boolSize_le _⟩ <|
    .cons ⟨rfl,natSize_u16 _⟩ .nil) (by decide)

theorem InputMapping.size_le {self : InputMapping} (supported : self.gpio ∈ supportedGpioPins) : self.size ≤ 79 := by
  have name : textSize self.inputEvent.name ≤ 14 := by
    cases self.inputEvent <;> decide
  exact objectSize_le [("gpio",2),("input_event",14),("action_id",10),("enabled",5)]
    (.cons ⟨rfl,natSize_pin supported⟩ <| .cons ⟨rfl,name⟩ <| .cons ⟨rfl,natSize_u32 _⟩ <|
    .cons ⟨rfl,boolSize_le _⟩ .nil) (by decide)

theorem WifiConfig.size_le {self : WifiConfig} (ssid : Plain self.ssid.val) (password : Plain self.password.val) :
    self.size ≤ 121 :=
  objectSize_le [("ssid",34),("password",66)]
    (.cons ⟨rfl,textSize_text ssid⟩ <| .cons ⟨rfl,textSize_text password⟩ .nil) (by decide)

theorem StaticIpv4Config.size_le {self : StaticIpv4Config} (plain : self.Plain) : self.size ≤ 104 :=
  objectSize_le [("ip_address",17),("prefix_length",3),("gateway",17),("dns",17)]
    (.cons ⟨rfl,textSize_text plain.1⟩ <| .cons ⟨rfl,natSize_u8 _⟩ <|
    .cons ⟨rfl,textSize_text plain.2.1⟩ <| .cons ⟨rfl,textSize_text plain.2.2⟩ .nil) (by decide)

theorem NetworkConfig.size_le {self : NetworkConfig} (plain : ∀ staticIpv4 ∈ self.staticIpv4, staticIpv4.Plain) :
    self.size ≤ 136 := by
  have mode : textSize self.mode.name ≤ 8 := by
    cases self.mode <;> decide
  have addresses : optionSize StaticIpv4Config.size self.staticIpv4 ≤ 104 := by
    cases known : self.staticIpv4 with
    | none => exact (by decide : 4 ≤ 104)
    | some staticIpv4 => exact StaticIpv4Config.size_le (plain staticIpv4 known)
  exact objectSize_le [("mode",8),("static_ipv4",104)]
    (.cons ⟨rfl,mode⟩ <| .cons ⟨rfl,addresses⟩ .nil) (by decide)

/-- Every input of a valid configuration has a supported pin, and every mapping has an input. -/
theorem PersistedNodeConfig.supported {self : PersistedNodeConfig} (valid : self.validate = .ok ()) :
    (∀ input ∈ self.gpioInputs.items, input.gpio ∈ supportedGpioPins) ∧
    ∀ mapping ∈ self.inputMappings.items, mapping.gpio ∈ supportedGpioPins := by
  simp only [PersistedNodeConfig.validate,then_ok] at valid
  obtain ⟨-,-,-,gpios,-,-,-,-,mappings⟩ := valid
  simp only [validateGpioInputs,forM_ok,then_ok,failIf_ok,not_not] at gpios
  have known (behind : List InputMapping) (checked : validateMappings self.gpioInputs.items behind = .ok ()) :
      ∀ mapping ∈ behind, self.gpioInputs.items.any (·.gpio = mapping.gpio) := by
    induction behind with
    | nil => exact List.forall_mem_nil _
    | cons mapping behind ih =>
      simp only [validateMappings,then_ok,failIf_ok,not_not] at checked
      exact List.forall_mem_cons.mpr ⟨checked.1,ih checked.2.2⟩
  refine ⟨fun input member => (gpios input member).1,fun mapping member => ?_⟩
  obtain ⟨input,among,same⟩ := List.any_eq_true.mp (known _ mappings mapping member)
  rw [← of_decide_eq_true same]
  exact (gpios input among).1

/-- Ten inputs and thirty-two mappings, with the longest texts and numbers. -/
theorem PersistedNodeConfig.size_le {self : PersistedNodeConfig} (valid : self.validate = .ok ())
    (plain : self.Plain) : self.size ≤ 3636 := by
  obtain ⟨deviceId,ssid,password,network⟩ := plain
  obtain ⟨inputs,mappings⟩ := PersistedNodeConfig.supported valid
  have inputSizes : arraySize (self.gpioInputs.items.map GpioInputConfig.size) ≤ 2 + 10 * (51 + 1) := by
    refine arraySize_le (by rw [List.length_map]; exact self.gpioInputs.fits) fun size member => ?_
    obtain ⟨input,among,rfl⟩ := List.mem_map.mp member
    exact GpioInputConfig.size_le (inputs input among)
  have mappingSizes : arraySize (self.inputMappings.items.map InputMapping.size) ≤ 2 + 32 * (79 + 1) := by
    refine arraySize_le (by rw [List.length_map]; exact self.inputMappings.fits) fun size member => ?_
    obtain ⟨mapping,among,rfl⟩ := List.mem_map.mp member
    exact InputMapping.size_le (mappings mapping among)
  exact objectSize_le [("device_id",66),("wifi",121),("network",136),("gpio_inputs",522),("input_mappings",2562),
      ("double_click_interval_ms",10),("long_press_threshold_ms",10),("ack_timeout_ms",10),
      ("event_retry_count",3),("heartbeat_interval_sec",10)]
    (.cons ⟨rfl,textSize_text deviceId⟩ <| .cons ⟨rfl,WifiConfig.size_le ssid password⟩ <|
    .cons ⟨rfl,NetworkConfig.size_le network⟩ <| .cons ⟨rfl,inputSizes⟩ <| .cons ⟨rfl,mappingSizes⟩ <|
    .cons ⟨rfl,natSize_u32 _⟩ <| .cons ⟨rfl,natSize_u32 _⟩ <| .cons ⟨rfl,natSize_u32 _⟩ <|
    .cons ⟨rfl,natSize_u8 _⟩ <| .cons ⟨rfl,natSize_u32 _⟩ .nil) (by decide)

/-! ### Reading back -/

section
variable {S ε : Type} {skip : Reader Unit} {device : ConfigStorage S ε}

/-- The answer to `get_config`, if it fits. -/
def configResult (skip : Reader Unit) (requestId : RequestId) (config : PersistedNodeConfig) : CdcHandleResult where
  response := (NodeReply.ok requestId (.config config)).response.write (NodeCdcData.write skip) ++ [lineFeed]
  action := .none

/-- What is left of the line's buffer is enough for the escapes. -/
def ResponseFits (requestId : RequestId) (config : PersistedNodeConfig) : Prop :=
  config.size + textSize requestId.val + 49 < maxCdcLineSize

instance (requestId : RequestId) (config : PersistedNodeConfig) : Decidable (ResponseFits requestId config) := by
  unfold ResponseFits; infer_instance

/-- A `get_config` request changes nothing and is answered with the active configuration. -/
theorem NodeCdcHandler.handleLine_getConfig {handler : NodeCdcHandler S} {line : List UInt8}
    {request : CdcRequest NodeCdcParams} (asks : Asks skip line "get_config" request) :
    handler.handleLine skip device line maxCdcLineSize = (handler,
      if ResponseFits request.requestId handler.manager.config then
        .ok (configResult skip request.requestId handler.manager.config)
      else .error .responseTooLarge) := by
  obtain ⟨decoded,version,name⟩ := asks
  have reply : handler.reply skip device line none none =
      (handler,NodeReply.ok request.requestId (.config handler.manager.config)) := by
    simp only [NodeCdcHandler.reply,decoded,version,ne_eq,not_true_eq_false,if_false,NodeCdcHandler.command,name]
  simp only [NodeCdcHandler.handleLine,NodeCdcHandler.handleLineWithStatus,reply,NodeReply.encoded,encodeLine,
    NodeReply.write_config_size]
  by_cases fits : ResponseFits request.requestId handler.manager.config
  · rw [if_pos fits]
    unfold ResponseFits at fits
    simp only [if_pos fits]
    rfl
  · rw [if_neg fits]
    unfold ResponseFits at fits
    simp only [if_neg fits]

/-- A `set_config` request whose configuration is stored makes it the active one. -/
theorem NodeCdcHandler.handleLine_setConfig {handler : NodeCdcHandler S} {line : List UInt8}
    {request : CdcRequest NodeCdcParams} {config : PersistedNodeConfig} {manager : ConfigManager S}
    (asks : Asks skip line "set_config" request) (stated : request.params.intoConfig = .ok config)
    (stored : handler.manager.setConfig skip device config = (manager,.ok ())) :
    (handler.handleLine skip device line maxCdcLineSize).1 = { manager } := by
  obtain ⟨decoded,version,name⟩ := asks
  simp only [NodeCdcHandler.handleLine,NodeCdcHandler.handleLineWithStatus,NodeCdcHandler.reply,decoded,version,
    ne_eq,not_true_eq_false,if_false,NodeCdcHandler.command,name,NodeCdcHandler.setConfig,stated,stored]

/-- Without a character that needs an escape every configuration can be read back. -/
theorem responseFits_plain {config : PersistedNodeConfig} (valid : config.validate = .ok ()) (plain : config.Plain)
    (requestId : RequestId) : ResponseFits requestId config := by
  have small := PersistedNodeConfig.size_le valid plain
  have identifier := (textSize_le requestId.val).trans
    (Nat.add_le_add_left (Nat.mul_le_mul_left 6 requestId.fits) 2)
  simp only [ResponseFits,maxCdcLineSize,requestIdCapacity] at identifier ⊢
  omega

/-- What a line stored is read back in full as long as the escapes of its texts and of the
request's identifier fit, and not at all otherwise. -/
theorem stored_config_read_iff (handler reader : NodeCdcHandler S) (line query : List UInt8)
    (set get : CdcRequest NodeCdcParams) (config : PersistedNodeConfig) (manager : ConfigManager S)
    (asksSet : Asks skip line "set_config" set) (stated : set.params.intoConfig = .ok config)
    (stored : handler.manager.setConfig skip device config = (manager,.ok ()))
    (keeps : reader.manager.config = (handler.handleLine skip device line maxCdcLineSize).1.manager.config)
    (asksGet : Asks skip query "get_config" get) :
    let answer := reader.handleLine skip device query maxCdcLineSize
    (answer = (reader,.ok (configResult skip get.requestId config)) ↔ ResponseFits get.requestId config) ∧
    (answer = (reader,.error .responseTooLarge) ↔ ¬ ResponseFits get.requestId config) ∧
    (config.Plain → ResponseFits get.requestId config) := by
  obtain ⟨valid,active,-⟩ := ConfigManager.setConfig_ok stored
  rw [NodeCdcHandler.handleLine_setConfig asksSet stated stored,active] at keeps
  intro answer
  have answered : answer = (reader,if ResponseFits get.requestId config then
      .ok (configResult skip get.requestId config) else .error .responseTooLarge) := by
    rw [← keeps]
    exact NodeCdcHandler.handleLine_getConfig asksGet
  rw [answered]
  by_cases fits : ResponseFits get.requestId config
  · simp [fits]
  · exact ⟨by simp [fits],by simp [fits],fun plain => responseFits_plain valid plain _⟩

end

/-! ### A configuration that cannot be read back -/

section
variable {skip : Reader Unit}

theorem NodeCdcParams.image_ofConfig (config : PersistedNodeConfig) :
    (NodeCdcParams.codec skip).image (.ofConfig config) = config.escaped.map .ofConfig := by
  simp only [NodeCdcParams.codec,NodeCdcParams.fields,NodeCdcParams.ofConfig,configFields,PersistedNodeConfig.escaped,
    Codec.object_image,Fields.iso_image,Fields.both_image,Fields.optional_image,Codec.option_image_some,
    WifiConfig.image,NetworkConfig.image,Codec.vec_image _ (GpioInputConfig.image skip),
    Codec.vec_image _ (InputMapping.image skip)]
  cases (Codec.text deviceIdCapacity).image config.deviceId <;> cases config.wifi.escaped <;>
    cases config.network.escaped <;> rfl

/-- A client's request to store a configuration. -/
def setRequest (config : PersistedNodeConfig) : CdcRequest NodeCdcParams where
  version := cdcProtocolVersion
  requestId := firstRequestId
  command := setConfigCommand
  params := .ofConfig config

def setLine (skip : Reader Unit) (config : PersistedNodeConfig) : List UInt8 :=
  (CdcRequest.codec skip (NodeCdcParams.codec skip)).write (setRequest config) ++ [lineFeed]

/-- The texts arrive with the escapes that the client wrote. -/
theorem setLine_asks {config found : PersistedNodeConfig} (escaped : config.escaped = some found) :
    Asks skip (setLine skip config) "set_config" (setRequest found) := by
  have identifier : (Codec.text requestIdCapacity).image firstRequestId = some firstRequestId :=
    (image_text _).mpr (by decide)
  have command : (Codec.text commandNameCapacity).image setConfigCommand = some setConfigCommand :=
    (image_text _).mpr (by decide)
  have image : (CdcRequest.codec skip (NodeCdcParams.codec skip)).image (setRequest config) =
      some (setRequest found) := by
    simp only [CdcRequest.codec,CdcRequest.fields,setRequest,Codec.object_image,Fields.iso_image,Fields.both_image,
      Fields.required_image,Codec.u8_image,identifier,command,NodeCdcParams.image_ofConfig,escaped]
    rfl
  refine ⟨?_,rfl,rfl⟩
  rw [decodeRequest,setLine,decodeLine,List.getLast?_concat,if_neg (by simp),List.dropLast_concat]
  exact (decode_write _ _ _).mpr image

theorem setLine_length (config : PersistedNodeConfig) : (setLine skip config).length = objectSize
    [("version",natSize cdcProtocolVersion.toNat),("request_id",textSize firstRequestId.val),
      ("command",textSize setConfigCommand.val),("params",config.size)] + 1 := by
  have entries : (CdcRequest.fields (NodeCdcParams.codec skip)).entries (setRequest config) =
      [("version",Codec.u8.write cdcProtocolVersion),("request_id",(Codec.text _).write firstRequestId),
      ("command",(Codec.text _).write setConfigCommand),("params",(PersistedNodeConfig.codec skip).write config)] := rfl
  rw [setLine,List.length_append,CdcRequest.codec,Codec.object_size,entries]
  simp only [List.map_cons,List.map_nil,Codec.u8_size,Codec.text_size,PersistedNodeConfig.write_size,
    List.length_singleton]

end

def slashes (n : Nat) : String := String.ofList (List.replicate n '\\')

def longAddress : Ipv4Text := ⟨"255.255.255.255",by decide⟩

/-- Ten inputs and thirty-two mappings. -/
def largeConfig (deviceId : DeviceId) (ssid : WifiSsid) (password : WifiPassword) : PersistedNodeConfig where
  deviceId := deviceId
  wifi := { ssid,password }
  network := { mode := .static,staticIpv4 := some {
    ipAddress := longAddress,prefixLength := 24,gateway := longAddress,dns := longAddress } }
  gpioInputs := ⟨(List.range 10).map fun n => {
    gpio := UInt8.ofNat (10 + n),activeHigh := false,debounceMs := 10000 },by decide⟩
  inputMappings := ⟨(List.range 32).map fun n => {
    gpio := UInt8.ofNat (10 + n / 5)
    inputEvent := [.offToOn,.onToOff,.click,.doubleClick,.longPress].getD (n % 5) .click
    actionId := 4294967295,enabled := false },by decide⟩
  doubleClickIntervalMs := 4294967295
  longPressThresholdMs := 4294967295
  ackTimeoutMs := 4294967295
  eventRetryCount := 255
  heartbeatIntervalSec := 4294967295

/-- A client escapes each backslash by another one. -/
def typedConfig : PersistedNodeConfig :=
  largeConfig ⟨slashes 32,by decide⟩ ⟨slashes 16,by decide⟩ ⟨slashes 32,by decide⟩

/-- The node keeps them both. -/
def keptConfig : PersistedNodeConfig :=
  largeConfig ⟨slashes 64,by decide⟩ ⟨slashes 32,by decide⟩ ⟨slashes 64,by decide⟩

theorem keptConfig_typed : typedConfig.escaped = some keptConfig ∧ typedConfig.size = 3537 ∧
    keptConfig.size = 3697 ∧ keptConfig.validate = .ok () := by
  decide +kernel

theorem typedConfig_escaped : typedConfig.escaped = some keptConfig := keptConfig_typed.1
theorem typedConfig_size : typedConfig.size = 3537 := keptConfig_typed.2.1
theorem keptConfig_size : keptConfig.size = 3697 := keptConfig_typed.2.2.1
theorem keptConfig_valid : keptConfig.validate = .ok () := keptConfig_typed.2.2.2

theorem keptConfig_stated : (setRequest keptConfig).params.intoConfig = .ok keptConfig :=
  NodeCdcParams.intoConfig_ok.mpr ⟨rfl,keptConfig_valid⟩

def noSkip : Reader Unit := fun _ => none

/-- A node with empty storage. -/
def newNode : NodeCdcHandler MemoryConfigStorage where
  manager := { storage := .empty configStorageSize,config := .defaults }

theorem keptConfig_stored : ∃ manager,
    newNode.manager.setConfig noSkip MemoryConfigStorage.device keptConfig = (manager,.ok ()) := by
  refine MemoryConfigStorage.setConfig_ok noSkip .defaults keptConfig keptConfig_valid ?_
  rw [StorageEnvelope.write_size,keptConfig_size]
  decide

def queryFront : String := "\x7b\"version\":1,\"request_id\":\""
def queryBack : String := "\",\"command\":\"get_config\",\"params\":\x7b\x7d\x7d\n"

/-- A `get_config` request with these bytes between the quotes of its identifier. -/
def queryLine (identifier : List UInt8) : List UInt8 := Utf8.bytes queryFront ++ identifier ++ Utf8.bytes queryBack

/-- The version and the command of a request, and the bytes its identifier takes in a response. -/
def queried (line : List UInt8) : Option (UInt8 × String × Nat) :=
  (decodeRequest noSkip line).toOption.map fun request =>
    (request.version,request.command.val,textSize request.requestId.val)

theorem queried_asks {line : List UInt8} {size : Nat} (read : queried line = some (1,"get_config",size)) :
    ∃ request, Asks noSkip line "get_config" request ∧ textSize request.requestId.val = size := by
  obtain ⟨request,found,same⟩ := Option.map_eq_some_iff.mp read
  simp only [Prod.mk.injEq] at same
  cases decoded : decodeRequest noSkip line with
  | error error => simp [decoded,Except.toOption] at found
  | ok other =>
    rw [decoded] at found
    cases found
    exact ⟨request,⟨decoded,same.1,same.2.1⟩,same.2.2⟩

/-- The longest identifier there is in a response, and a short one. -/
theorem queries_read : (queryLine (List.replicate 64 1)).length = 129 ∧
    queried (queryLine (List.replicate 64 1)) = some (1,"get_config",386) ∧
    queried (queryLine [49]) = some (1,"get_config",3) := by
  decide +kernel

theorem controls_asks : ∃ request, Asks noSkip (queryLine (List.replicate 64 1)) "get_config" request ∧
    textSize request.requestId.val = 386 :=
  queried_asks queries_read.2.1

theorem one_asks : ∃ request, Asks noSkip (queryLine [49]) "get_config" request ∧ textSize request.requestId.val = 3 :=
  queried_asks queries_read.2.2

/-- Both lines fit, the configuration is stored, and the request for it gets no reply. -/
theorem stored_config_unreadable :
    (setLine noSkip typedConfig).length ≤ maxCdcLineSize ∧
    (queryLine (List.replicate 64 1)).length ≤ maxCdcLineSize ∧
    Asks noSkip (setLine noSkip typedConfig) "set_config" (setRequest keptConfig) ∧
    (setRequest keptConfig).params.intoConfig = .ok keptConfig ∧
    (∃ manager, newNode.manager.setConfig noSkip MemoryConfigStorage.device keptConfig = (manager,.ok ())) ∧
    (∃ request, Asks noSkip (queryLine (List.replicate 64 1)) "get_config" request) ∧
    let saved := (newNode.handleLine noSkip MemoryConfigStorage.device (setLine noSkip typedConfig) maxCdcLineSize).1
    saved.manager.config = keptConfig ∧
    saved.handleLine noSkip MemoryConfigStorage.device (queryLine (List.replicate 64 1)) maxCdcLineSize =
      (saved,.error .responseTooLarge) := by
  obtain ⟨manager,stored⟩ := keptConfig_stored
  obtain ⟨request,asks,size⟩ := controls_asks
  have saved := NodeCdcHandler.handleLine_setConfig (setLine_asks typedConfig_escaped) keptConfig_stated stored
  refine ⟨?_,?_,setLine_asks typedConfig_escaped,keptConfig_stated,⟨manager,stored⟩,⟨request,asks⟩,?_⟩
  · rw [setLine_length,typedConfig_size]
    decide
  · rw [queries_read.1]
    decide
  · rw [saved]
    have active : manager.config = keptConfig := (ConfigManager.setConfig_ok stored).2.1
    have long : ¬ ResponseFits request.requestId keptConfig := by
      rw [ResponseFits,keptConfig_size,size]
      decide
    refine ⟨active,(NodeCdcHandler.handleLine_getConfig asks).trans ?_⟩
    rw [show ({ manager } : NodeCdcHandler MemoryConfigStorage).manager.config = keptConfig from active,if_neg long]

/-- With a short identifier the same configuration is read back. -/
theorem stored_config_read_iff_kept : ∃ saved one controls,
    Asks noSkip (queryLine [49]) "get_config" one ∧
    Asks noSkip (queryLine (List.replicate 64 1)) "get_config" controls ∧
    NodeCdcHandler.handleLine noSkip MemoryConfigStorage.device saved (queryLine [49]) maxCdcLineSize =
      (saved,.ok (configResult noSkip one.requestId keptConfig)) ∧
    NodeCdcHandler.handleLine noSkip MemoryConfigStorage.device saved (queryLine (List.replicate 64 1))
      maxCdcLineSize = (saved,.error .responseTooLarge) := by
  obtain ⟨manager,stored⟩ := keptConfig_stored
  obtain ⟨one,asksOne,sizeOne⟩ := one_asks
  obtain ⟨controls,asksControls,sizeControls⟩ := controls_asks
  refine ⟨_,one,controls,asksOne,asksControls,
    (stored_config_read_iff newNode _ _ _ _ one keptConfig manager (setLine_asks typedConfig_escaped)
      keptConfig_stated stored rfl asksOne).1.mpr ?_,
    (stored_config_read_iff newNode _ _ _ _ controls keptConfig manager (setLine_asks typedConfig_escaped)
      keptConfig_stated stored rfl asksControls).2.1.mpr ?_⟩
  · rw [ResponseFits,keptConfig_size,sizeOne]
    decide
  · rw [ResponseFits,keptConfig_size,sizeControls]
    decide

end UchiPulse.Node
