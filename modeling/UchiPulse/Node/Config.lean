import UchiPulse.Common.Types
import UchiPulse.Lib.Checks

/-! The node's configuration as CDC exposes it and flash keeps it: its checks and its
JSON form. -/
namespace UchiPulse.Node
open Common Json

/-- GPIO 23, 24, 25 and 29 belong to the onboard radio. -/
def supportedGpioPins : List UInt8 :=
  [0,1,2,3,4,5,6,7,8,9,10,11,12,13,14,15,16,17,18,19,20,21,22,26,27,28]

def maxPersistedGpioInputs : Nat := 10
def maxPersistedInputMappings : Nat := 32
def wifiSsidCapacity : Nat := 32
def wifiPasswordCapacity : Nat := 64
def ipv4TextCapacity : Nat := 15

abbrev WifiSsid := Text wifiSsidCapacity
abbrev WifiPassword := Text wifiPasswordCapacity
abbrev Ipv4Text := Text ipv4TextCapacity

structure GpioInputConfig where
  gpio : UInt8
  activeHigh : Bool
  debounceMs : UInt16
deriving DecidableEq

structure InputMapping where
  gpio : UInt8
  inputEvent : InputEvent
  actionId : ActionId
  enabled : Bool
deriving DecidableEq

structure WifiConfig where
  ssid : WifiSsid
  password : WifiPassword
deriving DecidableEq

inductive NetworkMode where
  | dhcp | static
deriving DecidableEq

structure StaticIpv4Config where
  ipAddress : Ipv4Text
  prefixLength : UInt8
  gateway : Ipv4Text
  dns : Ipv4Text
deriving DecidableEq

structure NetworkConfig where
  mode : NetworkMode
  staticIpv4 : Option StaticIpv4Config
deriving DecidableEq

structure PersistedNodeConfig where
  deviceId : DeviceId
  wifi : WifiConfig
  network : NetworkConfig
  gpioInputs : Vec GpioInputConfig maxPersistedGpioInputs
  inputMappings : Vec InputMapping maxPersistedInputMappings
  doubleClickIntervalMs : UInt32
  longPressThresholdMs : UInt32
  ackTimeoutMs : UInt32
  eventRetryCount : UInt8
  heartbeatIntervalSec : UInt32
deriving DecidableEq

def PersistedNodeConfig.defaults : PersistedNodeConfig where
  deviceId := ⟨"family-node-01",by decide⟩
  wifi := { ssid := ⟨"change-me",by decide⟩,password := ⟨"change-me",by decide⟩ }
  network := { mode := .dhcp,staticIpv4 := none }
  gpioInputs := ⟨[
    { gpio := 2,activeHigh := false,debounceMs := 30 },
    { gpio := 3,activeHigh := false,debounceMs := 30 },
    { gpio := 4,activeHigh := false,debounceMs := 30 }],by decide⟩
  inputMappings := ⟨[],by decide⟩
  doubleClickIntervalMs := 400
  longPressThresholdMs := 1000
  ackTimeoutMs := 60000
  eventRetryCount := 3
  heartbeatIntervalSec := 180

inductive ConfigValidationError where
  | emptyDeviceId
  | unsupportedGpio (gpio : UInt8)
  | duplicateGpio (gpio : UInt8)
  | mappingReferencesUnknownGpio (gpio : UInt8)
  | duplicateMapping (gpio : UInt8) (inputEvent : InputEvent)
  | zeroDebounce (gpio : UInt8)
  | zeroDoubleClickInterval
  | zeroLongPressThreshold
  | zeroAckTimeout
  | zeroHeartbeatInterval
  | emptyWifiSsid
  | invalidWifiCredential
  | missingStaticIpv4
  | invalidPrefixLength (prefixLength : UInt8)
  | invalidIpv4
deriving DecidableEq

/-! ### Addresses -/

/-- Decimal digits whose value stays within a byte. -/
def parseDigits : Nat → List Char → Option Nat
  | value, [] => some value
  | value, char :: chars =>
    if char.isDigit then
      let value := 10 * value + (char.toNat - 48)
      if value < UInt8.size then parseDigits value chars else none
    else none

/-- The standard library's reading of a byte, which allows a leading plus. -/
def parseByte (part : List Char) : Option UInt8 :=
  match part with
  | [] => none
  | ['+'] => none
  | '+' :: digits => (parseDigits 0 digits).map UInt8.ofNat
  | digits => (parseDigits 0 digits).map UInt8.ofNat

/-- The octets read so far and the parts still to come. -/
def parseParts : List UInt8 → List (List Char) → Option (List UInt8)
  | octets, [] => if octets.length = 4 then some octets else none
  | octets, part :: parts =>
    if octets.length = 4 ∨ part = [] then none
    else
      match parseByte part with
      | none => none
      | some octet => parseParts (octets ++ [octet]) parts

def parseIpv4 (value : String) : Option (List UInt8) := parseParts [] (value.toList.splitOn '.')

example : parseIpv4 "192.168.0.10" = some [192,168,0,10] := by decide

/-! ### Checks -/

def StaticIpv4Config.validate (self : StaticIpv4Config) : Except ConfigValidationError Unit := do
  failIf (self.prefixLength > 32) (.invalidPrefixLength self.prefixLength)
  failIf (parseIpv4 self.ipAddress.val = none ∨ parseIpv4 self.gateway.val = none ∨
    parseIpv4 self.dns.val = none) .invalidIpv4

def NetworkConfig.validate (self : NetworkConfig) : Except ConfigValidationError Unit :=
  match self.mode with
  | .dhcp => .ok ()
  | .static =>
    match self.staticIpv4 with
    | none => .error .missingStaticIpv4
    | some staticIpv4 => staticIpv4.validate

def validateGpioInputs (inputs : List GpioInputConfig) : Except ConfigValidationError Unit :=
  inputs.forM fun input => do
    failIf (input.gpio ∉ supportedGpioPins) (.unsupportedGpio input.gpio)
    failIf (inputs.countP (fun other => other.gpio = input.gpio) > 1) (.duplicateGpio input.gpio)
    failIf (input.debounceMs = 0) (.zeroDebounce input.gpio)

/-- Each mapping is compared with those behind it. -/
def validateMappings (inputs : List GpioInputConfig) :
    List InputMapping → Except ConfigValidationError Unit
  | [] => .ok ()
  | mapping :: behind => do
    failIf (¬ inputs.any (·.gpio = mapping.gpio)) (.mappingReferencesUnknownGpio mapping.gpio)
    failIf (behind.any fun other => other.gpio = mapping.gpio ∧ other.inputEvent = mapping.inputEvent)
      (.duplicateMapping mapping.gpio mapping.inputEvent)
    validateMappings inputs behind

def PersistedNodeConfig.validate (self : PersistedNodeConfig) : Except ConfigValidationError Unit := do
  failIf (self.deviceId.val = "") .emptyDeviceId
  failIf (self.wifi.ssid.val = "") .emptyWifiSsid
  self.network.validate
  validateGpioInputs self.gpioInputs.items
  failIf (self.doubleClickIntervalMs = 0) .zeroDoubleClickInterval
  failIf (self.longPressThresholdMs = 0) .zeroLongPressThreshold
  failIf (self.ackTimeoutMs = 0) .zeroAckTimeout
  failIf (self.heartbeatIntervalSec = 0) .zeroHeartbeatInterval
  validateMappings self.gpioInputs.items self.inputMappings.items

/-! ### JSON -/

section
variable (skip : Reader Unit)

def InputEvent.codec : Codec InputEvent := .names InputEvent.name InputEvent.ofName

def NetworkMode.name : NetworkMode → String
  | .dhcp => "DHCP"
  | .static => "STATIC"

def NetworkMode.ofName : String → Option NetworkMode
  | "DHCP" => some .dhcp
  | "STATIC" => some .static
  | _ => none

def NetworkMode.codec : Codec NetworkMode := .names NetworkMode.name NetworkMode.ofName

def GpioInputConfig.fields : Fields ["gpio","active_high","debounce_ms"] GpioInputConfig :=
  ((Fields.required "gpio" .u8).both <| (Fields.required "active_high" .bool).both <|
    Fields.required "debounce_ms" .u16).iso
    (fun (gpio,activeHigh,debounceMs) => { gpio,activeHigh,debounceMs })
    fun self => (self.gpio,self.activeHigh,self.debounceMs)

def GpioInputConfig.codec : Codec GpioInputConfig := .object skip fields

def InputMapping.fields : Fields ["gpio","input_event","action_id","enabled"] InputMapping :=
  ((Fields.required "gpio" .u8).both <| (Fields.required "input_event" InputEvent.codec).both <|
    (Fields.required "action_id" .u32).both <| Fields.required "enabled" .bool).iso
    (fun (gpio,inputEvent,actionId,enabled) => { gpio,inputEvent,actionId,enabled })
    fun self => (self.gpio,self.inputEvent,self.actionId,self.enabled)

def InputMapping.codec : Codec InputMapping := .object skip fields

def WifiConfig.fields : Fields ["ssid","password"] WifiConfig :=
  ((Fields.required "ssid" (.text _)).both <| Fields.required "password" (.text _)).iso
    (fun (ssid,password) => { ssid,password }) fun self => (self.ssid,self.password)

def WifiConfig.codec : Codec WifiConfig := .object skip fields

def StaticIpv4Config.fields :
    Fields ["ip_address","prefix_length","gateway","dns"] StaticIpv4Config :=
  ((Fields.required "ip_address" (.text _)).both <| (Fields.required "prefix_length" .u8).both <|
    (Fields.required "gateway" (.text _)).both <| Fields.required "dns" (.text _)).iso
    (fun (ipAddress,prefixLength,gateway,dns) => { ipAddress,prefixLength,gateway,dns })
    fun self => (self.ipAddress,self.prefixLength,self.gateway,self.dns)

def StaticIpv4Config.codec : Codec StaticIpv4Config := .object skip fields

def NetworkConfig.fields : Fields ["mode","static_ipv4"] NetworkConfig :=
  ((Fields.required "mode" NetworkMode.codec).both <|
    Fields.optional "static_ipv4" (.option (StaticIpv4Config.codec skip) fun _ => by nofun)).iso
    (fun (mode,staticIpv4) => { mode,staticIpv4 }) fun self => (self.mode,self.staticIpv4)

def NetworkConfig.codec : Codec NetworkConfig := .object skip (fields skip)

def PersistedNodeConfig.fields : Fields ["device_id","wifi","network","gpio_inputs","input_mappings",
    "double_click_interval_ms","long_press_threshold_ms","ack_timeout_ms","event_retry_count",
    "heartbeat_interval_sec"] PersistedNodeConfig :=
  ((Fields.required "device_id" (.text _)).both <|
    (Fields.required "wifi" (WifiConfig.codec skip)).both <|
    (Fields.required "network" (NetworkConfig.codec skip)).both <|
    (Fields.required "gpio_inputs" (.vec (GpioInputConfig.codec skip) _)).both <|
    (Fields.required "input_mappings" (.vec (InputMapping.codec skip) _)).both <|
    (Fields.required "double_click_interval_ms" .u32).both <|
    (Fields.required "long_press_threshold_ms" .u32).both <|
    (Fields.required "ack_timeout_ms" .u32).both <|
    (Fields.required "event_retry_count" .u8).both <|
    Fields.required "heartbeat_interval_sec" .u32).iso
    (fun (deviceId,wifi,network,gpioInputs,inputMappings,doubleClickIntervalMs,longPressThresholdMs,
        ackTimeoutMs,eventRetryCount,heartbeatIntervalSec) =>
      { deviceId,wifi,network,gpioInputs,inputMappings,doubleClickIntervalMs,longPressThresholdMs,
        ackTimeoutMs,eventRetryCount,heartbeatIntervalSec })
    fun self => (self.deviceId,self.wifi,self.network,self.gpioInputs,self.inputMappings,
      self.doubleClickIntervalMs,self.longPressThresholdMs,self.ackTimeoutMs,self.eventRetryCount,
      self.heartbeatIntervalSec)

def PersistedNodeConfig.codec : Codec PersistedNodeConfig := .object skip (fields skip)

/-- The keys of a configuration with fields of other types. -/
def configFields {A B C D E F G H I J : Type} (deviceId : Fields ["device_id"] A) (wifi : Fields ["wifi"] B)
    (network : Fields ["network"] C) (gpioInputs : Fields ["gpio_inputs"] D)
    (inputMappings : Fields ["input_mappings"] E) (doubleClickIntervalMs : Fields ["double_click_interval_ms"] F)
    (longPressThresholdMs : Fields ["long_press_threshold_ms"] G) (ackTimeoutMs : Fields ["ack_timeout_ms"] H)
    (eventRetryCount : Fields ["event_retry_count"] I) (heartbeatIntervalSec : Fields ["heartbeat_interval_sec"] J) :
    Fields ["device_id","wifi","network","gpio_inputs","input_mappings","double_click_interval_ms",
      "long_press_threshold_ms","ack_timeout_ms","event_retry_count","heartbeat_interval_sec"]
      (A × B × C × D × E × F × G × H × I × J) :=
  deviceId.both <| wifi.both <| network.both <| gpioInputs.both <| inputMappings.both <|
    doubleClickIntervalMs.both <| longPressThresholdMs.both <| ackTimeoutMs.both <|
    eventRetryCount.both heartbeatIntervalSec

theorem configKeys_plain : ∀ name ∈ ["device_id","wifi","network","gpio_inputs","input_mappings",
    "double_click_interval_ms","long_press_threshold_ms","ack_timeout_ms","event_retry_count",
    "heartbeat_interval_sec"], Plain name := by decide

end

/-! ### What is read back -/

/-- Every text as it stands in JSON; nothing once one of them outgrows its buffer. -/
def StaticIpv4Config.escaped (self : StaticIpv4Config) : Option StaticIpv4Config := do
  let ipAddress ← (Codec.text _).image self.ipAddress
  let gateway ← (Codec.text _).image self.gateway
  let dns ← (Codec.text _).image self.dns
  return { self with ipAddress,gateway,dns }

def NetworkConfig.escaped (self : NetworkConfig) : Option NetworkConfig :=
  match self.staticIpv4 with
  | none => some self
  | some staticIpv4 => staticIpv4.escaped.map fun found => { self with staticIpv4 := some found }

def WifiConfig.escaped (self : WifiConfig) : Option WifiConfig := do
  let ssid ← (Codec.text _).image self.ssid
  let password ← (Codec.text _).image self.password
  return { ssid,password }

def PersistedNodeConfig.escaped (self : PersistedNodeConfig) : Option PersistedNodeConfig := do
  let deviceId ← (Codec.text _).image self.deviceId
  let wifi ← self.wifi.escaped
  let network ← self.network.escaped
  return { self with deviceId,wifi,network }

section
variable (skip : Reader Unit)

theorem GpioInputConfig.image (input : GpioInputConfig) :
    (GpioInputConfig.codec skip).image input = some input := rfl

theorem InputMapping.image (mapping : InputMapping) :
    (InputMapping.codec skip).image mapping = some mapping := by
  obtain ⟨gpio,inputEvent,actionId,enabled⟩ := mapping
  have event : InputEvent.ofName (escape inputEvent.name) = some inputEvent := by
    cases inputEvent <;> decide
  simp [InputMapping.codec,InputMapping.fields,InputEvent.codec,event]

theorem NetworkConfig.image (network : NetworkConfig) :
    (NetworkConfig.codec skip).image network = network.escaped := by
  obtain ⟨mode,staticIpv4⟩ := network
  have known : NetworkMode.ofName (escape mode.name) = some mode := by
    cases mode <;> decide
  cases staticIpv4 with
  | none => simp [NetworkConfig.codec,NetworkConfig.fields,NetworkMode.codec,known,NetworkConfig.escaped]
  | some staticIpv4 =>
    simp only [NetworkConfig.codec,NetworkConfig.fields,NetworkMode.codec,NetworkConfig.escaped,
      StaticIpv4Config.codec,StaticIpv4Config.fields,StaticIpv4Config.escaped,Codec.object_image,
      Fields.iso_image,Fields.both_image,Fields.required_image,Fields.optional_image,
      Codec.names_image,Codec.option_image_some,Codec.u8_image,known]
    cases (Codec.text ipv4TextCapacity).image staticIpv4.ipAddress <;>
      cases (Codec.text ipv4TextCapacity).image staticIpv4.gateway <;>
      cases (Codec.text ipv4TextCapacity).image staticIpv4.dns <;> rfl

theorem WifiConfig.image (wifi : WifiConfig) : (WifiConfig.codec skip).image wifi = wifi.escaped := by
  simp only [WifiConfig.codec,WifiConfig.fields,WifiConfig.escaped,Codec.object_image,
    Fields.iso_image,Fields.both_image,Fields.required_image]
  cases (Codec.text wifiSsidCapacity).image wifi.ssid <;>
    cases (Codec.text wifiPasswordCapacity).image wifi.password <;> rfl

theorem PersistedNodeConfig.image (config : PersistedNodeConfig) :
    (PersistedNodeConfig.codec skip).image config = config.escaped := by
  simp only [PersistedNodeConfig.codec,PersistedNodeConfig.fields,PersistedNodeConfig.escaped,
    Codec.object_image,Fields.iso_image,Fields.both_image,Fields.required_image,Codec.u8_image,
    Codec.u32_image,WifiConfig.image,NetworkConfig.image,
    Codec.vec_image _ (GpioInputConfig.image skip),Codec.vec_image _ (InputMapping.image skip)]
  cases (Codec.text deviceIdCapacity).image config.deviceId <;> cases config.wifi.escaped <;>
    cases config.network.escaped <;> rfl

end

/-! ### Texts -/

def StaticIpv4Config.Plain (self : StaticIpv4Config) : Prop :=
  Json.Plain self.ipAddress.val ∧ Json.Plain self.gateway.val ∧ Json.Plain self.dns.val

/-- No text of the configuration needs an escape. -/
def PersistedNodeConfig.Plain (self : PersistedNodeConfig) : Prop :=
  Json.Plain self.deviceId.val ∧ Json.Plain self.wifi.ssid.val ∧ Json.Plain self.wifi.password.val ∧
    ∀ staticIpv4 ∈ self.network.staticIpv4, staticIpv4.Plain

/-- The escaped text is longer than the buffer the plain one came from. -/
def Outgrown {n : Nat} (text : Text n) : Prop := n < (Utf8.bytes (escape text.val)).length

def StaticIpv4Config.Outgrown (self : StaticIpv4Config) : Prop :=
  Node.Outgrown self.ipAddress ∨ Node.Outgrown self.gateway ∨ Node.Outgrown self.dns

/-- Some text of the configuration no longer fits its buffer once escaped. -/
def PersistedNodeConfig.Outgrown (self : PersistedNodeConfig) : Prop :=
  Node.Outgrown self.deviceId ∨ Node.Outgrown self.wifi.ssid ∨ Node.Outgrown self.wifi.password ∨
    ∃ staticIpv4 ∈ self.network.staticIpv4, staticIpv4.Outgrown

theorem image_eq_none {n : Nat} (text : Text n) : (Codec.text n).image text = none ↔ Outgrown text :=
  Text.ofString?_eq_none

theorem StaticIpv4Config.escaped_eq_self (self : StaticIpv4Config) :
    self.escaped = some self ↔ self.Plain := by
  rw [StaticIpv4Config.Plain,← image_text,← image_text,← image_text,StaticIpv4Config.escaped]
  obtain ⟨ipAddress,prefixLength,gateway,dns⟩ := self
  cases (Codec.text ipv4TextCapacity).image ipAddress <;>
    cases (Codec.text ipv4TextCapacity).image gateway <;>
    cases (Codec.text ipv4TextCapacity).image dns <;> simp

theorem NetworkConfig.escaped_eq_self (self : NetworkConfig) :
    self.escaped = some self ↔ ∀ staticIpv4 ∈ self.staticIpv4, staticIpv4.Plain := by
  obtain ⟨mode,staticIpv4⟩ := self
  cases staticIpv4 with
  | none => simp [NetworkConfig.escaped]
  | some staticIpv4 =>
    simp only [NetworkConfig.escaped,Option.mem_def,Option.some.injEq,forall_eq',
      ← StaticIpv4Config.escaped_eq_self]
    cases staticIpv4.escaped <;> simp

theorem WifiConfig.escaped_eq_self (self : WifiConfig) :
    self.escaped = some self ↔ Json.Plain self.ssid.val ∧ Json.Plain self.password.val := by
  rw [← image_text,← image_text,WifiConfig.escaped]
  obtain ⟨ssid,password⟩ := self
  cases (Codec.text wifiSsidCapacity).image ssid <;>
    cases (Codec.text wifiPasswordCapacity).image password <;> simp

/-- Exactly the configurations without special characters are read back as they are. -/
theorem PersistedNodeConfig.escaped_eq_self (self : PersistedNodeConfig) :
    self.escaped = some self ↔ self.Plain := by
  rw [PersistedNodeConfig.Plain,← and_assoc (b := Json.Plain self.wifi.password.val),
    ← image_text,← WifiConfig.escaped_eq_self,← NetworkConfig.escaped_eq_self,
    PersistedNodeConfig.escaped]
  obtain ⟨deviceId,wifi,network,_,_,_,_,_,_,_⟩ := self
  cases (Codec.text deviceIdCapacity).image deviceId <;> cases wifi.escaped <;>
    cases network.escaped <;> simp

theorem PersistedNodeConfig.escaped_eq_none (self : PersistedNodeConfig) :
    self.escaped = none ↔ self.Outgrown := by
  have wifi : self.wifi.escaped = none ↔ Node.Outgrown self.wifi.ssid ∨ Node.Outgrown self.wifi.password := by
    rw [← image_eq_none,← image_eq_none,WifiConfig.escaped]
    cases (Codec.text wifiSsidCapacity).image self.wifi.ssid <;>
      cases (Codec.text wifiPasswordCapacity).image self.wifi.password <;> simp
  have static (staticIpv4 : StaticIpv4Config) : staticIpv4.escaped = none ↔ staticIpv4.Outgrown := by
    rw [StaticIpv4Config.Outgrown,← image_eq_none,← image_eq_none,← image_eq_none,
      StaticIpv4Config.escaped]
    cases (Codec.text ipv4TextCapacity).image staticIpv4.ipAddress <;>
      cases (Codec.text ipv4TextCapacity).image staticIpv4.gateway <;>
      cases (Codec.text ipv4TextCapacity).image staticIpv4.dns <;> simp
  have network : self.network.escaped = none ↔
      ∃ staticIpv4 ∈ self.network.staticIpv4, staticIpv4.Outgrown := by
    rw [NetworkConfig.escaped]
    cases self.network.staticIpv4 <;> simp [static]
  rw [PersistedNodeConfig.Outgrown,← or_assoc (b := Node.Outgrown self.wifi.password),
    ← image_eq_none,← wifi,← network,PersistedNodeConfig.escaped]
  cases (Codec.text deviceIdCapacity).image self.deviceId <;> cases self.wifi.escaped <;>
    cases self.network.escaped <;> simp

/-! ### Checks of what is read back -/

theorem parseDigits_digits {value : Nat} {chars : List Char} (parsed : parseDigits value chars ≠ none) :
    ∀ char ∈ chars, char.isDigit = true := by
  induction chars generalizing value with
  | nil => simp
  | cons char chars ih =>
    simp only [parseDigits] at parsed
    split_ifs at parsed with digit small
    · exact List.forall_mem_cons.mpr ⟨digit,ih parsed⟩
    · simp at parsed
    · simp at parsed

theorem parseByte_chars {part : List Char} (parsed : parseByte part ≠ none) :
    ∀ char ∈ part, char = '+' ∨ char.isDigit = true := by
  unfold parseByte at parsed
  split at parsed
  next => simp
  next => simp
  next digits _ =>
    have rest := parseDigits_digits (by simpa using parsed)
    exact List.forall_mem_cons.mpr ⟨.inl rfl,fun char member => .inr (rest char member)⟩
  next => exact fun char member => .inr (parseDigits_digits (by simpa using parsed) char member)

theorem parseParts_chars {octets : List UInt8} {parts : List (List Char)}
    (parsed : parseParts octets parts ≠ none) :
    ∀ part ∈ parts, ∀ char ∈ part, char = '+' ∨ char.isDigit = true := by
  induction parts generalizing octets with
  | nil => simp
  | cons part parts ih =>
    simp only [parseParts] at parsed
    split_ifs at parsed
    · simp at parsed
    · split at parsed
      next => simp at parsed
      next octet read =>
        exact List.forall_mem_cons.mpr ⟨parseByte_chars (by simp [read]),ih parsed⟩

theorem mem_intercalate {α : Type} {item : α} {separator : List α} {parts : List (List α)}
    (member : item ∈ separator.intercalate parts) : item ∈ separator ∨ ∃ part ∈ parts, item ∈ part := by
  induction parts with
  | nil => simp [List.intercalate] at member
  | cons part parts ih =>
    cases parts with
    | nil => exact .inr ⟨part,by simp,by simpa [List.intercalate] using member⟩
    | cons next rest =>
      rw [List.intercalate,List.intersperse_cons_cons,List.flatten_cons,List.flatten_cons,List.mem_append,
        List.mem_append] at member
      rcases member with here | separates | later
      · exact .inr ⟨part,by simp,here⟩
      · exact .inl separates
      · rcases ih later with separates | ⟨found,among,inside⟩
        · exact .inl separates
        · exact .inr ⟨found,by simp only [List.mem_cons] at among ⊢; exact .inr among,inside⟩

/-- An address that parses has no character to escape. -/
theorem parseIpv4_plain {value : String} (parsed : parseIpv4 value ≠ none) : Json.Plain value := by
  have parts := parseParts_chars parsed
  have plain (char : Char) (known : char = '.' ∨ char = '+' ∨ char.isDigit = true) :
      escapeChar char = [char] := by
    rcases known with rfl | rfl | digit
    · decide
    · decide
    · have range := Char.isDigit_iff_toNat.mp digit
      have low : 48 ≤ char.toNat := range.1
      have high : char.toNat ≤ 57 := range.2
      have notBackslash : char ≠ '\\' := by rintro rfl; simp at high
      have notQuote : char ≠ '"' := by rintro rfl; simp at low
      simp only [escapeChar,notBackslash,notQuote,if_false]
      split_ifs <;> first | omega | rfl
  intro char member
  have joined : ['.'].intercalate (value.toList.splitOn '.') = value.toList :=
    List.intercalate_splitOn '.'
  rw [← joined] at member
  apply plain
  rcases mem_intercalate member with dot | ⟨part,among,inside⟩
  · exact .inl (List.mem_singleton.mp dot)
  · exact .inr (parts part among char inside)

theorem escape_eq_empty {text : String} : escape text = "" ↔ text = "" := by
  constructor
  · intro empty
    have flat : text.toList.flatMap escapeChar = [] := by
      have chars := congrArg String.toList empty
      rwa [escape,String.toList_ofList] at chars
    cases chars : text.toList with
    | nil => exact String.toList_eq_nil_iff.mp chars
    | cons char rest =>
      rw [chars,List.flatMap_cons,List.append_eq_nil_iff] at flat
      have := escapeChar_ne_nil char
      simp [flat.1] at this
  · rintro rfl
    rfl

theorem StaticIpv4Config.validate_escaped {self found : StaticIpv4Config}
    (valid : self.validate = .ok ()) (image : self.escaped = some found) : found = self := by
  have plain : self.Plain := by
    simp only [StaticIpv4Config.validate,then_ok,failIf_ok,not_or] at valid
    exact ⟨parseIpv4_plain valid.2.1,parseIpv4_plain valid.2.2.1,parseIpv4_plain valid.2.2.2⟩
  rw [self.escaped_eq_self.mpr plain] at image
  exact (Option.some.inj image).symm

theorem NetworkConfig.validate_escaped {self found : NetworkConfig}
    (valid : self.validate = .ok ()) (image : self.escaped = some found) : found.validate = .ok () := by
  obtain ⟨mode,staticIpv4⟩ := self
  cases staticIpv4 with
  | none =>
    simp only [NetworkConfig.escaped,Option.some.injEq] at image
    rwa [← image]
  | some staticIpv4 =>
    simp only [NetworkConfig.escaped,Option.map_eq_some_iff] at image
    obtain ⟨static,escaped,rfl⟩ := image
    cases mode with
    | dhcp => rfl
    | static => rwa [StaticIpv4Config.validate_escaped valid escaped]

/-- The checks a configuration passed are passed again by what is read back of it. -/
theorem PersistedNodeConfig.validate_escaped {self found : PersistedNodeConfig}
    (valid : self.validate = .ok ()) (image : self.escaped = some found) : found.validate = .ok () := by
  simp only [PersistedNodeConfig.escaped,WifiConfig.escaped,Option.bind_eq_bind,
    Option.bind_eq_some_iff,Option.pure_def,Option.some.injEq] at image
  obtain ⟨deviceId,device,wifi,⟨ssid,ssidImage,password,-,rfl⟩,network,networkImage,rfl⟩ := image
  simp only [PersistedNodeConfig.validate,then_ok,failIf_ok] at valid ⊢
  obtain ⟨deviceValid,ssidValid,networkValid,rest⟩ := valid
  refine ⟨?_,?_,NetworkConfig.validate_escaped networkValid networkImage,rest⟩
  · rwa [image_text_val device,escape_eq_empty]
  · rwa [image_text_val ssidImage,escape_eq_empty]

end UchiPulse.Node
