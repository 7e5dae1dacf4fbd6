import UchiPulse.Node.Controller
import UchiPulse.Node.Storage

/-! What the tasks of a node do with the configuration it booted with. Each of them would
stop at a configuration that is not valid; the configuration of a boot is. -/
namespace UchiPulse.Node
open Common Json

def PersistedNodeConfig.inputConfig (self : PersistedNodeConfig) : InputConfig where
  gpioInputs := self.gpioInputs.items
  mappings := self.inputMappings.items
  doubleClickIntervalMs := self.doubleClickIntervalMs
  longPressThresholdMs := self.longPressThresholdMs

/-- What the IP stack starts with; an address is its octets. -/
inductive StackConfig where
  | dhcpv4
  | ipv4Static (address : List UInt8) (prefixLength : UInt8) (gateway : List UInt8)
    (dnsServers : List (List UInt8))
deriving DecidableEq

/-- The value, or a panic with the message. -/
def expect {α : Type} (message : String) : Option α → Except String α
  | none => .error message
  | some value => .ok value

def networkConfig (config : PersistedNodeConfig) : Except String StackConfig :=
  match config.network.mode with
  | .dhcp => .ok .dhcpv4
  | .static => do
    let staticIpv4 ← expect "validated static network configuration is missing" config.network.staticIpv4
    let ipAddress ← expect "validated static IP address is invalid" (parseIpv4 staticIpv4.ipAddress.val)
    let gateway ← expect "validated static gateway is invalid" (parseIpv4 staticIpv4.gateway.val)
    let dns ← expect "validated static DNS is invalid" (parseIpv4 staticIpv4.dns.val)
    return .ipv4Static ipAddress staticIpv4.prefixLength gateway [dns]

/-- The stack takes four octets for an address and at most 32 bits for a prefix. -/
def StackConfig.Sound : StackConfig → Prop
  | .dhcpv4 => True
  | .ipv4Static address prefixLength gateway dnsServers =>
    address.length = 4 ∧ prefixLength ≤ 32 ∧ gateway.length = 4 ∧ ∀ server ∈ dnsServers, server.length = 4

/-! ### The chosen configuration -/

theorem getD_filter {α : Type} (check : α → Bool) {fallback : α} (found : Option α)
    (passes : check fallback = true) : check ((found.filter check).getD fallback) = true := by
  cases found with
  | none => exact passes
  | some value =>
    by_cases checked : check value = true
    · rw [Option.filter_some_pos checked]
      exact checked
    · rw [Option.filter_some_neg (by simpa using checked)]
      exact passes

/-- Whatever the storage holds, a record is taken only when it is valid. -/
theorem ConfigManager.new_valid {S ε : Type} (skip : Reader Unit) (device : ConfigStorage S ε) (storage : S)
    {defaults : PersistedNodeConfig} (valid : defaults.validate = .ok ()) :
    (ConfigManager.new skip device storage defaults).config.validate = .ok () := by
  have passes : decide (defaults.validate = .ok ()) = true := by simp only [valid,decide_true]
  simp only [ConfigManager.new]
  split
  next =>
    split
    next =>
      have checked (found : Option PersistedNodeConfig) :=
        getD_filter (fun config => decide (config.validate = .ok ())) found passes
      exact of_decide_eq_true (checked _)
    next => exact valid
  next => exact valid

/-! ### The inputs -/

theorem validateGpioInputs_nodup {inputs : List GpioInputConfig} (valid : validateGpioInputs inputs = .ok ()) :
    (inputs.map (·.gpio)).Nodup := by
  simp only [validateGpioInputs,forM_ok,then_ok,failIf_ok] at valid
  rw [List.nodup_iff_count_le_one]
  intro gpio
  by_cases listed : gpio ∈ inputs.map (·.gpio)
  · obtain ⟨input,member,rfl⟩ := List.mem_map.mp listed
    have once := (valid input member).2.1
    rw [List.count,List.countP_map]
    refine Nat.le_trans (Nat.le_of_eq (List.countP_congr ?_)) (Nat.not_lt.mp once)
    simp
  · simp [List.count_eq_zero.mpr listed]

namespace InputController

/-- Inputs that are new and have room are all added. -/
theorem addInputs_new (inputs : List RuntimeInput) {gpioInputs : List GpioInputConfig}
    (fresh : (inputs.map (·.gpio) ++ gpioInputs.map (·.gpio)).Nodup)
    (room : inputs.length + gpioInputs.length ≤ maxInputChannels) :
    ∃ result, addInputs inputs gpioInputs = .ok result := by
  induction gpioInputs generalizing inputs with
  | nil => exact ⟨inputs,rfl⟩
  | cons gpioInput gpioInputs ih =>
    simp only [List.length_cons] at room
    have unseen : ¬ inputs.any (·.gpio = gpioInput.gpio) = true := by
      intro seen
      obtain ⟨input,member,same⟩ := List.any_eq_true.mp seen
      refine List.nodup_append.mp fresh |>.2.2 input.gpio (List.mem_map_of_mem member) gpioInput.gpio
        (by simp) (by simpa using same)
    obtain ⟨result,added⟩ := ih (inputs ++ [{
      gpio := gpioInput.gpio,activeHigh := gpioInput.activeHigh,debounceMs := gpioInput.debounceMs
      detector := .new }]) (by simpa using fresh) (by simp only [List.length_append,List.length_singleton]; omega)
    exact ⟨result,addInputs_cons.mpr ⟨unseen,by omega,added⟩⟩

theorem any_gpio {α β : Type} {left : List α} {right : List β} {gpio : α → UInt8} {gpio' : β → UInt8}
    (same : left.map gpio = right.map gpio') (wanted : UInt8) :
    left.any (gpio · = wanted) = right.any (gpio' · = wanted) := by
  have mapped := congrArg (List.any · (· = wanted)) same
  simpa only [List.any_map,Function.comp_def] using mapped

/-- The two validators of the mappings agree. -/
theorem checkMappings_ok {inputs : List RuntimeInput} {gpioInputs : List GpioInputConfig}
    (same : inputs.map (·.gpio) = gpioInputs.map (·.gpio)) (mappings : List InputMapping) :
    checkMappings inputs mappings = .ok () ↔ validateMappings gpioInputs mappings = .ok () := by
  induction mappings with
  | nil => exact iff_of_true rfl rfl
  | cons mapping behind ih =>
    simp only [checkMappings,validateMappings,then_ok,failIf_ok,ih,any_gpio same]

/-- What passes the validator of the record passes that of the controller. -/
theorem new_of_valid {config : PersistedNodeConfig} (valid : config.validate = .ok ()) :
    ∃ controller, InputController.new config.inputConfig = .ok controller := by
  simp only [PersistedNodeConfig.validate,then_ok] at valid
  obtain ⟨-,-,-,gpios,-,-,-,-,mappings⟩ := valid
  have room : config.gpioInputs.items.length ≤ maxInputChannels := by
    have bound := config.gpioInputs.fits
    simp only [maxPersistedGpioInputs,maxInputChannels] at bound ⊢
    omega
  obtain ⟨inputs,added⟩ := addInputs_new [] (validateGpioInputs_nodup gpios)
    (by simpa using room)
  have checked := (checkMappings_ok (addInputs_ok added) _).mpr mappings
  exact ⟨_,bind_ok.mpr ⟨inputs,added,bind_ok.mpr ⟨(),checked,rfl⟩⟩⟩

end InputController

/-! ### The addresses -/

theorem parseParts_length {octets found : List UInt8} {parts : List (List Char)}
    (parsed : parseParts octets parts = some found) : found.length = 4 := by
  induction parts generalizing octets with
  | nil =>
    simp only [parseParts] at parsed
    split_ifs at parsed with four
    cases parsed
    exact four
  | cons part parts ih =>
    simp only [parseParts] at parsed
    split_ifs at parsed
    split at parsed
    · cases parsed
    · exact ih parsed

/-- The checks leave nothing for the panics of the network setup. -/
theorem networkConfig_of_valid {config : PersistedNodeConfig} (valid : config.validate = .ok ()) :
    ∃ stack, networkConfig config = .ok stack ∧ stack.Sound ∧
      (stack = .dhcpv4 ↔ config.network.mode = .dhcp) := by
  simp only [PersistedNodeConfig.validate,then_ok] at valid
  obtain ⟨-,-,network,-⟩ := valid
  unfold NetworkConfig.validate at network
  cases mode : config.network.mode with
  | dhcp => exact ⟨.dhcpv4,by simp only [networkConfig,mode],trivial,by simp⟩
  | static =>
    simp only [mode] at network
    cases static : config.network.staticIpv4 with
    | none =>
      rw [static] at network
      cases network
    | some staticIpv4 =>
      simp only [static,StaticIpv4Config.validate,then_ok,failIf_ok,not_or] at network
      obtain ⟨prefixFits,address,gateway,dns⟩ := network
      obtain ⟨address,addressRead⟩ := Option.ne_none_iff_exists'.mp address
      obtain ⟨gateway,gatewayRead⟩ := Option.ne_none_iff_exists'.mp gateway
      obtain ⟨dns,dnsRead⟩ := Option.ne_none_iff_exists'.mp dns
      refine ⟨.ipv4Static address staticIpv4.prefixLength gateway [dns],?_,?_,by simp⟩
      · simp only [networkConfig,mode]
        refine bind_ok.mpr ⟨staticIpv4,by rw [static]; rfl,bind_ok.mpr ⟨address,by rw [addressRead]; rfl,?_⟩⟩
        exact bind_ok.mpr ⟨gateway,by rw [gatewayRead]; rfl,bind_ok.mpr ⟨dns,by rw [dnsRead]; rfl,rfl⟩⟩
      · refine ⟨parseParts_length addressRead,UInt8.not_lt.mp prefixFits,parseParts_length gatewayRead,?_⟩
        intro server member
        rw [List.mem_singleton.mp member]
        exact parseParts_length dnsRead

/-- Whatever the flash holds and however its reading ends, a node that falls back to valid
defaults boots: every task can start with the configuration it is given. -/
theorem boots_from_any_content {S ε : Type} (skip : Reader Unit) (device : ConfigStorage S ε) (storage : S)
    (defaults : PersistedNodeConfig) (bootId : UInt64) (valid : defaults.validate = .ok ()) :
    let config := (ConfigManager.new skip device storage defaults).config
    config.validate = .ok () ∧
    (∃ controller, InputController.new config.inputConfig = .ok controller) ∧
    (∃ protocol, NodeUdpProtocol.new config.deviceId.val bootId = .ok protocol) ∧
    ∃ stack, networkConfig config = .ok stack ∧ stack.Sound ∧
      (stack = .dhcpv4 ↔ config.network.mode = .dhcp) := by
  intro config
  have sound := ConfigManager.new_valid skip device storage valid
  refine ⟨sound,InputController.new_of_valid sound,?_,networkConfig_of_valid sound⟩
  have fits : text deviceIdCapacity config.deviceId.val = .ok config.deviceId := by
    rw [text,Text.ofString?_eq_some.mpr rfl]
  exact ⟨{ deviceId := config.deviceId,eventIds := .new bootId },by rw [NodeUdpProtocol.new,fits]⟩

/-- A node with a stored record boots with the addresses that stand there. -/
theorem boots_from_any_content_static : ∃ saved : ConfigManager MemoryConfigStorage,
    (ConfigManager.new (fun _ => none) MemoryConfigStorage.device saved.storage .defaults).config = staticConfig ∧
    (∃ controller, InputController.new staticConfig.inputConfig = .ok controller) ∧
    ∃ stack, networkConfig staticConfig = .ok stack ∧ stack.Sound ∧ stack ≠ .dhcpv4 := by
  obtain ⟨saved,ok⟩ := MemoryConfigStorage.setConfig_ok (fun _ => none) .defaults staticConfig
    (by decide) (by decide +kernel)
  obtain ⟨-,-,written,fits⟩ := ConfigManager.setConfig_ok ok
  have read : (ConfigManager.new (fun _ => none) MemoryConfigStorage.device saved.storage .defaults).config =
      staticConfig := by
    rw [ConfigManager.new_written .defaults (MemoryConfigStorage.returnsLastWritten _ rfl) written fits]
    decide +kernel
  have boots := boots_from_any_content (fun _ => none) MemoryConfigStorage.device saved.storage .defaults 7
    (by decide)
  rw [read] at boots
  obtain ⟨-,inputs,-,stack,configured,sound,same⟩ := boots
  exact ⟨saved,read,inputs,stack,configured,sound,fun leased => absurd (same.mp leased) (by decide)⟩

end UchiPulse.Node
