import UchiPulse.Node.Config

/-! The stored configuration record and the manager that saves it and boots from it.
Saving is total on valid configurations that fit; booting falls back to the defaults on
any record it cannot read. -/
namespace UchiPulse.Node
open Common Json

def configStorageFormatVersion : UInt8 := 2
def configStorageSize : Nat := 4096

structure StorageEnvelope where
  version : UInt8
  config : PersistedNodeConfig
deriving DecidableEq

def StorageEnvelope.fields (skip : Reader Unit) : Fields ["version","config"] StorageEnvelope :=
  ((Fields.required "version" .u8).both <|
    Fields.required "config" (PersistedNodeConfig.codec skip)).iso
    (fun (version,config) => { version,config }) fun self => (self.version,self.config)

def StorageEnvelope.codec (skip : Reader Unit) : Codec StorageEnvelope := .object skip (fields skip)

theorem StorageEnvelope.image (skip : Reader Unit) (envelope : StorageEnvelope) :
    (StorageEnvelope.codec skip).image envelope =
      envelope.config.escaped.map fun config => { envelope with config } := by
  simp only [StorageEnvelope.codec,StorageEnvelope.fields,Codec.object_image,Fields.iso_image,
    Fields.both_image,Fields.required_image,Codec.u8_image,PersistedNodeConfig.image]
  cases envelope.config.escaped <;> rfl

/-- A storage implementation over states `S`. Reading fills a destination and returns
the number of bytes used. -/
structure ConfigStorage (S ε : Type) where
  read : S → List UInt8 → S × List UInt8 × Except ε Nat
  write : S → List UInt8 → S × Except ε Unit
  clear : S → S × Except ε Unit

inductive ConfigManagerError (ε : Type) where
  | invalidConfig (error : ConfigValidationError)
  | storage (error : ε)
  | serialization (error : CodecError)

structure ConfigManager (S : Type) where
  storage : S
  config : PersistedNodeConfig

namespace ConfigManager
variable {S ε : Type} (skip : Reader Unit) (device : ConfigStorage S ε)

/-- What is unreadable counts as absent. -/
def new (storage : S) (defaults : PersistedNodeConfig) : ConfigManager S :=
  let (storage,raw,outcome) := device.read storage (List.replicate configStorageSize 0)
  let config := match outcome with
    | .ok used =>
      if used > 0 ∧ used ≤ raw.length then
        ((((decode (StorageEnvelope.codec skip) (raw.take used)).toOption.filter
          (·.version = configStorageFormatVersion)).map (·.config)).filter
          (·.validate = .ok ())).getD defaults
      else defaults
    | .error _ => defaults
  { storage,config }

/-- The active configuration changes only after the record was written. -/
def setConfig (self : ConfigManager S) (config : PersistedNodeConfig) :
    ConfigManager S × Except (ConfigManagerError ε) Unit :=
  match config.validate with
  | .error error => (self,.error (.invalidConfig error))
  | .ok () =>
    match encode (StorageEnvelope.codec skip) { version := configStorageFormatVersion,config }
        configStorageSize with
    | .error error => (self,.error (.serialization error))
    | .ok raw =>
      match device.write self.storage raw with
      | (storage,.error error) => ({ self with storage },.error (.storage error))
      | (storage,.ok ()) => ({ storage,config },.ok ())

def factoryReset (self : ConfigManager S) : ConfigManager S × Except (ConfigManagerError ε) Unit :=
  match device.clear self.storage with
  | (storage,.error error) => ({ self with storage },.error (.storage error))
  | (storage,.ok ()) => ({ self with storage },.ok ())

variable {skip device}

theorem setConfig_ok {self next : ConfigManager S} {config : PersistedNodeConfig}
    (saved : self.setConfig skip device config = (next,.ok ())) :
    config.validate = .ok () ∧ next.config = config ∧
      device.write self.storage ((StorageEnvelope.codec skip).write
        { version := configStorageFormatVersion,config }) = (next.storage,.ok ()) ∧
      ((StorageEnvelope.codec skip).write
        { version := configStorageFormatVersion,config }).length ≤ configStorageSize := by
  unfold setConfig at saved
  cases valid : config.validate with
  | error error => simp [valid] at saved
  | ok =>
    simp only [valid] at saved
    cases written : encode (StorageEnvelope.codec skip)
        { version := configStorageFormatVersion,config } configStorageSize with
    | error error => simp [written] at saved
    | ok raw =>
      obtain ⟨rfl,fits⟩ := encode_eq_ok.mp written
      simp only [written] at saved
      rcases stored : device.write self.storage ((StorageEnvelope.codec skip).write
        { version := configStorageFormatVersion,config }) with ⟨storage,outcome⟩
      rw [stored] at saved
      cases outcome with
      | error error => simp at saved
      | ok =>
        simp only [Prod.mk.injEq,and_true] at saved
        subst saved
        exact ⟨rfl,rfl,rfl,fits⟩

end ConfigManager

/-- In this state the storage gives back what is written to it next. -/
def ReturnsLastWritten {S ε : Type} (device : ConfigStorage S ε) (storage : S) : Prop :=
  ∀ data next destination, device.write storage data = (next,.ok ()) →
    data.length ≤ destination.length → ∃ after raw,
      device.read next destination = (after,raw,.ok data.length) ∧ raw.take data.length = data

/-- Booting on a record as it is written. -/
theorem ConfigManager.new_read {S ε : Type} {skip : Reader Unit} {device : ConfigStorage S ε}
    {storage after : S} {config : PersistedNodeConfig} {raw : List UInt8} (defaults : PersistedNodeConfig)
    (read : device.read storage (List.replicate configStorageSize 0) =
      (after,raw,.ok ((StorageEnvelope.codec skip).write
        { version := configStorageFormatVersion,config }).length))
    (content : raw.take ((StorageEnvelope.codec skip).write
        { version := configStorageFormatVersion,config }).length =
      (StorageEnvelope.codec skip).write { version := configStorageFormatVersion,config }) :
    (ConfigManager.new skip device storage defaults).config =
      (config.escaped.filter (·.validate = .ok ())).getD defaults := by
  obtain ⟨byte,rest,opening,-⟩ := (StorageEnvelope.codec skip).opens
    { version := configStorageFormatVersion,config }
  have decoded : (decode (StorageEnvelope.codec skip) ((StorageEnvelope.codec skip).write
      { version := configStorageFormatVersion,config })).toOption =
      config.escaped.map fun config => { version := configStorageFormatVersion,config } := by
    simp only [decode,fromSlice_write,StorageEnvelope.image]
    cases config.escaped <;> simp [Except.toOption]
  have bound := congrArg List.length content
  rw [List.length_take] at bound
  have positive : 0 < ((StorageEnvelope.codec skip).write
      { version := configStorageFormatVersion,config }).length := by
    rw [opening,List.length_cons]
    omega
  simp only [ConfigManager.new,read,content,decoded]
  rw [if_pos ⟨positive,by omega⟩]
  cases config.escaped <;> simp [Option.filter]

/-- Booting on a record that was just written. -/
theorem ConfigManager.new_written {S ε : Type} {skip : Reader Unit} {device : ConfigStorage S ε}
    {storage next : S} {config : PersistedNodeConfig} (defaults : PersistedNodeConfig)
    (returns : ReturnsLastWritten device storage)
    (written : device.write storage ((StorageEnvelope.codec skip).write
      { version := configStorageFormatVersion,config }) = (next,.ok ()))
    (fits : ((StorageEnvelope.codec skip).write
      { version := configStorageFormatVersion,config }).length ≤ configStorageSize) :
    (ConfigManager.new skip device next defaults).config =
      (config.escaped.filter (·.validate = .ok ())).getD defaults := by
  obtain ⟨after,raw,read,content⟩ := returns _ _ (List.replicate configStorageSize 0) written
    (by rwa [List.length_replicate])
  exact ConfigManager.new_read defaults read content

/-! ### Storage in memory -/

structure MemoryConfigStorage where
  size : Nat
  bytes : List UInt8
  len : Nat
  failRead : Bool
  failWrite : Bool
  failClear : Bool

inductive MemoryStorageError where
  | read | write | clear
deriving DecidableEq

namespace MemoryConfigStorage

def empty (size : Nat) : MemoryConfigStorage where
  size := size
  bytes := List.replicate size 0
  len := 0
  failRead := false
  failWrite := false
  failClear := false

def read (self : MemoryConfigStorage) (destination : List UInt8) :
    MemoryConfigStorage × List UInt8 × Except MemoryStorageError Nat :=
  if self.failRead then ({ self with failRead := false },destination,.error .read)
  else
    let count := min self.len destination.length
    (self,self.bytes.take count ++ destination.drop count,.ok count)

def write (self : MemoryConfigStorage) (data : List UInt8) :
    MemoryConfigStorage × Except MemoryStorageError Unit :=
  if self.failWrite then ({ self with failWrite := false },.error .write)
  else if data.length > self.size then (self,.error .write)
  else ({ self with
    bytes := data ++ List.replicate (self.size - data.length) 0,len := data.length },.ok ())

def clear (self : MemoryConfigStorage) : MemoryConfigStorage × Except MemoryStorageError Unit :=
  if self.failClear then ({ self with failClear := false },.error .clear)
  else ({ self with bytes := List.replicate self.size 0,len := 0 },.ok ())

def device : ConfigStorage MemoryConfigStorage MemoryStorageError := { read,write,clear }

theorem returnsLastWritten (self : MemoryConfigStorage) (readable : self.failRead = false) :
    ReturnsLastWritten device self := by
  intro data next destination written fits
  simp only [device,write] at written
  split_ifs at written with fails long
  · simp at written
  · simp at written
  · simp only [Prod.mk.injEq,and_true] at written
    subst written
    refine ⟨{ self with
      bytes := data ++ List.replicate (self.size - data.length) 0,len := data.length },
      data ++ destination.drop data.length,?_,List.take_left⟩
    simp only [device,read,readable,Bool.false_eq_true,if_false,Nat.min_eq_left fits]
    rw [List.take_left]

end MemoryConfigStorage

/-- The node boots with the configuration it saved exactly when no text needed an escape
(or the defaults it falls back to happen to be the same configuration). -/
theorem saved_config_boots_iff {S ε : Type} (skip : Reader Unit) (device : ConfigStorage S ε)
    (manager saved : ConfigManager S) (config defaults : PersistedNodeConfig)
    (returns : ReturnsLastWritten device manager.storage)
    (ok : manager.setConfig skip device config = (saved,.ok ())) :
    (ConfigManager.new skip device saved.storage defaults).config = config ↔
      config.Plain ∨ (config.Outgrown ∧ defaults = config) := by
  obtain ⟨valid,-,written,fits⟩ := ConfigManager.setConfig_ok ok
  rw [ConfigManager.new_written defaults returns written fits,← config.escaped_eq_self,
    ← config.escaped_eq_none]
  cases image : config.escaped with
  | none => simp
  | some found =>
    have foundValid := PersistedNodeConfig.validate_escaped valid image
    simp [Option.filter,foundValid]

/-- The defaults, with a password that contains a backslash pair. -/
def backslashPassword : PersistedNodeConfig :=
  { PersistedNodeConfig.defaults with
    wifi := { PersistedNodeConfig.defaults.wifi with password := ⟨"a\\\\b",by decide⟩ } }

/-- Memory that holds a record takes any configuration that is valid and fits. -/
theorem MemoryConfigStorage.setConfig_ok (skip : Reader Unit) (active config : PersistedNodeConfig)
    (valid : config.validate = .ok ())
    (fits : ((StorageEnvelope.codec skip).write
      { version := configStorageFormatVersion,config }).length ≤ configStorageSize) :
    ∃ saved, ConfigManager.setConfig skip MemoryConfigStorage.device
      { storage := .empty configStorageSize,config := active } config = (saved,.ok ()) := by
  have written := encode_eq_ok.mpr ⟨rfl,fits⟩
  have room := Nat.not_lt.mpr fits
  refine ⟨_,Prod.ext rfl ?_⟩
  simp only [ConfigManager.setConfig,valid,written,MemoryConfigStorage.device,
    MemoryConfigStorage.write,MemoryConfigStorage.empty,Bool.false_eq_true,if_false,gt_iff_lt,if_neg room]

/-- A node with addresses of its own, and a button that asks for something. -/
def staticConfig : PersistedNodeConfig :=
  { PersistedNodeConfig.defaults with
    deviceId := ⟨"kitchen",by decide⟩
    network := {
      mode := .static
      staticIpv4 := some {
        ipAddress := ⟨"192.168.1.20",by decide⟩,prefixLength := 24,gateway := ⟨"192.168.1.1",by decide⟩
        dns := ⟨"192.168.1.1",by decide⟩ } }
    inputMappings := ⟨[{ gpio := 2,inputEvent := .click,actionId := 1,enabled := true }],by decide⟩ }

theorem saved_config_boots_iff_static : ∃ saved,
    ConfigManager.setConfig (fun _ => none) MemoryConfigStorage.device
      { storage := .empty configStorageSize,config := .defaults } staticConfig = (saved,.ok ()) ∧
    (ConfigManager.new (fun _ => none) MemoryConfigStorage.device saved.storage .defaults).config =
      staticConfig := by
  obtain ⟨saved,ok⟩ := MemoryConfigStorage.setConfig_ok (fun _ => none) .defaults staticConfig
    (by decide) (by decide +kernel)
  have plain : staticConfig.Plain :=
    ⟨by decide,by decide,by decide,by
      simp only [staticConfig,Option.mem_some_iff,forall_eq',StaticIpv4Config.Plain]
      decide⟩
  exact ⟨saved,ok,(saved_config_boots_iff (fun _ => none) MemoryConfigStorage.device _ saved
    staticConfig .defaults (MemoryConfigStorage.returnsLastWritten _ rfl) ok).mpr (.inl plain)⟩

/-- A password with a backslash pair is saved, and comes back with two pairs. -/
theorem backslash_password_boots_differently : ∃ saved,
    ConfigManager.setConfig (fun _ => none) MemoryConfigStorage.device
      { storage := .empty configStorageSize,config := .defaults } backslashPassword = (saved,.ok ()) ∧
    ReturnsLastWritten MemoryConfigStorage.device (MemoryConfigStorage.empty configStorageSize) ∧
    (ConfigManager.new (fun _ => none) MemoryConfigStorage.device saved.storage .defaults).config ≠
      backslashPassword := by
  obtain ⟨saved,ok⟩ := MemoryConfigStorage.setConfig_ok (fun _ => none) .defaults backslashPassword
    (by decide) (by decide +kernel)
  have returns := MemoryConfigStorage.returnsLastWritten (.empty configStorageSize) rfl
  obtain ⟨-,-,written,fits⟩ := ConfigManager.setConfig_ok ok
  refine ⟨saved,ok,returns,?_⟩
  rw [ConfigManager.new_written .defaults returns written fits]
  decide +kernel

end UchiPulse.Node
