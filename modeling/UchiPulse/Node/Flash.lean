import UchiPulse.Lib.NorFlash
import UchiPulse.Node.Storage

/-! The configuration record in the last sector of the flash. A save erases the sector
before it programs the new record; a boot takes whatever it cannot read as absent. -/
namespace UchiPulse.Node
open Common Json

def configRecordMagic : Nat := 0x55434647
def configRecordHeaderSize : Nat := 8

structure FlashConfigStorage where
  flash : NorFlash configStorageSize

inductive FlashStorageError where
  | flash (fault : NorFlash.Fault)
  | tooLarge
  | verifyFailed
deriving DecidableEq

/-- The low byte comes first. -/
def toLeBytes : Nat → Nat → List UInt8
  | 0, _ => []
  | width + 1, value => UInt8.ofNat value :: toLeBytes width (value / 256)

def fromLeBytes : List UInt8 → Nat
  | [] => 0
  | byte :: rest => byte.toNat + 256 * fromLeBytes rest

/-- The header, of which two bytes stay erased. -/
def recordHeader (length : Nat) : List UInt8 :=
  toLeBytes 4 configRecordMagic ++ toLeBytes 2 length ++ [0xff,0xff]

namespace FlashConfigStorage

/-- The length of the record in the region; zero without a record that fits. -/
def recordLength (record : List UInt8) (room : Nat) : Nat :=
  let length := fromLeBytes ((record.drop 4).take 2)
  if fromLeBytes (record.take 4) ≠ configRecordMagic then 0
  else if length = 0 ∨ length > configStorageSize - configRecordHeaderSize ∨ length > room then 0
  else length

def read (self : FlashConfigStorage) (destination : List UInt8) :
    FlashConfigStorage × List UInt8 × Except FlashStorageError Nat :=
  match self.flash.read with
  | (.error fault,flash) => ({ flash },destination,.error (.flash fault))
  | (.ok record,flash) =>
    let length := recordLength record destination.length
    if length = 0 then ({ flash },destination,.ok 0)
    else ({ flash },(record.drop configRecordHeaderSize).take length ++ destination.drop length,.ok length)

/-- Erase, program, and read the header back. -/
def write (self : FlashConfigStorage) (data : List UInt8) :
    FlashConfigStorage × Except FlashStorageError Unit :=
  if data = [] ∨ data.length > configStorageSize - configRecordHeaderSize then (self,.error .tooLarge)
  else
    let header := recordHeader data.length
    match self.flash.erase with
    | (.error fault,flash) => ({ flash },.error (.flash fault))
    | (.ok (),flash) =>
      match flash.program (header ++ data) with
      | (.error fault,flash) => ({ flash },.error (.flash fault))
      | (.ok (),flash) =>
        match flash.read with
        | (.error fault,flash) => ({ flash },.error (.flash fault))
        | (.ok record,flash) =>
          if record.take configRecordHeaderSize ≠ header then ({ flash },.error .verifyFailed)
          else ({ flash },.ok ())

def clear (self : FlashConfigStorage) : FlashConfigStorage × Except FlashStorageError Unit :=
  match self.flash.erase with
  | (.error fault,flash) => ({ flash },.error (.flash fault))
  | (.ok (),flash) => ({ flash },.ok ())

def device : ConfigStorage FlashConfigStorage FlashStorageError := { read,write,clear }

/-! ### What a boot finds -/

def reboot (self : FlashConfigStorage) : FlashConfigStorage := { flash := self.flash.reboot }

/-- The configuration of the next boot. -/
def boots (skip : Reader Unit) (self : FlashConfigStorage) (defaults : PersistedNodeConfig) :
    PersistedNodeConfig :=
  (ConfigManager.new skip device self.reboot defaults).config

theorem boots_congr (skip : Reader Unit) {self other : FlashConfigStorage} (defaults : PersistedNodeConfig)
    (same : self.flash.region = other.flash.region) : boots skip self defaults = boots skip other defaults := by
  have whole : self.reboot = other.reboot := by simp only [reboot,NorFlash.reboot,same]
  rw [boots,boots,whole]

/-- A boot reads the region once. -/
def afterRead (self : FlashConfigStorage) : FlashConfigStorage :=
  { flash := { self.flash.reboot with performed := 1 } }

theorem read_reboot (self : FlashConfigStorage) (destination : List UInt8) :
    read self.reboot destination =
      let length := recordLength self.flash.region.bytes destination.length
      if length = 0 then (self.afterRead,destination,.ok 0)
      else (self.afterRead,
        (self.flash.region.bytes.drop configRecordHeaderSize).take length ++ destination.drop length,
        .ok length) := by
  simp only [read,reboot,NorFlash.read]
  rw [NorFlash.perform_done _ _ rfl rfl]
  rfl

/-- An erased region has no record. -/
theorem boots_erased (skip : Reader Unit) {self : FlashConfigStorage} (defaults : PersistedNodeConfig)
    (erased : self.flash.region = .erased configStorageSize) : boots skip self defaults = defaults := by
  have found := read_reboot self (List.replicate configStorageSize 0)
  have none : recordLength self.flash.region.bytes configStorageSize = 0 := by
    have magic : fromLeBytes (List.replicate 4 0xff) ≠ configRecordMagic := by decide
    have start : (Region.erased configStorageSize).bytes.take 4 = List.replicate 4 0xff := by
      simp only [Region.erased,List.take_replicate,configStorageSize]
      rfl
    rw [erased,recordLength,start,if_pos magic]
  simp only [List.length_replicate,none,if_true] at found
  simp only [boots,ConfigManager.new,device,found]
  rfl

theorem fromLeBytes_length {length : Nat} (small : length < 65536) :
    fromLeBytes (toLeBytes 2 length) = length := by
  simp only [toLeBytes,fromLeBytes,UInt8.toNat_ofNat']
  omega

theorem toLeBytes_length (width value : Nat) : (toLeBytes width value).length = width := by
  induction width generalizing value with
  | zero => rfl
  | succ width ih => simp only [toLeBytes,List.length_cons,ih]

theorem recordHeader_length (length : Nat) : (recordHeader length).length = configRecordHeaderSize := by
  simp only [recordHeader,List.length_append,toLeBytes_length,List.length_cons,List.length_nil]
  rfl

/-- The region after a record was programmed into erased bytes. -/
def Programmed (data : List UInt8) (self : FlashConfigStorage) : Prop :=
  self.flash.region = (Region.erased configStorageSize).program (recordHeader data.length ++ data)

theorem boots_programmed {skip : Reader Unit} {self : FlashConfigStorage} {config : PersistedNodeConfig}
    (defaults : PersistedNodeConfig)
    (fits : ((StorageEnvelope.codec skip).write { version := configStorageFormatVersion,config }).length ≤
      configStorageSize - configRecordHeaderSize)
    (programmed : self.Programmed ((StorageEnvelope.codec skip).write
      { version := configStorageFormatVersion,config })) :
    boots skip self defaults = (config.escaped.filter (·.validate = .ok ())).getD defaults := by
  generalize written : (StorageEnvelope.codec skip).write
    { version := configStorageFormatVersion,config } = data at fits programmed
  obtain ⟨byte,rest,opening,-⟩ := (StorageEnvelope.codec skip).opens
    { version := configStorageFormatVersion,config }
  have positive : 0 < data.length := by
    rw [← written,opening,List.length_cons]
    omega
  have header := recordHeader_length data.length
  simp only [configStorageSize,configRecordHeaderSize] at fits header
  have whole : (recordHeader data.length ++ data).length ≤ configStorageSize := by
    simp only [List.length_append,header,configStorageSize]
    omega
  have bytes := congrArg Region.bytes programmed
  rw [Region.program_erased whole] at bytes
  have length : recordLength self.flash.region.bytes configStorageSize = data.length := by
    have magic : (self.flash.region.bytes.take 4) = toLeBytes 4 configRecordMagic := by
      rw [bytes]
      rfl
    have field : ((self.flash.region.bytes.drop 4).take 2) = toLeBytes 2 data.length := by
      rw [bytes]
      rfl
    have known : ¬ fromLeBytes (toLeBytes 4 configRecordMagic) ≠ configRecordMagic := by decide
    rw [recordLength,magic,field,fromLeBytes_length (by omega),if_neg known,if_neg]
    simp only [configStorageSize,configRecordHeaderSize]
    omega
  have content : (self.flash.region.bytes.drop configRecordHeaderSize).take data.length = data := by
    rw [bytes,List.append_assoc,← recordHeader_length data.length,List.drop_left,List.take_left]
  have found := read_reboot self (List.replicate configStorageSize 0)
  rw [List.length_replicate,length] at found
  simp only [if_neg (show data.length ≠ 0 by omega),content] at found
  subst written
  exact ConfigManager.new_read defaults found List.take_left

/-! ### What a write leaves -/

/-- Without an erase that is carried out, the region stays and the write fails. -/
theorem write_untouched (self : FlashConfigStorage) {data : List UInt8} (on : self.flash.on = true)
    (refused : (data = [] ∨ data.length > configStorageSize - configRecordHeaderSize) ∨
      self.flash.outcome self.flash.performed ≠ .done) :
    (write self data).1.flash.region = self.flash.region ∧ ∃ error, (write self data).2 = .error error := by
  unfold write
  split
  next => exact ⟨rfl,_,rfl⟩
  next fits =>
    obtain ⟨fault,failed⟩ := NorFlash.perform_failed _ (fun _ => ((),Region.erased configStorageSize))
      on (refused.resolve_left fits)
    simp only [NorFlash.erase,failed]
    exact ⟨trivial,_,rfl⟩

/-- Between the erase and the programming there is no record. -/
theorem write_erased (self : FlashConfigStorage) {data : List UInt8} (on : self.flash.on = true)
    (fits : ¬ (data = [] ∨ data.length > configStorageSize - configRecordHeaderSize))
    (erased : self.flash.outcome self.flash.performed = .done)
    (failed : self.flash.outcome (self.flash.performed + 1) ≠ .done) :
    (write self data).1.flash.region = .erased configStorageSize ∧
      ∃ error, (write self data).2 = .error error := by
  simp only [write,if_neg fits,NorFlash.erase]
  rw [NorFlash.perform_done _ _ on erased]
  obtain ⟨fault,failed⟩ := NorFlash.perform_failed { self.flash with
      performed := self.flash.performed + 1
      region := .erased configStorageSize }
    (fun region => ((),region.program (recordHeader data.length ++ data))) on failed
  simp only [NorFlash.program,failed]
  exact ⟨trivial,_,rfl⟩

/-- A record that was programmed stays, also when it cannot be read back. -/
theorem write_programmed (self : FlashConfigStorage) {data : List UInt8} (on : self.flash.on = true)
    (fits : ¬ (data = [] ∨ data.length > configStorageSize - configRecordHeaderSize))
    (erased : self.flash.outcome self.flash.performed = .done)
    (programmed : self.flash.outcome (self.flash.performed + 1) = .done) :
    (write self data).1.Programmed data ∧
      ((write self data).2 = .ok () ↔ self.flash.outcome (self.flash.performed + 2) = .done) ∧
      ((write self data).2 = .ok () → (write self data).1.flash = { self.flash with
        performed := self.flash.performed + 3
        region := (Region.erased configStorageSize).program (recordHeader data.length ++ data) }) := by
  have whole : (recordHeader data.length ++ data).length ≤ configStorageSize := by
    rw [not_or] at fits
    simp only [List.length_append,recordHeader_length,configStorageSize,configRecordHeaderSize] at fits ⊢
    omega
  have verified : ((Region.erased configStorageSize).program
      (recordHeader data.length ++ data)).bytes.take configRecordHeaderSize = recordHeader data.length := by
    rw [Region.program_erased whole,List.append_assoc,← recordHeader_length data.length,List.take_left]
  simp only [write,if_neg fits,NorFlash.erase,NorFlash.program,NorFlash.read]
  rw [NorFlash.perform_done _ _ on erased]
  simp only
  rw [NorFlash.perform_done { self.flash with
    performed := self.flash.performed + 1
    region := .erased configStorageSize } _ on programmed]
  by_cases reads : self.flash.outcome (self.flash.performed + 2) = .done
  · simp only
    rw [NorFlash.perform_done { self.flash with
      performed := self.flash.performed + 2
      region := (Region.erased configStorageSize).program (recordHeader data.length ++ data) } _ on reads]
    simp only [verified,ne_eq,not_true_eq_false,if_false]
    exact ⟨rfl,iff_of_true trivial reads,fun _ => trivial⟩
  · obtain ⟨fault,failed⟩ := NorFlash.perform_failed { self.flash with
        performed := self.flash.performed + 2
        region := (Region.erased configStorageSize).program (recordHeader data.length ++ data) }
      (fun region => (region.bytes,region)) on reads
    simp only [failed]
    exact ⟨rfl,iff_of_false (by simp) reads,by simp⟩

/-- The checks in front of the first flash operation. -/
def Refused (skip : Reader Unit) (config : PersistedNodeConfig) : Prop :=
  config.validate ≠ .ok () ∨ configStorageSize - configRecordHeaderSize <
    ((StorageEnvelope.codec skip).write { version := configStorageFormatVersion,config }).length

/-- A configuration that is not refused gets to the write, which decides. -/
theorem setConfig_written {skip : Reader Unit} (manager : ConfigManager FlashConfigStorage)
    {config : PersistedNodeConfig} (accepted : ¬ Refused skip config) :
    let written := write manager.storage ((StorageEnvelope.codec skip).write
      { version := configStorageFormatVersion,config })
    let saved := manager.setConfig skip device config
    saved.1.storage = written.1 ∧ (saved.2 = .ok () ↔ written.2 = .ok ()) ∧
      saved.1.config = if written.2 = .ok () then config else manager.config := by
  simp only [Refused,not_or,not_not,Nat.not_lt] at accepted
  obtain ⟨valid,fits⟩ := accepted
  have encoded := encode_eq_ok.mpr ⟨rfl,Nat.le_trans fits (Nat.sub_le _ _)⟩
  simp only [ConfigManager.setConfig,valid,encoded,device]
  rcases write manager.storage ((StorageEnvelope.codec skip).write
    { version := configStorageFormatVersion,config }) with ⟨storage,outcome⟩
  cases outcome <;> simp

/-- A configuration that is refused reaches the flash at most as a record that is too long. -/
theorem setConfig_refused {skip : Reader Unit} (manager : ConfigManager FlashConfigStorage)
    {config : PersistedNodeConfig} (refused : Refused skip config) :
    (manager.setConfig skip device config).1 = manager ∧
      ∃ error, (manager.setConfig skip device config).2 = .error error := by
  unfold ConfigManager.setConfig
  cases valid : config.validate with
  | error error => exact ⟨rfl,_,rfl⟩
  | ok =>
    have long := refused.resolve_left (not_not.mpr valid)
    cases encoded : encode (StorageEnvelope.codec skip)
        { version := configStorageFormatVersion,config } configStorageSize with
    | error error => exact ⟨rfl,_,rfl⟩
    | ok raw =>
      obtain ⟨rfl,-⟩ := encode_eq_ok.mp encoded
      simp only [device,write,if_pos (Or.inr long)]
      exact ⟨trivial,_,rfl⟩

theorem record_positive (skip : Reader Unit) (envelope : StorageEnvelope) :
    (StorageEnvelope.codec skip).write envelope ≠ [] := by
  obtain ⟨byte,rest,opening,-⟩ := (StorageEnvelope.codec skip).opens envelope
  rw [opening]
  exact List.cons_ne_nil byte rest

end FlashConfigStorage

/-- A save that is refused, or whose erase is not carried out, keeps what was stored; between
the erase and the programming the next boot has the defaults; once the record is programmed
the next boot has it, whether or not it could be read back. -/
theorem interrupted_save_boots (skip : Reader Unit) (manager : ConfigManager FlashConfigStorage)
    (config defaults : PersistedNodeConfig) (on : manager.storage.flash.on = true) :
    let flash := manager.storage.flash
    let saved := manager.setConfig skip FlashConfigStorage.device config
    let next := saved.1.storage.boots skip defaults
    let refused := FlashConfigStorage.Refused skip config
    (refused ∨ flash.outcome flash.performed ≠ .done →
      next = manager.storage.boots skip defaults ∧ saved.2 ≠ .ok ()) ∧
    (¬ refused → flash.outcome flash.performed = .done →
      flash.outcome (flash.performed + 1) ≠ .done → next = defaults ∧ saved.2 ≠ .ok ()) ∧
    (¬ refused → flash.outcome flash.performed = .done →
      flash.outcome (flash.performed + 1) = .done →
        next = config.escaped.getD defaults ∧ (config.Plain → next = config) ∧
        (saved.2 = .ok () ↔ flash.outcome (flash.performed + 2) = .done)) ∧
    (saved.2 = .ok () → saved.1.config = config) ∧
    (saved.2 ≠ .ok () → saved.1.config = manager.config) := by
  intro flash saved next refused
  by_cases decided : refused
  · obtain ⟨same,error,failed⟩ := FlashConfigStorage.setConfig_refused manager decided
    have kept : saved.1 = manager := same
    have failed : saved.2 ≠ .ok () := by
      rw [show saved.2 = .error error from failed]
      simp
    refine ⟨fun _ => ⟨?_,failed⟩,fun accepted => absurd decided accepted,
      fun accepted => absurd decided accepted,fun ok => absurd ok failed,fun _ => by rw [kept]⟩
    exact congrArg (fun self : ConfigManager FlashConfigStorage => self.storage.boots skip defaults) kept
  obtain ⟨storage,outcome,active⟩ :=
    FlashConfigStorage.setConfig_written manager decided
  have accepted := decided
  simp only [refused,FlashConfigStorage.Refused,not_or,not_not,Nat.not_lt] at accepted
  obtain ⟨valid,fits⟩ := accepted
  have room := not_or.mpr ⟨FlashConfigStorage.record_positive skip
    { version := configStorageFormatVersion,config },Nat.not_lt.mpr fits⟩
  refine ⟨fun stopped => ?_,fun _ erased stopped => ?_,fun _ erased programmed => ?_,fun ok => ?_,
    fun failed => ?_⟩
  · obtain ⟨region,error,failed⟩ :=
      FlashConfigStorage.write_untouched manager.storage on (.inr (stopped.resolve_left decided))
    refine ⟨FlashConfigStorage.boots_congr skip defaults (by rw [storage]; exact region),?_⟩
    rw [Ne,outcome,failed]
    simp
  · obtain ⟨region,error,failed⟩ := FlashConfigStorage.write_erased manager.storage on room erased stopped
    refine ⟨FlashConfigStorage.boots_erased skip defaults (by rw [storage]; exact region),?_⟩
    rw [Ne,outcome,failed]
    simp
  · obtain ⟨record,result,-⟩ := FlashConfigStorage.write_programmed manager.storage on room erased programmed
    have found : next = config.escaped.getD defaults := by
      have filtered := FlashConfigStorage.boots_programmed defaults fits record
      rw [← storage] at filtered
      rw [show next = _ from filtered]
      cases image : config.escaped with
      | none => rfl
      | some read => simp [Option.filter,PersistedNodeConfig.validate_escaped valid image]
    refine ⟨found,fun plain => ?_,outcome.trans result⟩
    rw [found,config.escaped_eq_self.mpr plain,Option.getD_some]
  · rw [active,if_pos (outcome.mp ok)]
  · rw [active,if_neg (fun ok => failed (outcome.mpr ok))]

/-- The power is lost in front of the fifth operation: after the erase of the second save. -/
def FlashConfigStorage.cut : FlashConfigStorage where
  flash := {
    region := .erased configStorageSize
    performed := 0
    outcome := fun number => if number = 4 then .powerLost else .done
    on := true }

def heartbeatConfig (seconds : UInt32) : PersistedNodeConfig :=
  { PersistedNodeConfig.defaults with heartbeatIntervalSec := seconds }

theorem heartbeatConfig_plain (seconds : UInt32) : (heartbeatConfig seconds).Plain := by
  have plain : PersistedNodeConfig.defaults.Plain :=
    ⟨by decide,by decide,by decide,by simp [PersistedNodeConfig.defaults]⟩
  exact plain

/-- The first save on the flash whose power is lost later. -/
theorem FlashConfigStorage.cut_saves {config : PersistedNodeConfig}
    (accepted : ¬ Refused (fun _ => none) config) :
    let saved := ConfigManager.setConfig (fun _ => none) device { storage := .cut,config := .defaults } config
    saved.2 = .ok () ∧ saved.1.storage.flash.on = true ∧ saved.1.storage.flash.performed = 3 ∧
      saved.1.storage.flash.outcome = FlashConfigStorage.cut.flash.outcome := by
  intro saved
  obtain ⟨storage,outcome,-⟩ :=
    setConfig_written { storage := .cut,config := .defaults } accepted
  simp only [Refused,not_or,Nat.not_lt] at accepted
  have room := not_or.mpr ⟨record_positive (fun _ => none)
    { version := configStorageFormatVersion,config },Nat.not_lt.mpr accepted.2⟩
  obtain ⟨-,result,flash⟩ := write_programmed .cut rfl room rfl rfl
  have written := result.mpr rfl
  refine ⟨outcome.mpr written,?_,?_,?_⟩ <;> rw [storage,flash written] <;> rfl

/-- The second of two saves is cut between its erase and its programming. -/
theorem FlashConfigStorage.cut_loses {old new : PersistedNodeConfig} (defaults : PersistedNodeConfig)
    (oldAccepted : ¬ Refused (fun _ => none) old) (newAccepted : ¬ Refused (fun _ => none) new) :
    let first := ConfigManager.setConfig (fun _ => none) device { storage := .cut,config := .defaults } old
    let second := ConfigManager.setConfig (fun _ => none) device first.1 new
    first.2 = .ok () ∧ (∃ error, second.2 = .error error) ∧
      second.1.storage.boots (fun _ => none) defaults = defaults := by
  intro first second
  obtain ⟨saved,on,performed,outcomes⟩ := cut_saves oldAccepted
  obtain ⟨storage,outcome,-⟩ := setConfig_written first.1 newAccepted
  simp only [Refused,not_or,Nat.not_lt] at newAccepted
  have room := not_or.mpr ⟨record_positive (fun _ => none)
    { version := configStorageFormatVersion,config := new },Nat.not_lt.mpr newAccepted.2⟩
  have lost : FlashConfigStorage.cut.flash.outcome 4 ≠ .done := by simp [FlashConfigStorage.cut]
  obtain ⟨region,error,failed⟩ := write_erased first.1.storage on room
    (by rw [outcomes,performed]; rfl) (by rw [outcomes,performed]; exact lost)
  refine ⟨saved,?_,boots_erased _ _ (by rw [storage]; exact region)⟩
  have unsaved : second.2 ≠ .ok () := by
    rw [Ne,outcome,failed]
    simp
  cases result : second.2 with
  | error error => exact ⟨error,rfl⟩
  | ok => exact absurd result unsaved

theorem interrupted_save_boots_cut :
    let first := ConfigManager.setConfig (fun _ => none) FlashConfigStorage.device
      { storage := .cut,config := .defaults } (heartbeatConfig 30)
    first.2 = .ok () ∧ first.1.storage.boots (fun _ => none) .defaults = heartbeatConfig 30 := by
  have theFirst := interrupted_save_boots (fun _ => none) { storage := .cut,config := .defaults }
    (heartbeatConfig 30) .defaults rfl
  have accepted : ¬ FlashConfigStorage.Refused (fun _ => none) (heartbeatConfig 30) :=
    not_or.mpr ⟨by decide,by decide +kernel⟩
  obtain ⟨-,boots,result⟩ := theFirst.2.2.1 accepted rfl rfl
  exact ⟨result.mpr rfl,boots (heartbeatConfig_plain 30)⟩

/-- The defaults come back although another configuration was saved. -/
theorem interrupted_save_boots_defaults :
    let first := ConfigManager.setConfig (fun _ => none) FlashConfigStorage.device
      { storage := .cut,config := .defaults } (heartbeatConfig 30)
    let second := ConfigManager.setConfig (fun _ => none) FlashConfigStorage.device first.1 (heartbeatConfig 40)
    first.2 = .ok () ∧ (∃ error, second.2 = .error error) ∧
      second.1.storage.boots (fun _ => none) .defaults = .defaults ∧
      PersistedNodeConfig.defaults ≠ heartbeatConfig 30 ∧ PersistedNodeConfig.defaults ≠ heartbeatConfig 40 := by
  have old : ¬ FlashConfigStorage.Refused (fun _ => none) (heartbeatConfig 30) :=
    not_or.mpr ⟨by decide,by decide +kernel⟩
  have new : ¬ FlashConfigStorage.Refused (fun _ => none) (heartbeatConfig 40) :=
    not_or.mpr ⟨by decide,by decide +kernel⟩
  obtain ⟨saved,failed,boots⟩ := FlashConfigStorage.cut_loses .defaults old new
  exact ⟨saved,failed,boots,by decide,by decide⟩

end UchiPulse.Node
