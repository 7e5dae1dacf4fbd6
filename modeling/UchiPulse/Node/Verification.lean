import UchiPulse.Node.Flash

/-! What the verification of a write is worth. The record is written to any flash, which may
leave other bytes than it was given, and only the header is read back. -/
namespace UchiPulse.Node

/-! ### Slices with their bounds -/

/-- The bytes from one index to another; `none` where the code would panic. -/
def slice (bytes : List UInt8) (first last : Nat) : Option (List UInt8) :=
  if first ≤ last ∧ last ≤ bytes.length then some ((bytes.drop first).take (last - first)) else none

/-- The front of a buffer is overwritten; `none` where the lengths differ. -/
def copyFromSlice (destination : List UInt8) (length : Nat) (source : List UInt8) : Option (List UInt8) :=
  if length ≤ destination.length ∧ source.length = length then some (source ++ destination.drop length) else none

theorem slice_eq {bytes : List UInt8} {first last : Nat} (order : first ≤ last) (bound : last ≤ bytes.length) :
    slice bytes first last = some ((bytes.drop first).take (last - first)) :=
  if_pos ⟨order,bound⟩

theorem copyFromSlice_eq {destination source : List UInt8} {length : Nat} (bound : length ≤ destination.length)
    (sized : source.length = length) :
    copyFromSlice destination length source = some (source ++ destination.drop length) :=
  if_pos ⟨bound,sized⟩

/-! ### The record on any flash -/

namespace FlashConfigStorage
section
variable {φ : Type} (operations : FlashOperations configStorageSize φ)

/-- The record is copied out of the region; `none` stands for a panic. -/
def copyRecord (record destination : List UInt8) : Option (List UInt8 × Nat) :=
  if record.length < configRecordHeaderSize then some (destination,0)
  else do
    let magic ← slice record 0 4
    if fromLeBytes magic ≠ configRecordMagic then return (destination,0)
    let field ← slice record 4 6
    let length := fromLeBytes field
    if length = 0 ∨ length > configStorageSize - configRecordHeaderSize ∨ length > destination.length then
      return (destination,0)
    let payload ← slice record configRecordHeaderSize (configRecordHeaderSize + length)
    let destination ← copyFromSlice destination length payload
    return (destination,length)

/-- The state after a read, the destination and the result; `none` stands for a panic. -/
def readRecord (flash : φ) (destination : List UInt8) :
    Option (φ × List UInt8 × Except FlashStorageError Nat) :=
  match operations.read configStorageSize flash with
  | (.error fault,flash) => some (flash,destination,.error (.flash fault))
  | (.ok record,flash) => do
    let (destination,length) ← copyRecord record destination
    return (flash,destination,.ok length)

/-- Erase, program, and read the header back. -/
def writeRecord (flash : φ) (data : List UInt8) : φ × Except FlashStorageError Unit :=
  if data = [] ∨ data.length > configStorageSize - configRecordHeaderSize then (flash,.error .tooLarge)
  else
    let header := recordHeader data.length
    match operations.erase flash with
    | (.error fault,flash) => (flash,.error (.flash fault))
    | (.ok (),flash) =>
      match operations.program (header ++ data) flash with
      | (.error fault,flash) => (flash,.error (.flash fault))
      | (.ok (),flash) =>
        match operations.read configRecordHeaderSize flash with
        | (.error fault,flash) => (flash,.error (.flash fault))
        | (.ok verify,flash) => if verify ≠ header then (flash,.error .verifyFailed) else (flash,.ok ())

end

/-! ### Reading stays in range -/

theorem recordLength_le (record : List UInt8) (room : Nat) :
    recordLength record room ≤ room ∧ recordLength record room ≤ configStorageSize - configRecordHeaderSize := by
  unfold recordLength
  dsimp only
  split
  · exact ⟨Nat.zero_le _,Nat.zero_le _⟩
  · split <;> omega

/-- What is copied lies within the region and fits the destination. -/
theorem copyRecord_eq {record : List UInt8} (sized : record.length = configStorageSize) (destination : List UInt8) :
    let length := recordLength record destination.length
    copyRecord record destination = some (if length = 0 then destination
      else (record.drop configRecordHeaderSize).take length ++ destination.drop length,length) := by
  intro length
  have magic : slice record 0 4 = some (record.take 4) := slice_eq (by decide) (by rw [sized]; decide)
  have field : slice record 4 6 = some ((record.drop 4).take 2) := slice_eq (by decide) (by rw [sized]; decide)
  have long : ¬ record.length < configRecordHeaderSize := by
    rw [sized]
    decide
  simp only [copyRecord,if_neg long,magic,field,Option.bind_eq_bind,Option.bind_some]
  by_cases known : fromLeBytes (record.take 4) ≠ configRecordMagic
  · have none : length = 0 := by
      simp only [length,recordLength,if_pos known]
    rw [if_pos known,none]
    rfl
  rw [if_neg known]
  by_cases outside : fromLeBytes ((record.drop 4).take 2) = 0 ∨
      fromLeBytes ((record.drop 4).take 2) > configStorageSize - configRecordHeaderSize ∨
      fromLeBytes ((record.drop 4).take 2) > destination.length
  · have none : length = 0 := by
      simp only [length,recordLength,if_neg known,if_pos outside]
    rw [if_pos outside,none]
    rfl
  have found : length = fromLeBytes ((record.drop 4).take 2) := by
    simp only [length,recordLength,if_neg known,if_neg outside]
  rw [if_neg outside,← found]
  rw [← found,not_or,not_or] at outside
  obtain ⟨some,fits,room⟩ := outside
  have end' : configRecordHeaderSize + length ≤ record.length := by
    rw [sized]
    simp only [configStorageSize,configRecordHeaderSize] at fits ⊢
    omega
  have payload := slice_eq (Nat.le_add_right configRecordHeaderSize length) end'
  rw [Nat.add_sub_cancel_left] at payload
  have taken : ((record.drop configRecordHeaderSize).take length).length = length := by
    simp only [List.length_take,List.length_drop]
    omega
  have copied := copyFromSlice_eq (Nat.le_of_not_lt room) taken
  rw [payload,if_neg some]
  simp only [Option.bind_some]
  rw [copied]
  rfl

section
variable {φ : Type} {operations : FlashOperations configStorageSize φ}

theorem readRecord_ok {flash : φ} (readable : (operations.readable flash).1 = .ok ()) (destination : List UInt8) :
    let bytes := (operations.region flash).bytes
    let length := recordLength bytes destination.length
    readRecord operations flash destination = some ((operations.readable flash).2,
      if length = 0 then destination
      else (bytes.drop configRecordHeaderSize).take length ++ destination.drop length,.ok length) := by
  intro bytes length
  have sized : bytes.length = configStorageSize := (operations.region flash).sized
  rw [readRecord,FlashOperations.read_ok readable,List.take_of_length_le (Nat.le_of_eq sized)]
  simp only [copyRecord_eq sized]
  rfl

theorem readRecord_error {flash : φ} {fault : NorFlash.Fault} (failed : (operations.readable flash).1 = .error fault)
    (destination : List UInt8) : readRecord operations flash destination =
      some ((operations.readable flash).2,destination,.error (.flash fault)) := by
  rw [readRecord,FlashOperations.read_error failed]

/-- No region makes a read leave the region or the destination. -/
theorem readRecord_inRange (flash : φ) (destination : List UInt8) :
    ∃ flash' destination' result, readRecord operations flash destination = some (flash',destination',result) ∧
      destination'.length = destination.length ∧
      ∀ length, result = .ok length →
        length ≤ destination.length ∧ length ≤ configStorageSize - configRecordHeaderSize := by
  cases readable : (operations.readable flash).1 with
  | error fault =>
    refine ⟨_,_,_,readRecord_error readable destination,rfl,fun length ok => by cases ok⟩
  | ok =>
    obtain ⟨room,fits⟩ := recordLength_le (operations.region flash).bytes destination.length
    refine ⟨_,_,_,readRecord_ok readable destination,?_,?_⟩
    · split
      · rfl
      · have sized := (operations.region flash).sized
        simp only [List.length_append,List.length_take,List.length_drop,sized]
        simp only [configStorageSize,configRecordHeaderSize] at fits ⊢
        omega
    · rintro length ⟨⟩
      exact ⟨room,fits⟩

/-! ### What is verified -/

/-- Data that is refused reaches no operation of the flash. -/
theorem writeRecord_refused {data : List UInt8}
    (refused : data = [] ∨ data.length > configStorageSize - configRecordHeaderSize) (flash : φ) :
    writeRecord operations flash data = (flash,.error .tooLarge) :=
  if_pos refused

/-- A write succeeds when its operations report success and the header is there. -/
theorem writeRecord_ok {flash next : φ} {data : List UInt8} :
    writeRecord operations flash data = (next,.ok ()) ↔
      ¬ (data = [] ∨ data.length > configStorageSize - configRecordHeaderSize) ∧
      ∃ erased programmed, operations.erase flash = (.ok (),erased) ∧
        operations.program (recordHeader data.length ++ data) erased = (.ok (),programmed) ∧
        operations.readable programmed = (.ok (),next) ∧
        (operations.region programmed).bytes.take configRecordHeaderSize = recordHeader data.length := by
  unfold writeRecord
  by_cases refused : data = [] ∨ data.length > configStorageSize - configRecordHeaderSize
  · rw [if_pos refused]
    exact iff_of_false (by simp) fun both => both.1 refused
  rw [if_neg refused]
  simp only [refused,not_false_eq_true,true_and]
  rcases operations.erase flash with ⟨fault | ⟨⟩,erased⟩
  · simp
  dsimp only
  rcases programs : operations.program (recordHeader data.length ++ data) erased with ⟨fault | ⟨⟩,programmed⟩
  · simp [programs]
  dsimp only
  rcases reads : operations.readable programmed with ⟨fault | ⟨⟩,verified⟩
  · simp [programs,reads,FlashOperations.read,Except.map]
  by_cases header : (operations.region programmed).bytes.take configRecordHeaderSize = recordHeader data.length
  · simp [programs,reads,FlashOperations.read,Except.map,header]
  · simp [programs,reads,FlashOperations.read,Except.map,header]

/-- The bytes behind the header. -/
def payload (region : Region configStorageSize) (length : Nat) : List UInt8 :=
  (region.bytes.drop configRecordHeaderSize).take length

/-- A header that was verified is the header of the next read. -/
theorem recordLength_verified {record data : List UInt8} {room : Nat}
    (fits : ¬ (data = [] ∨ data.length > configStorageSize - configRecordHeaderSize))
    (space : data.length ≤ room) (header : record.take configRecordHeaderSize = recordHeader data.length) :
    recordLength record room = data.length := by
  have magic : record.take 4 = toLeBytes 4 configRecordMagic := by
    have front : (record.take configRecordHeaderSize).take 4 = (recordHeader data.length).take 4 := by rw [header]
    rw [List.take_take] at front
    exact front
  have field : (record.drop 4).take 2 = toLeBytes 2 data.length := by
    have middle : ((record.take configRecordHeaderSize).drop 4).take 2 =
        ((recordHeader data.length).drop 4).take 2 := by
      rw [header]
    rw [List.drop_take,List.take_take] at middle
    exact middle
  have positive : data.length ≠ 0 := fun none => fits (.inl (List.length_eq_zero_iff.mp none))
  have bound := (not_or.mp fits).2
  simp only [configStorageSize,configRecordHeaderSize] at bound
  have known : ¬ fromLeBytes (toLeBytes 4 configRecordMagic) ≠ configRecordMagic := by decide
  rw [recordLength,magic,field,fromLeBytes_length (by omega),if_neg known,if_neg]
  simp only [configStorageSize,configRecordHeaderSize]
  omega

/-- After a write that succeeds a read returns as many bytes as were written: those behind the header. -/
theorem readRecord_written {flash next : φ} {data destination : List UInt8}
    (written : writeRecord operations flash data = (next,.ok ())) (space : data.length ≤ destination.length)
    (readable : (operations.readable next).1 = .ok ()) :
    readRecord operations next destination = some ((operations.readable next).2,
      payload (operations.region next) data.length ++ destination.drop data.length,.ok data.length) := by
  obtain ⟨fits,erased,programmed,-,-,reads,header⟩ := writeRecord_ok.mp written
  have same : operations.region next = operations.region programmed := by
    have kept := operations.region_readable programmed
    rwa [reads] at kept
  have positive : data.length ≠ 0 := fun none => fits (.inl (List.length_eq_zero_iff.mp none))
  rw [← same] at header
  rw [readRecord_ok readable,recordLength_verified fits space header,if_neg positive]
  rfl

variable (operations)

/-- What a write reports as good is what the next read returns. -/
def ReadsBack (flash : φ) (data : List UInt8) (destination : Region configStorageSize) : Prop :=
  ∀ next, writeRecord operations flash data = (next,.ok ()) → (operations.readable next).1 = .ok () →
    ∃ after, readRecord operations next destination.bytes =
      some (after,data ++ destination.bytes.drop data.length,.ok data.length)

/-- A programming that is reported as done, and whose header is read back, has left the data. -/
def HeaderVouches (flash : φ) (data : List UInt8) : Prop :=
  ¬ (data = [] ∨ data.length > configStorageSize - configRecordHeaderSize) →
    ∀ erased programmed verified, operations.erase flash = (.ok (),erased) →
      operations.program (recordHeader data.length ++ data) erased = (.ok (),programmed) →
      operations.readable programmed = (.ok (),verified) → (operations.readable verified).1 = .ok () →
      (operations.region programmed).bytes.take configRecordHeaderSize = recordHeader data.length →
        payload (operations.region programmed) data.length = data

theorem readsBack_iff (flash : φ) (data : List UInt8) (destination : Region configStorageSize) :
    ReadsBack operations flash data destination ↔ HeaderVouches operations flash data := by
  have space (fits : ¬ (data = [] ∨ data.length > configStorageSize - configRecordHeaderSize)) :
      data.length ≤ destination.bytes.length := by
    rw [not_or] at fits
    rw [destination.sized]
    exact Nat.le_trans (Nat.le_of_not_lt fits.2) (Nat.sub_le _ _)
  constructor
  · intro back fits erased programmed verified erases programs reads again header
    have written := writeRecord_ok.mpr ⟨fits,erased,programmed,erases,programs,reads,header⟩
    obtain ⟨after,returned⟩ := back verified written again
    rw [readRecord_written written (space fits) again] at returned
    have bytes := congrArg Prod.fst (congrArg Prod.snd (Option.some.inj returned))
    have kept := operations.region_readable programmed
    rw [reads] at kept
    rw [← kept]
    exact List.append_cancel_right bytes
  · intro vouches next written again
    obtain ⟨fits,erased,programmed,erases,programs,reads,header⟩ := writeRecord_ok.mp written
    have kept := operations.region_readable programmed
    rw [reads] at kept
    have intact := vouches fits erased programmed next erases programs reads again header
    rw [← kept] at intact
    exact ⟨_,by rw [readRecord_written written (space fits) again,intact]⟩

end

/-! ### The flash of the firmware -/

/-- The firmware's write is the one above on its NOR flash. -/
theorem write_eq_writeRecord (self : FlashConfigStorage) (data : List UInt8) :
    write self data = ({ flash := (writeRecord NorFlash.operations self.flash data).1 },
      (writeRecord NorFlash.operations self.flash data).2) := by
  have erase : NorFlash.operations.erase self.flash = self.flash.erase := rfl
  have program (flash : NorFlash configStorageSize) (bytes : List UInt8) :
      NorFlash.operations.program bytes flash = flash.program bytes := rfl
  unfold write writeRecord
  by_cases refused : data = [] ∨ data.length > configStorageSize - configRecordHeaderSize
  · rw [if_pos refused,if_pos refused]
  simp only [if_neg refused,erase,program,NorFlash.operations_read]
  rcases self.flash.erase with ⟨fault | _,erased⟩
  · rfl
  dsimp only
  rcases erased.program (recordHeader data.length ++ data) with ⟨fault | _,programmed⟩
  · rfl
  dsimp only
  rcases programmed.read with ⟨fault | record,verified⟩
  · rfl
  simp only [Except.map]
  split <;> rfl

theorem read_sized {flash next : NorFlash configStorageSize} {record : List UInt8}
    (reads : flash.read = (.ok record,next)) : record.length = configStorageSize := by
  unfold NorFlash.read NorFlash.perform at reads
  split at reads
  · cases outcome : flash.outcome flash.performed <;> rw [outcome] at reads <;> cases reads
    exact flash.region.sized
  · cases reads

/-- The firmware's read is the one above on its NOR flash, and does not panic. -/
theorem read_eq_readRecord (self : FlashConfigStorage) (destination : List UInt8) :
    readRecord NorFlash.operations self.flash destination =
      some ((read self destination).1.flash,(read self destination).2) := by
  unfold read readRecord
  rw [NorFlash.operations_read]
  rcases reads : self.flash.read with ⟨fault | record,next⟩
  · rfl
  have sized := read_sized reads
  simp only [Except.map,List.take_of_length_le (Nat.le_of_eq sized),copyRecord_eq sized]
  split <;> simp_all

end FlashConfigStorage

/-- A write that is reported as good is read back exactly when the flash does not lose data
behind a header it keeps. Data that does not fit is refused in front of the erase, and no
content of the region takes a read out of its bounds. -/
theorem write_read_iff {φ : Type} (operations : FlashOperations configStorageSize φ) (flash : φ)
    (data : List UInt8) (destination : Region configStorageSize) :
    (FlashConfigStorage.ReadsBack operations flash data destination ↔
      FlashConfigStorage.HeaderVouches operations flash data) ∧
    (data = [] ∨ data.length > configStorageSize - configRecordHeaderSize →
      FlashConfigStorage.writeRecord operations flash data = (flash,.error .tooLarge)) ∧
    ∀ buffer, ∃ after buffer' result,
      FlashConfigStorage.readRecord operations flash buffer = some (after,buffer',result) ∧
        buffer'.length = buffer.length ∧
        ∀ length, result = .ok length →
          length ≤ buffer.length ∧ length ≤ configStorageSize - configRecordHeaderSize :=
  ⟨FlashConfigStorage.readsBack_iff operations flash data destination,
    fun refused => FlashConfigStorage.writeRecord_refused refused flash,
    fun buffer => FlashConfigStorage.readRecord_inRange flash buffer⟩

/-- A flash that leaves the last byte of what it is given erased, and reports success. -/
def forgetfulFlash : FlashOperations configStorageSize (Region configStorageSize) where
  region flash := flash
  erase _ := (.ok (),.erased _)
  program data flash := (.ok (),flash.program data.dropLast)
  readable flash := (.ok (),flash)
  region_readable _ := rfl

/-- One byte is written as good and read back as another. -/
theorem write_read_forgetful :
    (FlashConfigStorage.writeRecord forgetfulFlash (.erased _) [1]).2 = .ok () ∧
    ¬ FlashConfigStorage.ReadsBack forgetfulFlash (.erased _) [1] (.erased _) := by
  have programmed : ((Region.erased configStorageSize).program (recordHeader 1)).bytes =
      recordHeader 1 ++ List.replicate (configStorageSize - configRecordHeaderSize) 0xff := by
    exact Region.program_erased (by decide)
  have header : ((Region.erased configStorageSize).program (recordHeader 1)).bytes.take configRecordHeaderSize =
      recordHeader 1 := by
    rw [programmed]
    exact List.take_left' rfl
  have written : FlashConfigStorage.writeRecord forgetfulFlash (.erased _) [1] =
      ((Region.erased configStorageSize).program (recordHeader 1),.ok ()) :=
    FlashConfigStorage.writeRecord_ok.mpr ⟨by decide,_,_,rfl,rfl,rfl,header⟩
  refine ⟨by rw [written],fun back => ?_⟩
  have intact := (FlashConfigStorage.readsBack_iff forgetfulFlash _ _ _).mp back (by decide) _ _ _ rfl rfl rfl rfl header
  have lost : FlashConfigStorage.payload ((Region.erased configStorageSize).program (recordHeader 1)) 1 = [0xff] := by
    rw [FlashConfigStorage.payload,programmed,List.drop_left' (FlashConfigStorage.recordHeader_length 1)]
    rfl
  exact absurd (lost.symm.trans intact) (by decide)

end UchiPulse.Node
