import UchiPulse.Lib.Json

/-! Compositional JSON codecs. A codec states what its reader finds in front of every
suffix once its writer has run: the value's `image`, which differs from the value when
a text needed an escape, and is missing when the escaped text outgrew its buffer. -/
namespace UchiPulse.Json

/-- The first byte of a written value is no separator. -/
def Opening (byte : UInt8) : Prop :=
  isSpace byte = false ∧ byte ≠ comma ∧ byte ≠ closeBrace ∧ byte ≠ closeBracket

instance (byte : UInt8) : Decidable (Opening byte) := by unfold Opening; infer_instance

structure Codec (α : Type) where
  write : α → List UInt8
  read : Reader α
  image : α → Option α
  opens : ∀ value, ∃ byte rest, write value = byte :: rest ∧ Opening byte
  reads : ∀ value rest, Delimited rest →
    read (write value ++ rest) = (image value).map (·,rest)

@[simp] theorem skipSpace_cons {byte : UInt8} (rest : List UInt8) (solid : isSpace byte = false) :
    skipSpace (byte :: rest) = byte :: rest := by
  simp [skipSpace,solid]

theorem writeText_cons (text : String) :
    writeText text = quote :: (Utf8.bytes (escape text) ++ [quote]) := rfl

/-! ### Scalars -/

def Codec.text (n : Nat) : Codec (Text n) where
  write value := writeText value.val
  read := readText n
  image value := Text.ofString? n (escape value.val)
  opens value := ⟨quote,_,writeText_cons value.val,by decide⟩
  reads value rest _ := readText_writeText n value.val rest

def readFin (size : Nat) : Reader (Fin size) := fun input =>
  match readNat size input with
  | none => none
  | some (value,rest) => if small : value < size then some (⟨value,small⟩,rest) else none

theorem writeNat_opens (value : Nat) : ∃ byte rest, writeNat value = byte :: rest ∧ Opening byte := by
  have all : ∀ code : Fin 10, Opening (UInt8.ofNat (48 + code)) := by decide
  obtain ⟨char,chars,shape,-⟩ := toDigits_head value
  have digit : char.isDigit = true :=
    Nat.isDigit_of_mem_toDigits (b := 10) (n := value) (by decide) (by decide) (by simp [shape])
  have range := Char.isDigit_iff_toNat.mp digit
  have low : 48 ≤ char.toNat := range.1
  have high : char.toNat ≤ 57 := range.2
  refine ⟨UInt8.ofNat char.toNat,chars.flatMap String.utf8EncodeChar,?_,?_⟩
  · rw [writeNat_eq,shape,List.flatMap_cons,(digit_byte digit).1]
    rfl
  · have offset := all ⟨char.toNat - 48,by omega⟩
    rwa [show 48 + (char.toNat - 48) = char.toNat by omega] at offset

/-- Unsigned integers of the width whose values lie below `size`. -/
def Codec.fin (size : Nat) : Codec (Fin size) where
  write value := writeNat value
  read := readFin size
  image := some
  opens value := writeNat_opens value
  reads value rest ends := by
    simp only [readFin,readNat_writeNat size value rest value.isLt ends,dif_pos value.isLt,Option.map_some]

def Codec.iso {α β : Type} (codec : Codec α) (pack : α → β) (unpack : β → α) : Codec β where
  write value := codec.write (unpack value)
  read input :=
    match codec.read input with
    | some (value,left) => some (pack value,left)
    | none => none
  image value := (codec.image (unpack value)).map pack
  opens value := codec.opens (unpack value)
  reads value rest ends := by
    rw [codec.reads _ _ ends]
    cases codec.image (unpack value) <;> rfl

def Codec.u8 : Codec UInt8 := (Codec.fin UInt8.size).iso UInt8.ofFin UInt8.toFin
def Codec.u16 : Codec UInt16 := (Codec.fin UInt16.size).iso UInt16.ofFin UInt16.toFin
def Codec.u32 : Codec UInt32 := (Codec.fin UInt32.size).iso UInt32.ofFin UInt32.toFin

def writeBool : Bool → List UInt8
  | true => [116,114,117,101]
  | false => [102,97,108,115,101]

def readBool : Reader Bool := fun input =>
  match skipSpace input with
  | 116 :: 114 :: 117 :: 101 :: rest => some (true,rest)
  | 102 :: 97 :: 108 :: 115 :: 101 :: rest => some (false,rest)
  | _ => none

def Codec.bool : Codec Bool where
  write := writeBool
  read := readBool
  image := some
  opens value := by
    cases value
    · exact ⟨102,_,rfl,by decide⟩
    · exact ⟨116,_,rfl,by decide⟩
  reads value rest _ := by cases value <;> rfl

def closeObject (input : List UInt8) : Option (List UInt8) :=
  match skipSpace input with
  | 125 :: rest => some rest
  | _ => none

/-- What follows the name of a variant written as the only key of an object: its data,
which is `null`, and the end of the object. -/
def closeVariant (input : List UInt8) : Option (List UInt8) :=
  match skipSpace input with
  | 58 :: rest =>
    match skipSpace rest with
    | 110 :: 117 :: 108 :: 108 :: rest => closeObject rest
    | _ => none
  | _ => none

/-- A variant without data, by its name or as the only key of an object. -/
def readName {α : Type} (ofName : String → Option α) : Reader α := fun input =>
  match skipSpace input with
  | 34 :: _ =>
    match readString input with
    | some (text,left) => (ofName text).map (·,left)
    | none => none
  | 123 :: rest =>
    match readString rest with
    | some (text,left) => do
      let value ← ofName text
      let left ← closeVariant left
      return (value,left)
    | none => none
  | _ => none

theorem readName_string {α : Type} (ofName : String → Option α) {input left : List UInt8} {text : String}
    (read : readString input = some (text,left)) : readName ofName input = (ofName text).map (·,left) := by
  have front : ∃ rest, skipSpace input = 34 :: rest := by
    unfold readString at read
    split at read
    next rest front => exact ⟨rest,front⟩
    next => cases read
  obtain ⟨rest,front⟩ := front
  simp only [readName,front,read]

/-- An enumeration without data, written as its name. -/
def Codec.names {α : Type} (name : α → String) (ofName : String → Option α) : Codec α where
  write value := writeText (name value)
  read := readName ofName
  image value := ofName (escape (name value))
  opens value := ⟨quote,_,writeText_cons (name value),by decide⟩
  reads value rest _ := readName_string ofName (readString_writeText (name value) rest)

/-- `null` or a value; the value must not itself start like `null`. -/
def Codec.option {α : Type} (codec : Codec α)
    (solid : ∀ value, (codec.write value).head? ≠ some 110) : Codec (Option α) where
  write
    | none => [110,117,108,108]
    | some value => codec.write value
  read input :=
    match skipSpace input with
    | 110 :: 117 :: 108 :: 108 :: rest => some (none,rest)
    | 110 :: _ => none
    | _ =>
      match codec.read input with
      | some (value,left) => some (some value,left)
      | none => none
  image
    | none => some none
    | some value => (codec.image value).map some
  opens
    | none => ⟨110,_,rfl,by decide⟩
    | some value => codec.opens value
  reads value rest ends := by
    cases value with
    | none => rfl
    | some value =>
      obtain ⟨byte,tail,shape,opening⟩ := codec.opens value
      have notNull : byte ≠ 110 := by
        intro same
        exact solid value (by simp [shape,same])
      have front : skipSpace (codec.write value ++ rest) = byte :: (tail ++ rest) := by
        rw [shape,List.cons_append,skipSpace_cons _ opening.1]
      rw [front]
      split
      next same => exact absurd (List.cons.inj same).1 notNull
      next same => exact absurd (List.cons.inj same).1 notNull
      next =>
        rw [codec.reads _ _ ends]
        cases image : codec.image value <;> simp [image]

section
variable {α β : Type} (codec : Codec α)

@[simp] theorem Codec.fin_image (size : Nat) (value : Fin size) : (Codec.fin size).image value = some value := rfl
@[simp] theorem Codec.bool_image (value : Bool) : Codec.bool.image value = some value := rfl
@[simp] theorem Codec.u8_image (value : UInt8) : Codec.u8.image value = some value := rfl
@[simp] theorem Codec.u16_image (value : UInt16) : Codec.u16.image value = some value := rfl
@[simp] theorem Codec.u32_image (value : UInt32) : Codec.u32.image value = some value := rfl

@[simp] theorem Codec.names_image (name : α → String) (ofName : String → Option α) (value : α) :
    (Codec.names name ofName).image value = ofName (escape (name value)) := rfl

@[simp] theorem Codec.iso_image (pack : α → β) (unpack : β → α) (value : β) :
    (codec.iso pack unpack).image value = (codec.image (unpack value)).map pack := rfl

@[simp] theorem Codec.option_image_none (solid : ∀ value, (codec.write value).head? ≠ some 110) :
    (codec.option solid).image none = some none := rfl

@[simp] theorem Codec.option_image_some (solid : ∀ value, (codec.write value).head? ≠ some 110)
    (value : α) : (codec.option solid).image (some value) = (codec.image value).map some := rfl

end

/-! ### Sequences -/

/-- The rest of a sequence, or an error on a trailing comma. -/
def afterComma (stop : UInt8) (input : List UInt8) : Option (List UInt8) :=
  match skipSpace input with
  | [] => none
  | byte :: rest => if byte = stop then none else some (byte :: rest)

/-- Elements up to the closing bracket, at most `cap` of them. A comma leaves the
flag of the first element as it is: after one in front of all elements, the second needs none.
Each element takes a byte, so the length of the input is enough fuel. -/
def readItems {α : Type} (read : Reader α) (cap : Nat) : Nat → Bool → List α → Reader (List α)
  | 0, _, _, _ => none
  | fuel + 1, first, items, input =>
    match skipSpace input with
    | [] => none
    | byte :: rest =>
      if byte = closeBracket then some (items,rest)
      else
        match (if byte = comma then afterComma closeBracket rest
          else if first then some (byte :: rest) else none) with
        | none => none
        | some start =>
          match read start with
          | none => none
          | some (item,left) =>
            if items.length < cap then readItems read cap fuel (first && byte == comma) (items ++ [item]) left
            else none

def writeRest {α : Type} (write : α → List UInt8) (items : List α) : List UInt8 :=
  items.flatMap fun item => comma :: write item

def writeItems {α : Type} (write : α → List UInt8) : List α → List UInt8
  | [] => []
  | item :: items => write item ++ writeRest write items

theorem writeRest_cons {α : Type} (write : α → List UInt8) (item : α) (items : List α) :
    writeRest write (item :: items) = comma :: (write item ++ writeRest write items) := rfl

theorem delimited_writeRest {α : Type} (write : α → List UInt8) (items : List α) (stop : UInt8)
    (rest : List UInt8) (ends : isDigit stop = false) :
    Delimited (writeRest write items ++ stop :: rest) := by
  cases items with
  | nil => exact delimited_cons _ ends
  | cons item items => exact delimited_cons _ (by decide)

theorem readItems_writeRest {α : Type} (codec : Codec α) (cap : Nat) (values items : List α)
    (fuel : Nat) (rest : List UInt8) (enough : values.length < fuel)
    (room : items.length + values.length ≤ cap) :
    readItems codec.read cap fuel false items (writeRest codec.write values ++ closeBracket :: rest) =
      (values.mapM codec.image).map fun images => (items ++ images,rest) := by
  induction values generalizing fuel items with
  | nil =>
    obtain ⟨fuel,rfl⟩ : ∃ k, fuel = k + 1 := ⟨fuel - 1,by simp at enough; omega⟩
    have front : skipSpace (closeBracket :: rest) = closeBracket :: rest :=
      skipSpace_cons _ (by decide)
    simp [readItems,writeRest,front]
  | cons value values ih =>
    obtain ⟨fuel,rfl⟩ : ∃ k, fuel = k + 1 := ⟨fuel - 1,by simp at enough; omega⟩
    simp only [List.length_cons] at enough room
    obtain ⟨byte,tail,shape,solid,-,-,notBracket⟩ := codec.opens value
    have front : skipSpace (writeRest codec.write (value :: values) ++ closeBracket :: rest) =
        comma :: (codec.write value ++ (writeRest codec.write values ++ closeBracket :: rest)) := by
      simp only [writeRest,List.flatMap_cons,List.cons_append,List.append_assoc]
      exact skipSpace_cons _ (by decide)
    have start : afterComma closeBracket
        (codec.write value ++ (writeRest codec.write values ++ closeBracket :: rest)) =
        some (codec.write value ++ (writeRest codec.write values ++ closeBracket :: rest)) := by
      rw [shape]
      simp only [afterComma,List.cons_append,skipSpace_cons _ solid,if_neg notBracket]
    have notClose : comma ≠ closeBracket := by decide
    have value_read := codec.reads value _
      (delimited_writeRest codec.write values closeBracket rest (by decide))
    simp only [readItems,front,if_neg notClose,if_true,start,value_read]
    cases head : codec.image value with
    | none => simp [List.mapM_cons,head]
    | some image =>
      simp only [Option.map_some,if_pos (show items.length < cap by omega),Bool.false_and]
      rw [ih (items ++ [image]) fuel (by omega) (by simp; omega)]
      cases tail : values.mapM codec.image <;> simp [List.mapM_cons,head,tail]

theorem length_le_writeRest {α : Type} (write : α → List UInt8) (items : List α) :
    items.length ≤ (writeRest write items).length := by
  induction items with
  | nil => simp
  | cons item items ih =>
    simp only [writeRest,List.flatMap_cons,List.length_append,List.length_cons] at ih ⊢
    omega

def Codec.vec {α : Type} (codec : Codec α) (n : Nat) : Codec (Vec α n) where
  write value := openBracket :: writeItems codec.write value.items ++ [closeBracket]
  read input :=
    match skipSpace input with
    | [] => none
    | byte :: rest =>
      if byte = openBracket then
        match readItems codec.read n (rest.length + 1) true [] rest with
        | some (items,left) => (Vec.ofList? n items).map (·,left)
        | none => none
      else none
  image value := (value.items.mapM codec.image).bind (Vec.ofList? n)
  opens value := ⟨openBracket,_,rfl,by decide⟩
  reads value rest _ := by
    obtain ⟨items,fits⟩ := value
    have front : skipSpace (openBracket :: writeItems codec.write items ++ [closeBracket] ++ rest) =
        openBracket :: (writeItems codec.write items ++ closeBracket :: rest) := by
      simp only [List.cons_append,List.append_assoc]
      exact skipSpace_cons _ (by decide)
    simp only [front,if_true]
    suffices read : readItems codec.read n ((writeItems codec.write items ++ closeBracket :: rest).length + 1)
        true [] (writeItems codec.write items ++ closeBracket :: rest) =
        (items.mapM codec.image).map (·,rest) by
      rw [read]
      cases items.mapM codec.image <;> rfl
    cases items with
    | nil =>
      have close : skipSpace (closeBracket :: rest) = closeBracket :: rest :=
        skipSpace_cons _ (by decide)
      simp [writeItems,readItems,close]
    | cons item items =>
      obtain ⟨byte,tail,shape,solid,notComma,-,notBracket⟩ := codec.opens item
      have start : skipSpace (writeItems codec.write (item :: items) ++ closeBracket :: rest) =
          codec.write item ++ (writeRest codec.write items ++ closeBracket :: rest) := by
        simp only [writeItems,List.append_assoc]
        rw [shape,List.cons_append,skipSpace_cons _ solid]
      have value_read := codec.reads item _
        (delimited_writeRest codec.write items closeBracket rest (by decide))
      have enough := length_le_writeRest codec.write items
      rw [readItems,start,shape]
      simp only [List.cons_append,if_neg notBracket,if_neg notComma,if_true]
      rw [← List.cons_append,← shape,value_read]
      simp only [List.length_cons] at fits
      cases head : codec.image item with
      | none => simp [List.mapM_cons,head]
      | some image =>
        simp only [Option.map_some,List.length_nil,if_pos (show 0 < n by omega),
          beq_eq_false_iff_ne.mpr notComma,Bool.and_false]
        rw [readItems_writeRest codec n items ([] ++ [image]) _ rest
          (by simp only [writeItems,List.length_append,List.length_cons]; omega) (by simp; omega)]
        cases tail : items.mapM codec.image <;> simp [List.mapM_cons,head,tail]

theorem Codec.vec_image {α : Type} {n : Nat} (codec : Codec α)
    (exact : ∀ value, codec.image value = some value) (value : Vec α n) :
    (codec.vec n).image value = some value := by
  have all : value.items.mapM codec.image = some value.items := by
    induction value.items with
    | nil => rfl
    | cons item items ih => simp [List.mapM_cons,exact,ih]
  change (value.items.mapM codec.image).bind (Vec.ofList? n) = some value
  rw [all,Option.bind_some,Vec.ofList?_items]

end UchiPulse.Json
