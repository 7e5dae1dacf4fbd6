import Mathlib.Algebra.Group.Action.Defs
import Mathlib.Algebra.Order.BigOperators.Group.List
import Mathlib.Algebra.Order.Group.Nat
import Mathlib.Algebra.Ring.Nat
import UchiPulse.Lib.Object

/-! The bytes a JSON text takes, counted on the values and without writing it. -/
namespace UchiPulse.Json

/-- A quote, a backslash and five control characters take two bytes, the other control
characters six. -/
def escapeSize (char : Char) : Nat :=
  if char = '\\' ∨ char = '"' ∨ char.toNat ∈ [8,9,10,12,13] then 2
  else if char.toNat < 32 then 6
  else char.utf8Size

def textSize (text : String) : Nat := 2 + (text.toList.map escapeSize).sum

/-- One byte for each digit. -/
def natSize (value : Nat) : Nat := (Nat.toDigits 10 value).length

def boolSize (value : Bool) : Nat := if value then 4 else 5

/-- `none` is written as `null`. -/
def optionSize {α : Type} (size : α → Nat) : Option α → Nat
  | none => 4
  | some value => size value

/-- The items, with a comma between every two. -/
def arraySize (items : List Nat) : Nat := 2 + ((items.map (· + 1)).sum - 1)

/-- The members by their key, with the size of the value. -/
def objectSize (members : List (String × Nat)) : Nat :=
  arraySize (members.map fun member => member.1.utf8ByteSize + 3 + member.2)

/-! ### Written values -/

theorem escapeChar_size (char : Char) :
    ((escapeChar char).flatMap String.utf8EncodeChar).length = escapeSize char := by
  have hex : ∀ value < 16, (String.utf8EncodeChar (escapeChar.hexDigit value)).length = 1 := by decide
  have short : ∀ code ∈ [8,9,10,12,13],
      ((escapeChar (Char.ofNat code)).flatMap String.utf8EncodeChar).length = 2 := by decide
  by_cases pair : char = '\\' ∨ char = '"' ∨ char.toNat ∈ [8,9,10,12,13]
  · rw [escapeSize,if_pos pair]
    rcases pair with rfl | rfl | code
    · decide
    · decide
    · have two := short char.toNat code
      rwa [Char.ofNat_toNat] at two
  · rw [escapeSize,if_neg pair]
    simp only [List.mem_cons,List.not_mem_nil,or_false,not_or] at pair
    obtain ⟨notBackslash,notQuote,b,t,n,f,r⟩ := pair
    simp only [escapeChar,if_neg notBackslash,if_neg notQuote,if_neg b,if_neg t,if_neg n,if_neg f,if_neg r]
    split
    · exact unicode_length (hex _ (by omega)) (hex _ (by omega))
    · rw [List.flatMap_singleton,String.length_utf8EncodeChar]

theorem escape_size (text : String) : (Utf8.bytes (escape text)).length = (text.toList.map escapeSize).sum := by
  rw [escape,Utf8.bytes_ofList]
  induction text.toList with
  | nil => rfl
  | cons char chars ih =>
    rw [List.flatMap_cons,List.flatMap_append,List.length_append,ih,escapeChar_size,List.map_cons,List.sum_cons]

theorem writeText_size (text : String) : (writeText text).length = textSize text := by
  simp only [writeText,List.length_append,List.length_cons,List.length_nil,escape_size,textSize]
  omega

theorem writeNat_size (value : Nat) : (writeNat value).length = natSize value := writeNat_length value

theorem writeBool_size (value : Bool) : (writeBool value).length = boolSize value := by
  cases value <;> rfl

theorem writeItems_size {α : Type} (write : α → List UInt8) (items : List α) :
    (writeItems write items).length + 2 = arraySize (items.map fun item => (write item).length) := by
  have rest (items : List α) :
      (writeRest write items).length = ((items.map fun item => (write item).length).map (· + 1)).sum := by
    induction items with
    | nil => rfl
    | cons item items ih =>
      rw [writeRest_cons,List.length_cons,List.length_append,ih]
      simp only [List.map_cons,List.sum_cons]
      omega
  cases items with
  | nil => rfl
  | cons item items =>
    rw [writeItems,List.length_append,rest]
    simp only [arraySize,List.map_cons,List.sum_cons]
    omega

theorem writeEntry_size (entry : String × List UInt8) :
    (writeEntry entry).length = entry.1.utf8ByteSize + 3 + entry.2.length := by
  have key : (Utf8.bytes entry.1).length = entry.1.utf8ByteSize := rfl
  simp only [writeEntry,List.length_append,List.length_cons,key]
  omega

theorem writeObject_size (entries : List (String × List UInt8)) :
    (writeObject entries).length = objectSize (entries.map fun entry => (entry.1,entry.2.length)) := by
  have items := writeItems_size writeEntry entries
  simp only [writeEntry_size] at items
  rw [objectSize,List.map_map,writeObject,List.length_append,List.length_cons,List.length_singleton]
  exact items

/-! ### Codecs -/

section
variable {α : Type}

@[simp] theorem Codec.text_size {n : Nat} (value : Text n) : ((Codec.text n).write value).length = textSize value.val :=
  writeText_size value.val

@[simp] theorem Codec.u8_size (value : UInt8) : (Codec.u8.write value).length = natSize value.toNat :=
  writeNat_size value.toNat

@[simp] theorem Codec.u16_size (value : UInt16) : (Codec.u16.write value).length = natSize value.toNat :=
  writeNat_size value.toNat

@[simp] theorem Codec.u32_size (value : UInt32) : (Codec.u32.write value).length = natSize value.toNat :=
  writeNat_size value.toNat

@[simp] theorem Codec.bool_size (value : Bool) : (Codec.bool.write value).length = boolSize value :=
  writeBool_size value

@[simp] theorem Codec.names_size (name : α → String) (ofName : String → Option α) (value : α) :
    ((Codec.names name ofName).write value).length = textSize (name value) :=
  writeText_size (name value)

@[simp] theorem Codec.option_size (codec : Codec α) (solid : ∀ value, (codec.write value).head? ≠ some 110)
    (value : Option α) : ((codec.option solid).write value).length = optionSize (fun value => (codec.write value).length) value := by
  cases value <;> rfl

@[simp] theorem Codec.vec_size {n : Nat} (codec : Codec α) (value : Vec α n) :
    ((codec.vec n).write value).length = arraySize (value.items.map fun item => (codec.write item).length) := by
  rw [← writeItems_size]
  simp only [Codec.vec,List.length_append,List.length_cons,List.length_nil]

@[simp] theorem Codec.object_size {names : List String} (skip : Reader Unit) (fields : Fields names α)
    (plain : ∀ name ∈ names, Plain name) (value : α) : ((Codec.object skip fields plain).write value).length =
      objectSize ((fields.entries value).map fun entry => (entry.1,entry.2.length)) :=
  writeObject_size (fields.entries value)

end

/-! ### Bounds -/

theorem textSize_plain {text : String} (plain : Plain text) : textSize text = 2 + (Utf8.bytes text).length := by
  rw [textSize,← escape_size,escape_of_plain plain]

theorem textSize_le (text : String) : textSize text ≤ 2 + 6 * (Utf8.bytes text).length := by
  rw [textSize,← escape_size]
  exact Nat.add_le_add_left (escape_length text) 2

theorem natSize_le {value digits : Nat} (some : 0 < digits) (small : value < 10 ^ digits) : natSize value ≤ digits :=
  (Nat.length_toDigits_le_iff (by decide) some).mpr small

theorem boolSize_le (value : Bool) : boolSize value ≤ 5 := by
  cases value <;> decide

theorem arraySize_le {items : List Nat} {count size : Nat} (few : items.length ≤ count)
    (small : ∀ item ∈ items, item ≤ size) : arraySize items ≤ 2 + count * (size + 1) := by
  have sum := List.sum_le_card_nsmul (items.map (· + 1)) (size + 1) fun item member => by
    obtain ⟨value,among,rfl⟩ := List.mem_map.mp member
    exact Nat.succ_le_succ (small value among)
  rw [List.length_map,smul_eq_mul] at sum
  have more := Nat.mul_le_mul_right (size + 1) few
  rw [arraySize]
  omega

theorem arraySize_mono {items bounds : List Nat} (le : List.Forall₂ (· ≤ ·) items bounds) :
    arraySize items ≤ arraySize bounds := by
  have sum : (items.map (· + 1)).sum ≤ (bounds.map (· + 1)).sum := by
    induction le with
    | nil => exact Nat.le_refl _
    | cons first rest ih =>
      simp only [List.map_cons,List.sum_cons]
      omega
  rw [arraySize,arraySize]
  omega

/-- The keys are the same and no value is larger. -/
theorem objectSize_le {members : List (String × Nat)} {total : Nat} (bounds : List (String × Nat))
    (le : List.Forall₂ (fun member bound => member.1 = bound.1 ∧ member.2 ≤ bound.2) members bounds)
    (sum : objectSize bounds ≤ total) : objectSize members ≤ total := by
  refine (arraySize_mono (List.forall₂_map_left_iff.mpr (List.forall₂_map_right_iff.mpr (le.imp ?_)))).trans sum
  rintro member bound ⟨same,small⟩
  rw [same]
  exact Nat.add_le_add_left small _

end UchiPulse.Json
