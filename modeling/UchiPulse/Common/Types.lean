import UchiPulse.Lib.Object

/-! Identifiers and enumerations shared by the hub and its nodes, and the encoder and
decoder both ends put their messages through. -/
namespace UchiPulse.Common
open Json

def deviceIdCapacity : Nat := 64
def eventIdCapacity : Nat := 128
def requestIdCapacity : Nat := 64
def commandNameCapacity : Nat := 32

abbrev DeviceId := Text deviceIdCapacity
abbrev EventId := Text eventIdCapacity
abbrev RequestId := Text requestIdCapacity
abbrev CommandName := Text commandNameCapacity
abbrev ActionId := UInt32
abbrev FamilyId := UInt32

inductive TextError where
  | tooLong
deriving DecidableEq

/-- Copy a text into a buffer of `n` bytes. -/
def text (n : Nat) (value : String) : Except TextError (Text n) :=
  match Text.ofString? n value with
  | some result => .ok result
  | none => .error .tooLong

/-- Unicode `White_Space`, which `trim` removes. -/
def isWhitespace (char : Char) : Bool :=
  let code := char.toNat
  (9 ≤ code && code ≤ 13) || code == 0x20 || code == 0x85 || code == 0xA0 || code == 0x1680 ||
    (0x2000 ≤ code && code ≤ 0x200A) || code == 0x2028 || code == 0x2029 || code == 0x202F ||
    code == 0x205F || code == 0x3000

/-- Nothing is left of the text once it is trimmed. -/
def isBlank (text : String) : Bool := text.toList.all isWhitespace

inductive TargetType where
  | family | common
deriving DecidableEq

inductive StateType where
  | entryPermission | mealNotice | snackNotice | helpNotice | mailbox
deriving DecidableEq

inductive StateValue where
  | unset | on | off | ok | ng | meeting
deriving DecidableEq

inductive InputEvent where
  | offToOn | onToOff | click | doubleClick | longPress
deriving DecidableEq

def InputEvent.name : InputEvent → String
  | .offToOn => "OFF_TO_ON"
  | .onToOff => "ON_TO_OFF"
  | .click => "CLICK"
  | .doubleClick => "DOUBLE_CLICK"
  | .longPress => "LONG_PRESS"

def InputEvent.ofName : String → Option InputEvent
  | "OFF_TO_ON" => some .offToOn
  | "ON_TO_OFF" => some .onToOff
  | "CLICK" => some .click
  | "DOUBLE_CLICK" => some .doubleClick
  | "LONG_PRESS" => some .longPress
  | _ => none

/-! ### Encoding and decoding -/

inductive CodecError where
  | bufferTooSmall | invalidJson | missingLineFeed | trailingData
deriving DecidableEq

variable {α : Type}

/-- The bytes written into a destination of the given size. -/
def encode (codec : Codec α) (value : α) (destination : Nat) : Except CodecError (List UInt8) :=
  match toSlice codec value destination with
  | some written => .ok written
  | none => .error .bufferTooSmall

def decode (codec : Codec α) (payload : List UInt8) : Except CodecError α :=
  match fromSlice codec.read payload with
  | none => .error .invalidJson
  | some (value,used) => if used = payload.length then .ok value else .error .trailingData

/-- What was written, with a line feed behind it. -/
def encodeLine (written : List UInt8) (destination : Nat) : Except CodecError (List UInt8) :=
  if written.length < destination then .ok (written ++ [lineFeed]) else .error .bufferTooSmall

def decodeLine (codec : Codec α) (line : List UInt8) : Except CodecError α :=
  if line.getLast? ≠ some lineFeed then .error .missingLineFeed
  else decode codec line.dropLast

theorem encode_eq_ok {codec : Codec α} {value : α} {destination : Nat} {written : List UInt8} :
    encode codec value destination = .ok written ↔
      written = codec.write value ∧ (codec.write value).length ≤ destination := by
  unfold encode toSlice
  by_cases fits : (codec.write value).length ≤ destination
  · simp [fits,eq_comm]
  · simp [fits]

/-- What was written decodes to its image. -/
theorem decode_write (codec : Codec α) (value found : α) :
    decode codec (codec.write value) = .ok found ↔ codec.image value = some found := by
  simp only [decode,fromSlice_write]
  cases codec.image value <;> simp

/-- A text survives its codec unless it needs an escape. -/
theorem image_text {n : Nat} (value : Text n) :
    (Codec.text n).image value = some value ↔ Plain value.val := by
  simp only [Codec.text,Text.ofString?_eq_some]
  rw [eq_comm,escape_eq_self_iff]

theorem image_text_val {n : Nat} {value found : Text n} (image : (Codec.text n).image value = some found) :
    found.val = escape value.val :=
  Text.ofString?_eq_some.mp image

end UchiPulse.Common
