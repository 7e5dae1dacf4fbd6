import UchiPulse.Common.IdentifiedLine
import UchiPulse.Lib.Compact

/-! The requests of the control app. It counts them, and puts the count into their identifiers. -/
namespace UchiPulse.Control
open Common Json

/-- What the app asks an endpoint for. -/
inductive Command where
  | getInfo | getConfig | getStatus | getInputs | getOutputs | setConfig | factoryReset | reboot
deriving DecidableEq

def Command.name : Command → String
  | .getInfo => "get_info"
  | .getConfig => "get_config"
  | .getStatus => "get_status"
  | .getInputs => "get_inputs"
  | .getOutputs => "get_outputs"
  | .setConfig => "set_config"
  | .factoryReset => "factory_reset"
  | .reboot => "reboot"

theorem Command.name_length (self : Command) : (Utf8.bytes self.name).length ≤ commandNameCapacity := by
  cases self <;> decide

theorem Command.name_plain (self : Command) : Plain self.name := by
  cases self <;> decide

/-- A value as it is written into a request. -/
structure JsonText where
  bytes : List UInt8
  value : Value bytes
  line : OneLine bytes

/-- A number with zeros in front of it. -/
def padded (width value : Nat) : List Char :=
  List.replicate (width - (Nat.toDigits 10 value).length) '0' ++ Nat.toDigits 10 value

def requestIdText (requestNumber : UInt64) : String :=
  "desktop-" ++ String.ofList (padded 6 requestNumber.toNat)

example : requestIdText 7 = "desktop-000007" := by decide

def requestObject (requestId : RequestId) (command : CommandName) (params : JsonText) : List UInt8 :=
  writeObject [("version",writeNat cdcProtocolVersion.toNat),("request_id",compactText requestId.val),
    ("command",compactText command.val),("params",params.bytes)]

def buildRequest (command : String) (params : JsonText) (requestNumber : UInt64) : Except String (List UInt8) :=
  match text requestIdCapacity (requestIdText requestNumber) with
  | .error _ => .error "request_id is too long"
  | .ok requestId =>
    match text commandNameCapacity command with
    | .error _ => .error "command name is too long"
    | .ok command => .ok (requestObject requestId command params ++ [lineFeed])

/-! ### Identifiers -/

theorem padded_digits {width value : Nat} {char : Char} (member : char ∈ padded width value) : char.isDigit = true := by
  rw [padded,List.mem_append] at member
  rcases member with zero | digit
  · rw [(List.mem_replicate.mp zero).2]
    decide
  · exact Nat.isDigit_of_mem_toDigits (by decide) (by decide) digit

/-- The zeros do not change the number. -/
theorem padded_value (width value : Nat) : Nat.ofDigitChars 10 (padded width value) 0 = value := by
  rw [padded,Nat.ofDigitChars_append,Nat.ofDigitChars_replicate_zero,Nat.mul_zero,Nat.ofDigitChars_ten_toDigits]

theorem requestIdText_chars (requestNumber : UInt64) :
    (requestIdText requestNumber).toList = "desktop-".toList ++ padded 6 requestNumber.toNat := by
  simp only [requestIdText,String.toList_append,String.toList_ofList]

theorem requestIdText_inj {first second : UInt64} (same : requestIdText first = requestIdText second) :
    first = second := by
  have chars := congrArg String.toList same
  rw [requestIdText_chars,requestIdText_chars,List.append_cancel_left_eq] at chars
  have value := padded_value 6 first.toNat
  rw [chars,padded_value] at value
  exact (UInt64.toNat_inj.mp value).symm

theorem digit_plain {char : Char} (digit : char.isDigit = true) : escapeChar char = [char] := by
  have range := Char.isDigit_iff_toNat.mp digit
  have low : 48 ≤ char.toNat := range.1
  have high : char.toNat ≤ 57 := range.2
  have slash : char ≠ '\\' := by
    rintro rfl
    exact absurd high (by decide)
  have quotes : char ≠ '"' := by
    rintro rfl
    exact absurd low (by decide)
  simp only [escapeChar,slash,quotes,if_false]
  split_ifs <;> first | rfl | omega

theorem requestIdText_plain (requestNumber : UInt64) : Plain (requestIdText requestNumber) := by
  intro char member
  rw [requestIdText_chars,List.mem_append] at member
  rcases member with front | digit
  · have plain : Plain "desktop-" := by decide
    exact plain char front
  · exact digit_plain (padded_digits digit)

theorem digits_bytes {digits : List Char} (all : ∀ char ∈ digits, char.isDigit = true) :
    (digits.flatMap String.utf8EncodeChar).length = digits.length := by
  induction digits with
  | nil => rfl
  | cons char digits ih =>
    obtain ⟨first,others⟩ := List.forall_mem_cons.mp all
    rw [List.flatMap_cons,List.length_append,ih others,(digit_byte first).1]
    exact Nat.add_comm _ _

theorem requestIdText_length (requestNumber : UInt64) :
    (Utf8.bytes (requestIdText requestNumber)).length ≤ requestIdCapacity := by
  have small : requestNumber.toNat < 10 ^ 20 := Nat.lt_trans requestNumber.toNat_lt (by decide)
  have digits := (Nat.length_toDigits_le_iff (b := 10) (k := 20) (by decide) (by decide)).mpr small
  have front : (Utf8.bytes "desktop-").length = 8 := by decide
  rw [requestIdText,Utf8.bytes_append,List.length_append,front,Utf8.bytes_ofList,digits_bytes fun _ => padded_digits,
    padded,List.length_append,List.length_replicate,requestIdCapacity]
  omega

/-! ### Requests -/

structure Request where
  command : Command
  params : JsonText
  number : UInt64

namespace Request

def id (self : Request) : RequestId := ⟨requestIdText self.number,requestIdText_length self.number⟩

def commandName (self : Request) : CommandName := ⟨self.command.name,self.command.name_length⟩

def text (self : Request) : List UInt8 := requestObject self.id self.commandName self.params

def bytes (self : Request) : List UInt8 := self.text ++ [lineFeed]

theorem id_plain (self : Request) : Plain self.id.val := requestIdText_plain self.number

theorem oneLine (self : Request) : OneLine self.text := by
  refine writeObject_oneLine fun entry member => ?_
  simp only [List.mem_cons,List.not_mem_nil,or_false] at member
  rcases member with rfl | rfl | rfl | rfl
  · exact entry_oneLine (by decide) (writeNat_oneLine _)
  · exact entry_oneLine (by decide) (compactText_oneLine _)
  · exact entry_oneLine (by decide) (compactText_oneLine _)
  · exact entry_oneLine (by decide) self.params.line

end Request

/-- A request is always built. -/
theorem buildRequest_eq (self : Request) :
    buildRequest self.command.name self.params self.number = .ok self.bytes := by
  have identifier : text requestIdCapacity (requestIdText self.number) = .ok self.id := by
    simp only [text,Text.ofString?,dif_pos (requestIdText_length self.number)]
    rfl
  have command : text commandNameCapacity self.command.name = .ok self.commandName := by
    simp only [text,Text.ofString?,dif_pos self.command.name_length]
    rfl
  simp only [buildRequest,identifier,command]
  rfl

end UchiPulse.Control
