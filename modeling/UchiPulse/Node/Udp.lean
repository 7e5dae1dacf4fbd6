import Mathlib.Algebra.Ring.Nat
import UchiPulse.Common.Udp

/-! The node's side of the UDP protocol: event identifiers made of the boot id and a
sequence number, pending events, and the correlation of ACKs. -/
namespace UchiPulse.Node
open Common Json

inductive ProtocolError where
  | deviceIdTooLong | eventIdTooLong | sequenceExhausted | bufferTooSmall
deriving DecidableEq

/-- One initial transmission followed by the configured number of retries. -/
structure RetryPolicy where
  retryCount : UInt8
  attemptsStarted : UInt16
deriving DecidableEq

namespace RetryPolicy

def new (retryCount : UInt8) : RetryPolicy where
  retryCount := retryCount
  attemptsStarted := 0

def nextAttempt (self : RetryPolicy) : Option UInt8 × RetryPolicy :=
  if self.attemptsStarted > self.retryCount.toUInt16 then (none,self)
  else
    let attemptsStarted := self.attemptsStarted + 1
    (some attemptsStarted.toUInt8,{ self with attemptsStarted })

end RetryPolicy

/-! ### Event identifiers -/

def hexDigit (value : Nat) : Char :=
  if value < 10 then Char.ofNat (48 + value) else Char.ofNat (87 + value)

/-- Lower-case hexadecimal digits, padded with zeros to the width. -/
def hex : Nat → Nat → List Char
  | 0, _ => []
  | width + 1, value => hex width (value / 16) ++ [hexDigit (value % 16)]

def eventIdText (bootId sequence : UInt64) : String :=
  String.ofList (hex 16 bootId.toNat ++ '-' :: hex 16 sequence.toNat)

example : eventIdText 1 255 = "0000000000000001-00000000000000ff" := by decide

structure EventIdGenerator where
  bootId : UInt64
  nextSequence : UInt64
deriving DecidableEq

namespace EventIdGenerator

def new (bootId : UInt64) : EventIdGenerator where
  bootId := bootId
  nextSequence := 1

def nextEventId (self : EventIdGenerator) : Except ProtocolError EventId × EventIdGenerator :=
  if self.nextSequence.toNat + 1 < UInt64.size then
    match text eventIdCapacity (eventIdText self.bootId self.nextSequence) with
    | .error _ => (.error .eventIdTooLong,self)
    | .ok eventId => (.ok eventId,{ self with nextSequence := self.nextSequence + 1 })
  else (.error .sequenceExhausted,self)

end EventIdGenerator

/-- An EVENT to deliver. -/
structure PendingEvent where
  deviceId : DeviceId
  eventId : EventId
  actionId : ActionId
deriving DecidableEq

def PendingEvent.message (self : PendingEvent) : UdpMessage :=
  .event self.deviceId self.eventId self.actionId

structure TriggeredAction where
  actionId : ActionId
deriving DecidableEq

structure NodeUdpProtocol where
  deviceId : DeviceId
  eventIds : EventIdGenerator
deriving DecidableEq

namespace NodeUdpProtocol

def new (deviceId : String) (bootId : UInt64) : Except ProtocolError NodeUdpProtocol :=
  match text deviceIdCapacity deviceId with
  | .error _ => .error .deviceIdTooLong
  | .ok deviceId => .ok { deviceId,eventIds := .new bootId }

def eventFromAction (self : NodeUdpProtocol) (action : TriggeredAction) :
    Except ProtocolError PendingEvent × NodeUdpProtocol :=
  match self.eventIds.nextEventId with
  | (.error error,eventIds) => (.error error,{ self with eventIds })
  | (.ok eventId,eventIds) =>
    (.ok { deviceId := self.deviceId,eventId,actionId := action.actionId },{ self with eventIds })

def encodeMessage (skip : Reader Unit) (message : UdpMessage) (destination : Nat) :
    Except ProtocolError (List UInt8) :=
  match encode (UdpMessage.codec skip) message destination with
  | .error _ => .error .bufferTooSmall
  | .ok written => .ok written

def ackMatches (skip : Reader Unit) (self : NodeUdpProtocol) (event : PendingEvent)
    (payload : List UInt8) : Bool :=
  match decode (UdpMessage.codec skip) payload with
  | .error _ => false
  | .ok (.ack deviceId eventId) => deviceId = self.deviceId && eventId = event.eventId
  | .ok _ => false

end NodeUdpProtocol

theorem NodeUdpProtocol.encodeMessage_eq_ok {skip : Reader Unit} {message : UdpMessage} {destination : Nat}
    {written : List UInt8} (encoded : NodeUdpProtocol.encodeMessage skip message destination = .ok written) :
    written = (UdpMessage.codec skip).write message := by
  unfold NodeUdpProtocol.encodeMessage at encoded
  cases outcome : encode (UdpMessage.codec skip) message destination with
  | error error => rw [outcome] at encoded; cases encoded
  | ok bytes =>
    rw [outcome] at encoded
    cases encoded
    exact (encode_eq_ok.mp outcome).1

/-- A recognised ACK names the node and the event. -/
theorem NodeUdpProtocol.ackMatches_iff {skip : Reader Unit} {self : NodeUdpProtocol} {event : PendingEvent}
    {payload : List UInt8} : self.ackMatches skip event payload = true ↔
      decode (UdpMessage.codec skip) payload = .ok (.ack self.deviceId event.eventId) := by
  unfold NodeUdpProtocol.ackMatches
  split
  next failed => simp [failed]
  next decoded => simp [decoded]
  next other => grind

/-! ### The identifiers of a node -/

theorem hex_length (width value : Nat) : (hex width value).length = width := by
  induction width generalizing value with
  | zero => rfl
  | succ width ih => simp [hex,ih]

theorem hexDigit_inj : ∀ left < 16, ∀ right < 16, hexDigit left = hexDigit right → left = right := by
  decide

theorem hexDigit_plain : ∀ value < 16, escapeChar (hexDigit value) = [hexDigit value] := by decide

theorem hexDigit_ascii : ∀ value < 16, (String.utf8EncodeChar (hexDigit value)).length = 1 := by decide

theorem hex_inj {width left right : Nat} (small : left < 16 ^ width) (small' : right < 16 ^ width)
    (same : hex width left = hex width right) : left = right := by
  induction width generalizing left right with
  | zero =>
    simp only [Nat.pow_zero] at small small'
    omega
  | succ width ih =>
    rw [Nat.pow_succ] at small small'
    obtain ⟨high,low⟩ := List.append_inj same (by rw [hex_length,hex_length])
    have quotients := ih (by omega) (by omega) high
    have remainders := hexDigit_inj _ (Nat.mod_lt _ (by decide)) _ (Nat.mod_lt _ (by decide))
      (List.cons.inj low).1
    omega

theorem mem_hex {width value : Nat} {char : Char} (member : char ∈ hex width value) :
    ∃ digit < 16, char = hexDigit digit := by
  induction width generalizing value with
  | zero => cases member
  | succ width ih =>
    rcases List.mem_append.mp member with high | low
    · exact ih high
    · exact ⟨_,Nat.mod_lt _ (by decide),List.mem_singleton.mp low⟩

theorem eventIdText_inj {bootId bootId' sequence sequence' : UInt64}
    (same : eventIdText bootId sequence = eventIdText bootId' sequence') :
    bootId = bootId' ∧ sequence = sequence' := by
  have chars := congrArg String.toList same
  simp only [eventIdText,String.toList_ofList] at chars
  obtain ⟨boots,rest⟩ := List.append_inj chars (by rw [hex_length,hex_length])
  have small (value : UInt64) : value.toNat < 16 ^ 16 := value.toNat_lt
  exact ⟨UInt64.toNat_inj.mp (hex_inj (small _) (small _) boots),
    UInt64.toNat_inj.mp (hex_inj (small _) (small _) (List.cons.inj rest).2)⟩

theorem eventIdText_plain (bootId sequence : UInt64) : Plain (eventIdText bootId sequence) := by
  intro char member
  simp only [eventIdText,String.toList_ofList,List.mem_append,List.mem_cons] at member
  rcases member with digit | rfl | digit
  · obtain ⟨value,small,rfl⟩ := mem_hex digit
    exact hexDigit_plain value small
  · decide
  · obtain ⟨value,small,rfl⟩ := mem_hex digit
    exact hexDigit_plain value small

theorem hex_bytes (width value : Nat) :
    ((hex width value).flatMap String.utf8EncodeChar).length = width := by
  induction width generalizing value with
  | zero => rfl
  | succ width ih =>
    rw [hex,List.flatMap_append,List.length_append,ih,List.flatMap_cons,List.flatMap_nil,
      List.append_nil,hexDigit_ascii _ (Nat.mod_lt _ (by decide))]

theorem eventIdText_length (bootId sequence : UInt64) :
    (Utf8.bytes (eventIdText bootId sequence)).length = 33 := by
  have dash : (String.utf8EncodeChar '-').length = 1 := by decide
  rw [eventIdText,Utf8.bytes_ofList,List.flatMap_append,List.flatMap_cons,List.length_append,
    List.length_append,hex_bytes,hex_bytes,dash]

/-- Only an exhausted sequence refuses an identifier. -/
theorem nextEventId_eq (self : EventIdGenerator) :
    (∃ eventId : EventId, eventId.val = eventIdText self.bootId self.nextSequence ∧
      self.nextSequence.toNat + 1 < UInt64.size ∧
      self.nextEventId = (.ok eventId,{ self with nextSequence := self.nextSequence + 1 })) ∨
    (UInt64.size ≤ self.nextSequence.toNat + 1 ∧ self.nextEventId = (.error .sequenceExhausted,self)) := by
  unfold EventIdGenerator.nextEventId
  split
  next more =>
    have fits : (Utf8.bytes (eventIdText self.bootId self.nextSequence)).length ≤ eventIdCapacity := by
      rw [eventIdText_length]
      decide
    refine .inl ⟨⟨_,fits⟩,rfl,more,?_⟩
    simp only [text,Text.ofString?,dif_pos fits]
  next exhausted => exact .inr ⟨by omega,rfl⟩

end UchiPulse.Node
