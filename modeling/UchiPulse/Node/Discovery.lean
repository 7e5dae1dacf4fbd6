import UchiPulse.Node.Heartbeat
import UchiPulse.Node.HelloRequest

/-! The node's discovery of the hub, and its heartbeats. The latest address from which a
discovery request came is the hub's. -/
namespace UchiPulse.Node
open Common Json

def discoveryRxSize : Nat := 128

structure DiscoveryTask (α : Type) where
  hubEndpoint : Option α
  lastHeartbeat : Nat

namespace DiscoveryTask
variable {α : Type}

/-- Who asks for a HELLO. A datagram that does not fit is not received. -/
def asker : Option (α × List UInt8) → Option α
  | some (source,payload) => if payload.length ≤ discoveryRxSize ∧ isHelloRequest payload = true then some source else none
  | none => none

section
variable (skip : Reader Unit) (protocol : NodeUdpProtocol) (interval : Nat)

/-- A message to an endpoint, if it can be encoded. -/
def datagrams (endpoint : Option α) (message : UdpMessage) : List (α × List UInt8) :=
  match endpoint with
  | some endpoint => (NodeUdpProtocol.encodeMessage skip message heartbeatBufferSize).toOption.toList.map (endpoint,·)
  | none => []

/-- One turn of the loop, with what was received within a second. -/
def turn (self : DiscoveryTask α) (received : Option (α × List UInt8)) (now : Nat) :
    DiscoveryTask α × List (α × List UInt8) :=
  let hubEndpoint := (asker received).or self.hubEndpoint
  let hello := datagrams skip (asker received) protocol.hello
  if now - self.lastHeartbeat ≥ interval then
    ({ hubEndpoint,lastHeartbeat := now },hello ++ datagrams skip hubEndpoint protocol.heartbeat)
  else ({ self with hubEndpoint },hello)

end

/-! ### What a turn does -/

section
variable {skip : Reader Unit} {protocol : NodeUdpProtocol} {interval : Nat}

theorem asker_eq_some {received : Option (α × List UInt8)} {source : α} (asked : asker received = some source) :
    ∃ payload, received = some (source,payload) ∧ isHelloRequest payload = true := by
  rcases received with _ | ⟨other,payload⟩
  · cases asked
  · simp only [asker,Option.ite_none_right_eq_some,Option.some.injEq] at asked
    obtain ⟨⟨-,request⟩,rfl⟩ := asked
    exact ⟨payload,rfl,request⟩

theorem mem_datagrams {endpoint : Option α} {message : UdpMessage} {target : α} {payload : List UInt8}
    (among : (target,payload) ∈ datagrams skip endpoint message) :
    endpoint = some target ∧ payload = (UdpMessage.codec skip).write message := by
  cases endpoint with
  | none => cases among
  | some endpoint =>
    obtain ⟨written,encoded,same⟩ := List.mem_map.mp among
    cases same
    cases made : NodeUdpProtocol.encodeMessage skip message heartbeatBufferSize with
    | error error =>
      rw [made] at encoded
      cases encoded
    | ok bytes =>
      rw [made] at encoded
      cases List.mem_singleton.mp encoded
      exact ⟨rfl,NodeUdpProtocol.encodeMessage_eq_ok made⟩

/-- The endpoint changes to that of a request only. -/
theorem turn_endpoint (self : DiscoveryTask α) (received : Option (α × List UInt8)) (now : Nat) :
    (self.turn skip protocol interval received now).1.hubEndpoint = (asker received).or self.hubEndpoint := by
  unfold turn
  split <;> rfl

/-- What is sent goes to the endpoint. -/
theorem turn_sends {self : DiscoveryTask α} {received : Option (α × List UInt8)} {now : Nat} {target : α}
    {payload : List UInt8} (among : (target,payload) ∈ (self.turn skip protocol interval received now).2) :
    (self.turn skip protocol interval received now).1.hubEndpoint = some target ∧
      (payload = (UdpMessage.codec skip).write protocol.hello ∨
        payload = (UdpMessage.codec skip).write protocol.heartbeat) := by
  rw [turn_endpoint]
  have hello {target : α} {payload : List UInt8} (among : (target,payload) ∈ datagrams skip (asker received) protocol.hello) :
      (asker received).or self.hubEndpoint = some target ∧ payload = (UdpMessage.codec skip).write protocol.hello := by
    obtain ⟨asked,written⟩ := mem_datagrams among
    exact ⟨by rw [asked]; rfl,written⟩
  unfold turn at among
  split at among
  · rcases List.mem_append.mp among with first | last
    · exact ⟨(hello first).1,.inl (hello first).2⟩
    · obtain ⟨known,written⟩ := mem_datagrams last
      exact ⟨known,.inr written⟩
  · exact ⟨(hello among).1,.inl (hello among).2⟩

end

end DiscoveryTask

end UchiPulse.Node
