import UchiPulse.Node.Udp

/-! The node's event sender: one triggered action after the other becomes an EVENT, which
is sent again until it is acknowledged or the retries are used up. -/
namespace UchiPulse.Node
open Common Json

def eventTxSize : Nat := 512

/-- What the task waits for. -/
inductive SenderPhase where
  /-- The next action. -/
  | idle
  /-- The next attempt. -/
  | sending (event : PendingEvent) (tx : List UInt8) (retryPolicy : RetryPolicy)
  /-- The ACK. -/
  | waiting (event : PendingEvent) (tx : List UInt8) (retryPolicy : RetryPolicy)
deriving DecidableEq

structure EventSender where
  protocol : NodeUdpProtocol
  eventRetryCount : UInt8
  phase : SenderPhase
deriving DecidableEq

/-- What a wait for a datagram ends with. -/
inductive Received where
  | datagram (payload : List UInt8)
  | failed
  | elapsed
deriving DecidableEq

namespace EventSender

/-- The task after a boot. -/
def new (deviceId : String) (bootId : UInt64) (eventRetryCount : UInt8) : Except ProtocolError EventSender :=
  match NodeUdpProtocol.new deviceId bootId with
  | .error error => .error error
  | .ok protocol => .ok { protocol,eventRetryCount,phase := .idle }

/-- The next action, with the EVENT it became. One that cannot be encoded is not sent. -/
def accept (skip : Reader Unit) (self : EventSender) (action : TriggeredAction) :
    Option PendingEvent × EventSender :=
  match self.phase with
  | .idle =>
    match self.protocol.eventFromAction action with
    | (.error _,protocol) => (none,{ self with protocol })
    | (.ok event,protocol) =>
      match NodeUdpProtocol.encodeMessage skip event.message eventTxSize with
      | .error _ => (some event,{ self with protocol })
      | .ok tx => (some event,{ self with protocol,phase := .sending event tx (.new self.eventRetryCount) })
  | _ => (none,self)

/-- One attempt, with the datagram that is sent. The event is dropped while no hub has
been discovered; an attempt whose sending fails counts. -/
def attempt (self : EventSender) (discovered sends : Bool) : Option (List UInt8) × EventSender :=
  match self.phase with
  | .sending event tx retryPolicy =>
    match retryPolicy.nextAttempt with
    | (none,_) => (none,{ self with phase := .idle })
    | (some _,retryPolicy) =>
      if discovered = false then (none,{ self with phase := .idle })
      else if sends = false then (none,{ self with phase := .sending event tx retryPolicy })
      else (some tx,{ self with phase := .waiting event tx retryPolicy })
  | _ => (none,self)

/-- One pass of the wait for the ACK, with the event that was delivered. -/
def waitForAck (skip : Reader Unit) (self : EventSender) (received : Received) (deadlineReached : Bool) :
    Option PendingEvent × EventSender :=
  match self.phase with
  | .waiting event tx retryPolicy =>
    let again : EventSender := { self with phase := .sending event tx retryPolicy }
    match received with
    | .datagram payload =>
      if self.protocol.ackMatches skip event payload then (some event,{ self with phase := .idle })
      else (none,if deadlineReached then again else self)
    | .failed => (none,if deadlineReached then again else self)
    | .elapsed => (none,again)
  | _ => (none,self)

end EventSender

/-! ### What the sender is busy with -/

/-- The event on its way, with its datagram. -/
def SenderPhase.pending : SenderPhase → Option (PendingEvent × List UInt8)
  | .idle => none
  | .sending event tx _ => some (event,tx)
  | .waiting event tx _ => some (event,tx)

/-- The event an action becomes, and the protocol after it. -/
structure Makes (protocol : NodeUdpProtocol) (action : TriggeredAction) (event : PendingEvent)
    (next : NodeUdpProtocol) : Prop where
  device : event.deviceId = protocol.deviceId
  asked : event.actionId = action.actionId
  identifier : event.eventId.val = eventIdText protocol.eventIds.bootId protocol.eventIds.nextSequence
  owner : next.deviceId = protocol.deviceId
  boot : next.eventIds.bootId = protocol.eventIds.bootId
  sequence : next.eventIds.nextSequence.toNat = protocol.eventIds.nextSequence.toNat + 1

theorem eventFromAction_cases (self : NodeUdpProtocol) (action : TriggeredAction) :
    (∃ event next, self.eventFromAction action = (.ok event,next) ∧ Makes self action event next) ∨
      ∃ error, self.eventFromAction action = (.error error,self) := by
  unfold NodeUdpProtocol.eventFromAction
  rcases nextEventId_eq self.eventIds with ⟨eventId,text,more,found⟩ | ⟨-,exhausted⟩
  · rw [found]
    refine .inl ⟨_,_,rfl,?_⟩
    exact {
      device := rfl
      asked := rfl
      identifier := text
      owner := rfl
      boot := rfl
      sequence := by
        simp only [UInt64.toNat_add,UInt64.toNat_one]
        exact Nat.mod_eq_of_lt more }
  · rw [exhausted]
    exact .inr ⟨_,rfl⟩

namespace EventSender

theorem new_ok {deviceId : DeviceId} {bootId : UInt64} {eventRetryCount : UInt8} {sender : EventSender}
    (booted : new deviceId.val bootId eventRetryCount = .ok sender) :
    sender.protocol = { deviceId,eventIds := .new bootId } ∧ sender.phase = .idle := by
  unfold new NodeUdpProtocol.new at booted
  simp only [text,Text.ofString?,dif_pos deviceId.fits] at booted
  cases booted
  exact ⟨rfl,rfl⟩

/-- An action that is taken becomes an event with the next identifier, or none at all. -/
theorem accept_cases (skip : Reader Unit) (self : EventSender) (action : TriggeredAction) :
    self.accept skip action = (none,self) ∨
      ∃ event next, self.accept skip action = (some event,next) ∧
        Makes self.protocol action event next.protocol ∧
        ∀ pending tx, next.phase.pending = some (pending,tx) →
          pending = event ∧ tx = (UdpMessage.codec skip).write event.message := by
  obtain ⟨protocol,eventRetryCount,phase⟩ := self
  cases phase with
  | idle =>
    unfold accept
    rcases eventFromAction_cases protocol action with ⟨event,next,made,makes⟩ | ⟨error,failed⟩
    · simp only [made]
      cases encoded : NodeUdpProtocol.encodeMessage skip event.message eventTxSize with
      | error error => exact .inr ⟨_,_,rfl,makes,fun pending tx busy => by cases busy⟩
      | ok tx =>
        refine .inr ⟨_,_,rfl,makes,fun pending tx' busy => ?_⟩
        cases busy
        exact ⟨rfl,NodeUdpProtocol.encodeMessage_eq_ok encoded⟩
    · simp [failed]
  | sending event tx retryPolicy => exact .inl rfl
  | waiting event tx retryPolicy => exact .inl rfl

/-- An attempt sends the datagram of the event on its way, or nothing. -/
theorem attempt_cases (self : EventSender) (discovered sends : Bool) :
    (self.attempt discovered sends).2.protocol = self.protocol ∧
    (∀ pending, (self.attempt discovered sends).2.phase.pending = some pending →
      self.phase.pending = some pending) ∧
    ∀ datagram, (self.attempt discovered sends).1 = some datagram →
      ∃ event, self.phase.pending = some (event,datagram) := by
  obtain ⟨protocol,eventRetryCount,phase⟩ := self
  cases phase with
  | idle => exact ⟨rfl,fun _ busy => busy,fun _ sent => by cases sent⟩
  | waiting event tx retryPolicy => exact ⟨rfl,fun _ busy => busy,fun _ sent => by cases sent⟩
  | sending event tx retryPolicy =>
    simp only [attempt]
    rcases retryPolicy.nextAttempt with ⟨_ | number,retryPolicy⟩
    · simp [SenderPhase.pending]
    · cases discovered <;> cases sends <;> simp [SenderPhase.pending]

/-- A wait that delivers has seen the ACK of the event on its way. -/
theorem waitForAck_cases (skip : Reader Unit) (self : EventSender) (received : Received)
    (deadlineReached : Bool) :
    (self.waitForAck skip received deadlineReached).2.protocol = self.protocol ∧
    (∀ pending, (self.waitForAck skip received deadlineReached).2.phase.pending = some pending →
      self.phase.pending = some pending) ∧
    ∀ event, (self.waitForAck skip received deadlineReached).1 = some event →
      ∃ tx payload, self.phase.pending = some (event,tx) ∧ received = .datagram payload ∧
        self.protocol.ackMatches skip event payload = true := by
  obtain ⟨protocol,eventRetryCount,phase⟩ := self
  cases phase with
  | idle => exact ⟨rfl,fun _ busy => busy,fun _ delivered => by cases delivered⟩
  | sending event tx retryPolicy => exact ⟨rfl,fun _ busy => busy,fun _ delivered => by cases delivered⟩
  | waiting event tx retryPolicy =>
    simp only [waitForAck]
    cases received with
    | elapsed => simp [SenderPhase.pending]
    | failed => cases deadlineReached <;> simp [SenderPhase.pending]
    | datagram payload =>
      by_cases matched : protocol.ackMatches skip event payload = true
      · simp only [if_pos matched]
        refine ⟨trivial,by simp [SenderPhase.pending],?_⟩
        rintro _ ⟨⟩
        exact ⟨tx,payload,rfl,rfl,matched⟩
      · simp only [if_neg matched]
        cases deadlineReached <;> simp [SenderPhase.pending]

end EventSender

end UchiPulse.Node
