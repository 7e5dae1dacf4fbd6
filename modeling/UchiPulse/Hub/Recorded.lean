import UchiPulse.Hub.Processing

/-! An action handler whose calls are recorded. The processor does with it what it does
without the record, and one datagram records one call at most. -/
namespace UchiPulse.Hub
open Common Db Sql Json

/-- A handler with the events it was called with. -/
structure Recorded (A : Type) where
  handler : A
  calls : List EventContext

section
variable {A E α γ : Type} {env : Env} {part : Tables → γ}

def Recorded.note {A : Type} (event : EventContext) (self : Recorded A) : Recorded A :=
  { self with calls := self.calls ++ [event] }

def ActionHandler.recorded (handler : ActionHandler A E) : ActionHandler (Recorded A) E where
  validateEvent self actionId := handler.validateEvent self.handler actionId
  handleEvent event := do
    Program.modify fun (connection,self) => (connection,self.note event)
    Program.zoom (fun (connection,self) => (connection,self.handler))
      (fun (connection,handler) (_,self) => (connection,{ self with handler })) id (handler.handleEvent event)

theorem recorded_calls (handler : ActionHandler A E) (event : EventContext) (connection : Connection)
    (self : Recorded A) :
    (handler.recorded.handleEvent event env (connection,self)).2.2.calls = self.calls ++ [event] := by
  simp only [ActionHandler.recorded,Program.bind_run,Program.modify_run,Program.zoom,Recorded.note]
  rcases handler.handleEvent event env (connection,self.handler) with ⟨error | value,connection,handler⟩ <;> rfl

theorem keeps_recorded {handler : ActionHandler A E} (keeps : handler.Keeps part env) :
    handler.recorded.Keeps part env where
  validates self actionId := keeps.validates self.handler actionId
  handles event := by
    refine Program.moves_bind (fun a b c => unmoved_trans a.1 b.1 c.1) (fun state => unmoved_refl state.1)
      fun _ => ?_
    exact Program.moves_zoom (keeps.handles event) fun _ _ moved => moved

end

/-! ### The record makes no difference -/

/-- The processor without the record. -/
def HubUdpProcessor.forget {A : Type} (self : HubUdpProcessor (Recorded A)) : HubUdpProcessor A where
  database := self.database
  state := self.state
  actionHandler := self.actionHandler.handler

namespace HubUdpProcessor
variable {A E α : Type} {handler : ActionHandler A E}

theorem follows_onDatabase {ε : Type} {wrap : ε → UdpProcessingError E} (session : Program Env Connection ε α) :
    Program.Follows forget (onDatabase (A := Recorded A) wrap session) (onDatabase wrap session) :=
  Program.follows_zoom (Program.follows_self session) (fun _ => rfl) fun _ _ => rfl

theorem follows_validateMessage (message : UdpMessage) :
    Program.Follows forget (validateMessage (A := Recorded A) (E := E) message) (validateMessage message) := by
  refine Program.follows_bind (Program.follows_failIf _ _) fun _ => ?_
  cases message with
  | event deviceId eventId actionId => exact Program.follows_failIf _ _
  | hello deviceId => exact Program.follows_pure _
  | heartbeat deviceId => exact Program.follows_pure _
  | ack deviceId eventId => exact Program.follows_pure _

theorem follows_isEnabledManagedDevice (deviceId : String) :
    Program.Follows forget (isEnabledManagedDevice (A := Recorded A) (E := E) deviceId)
      (isEnabledManagedDevice deviceId) := by
  refine Program.follows_get fun self => ?_
  by_cases unmanaged : self.state.device deviceId = none
  · have left : self.forget.state.device deviceId = none := unmanaged
    rw [if_pos unmanaged,if_pos left]
    exact Program.follows_pure _
  · have left : ¬ self.forget.state.device deviceId = none := unmanaged
    rw [if_neg unmanaged,if_neg left]
    exact Program.follows_bind (follows_onDatabase _) fun _ => Program.follows_pure _

theorem follows_observeMessage (message : UdpMessage) (now : Nat) :
    Program.Follows forget (observeMessage (A := Recorded A) (E := E) message now)
      (observeMessage message now) := by
  refine Program.follows_get fun self => ?_
  simp only [forget]
  rcases self.state.observeMessage message now with ⟨error | value,state⟩ <;>
    refine Program.follows_bind (Program.follows_modify fun _ => rfl) fun _ => ?_
  · exact Program.follows_fail _
  · exact Program.follows_pure _

theorem follows_handleEvent (event : EventContext) :
    Program.Follows (fun (connection,self) => (connection,self.handler))
      (handler.recorded.handleEvent event) (handler.handleEvent event) := by
  rintro env ⟨connection,self⟩
  simp only [ActionHandler.recorded,Program.bind_run,Program.modify_run,Program.zoom,Recorded.note]
  rcases handler.handleEvent event env (connection,self.handler) with ⟨error | value,connection,handler⟩ <;> rfl

theorem follows_processEvent (payload : List UInt8) (receivedAt : String) (deviceId : DeviceId)
    (eventId : EventId) (actionId : ActionId) :
    Program.Follows forget (processEvent handler.recorded payload receivedAt deviceId eventId actionId)
      (processEvent handler payload receivedAt deviceId eventId actionId) := by
  unfold processEvent
  cases Utf8.decode payload with
  | none => exact Program.follows_fail _
  | some text =>
    refine Program.follows_bind (follows_onDatabase _) fun inserted => ?_
    cases inserted with
    | false => exact Program.follows_pure _
    | true =>
      exact Program.follows_bind (Program.follows_attempt (Program.follows_zoom (follows_handleEvent _)
        (fun _ => rfl) fun _ _ => rfl)) fun _ => Program.follows_pure _

theorem follows_checkEvent (message : UdpMessage) (now : Nat) :
    Program.Follows forget (checkEvent handler.recorded message now) (checkEvent handler message now) := by
  unfold checkEvent
  cases message with
  | event deviceId eventId actionId =>
    refine Program.follows_bind (follows_onDatabase _) fun known => ?_
    by_cases found : known ≠ none
    · simp only [if_pos found]
      exact Program.follows_bind (follows_observeMessage _ now) fun _ => Program.follows_pure _
    · simp only [if_neg found]
      exact Program.follows_get fun self =>
        Program.follows_bind (follows_onDatabase _) fun _ => Program.follows_pure _
  | hello deviceId => exact Program.follows_pure _
  | heartbeat deviceId => exact Program.follows_pure _
  | ack deviceId eventId => exact Program.follows_pure _

theorem follows_processMessage (payload : List UInt8) (now : Nat) (receivedAt : String) (message : UdpMessage) :
    Program.Follows forget (processMessage handler.recorded payload now receivedAt message)
      (processMessage handler payload now receivedAt message) := by
  refine Program.follows_bind (follows_checkEvent message now) fun answer => ?_
  cases answer with
  | some outcome => exact Program.follows_pure _
  | none =>
    refine Program.follows_bind (follows_observeMessage message now) fun _ => ?_
    cases message with
    | event deviceId eventId actionId => exact follows_processEvent payload receivedAt deviceId eventId actionId
    | hello deviceId => exact Program.follows_pure _
    | heartbeat deviceId => exact Program.follows_pure _
    | ack deviceId eventId => exact Program.follows_pure _

theorem follows_processDatagram (skip : Reader Unit) (payload : List UInt8) (now : Nat) (receivedAt : String) :
    Program.Follows forget (processDatagram skip handler.recorded payload now receivedAt)
      (processDatagram skip handler payload now receivedAt) := by
  unfold processDatagram
  cases decode (UdpMessage.codec skip) payload with
  | error error => exact Program.follows_fail _
  | ok message =>
    refine Program.follows_bind (follows_validateMessage message) fun _ =>
      Program.follows_bind (follows_isEnabledManagedDevice _) fun enabled => ?_
    by_cases disabled : enabled = false
    · simp only [if_pos disabled]
      exact Program.follows_pure _
    · by_cases ack : message.messageType = .ack
      · simp only [if_neg disabled,if_pos ack]
        exact Program.follows_pure _
      · simp only [if_neg disabled,if_neg ack]
        exact follows_processMessage payload now receivedAt message

end HubUdpProcessor

/-- The main loop does the same with and without the record. -/
theorem receive_recorded {A E : Type} (skip : Reader Unit) (handler : ActionHandler A E) (payload : List UInt8)
    (now : Nat) (receivedAt : String) (env : Env) (self : HubUdpProcessor (Recorded A)) :
    receive skip handler payload now receivedAt env self.forget =
      ((receive skip handler.recorded payload now receivedAt env self).1,
        (receive skip handler.recorded payload now receivedAt env self).2.forget) := by
  unfold receive
  rw [HubUdpProcessor.follows_processDatagram skip payload now receivedAt env self]
  rcases HubUdpProcessor.processDatagram skip handler.recorded payload now receivedAt env self
    with ⟨error | outcome,next⟩
  · rfl
  · cases outcome with
    | eventAccepted deviceId eventId duplicate status ack =>
      simp only
      cases encode (UdpMessage.codec skip) ack ackBufferSize <;> rfl
    | ignored => rfl
    | helloAccepted deviceId => rfl
    | heartbeatAccepted deviceId => rfl

/-! ### What one datagram records -/

def calls {A : Type} (processor : HubUdpProcessor (Recorded A)) : List EventContext :=
  processor.actionHandler.calls

/-- A new event of the datagram was stored, and the handler was called with it. -/
structure Stores {A : Type} (skip : Reader Unit) (payload : List UInt8) (deviceId : DeviceId)
    (eventId : EventId) (actionId : ActionId) (row : EventRow)
    (before after : HubUdpProcessor (Recorded A)) : Prop where
  decoded : decode (UdpMessage.codec skip) payload = .ok (.event deviceId eventId actionId)
  fresh : ¬ Known (history before.database.committed) deviceId eventId
  device : row.deviceId = deviceId.val
  event : row.eventId = eventId.val
  bytes : Utf8.bytes row.payload = payload
  added : history after.database.committed = history before.database.committed ++ [row]
  called : calls after = calls before ++
    [{ deviceId := deviceId.val,eventId := eventId.val,actionId,payload := row.payload }]

/-- One pass of the main loop stores the event and calls the handler, or does neither; what
it acknowledges is stored. -/
theorem receive_effect {A E : Type} (skip : Reader Unit) {handler : ActionHandler A E} {env : Env}
    (stable : Stable env history) (keeps : handler.Keeps history env) (payload : List UInt8) (now : Nat)
    (receivedAt : String) (self : HubUdpProcessor (Recorded A)) (idle : self.database.working = none) :
    let result := receive skip handler.recorded payload now receivedAt env self
    result.2.database.working = none ∧
    ((history result.2.database.committed = history self.database.committed ∧ calls result.2 = calls self) ∨
      ∃ deviceId eventId actionId row, Stores skip payload deviceId eventId actionId row self result.2) ∧
    ∀ reply, result.1 = .continues (some reply) → ∃ deviceId eventId,
      reply = (UdpMessage.codec skip).write (.ack deviceId eventId) ∧
      Known (history result.2.database.committed) deviceId eventId := by
  intro result
  have effect := HubUdpProcessor.processDatagram_effect skip stable (keeps_recorded keeps) payload now
    receivedAt self idle
  have after := receive_after skip handler.recorded payload now receivedAt env self
  have replied := receive_replied skip handler.recorded payload now receivedAt env self
  generalize HubUdpProcessor.processDatagram skip handler.recorded payload now receivedAt env self =
    outcome at effect after replied
  obtain ⟨outcome,next⟩ := outcome
  have database : result.2.database = next.database := by
    rcases after with same | same
    · exact congrArg HubUdpProcessor.database same
    · exact (congrArg HubUdpProcessor.database same).trans rfl
  have record : calls result.2 = calls next := by
    rcases after with same | same
    · exact congrArg calls same
    · exact (congrArg calls same).trans rfl
  rw [database,record]
  rcases effect with untouched | ⟨deviceId,eventId,actionId,text,between,decoded,stored⟩
  · obtain ⟨closed,same⟩ := untouched.unmoved.1 idle
    refine ⟨closed,.inl ⟨same,congrArg Recorded.calls untouched.unmoved.2⟩,fun reply sent => ?_⟩
    obtain ⟨deviceId,eventId,duplicate,status,ack,accepted,rfl⟩ := replied reply sent
    obtain ⟨-,rfl,known⟩ := untouched.known _ _ _ _ _ accepted
    exact ⟨deviceId,eventId,rfl,by rwa [same]⟩
  · let event : EventContext := { deviceId := deviceId.val,eventId := eventId.val,actionId,payload := text }
    let row : EventRow := { receivedAt,deviceId := deviceId.val,eventId := eventId.val,payload := text }
    have handled := (keeps_recorded keeps).handles event (between,self.actionHandler)
    rw [← stored.handled] at handled
    obtain ⟨closed,same⟩ := handled stored.idle
    have added : history next.database.committed = history self.database.committed ++ [row] :=
      same.trans stored.added
    have called : calls next = calls self ++ [event] := by
      rw [calls,(Prod.mk.inj stored.handled).2,recorded_calls]
      rfl
    refine ⟨closed,.inr ⟨deviceId,eventId,actionId,row,?_⟩,fun reply sent => ?_⟩
    · exact {
        decoded
        fresh := stored.fresh
        device := rfl
        event := rfl
        bytes := Utf8.decode_eq_some.mp stored.decoded
        added := by rw [database,added]
        called := by rw [record,called] }
    · obtain ⟨_,_,_,_,_,accepted,rfl⟩ := replied reply sent
      obtain ⟨status,ok⟩ := stored.accepted
      cases ok.symm.trans accepted
      exact ⟨deviceId,eventId,rfl,row,by simp [added],rfl,rfl⟩

end UchiPulse.Hub
