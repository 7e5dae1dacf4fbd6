import UchiPulse.Hub.Udp
import UchiPulse.Lib.Frame

/-! A datagram along a relation: if each statement, each call of the handler and each
observation goes along it, the whole datagram does. -/
namespace UchiPulse.Hub
open Common Db Sql Json

/-- The steps of which datagrams are made. `Observed` are the messages that are observed. -/
structure Along {A E : Type} (env : Env) (handler : ActionHandler A E) (Observed : UdpMessage → Prop) (now : Nat)
    (R : HubUdpProcessor A → HubUdpProcessor A → Prop) : Prop where
  refl : ∀ self, R self self
  trans : ∀ a b c, R a b → R b c → R a c
  reads : ∀ {α : Type} (read : Tables → Except SqliteError α) (self : HubUdpProcessor A),
    R self { self with database := (query read env self.database).2 }
  inserts : ∀ (event : EventRow) (self : HubUdpProcessor A),
    R self { self with database := (insertEvent event env self.database).2 }
  validates : ∀ (actionHandler : A) (actionId : ActionId) (self : HubUdpProcessor A),
    R self { self with database := (handler.validateEvent actionHandler actionId env self.database).2 }
  handles : ∀ (event : EventContext) (self : HubUdpProcessor A),
    let after := (handler.handleEvent event env (self.database,self.actionHandler)).2
    R self { self with database := after.1,actionHandler := after.2 }
  observes : ∀ message, Observed message → ∀ self : HubUdpProcessor A,
    R self { self with state := (self.state.observeMessage message now).2 }

namespace HubUdpProcessor
variable {A E : Type} {env : Env} {handler : ActionHandler A E} {Observed : UdpMessage → Prop} {now : Nat}
  {R : HubUdpProcessor A → HubUdpProcessor A → Prop}

theorem along_onDatabase {ε α : Type} {wrap : ε → UdpProcessingError E} {session : Program Env Connection ε α}
    (moves : ∀ self : HubUdpProcessor A, R self { self with database := (session env self.database).2 }) :
    Program.Moves env R (onDatabase (A := A) wrap session) := by
  intro self
  have moved := moves self
  simp only [onDatabase,Program.zoom]
  rcases ran : session env self.database with ⟨error | value,database⟩ <;> rwa [ran] at moved

theorem along_validateMessage (refl : ∀ self, R self self) (trans : ∀ a b c, R a b → R b c → R a c)
    (message : UdpMessage) : Program.Moves env R (validateMessage (A := A) (E := E) message) := by
  refine Program.moves_bind trans (Program.moves_failIf refl _ _) fun _ => ?_
  cases message with
  | event deviceId eventId actionId => exact Program.moves_failIf refl _ _
  | hello deviceId => exact Program.moves_pure refl _
  | heartbeat deviceId => exact Program.moves_pure refl _
  | ack deviceId eventId => exact Program.moves_pure refl _

variable (along : Along env handler Observed now R)
include along

theorem along_isEnabledManagedDevice (deviceId : String) :
    Program.Moves env R (isEnabledManagedDevice (A := A) (E := E) deviceId) := by
  refine Program.moves_bind along.trans along.refl fun self => ?_
  split
  · exact Program.moves_pure along.refl _
  · exact Program.moves_bind along.trans (along_onDatabase (along.reads _)) fun _ =>
      Program.moves_pure along.refl _

theorem along_observeMessage {message : UdpMessage} (observed : Observed message) :
    Program.Moves env R (observeMessage (A := A) (E := E) message now) := by
  intro self
  have moved := along.observes message observed self
  rcases seen : self.state.observeMessage message now with ⟨outcome,state⟩
  rw [seen] at moved
  simp only [observeMessage,Program.bind_run,Program.get_run,seen,Program.modify_run]
  cases outcome <;> exact moved

theorem along_checkEvent {message : UdpMessage} (observed : Observed message) :
    Program.Moves env R (checkEvent handler message now) := by
  cases message with
  | event deviceId eventId actionId =>
    refine Program.moves_bind along.trans (along_onDatabase (along.reads _)) fun known => ?_
    split
    · exact Program.moves_bind along.trans (along_observeMessage along observed) fun _ =>
        Program.moves_pure along.refl _
    · refine Program.moves_bind along.trans along.refl fun self => ?_
      exact Program.moves_bind along.trans (along_onDatabase (along.validates _ _)) fun _ =>
        Program.moves_pure along.refl _
  | hello deviceId => exact Program.moves_pure along.refl _
  | heartbeat deviceId => exact Program.moves_pure along.refl _
  | ack deviceId eventId => exact Program.moves_pure along.refl _

theorem along_processEvent (payload : List UInt8) (receivedAt : String) (deviceId : DeviceId) (eventId : EventId)
    (actionId : ActionId) :
    Program.Moves env R (processEvent handler payload receivedAt deviceId eventId actionId) := by
  unfold processEvent
  cases Utf8.decode payload with
  | none => exact Program.moves_fail along.refl _
  | some text =>
    refine Program.moves_bind along.trans (along_onDatabase (along.inserts _)) fun inserted => ?_
    simp only
    split
    · exact Program.moves_pure along.refl _
    · refine Program.moves_bind along.trans (Program.moves_attempt fun self => ?_) fun _ =>
        Program.moves_pure along.refl _
      have handled := along.handles
        { deviceId := deviceId.val,eventId := eventId.val,actionId,payload := text } self
      simp only [Program.zoom]
      rcases ran : handler.handleEvent _ env (self.database,self.actionHandler) with ⟨error | value,after⟩ <;>
        rwa [ran] at handled

theorem along_processMessage (payload : List UInt8) (receivedAt : String) {message : UdpMessage}
    (observed : Observed message) :
    Program.Moves env R (processMessage handler payload now receivedAt message) := by
  refine Program.moves_bind along.trans (along_checkEvent along observed) fun answer => ?_
  cases answer with
  | some outcome => exact Program.moves_pure along.refl _
  | none =>
    refine Program.moves_bind along.trans (along_observeMessage along observed) fun _ => ?_
    cases message with
    | event deviceId eventId actionId => exact along_processEvent along payload receivedAt deviceId eventId actionId
    | hello deviceId => exact Program.moves_pure along.refl _
    | heartbeat deviceId => exact Program.moves_pure along.refl _
    | ack deviceId eventId => exact Program.moves_pure along.refl _

theorem along_processDatagram {skip : Reader Unit} {payload : List UInt8}
    (observed : ∀ message, decode (UdpMessage.codec skip) payload = .ok message → Observed message)
    (receivedAt : String) : Program.Moves env R (processDatagram skip handler payload now receivedAt) := by
  unfold processDatagram
  cases decoded : decode (UdpMessage.codec skip) payload with
  | error error => exact Program.moves_fail along.refl _
  | ok message =>
    refine Program.moves_bind along.trans (along_validateMessage along.refl along.trans message) fun _ =>
      Program.moves_bind along.trans (along_isEnabledManagedDevice along _) fun enabled => ?_
    split_ifs
    · exact Program.moves_pure along.refl _
    · exact Program.moves_pure along.refl _
    · exact along_processMessage along payload receivedAt (observed message decoded)

end HubUdpProcessor

end UchiPulse.Hub
