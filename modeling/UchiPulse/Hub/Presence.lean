import UchiPulse.Hub.Processing
import UchiPulse.Hub.Status

/-! What a datagram does to the communication state of one device. -/
namespace UchiPulse.Hub
open Common Db Sql Json

/-- The device as it was, or just seen, which takes a message under its identifier. -/
def Touched (deviceId : String) (now : Nat) (spoken : Prop) (before after : CommunicationStateManager) : Prop :=
  after.offlineTimeout = before.offlineTimeout ∧
    (after.device deviceId = before.device deviceId ∨
      spoken ∧ isBlank deviceId = false ∧ ∃ state, before.device deviceId = some state ∧
        after.device deviceId = some { state with status := .online,lastSeenAt := some now })

section
variable {deviceId : String} {now : Nat} {spoken : Prop}

theorem touched_refl (self : CommunicationStateManager) : Touched deviceId now spoken self self :=
  ⟨rfl,.inl rfl⟩

theorem touched_trans (a b c : CommunicationStateManager) (first : Touched deviceId now spoken a b)
    (second : Touched deviceId now spoken b c) : Touched deviceId now spoken a c := by
  obtain ⟨timeout,seen⟩ := first
  obtain ⟨timeout',seen'⟩ := second
  refine ⟨timeout'.trans timeout,?_⟩
  rcases seen with same | ⟨said,named,state,found,changed⟩
  · rwa [same] at seen'
  · refine .inr ⟨said,named,state,found,?_⟩
    rcases seen' with same | ⟨-,-,state',found',changed'⟩
    · exact same.trans changed
    · rw [changed] at found'
      cases found'
      exact changed'

theorem touched_observe (deviceId : String) (now : Nat) (self : CommunicationStateManager) (message : UdpMessage) :
    Touched deviceId now ((deviceIdOf message).val = deviceId) self (self.observeMessage message now).2 := by
  refine ⟨self.observeMessage_timeout message now,?_⟩
  rw [self.observeMessage_device]
  by_cases sign : SignOfLife deviceId message
  · rw [if_pos sign]
    cases found : self.device deviceId with
    | none => exact .inl rfl
    | some state => exact .inr ⟨sign.1,sign.2.1,state,rfl,rfl⟩
  · rw [if_neg sign]
    exact .inl rfl

end

namespace HubUdpProcessor
variable {A E : Type} {env : Env} {deviceId : String} {now : Nat}

/-- Whose message a datagram is. -/
def SpeaksFor (skip : Reader Unit) (deviceId : String) (payload : List UInt8) : Prop :=
  ∃ message, decode (UdpMessage.codec skip) payload = .ok message ∧ (deviceIdOf message).val = deviceId

theorem along_touched (env : Env) (handler : ActionHandler A E) (spoken : Prop) (deviceId : String) (now : Nat) :
    Along env handler (fun message => (deviceIdOf message).val = deviceId → spoken) now fun before after =>
      Touched deviceId now spoken before.state after.state where
  refl self := touched_refl self.state
  trans _ _ _ := touched_trans _ _ _
  reads _ self := touched_refl self.state
  inserts _ self := touched_refl self.state
  validates _ _ self := touched_refl self.state
  handles _ self := touched_refl self.state
  observes message speaks self := by
    obtain ⟨timeout,seen⟩ := touched_observe deviceId now self.state message
    exact ⟨timeout,seen.imp_right fun seen => ⟨speaks seen.1,seen.2⟩⟩

theorem touches_processDatagram (env : Env) (deviceId : String) (now : Nat) (skip : Reader Unit)
    (handler : ActionHandler A E) (payload : List UInt8) (receivedAt : String) (self : HubUdpProcessor A) :
    Touched deviceId now (SpeaksFor skip deviceId payload) self.state
      (processDatagram skip handler payload now receivedAt env self).2.state :=
  along_processDatagram (along_touched env handler _ deviceId now)
    (fun message decoded same => ⟨message,decoded,same⟩) receivedAt self

/-! ### A sign of life -/

/-- The database finds the device enabled. -/
def FindsEnabled (env : Env) (self : HubUdpProcessor A) (deviceId : String) : Prop :=
  ∃ row next, getDevice deviceId env self.database = (.ok (some row),next) ∧ row.enabled = true

/-- The two messages that are only signs of life. -/
def Sign (message : UdpMessage) : Prop :=
  message = .hello (deviceIdOf message) ∨ message = .heartbeat (deviceIdOf message)

/-- A sign of life of a managed and enabled device is seen. -/
theorem processDatagram_seen {skip : Reader Unit} (handler : ActionHandler A E) {payload : List UInt8}
    (receivedAt : String) {message : UdpMessage} {self : HubUdpProcessor A} {state : DeviceState}
    (decoded : decode (UdpMessage.codec skip) payload = .ok message) (sign : Sign message)
    (named : isBlank (deviceIdOf message).val = false)
    (managed : self.state.device (deviceIdOf message).val = some state)
    (finds : FindsEnabled env self (deviceIdOf message).val) :
    (processDatagram skip handler payload now receivedAt env self).2.state.device (deviceIdOf message).val =
      some { state with status := .online,lastSeenAt := some now } := by
  obtain ⟨row,next,found,enabled⟩ := finds
  have notAck : ¬ message.messageType = .ack := by
    rcases sign with hello | heartbeat
    · rw [hello,UdpMessage.messageType]; simp
    · rw [heartbeat,UdpMessage.messageType]; simp
  have noEvent (deviceId : DeviceId) (eventId : EventId) (actionId : ActionId) :
      message ≠ .event deviceId eventId actionId := by
    rintro rfl
    rcases sign with hello | heartbeat
    · cases hello
    · cases heartbeat
  have validated : validateMessage (A := A) (E := E) message env self = (.ok (),self) :=
    validateMessage_eq_ok.mpr ⟨named,fun _ _ _ same => absurd same (noEvent _ _ _),rfl⟩
  have asked : onDatabase (E := E) UdpProcessingError.database (getDevice (deviceIdOf message).val) env self =
      (.ok (some row),{ self with database := next }) := onDatabase_eq_ok.mpr ⟨next,found,rfl⟩
  have looked : isEnabledManagedDevice (A := A) (E := E) (deviceIdOf message).val env self =
      (.ok true,{ self with database := next }) := by
    have known : ¬ self.state.device (deviceIdOf message).val = none := by rw [managed]; simp
    simp only [isEnabledManagedDevice,Program.bind_run,Program.get_run,if_neg known,asked,Program.pure_run,
      Option.any_some,enabled]
  have processed : (processMessage handler payload now receivedAt message env { self with database := next }).2 =
      { self with database := next,state := (self.state.observeMessage message now).2 } := by
    rcases sign with hello | heartbeat
    · rw [hello,processMessage_hello handler env _ payload now receivedAt named]
    · rw [heartbeat,processMessage_heartbeat handler env _ payload now receivedAt named]
  have ran : (processDatagram skip handler payload now receivedAt env self).2 =
      { self with database := next,state := (self.state.observeMessage message now).2 } := by
    simp only [processDatagram,decoded,Program.bind_run,validated,looked,Bool.true_eq_false,if_false,if_neg notAck,
      processed]
  rw [ran,CommunicationStateManager.observeMessage_device,if_pos ⟨rfl,named,notAck⟩,managed]
  rfl

end HubUdpProcessor

/-! ### How a device looks -/

/-- The device has been seen since the hub started. -/
def Heard (deviceId : String) (self : CommunicationStateManager) : Prop :=
  ∃ state seen, self.device deviceId = some state ∧ state.lastSeenAt = some seen

/-- If the device was seen, then not before `start`; it looks online, or the timeout is over. -/
def Alive (deviceId : String) (start now timeout : Nat) (self : CommunicationStateManager) : Prop :=
  self.offlineTimeout = timeout ∧
    ∀ state seen, self.device deviceId = some state → state.lastSeenAt = some seen → start ≤ seen ∧ seen ≤ now ∧
      (state.status = .online ∨ state.status = .offline ∧ seen + timeout ≤ now)

section
variable {A E : Type} {env : Env} {deviceId : String} {start now timeout : Nat} {spoken : Prop}

theorem Alive.later {later : Nat} {self : CommunicationStateManager} (alive : Alive deviceId start now timeout self)
    (after : now ≤ later) : Alive deviceId start later timeout self := by
  refine ⟨alive.1,fun state seen found last => ?_⟩
  obtain ⟨first,past,status⟩ := alive.2 state seen found last
  exact ⟨first,by omega,status.imp_right fun ⟨offline,overdue⟩ => ⟨offline,by omega⟩⟩

theorem Alive.of_unheard {self : CommunicationStateManager} (limit : self.offlineTimeout = timeout)
    (unheard : ¬ Heard deviceId self) : Alive deviceId start now timeout self :=
  ⟨limit,fun state seen found last => absurd ⟨state,seen,found,last⟩ unheard⟩

theorem markOffline_device {self : CommunicationStateManager} {state : DeviceState}
    (found : (self.markOffline now).device deviceId = some state) : ∃ before,
      self.device deviceId = some before ∧ state.lastSeenAt = before.lastSeenAt ∧
      (state.status = before.status ∨ state.status = .offline ∧
        now - before.lastSeenAt.getD before.initialWaitStartedAt ≥ self.offlineTimeout) := by
  simp only [CommunicationStateManager.markOffline,CommunicationStateManager.device] at found
  obtain ⟨before,known,rfl⟩ := Option.map_eq_some_iff.mp found
  refine ⟨before,known,?_⟩
  split_ifs with overdue
  · exact ⟨rfl,.inr ⟨rfl,overdue⟩⟩
  · exact ⟨rfl,.inl rfl⟩

theorem alive_markOffline {self : CommunicationStateManager} (alive : Alive deviceId start now timeout self) :
    Alive deviceId start now timeout (self.markOffline now) := by
  refine ⟨alive.1,fun state seen found last => ?_⟩
  obtain ⟨before,known,same,status⟩ := markOffline_device found
  rw [same] at last
  obtain ⟨first,past,shown⟩ := alive.2 before seen known last
  refine ⟨first,past,?_⟩
  rcases status with kept | ⟨offline,overdue⟩
  · rwa [kept]
  · rw [last,Option.getD_some,alive.1] at overdue
    exact .inr ⟨offline,by omega⟩

theorem heard_markOffline {self : CommunicationStateManager} (heard : Heard deviceId (self.markOffline now)) :
    Heard deviceId self := by
  obtain ⟨state,seen,found,last⟩ := heard
  obtain ⟨before,known,same,-⟩ := markOffline_device found
  exact ⟨before,seen,known,same ▸ last⟩

theorem alive_touched {before after : CommunicationStateManager} (touched : Touched deviceId now spoken before after)
    (past : start ≤ now) (alive : Alive deviceId start now timeout before) :
    Alive deviceId start now timeout after := by
  refine ⟨touched.1.trans alive.1,fun state seen found last => ?_⟩
  rcases touched.2 with same | ⟨-,-,old,-,changed⟩
  · exact alive.2 state seen (same ▸ found) last
  · rw [changed] at found
    cases found
    cases last
    exact ⟨past,Nat.le_refl _,.inl rfl⟩

theorem heard_touched {before after : CommunicationStateManager} (touched : Touched deviceId now spoken before after)
    (heard : Heard deviceId after) : Heard deviceId before ∨ spoken ∧ isBlank deviceId = false := by
  obtain ⟨state,seen,found,last⟩ := heard
  rcases touched.2 with same | ⟨said,named,-⟩
  · exact .inl ⟨state,seen,same ▸ found,last⟩
  · exact .inr ⟨said,named⟩

/-! ### One turn of the receive loop -/

variable {skip : Reader Unit} {handler : ActionHandler A E} {payload : List UInt8} {receivedAt : String}
  {processor : HubUdpProcessor A}

theorem alive_receive (past : start ≤ now) (alive : Alive deviceId start now timeout processor.state) :
    Alive deviceId start now timeout (receive skip handler payload now receivedAt env processor).2.state := by
  have touched := HubUdpProcessor.touches_processDatagram env deviceId now skip handler payload receivedAt processor
  rcases receive_after skip handler payload now receivedAt env processor with same | same
  · rw [same]
    exact alive_touched touched past alive
  · rw [same]
    exact alive_markOffline (alive_touched touched past alive)

theorem heard_receive
    (heard : Heard deviceId (receive skip handler payload now receivedAt env processor).2.state) :
    Heard deviceId processor.state ∨
      HubUdpProcessor.SpeaksFor skip deviceId payload ∧ isBlank deviceId = false := by
  have touched := HubUdpProcessor.touches_processDatagram env deviceId now skip handler payload receivedAt processor
  rcases receive_after skip handler payload now receivedAt env processor with same | same
  · rw [same] at heard
    exact heard_touched touched heard
  · rw [same] at heard
    exact heard_touched touched (heard_markOffline heard)

/-- A sign of life of a device that the database finds enabled. -/
theorem alive_sign {message : UdpMessage} (decoded : decode (UdpMessage.codec skip) payload = .ok message)
    (sign : HubUdpProcessor.Sign message) (speaker : (deviceIdOf message).val = deviceId)
    (named : isBlank deviceId = false) (finds : HubUdpProcessor.FindsEnabled env processor deviceId)
    (limit : processor.state.offlineTimeout = timeout) :
    Alive deviceId now now timeout (receive skip handler payload now receivedAt env processor).2.state := by
  subst speaker
  have touched := HubUdpProcessor.touches_processDatagram env (deviceIdOf message).val now skip handler payload
    receivedAt processor
  have processed : Alive (deviceIdOf message).val now now timeout
      (HubUdpProcessor.processDatagram skip handler payload now receivedAt env processor).2.state := by
    refine ⟨touched.1.trans limit,fun state seen found last => ?_⟩
    cases managed : processor.state.device (deviceIdOf message).val with
    | none =>
      rcases touched.2 with same | ⟨-,-,_,known,-⟩
      · rw [same,managed] at found
        cases found
      · rw [managed] at known
        cases known
    | some before =>
      rw [HubUdpProcessor.processDatagram_seen handler receivedAt decoded sign named managed finds] at found
      cases found
      cases last
      exact ⟨Nat.le_refl _,Nat.le_refl _,.inl rfl⟩
  rcases receive_after skip handler payload now receivedAt env processor with same | same
  · rw [same]
    exact processed
  · rw [same]
    exact alive_markOffline processed

end

end UchiPulse.Hub
