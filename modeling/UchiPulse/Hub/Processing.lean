import UchiPulse.Hub.Along

/-! What one datagram does to the event history. Either the history and the handler stay
as they are, and an accepted event was known before; or one row is added and the handler
is called once. Statements may fail and other connections may commit at any point, as
long as they leave the history alone. -/
namespace UchiPulse.Hub
open Common Db Sql Json

/-- The event history of a version of the tables. -/
def history (tables : Tables) : List EventRow := tables.events

/-- The tables without their events. -/
def config (tables : Tables) : Tables := { tables with events := [] }

/-- The history holds this event. -/
def Known (events : List EventRow) (deviceId : DeviceId) (eventId : EventId) : Prop :=
  ∃ row ∈ events, row.deviceId = deviceId.val ∧ row.eventId = eventId.val

/-- A handler that does not write a part of the tables. -/
structure ActionHandler.Keeps {A E γ : Type} (handler : ActionHandler A E) (part : Tables → γ)
    (env : Env) : Prop where
  validates : ∀ actionHandler actionId,
    Program.Moves env (Unmoved part) (handler.validateEvent actionHandler actionId)
  handles : ∀ event, Program.Moves env
    (fun before after => Unmoved part before.1 after.1) (handler.handleEvent event)

/-- The connection keeps a part of its tables, and the handler its state. -/
def HubUdpProcessor.Unmoved {A γ : Type} (part : Tables → γ) (before after : HubUdpProcessor A) : Prop :=
  Sql.Unmoved part before.database after.database ∧ after.actionHandler = before.actionHandler

namespace HubUdpProcessor
variable {A E α γ : Type} {env : Env} {handler : ActionHandler A E} {part : Tables → γ}

theorem unmoved_refl (self : HubUdpProcessor A) : self.Unmoved part self :=
  ⟨Sql.unmoved_refl self.database,rfl⟩

theorem unmoved_trans (a b c : HubUdpProcessor A) (first : a.Unmoved part b) (second : b.Unmoved part c) :
    a.Unmoved part c :=
  ⟨Sql.unmoved_trans _ _ _ first.1 second.1,second.2.trans first.2⟩

theorem moves_onDatabase {ε : Type} {wrap : ε → UdpProcessingError E}
    {session : Program Env Connection ε α} (moves : Program.Moves env (Sql.Unmoved part) session) :
    Program.Moves env (HubUdpProcessor.Unmoved part) (onDatabase (A := A) wrap session) :=
  Program.moves_zoom moves fun _ _ moved => ⟨moved,rfl⟩

theorem moves_validateMessage (message : UdpMessage) :
    Program.Moves env (HubUdpProcessor.Unmoved part) (validateMessage (A := A) (E := E) message) := by
  refine Program.moves_bind unmoved_trans (Program.moves_failIf unmoved_refl _ _) fun _ => ?_
  cases message with
  | event deviceId eventId actionId => exact Program.moves_failIf unmoved_refl _ _
  | hello deviceId => exact Program.moves_pure unmoved_refl _
  | heartbeat deviceId => exact Program.moves_pure unmoved_refl _
  | ack deviceId eventId => exact Program.moves_pure unmoved_refl _

theorem moves_isEnabledManagedDevice (stable : Stable env part) (deviceId : String) :
    Program.Moves env (HubUdpProcessor.Unmoved part)
      (isEnabledManagedDevice (A := A) (E := E) deviceId) := by
  refine Program.moves_bind unmoved_trans unmoved_refl fun self => ?_
  split
  · exact Program.moves_pure unmoved_refl _
  · exact Program.moves_bind unmoved_trans (moves_onDatabase (moves_query stable _)) fun _ =>
      Program.moves_pure unmoved_refl _

theorem moves_observeMessage (message : UdpMessage) (now : Nat) :
    Program.Moves env (HubUdpProcessor.Unmoved part) (observeMessage (A := A) (E := E) message now) := by
  refine Program.moves_bind unmoved_trans unmoved_refl fun self => ?_
  rcases self.state.observeMessage message now with ⟨outcome,state⟩
  refine Program.moves_bind unmoved_trans (fun _ => ⟨Sql.unmoved_refl _,rfl⟩) fun _ => ?_
  cases outcome with
  | ok => exact Program.moves_pure unmoved_refl _
  | error error => exact Program.moves_fail unmoved_refl _

end HubUdpProcessor

/-- Adding an event: the row goes to the end of the history, unless its key is known. -/
theorem insertEvent_run {env : Env} (stable : Stable env history) (row : EventRow)
    (self : Connection) (idle : self.working = none) :
    (Unmoved history self (insertEvent row env self).2 ∧
      ((insertEvent row env self).1 = .ok false →
        ∃ old ∈ history self.committed, old.deviceId = row.deviceId ∧ old.eventId = row.eventId) ∧
      (insertEvent row env self).1 ≠ .ok true) ∨
    ((insertEvent row env self).1 = .ok true ∧ (insertEvent row env self).2.working = none ∧
      history (insertEvent row env self).2.committed = history self.committed ++ [row] ∧
      ¬ ∃ old ∈ history self.committed, old.deviceId = row.deviceId ∧ old.eventId = row.eventId) := by
  have ticked := unmoved_tick stable self
  obtain ⟨idle',same⟩ := ticked idle
  simp only [history] at same ⊢
  simp only [insertEvent,execute]
  cases env.fault self.clock with
  | some fault =>
    refine .inl ⟨unmoved_trans _ _ _ ticked (unmoved_fail _ fault),?_,?_⟩ <;>
      cases fault <;> simp [Connection.fail]
  | none =>
    have view : (self.tick env).view = (self.tick env).committed := by
      simp [Connection.view,idle']
    simp only [view,Tables.insertEvent,same]
    split_ifs with known
    · refine .inl ⟨?_,fun _ => known,by simp⟩
      intro _
      simpa [history,Connection.put,idle',Connection.commit] using same
    · cases checked : Tables.constrained ((self.tick env).committed.hasDevice row.deviceId)
          (true,{ (self.tick env).committed with events := self.committed.events ++ [row] }) with
      | error error => exact .inl ⟨fun _ => ⟨idle',same⟩,by simp,by simp⟩
      | ok result =>
        obtain ⟨-,rfl⟩ := Tables.constrained_ok.mp checked
        exact .inr ⟨rfl,by simp [Connection.put,idle',Connection.commit],
          by simp [Connection.put,idle',Connection.commit],known⟩

/-- A new processor has read its devices and nothing else. -/
theorem fromDatabase_ok {A γ : Type} {env : Env} {part : Tables → γ} (stable : Stable env part)
    {connection : Connection} {initialWaitStartedAt offlineTimeout : Nat} {actionHandler : A}
    {processor : HubUdpProcessor A} (opened : HubUdpProcessor.fromDatabase connection initialWaitStartedAt
      offlineTimeout actionHandler env = .ok processor) :
    Unmoved part connection processor.database ∧ processor.actionHandler = actionHandler := by
  have moves : Program.Moves env (Unmoved part)
      (CommunicationStateManager.fromDatabase initialWaitStartedAt offlineTimeout) :=
    Program.moves_bind unmoved_trans (moves_query stable _) fun _ => unmoved_refl
  have moved := moves connection
  unfold HubUdpProcessor.fromDatabase at opened
  rcases ran : CommunicationStateManager.fromDatabase initialWaitStartedAt offlineTimeout env connection
    with ⟨error | state,database⟩ <;> rw [ran] at opened moved <;> cases opened
  exact ⟨moved,rfl⟩

/-! ### One datagram -/

/-- Nothing was stored, and an accepted event was known. -/
structure Untouched {A E : Type} (before : HubUdpProcessor A)
    (result : Except (UdpProcessingError E) (PacketOutcome E) × HubUdpProcessor A) : Prop where
  unmoved : before.Unmoved history result.2
  known : ∀ deviceId eventId duplicate status ack,
    result.1 = .ok (.eventAccepted deviceId eventId duplicate status ack) →
      duplicate = true ∧ ack = .ack deviceId eventId ∧
        Known (history before.database.committed) deviceId eventId

/-- The event was new: its row was added, and then the handler was called with it. -/
structure Stored {A E : Type} (handler : ActionHandler A E) (env : Env) (payload : List UInt8)
    (receivedAt : String) (deviceId : DeviceId) (eventId : EventId) (actionId : ActionId)
    (text : String) (between : Connection) (before : HubUdpProcessor A)
    (result : Except (UdpProcessingError E) (PacketOutcome E) × HubUdpProcessor A) : Prop where
  decoded : Utf8.decode payload = some text
  fresh : ¬ Known (history before.database.committed) deviceId eventId
  idle : between.working = none
  added : history between.committed = history before.database.committed ++
    [{ receivedAt,deviceId := deviceId.val,eventId := eventId.val,payload := text }]
  handled : (result.2.database,result.2.actionHandler) = (handler.handleEvent
    { deviceId := deviceId.val,eventId := eventId.val,actionId,payload := text } env
    (between,before.actionHandler)).2
  accepted : ∃ status, result.1 =
    .ok (.eventAccepted deviceId eventId false status (.ack deviceId eventId))

namespace HubUdpProcessor
variable {A E : Type} {env : Env} {handler : ActionHandler A E}

theorem processEvent_effect (handler : ActionHandler A E) (stable : Stable env history) (payload : List UInt8)
    (receivedAt : String) (deviceId : DeviceId) (eventId : EventId) (actionId : ActionId)
    (self : HubUdpProcessor A) (idle : self.database.working = none) :
    Untouched self (processEvent handler payload receivedAt deviceId eventId actionId env self) ∨
      ∃ text between, Stored handler env payload receivedAt deviceId eventId actionId text between self
        (processEvent handler payload receivedAt deviceId eventId actionId env self) := by
  unfold processEvent
  cases decoded : Utf8.decode payload with
  | none => exact .inl ⟨unmoved_refl self,fun _ _ _ _ _ accepted => (by cases accepted)⟩
  | some text =>
    let row : EventRow := { receivedAt,deviceId := deviceId.val,eventId := eventId.val,payload := text }
    have effect := insertEvent_run stable row self.database idle
    simp only [Program.bind_run]
    simp only [onDatabase,Program.zoom]
    rcases ran : insertEvent row env self.database with ⟨error | inserted,database⟩
    · rw [ran] at effect
      rcases effect with ⟨moved,-,-⟩ | ⟨ok,-⟩
      · exact .inl ⟨⟨moved,rfl⟩,fun _ _ _ _ _ accepted => (by cases accepted)⟩
      · cases ok
    · rw [ran] at effect
      rcases effect with ⟨moved,dup,notNew⟩ | ⟨ok,idle',added,fresh⟩
      · cases inserted with
        | true => exact absurd rfl notNew
        | false =>
          refine .inl ⟨⟨moved,rfl⟩,fun _ _ _ _ _ accepted => ?_⟩
          cases accepted
          exact ⟨rfl,rfl,dup rfl⟩
      · cases ok
        refine .inr ⟨text,database,?_⟩
        exact {
          decoded
          fresh
          idle := idle'
          added
          handled := by
            simp only [Bool.true_eq_false,if_false,Program.bind_run,Program.attempt_run,Program.zoom]
            rcases handler.handleEvent _ env (database,self.actionHandler) with ⟨error | value,state⟩ <;> rfl
          accepted := by
            simp only [Bool.true_eq_false,if_false,Program.bind_run,Program.attempt_run,Program.zoom]
            rcases handler.handleEvent _ env (database,self.actionHandler) with ⟨error | value,state⟩ <;>
              exact ⟨_,rfl⟩ }

theorem getEvent_known (stable : Stable env history) {deviceId : DeviceId} {eventId : EventId}
    {self : Connection} {next : Connection} {found : Option EventRow} (idle : self.working = none)
    (read : getEvent deviceId.val eventId.val env self = (.ok found,next)) (isSome : found ≠ none) :
    Known (history self.committed) deviceId eventId := by
  obtain ⟨idle',same⟩ := unmoved_tick stable self idle
  simp only [getEvent,query] at read
  cases faulted : env.fault self.clock with
  | some fault => cases fault <;> simp [faulted,Connection.fail] at read
  | none =>
    simp only [faulted,Connection.view,idle',Option.getD_none,Prod.mk.injEq,Except.ok.injEq] at read
    obtain ⟨row,some⟩ := Option.ne_none_iff_exists'.mp isSome
    rw [some] at read
    have member := List.mem_of_find?_eq_some read.1
    have keys := List.find?_some read.1
    refine ⟨row,?_,by simpa using keys⟩
    rw [← same]
    exact member

theorem moves_checkEvent {γ : Type} {part : Tables → γ} (stable : Stable env part) (keeps : handler.Keeps part env)
    (message : UdpMessage) (now : Nat) :
    Program.Moves env (Unmoved part) (checkEvent handler message now) := by
  cases message with
  | event deviceId eventId actionId =>
    refine Program.moves_bind unmoved_trans (moves_onDatabase (moves_query stable _)) fun known => ?_
    split
    · exact Program.moves_bind unmoved_trans (moves_observeMessage _ now) fun _ =>
        Program.moves_pure unmoved_refl _
    · refine Program.moves_bind unmoved_trans unmoved_refl fun self => ?_
      exact Program.moves_bind unmoved_trans (moves_onDatabase (keeps.validates _ _)) fun _ =>
        Program.moves_pure unmoved_refl _
  | hello deviceId => exact Program.moves_pure unmoved_refl _
  | heartbeat deviceId => exact Program.moves_pure unmoved_refl _
  | ack deviceId eventId => exact Program.moves_pure unmoved_refl _

/-- An event answered before it is observed was in the history. -/
theorem checkEvent_answered {message : UdpMessage} {now : Nat} {outcome : PacketOutcome E}
    {self next : HubUdpProcessor A}
    (answered : checkEvent handler message now env self = (.ok (some outcome),next)) :
    ∃ deviceId eventId actionId found database, message = .event deviceId eventId actionId ∧
      outcome = .eventAccepted deviceId eventId true .skippedDuplicate (.ack deviceId eventId) ∧
      getEvent deviceId.val eventId.val env self.database = (.ok found,database) ∧ found ≠ none := by
  cases message with
  | event deviceId eventId actionId =>
    obtain ⟨found,between,read,rest⟩ := Program.bind_eq_ok.mp answered
    simp only [onDatabase,Program.zoom] at read
    rcases ran : getEvent deviceId.val eventId.val env self.database with ⟨error | row,database⟩
    · simp [ran] at read
    · simp only [ran,Prod.mk.injEq,Except.ok.injEq] at read
      obtain ⟨rfl,-⟩ := read
      split at rest
      next known =>
        obtain ⟨_,_,-,rest⟩ := Program.bind_eq_ok.mp rest
        cases rest
        exact ⟨_,_,_,_,_,rfl,rfl,ran,known⟩
      next =>
        obtain ⟨_,_,-,rest⟩ := Program.bind_eq_ok.mp rest
        obtain ⟨_,_,-,rest⟩ := Program.bind_eq_ok.mp rest
        cases rest
  | hello deviceId => cases answered
  | heartbeat deviceId => cases answered
  | ack deviceId eventId => cases answered

theorem untouched_after {before middle : HubUdpProcessor A}
    {result : Except (UdpProcessingError E) (PacketOutcome E) × HubUdpProcessor A}
    (untouched : Untouched middle result) (moved : before.Unmoved history middle)
    (idle : before.database.working = none) : Untouched before result where
  unmoved := unmoved_trans _ _ _ moved untouched.unmoved
  known deviceId eventId duplicate status ack accepted := by
    rw [← (moved.1 idle).2]
    exact untouched.known _ _ _ _ _ accepted

theorem stored_after {payload : List UInt8} {receivedAt : String} {deviceId : DeviceId}
    {eventId : EventId} {actionId : ActionId} {text : String} {between : Connection}
    {before middle : HubUdpProcessor A}
    {result : Except (UdpProcessingError E) (PacketOutcome E) × HubUdpProcessor A}
    (stored : Stored handler env payload receivedAt deviceId eventId actionId text between middle result)
    (moved : before.Unmoved history middle) (idle : before.database.working = none) :
    Stored handler env payload receivedAt deviceId eventId actionId text between before result := by
  have same := (moved.1 idle).2
  obtain ⟨decoded,fresh,closed,added,handled,accepted⟩ := stored
  rw [same] at fresh added
  rw [moved.2] at handled
  exact ⟨decoded,fresh,closed,added,handled,accepted⟩

theorem processMessage_effect (stable : Stable env history) (keeps : handler.Keeps history env)
    (payload : List UInt8) (now : Nat) (receivedAt : String) (message : UdpMessage)
    (self : HubUdpProcessor A) (idle : self.database.working = none) :
    Untouched self (processMessage handler payload now receivedAt message env self) ∨
      ∃ deviceId eventId actionId text between, message = .event deviceId eventId actionId ∧
        Stored handler env payload receivedAt deviceId eventId actionId text between self
          (processMessage handler payload now receivedAt message env self) := by
  have moves := moves_checkEvent stable keeps message now self
  unfold processMessage
  simp only [Program.bind_run]
  rcases checked : checkEvent handler message now env self with ⟨error | answer,between⟩
  · rw [checked] at moves
    exact .inl ⟨moves,fun _ _ _ _ _ accepted => (by cases accepted)⟩
  rw [checked] at moves
  cases answer with
  | some outcome =>
    obtain ⟨deviceId,eventId,_,_,_,-,rfl,read,found⟩ := checkEvent_answered checked
    refine .inl ⟨moves,fun _ _ _ _ _ accepted => ?_⟩
    cases accepted
    exact ⟨rfl,rfl,getEvent_known stable idle read found⟩
  | none =>
    have observed : between.Unmoved history (observeMessage (A := A) (E := E) message now env between).2 :=
      moves_observeMessage message now between
    simp only [Program.bind_run]
    rcases ran : observeMessage (A := A) (E := E) message now env between with ⟨error | value,seen⟩
    · rw [ran] at observed
      exact .inl ⟨unmoved_trans _ _ _ moves observed,fun _ _ _ _ _ accepted => (by cases accepted)⟩
    rw [ran] at observed
    have moved := unmoved_trans _ _ _ moves observed
    cases message with
    | hello deviceId => exact .inl ⟨moved,fun _ _ _ _ _ accepted => (by cases accepted)⟩
    | heartbeat deviceId => exact .inl ⟨moved,fun _ _ _ _ _ accepted => (by cases accepted)⟩
    | ack deviceId eventId => exact .inl ⟨moved,fun _ _ _ _ _ accepted => (by cases accepted)⟩
    | event deviceId eventId actionId =>
      have effect := processEvent_effect handler stable payload receivedAt deviceId eventId actionId seen
        (moved.1 idle).1
      rcases effect with untouched | ⟨text,stored,effect⟩
      · exact .inl (untouched_after untouched moved idle)
      · exact .inr ⟨_,_,_,text,stored,rfl,stored_after effect moved idle⟩

/-- What one datagram does: nothing, or one new row and one call of the handler. -/
theorem processDatagram_effect (skip : Reader Unit) (stable : Stable env history)
    (keeps : handler.Keeps history env) (payload : List UInt8) (now : Nat) (receivedAt : String)
    (self : HubUdpProcessor A) (idle : self.database.working = none) :
    Untouched self (processDatagram skip handler payload now receivedAt env self) ∨
      ∃ deviceId eventId actionId text between,
        decode (UdpMessage.codec skip) payload = .ok (.event deviceId eventId actionId) ∧
        Stored handler env payload receivedAt deviceId eventId actionId text between self
          (processDatagram skip handler payload now receivedAt env self) := by
  unfold processDatagram
  cases decoded : decode (UdpMessage.codec skip) payload with
  | error error => exact .inl ⟨unmoved_refl self,fun _ _ _ _ _ accepted => (by cases accepted)⟩
  | ok message =>
    have valid : self.Unmoved history (validateMessage (A := A) (E := E) message env self).2 :=
      moves_validateMessage message self
    simp only [Program.bind_run]
    rcases outcome : validateMessage (A := A) (E := E) message env self with ⟨error | value,checked⟩
    · rw [outcome] at valid
      exact .inl ⟨valid,fun _ _ _ _ _ accepted => (by cases accepted)⟩
    rw [outcome] at valid
    have enabled := moves_isEnabledManagedDevice (A := A) (E := E) stable (deviceIdOf message).val checked
    simp only
    rcases outcome : isEnabledManagedDevice (A := A) (E := E) (deviceIdOf message).val env checked
      with ⟨error | managed,looked⟩
    · rw [outcome] at enabled
      exact .inl ⟨unmoved_trans _ _ _ valid enabled,fun _ _ _ _ _ accepted => (by cases accepted)⟩
    rw [outcome] at enabled
    have moved := unmoved_trans _ _ _ valid enabled
    simp only
    split_ifs
    · exact .inl ⟨moved,fun _ _ _ _ _ accepted => (by cases accepted)⟩
    · exact .inl ⟨moved,fun _ _ _ _ _ accepted => (by cases accepted)⟩
    · rcases processMessage_effect stable keeps payload now receivedAt message looked (moved.1 idle).1
        with untouched | ⟨deviceId,eventId,actionId,text,between,rfl,stored⟩
      · exact .inl (untouched_after untouched moved idle)
      · exact .inr ⟨_,_,_,text,between,rfl,stored_after stored moved idle⟩

/-! ### The configuration stays -/

theorem along_config (stable : Stable env config) (keeps : handler.Keeps config env) (now : Nat) :
    Along env handler (fun _ => True) now fun before after =>
      Sql.Unmoved config before.database after.database where
  refl _ := Sql.unmoved_refl _
  trans _ _ _ := Sql.unmoved_trans _ _ _
  reads read self := moves_query stable read self.database
  inserts event self := by
    refine moves_execute stable (fun tables value next ok => ?_) self.database
    unfold Tables.insertEvent at ok
    split at ok
    · cases ok
      rfl
    · rw [(Prod.mk.inj (Tables.constrained_ok.mp ok).2).2]
      rfl
  validates actionHandler actionId self := keeps.validates actionHandler actionId self.database
  handles event self := keeps.handles event (self.database,self.actionHandler)
  observes _ _ _ := Sql.unmoved_refl _

/-- A datagram leaves the configuration as it is. -/
theorem moves_processDatagram (skip : Reader Unit) (stable : Stable env config)
    (keeps : handler.Keeps config env) (payload : List UInt8) (now : Nat) (receivedAt : String) :
    Program.Moves env (fun before after => Sql.Unmoved config before.database after.database)
      (processDatagram skip handler payload now receivedAt) :=
  along_processDatagram (along_config stable keeps now) (fun _ _ => trivial) receivedAt

/-! ### Accepted events -/

theorem processEvent_accepted {payload : List UInt8} {receivedAt : String} {deviceId found : DeviceId}
    {eventId known : EventId} {actionId : ActionId} {duplicate : Bool}
    {status : ActionExecutionStatus E} {ack : UdpMessage} {self next : HubUdpProcessor A}
    (accepted : processEvent handler payload receivedAt deviceId eventId actionId env self =
      (.ok (.eventAccepted found known duplicate status ack),next)) :
    found = deviceId ∧ known = eventId ∧ ack = .ack deviceId eventId := by
  unfold processEvent at accepted
  cases decoded : Utf8.decode payload with
  | none => rw [decoded] at accepted; cases accepted
  | some text =>
    rw [decoded] at accepted
    obtain ⟨inserted,_,-,rest⟩ := Program.bind_eq_ok.mp accepted
    simp only at rest
    split at rest
    · cases rest
      exact ⟨rfl,rfl,rfl⟩
    · obtain ⟨_,_,-,rest⟩ := Program.bind_eq_ok.mp rest
      cases rest
      exact ⟨rfl,rfl,rfl⟩

/-- An accepted datagram decodes to the event that its outcome and its ACK name. -/
theorem processDatagram_accepted {skip : Reader Unit} {payload : List UInt8} {now : Nat}
    {receivedAt : String} {deviceId : DeviceId} {eventId : EventId} {duplicate : Bool}
    {status : ActionExecutionStatus E} {ack : UdpMessage} {self next : HubUdpProcessor A}
    (accepted : processDatagram skip handler payload now receivedAt env self =
      (.ok (.eventAccepted deviceId eventId duplicate status ack),next)) :
    ack = .ack deviceId eventId ∧
      ∃ actionId, decode (UdpMessage.codec skip) payload = .ok (.event deviceId eventId actionId) := by
  unfold processDatagram at accepted
  cases decoded : decode (UdpMessage.codec skip) payload with
  | error error => rw [decoded] at accepted; cases accepted
  | ok message =>
    rw [decoded] at accepted
    obtain ⟨_,_,-,rest⟩ := Program.bind_eq_ok.mp accepted
    obtain ⟨enabled,looked,-,rest⟩ := Program.bind_eq_ok.mp rest
    split_ifs at rest
    · cases rest
    · cases rest
    · obtain ⟨answer,checked,asked,rest⟩ := Program.bind_eq_ok.mp rest
      cases answer with
      | some outcome =>
        cases rest
        obtain ⟨_,_,actionId,_,_,rfl,same,-⟩ := checkEvent_answered asked
        cases same
        exact ⟨rfl,actionId,rfl⟩
      | none =>
        obtain ⟨_,_,-,rest⟩ := Program.bind_eq_ok.mp rest
        cases message with
        | hello deviceId => cases rest
        | heartbeat deviceId => cases rest
        | ack deviceId eventId => cases rest
        | event _ _ actionId =>
          obtain ⟨rfl,rfl,rfl⟩ := processEvent_accepted rest
          exact ⟨rfl,actionId,rfl⟩

/-- An event that is not answered at once has passed its handler's check. -/
theorem checkEvent_passed {γ : Type} {part : Tables → γ} (stable : Stable env part) {now : Nat}
    {deviceId : DeviceId} {eventId : EventId} {actionId : ActionId} {self next : HubUdpProcessor A}
    (passed : checkEvent handler (.event deviceId eventId actionId) now env self = (.ok none,next)) :
    ∃ connection connection', Sql.Unmoved part self.database connection ∧
      handler.validateEvent self.actionHandler actionId env connection = (.ok (),connection') := by
  obtain ⟨found,looked,read,rest⟩ := Program.bind_eq_ok.mp passed
  have moved : self.Unmoved part looked :=
    Program.moves_ran (moves_onDatabase (moves_query stable _)) read
  split at rest
  · obtain ⟨_,_,-,rest⟩ := Program.bind_eq_ok.mp rest
    cases rest
  · obtain ⟨_,_,got,rest⟩ := Program.bind_eq_ok.mp rest
    cases got
    obtain ⟨⟨⟩,_,checked,-⟩ := Program.bind_eq_ok.mp rest
    simp only [onDatabase,Program.zoom] at checked
    rcases ran : handler.validateEvent looked.actionHandler actionId env looked.database with
      ⟨error | value,connection'⟩ <;> rw [ran] at checked <;> cases checked
    exact ⟨_,_,moved.1,by rw [← moved.2,ran]⟩

/-- A new event has passed its handler's check. -/
theorem processDatagram_passed {γ : Type} {part : Tables → γ} {skip : Reader Unit} (stable : Stable env part)
    {payload : List UInt8} {now : Nat} {receivedAt : String} {deviceId : DeviceId} {eventId : EventId}
    {actionId : ActionId} {status : ActionExecutionStatus E} {ack : UdpMessage} {self next : HubUdpProcessor A}
    (decoded : decode (UdpMessage.codec skip) payload = .ok (.event deviceId eventId actionId))
    (accepted : processDatagram skip handler payload now receivedAt env self =
      (.ok (.eventAccepted deviceId eventId false status ack),next)) :
    ∃ connection connection', Sql.Unmoved part self.database connection ∧
      handler.validateEvent self.actionHandler actionId env connection = (.ok (),connection') := by
  unfold processDatagram at accepted
  rw [decoded] at accepted
  obtain ⟨_,valid,validated,rest⟩ := Program.bind_eq_ok.mp accepted
  obtain ⟨enabled,looked,managed,rest⟩ := Program.bind_eq_ok.mp rest
  have moved : self.Unmoved part looked := unmoved_trans _ _ _
    (Program.moves_ran (moves_validateMessage _) validated)
    (Program.moves_ran (moves_isEnabledManagedDevice stable _) managed)
  split_ifs at rest
  · cases rest
  · cases rest
  · obtain ⟨answer,checked,asked,rest⟩ := Program.bind_eq_ok.mp rest
    cases answer with
    | some outcome =>
      cases rest
      obtain ⟨_,_,_,_,_,-,same,-⟩ := checkEvent_answered asked
      cases same
    | none =>
      obtain ⟨connection,connection',reached,passed⟩ := checkEvent_passed stable asked
      rw [moved.2] at passed
      exact ⟨connection,connection',Sql.unmoved_trans _ _ _ moved.1 reached,passed⟩

end HubUdpProcessor

end UchiPulse.Hub
