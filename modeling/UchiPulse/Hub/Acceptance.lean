import UchiPulse.Hub.Ack
import UchiPulse.Hub.Checks
import UchiPulse.Hub.Validation
import UchiPulse.Lib.Skipper

/-! Which events are accepted, and which only answered. -/
namespace UchiPulse.Hub
open Common Db Sql Json

theorem device_hasDevice {tables : Tables} {deviceId : String} {row : DeviceRow}
    (found : tables.device deviceId = some row) : tables.hasDevice deviceId := by
  unfold Tables.device at found
  exact ⟨row,List.mem_of_find?_eq_some found,by simpa using List.find?_some found⟩

/-- The row of a new event is refused. -/
def Refused (env : Env) (database : Connection) (payload : List UInt8) (deviceId : DeviceId) : Prop :=
  Utf8.decode payload = none ∨ env.fault database.clock ≠ none ∨ ¬ (database.seen env 1).hasDevice deviceId.val

/-- A new event is added unless the statement fails or its device is gone. -/
theorem insertEvent_fresh {env : Env} (row : EventRow) {self : Connection} (idle : self.working = none)
    (fresh : ¬ ∃ old ∈ history (self.seen env 1), old.deviceId = row.deviceId ∧ old.eventId = row.eventId) :
    (env.fault self.clock ≠ none ∨ ¬ (self.seen env 1).hasDevice row.deviceId →
      ∃ error, (insertEvent row env self).1 = .error error) ∧
    (env.fault self.clock = none → (self.seen env 1).hasDevice row.deviceId → (insertEvent row env self).1 = .ok true) := by
  have view : (self.tick env).view = self.seen env 1 := view_ticks idle 1
  simp only [history] at fresh
  simp only [insertEvent,execute]
  cases env.fault self.clock with
  | some fault => cases fault <;> simp [Connection.fail]
  | none =>
    simp only [view,Tables.insertEvent,if_neg fresh,Tables.constrained]
    by_cases known : (self.seen env 1).hasDevice row.deviceId
    · simp [known]
    · simp [known]

namespace HubUdpProcessor
variable {env : Env} {self : HubUdpProcessor ActionEngine} {payload : List UInt8} {deviceId : DeviceId}
  {eventId : EventId}

/-- How a new event ends that passed every check. -/
theorem processEvent_fresh (self : HubUdpProcessor ActionEngine) (payload : List UInt8) (receivedAt : String)
    (actionId : ActionId) (idle : self.database.working = none)
    (fresh : ¬ Known (history (self.database.seen env 1)) deviceId eventId) :
    let result := processEvent ActionEngine.handler payload receivedAt deviceId eventId actionId env self
    (Refused env self.database payload deviceId → ∃ error, result.1 = .error error) ∧
      (¬ Refused env self.database payload deviceId →
        ∃ status, result.1 = .ok (.eventAccepted deviceId eventId false status (.ack deviceId eventId))) := by
  unfold Refused processEvent
  cases decoded : Utf8.decode payload with
  | none => exact ⟨fun _ => ⟨_,rfl⟩,fun kept => absurd (.inl rfl) kept⟩
  | some text =>
    let row : EventRow := { receivedAt,deviceId := deviceId.val,eventId := eventId.val,payload := text }
    obtain ⟨refused,added⟩ := insertEvent_fresh row idle fresh
    simp only [Program.bind_run,onDatabase,Program.zoom]
    by_cases kept : env.fault self.database.clock = none ∧ (self.database.seen env 1).hasDevice deviceId.val
    · have ran : insertEvent row env self.database = (.ok true,_) := Program.result_eq (added kept.1 kept.2)
      refine ⟨fun refused => ?_,fun _ => ?_⟩
      · rcases refused with binary | fault | gone
        · cases binary
        · exact absurd kept.1 fault
        · exact absurd kept.2 gone
      · rw [ran]
        exact ⟨_,rfl⟩
    · obtain ⟨error,failed⟩ := refused (by rwa [ne_eq,← not_and_or])
      have ran : insertEvent row env self.database = (.error error,_) := Program.result_eq failed
      refine ⟨fun _ => ?_,fun passed => ?_⟩
      · rw [ran]
        exact ⟨_,rfl⟩
      · exact absurd (.inr (by rwa [ne_eq,← not_and_or])) passed

/-- A datagram that is turned away leaves history and business state. -/
theorem rejected_untouched {skip : Reader Unit} {now : Nat} {receivedAt : String} (stable : Stable env history)
    (idle : self.database.working = none)
    (rejected : Rejected (processDatagram skip ActionEngine.handler payload now receivedAt env self).1) :
    self.Unmoved history (processDatagram skip ActionEngine.handler payload now receivedAt env self).2 := by
  rcases processDatagram_effect skip stable (keeps_handler stable) payload now receivedAt self idle with
    untouched | ⟨_,_,_,_,_,-,stored⟩
  · exact untouched.unmoved
  · obtain ⟨status,accepted⟩ := stored.accepted
    rw [accepted] at rejected
    exact rejected.elim

end HubUdpProcessor

/-! ### The devices of a running hub -/

/-- One datagram after the other, whatever befalls the database meanwhile. -/
inductive Serves {A E : Type} (skip : Reader Unit) (handler : ActionHandler A E) (start : HubUdpProcessor A) :
    HubUdpProcessor A → Prop where
  | waits : Serves skip handler start start
  | receives {self : HubUdpProcessor A} (serves : Serves skip handler start self) (payload : List UInt8) (now : Nat)
      (receivedAt : String) (env : Env) :
      Serves skip handler start (receive skip handler payload now receivedAt env self).2

section
variable {A E : Type} {env : Env}

def SameDevices (before after : HubUdpProcessor A) : Prop :=
  ∀ deviceId, (after.state.device deviceId).isSome = (before.state.device deviceId).isSome

theorem along_sameDevices (env : Env) (handler : ActionHandler A E) (now : Nat) :
    Along env handler (fun _ => True) now SameDevices where
  refl _ _ := rfl
  trans _ _ _ first second deviceId := (second deviceId).trans (first deviceId)
  reads _ _ _ := rfl
  inserts _ _ _ := rfl
  validates _ _ _ _ := rfl
  handles _ _ _ := rfl
  observes message _ self := self.state.observeMessage_managed message now

theorem serves_sameDevices {skip : Reader Unit} {handler : ActionHandler A E} {start self : HubUdpProcessor A}
    (serves : Serves skip handler start self) : SameDevices start self := by
  induction serves with
  | waits => exact fun _ => rfl
  | @receives self serves payload now receivedAt env ih =>
    have processed : SameDevices self (HubUdpProcessor.processDatagram skip handler payload now receivedAt env self).2 :=
      HubUdpProcessor.along_processDatagram (along_sameDevices env handler now) (fun _ _ => trivial) receivedAt self
    intro deviceId
    rcases receive_after skip handler payload now receivedAt env self with same | same
    · rw [same]
      exact (processed deviceId).trans (ih deviceId)
    · rw [same]
      exact Option.isSome_map.trans ((processed deviceId).trans (ih deviceId))

/-- The hub manages the devices that were enabled when it started, as long as it runs. -/
theorem managed_at_startup {skip : Reader Unit} {handler : ActionHandler A E} {connection : Connection}
    {waitStartedAt offlineTimeout : Nat} {actionHandler : A} {start self : HubUdpProcessor A} (quiet : Quiet env)
    (idle : connection.working = none)
    (built : HubUdpProcessor.fromDatabase connection waitStartedAt offlineTimeout actionHandler env = .ok start)
    (serves : Serves skip handler start self) (deviceId : String) :
    self.state.device deviceId ≠ none ↔
      ∃ row ∈ connection.committed.devices, row.deviceId = deviceId ∧ row.enabled = true := by
  have same := serves_sameDevices serves deviceId
  rw [← Option.isSome_iff_ne_none,same]
  have listed : listEnabledDevices env connection =
      (.ok connection.committed.enabledDevices,{ connection with clock := connection.clock + 1 }) := by
    rw [listEnabledDevices,query_quiet quiet,Connection.view,idle]
    rfl
  simp only [HubUdpProcessor.fromDatabase,CommunicationStateManager.fromDatabase,Program.bind_run,listed,
    Program.pure_run,Except.ok.injEq] at built
  rw [← built]
  have known : (connection.committed.enabledDevices.any (·.deviceId = deviceId)) = true ↔
      ∃ row ∈ connection.committed.devices, row.deviceId = deviceId ∧ row.enabled = true := by
    simp only [Tables.enabledDevices,List.any_eq_true,List.mem_insertionSort,List.mem_filter,decide_eq_true_eq]
    constructor
    · rintro ⟨row,⟨member,on⟩,named⟩
      exact ⟨row,member,named,on⟩
    · rintro ⟨row,member,named,on⟩
      exact ⟨row,⟨member,on⟩,named⟩
  rw [← known]
  simp only [CommunicationStateManager.device]
  split <;> simp [*]

end

/-- A new event that these tables let in, with the text of its datagram. -/
structure Acceptable (skip : Reader Unit) (state : CommunicationStateManager) (tables : Tables) (payload : List UInt8)
    (deviceId : DeviceId) (eventId : EventId) (actionId : ActionId) (row : ActionRow) (text : String) : Prop where
  offered : Offered skip state tables payload deviceId eventId actionId
  fresh : ¬ Known (history tables) deviceId eventId
  usable : Usable tables tables tables actionId row
  text : Utf8.decode payload = some text

section
variable {skip : Reader Unit} {env : Env} {processor : HubUdpProcessor ActionEngine} {payload : List UInt8}
  {deviceId : DeviceId} {eventId : EventId} {actionId : ActionId} {row : ActionRow}

theorem passes_quiet (quiet : Quiet env) :
    Passes skip env processor payload deviceId eventId actionId row ↔
      Offered skip processor.state processor.database.committed payload deviceId eventId actionId ∧
      ¬ Known (history processor.database.committed) deviceId eventId ∧
      Usable processor.database.committed processor.database.committed processor.database.committed actionId row := by
  constructor
  · rintro ⟨offered,fresh,usable,-⟩
    simp only [seen_quiet quiet] at offered fresh usable
    exact ⟨offered,fresh,usable⟩
  · rintro ⟨offered,fresh,usable⟩
    refine ⟨?_,?_,?_,undisturbed_quiet quiet _⟩
    all_goals simpa only [seen_quiet quiet]

/-- An acceptable event is stored. -/
theorem acceptable_stored {text : String} (now : Nat) (receivedAt : String) (quiet : Quiet env)
    (idle : processor.database.working = none)
    (acceptable : Acceptable skip processor.state processor.database.committed payload deviceId eventId actionId row text) :
    ∃ between, Stored ActionEngine.handler env payload receivedAt deviceId eventId actionId text between processor
      (HubUdpProcessor.processDatagram skip ActionEngine.handler payload now receivedAt env processor) := by
  have stable : Stable env history := stable_of_alone quiet.others
  obtain ⟨offered,fresh,usable,decoded⟩ := acceptable
  have passes := (passes_quiet quiet).mpr ⟨offered,fresh,usable⟩
  have accepted : ∃ status, (HubUdpProcessor.processDatagram skip ActionEngine.handler payload now receivedAt env
      processor).1 = .ok (.eventAccepted deviceId eventId false status (.ack deviceId eventId)) := by
    rw [HubUdpProcessor.processDatagram_passes idle passes]
    refine (HubUdpProcessor.processEvent_fresh _ payload receivedAt actionId ((ticks_working _).trans idle) ?_).2 ?_
    · rw [seen_ticks,seen_quiet quiet]
      exact fresh
    · rintro (binary | fault | gone)
      · rw [decoded] at binary
        cases binary
      · exact absurd (quiet.fault _) fault
      · obtain ⟨device,found,-⟩ := offered.enabled
        rw [seen_ticks,seen_quiet quiet] at gone
        exact gone (device_hasDevice found)
  obtain ⟨status,accepted⟩ := accepted
  rcases HubUdpProcessor.processDatagram_effect skip stable (keeps_handler stable) payload now receivedAt processor idle
    with untouched | ⟨_,_,_,text',between,same,stored⟩
  · obtain ⟨duplicate,-⟩ := untouched.known _ _ _ _ _ accepted
    cases duplicate
  · cases offered.decoded.symm.trans same
    cases decoded.symm.trans stored.decoded
    exact ⟨between,stored⟩

/-- One row more, and the action has been called. -/
theorem acceptable_added {text : String} {now : Nat} {receivedAt : String} (quiet : Quiet env)
    (idle : processor.database.working = none)
    (acceptable : Acceptable skip processor.state processor.database.committed payload deviceId eventId actionId row text) :
    let result := HubUdpProcessor.processDatagram skip ActionEngine.handler payload now receivedAt env processor
    history result.2.database.committed = history processor.database.committed ++
        [{ receivedAt,deviceId := deviceId.val,eventId := eventId.val,payload := text }] ∧
      ∃ status, result.1 = .ok (.eventAccepted deviceId eventId false status (.ack deviceId eventId)) := by
  intro result
  have stable : Stable env history := stable_of_alone quiet.others
  obtain ⟨between,stored⟩ := acceptable_stored now receivedAt quiet idle acceptable
  have moved := (keeps_handler stable).handles
    { deviceId := deviceId.val,eventId := eventId.val,actionId,payload := text } (between,processor.actionHandler)
  rw [← stored.handled] at moved
  exact ⟨(moved stored.idle).2.trans stored.added,stored.accepted⟩

/-- A known event is answered, and nothing else happens but that its device is seen. -/
theorem known_answered {now : Nat} {receivedAt : String} (quiet : Quiet env) (idle : processor.database.working = none)
    (offered : Offered skip processor.state processor.database.committed payload deviceId eventId actionId)
    (known : Known (history processor.database.committed) deviceId eventId) :
    let result := HubUdpProcessor.processDatagram skip ActionEngine.handler payload now receivedAt env processor
    result.1 = .ok (.eventAccepted deviceId eventId true .skippedDuplicate (.ack deviceId eventId)) ∧
      history result.2.database.committed = history processor.database.committed ∧
      result.2.actionHandler = processor.actionHandler := by
  intro result
  rw [← seen_quiet quiet 1] at offered
  rw [← seen_quiet quiet 2] at known
  have answered : result = (_,_) :=
    HubUdpProcessor.processDatagram_answers idle (undisturbed_quiet quiet 2) offered known
  rw [answered]
  exact ⟨rfl,congrArg history (seen_quiet quiet 2),rfl⟩

/-- Without an acceptable and without a known event there is no ACK. -/
theorem nothing_accepted {now : Nat} {receivedAt : String} (quiet : Quiet env) (idle : processor.database.working = none)
    (none : ¬ ∃ deviceId eventId actionId row text,
      Acceptable skip processor.state processor.database.committed payload deviceId eventId actionId row text)
    (new : ∀ deviceId eventId actionId,
      Offered skip processor.state processor.database.committed payload deviceId eventId actionId →
        ¬ Known (history processor.database.committed) deviceId eventId)
    (duplicate : Bool) (status : ActionExecutionStatus ActionError) (ack : UdpMessage) :
    (HubUdpProcessor.processDatagram skip ActionEngine.handler payload now receivedAt env processor).1 ≠
      .ok (.eventAccepted deviceId eventId duplicate status ack) := by
  intro accepted
  rcases HubUdpProcessor.processDatagram_course idle rfl with
    ⟨rejected,-⟩ | greeted | ⟨device,event,action,offered,known,-⟩ | ⟨device,event,action,row,passes⟩
  · rw [accepted] at rejected
    exact rejected
  · rw [accepted] at greeted
    exact greeted
  · rw [seen_quiet quiet] at offered known
    exact new device event action offered known
  · obtain ⟨offered,fresh,usable⟩ := (passes_quiet quiet).mp passes
    cases decoded : Utf8.decode payload with
    | some text => exact none ⟨device,event,action,row,text,offered,fresh,usable,decoded⟩
    | none =>
      rw [HubUdpProcessor.processDatagram_passes idle passes] at accepted
      rw [HubUdpProcessor.processEvent,decoded] at accepted
      cases accepted

end

/-- On a database that does not fail, a datagram adds a row exactly when it is an acceptable
event; the row and the ACK carry its identifiers. A known event is only answered, whatever has
become of its action. Nothing else adds a row or is acknowledged. The devices that a running hub
manages are those that were enabled at its start. -/
theorem event_acceptance (skip : Reader Unit) {env : Env} (quiet : Quiet env) (processor : HubUdpProcessor ActionEngine)
    (idle : processor.database.working = none) (payload : List UInt8) (now : Nat) (receivedAt : String) :
    let tables := processor.database.committed
    let result := HubUdpProcessor.processDatagram skip ActionEngine.handler payload now receivedAt env processor
    let after := history result.2.database.committed
    (after ≠ history tables ↔ ∃ deviceId eventId actionId row text,
      Acceptable skip processor.state tables payload deviceId eventId actionId row text) ∧
    (∀ deviceId eventId actionId row text,
      Acceptable skip processor.state tables payload deviceId eventId actionId row text →
        after = history tables ++ [{ receivedAt,deviceId := deviceId.val,eventId := eventId.val,payload := text }] ∧
        ∃ status, result.1 = .ok (.eventAccepted deviceId eventId false status (.ack deviceId eventId))) ∧
    (∀ deviceId eventId actionId, Offered skip processor.state tables payload deviceId eventId actionId →
      Known (history tables) deviceId eventId →
        result.1 = .ok (.eventAccepted deviceId eventId true .skippedDuplicate (.ack deviceId eventId)) ∧
        after = history tables ∧ result.2.actionHandler = processor.actionHandler) ∧
    ((¬ ∃ deviceId eventId actionId row text,
        Acceptable skip processor.state tables payload deviceId eventId actionId row text) →
      (∀ deviceId eventId actionId, Offered skip processor.state tables payload deviceId eventId actionId →
        ¬ Known (history tables) deviceId eventId) →
      after = history tables ∧
        ∀ deviceId eventId duplicate status ack, result.1 ≠ .ok (.eventAccepted deviceId eventId duplicate status ack)) ∧
    (∀ connection startEnv waitStartedAt offlineTimeout start, Quiet startEnv → connection.working = none →
      HubUdpProcessor.fromDatabase connection waitStartedAt offlineTimeout .new startEnv = .ok start →
      Serves skip ActionEngine.handler start processor → ∀ deviceId,
        (processor.state.device deviceId ≠ none ↔
          ∃ row ∈ connection.committed.devices, row.deviceId = deviceId ∧ row.enabled = true)) := by
  intro tables result after
  have stable : Stable env history := stable_of_alone quiet.others
  have added : ∀ deviceId eventId actionId row text,
      Acceptable skip processor.state tables payload deviceId eventId actionId row text →
        after = history tables ++ [{ receivedAt,deviceId := deviceId.val,eventId := eventId.val,payload := text }] ∧
        ∃ status, result.1 = .ok (.eventAccepted deviceId eventId false status (.ack deviceId eventId)) :=
    fun _ _ _ _ _ acceptable => acceptable_added quiet idle acceptable
  have answered : ∀ deviceId eventId actionId, Offered skip processor.state tables payload deviceId eventId actionId →
      Known (history tables) deviceId eventId →
        result.1 = .ok (.eventAccepted deviceId eventId true .skippedDuplicate (.ack deviceId eventId)) ∧
        after = history tables ∧ result.2.actionHandler = processor.actionHandler :=
    fun _ _ _ offered known => known_answered quiet idle offered known
  have nothing (none : ¬ ∃ deviceId eventId actionId row text,
      Acceptable skip processor.state tables payload deviceId eventId actionId row text)
      (new : ∀ deviceId eventId actionId, Offered skip processor.state tables payload deviceId eventId actionId →
        ¬ Known (history tables) deviceId eventId) :
      after = history tables ∧
        ∀ deviceId eventId duplicate status ack, result.1 ≠ .ok (.eventAccepted deviceId eventId duplicate status ack) := by
    have silent (deviceId : DeviceId) (eventId : EventId) (duplicate : Bool)
        (status : ActionExecutionStatus ActionError) (ack : UdpMessage) :
        result.1 ≠ .ok (.eventAccepted deviceId eventId duplicate status ack) :=
      nothing_accepted quiet idle none new duplicate status ack
    refine ⟨?_,silent⟩
    rcases HubUdpProcessor.processDatagram_effect skip stable (keeps_handler stable) payload now receivedAt processor
      idle with untouched | ⟨deviceId,eventId,_,_,_,-,stored⟩
    · exact (untouched.unmoved.1 idle).2
    · obtain ⟨status,accepted⟩ := stored.accepted
      exact absurd accepted (silent deviceId eventId false status _)
  refine ⟨⟨fun changed => ?_,?_⟩,added,answered,nothing,fun connection startEnv waitStartedAt offlineTimeout start
    calm unused built serves deviceId => managed_at_startup calm unused built serves deviceId⟩
  · by_contra none
    by_cases new : ∀ deviceId eventId actionId,
        Offered skip processor.state tables payload deviceId eventId actionId →
          ¬ Known (history tables) deviceId eventId
    · exact changed (nothing none new).1
    · push Not at new
      obtain ⟨deviceId,eventId,actionId,offered,known⟩ := new
      exact changed (answered deviceId eventId actionId offered known).2.1
  · rintro ⟨deviceId,eventId,actionId,row,text,acceptable⟩
    rw [(added deviceId eventId actionId row text acceptable).1]
    simp

theorem event_acceptance_small :
    ∃ status, (HubUdpProcessor.processDatagram (fun _ => none) ActionEngine.handler plainEvent 0 "0" Db.Env.quiet
      smallHub).1 = .ok (.eventAccepted smallDevice firstEventId false status (.ack smallDevice firstEventId)) := by
  have quiet : Quiet Db.Env.quiet := Sql.Env.quiet_quiet _ _
  have offered : Offered (fun _ => none) smallHub.state smallHub.database.committed plainEvent smallDevice firstEventId
      1 := ⟨by decide +kernel,by decide,by decide,by decide,_,rfl,rfl⟩
  have usable : Usable smallHub.database.committed smallHub.database.committed smallHub.database.committed 1 _ :=
    ⟨rfl,rfl,by decide,fun change member => by cases member⟩
  have fresh : ¬ Known (history smallHub.database.committed) smallDevice firstEventId := fun ⟨row,member,_⟩ => by
    cases member
  have textual : (Utf8.decode plainEvent).isSome := by decide +kernel
  obtain ⟨text,decoded⟩ := Option.isSome_iff_exists.mp textual
  exact ((event_acceptance (fun _ => none) quiet smallHub rfl plainEvent 0 "0").2.1 smallDevice firstEventId 1 _ text
    ⟨offered,fresh,usable,decoded⟩).2

/-- The small hub's action has a state change that the schema lets in and no hub can read. -/
def moodHub : HubUdpProcessor ActionEngine where
  __ := smallHub
  database := .opened { smallHub.database.committed with
    stateChanges := [{ actionId := 1,stateType := "MOOD",stateValue := "GOOD" }] }

/-- An event with one more entry, whose value is a byte that belongs to no text. -/
def binaryEvent : List UInt8 := plainEvent.dropLast ++ [comma,quote,120,quote,colon,255,closeBrace]

/-- Both events are new and of an enabled device, and the action is enabled and its target
well formed; but neither is added. -/
theorem unread_events_not_added :
    (Tables.insertStateChange { actionId := 1,stateType := "MOOD",stateValue := "GOOD" } smallHub.database.committed =
        .ok ((),moodHub.database.committed) ∧
      Offered (fun _ => none) moodHub.state moodHub.database.committed plainEvent smallDevice firstEventId 1 ∧
      ¬ Known (history moodHub.database.committed) smallDevice firstEventId ∧
      (∃ row, moodHub.database.committed.action 1 = some row ∧ row.enabled = true ∧
        moodHub.database.committed.TargetOk row) ∧
      history (HubUdpProcessor.processDatagram (fun _ => none) ActionEngine.handler plainEvent 0 "0" Db.Env.quiet
        moodHub).2.database.committed = history moodHub.database.committed) ∧
    (Offered skipValue smallHub.state smallHub.database.committed binaryEvent smallDevice firstEventId 1 ∧
      ¬ Known (history smallHub.database.committed) smallDevice firstEventId ∧
      (∃ row, smallHub.database.committed.action 1 = some row ∧ row.enabled = true ∧
        smallHub.database.committed.TargetOk row) ∧
      history (HubUdpProcessor.processDatagram skipValue ActionEngine.handler binaryEvent 0 "0" Db.Env.quiet
        smallHub).2.database.committed = history smallHub.database.committed) := by
  have new : ¬ Known [] smallDevice firstEventId := fun ⟨row,member,_⟩ => by cases member
  refine ⟨⟨by decide,⟨by decide +kernel,by decide,by decide,by decide,_,rfl,rfl⟩,new,⟨_,rfl,rfl,by decide⟩,
    by decide +kernel⟩,⟨by decide +kernel,by decide,by decide,by decide,_,rfl,rfl⟩,new,⟨_,rfl,rfl,by decide⟩,
    by decide +kernel⟩

end UchiPulse.Hub
