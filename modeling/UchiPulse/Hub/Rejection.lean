import UchiPulse.Hub.Acceptance
import UchiPulse.Hub.Status

/-! What a datagram leaves behind that is turned away. A new event is observed before its row
is added, so that a refused row leaves a device online. -/
namespace UchiPulse.Hub
open Common Db Sql Json

section
variable {skip : Reader Unit} {env : Env} {processor : HubUdpProcessor ActionEngine} {payload : List UInt8}
  {deviceId : DeviceId} {eventId : EventId} {actionId : ActionId} {row : ActionRow} {now : Nat} {receivedAt : String}

/-- A new event passes every check, and then its row is refused. -/
structure RefusedLate (skip : Reader Unit) (env : Env) (processor : HubUdpProcessor ActionEngine)
    (payload : List UInt8) (deviceId : DeviceId) (eventId : EventId) (actionId : ActionId) (row : ActionRow) : Prop where
  passes : Passes skip env processor payload deviceId eventId actionId row
  refused : Refused env (processor.database.ticks env (4 + lookups row)) payload deviceId

/-- The device shows what a message at this time makes it show. -/
def Shown (state : CommunicationStateManager) (deviceId : String) (now : Nat) : Prop :=
  ∃ device, state.device deviceId = some device ∧ device.status = .online ∧ device.lastSeenAt = some now

theorem signOfLife_event (named : isBlank deviceId.val = false) (other : String) :
    SignOfLife other (.event deviceId eventId actionId) ↔ deviceId.val = other := by
  constructor
  · exact fun sign => sign.1
  · rintro rfl
    exact ⟨rfl,named,fun ack => by cases ack⟩

/-- Whether an event changes what its device shows. -/
theorem observeMessage_same_iff {state : CommunicationStateManager} (eventId : EventId) (actionId : ActionId)
    (named : isBlank deviceId.val = false) (managed : state.device deviceId.val ≠ none) :
    (∀ other, (state.observeMessage (.event deviceId eventId actionId) now).2.device other = state.device other) ↔
      Shown state deviceId.val now := by
  obtain ⟨device,found⟩ := Option.ne_none_iff_exists'.mp managed
  simp only [CommunicationStateManager.observeMessage_device,signOfLife_event named]
  constructor
  · intro same
    have own := same deviceId.val
    rw [if_pos rfl,found] at own
    have same := Option.some.inj own
    exact ⟨device,found,by rw [← same],by rw [← same]⟩
  · rintro ⟨device,found,online,last⟩ other
    by_cases own : deviceId.val = other
    · subst own
      rw [if_pos rfl,found,Option.map_some,← online,← last]
    · rw [if_neg own]

/-- The history that any statement reads. -/
theorem history_seen (stable : Stable env history) (idle : processor.database.working = none) (n : Nat) :
    history (processor.database.seen env n) = history processor.database.committed :=
  (unmoved_ticks stable n processor.database idle).2

/-- How an event ends that passes every check: with a row, or observed all the same. -/
theorem passes_ends (stable : Stable env history) (idle : processor.database.working = none)
    (passes : Passes skip env processor payload deviceId eventId actionId row) :
    let result := HubUdpProcessor.processDatagram skip ActionEngine.handler payload now receivedAt env processor
    (Refused env (processor.database.ticks env (4 + lookups row)) payload deviceId ↔ Rejected result.1) ∧
      result.2.state = (processor.state.observeMessage (.event deviceId eventId actionId) now).2 := by
  intro result
  let observed : HubUdpProcessor ActionEngine := { processor with
    database := processor.database.ticks env (4 + lookups row)
    state := (processor.state.observeMessage (.event deviceId eventId actionId) now).2 }
  have ran : result = HubUdpProcessor.processEvent ActionEngine.handler payload receivedAt deviceId eventId actionId env
    observed := HubUdpProcessor.processDatagram_passes idle passes
  have fresh : ¬ Known (history (observed.database.seen env 1)) deviceId eventId := by
    rw [seen_ticks,history_seen stable idle,← history_seen stable idle 2]
    exact passes.fresh
  obtain ⟨refused,kept⟩ := HubUdpProcessor.processEvent_fresh observed payload receivedAt actionId
    ((ticks_working (4 + lookups row)).trans idle) fresh
  refine ⟨⟨fun late => ?_,fun rejected => ?_⟩,?_⟩
  · obtain ⟨error,failed⟩ := refused late
    rw [ran,failed]
    trivial
  · by_contra passed
    obtain ⟨status,accepted⟩ := kept passed
    rw [ran,accepted] at rejected
    exact rejected
  · rw [ran]
    exact HubUdpProcessor.along_processEvent (HubUdpProcessor.along_sameState env now) payload receivedAt deviceId
      eventId actionId observed

theorem Greeted.not_rejected {outcome : Except (UdpProcessingError ActionError) (PacketOutcome ActionError)}
    (greeted : Greeted outcome) : ¬ Rejected outcome := by
  rcases outcome with error | outcome
  · exact greeted.elim
  · cases outcome with
    | ignored => exact greeted.elim
    | helloAccepted deviceId => exact id
    | heartbeatAccepted deviceId => exact id
    | eventAccepted deviceId eventId duplicate status ack => exact id

end

/-- A datagram that is turned away changes nothing, unless its event passed every check and its
row was refused; then its device shows the message anyway, and nothing changes only if it did
so before. -/
theorem rejected_unchanged_iff (skip : Reader Unit) {env : Env} (stable : Stable env history)
    (processor : HubUdpProcessor ActionEngine) (idle : processor.database.working = none) (payload : List UInt8)
    (now : Nat) (receivedAt : String) :
    let result := HubUdpProcessor.processDatagram skip ActionEngine.handler payload now receivedAt env processor
    (Rejected result.1 →
      (∀ deviceId, result.2.state.device deviceId = processor.state.device deviceId) ∧
      result.2.actionHandler = processor.actionHandler ∧
      history result.2.database.committed = history processor.database.committed) ↔
    ∀ deviceId eventId actionId row, RefusedLate skip env processor payload deviceId eventId actionId row →
      Shown processor.state deviceId.val now := by
  intro result
  constructor
  · rintro unchanged deviceId eventId actionId row ⟨passes,refused⟩
    obtain ⟨rejects,observed⟩ := passes_ends stable idle passes
    have same := (unchanged (rejects.mp refused)).1
    have offered := passes.offered
    refine (observeMessage_same_iff eventId actionId offered.deviceNamed offered.managed).mp fun other => ?_
    rw [← observed]
    exact same other
  · intro shown rejected
    have untouched := HubUdpProcessor.rejected_untouched stable idle rejected
    refine ⟨?_,untouched.2,(untouched.1 idle).2⟩
    rcases HubUdpProcessor.processDatagram_course idle rfl with
      ⟨-,same⟩ | greeted | ⟨deviceId,eventId,actionId,offered,known,calm⟩ | ⟨deviceId,eventId,actionId,row,passes⟩
    · exact fun deviceId => congrArg (·.device deviceId) same
    · exact absurd rejected greeted.not_rejected
    · have answered : result = (_,_) := HubUdpProcessor.processDatagram_answers idle calm offered known
      rw [answered] at rejected
      exact rejected.elim
    · obtain ⟨rejects,observed⟩ := passes_ends stable idle passes
      have already := shown deviceId eventId actionId row ⟨passes,rejects.mpr rejected⟩
      intro other
      rw [observed]
      exact (observeMessage_same_iff eventId actionId passes.offered.deviceNamed passes.offered.managed).mpr already other

/-- An event of an action that does not exist. -/
def unknownActionEvent : List UInt8 :=
  (UdpMessage.codec fun _ => none).write (.event smallDevice firstEventId 2)

theorem rejected_unchanged_iff_unknown_action :
    let result := HubUdpProcessor.processDatagram (fun _ => none) ActionEngine.handler unknownActionEvent 5 "0"
      Db.Env.quiet smallHub
    Rejected result.1 ∧ ∀ deviceId, result.2.state.device deviceId = smallHub.state.device deviceId := by
  intro result
  have rejected : Rejected result.1 := by
    have failed : result.1 = .error (.actionValidation (.notFound 2)) := by decide +kernel
    rw [failed]
    trivial
  have stable : Stable Db.Env.quiet history := stable_of_alone fun _ => rfl
  refine ⟨rejected,((rejected_unchanged_iff (fun _ => none) stable smallHub rfl unknownActionEvent 5 "0").mpr
    ?_ rejected).1⟩
  rintro deviceId eventId actionId row ⟨passes,-⟩
  have decoded : decode (UdpMessage.codec fun _ => none) unknownActionEvent = .ok (.event smallDevice firstEventId 2) := by
    decide +kernel
  cases decoded.symm.trans passes.offered.decoded
  cases passes.usable.stored

/-- The `INSERT` of the small hub's first event finds the disk full. -/
def fullDisk : Db.Env := { Db.Env.quiet with fault := fun n => if n = 4 then some (.refused .full) else none }

/-- An event whose `INSERT` fails, and one whose payload is no text, are turned away as a database
error and as an invalid message. The device shows them as seen. -/
theorem refused_event_shows_device_online :
    (let result := HubUdpProcessor.processDatagram (fun _ => none) ActionEngine.handler plainEvent 5 "0" fullDisk smallHub
     result.1 = .error (.database .full) ∧ result.2.state.device "n" ≠ smallHub.state.device "n") ∧
    (let result := HubUdpProcessor.processDatagram skipValue ActionEngine.handler binaryEvent 5 "0" Db.Env.quiet smallHub
     result.1 = .error (.invalidMessage .invalidJson) ∧ result.2.state.device "n" ≠ smallHub.state.device "n") := by
  decide +kernel

end UchiPulse.Hub
