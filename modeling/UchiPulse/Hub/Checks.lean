import UchiPulse.Hub.Processing
import UchiPulse.Lib.Checks
import UchiPulse.Lib.Statements

/-! The checks of a datagram, stated by the tables that their statements read, one after the
other. An event that passes them all is observed and goes to the history. -/
namespace UchiPulse.Hub
open Common Db Sql Json

/-! ### The checks of an action -/

/-- The family of a target is looked up by a statement of its own. -/
def lookups (row : ActionRow) : Nat := if row.targetType = "FAMILY" then 1 else 0

/-- What the checks ask of the tables that their statements read. -/
structure Usable (found targeted listed : Tables) (actionId : ActionId) (row : ActionRow) : Prop where
  stored : found.action actionId = some row
  enabled : row.enabled = true
  target : targeted.TargetOk row
  readable : ∀ change ∈ listed.stateChangesOf actionId, ∃ record, rowToStateChange change = .ok record

theorem targetTypeFromStr_ok {name : String} {value : TargetType} (ok : targetTypeFromStr name = .ok value) :
    name = targetTypeToStr value := by
  unfold targetTypeFromStr at ok
  split at ok <;> cases ok <;> rfl

theorem rowToAction_ok {row : ActionRow} {action : ActionRecord} (ok : rowToAction row = .ok action) :
    ∃ targetType, row.targetType = targetTypeToStr targetType ∧ action = { row with targetType } := by
  unfold rowToAction at ok
  cases named : targetTypeFromStr row.targetType with
  | error error => rw [named] at ok; cases ok
  | ok targetType =>
    rw [named] at ok
    cases ok
    exact ⟨targetType,targetTypeFromStr_ok named,rfl⟩

/-- A well-formed target can be read. -/
theorem rowToAction_of_target {tables : Tables} {row : ActionRow} (target : tables.TargetOk row) :
    ∃ action, rowToAction row = .ok action := by
  unfold rowToAction
  rcases target with ⟨family,-⟩ | ⟨common,-⟩
  · rw [family]
    exact ⟨_,rfl⟩
  · rw [common]
    exact ⟨_,rfl⟩

theorem family_eq_none {tables : Tables} {familyId : FamilyId} :
    tables.family familyId = none ↔ ¬ tables.hasFamily familyId := by
  simp [Tables.family,Tables.hasFamily]

namespace ActionEngine
variable {env : Env} {actionId : ActionId} {self next : Connection}

theorem database_eq_ok {α : Type} {session : Session α} {value : α} :
    database session env self = (.ok value,next) ↔ session env self = (.ok value,next) := by
  simp only [database,Program.zoom,id_eq]
  rcases session env self with ⟨error | found,between⟩ <;> simp

theorem validateTarget_passes {row : ActionRow} {action : ActionRecord} (idle : self.working = none)
    (converted : rowToAction row = .ok action) :
    (∃ scope, validateTarget action env self = (.ok scope,next)) ↔ (self.seen env 1).TargetOk row ∧
      Undisturbed env self (lookups row) ∧ next = self.ticks env (lookups row) := by
  obtain ⟨targetType,named,rfl⟩ := rowToAction_ok converted
  cases targetType with
  | common =>
    have none : lookups row = 0 := if_neg (by rw [named]; decide)
    rw [none]
    cases family : row.targetFamilyId with
    | none =>
      simp only [validateTarget]
      constructor
      · rintro ⟨scope,ok⟩
        cases ok
        exact ⟨.inr ⟨named,family⟩,undisturbed_zero,rfl⟩
      · rintro ⟨-,-,rfl⟩
        exact ⟨.common,rfl⟩
    | some familyId =>
      simp only [validateTarget]
      refine iff_of_false (fun ⟨scope,ok⟩ => by cases ok) fun ⟨target,_⟩ => ?_
      rcases target with ⟨other,-⟩ | ⟨-,without⟩
      · rw [named] at other
        exact absurd other (by decide)
      · rw [family] at without
        cases without
  | family =>
    have one : lookups row = 1 := if_pos named
    rw [one]
    cases family : row.targetFamilyId with
    | none =>
      simp only [validateTarget]
      refine iff_of_false (fun ⟨scope,ok⟩ => by cases ok) fun ⟨target,_⟩ => ?_
      rcases target with ⟨-,familyId,present,-⟩ | ⟨other,-⟩
      · rw [family] at present
        cases present
      · rw [named] at other
        exact absurd other (by decide)
    | some familyId =>
      simp only [validateTarget]
      constructor
      · rintro ⟨scope,ok⟩
        obtain ⟨found,between,read,rest⟩ := Program.bind_eq_ok.mp ok
        obtain ⟨calm,same,rfl⟩ := (query_eq_ok idle).mp (database_eq_ok.mp read)
        cases same
        obtain ⟨_,_,known,rest⟩ := Program.bind_eq_ok.mp rest
        obtain ⟨present,rfl⟩ := Program.failIf_eq_ok.mp known
        cases rest
        rw [family_eq_none,not_not] at present
        exact ⟨.inl ⟨named,familyId,family,present⟩,calm,rfl⟩
      · rintro ⟨target,calm,rfl⟩
        have present : (self.seen env 1).hasFamily familyId := by
          rcases target with ⟨-,other,same,present⟩ | ⟨other,-⟩
          · rw [family] at same
            cases same
            exact present
          · rw [named] at other
            exact absurd other (by decide)
        refine ⟨.family familyId,Program.bind_eq_ok.mpr ⟨_,_,database_eq_ok.mpr
          ((query_eq_ok idle).mpr ⟨calm,rfl,rfl⟩),Program.bind_eq_ok.mpr ⟨(),_,Program.failIf_eq_ok.mpr ⟨?_,rfl⟩,rfl⟩⟩⟩
        rw [family_eq_none,not_not]
        exact present

/-- The checks of an action, statement by statement. -/
theorem validateEvent_passes (idle : self.working = none) :
    (∃ plan, validateEvent actionId env self = (.ok plan,next)) ↔
      ∃ row, Usable (self.seen env 1) (self.seen env 2) (self.seen env (2 + lookups row)) actionId row ∧
        Undisturbed env self (2 + lookups row) ∧ next = self.ticks env (2 + lookups row) := by
  have idle₁ : (self.ticks env 1).working = none := (ticks_working 1).trans idle
  have count (row : ActionRow) : 2 + lookups row = 1 + (lookups row + 1) := by omega
  constructor
  · rintro ⟨plan,ok⟩
    obtain ⟨found,first,read,rest⟩ := Program.bind_eq_ok.mp ok
    obtain ⟨calm,same,rfl⟩ := (query_eq_ok idle).mp (database_eq_ok.mp read)
    cases stored : (self.seen env 1).action actionId with
    | none =>
      rw [stored] at same
      cases same
      cases rest
    | some row =>
      rw [stored] at same
      cases converted : rowToAction row with
      | error error => rw [optional,converted] at same; cases same
      | ok action =>
        rw [optional,converted] at same
        cases same
        obtain ⟨_,_,enabled,rest⟩ := Program.bind_eq_ok.mp rest
        obtain ⟨on,rfl⟩ := Program.failIf_eq_ok.mp enabled
        obtain ⟨scope,second,targeted,rest⟩ := Program.bind_eq_ok.mp rest
        obtain ⟨target,calm',rfl⟩ := (validateTarget_passes idle₁ converted).mp ⟨scope,targeted⟩
        obtain ⟨changes,third,listed,rest⟩ := Program.bind_eq_ok.mp rest
        cases rest
        obtain ⟨calm'',readable,rfl⟩ :=
          (query_eq_ok ((ticks_working _).trans idle₁)).mp (database_eq_ok.mp listed)
        obtain ⟨_,-,rfl⟩ := rowToAction_ok converted
        rw [seen_ticks] at target
        rw [seen_ticks,seen_ticks,← count] at readable
        refine ⟨row,⟨stored,Bool.not_eq_false _ ▸ on,target,mapM_ok_iff.mp ⟨changes,readable⟩⟩,?_,?_⟩
        · rw [count]
          exact undisturbed_add.mpr ⟨calm,undisturbed_add.mpr ⟨calm',calm''⟩⟩
        · rw [count,← ticks_add,← ticks_add]
  · rintro ⟨row,usable,calm,rfl⟩
    rw [count] at calm
    obtain ⟨calm,later⟩ := undisturbed_add.mp calm
    obtain ⟨calm',calm''⟩ := undisturbed_add.mp later
    obtain ⟨action,converted⟩ := rowToAction_of_target usable.target
    have target : ((self.ticks env 1).seen env 1).TargetOk row := by
      rw [seen_ticks]
      exact usable.target
    obtain ⟨scope,targeted⟩ := (validateTarget_passes idle₁ converted).mpr ⟨target,calm',rfl⟩
    obtain ⟨changes,readable⟩ := mapM_ok_iff.mpr usable.readable
    have listed : (((self.ticks env 1).ticks env (lookups row)).seen env 1).stateChangesOf actionId =
        (self.seen env (2 + lookups row)).stateChangesOf actionId := by
      rw [seen_ticks,seen_ticks,← count]
    have found : optional rowToAction ((self.seen env 1).action actionId) = .ok (some action) := by
      rw [usable.stored,optional,converted]
      rfl
    have on : ¬ action.enabled = false := by
      obtain ⟨_,-,rfl⟩ := rowToAction_ok converted
      exact Bool.not_eq_false _ ▸ usable.enabled
    refine ⟨{ action,scope,stateChanges := changes },Program.bind_eq_ok.mpr ⟨_,_,database_eq_ok.mpr
      ((query_eq_ok idle).mpr ⟨calm,found,rfl⟩),?_⟩⟩
    refine Program.bind_eq_ok.mpr ⟨(),_,Program.failIf_eq_ok.mpr ⟨on,rfl⟩,?_⟩
    refine Program.bind_eq_ok.mpr ⟨scope,_,targeted,?_⟩
    refine Program.bind_eq_ok.mpr ⟨changes,_,database_eq_ok.mpr
      ((query_eq_ok ((ticks_working _).trans idle₁)).mpr ⟨calm'',?_,rfl⟩),?_⟩
    · rw [listed]
      exact readable
    · rw [count,← ticks_add,← ticks_add]
      rfl

end ActionEngine

/-! ### The checks of a datagram -/

/-- The payload is an event of a device that was enabled when the hub started, and that these
tables have enabled. -/
structure Offered (skip : Reader Unit) (state : CommunicationStateManager) (tables : Tables) (payload : List UInt8)
    (deviceId : DeviceId) (eventId : EventId) (actionId : ActionId) : Prop where
  decoded : decode (UdpMessage.codec skip) payload = .ok (.event deviceId eventId actionId)
  deviceNamed : isBlank deviceId.val = false
  eventNamed : isBlank eventId.val = false
  managed : state.device deviceId.val ≠ none
  enabled : ∃ row, tables.device deviceId.val = some row ∧ row.enabled = true

/-- A new event that passes every check, statement by statement. -/
structure Passes (skip : Reader Unit) (env : Env) (processor : HubUdpProcessor ActionEngine) (payload : List UInt8)
    (deviceId : DeviceId) (eventId : EventId) (actionId : ActionId) (row : ActionRow) : Prop where
  offered : Offered skip processor.state (processor.database.seen env 1) payload deviceId eventId actionId
  fresh : ¬ Known (history (processor.database.seen env 2)) deviceId eventId
  usable : Usable (processor.database.seen env 3) (processor.database.seen env 4)
    (processor.database.seen env (4 + lookups row)) actionId row
  undisturbed : Undisturbed env processor.database (4 + lookups row)

/-- The message is only a sign of life. -/
def Greeted : Except (UdpProcessingError ActionError) (PacketOutcome ActionError) → Prop
  | .ok (.helloAccepted _) => True
  | .ok (.heartbeatAccepted _) => True
  | _ => False

/-- The datagram is turned away. -/
def Rejected : Except (UdpProcessingError ActionError) (PacketOutcome ActionError) → Prop
  | .error _ => True
  | .ok .ignored => True
  | _ => False

namespace HubUdpProcessor
variable {A E : Type} {env : Env} {self next : HubUdpProcessor A}

theorem isEnabledManagedDevice_eq_true {deviceId : String} (idle : self.database.working = none) :
    isEnabledManagedDevice (E := E) deviceId env self = (.ok true,next) ↔
      (self.state.device deviceId ≠ none ∧ Undisturbed env self.database 1 ∧
        (∃ row, (self.database.seen env 1).device deviceId = some row ∧ row.enabled = true) ∧
        next = { self with database := self.database.ticks env 1 }) := by
  simp only [isEnabledManagedDevice,Program.bind_run,Program.get_run]
  by_cases managed : self.state.device deviceId = none
  · rw [if_pos managed]
    exact iff_of_false (fun ok => by cases ok) fun known => known.1 managed
  · rw [if_neg managed]
    constructor
    · intro ok
      obtain ⟨found,_,asked,rest⟩ := Program.bind_eq_ok.mp ok
      obtain ⟨_,read,rfl⟩ := onDatabase_eq_ok.mp asked
      obtain ⟨calm,same,rfl⟩ := (query_eq_ok idle).mp read
      cases same
      obtain ⟨enabled,rfl⟩ := Prod.mk.inj rest
      exact ⟨managed,calm,(Option.any_eq_true _ _).mp (Except.ok.inj enabled),rfl⟩
    · rintro ⟨-,calm,enabled,rfl⟩
      refine Program.bind_eq_ok.mpr ⟨_,_,onDatabase_eq_ok.mpr
        ⟨_,(query_eq_ok idle).mpr ⟨calm,rfl,rfl⟩,rfl⟩,?_⟩
      rw [(Option.any_eq_true _ _).mpr enabled]
      rfl

end HubUdpProcessor

theorem event_eq_none {tables : Tables} {deviceId : DeviceId} {eventId : EventId} :
    tables.event deviceId.val eventId.val = none ↔ ¬ Known (history tables) deviceId eventId := by
  simp [Tables.event,Known,history]

namespace HubUdpProcessor
variable {env : Env} {self next : HubUdpProcessor ActionEngine} {deviceId : DeviceId} {eventId : EventId}
  {actionId : ActionId}

theorem handler_passes {connection connection' : Connection} {engine : ActionEngine} :
    ActionEngine.handler.validateEvent engine actionId env connection = (.ok (),connection') ↔
      ∃ plan, ActionEngine.validateEvent actionId env connection = (.ok plan,connection') := by
  change (ActionEngine.validateEvent actionId >>= fun _ => pure ()) env connection = _ ↔ _
  rw [Program.bind_run]
  rcases ActionEngine.validateEvent actionId env connection with ⟨error | plan,between⟩ <;> simp

/-- A known event is answered as soon as it has been looked up. -/
theorem checkEvent_answers (self : HubUdpProcessor ActionEngine) (actionId : ActionId) (now : Nat)
    (idle : self.database.working = none) (named : isBlank deviceId.val = false)
    (calm : Undisturbed env self.database 1) (known : Known (history (self.database.seen env 1)) deviceId eventId) :
    checkEvent ActionEngine.handler (.event deviceId eventId actionId) now env self =
      (.ok (some (.eventAccepted deviceId eventId true .skippedDuplicate (.ack deviceId eventId))),{ self with
        database := self.database.ticks env 1
        state := (self.state.observeMessage (.event deviceId eventId actionId) now).2 }) := by
  have found : ¬ (self.database.seen env 1).event deviceId.val eventId.val = none := by
    rw [event_eq_none,not_not]
    exact known
  have speaker : isBlank (deviceIdOf (.event deviceId eventId actionId)).val = false := named
  refine Program.bind_eq_ok.mpr ⟨_,_,onDatabase_eq_ok.mpr ⟨_,(query_eq_ok idle).mpr ⟨calm,rfl,rfl⟩,rfl⟩,?_⟩
  rw [if_pos found]
  exact Program.bind_eq_ok.mpr ⟨(),_,observeMessage_run env _ now speaker,rfl⟩

/-- A new event goes on when its action passes. -/
theorem checkEvent_eq_none (idle : self.database.working = none) (now : Nat) :
    checkEvent ActionEngine.handler (.event deviceId eventId actionId) now env self = (.ok none,next) ↔
      ∃ row, ¬ Known (history (self.database.seen env 1)) deviceId eventId ∧
        Usable (self.database.seen env 2) (self.database.seen env 3) (self.database.seen env (3 + lookups row))
          actionId row ∧
        Undisturbed env self.database (3 + lookups row) ∧
        next = { self with database := self.database.ticks env (3 + lookups row) } := by
  have idle₁ : (self.database.ticks env 1).working = none := (ticks_working 1).trans idle
  have count (row : ActionRow) : 3 + lookups row = 1 + (2 + lookups row) := by omega
  constructor
  · intro ok
    obtain ⟨found,_,asked,rest⟩ := Program.bind_eq_ok.mp ok
    obtain ⟨_,read,rfl⟩ := onDatabase_eq_ok.mp asked
    obtain ⟨calm,same,rfl⟩ := (query_eq_ok idle).mp read
    cases same
    by_cases known : (self.database.seen env 1).event deviceId.val eventId.val = none
    · rw [if_neg (not_not.mpr known)] at rest
      obtain ⟨_,_,got,rest⟩ := Program.bind_eq_ok.mp rest
      cases got
      obtain ⟨⟨⟩,_,checked,rest⟩ := Program.bind_eq_ok.mp rest
      cases rest
      obtain ⟨_,passed,rfl⟩ := onDatabase_eq_ok.mp checked
      obtain ⟨row,usable,calm',rfl⟩ := (ActionEngine.validateEvent_passes idle₁).mp (handler_passes.mp passed)
      rw [seen_ticks,seen_ticks,seen_ticks,← count] at usable
      refine ⟨row,event_eq_none.mp known,usable,?_,?_⟩
      · rw [count]
        exact undisturbed_add.mpr ⟨calm,calm'⟩
      · rw [ticks_add,← count]
    · rw [if_pos known] at rest
      obtain ⟨_,_,-,rest⟩ := Program.bind_eq_ok.mp rest
      cases rest
  · rintro ⟨row,fresh,usable,calm,rfl⟩
    rw [count] at calm
    obtain ⟨calm,later⟩ := undisturbed_add.mp calm
    have placed : Usable ((self.database.ticks env 1).seen env 1) ((self.database.ticks env 1).seen env 2)
        ((self.database.ticks env 1).seen env (2 + lookups row)) actionId row := by
      rw [seen_ticks,seen_ticks,seen_ticks,← count]
      exact usable
    have validated := (ActionEngine.validateEvent_passes idle₁).mpr ⟨row,placed,later,rfl⟩
    refine Program.bind_eq_ok.mpr ⟨_,_,onDatabase_eq_ok.mpr ⟨_,(query_eq_ok idle).mpr ⟨calm,rfl,rfl⟩,rfl⟩,?_⟩
    rw [if_neg (not_not.mpr (event_eq_none.mpr fresh))]
    refine Program.bind_eq_ok.mpr ⟨_,_,rfl,Program.bind_eq_ok.mpr ⟨(),_,onDatabase_eq_ok.mpr
      ⟨_,handler_passes.mpr validated,rfl⟩,?_⟩⟩
    rw [ticks_add,← count]
    rfl

/-! ### A whole datagram -/

variable {skip : Reader Unit} {payload : List UInt8} {now : Nat} {receivedAt : String}

theorem processDatagram_offered (idle : self.database.working = none) (calm : Undisturbed env self.database 1)
    (offered : Offered skip self.state (self.database.seen env 1) payload deviceId eventId actionId) :
    processDatagram skip ActionEngine.handler payload now receivedAt env self =
      processMessage ActionEngine.handler payload now receivedAt (.event deviceId eventId actionId) env
        { self with database := self.database.ticks env 1 } := by
  have valid : validateMessage (E := ActionError) (.event deviceId eventId actionId) env self = (.ok (),self) := by
    refine validateMessage_eq_ok.mpr ⟨offered.deviceNamed,fun _ _ _ same => ?_,rfl⟩
    cases same
    exact offered.eventNamed
  have enabled : isEnabledManagedDevice (E := ActionError) (deviceIdOf (.event deviceId eventId actionId)).val env self =
      (.ok true,{ self with database := self.database.ticks env 1 }) :=
    (isEnabledManagedDevice_eq_true idle).mpr ⟨offered.managed,calm,offered.enabled,rfl⟩
  simp only [processDatagram,offered.decoded,Program.bind_run,valid,enabled]
  rfl

/-- An event that is known is answered, whatever its action. -/
theorem processDatagram_answers (idle : self.database.working = none) (calm : Undisturbed env self.database 2)
    (offered : Offered skip self.state (self.database.seen env 1) payload deviceId eventId actionId)
    (known : Known (history (self.database.seen env 2)) deviceId eventId) :
    processDatagram skip ActionEngine.handler payload now receivedAt env self =
      (.ok (.eventAccepted deviceId eventId true .skippedDuplicate (.ack deviceId eventId)),{ self with
        database := self.database.ticks env 2
        state := (self.state.observeMessage (.event deviceId eventId actionId) now).2 }) := by
  obtain ⟨calm,calm'⟩ := undisturbed_add.mp (show Undisturbed env self.database (1 + 1) from calm)
  have known' : Known (history ((self.database.ticks env 1).seen env 1)) deviceId eventId := by
    rw [seen_ticks]
    exact known
  have answered := checkEvent_answers { self with database := self.database.ticks env 1 } actionId now
    ((ticks_working 1).trans idle) offered.deviceNamed calm' known'
  rw [processDatagram_offered idle calm offered,processMessage,Program.bind_run,answered]
  simp only [ticks_add]
  rfl

/-- A new event that passes every check is observed, and goes to the history. -/
theorem processDatagram_passes {row : ActionRow} (idle : self.database.working = none)
    (passes : Passes skip env self payload deviceId eventId actionId row) :
    processDatagram skip ActionEngine.handler payload now receivedAt env self =
      processEvent ActionEngine.handler payload receivedAt deviceId eventId actionId env { self with
        database := self.database.ticks env (4 + lookups row)
        state := (self.state.observeMessage (.event deviceId eventId actionId) now).2 } := by
  have count : 4 + lookups row = 1 + (3 + lookups row) := by omega
  have calm := passes.undisturbed
  rw [count] at calm
  obtain ⟨calm,later⟩ := undisturbed_add.mp calm
  let looked : HubUdpProcessor ActionEngine := { self with database := self.database.ticks env 1 }
  have passed : checkEvent ActionEngine.handler (.event deviceId eventId actionId) now env looked =
      (.ok none,{ self with database := self.database.ticks env (4 + lookups row) }) := by
    refine (checkEvent_eq_none ((ticks_working 1).trans idle) now).mpr ⟨row,?_,?_,later,?_⟩
    · rw [seen_ticks]
      exact passes.fresh
    · rw [seen_ticks,seen_ticks,seen_ticks,← count]
      exact passes.usable
    · rw [ticks_add,← count]
  have speaker : isBlank (deviceIdOf (.event deviceId eventId actionId)).val = false := passes.offered.deviceNamed
  have observed := observeMessage_run (E := ActionError) env
    { self with database := self.database.ticks env (4 + lookups row) } now speaker
  rw [processDatagram_offered idle calm passes.offered,processMessage,Program.bind_run,passed]
  simp only [Program.bind_run,observed]

def SameState (before after : HubUdpProcessor ActionEngine) : Prop := after.state = before.state

/-- Until a message is observed, the communication state stays. -/
theorem along_sameState (env : Env) (now : Nat) :
    Along env ActionEngine.handler (fun _ => False) now SameState where
  refl _ := rfl
  trans _ _ _ first second := second.trans first
  reads _ _ := rfl
  inserts _ _ := rfl
  validates _ _ _ := rfl
  handles _ _ := rfl
  observes _ impossible := impossible.elim

/-- A check that fails leaves the communication state. -/
theorem checkEvent_error {error : UdpProcessingError ActionError} (named : isBlank deviceId.val = false)
    (failed : checkEvent ActionEngine.handler (.event deviceId eventId actionId) now env self = (.error error,next)) :
    SameState self next := by
  have speaker : isBlank (deviceIdOf (.event deviceId eventId actionId)).val = false := named
  have along := along_sameState env now
  rcases Program.bind_eq_error.mp failed with unread | ⟨found,looked,read,rest⟩
  · exact Program.moves_ran (along_onDatabase (along.reads _)) unread
  · have same : SameState self looked := Program.moves_ran (along_onDatabase (along.reads _)) read
    split at rest
    · rcases Program.bind_eq_error.mp rest with unseen | ⟨_,_,-,rest⟩
      · rw [observeMessage_run env looked now speaker] at unseen
        cases unseen
      · cases rest
    · obtain ⟨_,_,got,rest⟩ := (Program.bind_eq_error.mp rest).resolve_left fun failed => by cases failed
      cases got
      rcases Program.bind_eq_error.mp rest with refused | ⟨_,_,-,rest⟩
      · exact along.trans _ _ _ same (Program.moves_ran (along_onDatabase (along.validates _ _)) refused)
      · cases rest

/-- An event of an enabled device is turned away before it is observed, or it is known, or it is
new and passes every check. -/
theorem processMessage_event {result : Except (UdpProcessingError ActionError) (PacketOutcome ActionError) ×
      HubUdpProcessor ActionEngine} (idle : self.database.working = none) (named : isBlank deviceId.val = false)
    (ran : processMessage ActionEngine.handler payload now receivedAt (.event deviceId eventId actionId) env self =
      result) :
    (Rejected result.1 ∧ SameState self result.2) ∨
      (Known (history (self.database.seen env 1)) deviceId eventId ∧ Undisturbed env self.database 1) ∨
      ∃ row, ¬ Known (history (self.database.seen env 1)) deviceId eventId ∧
        Usable (self.database.seen env 2) (self.database.seen env 3) (self.database.seen env (3 + lookups row))
          actionId row ∧
        Undisturbed env self.database (3 + lookups row) := by
  simp only [processMessage,Program.bind_run] at ran
  rcases passed : checkEvent ActionEngine.handler (.event deviceId eventId actionId) now env self
    with ⟨error | answer,last⟩
  · rw [passed] at ran
    subst ran
    exact .inl ⟨trivial,checkEvent_error named passed⟩
  cases answer with
  | some outcome =>
    obtain ⟨_,_,_,found,_,speaks,-,read,present⟩ := checkEvent_answered passed
    cases speaks
    obtain ⟨calm,found,-⟩ := (query_eq_ok idle).mp read
    cases found
    rw [ne_eq,event_eq_none,not_not] at present
    exact .inr (.inl ⟨present,calm⟩)
  | none =>
    obtain ⟨row,fresh,usable,calm,-⟩ := (checkEvent_eq_none idle now).mp passed
    exact .inr (.inr ⟨row,fresh,usable,calm⟩)

/-- Either a datagram is turned away before it is observed, or it is a sign of life, a known
event, or a new event that passes every check. -/
theorem processDatagram_course {result : Except (UdpProcessingError ActionError) (PacketOutcome ActionError) ×
      HubUdpProcessor ActionEngine} (idle : self.database.working = none)
    (ran : processDatagram skip ActionEngine.handler payload now receivedAt env self = result) :
    (Rejected result.1 ∧ SameState self result.2) ∨ Greeted result.1 ∨
      (∃ deviceId eventId actionId,
        Offered skip self.state (self.database.seen env 1) payload deviceId eventId actionId ∧
        Known (history (self.database.seen env 2)) deviceId eventId ∧ Undisturbed env self.database 2) ∨
      ∃ deviceId eventId actionId row, Passes skip env self payload deviceId eventId actionId row := by
  have along := along_sameState env now
  unfold processDatagram at ran
  cases decoded : decode (UdpMessage.codec skip) payload with
  | error error =>
    rw [decoded] at ran
    subst ran
    exact .inl ⟨trivial,rfl⟩
  | ok message =>
    rw [decoded] at ran
    simp only [Program.bind_run] at ran
    rcases valid : validateMessage (E := ActionError) message env self with ⟨error | ⟨⟩,checked⟩
    · rw [valid] at ran
      subst ran
      exact .inl ⟨trivial,Program.moves_ran (along_validateMessage along.refl along.trans message) valid⟩
    rw [valid] at ran
    obtain ⟨deviceNamed,eventNamed,rfl⟩ := validateMessage_eq_ok.mp valid
    simp only at ran
    rcases asked : isEnabledManagedDevice (E := ActionError) (deviceIdOf message).val env checked
      with ⟨error | enabled,looked⟩
    · rw [asked] at ran
      subst ran
      exact .inl ⟨trivial,Program.moves_ran (along_isEnabledManagedDevice along _) asked⟩
    have same : SameState checked looked := Program.moves_ran (along_isEnabledManagedDevice along _) asked
    rw [asked] at ran
    simp only at ran
    cases enabled with
    | false =>
      subst ran
      exact .inl ⟨trivial,same⟩
    | true =>
      obtain ⟨managed,calm,enabled,rfl⟩ := (isEnabledManagedDevice_eq_true idle).mp asked
      have idle₁ : (checked.database.ticks env 1).working = none := (ticks_working 1).trans idle
      cases message with
      | ack deviceId eventId =>
        subst ran
        exact .inl ⟨trivial,rfl⟩
      | hello deviceId =>
        have greeted := processMessage_hello ActionEngine.handler env
          { checked with database := checked.database.ticks env 1 } payload now receivedAt deviceNamed
        obtain rfl := greeted.symm.trans ran
        exact .inr (.inl trivial)
      | heartbeat deviceId =>
        have greeted := processMessage_heartbeat ActionEngine.handler env
          { checked with database := checked.database.ticks env 1 } payload now receivedAt deviceNamed
        obtain rfl := greeted.symm.trans ran
        exact .inr (.inl trivial)
      | event deviceId eventId actionId =>
        have offered : Offered skip checked.state (checked.database.seen env 1) payload deviceId eventId actionId :=
          ⟨decoded,deviceNamed,eventNamed _ _ _ rfl,managed,enabled⟩
        rcases processMessage_event idle₁ deviceNamed ran with ⟨rejected,kept⟩ | ⟨known,calm'⟩ | ⟨row,fresh,usable,calm'⟩
        · exact .inl ⟨rejected,along.trans _ _ _ same kept⟩
        · rw [seen_ticks] at known
          exact .inr (.inr (.inl ⟨_,_,_,offered,known,undisturbed_add.mpr ⟨calm,calm'⟩⟩))
        · have count : 1 + (3 + lookups row) = 4 + lookups row := by omega
          rw [seen_ticks] at fresh
          rw [seen_ticks,seen_ticks,seen_ticks,count] at usable
          have calm := undisturbed_add.mpr ⟨calm,calm'⟩
          rw [count] at calm
          exact .inr (.inr (.inr ⟨_,_,_,row,offered,fresh,usable,calm⟩))

end HubUdpProcessor

end UchiPulse.Hub
