import UchiPulse.Hub.Ack
import UchiPulse.Hub.ConcurrentAction
import UchiPulse.Hub.Validation

/-! The business state as a replay of the first acceptances. Over a fixed configuration
and a database that does not fail, every datagram is either the first acceptance of its
event, which adds one row and applies one action, or it changes nothing. -/
namespace UchiPulse.Hub
open Common Db Sql Json

/-! ### The specification -/

/-- A received datagram. -/
structure Datagram where
  payload : List UInt8
  now : Nat
  receivedAt : String
deriving DecidableEq

/-- An EVENT that was accepted. -/
structure Acceptance where
  deviceId : DeviceId
  eventId : EventId
  actionId : ActionId
  receivedAt : String
  payload : List UInt8
deriving DecidableEq

def Acceptance.key (self : Acceptance) : DeviceId × EventId := (self.deviceId,self.eventId)

/-- What is stored of an acceptance, and what a row stores. -/
def Acceptance.stored (self : Acceptance) : String × String × String × List UInt8 :=
  (self.receivedAt,self.deviceId.val,self.eventId.val,self.payload)

def storedRow (row : EventRow) : String × String × String × List UInt8 :=
  (row.receivedAt,row.deviceId,row.eventId,Utf8.bytes row.payload)

/-- For each state change of the action, set its scope and type to its value. -/
def replay (tables : Tables) (state : ActionStateManager) (accepted : Acceptance) : ActionStateManager :=
  match scopeOf accepted.actionId tables,changesOf accepted.actionId tables with
  | some scope,some changes => state.applyChanges scope changes
  | _,_ => state

/-- The action of an acceptance sets this key. -/
def Writes (tables : Tables) (accepted : Acceptance) (scope : ActionStateScope) (stateType : StateType) : Prop :=
  scopeOf accepted.actionId tables = some scope ∧
    ∃ changes, changesOf accepted.actionId tables = some changes ∧ ∃ change ∈ changes, change.stateType = stateType

abbrev Processor := HubUdpProcessor ActionEngine
abbrev Outcome := Except (UdpProcessingError ActionError) (PacketOutcome ActionError)

/-- One datagram after the other, with their outcomes. -/
def processDatagrams (skip : Reader Unit) (env : Env) :
    List Datagram → Processor → List (Datagram × Outcome) × Processor
  | [], self => ([],self)
  | datagram :: datagrams, self =>
    let (outcome,next) := HubUdpProcessor.processDatagram skip ActionEngine.handler datagram.payload
      datagram.now datagram.receivedAt env self
    let (outcomes,last) := processDatagrams skip env datagrams next
    ((datagram,outcome) :: outcomes,last)

def acceptance (skip : Reader Unit) : Datagram × Outcome → Option Acceptance
  | (datagram,.ok (.eventAccepted deviceId eventId _ _ _)) =>
    match decode (UdpMessage.codec skip) datagram.payload with
    | .ok (.event _ _ actionId) =>
      some { deviceId,eventId,actionId,receivedAt := datagram.receivedAt,payload := datagram.payload }
    | _ => none
  | _ => none

/-- The EVENTs in the order in which each was first accepted. -/
def firstAcceptances (skip : Reader Unit) (outcomes : List (Datagram × Outcome)) : List Acceptance :=
  firstsOf Acceptance.key (outcomes.filterMap (acceptance skip))

/-! ### Accepted actions -/

section
variable {env : Env} {actionId : ActionId} {tables : Tables} {plan : ValidatedAction}

/-- A plan is made of the action's scope and state changes. -/
theorem planOf_validatedFrom (valid : validatedFrom actionId tables = .ok plan) :
    PlanOf actionId plan tables := by
  have quiet : Quiet Db.Env.quiet := Sql.Env.quiet_quiet _ _
  obtain ⟨clock,ran⟩ := reads_validateEvent quiet actionId (.opened tables)
  rw [Connection.opened,Connection.view,Option.getD_none,valid] at ran
  obtain ⟨target,-,changes⟩ := ActionEngine.validateEvent_ok rfl ran
  rw [tick_alone quiet.others] at target
  exact ⟨target,changes⟩

theorem changesOf_nodup (schema : Schema tables) {changes : List ActionStateChangeRecord}
    (found : changesOf actionId tables = some changes) : (changes.map (·.stateType)).Nodup := by
  have rows : ((tables.stateChangesOf actionId).map (·.stateType)).Nodup := by
    have own := (schema.stateChanges.of_map _).filter (·.actionId = actionId)
    have keys : ((tables.stateChanges.filter (·.actionId = actionId)).map (·.stateType)).Nodup := by
      refine List.Nodup.map_on (fun a aMember b bMember same => ?_) own
      have sameAction : a.actionId = b.actionId :=
        (of_decide_eq_true (List.mem_filter.mp aMember).2).trans
          (of_decide_eq_true (List.mem_filter.mp bMember).2).symm
      exact List.inj_on_of_nodup_map schema.stateChanges (List.mem_filter.mp aMember).1
        (List.mem_filter.mp bMember).1 (Prod.ext sameAction same)
    exact ((List.perm_insertionSort _ _).map _).nodup_iff.mpr keys
  unfold changesOf at found
  cases read : (tables.stateChangesOf actionId).mapM rowToStateChange with
  | error error => rw [read] at found; cases found
  | ok all =>
    rw [read] at found
    cases found
    have names : changes.map (fun change => stateTypeToStr change.stateType) =
        (tables.stateChangesOf actionId).map (·.stateType) := mapM_map read fun row change ok => by
      obtain ⟨stateType,typed,rest⟩ := bind_ok.mp ok
      obtain ⟨stateValue,-,rest⟩ := bind_ok.mp rest
      cases rest
      exact stateTypeFromStr_ok typed
    rw [← names] at rows
    exact List.Nodup.of_map stateTypeToStr (by rwa [List.map_map])

/-- An action that passes its checks is applied as a whole. -/
theorem handleEvent_valid (quiet : Quiet env) (schema : Schema tables) {connection : Connection}
    (same : config connection.view = config tables) (event : EventContext) (engine : ActionEngine)
    (valid : validatedFrom event.actionId tables = .ok plan) :
    ∃ clock, ActionEngine.handler.handleEvent event env (connection,engine) =
      (.ok (),({ connection with clock },
        { state := engine.state.applyChanges plan.scope plan.stateChanges })) := by
  have planned := planOf_validatedFrom valid
  have nodup := changesOf_nodup schema planned.2
  have validHere : validatedFrom event.actionId connection.view = .ok plan := by
    change validatedFrom event.actionId (config connection.view) = _
    rw [same]
    exact valid
  obtain ⟨clock,ran⟩ := reads_validateEvent quiet event.actionId connection
  rw [validHere] at ran
  refine ⟨clock,?_⟩
  simp only [ActionEngine.handler,ActionEngine.execute,Program.bind_run,Program.zoom,ran,
    Program.get_run,ActionStateManager.applyBatch_nodup engine.state plan.scope plan.stateChanges nodup,
    Program.modify_run,Program.pure_run]

end

/-! ### The simulation -/

/-- What holds between datagrams. -/
structure Replayed (base : Tables) (firsts : List Acceptance) (processor : Processor) : Prop where
  idle : processor.database.working = none
  configured : config processor.database.committed = config base
  events : (history processor.database.committed).map storedRow = firsts.map Acceptance.stored
  state : processor.actionHandler.state = firsts.foldl (replay base) .empty
  valid : ∀ accepted ∈ firsts, (scopeOf accepted.actionId base).isSome ∧
    (changesOf accepted.actionId base).isSome

theorem known_iff {rows : List EventRow} {firsts : List Acceptance} {deviceId : DeviceId} {eventId : EventId}
    (events : rows.map storedRow = firsts.map Acceptance.stored) :
    Known rows deviceId eventId ↔ ∃ old ∈ firsts, old.key = (deviceId,eventId) := by
  constructor
  · rintro ⟨row,member,device,event⟩
    have stored : storedRow row ∈ firsts.map Acceptance.stored := events ▸ List.mem_map_of_mem member
    obtain ⟨old,among,same⟩ := List.mem_map.mp stored
    simp only [Acceptance.stored,storedRow,Prod.mk.injEq] at same
    exact ⟨old,among,Prod.ext (Text.ext (same.2.1.trans device)) (Text.ext (same.2.2.1.trans event))⟩
  · rintro ⟨old,member,same⟩
    have stored : old.stored ∈ rows.map storedRow := events ▸ List.mem_map_of_mem member
    obtain ⟨row,among,equal⟩ := List.mem_map.mp stored
    simp only [Acceptance.stored,storedRow,Prod.mk.injEq] at equal
    obtain ⟨rfl,rfl⟩ := Prod.mk.inj same
    exact ⟨row,among,equal.2.1,equal.2.2.1⟩

/-- The firsts after one more outcome. -/
def countOutcome (skip : Reader Unit) (firsts : List Acceptance) (processed : Datagram × Outcome) :
    List Acceptance :=
  match acceptance skip processed with
  | none => firsts
  | some accepted => takeNew Acceptance.key firsts accepted

/-- The acceptance of an event that is known already does not count. -/
theorem countOutcome_known {skip : Reader Unit} {firsts : List Acceptance} {datagram : Datagram}
    {outcome : Outcome} (known : ∀ deviceId eventId duplicate status ack,
      outcome = .ok (.eventAccepted deviceId eventId duplicate status ack) →
        ∃ old ∈ firsts, old.key = (deviceId,eventId)) :
    countOutcome skip firsts (datagram,outcome) = firsts := by
  unfold countOutcome acceptance
  split
  next => rfl
  next accepted found =>
    split at found
    next datagram deviceId eventId duplicate status ack same =>
      cases same
      split at found
      · cases found
        exact takeNew_known (known _ _ _ _ _ rfl)
      · cases found
    next => cases found

/-- A new event has passed the checks of its action. -/
theorem accepted_valid {env : Env} {base : Tables} {processor next : Processor} (skip : Reader Unit)
    (quiet : Quiet env) (idle : processor.database.working = none)
    (configured : config processor.database.committed = config base) {payload : List UInt8} {now : Nat}
    {receivedAt : String} {deviceId : DeviceId} {eventId : EventId} {actionId : ActionId}
    {status : ActionExecutionStatus ActionError} {ack : UdpMessage}
    (decoded : decode (UdpMessage.codec skip) payload = .ok (.event deviceId eventId actionId))
    (accepted : HubUdpProcessor.processDatagram skip ActionEngine.handler payload now receivedAt env processor =
      (.ok (.eventAccepted deviceId eventId false status ack),next)) :
    ∃ plan, validatedFrom actionId base = .ok plan := by
  have stable : Stable env config := stable_of_alone quiet.others
  obtain ⟨connection,last,reached,passed⟩ :=
    HubUdpProcessor.processDatagram_passed stable decoded accepted
  obtain ⟨plan,between,validated,-⟩ := Program.bind_eq_ok.mp passed
  obtain ⟨clock,ran⟩ := reads_validateEvent quiet actionId connection
  obtain ⟨closed,same⟩ := reached idle
  have view : config connection.view = config base := by
    rw [Connection.view,closed,Option.getD_none,same,configured]
  refine ⟨plan,?_⟩
  calc validatedFrom actionId base
    _ = validatedFrom actionId (config connection.view) := by rw [view]; rfl
    _ = .ok plan := (Prod.mk.inj (ran.symm.trans validated)).1

/-- One datagram replays one outcome. -/
theorem step_replays {env : Env} {base : Tables} {firsts : List Acceptance} {processor : Processor}
    (skip : Reader Unit) (quiet : Quiet env) (schema : Schema base)
    (replayed : Replayed base firsts processor) (datagram : Datagram) :
    let result := HubUdpProcessor.processDatagram skip ActionEngine.handler datagram.payload
      datagram.now datagram.receivedAt env processor
    Replayed base (countOutcome skip firsts (datagram,result.1)) result.2 := by
  intro result
  have stable {γ : Type} {part : Tables → γ} : Stable env part := stable_of_alone quiet.others
  have kept : Sql.Unmoved config processor.database result.2.database :=
    HubUdpProcessor.moves_processDatagram skip stable (keeps_handler stable) datagram.payload
      datagram.now datagram.receivedAt processor
  have same := (kept replayed.idle).2.trans replayed.configured
  rcases HubUdpProcessor.processDatagram_effect skip stable (keeps_handler stable) datagram.payload
    datagram.now datagram.receivedAt processor replayed.idle with untouched | stored
  · obtain ⟨idle,unchanged⟩ := untouched.unmoved.1 replayed.idle
    rw [countOutcome_known fun deviceId eventId duplicate status ack accepted =>
      (known_iff replayed.events).mp (untouched.known _ _ _ _ _ accepted).2.2]
    exact {
      idle
      configured := same
      events := by rw [unchanged,replayed.events]
      state := by rw [untouched.unmoved.2,replayed.state]
      valid := replayed.valid }
  · obtain ⟨deviceId,eventId,actionId,text,between,decoded,stored⟩ := stored
    obtain ⟨status,accepted⟩ := stored.accepted
    let event : EventContext := { deviceId := deviceId.val,eventId := eventId.val,actionId,payload := text }
    obtain ⟨plan,valid⟩ := accepted_valid skip quiet replayed.idle replayed.configured decoded
      (Prod.ext accepted rfl)
    have planned := planOf_validatedFrom valid
    -- the handler keeps the tables, so that what held at the end held before it
    have handled {γ : Type} (part : Tables → γ) : Sql.Unmoved part between result.2.database := by
      have keeps : ActionEngine.handler.Keeps part env := keeps_handler stable
      have moved := keeps.handles event (between,processor.actionHandler)
      rwa [← stored.handled] at moved
    obtain ⟨idle,rows⟩ := handled history stored.idle
    have here : config between.view = config base := by
      rw [Connection.view,stored.idle,Option.getD_none]
      exact ((handled config stored.idle).2.symm).trans same
    obtain ⟨clock,ran⟩ := handleEvent_valid quiet schema here event processor.actionHandler valid
    have applied := stored.handled
    rw [ran] at applied
    let first : Acceptance :=
      { deviceId,eventId,actionId,receivedAt := datagram.receivedAt,payload := datagram.payload }
    have new : ¬ ∃ old ∈ firsts, old.key = first.key :=
      fun known => stored.fresh ((known_iff replayed.events).mpr known)
    have extended : countOutcome skip firsts (datagram,result.1) = firsts ++ [first] := by
      have counted : acceptance skip (datagram,result.1) = some first := by
        rw [show result.1 = _ from accepted]
        simp only [acceptance,decoded]
        rfl
      simp only [countOutcome,counted]
      exact takeNew_new new
    rw [extended]
    exact {
      idle
      configured := same
      events := by
        rw [rows,stored.added,List.map_append,List.map_append,replayed.events]
        simp [storedRow,Acceptance.stored,first,Utf8.decode_eq_some.mp stored.decoded]
      state := by
        rw [(Prod.mk.inj applied).2,List.foldl_append,← replayed.state]
        simp [replay,first,planned.1,planned.2]
      valid := by
        intro accepted member
        rcases List.mem_append.mp member with before | last
        · exact replayed.valid accepted before
        · rw [List.mem_singleton.mp last]
          exact ⟨by simp [first,planned.1],by simp [first,planned.2]⟩ }

/-- Datagram after datagram, outcome after outcome. -/
theorem run_replays {env : Env} {base : Tables} {firsts : List Acceptance} {processor : Processor}
    (skip : Reader Unit) (quiet : Quiet env) (schema : Schema base)
    (replayed : Replayed base firsts processor) (datagrams : List Datagram) :
    let run := processDatagrams skip env datagrams processor
    Replayed base (run.1.foldl (countOutcome skip) firsts) run.2 := by
  induction datagrams generalizing firsts processor with
  | nil => exact replayed
  | cons datagram datagrams ih => exact ih (step_replays skip quiet schema replayed datagram)

theorem firstAcceptances_eq_foldl (skip : Reader Unit) (outcomes : List (Datagram × Outcome)) :
    firstAcceptances skip outcomes = outcomes.foldl (countOutcome skip) [] := by
  rw [firstAcceptances,firstsOf,List.foldl_filterMap]
  congr 1
  funext firsts processed
  unfold countOutcome
  cases acceptance skip processed <;> rfl

/-- A key that no acceptance writes stays as it was. -/
theorem foldl_replay_get {base : Tables} {scope : ActionStateScope} {stateType : StateType}
    {firsts : List Acceptance} {state : ActionStateManager}
    (unwritten : ¬ ∃ accepted ∈ firsts, Writes base accepted scope stateType) :
    (firsts.foldl (replay base) state).get scope stateType = state.get scope stateType := by
  induction firsts generalizing state with
  | nil => rfl
  | cons first firsts ih =>
    have later : ¬ ∃ accepted ∈ firsts, Writes base accepted scope stateType :=
      fun ⟨accepted,member,writes⟩ => unwritten ⟨accepted,List.mem_cons_of_mem _ member,writes⟩
    have own : (replay base state first).get scope stateType = state.get scope stateType := by
      unfold replay
      split
      next target changes targeted listed =>
        by_cases same : target = scope
        · refine state.applyChanges_get_of_not _ fun change member _ type => unwritten ?_
          exact ⟨first,List.mem_cons_self,same ▸ targeted,changes,listed,change,member,type⟩
        · exact state.applyChanges_get_of_not _ fun _ _ target _ => same target
      next => rfl
    rw [List.foldl_cons,ih later,own]

/-- The business state is the replay of the first acceptances, and the history holds one
row for each of them, in their order. -/
theorem state_replays_first_acceptances (skip : Reader Unit) (env : Env) (quiet : Quiet env)
    (database : Connection) (idle : database.working = none) (schema : Schema database.committed)
    (noEvents : database.committed.events = []) (state : CommunicationStateManager)
    (datagrams : List Datagram) :
    let base := database.committed
    let run := processDatagrams skip env datagrams { database,state,actionHandler := .new }
    let firsts := firstAcceptances skip run.1
    let final := run.2.actionHandler.state
    final = firsts.foldl (replay base) .empty ∧
    (∀ accepted ∈ firsts, (scopeOf accepted.actionId base).isSome ∧
      (changesOf accepted.actionId base).isSome) ∧
    (∀ scope stateType, (¬ ∃ accepted ∈ firsts, Writes base accepted scope stateType) →
      final.get scope stateType = none) ∧
    (firsts.map Acceptance.key).Nodup ∧
    run.2.database.committed.events.map storedRow = firsts.map Acceptance.stored := by
  intro base run firsts final
  have start : Replayed base [] { database,state,actionHandler := .new } := {
    idle
    configured := rfl
    events := by simp [history,noEvents]
    state := rfl
    valid := by simp }
  have replayed : Replayed base firsts run.2 := by
    change Replayed base (firstAcceptances skip run.1) run.2
    rw [firstAcceptances_eq_foldl]
    exact run_replays skip quiet schema start datagrams
  refine ⟨replayed.state,replayed.valid,fun scope stateType unwritten => ?_,nodup_firstsOf _,replayed.events⟩
  change run.2.actionHandler.state.get scope stateType = none
  rw [replayed.state,foldl_replay_get unwritten]
  rfl

/-- One action changes what is common, the other what is a family's. -/
def noticeHub : Processor where
  __ := smallHub
  database := .opened { smallHub.database.committed with
    families := [{ familyId := 7,displayName := "F",enabled := true }],
    actions := [{
      actionId := 1,actionName := "meal",targetType := "COMMON",targetFamilyId := none,
      webMessage := none,enabled := true },{
      actionId := 2,actionName := "tell",targetType := "FAMILY",targetFamilyId := some 7,
      webMessage := none,enabled := true }],
    stateChanges := [{ actionId := 1,stateType := "MAILBOX",stateValue := "UNSET" },
      { actionId := 1,stateType := "MEAL_NOTICE",stateValue := "ON" },
      { actionId := 2,stateType := "MEAL_NOTICE",stateValue := "NG" }] }

/-- A datagram of the small device. -/
def noticeEvent (eventId : EventId) (actionId : ActionId) (now : Nat) : Datagram where
  payload := (UdpMessage.codec fun _ => none).write (.event smallDevice eventId actionId)
  now
  receivedAt := Nat.repr now

/-- An event, once more, one of an action that is not there, a further one, and the first one's
identifier under another action. -/
def noticeEvents : List Datagram :=
  [noticeEvent ⟨"a",by decide⟩ 1 0,noticeEvent ⟨"a",by decide⟩ 1 1,noticeEvent ⟨"b",by decide⟩ 9 2,
    noticeEvent ⟨"c",by decide⟩ 2 3,noticeEvent ⟨"a",by decide⟩ 2 4]

/-- The first event and the further one are replayed, and nothing else. -/
theorem state_replays_first_acceptances_twice :
    let run := processDatagrams (fun _ => none) Db.Env.quiet noticeEvents noticeHub
    let firsts := firstAcceptances (fun _ => none) run.1
    let final := run.2.actionHandler.state
    (firsts.map fun accepted => (accepted.eventId.val,accepted.actionId)) = [("a",1),("c",2)] ∧
    final.get .common .mealNotice = some .on ∧ final.get .common .mailbox = some .unset ∧
    final.get (.family 7) .mealNotice = some .ng ∧
    final.get (.family 7) .mailbox = none ∧
    final = firsts.foldl (replay noticeHub.database.committed) .empty ∧
    run.2.database.committed.events.map storedRow = firsts.map Acceptance.stored := by
  intro run firsts final
  have schema : Schema noticeHub.database.committed := by
    constructor <;> decide
  have replayed := state_replays_first_acceptances (fun _ => none) Db.Env.quiet (Sql.Env.quiet_quiet _ _)
    noticeHub.database rfl schema rfl noticeHub.state noticeEvents
  refine ⟨?_,?_,?_,?_,?_,replayed.1,replayed.2.2.2.2⟩ <;> decide +kernel

end UchiPulse.Hub
