import UchiPulse.Hub.Ack
import UchiPulse.Hub.ConcurrentAction
import UchiPulse.Hub.Validation

/-! The business state and the documented values of each state type. The checks of a
configuration do not look at the values, so that a `set_config` decides what is held. -/
namespace UchiPulse.Hub
open Common Db Sql Json

/-! ### Values of a type -/

def domain : StateType → List StateValue
  | .entryPermission => [.unset,.ok,.ng,.meeting]
  | .mealNotice | .snackNotice | .helpNotice | .mailbox => [.on,.off]

/-- The settings app offers the same values. -/
theorem domain_values (stateType : StateType) :
    (domain stateType).map stateValueToStr = Settings.values (stateTypeToStr stateType) := by
  cases stateType <;> rfl

/-- Each state change of a configuration has a value of its type. -/
def ParentConfig.Pairs (self : ParentConfig) : Prop :=
  ∀ action ∈ self.actions, ∀ change ∈ action.stateChanges, change.stateValue ∈ domain change.stateType

/-- So has each row that can be read. -/
def Paired (tables : Tables) : Prop :=
  ∀ row ∈ tables.stateChanges, ∀ change, rowToStateChange row = .ok change →
    change.stateValue ∈ domain change.stateType

def ActionStateManager.WellTyped (self : ActionStateManager) : Prop :=
  ∀ scope stateType value, self.get scope stateType = some value → value ∈ domain stateType

theorem paired_written {config : ParentConfig} (pairs : config.Pairs) (tables : Tables) :
    Paired (written config tables) := by
  intro row member change read
  simp only [written,List.mem_flatMap,changeRows,List.mem_map] at member
  obtain ⟨action,among,setting,own,rfl⟩ := member
  simp only [rowToStateChange,changeRow,stateTypeFromStr_toStr,stateValueFromStr_toStr] at read
  cases read
  exact pairs action among setting own

theorem paired_changesOf {tables : Tables} (paired : Paired tables) {actionId : ActionId}
    {changes : List ActionStateChangeRecord} (found : changesOf actionId tables = some changes) :
    ∀ change ∈ changes, change.stateValue ∈ domain change.stateType := by
  unfold changesOf at found
  cases read : (tables.stateChangesOf actionId).mapM rowToStateChange with
  | error error => rw [read] at found; cases found
  | ok all =>
    rw [read] at found
    cases found
    intro change member
    obtain ⟨row,among,same⟩ := mapM_mem read change member
    have stored : row ∈ tables.stateChanges := by
      have own := (List.mem_insertionSort _).mp among
      exact (List.mem_filter.mp own).1
    exact paired row stored change same

namespace ActionStateManager

theorem wellTyped_empty : empty.WellTyped := by
  intro scope stateType value found
  cases found

theorem wellTyped_insert {self : ActionStateManager} (typed : self.WellTyped) {key : ActionStateKey}
    {value : StateValue} (fits : value ∈ domain key.stateType) :
    ActionStateManager.WellTyped { values := insert self.values key value } := by
  intro scope stateType found held
  simp only [get,insert] at held
  split at held
  next same =>
    cases held
    rw [← same] at fits
    exact fits
  next => exact typed scope stateType found held

theorem wellTyped_applyChanges {self : ActionStateManager} (typed : self.WellTyped) {scope : ActionStateScope}
    {changes : List ActionStateChangeRecord}
    (fit : ∀ change ∈ changes, change.stateValue ∈ domain change.stateType) :
    (self.applyChanges scope changes).WellTyped := by
  induction changes generalizing self with
  | nil => exact typed
  | cons change changes ih =>
    obtain ⟨own,later⟩ := List.forall_mem_cons.mp fit
    have next : ActionStateManager.WellTyped
        { values := insert self.values { scope,stateType := change.stateType } change.stateValue } :=
      wellTyped_insert typed own
    exact ih next later

end ActionStateManager

/-! ### A datagram -/

/-- What the processor holds and can come to hold. -/
structure Typed (processor : HubUdpProcessor ActionEngine) : Prop where
  idle : processor.database.working = none
  paired : Paired processor.database.committed
  held : processor.actionHandler.state.WellTyped

section
variable {env : Env}

/-- The connection is idle, and the committed rows are well paired. -/
def Steady (self : Connection) : Prop := self.working = none ∧ Paired self.committed

theorem steady_query (respects : Respects env Paired) {α : Type} (read : Tables → Except SqliteError α) :
    Program.Moves env (fun before after => Steady before → Steady after) (query read) := by
  rintro self ⟨idle,paired⟩
  have stable : Stable env fun _ : Tables => () := fun _ _ _ _ => rfl
  exact ⟨(moves_query stable read self idle).1,upholds_query respects read self paired⟩

theorem steady_insertEvent (respects : Respects env Paired) (event : EventRow) :
    Program.Moves env (fun before after => Steady before → Steady after) (insertEvent event) := by
  rintro self ⟨idle,paired⟩
  have stable : Stable env fun _ : Tables => () := fun _ _ _ _ => rfl
  have unmoved : Program.Moves env (Unmoved fun _ : Tables => ()) (insertEvent event) :=
    moves_execute stable fun _ _ _ _ => rfl
  refine ⟨(unmoved self idle).1,upholds_execute respects (fun tables value next ok holds => ?_) self paired⟩
  unfold Tables.insertEvent at ok
  split at ok
  · cases ok
    exact holds
  · rw [(Prod.mk.inj (Tables.constrained_ok.mp ok).2).2]
    exact holds

theorem handleEvent_typed (respects : Respects env Paired) (event : EventContext) (connection : Connection)
    (engine : ActionEngine) (steady : Steady connection) (typed : engine.state.WellTyped) :
    (ActionEngine.handler.handleEvent event env (connection,engine)).2.2.state.WellTyped := by
  have ran : (ActionEngine.handler.handleEvent event env (connection,engine)).2 =
      (ActionEngine.execute event.actionId env (connection,engine)).2 := by
    simp only [ActionEngine.handler,Program.bind_run]
    rcases ActionEngine.execute event.actionId env (connection,engine) with ⟨error | plan,after⟩ <;> rfl
  rw [ran]
  rcases outcome : ActionEngine.execute event.actionId env (connection,engine) with ⟨error | plan,after⟩
  · rw [ActionEngine.execute_error outcome]
    exact typed
  · obtain ⟨validated,applied⟩ := ActionEngine.execute_ok outcome
    have stays : Steady after.1 := Program.moves_ran (along_validateEvent (fun _ => id)
      (fun _ _ _ first second holds => second (first holds)) (steady_query respects) event.actionId) validated steady
    obtain ⟨-,-,changes⟩ := ActionEngine.validateEvent_ok steady.1 validated
    rw [applied]
    exact ActionStateManager.wellTyped_applyChanges typed (paired_changesOf stays.2 changes)

theorem along_typed (respects : Respects env Paired) (now : Nat) :
    Along env ActionEngine.handler (fun _ => True) now fun before after => Typed before → Typed after where
  refl _ := id
  trans _ _ _ first second typed := second (first typed)
  reads read self := fun ⟨idle,paired,held⟩ =>
    have ⟨idle',paired'⟩ := steady_query respects read self.database ⟨idle,paired⟩
    ⟨idle',paired',held⟩
  inserts event self := fun ⟨idle,paired,held⟩ =>
    have ⟨idle',paired'⟩ := steady_insertEvent respects event self.database ⟨idle,paired⟩
    ⟨idle',paired',held⟩
  validates engine actionId self := fun ⟨idle,paired,held⟩ =>
    have ⟨idle',paired'⟩ := along_validates (fun _ => id) (fun _ _ _ first second holds => second (first holds))
      (steady_query respects) engine actionId self.database ⟨idle,paired⟩
    ⟨idle',paired',held⟩
  handles event self := fun ⟨idle,paired,held⟩ =>
    have ⟨idle',paired'⟩ := along_handles (fun _ => id) (fun _ _ _ first second holds => second (first holds))
      (steady_query respects) event (self.database,self.actionHandler) ⟨idle,paired⟩
    ⟨idle',paired',handleEvent_typed respects event _ _ ⟨idle,paired⟩ held⟩
  observes _ _ _ := fun ⟨idle,paired,held⟩ => ⟨idle,paired,held⟩

end

/-! ### A line -/

section
variable {V : Type} {env : Env}

theorem upholds_reporting {good : Tables → Prop} {α : Type} {display : SqliteError → String} {session : Session α}
    (upholds : Program.Moves env (Upholds good) session) :
    Program.Moves env (Upholds good) (reporting display session) :=
  Program.moves_zoom upholds fun _ _ => id

theorem paired_saveConfig (respects : Respects env Paired) {display : SqliteError → String} {config : ParentConfig}
    {self : Connection} (pairs : (saveConfig display config env self).1 = .ok () → config.Pairs)
    (paired : Paired self.committed) : Paired (saveConfig display config env self).2.committed := by
  rcases ran : saveConfig display config env self with ⟨error | ⟨⟨⟩⟩,after⟩
  · exact upholds_saving respects (inside_writeConfig config) ran paired
  · obtain ⟨-,-,committed⟩ := saveConfig_ok ran
    rw [committed]
    exact paired_written (pairs (by rw [ran])) _

/-- A line keeps the committed rows well paired, if what it saves is. -/
theorem paired_handleLine (respects : Respects env Paired) (decoding : Decoding V) (line : String)
    {self : Connection} (pairs : ∀ config, Accepts decoding line env self config → config.Pairs)
    (paired : Paired self.committed) : Paired (handleLine decoding line env self).2.committed := by
  have effect := handleLine_effect decoding line env self
  generalize (handleLine decoding line env self).2 = after at effect ⊢
  cases effect with
  | nothing => exact paired
  | loads =>
    exact upholds_reporting (along_readConfig upholds_refl upholds_trans (upholds_query respects)) self paired
  | looks => exact upholds_reporting (upholds_query respects _) self paired
  | resets =>
    have nothing : ParentConfig.Pairs {} := fun action member => by cases member
    exact paired_saveConfig respects (fun _ => nothing) paired
  | sets config accepted => exact paired_saveConfig respects (fun saved => pairs config (accepted saved)) paired

end

/-! ### Runs -/

/-- The endpoint and the processor each have a connection of their own to one file. -/
structure HubProcess where
  endpoint : Connection
  processor : HubUdpProcessor ActionEngine

inductive HubStep where
  | line (text : String) (env : Env)
  | datagram (payload : List UInt8) (now : Nat) (receivedAt : String) (env : Env)

/-- Sees what the other connection has committed. -/
def sees (self other : Connection) : Connection :=
  { self with committed := other.committed,past := other.past }

section
variable {V : Type} (decoding : Decoding V) (skip : Reader Unit)

def HubProcess.step (self : HubProcess) : HubStep → HubProcess
  | .line text env =>
    let endpoint := (handleLine decoding text env self.endpoint).2
    { endpoint,processor := { self.processor with database := sees self.processor.database endpoint } }
  | .datagram payload now receivedAt env =>
    let processor := (HubUdpProcessor.processDatagram skip ActionEngine.handler payload now receivedAt env
      self.processor).2
    { endpoint := sees self.endpoint processor.database,processor }

def HubProcess.run (self : HubProcess) (steps : List HubStep) : HubProcess :=
  steps.foldl (HubProcess.step decoding skip) self

/-- Nobody else writes. During a line the processor may add events; during a datagram the
endpoint may replace the configuration. -/
def HubStep.Alone : HubStep → Prop
  | .line _ env => Stable env fun tables => tables.stateChanges
  | .datagram _ _ _ env => ∀ n, ∀ change ∈ env.others n, ∃ config,
      validateConfig config = .ok () ∧ change = written config

/-- What is accepted has values of its types. -/
def HubProcess.AcceptsPairs (self : HubProcess) : HubStep → Prop
  | .line text env => ∀ config, Accepts decoding text env self.endpoint config → config.Pairs
  | .datagram _ _ _ env => ∀ n, ∀ change ∈ env.others n, ∀ config, change = written config → config.Pairs

def HubProcess.AllPair : HubProcess → List HubStep → Prop
  | _, [] => True
  | self, step :: steps => self.AcceptsPairs decoding step ∧ (self.step decoding skip step).AllPair steps

end

/-- No state change is stored, and none has been applied. -/
structure HubProcess.Started (process : HubProcess) : Prop where
  shared : process.processor.database.committed = process.endpoint.committed
  empty : process.endpoint.committed.stateChanges = []
  idle : process.processor.database.working = none
  new : process.processor.actionHandler = .new

structure HubProcess.Invariant (process : HubProcess) : Prop where
  paired : Paired process.endpoint.committed
  typed : Typed process.processor

section
variable {V : Type} {decoding : Decoding V} {skip : Reader Unit}

theorem HubProcess.invariant_started {self : HubProcess} (started : self.Started) : self.Invariant := by
  obtain ⟨shared,empty,idle,new⟩ := started
  have paired : Paired self.endpoint.committed := by
    intro row member
    rw [empty] at member
    cases member
  refine ⟨paired,idle,shared ▸ paired,?_⟩
  rw [new]
  exact ActionStateManager.wellTyped_empty

theorem HubProcess.invariant_step {self : HubProcess} (invariant : self.Invariant) {step : HubStep}
    (alone : step.Alone) (pairs : self.AcceptsPairs decoding step) : (self.step decoding skip step).Invariant := by
  obtain ⟨paired,idle,paired',held⟩ := invariant
  cases step with
  | line text env =>
    have respects : Respects env Paired := by
      intro n change member tables holds
      simp only [Paired,alone n change member tables]
      exact holds
    have after := paired_handleLine respects decoding text pairs paired
    exact ⟨after,idle,after,held⟩
  | datagram payload now receivedAt env =>
    have respects : Respects env Paired := by
      intro n change member tables holds
      obtain ⟨config,-,rfl⟩ := alone n change member
      exact paired_written (pairs n _ member config rfl) tables
    have typed : Typed (self.step decoding skip (.datagram payload now receivedAt env)).processor :=
      HubUdpProcessor.along_processDatagram (along_typed respects now) (fun _ _ => trivial) receivedAt self.processor
        ⟨idle,paired',held⟩
    exact ⟨typed.paired,typed⟩

theorem HubProcess.invariant_run {self : HubProcess} (invariant : self.Invariant) {steps : List HubStep}
    (alone : ∀ step ∈ steps, step.Alone) (pairs : self.AllPair decoding skip steps) :
    (self.run decoding skip steps).Invariant := by
  induction steps generalizing self with
  | nil => exact invariant
  | cons step steps ih =>
    obtain ⟨first,later⟩ := List.forall_mem_cons.mp alone
    exact ih (invariant_step invariant first pairs.1) later pairs.2

end

/-- While each accepted configuration has values of its types, so has everything the hub
comes to hold, and these are the values the settings app allows. -/
theorem business_state_stays_typed {V : Type} {decoding : Decoding V} {skip : Reader Unit} {start : HubProcess}
    {steps : List HubStep} (started : start.Started) (alone : ∀ step ∈ steps, step.Alone)
    (pairs : start.AllPair decoding skip steps) :
    ∀ scope stateType value,
      (start.run decoding skip steps).processor.actionHandler.state.get scope stateType = some value →
        value ∈ domain stateType ∧ stateValueToStr value ∈ Settings.values (stateTypeToStr stateType) := by
  intro scope stateType value held
  have invariant := HubProcess.invariant_run (HubProcess.invariant_started started) alone pairs
  have fits := invariant.typed.held scope stateType value held
  exact ⟨fits,domain_values stateType ▸ List.mem_map_of_mem fits⟩

/-! ### A meal that is not good -/

def mealConfig (value : StateValue) : ParentConfig where
  actions := [{
    actionId := 1,actionName := "meal",targetType := .common,targetFamilyId := none,webMessage := none,
    enabled := true,stateChanges := [{ stateType := .mealNotice,stateValue := value }],
    notificationEnabled := false,notificationMessage := none,notificationTargets := [] }]

def mealLine (value : StateValue) : String :=
  "\x7b\"version\":1,\"request_id\":\"1\",\"command\":\"set_config\",\"params\":\x7b\"families\":[]," ++
    "\"actions\":[\x7b\"action_id\":1,\"action_name\":\"meal\",\"target_type\":\"COMMON\"," ++
    "\"target_family_id\":null,\"web_message\":null,\"enabled\":true,\"state_changes\":[" ++
    "\x7b\"state_type\":\"MEAL_NOTICE\",\"state_value\":\"" ++ stateValueToStr value ++ "\"\x7d]," ++
    "\"notification_enabled\":false,\"notification_message\":null,\"notification_targets\":[]\x7d]," ++
    "\"family_notification_destinations\":[]\x7d\x7d"

def mealRequest (value : StateValue) : CdcRequest ParentConfig where
  version := 1
  requestId := firstRequestId
  command := setConfigCommand
  params := mealConfig value

/-- What the decoder makes of the two lines. -/
def mealDecoding : Decoding ParentConfig where
  request line := .ok (if line = mealLine .on then mealRequest .on else mealRequest .ng)
  config params := .ok params
  display _ := "error"

/-- An empty database with the device of the small hub. -/
def mealHub : HubProcess where
  endpoint := .opened { Tables.empty with devices := smallHub.database.committed.devices }
  processor := { smallHub with
    database := .opened { Tables.empty with devices := smallHub.database.committed.devices } }

def mealSteps (value : StateValue) : List HubStep :=
  [.line (mealLine value) Env.quiet,.datagram plainEvent 0 "0" Env.quiet]

theorem meal_started : mealHub.Started := ⟨rfl,rfl,rfl,rfl⟩

theorem meal_alone (value : StateValue) : ∀ step ∈ mealSteps value, step.Alone := by
  intro step member
  simp only [mealSteps,List.mem_cons,List.not_mem_nil,or_false] at member
  rcases member with rfl | rfl
  · intro n change none
    cases none
  · intro n change none
    cases none

/-- The endpoint accepts a meal notice with a value of the entry permission. -/
theorem business_state_stays_typed_ng :
    mealHub.Started ∧ (∀ step ∈ mealSteps .ng, step.Alone) ∧
    Accepts mealDecoding (mealLine .ng) Env.quiet mealHub.endpoint (mealConfig .ng) ∧
    (mealHub.run mealDecoding (fun _ => none) (mealSteps .ng)).processor.actionHandler.state.get .common .mealNotice =
      some .ng ∧
    StateValue.ng ∉ domain .mealNotice := by
  have decoded : mealDecoding.request (mealLine .ng) = .ok (mealRequest .ng) := by
    have other : mealLine .ng ≠ mealLine .on := by decide +kernel
    simp only [mealDecoding,if_neg other]
  refine ⟨meal_started,meal_alone .ng,⟨_,responseOk firstRequestId (.config (mealConfig .ng)),decoded,rfl,rfl,?_,rfl⟩,
    by decide +kernel,by decide⟩
  decide +kernel

theorem business_state_stays_typed_on :
    ∃ value, (mealHub.run mealDecoding (fun _ => none) (mealSteps .on)).processor.actionHandler.state.get .common
      .mealNotice = some value ∧ value ∈ domain .mealNotice := by
  have held : (mealHub.run mealDecoding (fun _ => none) (mealSteps .on)).processor.actionHandler.state.get .common
      .mealNotice = some .on := by
    decide +kernel
  have pairs : mealHub.AllPair mealDecoding (fun _ => none) (mealSteps .on) := by
    refine ⟨?_,fun n change member => (by cases member),trivial⟩
    rintro config ⟨request,response,read,-,params,-⟩
    have decoded : mealDecoding.request (mealLine .on) = .ok (mealRequest .on) := by
      simp only [mealDecoding,if_true]
    cases decoded.symm.trans read
    cases params
    intro action member change own
    simp only [mealRequest,mealConfig,List.mem_singleton] at member
    subst member
    simp only [List.mem_singleton] at own
    subst own
    decide
  exact ⟨_,held,(business_state_stays_typed meal_started (meal_alone .on) pairs _ _ _ held).1⟩

end UchiPulse.Hub
