import UchiPulse.Lib.Channels
import UchiPulse.Node.Config
import UchiPulse.Node.Input
import UchiPulse.Node.Udp

/-! The controller of all GPIO inputs. Its detectors stand in one vector and are found by
their GPIO; the calls of one GPIO do not see those of the others. -/
namespace UchiPulse.Node
open Common Json

def maxInputChannels : Nat := 32

structure InputConfig where
  gpioInputs : List GpioInputConfig
  mappings : List InputMapping
  doubleClickIntervalMs : UInt32
  longPressThresholdMs : UInt32
deriving DecidableEq

structure DetectedInputEvent where
  gpio : UInt8
  inputEvent : InputEvent
deriving DecidableEq

structure InputSampleResult where
  inputEvents : List DetectedInputEvent
  actions : List TriggeredAction
deriving DecidableEq

inductive InputConfigError where
  | tooManyInputs
  | duplicateGpio (gpio : UInt8)
  | mappingReferencesUnknownGpio (gpio : UInt8)
  | duplicateMapping (gpio : UInt8) (inputEvent : InputEvent)
deriving DecidableEq

inductive InputProcessError where
  | unknownGpio (gpio : UInt8)
  | tooManyEvents
deriving DecidableEq

structure RuntimeInput where
  gpio : UInt8
  activeHigh : Bool
  debounceMs : UInt16
  detector : GestureDetector
deriving DecidableEq

structure InputController where
  mappings : List InputMapping
  doubleClickIntervalMs : UInt32
  longPressThresholdMs : UInt32
  inputs : List RuntimeInput
deriving DecidableEq

/-- The level as the detector sees it. -/
def RuntimeInput.active (self : RuntimeInput) (rawHigh : Bool) : Bool :=
  if self.activeHigh then rawHigh else !rawHigh

/-- The detector starts over at this level. -/
def RuntimeInput.initialise (rawHigh : Bool) (nowMs : Nat) (self : RuntimeInput) : Unit × RuntimeInput :=
  ((),{ self with detector := self.detector.initialized (self.active rawHigh) nowMs })

/-- One sample, with the events detected. -/
def RuntimeInput.update (doubleClickIntervalMs longPressThresholdMs : UInt32) (rawHigh : Bool) (nowMs : Nat)
    (self : RuntimeInput) : List InputEvent × RuntimeInput :=
  let timing : GestureTiming := {
    debounceMs := self.debounceMs.toNat
    doubleClickIntervalMs := doubleClickIntervalMs.toNat
    longPressThresholdMs := longPressThresholdMs.toNat }
  let (detector,detected) := self.detector.update timing { active := self.active rawHigh,nowMs } []
  (detected,{ self with detector })

/-- Push onto a vector with room for `room` items. -/
def push {α ε : Type} (room : Nat) (error : ε) (items : List α) (item : α) : Except ε (List α) :=
  if items.length < room then .ok (items ++ [item]) else .error error

namespace InputController

/-- The loop over the inputs, with those added so far. -/
def addInputs : List RuntimeInput → List GpioInputConfig → Except InputConfigError (List RuntimeInput)
  | inputs, [] => .ok inputs
  | inputs, gpioInput :: gpioInputs => do
    failIf (inputs.any (·.gpio = gpioInput.gpio)) (.duplicateGpio gpioInput.gpio)
    let inputs ← push maxInputChannels .tooManyInputs inputs {
      gpio := gpioInput.gpio,activeHigh := gpioInput.activeHigh,debounceMs := gpioInput.debounceMs
      detector := .new }
    addInputs inputs gpioInputs

/-- Each mapping is compared with those behind it. -/
def checkMappings (inputs : List RuntimeInput) : List InputMapping → Except InputConfigError Unit
  | [] => .ok ()
  | mapping :: behind => do
    failIf (¬ inputs.any (·.gpio = mapping.gpio)) (.mappingReferencesUnknownGpio mapping.gpio)
    failIf (behind.any fun other => other.gpio = mapping.gpio ∧ other.inputEvent = mapping.inputEvent)
      (.duplicateMapping mapping.gpio mapping.inputEvent)
    checkMappings inputs behind

def new (config : InputConfig) : Except InputConfigError InputController := do
  let inputs ← addInputs [] config.gpioInputs
  checkMappings inputs config.mappings
  return {
    mappings := config.mappings,doubleClickIntervalMs := config.doubleClickIntervalMs
    longPressThresholdMs := config.longPressThresholdMs,inputs }

def hasGpio (self : InputController) (gpio : UInt8) : Bool := self.inputs.any (·.gpio = gpio)

/-- The first input of a GPIO is changed; `none` when there is none. -/
def onInput {α : Type} (gpio : UInt8) (change : RuntimeInput → α × RuntimeInput) :
    List RuntimeInput → Option (α × List RuntimeInput)
  | [] => none
  | input :: inputs =>
    if input.gpio = gpio then
      let (result,changed) := change input
      some (result,changed :: inputs)
    else (onInput gpio change inputs).map fun (result,rest) => (result,input :: rest)

def initialise (self : InputController) (gpio : UInt8) (rawHigh : Bool) (nowMs : Nat) :
    Except InputProcessError Unit × InputController :=
  match onInput gpio (RuntimeInput.initialise rawHigh nowMs) self.inputs with
  | none => (.error (.unknownGpio gpio),self)
  | some ((),inputs) => (.ok (),{ self with inputs })

/-- The actions a detected event triggers. -/
def triggered (mappings : List InputMapping) (gpio : UInt8) (inputEvent : InputEvent) : List TriggeredAction :=
  (mappings.filter fun mapping => mapping.enabled ∧ mapping.gpio = gpio ∧ mapping.inputEvent = inputEvent).map
    fun mapping => { actionId := mapping.actionId }

/-- The loop over the detected events, with the result so far. -/
def resolve (mappings : List InputMapping) (gpio : UInt8) :
    InputSampleResult → List InputEvent → Except InputProcessError InputSampleResult
  | result, [] => .ok result
  | result, inputEvent :: detected => do
    let inputEvents ← push maxEventsPerSample .tooManyEvents result.inputEvents { gpio,inputEvent }
    let actions ← (triggered mappings gpio inputEvent).foldlM
      (push maxEventsPerSample .tooManyEvents) result.actions
    resolve mappings gpio { inputEvents,actions } detected

/-- The detector moves on even when the result is dropped. -/
def update (self : InputController) (gpio : UInt8) (rawHigh : Bool) (nowMs : Nat) :
    Except InputProcessError InputSampleResult × InputController :=
  match onInput gpio (RuntimeInput.update self.doubleClickIntervalMs self.longPressThresholdMs rawHigh nowMs)
      self.inputs with
  | none => (.error (.unknownGpio gpio),self)
  | some (detected,inputs) =>
    (resolve self.mappings gpio { inputEvents := [],actions := [] } detected,{ self with inputs })

end InputController

/-! ### Calls -/

inductive InputCall where
  | initialise (gpio : UInt8) (rawHigh : Bool) (nowMs : Nat)
  | update (gpio : UInt8) (rawHigh : Bool) (nowMs : Nat)
deriving DecidableEq

inductive InputReply where
  | initialised (result : Except InputProcessError Unit)
  | updated (result : Except InputProcessError InputSampleResult)
deriving DecidableEq

def InputCall.gpio : InputCall → UInt8
  | .initialise gpio _ _ => gpio
  | .update gpio _ _ => gpio

namespace InputController

def call (self : InputController) : InputCall → InputReply × InputController
  | .initialise gpio rawHigh nowMs =>
    let (result,next) := self.initialise gpio rawHigh nowMs
    (.initialised result,next)
  | .update gpio rawHigh nowMs =>
    let (result,next) := self.update gpio rawHigh nowMs
    (.updated result,next)

/-- What the calls of one GPIO depend on. -/
def view (gpio : UInt8) (self : InputController) :
    List InputMapping × UInt32 × UInt32 × Option RuntimeInput :=
  (self.mappings,self.doubleClickIntervalMs,self.longPressThresholdMs,
    self.inputs.find? (·.gpio = gpio))

/-! ### The first input of a GPIO -/

section
variable {α : Type} (gpio : UInt8) (change : RuntimeInput → α × RuntimeInput)

theorem onInput_none {inputs : List RuntimeInput} (unknown : inputs.find? (·.gpio = gpio) = none) :
    onInput gpio change inputs = none := by
  induction inputs with
  | nil => rfl
  | cons input inputs ih =>
    by_cases here : input.gpio = gpio
    · simp [here] at unknown
    · simp only [List.find?_cons,decide_eq_false here] at unknown
      simp only [onInput,if_neg here,ih unknown,Option.map_none]

/-- The input found is changed, and found again in its place. -/
theorem onInput_some {inputs : List RuntimeInput} {input : RuntimeInput}
    (known : inputs.find? (·.gpio = gpio) = some input) (keeps : (change input).2.gpio = input.gpio) :
    ∃ next, onInput gpio change inputs = some ((change input).1,next) ∧
      next.find? (·.gpio = gpio) = some (change input).2 := by
  induction inputs with
  | nil => cases known
  | cons first inputs ih =>
    by_cases here : first.gpio = gpio
    · simp only [List.find?_cons,decide_eq_true here,Option.some.injEq] at known
      subst known
      refine ⟨(change first).2 :: inputs,?_,?_⟩
      · simp only [onInput,if_pos here]
      · simp [keeps,here]
    · simp only [List.find?_cons,decide_eq_false here] at known
      obtain ⟨next,changed,found⟩ := ih known
      refine ⟨first :: next,?_,?_⟩
      · simp only [onInput,if_neg here,changed,Option.map_some]
      · simp only [List.find?_cons,decide_eq_false here,found]

/-- Only the input found matters for the result, and for what is found next. -/
theorem onInput_own {inputs inputs' : List RuntimeInput}
    (same : inputs.find? (·.gpio = gpio) = inputs'.find? (·.gpio = gpio))
    (keeps : ∀ input, (change input).2.gpio = input.gpio) :
    (onInput gpio change inputs = none ∧ onInput gpio change inputs' = none) ∨
      ∃ result next next', onInput gpio change inputs = some (result,next) ∧
        onInput gpio change inputs' = some (result,next') ∧
          next.find? (·.gpio = gpio) = next'.find? (·.gpio = gpio) := by
  cases known : inputs.find? (·.gpio = gpio) with
  | none => exact .inl ⟨onInput_none gpio change known,onInput_none gpio change (same.symm.trans known)⟩
  | some input =>
    obtain ⟨next,changed,found⟩ := onInput_some gpio change known (keeps input)
    obtain ⟨next',changed',found'⟩ := onInput_some gpio change (same.symm.trans known) (keeps input)
    exact .inr ⟨_,_,_,changed,changed',found.trans found'.symm⟩

theorem onInput_other {inputs next : List RuntimeInput} {result : α} {other : UInt8} (apart : other ≠ gpio)
    (keeps : ∀ input, (change input).2.gpio = input.gpio)
    (changed : onInput gpio change inputs = some (result,next)) :
    next.find? (·.gpio = other) = inputs.find? (·.gpio = other) := by
  induction inputs generalizing next with
  | nil => cases changed
  | cons input inputs ih =>
    by_cases here : input.gpio = gpio
    · simp only [onInput,if_pos here,Option.some.injEq,Prod.mk.injEq] at changed
      obtain ⟨-,rfl⟩ := changed
      have elsewhere : input.gpio ≠ other := fun same => apart (same.symm.trans here)
      simp [keeps,elsewhere]
    · simp only [onInput,if_neg here,Option.map_eq_some_iff] at changed
      obtain ⟨⟨found,rest⟩,later,same⟩ := changed
      obtain ⟨rfl,rfl⟩ := Prod.mk.inj same
      simp only [List.find?_cons,ih later]

theorem onInput_gpios {inputs next : List RuntimeInput} {result : α}
    (keeps : ∀ input, (change input).2.gpio = input.gpio)
    (changed : onInput gpio change inputs = some (result,next)) :
    next.map (·.gpio) = inputs.map (·.gpio) := by
  induction inputs generalizing next with
  | nil => cases changed
  | cons input inputs ih =>
    by_cases here : input.gpio = gpio
    · simp only [onInput,if_pos here,Option.some.injEq,Prod.mk.injEq] at changed
      obtain ⟨-,rfl⟩ := changed
      rw [List.map_cons,List.map_cons,keeps]
    · simp only [onInput,if_neg here,Option.map_eq_some_iff] at changed
      obtain ⟨⟨found,rest⟩,later,same⟩ := changed
      obtain ⟨rfl,rfl⟩ := Prod.mk.inj same
      rw [List.map_cons,List.map_cons,ih later]

end

/-! ### Independence -/

theorem view_inputs {self : InputController} {inputs : List RuntimeInput} {gpio : UInt8}
    (same : inputs.find? (·.gpio = gpio) = self.inputs.find? (·.gpio = gpio)) :
    view gpio { self with inputs } = view gpio self := by
  simp only [view,same]

/-- A call leaves what the calls of other GPIOs depend on. -/
theorem call_other (self : InputController) (call : InputCall) (gpio : UInt8) (apart : gpio ≠ call.gpio) :
    view gpio (self.call call).2 = view gpio self := by
  cases call with
  | initialise own rawHigh nowMs =>
    simp only [InputController.call,initialise]
    split
    next => rfl
    next changed => exact view_inputs (onInput_other _ _ apart (fun _ => rfl) changed)
  | update own rawHigh nowMs =>
    simp only [InputController.call,update]
    split
    next => rfl
    next changed => exact view_inputs (onInput_other _ _ apart (fun _ => rfl) changed)

/-- A call returns, and leaves for the next one, what its own input and the settings say. -/
theorem call_own (self self' : InputController) (call : InputCall)
    (same : view call.gpio self = view call.gpio self') :
    (self.call call).1 = (self'.call call).1 ∧
      view call.gpio (self.call call).2 = view call.gpio (self'.call call).2 := by
  obtain ⟨mappings,doubleClick,longPress,inputs⟩ := self
  obtain ⟨mappings',doubleClick',longPress',inputs'⟩ := self'
  obtain ⟨rfl,rest⟩ := Prod.mk.inj same
  obtain ⟨rfl,rest⟩ := Prod.mk.inj rest
  obtain ⟨rfl,found⟩ := Prod.mk.inj rest
  cases call with
  | initialise gpio rawHigh nowMs =>
    simp only [InputController.call,initialise]
    rcases onInput_own gpio (RuntimeInput.initialise rawHigh nowMs) found (fun _ => rfl) with
      ⟨absent,absent'⟩ | ⟨result,next,next',changed,changed',again⟩
    · simp only [absent,absent']
      exact ⟨trivial,same⟩
    · simp only [changed,changed']
      exact ⟨trivial,congrArg (fun found => (mappings,doubleClick,longPress,found)) again⟩
  | update gpio rawHigh nowMs =>
    simp only [InputController.call,update]
    rcases onInput_own gpio (RuntimeInput.update doubleClick longPress rawHigh nowMs) found
        (fun _ => rfl) with ⟨absent,absent'⟩ | ⟨result,next,next',changed,changed',again⟩
    · simp only [absent,absent']
      exact ⟨trivial,same⟩
    · simp only [changed,changed']
      exact ⟨trivial,congrArg (fun found => (mappings,doubleClick,longPress,found)) again⟩

theorem independent : Channels.Independent call InputCall.gpio view where
  own := call_own
  other := call_other

/-! ### The configured inputs -/

theorem call_gpios (self : InputController) (call : InputCall) :
    (self.call call).2.inputs.map (·.gpio) = self.inputs.map (·.gpio) := by
  cases call with
  | initialise own rawHigh nowMs =>
    simp only [InputController.call,initialise]
    split
    next => rfl
    next changed => exact onInput_gpios _ _ (fun _ => rfl) changed
  | update own rawHigh nowMs =>
    simp only [InputController.call,update]
    split
    next => rfl
    next changed => exact onInput_gpios _ _ (fun _ => rfl) changed

theorem run_gpios (self : InputController) (calls : List InputCall) :
    (Channels.run call self calls).2.inputs.map (·.gpio) = self.inputs.map (·.gpio) := by
  induction calls generalizing self with
  | nil => rfl
  | cons call calls ih => exact (ih (self.call call).2).trans (self.call_gpios call)

theorem push_ok {α ε : Type} {room : Nat} {error : ε} {items more : List α} {item : α} :
    push room error items item = .ok more ↔ items.length < room ∧ more = items ++ [item] := by
  unfold push
  split <;> simp_all [eq_comm]

/-- An input is added if it is new and there is room. -/
theorem addInputs_cons {inputs result : List RuntimeInput} {gpioInput : GpioInputConfig}
    {gpioInputs : List GpioInputConfig} :
    addInputs inputs (gpioInput :: gpioInputs) = .ok result ↔
      ¬ inputs.any (·.gpio = gpioInput.gpio) = true ∧ inputs.length < maxInputChannels ∧
      addInputs (inputs ++ [{
        gpio := gpioInput.gpio,activeHigh := gpioInput.activeHigh,debounceMs := gpioInput.debounceMs
        detector := .new }]) gpioInputs = .ok result := by
  simp only [addInputs,failIf_ok,bind_ok,push_ok]
  constructor
  · rintro ⟨⟨⟩,fresh,more,⟨room,rfl⟩,added⟩
    exact ⟨fresh,room,added⟩
  · rintro ⟨fresh,room,added⟩
    exact ⟨(),fresh,_,⟨room,rfl⟩,added⟩

/-- What the loop added are the inputs behind those it began with, all of them new. -/
theorem addInputs_ok {inputs result : List RuntimeInput} {gpioInputs : List GpioInputConfig}
    (added : addInputs inputs gpioInputs = .ok result) :
    result.map (·.gpio) = inputs.map (·.gpio) ++ gpioInputs.map (·.gpio) := by
  induction gpioInputs generalizing inputs with
  | nil =>
    cases added
    simp
  | cons gpioInput gpioInputs ih =>
    obtain ⟨-,-,added⟩ := addInputs_cons.mp added
    rw [ih added]
    simp

theorem new_gpios {config : InputConfig} {fresh : InputController} (built : new config = .ok fresh) :
    fresh.inputs.map (·.gpio) = config.gpioInputs.map (·.gpio) := by
  obtain ⟨inputs,added,built⟩ := bind_ok.mp built
  obtain ⟨⟨⟩,-,built⟩ := bind_ok.mp built
  cases built
  exact addInputs_ok added

/-- The answer to a call for a GPIO that is not configured. -/
def refusal : InputCall → InputReply
  | .initialise gpio _ _ => .initialised (.error (.unknownGpio gpio))
  | .update gpio _ _ => .updated (.error (.unknownGpio gpio))

theorem call_unknown (self : InputController) (call : InputCall)
    (unknown : call.gpio ∉ self.inputs.map (·.gpio)) : self.call call = (refusal call,self) := by
  have absent : self.inputs.find? (·.gpio = call.gpio) = none := by
    rw [List.find?_eq_none]
    intro input member same
    exact unknown (List.mem_map.mpr ⟨input,member,by simpa using same⟩)
  cases call with
  | initialise gpio rawHigh nowMs =>
    have none := onInput_none gpio (RuntimeInput.initialise rawHigh nowMs) absent
    simp only [InputController.call,initialise,none,refusal]
  | update gpio rawHigh nowMs =>
    have none := onInput_none gpio (RuntimeInput.update self.doubleClickIntervalMs
      self.longPressThresholdMs rawHigh nowMs) absent
    simp only [InputController.call,update,none,refusal]

end InputController

/-- The results of one GPIO are those of a replay of its own calls on a fresh controller;
two interleavings of the same calls give it the same results; and at any time a call for a
GPIO that is not configured is refused without a change. -/
theorem gpios_do_not_interfere (config : InputConfig) (fresh : InputController)
    (built : InputController.new config = .ok fresh) :
    (∀ gpio calls, Channels.repliesOn InputCall.gpio gpio calls (Channels.run InputController.call fresh calls).1 =
      (Channels.run InputController.call fresh (calls.filter (·.gpio = gpio))).1) ∧
    (∀ calls calls', (∀ gpio, calls.filter (·.gpio = gpio) = calls'.filter (·.gpio = gpio)) →
      ∀ gpio, Channels.repliesOn InputCall.gpio gpio calls (Channels.run InputController.call fresh calls).1 =
        Channels.repliesOn InputCall.gpio gpio calls' (Channels.run InputController.call fresh calls').1) ∧
    ∀ calls call, call.gpio ∉ config.gpioInputs.map (·.gpio) →
      let reached := (Channels.run InputController.call fresh calls).2
      reached.call call = (InputController.refusal call,reached) := by
  refine ⟨?_,?_,?_⟩
  · intro gpio calls
    exact Channels.repliesOn_run InputController.independent gpio calls fresh
  · intro calls calls' same gpio
    exact Channels.repliesOn_run_congr InputController.independent gpio fresh (same gpio)
  · intro calls call unknown
    apply InputController.call_unknown
    rwa [InputController.run_gpios,InputController.new_gpios built]

/-- Two inputs, one of them low when pressed. -/
def twoInputs : InputConfig where
  gpioInputs := [{ gpio := 2,activeHigh := true,debounceMs := 30 },{ gpio := 3,activeHigh := false,debounceMs := 30 }]
  mappings := [{ gpio := 3,inputEvent := .offToOn,actionId := 7,enabled := true }]
  doubleClickIntervalMs := 400
  longPressThresholdMs := 1000

/-- Two presses that overlap in time. -/
def overlapping : List InputCall :=
  [.initialise 2 false 0,.initialise 3 true 0,.update 2 true 10,.update 3 false 20,.update 2 true 40,
    .update 3 false 50]

theorem gpios_do_not_interfere_overlapping : ∃ fresh, InputController.new twoInputs = .ok fresh ∧
    Channels.repliesOn InputCall.gpio 3 overlapping (Channels.run InputController.call fresh overlapping).1 =
      [.initialised (.ok ()),.updated (.ok { inputEvents := [],actions := [] }),
        .updated (.ok { inputEvents := [{ gpio := 3,inputEvent := .offToOn }],actions := [{ actionId := 7 }] })] := by
  obtain ⟨fresh,built⟩ : ∃ fresh, InputController.new twoInputs = .ok fresh := ⟨_,rfl⟩
  refine ⟨fresh,built,?_⟩
  rw [(gpios_do_not_interfere twoInputs fresh built).1]
  cases built
  decide

end UchiPulse.Node
