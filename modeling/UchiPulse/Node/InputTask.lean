import UchiPulse.Lib.Mailbox
import UchiPulse.Node.Boot
import UchiPulse.Node.Debounce
import UchiPulse.Node.Resolution
import UchiPulse.Node.Sender

/-! The node's input task and its event sender with the channel between them. The input task
reads one pin after the other and waits while the channel is full; the sender takes the next
action when it is done with the last one. -/
namespace UchiPulse.Node
open Common Json

/-- The room of `ACTION_EVENTS`. -/
def actionEventsCapacity : Nat := 8

/-- The pins of the input set, in their order. -/
def availableGpios : List UInt8 :=
  [0,1,2,3,4,5,6,7,8,9,10,11,12,13,14,15,16,17,18,19,20,21,22,26,27,28]

/-- The level a pin is read at. -/
structure Reading where
  gpio : UInt8
  rawHigh : Bool
  nowMs : Nat
deriving DecidableEq

/-- A clock of 64 bits that saturates. -/
def tickMs (nowMs : Nat) : Nat := min (nowMs + 10) (UInt64.size - 1)

/-- A task whose configuration is rejected has no controller, and only sleeps. -/
structure InputTask where
  controller : Option InputController
  /-- What is left of the pass over the pins. -/
  pins : List UInt8
  nowMs : Nat
deriving DecidableEq

namespace InputController

def initialiseAll (levels : UInt8 → Bool) : List UInt8 → InputController → InputController
  | [], self => self
  | gpio :: pins, self =>
    initialiseAll levels pins (if self.hasGpio gpio then (self.initialise gpio (levels gpio) 0).2 else self)

end InputController

namespace InputTask

/-- Every pin in use is initialised before the first pass. -/
def new (config : PersistedNodeConfig) (levels : UInt8 → Bool) : InputTask where
  controller := (InputController.new config.inputConfig).toOption.map fun controller =>
    controller.initialiseAll levels availableGpios
  pins := availableGpios
  nowMs := 0

/-- The next pin of the pass. A result with an error is skipped. -/
def sample (rawHigh : Bool) (self : InputTask) : Option (Reading × InputSampleResult) × InputTask :=
  match self.controller,self.pins with
  | some controller,gpio :: pins =>
    if controller.hasGpio gpio then
      let (result,controller) := controller.update gpio rawHigh self.nowMs
      (some ({ gpio,rawHigh,nowMs := self.nowMs },result.toOption.getD { inputEvents := [],actions := [] }),
        { self with controller := some controller,pins })
    else (none,{ self with pins })
  | _,_ => (none,self)

/-- The next pass, ten milliseconds later. -/
def nextPass (self : InputTask) : InputTask :=
  if self.pins = [] then { self with pins := availableGpios,nowMs := tickMs self.nowMs } else self

end InputTask

/-- The two tasks, with a record of what has happened. -/
structure NodeTasks where
  input : InputTask
  actionEvents : Mailbox TriggeredAction
  sender : EventSender
  readings : List Reading
  detected : List DetectedInputEvent
  taken : List TriggeredAction
  created : List PendingEvent
  delivered : List PendingEvent

inductive Turn where
  | sample (rawHigh : Bool)
  | nextPass
  | send
  | take
  | attempt (discovered sends : Bool)
  | wait (received : Received) (deadlineReached : Bool)

namespace NodeTasks

def new (config : PersistedNodeConfig) (levels : UInt8 → Bool) (sender : EventSender) : NodeTasks where
  input := .new config levels
  actionEvents := .empty
  sender
  readings := []
  detected := []
  taken := []
  created := []
  delivered := []

/-- While the input task waits to send an action, it neither samples nor sleeps. -/
def turn (skip : Reader Unit) (self : NodeTasks) : Turn → NodeTasks
  | .sample rawHigh =>
    if self.actionEvents.outbox = [] then
      match self.input.sample rawHigh with
      | (none,input) => { self with input }
      | (some (reading,result),input) =>
        { self with
          input
          actionEvents := self.actionEvents.offer result.actions
          readings := self.readings ++ [reading]
          detected := self.detected ++ result.inputEvents }
    else self
  | .nextPass => if self.actionEvents.outbox = [] then { self with input := self.input.nextPass } else self
  | .send => { self with actionEvents := self.actionEvents.send actionEventsCapacity }
  | .take =>
    if self.sender.phase = .idle then
      match self.actionEvents.receive with
      | (none,_) => self
      | (some action,actionEvents) =>
        let (event,sender) := self.sender.accept skip action
        { self with
          actionEvents,sender
          taken := self.taken ++ [action]
          created := self.created ++ event.toList }
    else self
  | .attempt discovered sends => { self with sender := (self.sender.attempt discovered sends).2 }
  | .wait received deadlineReached =>
    let (event,sender) := self.sender.waitForAck skip received deadlineReached
    { self with sender,delivered := self.delivered ++ event.toList }

def run (skip : Reader Unit) (self : NodeTasks) (turns : List Turn) : NodeTasks := turns.foldl (turn skip) self

end NodeTasks

/-! ### Detectors of their own -/

/-- An input with these settings and this detector. -/
def runtime (gpioInput : GpioInputConfig) (detector : GestureDetector) : RuntimeInput where
  gpio := gpioInput.gpio
  activeHigh := gpioInput.activeHigh
  debounceMs := gpioInput.debounceMs
  detector := detector

def timingOf (config : InputConfig) (gpioInput : GpioInputConfig) : GestureTiming where
  debounceMs := gpioInput.debounceMs.toNat
  doubleClickIntervalMs := config.doubleClickIntervalMs.toNat
  longPressThresholdMs := config.longPressThresholdMs.toNat

def activeOf (gpioInput : GpioInputConfig) (rawHigh : Bool) : Bool :=
  if gpioInput.activeHigh then rawHigh else !rawHigh

/-- The readings of a pin, as a detector sees them. -/
def samplesOf (gpioInput : GpioInputConfig) (readings : List Reading) : List Sample :=
  (readings.filter (·.gpio = gpioInput.gpio)).map fun reading =>
    { active := activeOf gpioInput reading.rawHigh,nowMs := reading.nowMs }

/-- The detector of a pin when the first pass begins. -/
def initialDetector (levels : UInt8 → Bool) (gpioInput : GpioInputConfig) : GestureDetector :=
  if gpioInput.gpio ∈ availableGpios then
    GestureDetector.new.initialized (activeOf gpioInput (levels gpioInput.gpio)) 0
  else .new

/-- A detector that sees the readings of its pin and no others. -/
def loneRun (config : InputConfig) (levels : UInt8 → Bool) (readings : List Reading) (gpioInput : GpioInputConfig) :
    GestureDetector × List InputEvent :=
  (initialDetector levels gpioInput).run (timingOf config gpioInput) (samplesOf gpioInput readings)

/-- The controller has this detector for each configured input. -/
structure Holds (config : InputConfig) (controller : InputController)
    (detectorOf : GpioInputConfig → GestureDetector) : Prop where
  mappings : controller.mappings = config.mappings
  doubleClick : controller.doubleClickIntervalMs = config.doubleClickIntervalMs
  longPress : controller.longPressThresholdMs = config.longPressThresholdMs
  gpios : controller.inputs.map (·.gpio) = config.gpioInputs.map (·.gpio)
  inputs : ∀ gpioInput ∈ config.gpioInputs,
    controller.inputs.find? (·.gpio = gpioInput.gpio) = some (runtime gpioInput (detectorOf gpioInput))

section
variable {config : InputConfig} {controller : InputController} {detectorOf : GpioInputConfig → GestureDetector}

theorem find_runtime {gpioInputs : List GpioInputConfig} (distinct : (gpioInputs.map (·.gpio)).Nodup)
    {gpioInput : GpioInputConfig} (listed : gpioInput ∈ gpioInputs) :
    (gpioInputs.map (runtime · .new)).find? (·.gpio = gpioInput.gpio) = some (runtime gpioInput .new) := by
  induction gpioInputs with
  | nil => cases listed
  | cons first gpioInputs ih =>
    obtain ⟨fresh,distinct⟩ := List.nodup_cons.mp distinct
    rcases List.mem_cons.mp listed with rfl | later
    · simp [runtime]
    · have apart : first.gpio ≠ gpioInput.gpio := fun same =>
        fresh (List.mem_map.mpr ⟨gpioInput,later,same.symm⟩)
      simpa [runtime,apart] using ih distinct later

theorem addInputs_runtime {inputs result : List RuntimeInput} {gpioInputs : List GpioInputConfig}
    (added : InputController.addInputs inputs gpioInputs = .ok result) :
    result = inputs ++ gpioInputs.map (runtime · .new) := by
  induction gpioInputs generalizing inputs with
  | nil =>
    cases added
    simp
  | cons gpioInput gpioInputs ih =>
    obtain ⟨-,-,added⟩ := InputController.addInputs_cons.mp added
    rw [ih added]
    simp [runtime]

theorem holds_new (built : InputController.new config = .ok controller) : Holds config controller fun _ => .new := by
  have distinct := (InputController.new_spec built).2.2.1
  obtain ⟨inputs,added,built⟩ := bind_ok.mp built
  obtain ⟨⟨⟩,-,built⟩ := bind_ok.mp built
  cases built
  have all := addInputs_runtime added
  rw [List.nil_append] at all
  refine ⟨rfl,rfl,rfl,?_,fun gpioInput listed => ?_⟩
  · rw [all,List.map_map]
    rfl
  · change inputs.find? _ = _
    rw [all]
    exact find_runtime distinct listed

/-- A change of one input changes its detector and no other. -/
theorem Holds.onInput (holds : Holds config controller detectorOf) {α : Type} (gpio : UInt8)
    {change : RuntimeInput → α × RuntimeInput} {result : α} {next : List RuntimeInput}
    (after : GpioInputConfig → GestureDetector)
    (keeps : ∀ input, (change input).2.gpio = input.gpio)
    (changes : ∀ gpioInput, gpioInput.gpio = gpio →
      (change (runtime gpioInput (detectorOf gpioInput))).2 = runtime gpioInput (after gpioInput))
    (stays : ∀ gpioInput, gpioInput.gpio ≠ gpio → after gpioInput = detectorOf gpioInput)
    (changed : InputController.onInput gpio change controller.inputs = some (result,next)) :
    Holds config { controller with inputs := next } after where
  mappings := holds.mappings
  doubleClick := holds.doubleClick
  longPress := holds.longPress
  gpios := (InputController.onInput_gpios gpio change keeps changed).trans holds.gpios
  inputs gpioInput listed := by
    have known := holds.inputs gpioInput listed
    by_cases own : gpioInput.gpio = gpio
    · rw [own] at known ⊢
      obtain ⟨next',changed',found⟩ := InputController.onInput_some gpio change known (keeps _)
      rw [changed] at changed'
      obtain ⟨-,rfl⟩ := Prod.mk.inj (Option.some.inj changed')
      rw [← changes gpioInput own]
      exact found
    · rw [stays gpioInput own,← known]
      exact InputController.onInput_other gpio change own keeps changed

theorem Holds.hasGpio (holds : Holds config controller detectorOf) {gpio : UInt8} :
    controller.hasGpio gpio = true ↔ gpio ∈ config.gpioInputs.map (·.gpio) := by
  rw [← holds.gpios]
  simp [InputController.hasGpio]

theorem Holds.congr (holds : Holds config controller detectorOf) {detectorOf' : GpioInputConfig → GestureDetector}
    (same : ∀ gpioInput ∈ config.gpioInputs, detectorOf' gpioInput = detectorOf gpioInput) :
    Holds config controller detectorOf' :=
  { holds with inputs := fun gpioInput listed => by rw [same gpioInput listed]; exact holds.inputs gpioInput listed }

theorem Holds.known (holds : Holds config controller detectorOf) {gpio : UInt8} (has : controller.hasGpio gpio = true) :
    ∃ gpioInput ∈ config.gpioInputs, gpioInput.gpio = gpio ∧
      controller.inputs.find? (·.gpio = gpio) = some (runtime gpioInput (detectorOf gpioInput)) := by
  obtain ⟨gpioInput,listed,rfl⟩ := List.mem_map.mp (holds.hasGpio.mp has)
  exact ⟨gpioInput,listed,rfl,holds.inputs gpioInput listed⟩

theorem Holds.initialise (holds : Holds config controller detectorOf) {gpio : UInt8}
    (has : controller.hasGpio gpio = true) (rawHigh : Bool) :
    Holds config (controller.initialise gpio rawHigh 0).2 fun gpioInput =>
      if gpioInput.gpio = gpio then GestureDetector.new.initialized (activeOf gpioInput rawHigh) 0
      else detectorOf gpioInput := by
  obtain ⟨gpioInput,listed,rfl,found⟩ := holds.known has
  obtain ⟨next,changed,-⟩ := InputController.onInput_some gpioInput.gpio (RuntimeInput.initialise rawHigh 0) found rfl
  have after := holds.onInput gpioInput.gpio (fun other =>
      if other.gpio = gpioInput.gpio then GestureDetector.new.initialized (activeOf other rawHigh) 0
      else detectorOf other) (fun _ => rfl)
    (fun other own => by rw [if_pos own]; rfl) (fun other apart => if_neg apart) changed
  simp only [InputController.initialise,changed]
  exact after

theorem Holds.initialiseAll (levels : UInt8 → Bool) (pins : List UInt8) (holds : Holds config controller detectorOf) :
    Holds config (controller.initialiseAll levels pins) fun gpioInput =>
      if gpioInput.gpio ∈ pins then GestureDetector.new.initialized (activeOf gpioInput (levels gpioInput.gpio)) 0
      else detectorOf gpioInput := by
  induction pins generalizing controller detectorOf with
  | nil => simpa [InputController.initialiseAll] using holds
  | cons gpio pins ih =>
    unfold InputController.initialiseAll
    by_cases has : controller.hasGpio gpio = true
    · rw [if_pos has]
      refine (ih (holds.initialise has (levels gpio))).congr fun gpioInput listed => ?_
      by_cases own : gpioInput.gpio = gpio
      · simp [own]
      · simp [own]
    · rw [if_neg has]
      refine (ih holds).congr fun gpioInput listed => ?_
      have apart : gpioInput.gpio ≠ gpio := fun own =>
        has (holds.hasGpio.mpr (own ▸ List.mem_map_of_mem listed))
      simp [apart]

/-! ### One sample -/

/-- A reading of its own pin is one more sample for a detector. -/
theorem loneRun_own {levels : UInt8 → Bool} {readings : List Reading} {reading : Reading} {gpioInput : GpioInputConfig}
    (own : reading.gpio = gpioInput.gpio) :
    loneRun config levels (readings ++ [reading]) gpioInput =
      let before := loneRun config levels readings gpioInput
      let (detector,events) := before.1.update (timingOf config gpioInput)
        { active := activeOf gpioInput reading.rawHigh,nowMs := reading.nowMs } []
      (detector,before.2 ++ events) := by
  have samples : samplesOf gpioInput (readings ++ [reading]) = samplesOf gpioInput readings ++
      [{ active := activeOf gpioInput reading.rawHigh,nowMs := reading.nowMs }] := by
    simp [samplesOf,own]
  simp only [loneRun,samples,GestureDetector.run_append,GestureDetector.run,List.append_nil]

theorem loneRun_other {levels : UInt8 → Bool} {readings : List Reading} {reading : Reading} {gpioInput : GpioInputConfig}
    (apart : reading.gpio ≠ gpioInput.gpio) :
    loneRun config levels (readings ++ [reading]) gpioInput = loneRun config levels readings gpioInput := by
  have samples : samplesOf gpioInput (readings ++ [reading]) = samplesOf gpioInput readings := by
    simp [samplesOf,apart]
  simp only [loneRun,samples]

/-- What the controller holds and has detected, by detectors of their own. -/
structure Detecting (config : InputConfig) (levels : UInt8 → Bool) (readings : List Reading)
    (detected : List DetectedInputEvent) (controller : InputController) : Prop where
  holds : Holds config controller fun gpioInput => (loneRun config levels readings gpioInput).1
  configured : ∀ event ∈ detected, event.gpio ∈ config.gpioInputs.map (·.gpio)
  own : ∀ gpioInput ∈ config.gpioInputs, (detected.filter (·.gpio = gpioInput.gpio)).map (·.inputEvent) =
    (loneRun config levels readings gpioInput).2

/-- The action of a detected event. -/
def actionOfEvent (config : InputConfig) (event : DetectedInputEvent) : Option TriggeredAction :=
  InputController.actionOf config.mappings event.gpio event.inputEvent

theorem detecting_new (built : InputController.new config = .ok controller) (levels : UInt8 → Bool) :
    Detecting config levels [] [] (controller.initialiseAll levels availableGpios) where
  holds := ((holds_new built).initialiseAll levels availableGpios).congr fun _ _ => rfl
  configured _ among := absurd among List.not_mem_nil
  own _ _ := rfl

variable {levels : UInt8 → Bool} {readings : List Reading} {detected : List DetectedInputEvent}

/-- A sample is judged by the detector of its pin, and its events trigger their actions. -/
theorem Detecting.update (detecting : Detecting config levels readings detected controller)
    (unambiguous : InputController.Unambiguous config.mappings) {gpio : UInt8} (has : controller.hasGpio gpio = true)
    (rawHigh : Bool) (nowMs : Nat) :
    ∃ result, (controller.update gpio rawHigh nowMs).1 = .ok result ∧
      result.actions = result.inputEvents.filterMap (actionOfEvent config) ∧
      Detecting config levels (readings ++ [.mk gpio rawHigh nowMs]) (detected ++ result.inputEvents)
        (controller.update gpio rawHigh nowMs).2 := by
  obtain ⟨gpioInput,listed,rfl,found⟩ := detecting.holds.known has
  have holds := detecting.holds
  have timed (other : GpioInputConfig) :
      RuntimeInput.update controller.doubleClickIntervalMs controller.longPressThresholdMs rawHigh nowMs
        (runtime other (loneRun config levels readings other).1) =
      let after := (loneRun config levels readings other).1.update (timingOf config other)
        { active := activeOf other rawHigh,nowMs } []
      (after.2,runtime other after.1) := by
    rw [holds.doubleClick,holds.longPress]
    rfl
  have replied := InputController.update_eq (holds.mappings ▸ unambiguous) found rawHigh nowMs
  simp only [holds.doubleClick,holds.longPress,holds.mappings,← GestureDetector.update_detected] at replied
  obtain ⟨next,changed,-⟩ := InputController.onInput_some gpioInput.gpio (RuntimeInput.update
    controller.doubleClickIntervalMs controller.longPressThresholdMs rawHigh nowMs) found rfl
  refine ⟨_,replied,?_,?_⟩
  · simp only [List.filterMap_map]
    rfl
  · refine { holds := ?_, configured := fun event among => ?_, own := fun other known => ?_ }
    · have after := holds.onInput gpioInput.gpio
        (fun other => (loneRun config levels (readings ++ [.mk gpioInput.gpio rawHigh nowMs]) other).1) (fun _ => rfl)
        (fun other own => by rw [timed,loneRun_own own.symm]) (fun other apart => by rw [loneRun_other (Ne.symm apart)])
        changed
      simp only [InputController.update,changed]
      exact after
    · rcases List.mem_append.mp among with before | new
      · exact detecting.configured event before
      · obtain ⟨inputEvent,-,rfl⟩ := List.mem_map.mp new
        exact List.mem_map_of_mem listed
    · rw [List.filter_append,List.map_append,detecting.own other known]
      by_cases same : other.gpio = gpioInput.gpio
      · have one : other = gpioInput := by
          have twice := holds.inputs other known
          rw [same,found] at twice
          obtain ⟨-,high,lasting,-⟩ := RuntimeInput.mk.inj (Option.some.inj twice)
          obtain ⟨otherGpio,otherHigh,otherLasting⟩ := other
          cases same
          cases high
          cases lasting
          rfl
        subst one
        have all (events : List InputEvent) : ((events.map fun inputEvent =>
            ({ gpio := other.gpio,inputEvent } : DetectedInputEvent)).filter (·.gpio = other.gpio)).map (·.inputEvent) =
              events := by
          simp [List.filter_map,Function.comp_def]
        rw [loneRun_own rfl,all]
        rfl
      · rw [loneRun_other (Ne.symm same)]
        simp [List.filter_map,Function.comp_def,Ne.symm same]

/-! ### The order of the readings -/

/-- The time of a pass. -/
def clockMs (pass : Nat) : Nat := min (10 * pass) (UInt64.size - 1)

/-- The pins that are read, with the time of their pass. -/
def readPins (config : InputConfig) (pins : List UInt8) (pass : Nat) : List (UInt8 × Nat) :=
  (pins.filter (· ∈ config.gpioInputs.map (·.gpio))).map (·,clockMs pass)

/-- The passes that are over. -/
def passes (config : InputConfig) (count : Nat) : List (UInt8 × Nat) :=
  (List.range count).flatMap (readPins config availableGpios)

/-- Pass after pass, the pins in use are read in their order. -/
def Scheduled (config : InputConfig) (pins : List UInt8) (nowMs : Nat) (readings : List Reading) : Prop :=
  ∃ pass front, availableGpios = front ++ pins ∧ nowMs = clockMs pass ∧
    readings.map (fun reading => (reading.gpio,reading.nowMs)) = passes config pass ++ readPins config front pass

theorem tickMs_clockMs (pass : Nat) : tickMs (clockMs pass) = clockMs (pass + 1) := by
  simp only [tickMs,clockMs,UInt64.size]
  omega

variable {pins : List UInt8} {gpio : UInt8} {nowMs : Nat}

theorem readPins_concat (front : List UInt8) (gpio : UInt8) (pass : Nat) :
    readPins config (front ++ [gpio]) pass = readPins config front pass ++
      if gpio ∈ config.gpioInputs.map (·.gpio) then [(gpio,clockMs pass)] else [] := by
  unfold readPins
  rw [List.filter_append,List.map_append]
  by_cases configured : gpio ∈ config.gpioInputs.map (·.gpio)
  · rw [if_pos configured,List.filter_singleton,decide_eq_true configured]
    rfl
  · rw [if_neg configured,List.filter_singleton,decide_eq_false configured]
    rfl

theorem scheduled_new : Scheduled config availableGpios 0 [] := ⟨0,[],rfl,rfl,rfl⟩

theorem Scheduled.read (scheduled : Scheduled config (gpio :: pins) nowMs readings)
    (configured : gpio ∈ config.gpioInputs.map (·.gpio)) (rawHigh : Bool) :
    Scheduled config pins nowMs (readings ++ [.mk gpio rawHigh nowMs]) := by
  obtain ⟨pass,front,all,clock,order⟩ := scheduled
  refine ⟨pass,front ++ [gpio],by rw [all,List.append_assoc]; rfl,clock,?_⟩
  rw [List.map_append,order,List.append_assoc,readPins_concat,if_pos configured,clock]
  rfl

theorem Scheduled.skip (scheduled : Scheduled config (gpio :: pins) nowMs readings)
    (unused : gpio ∉ config.gpioInputs.map (·.gpio)) : Scheduled config pins nowMs readings := by
  obtain ⟨pass,front,all,clock,order⟩ := scheduled
  refine ⟨pass,front ++ [gpio],by rw [all,List.append_assoc]; rfl,clock,?_⟩
  rw [order,readPins_concat,if_neg unused,List.append_nil]

theorem Scheduled.nextPass (scheduled : Scheduled config [] nowMs readings) :
    Scheduled config availableGpios (tickMs nowMs) readings := by
  obtain ⟨pass,front,all,clock,order⟩ := scheduled
  rw [List.append_nil] at all
  refine ⟨pass + 1,[],rfl,clock ▸ tickMs_clockMs pass,?_⟩
  rw [order,← all,passes,passes,List.range_succ,List.flatMap_append]
  simp [readPins]

end

/-! ### The events of the actions -/

/-- The events of a boot, numbered from one. -/
def numbered (deviceId : DeviceId) (bootId : UInt64) (actions : List TriggeredAction) :
    List (DeviceId × String × ActionId) :=
  actions.zipIdx.map fun (action,place) => (deviceId,eventIdText bootId (UInt64.ofNat (place + 1)),action.actionId)

/-- Each action taken has become an event, until the numbers run out; and what is delivered
comes in the order of the events. -/
structure Numbered (deviceId : DeviceId) (bootId : UInt64) (sender : EventSender) (taken : List TriggeredAction)
    (created delivered : List PendingEvent) : Prop where
  device : sender.protocol.deviceId = deviceId
  boot : sender.protocol.eventIds.bootId = bootId
  sequence : sender.protocol.eventIds.nextSequence.toNat = min (taken.length + 1) (UInt64.size - 1)
  events : created.map (fun event => (event.deviceId,event.eventId.val,event.actionId)) =
    numbered deviceId bootId (taken.take (UInt64.size - 2))
  settled : ∃ done, delivered.Sublist done ∧
    created = done ++ (sender.phase.pending.map (·.1)).toList

section
variable {skip : Reader Unit} {deviceId : DeviceId} {bootId : UInt64} {sender : EventSender}
  {taken : List TriggeredAction} {created delivered : List PendingEvent}

theorem numbered_concat (actions : List TriggeredAction) (action : TriggeredAction) :
    numbered deviceId bootId (actions ++ [action]) = numbered deviceId bootId actions ++
      [(deviceId,eventIdText bootId (UInt64.ofNat (actions.length + 1)),action.actionId)] := by
  simp [numbered,List.zipIdx_append]

theorem numbered_new {eventRetryCount : UInt8}
    (booted : EventSender.new deviceId.val bootId eventRetryCount = .ok sender) :
    Numbered deviceId bootId sender [] [] [] := by
  obtain ⟨protocol,idle⟩ := EventSender.new_ok booted
  refine ⟨by rw [protocol],by rw [protocol]; rfl,by rw [protocol]; rfl,rfl,[],.slnil,?_⟩
  rw [idle]
  rfl

namespace EventSender

/-- An idle sender refuses an action only when the numbers have run out. -/
theorem accept_idle (skip : Reader Unit) (self : EventSender) (action : TriggeredAction) (idle : self.phase = .idle) :
    (self.accept skip action = (none,self) ∧ UInt64.size ≤ self.protocol.eventIds.nextSequence.toNat + 1) ∨
      ∃ event next, self.accept skip action = (some event,next) ∧ Makes self.protocol action event next.protocol ∧
        self.protocol.eventIds.nextSequence.toNat + 1 < UInt64.size ∧
        (next.phase.pending = none ∨ ∃ tx, next.phase.pending = some (event,tx)) := by
  rcases accept_cases skip self action with same | ⟨event,next,accepted,makes,pending⟩
  · refine .inl ⟨same,?_⟩
    rcases nextEventId_eq self.protocol.eventIds with ⟨eventId,-,-,found⟩ | ⟨exhausted,-⟩
    · unfold accept NodeUdpProtocol.eventFromAction at same
      simp only [idle,found] at same
      split at same <;> cases congrArg Prod.fst same
    · exact exhausted
  · refine .inr ⟨event,next,accepted,makes,?_,?_⟩
    · rcases nextEventId_eq self.protocol.eventIds with ⟨-,-,more,-⟩ | ⟨-,exhausted⟩
      · exact more
      · unfold accept NodeUdpProtocol.eventFromAction at accepted
        simp only [idle,exhausted] at accepted
        cases congrArg Prod.fst accepted
    · cases busy : next.phase.pending with
      | none => exact .inl rfl
      | some onItsWay =>
        obtain ⟨rfl,-⟩ := pending onItsWay.1 onItsWay.2 busy
        exact .inr ⟨_,rfl⟩

/-- An event that was delivered is no longer on its way. -/
theorem waitForAck_delivered {self : EventSender} {received : Received} {deadlineReached : Bool} {event : PendingEvent}
    (delivered : (self.waitForAck skip received deadlineReached).1 = some event) :
    (self.waitForAck skip received deadlineReached).2.phase = .idle := by
  obtain ⟨protocol,eventRetryCount,phase⟩ := self
  cases phase with
  | idle => rfl
  | sending pending tx retryPolicy => cases delivered
  | waiting pending tx retryPolicy =>
    cases received with
    | elapsed => cases delivered
    | failed => cases delivered
    | datagram payload =>
      by_cases matched : protocol.ackMatches skip pending payload = true
      · simp only [waitForAck,if_pos matched]
      · simp [waitForAck,if_neg matched] at delivered

end EventSender

theorem Numbered.take (numbers : Numbered deviceId bootId sender taken created delivered) (idle : sender.phase = .idle)
    (action : TriggeredAction) : Numbered deviceId bootId (sender.accept skip action).2 (taken ++ [action])
      (created ++ (sender.accept skip action).1.toList) delivered := by
  obtain ⟨device,boot,sequence,events,done,among,all⟩ := numbers
  have limit : (2 : Nat) < UInt64.size := by decide
  rw [idle] at all
  rcases EventSender.accept_idle skip sender action idle with ⟨refused,exhausted⟩ |
    ⟨event,next,accepted,makes,more,pending⟩
  · rw [refused]
    have enough : UInt64.size - 2 ≤ taken.length := by omega
    refine ⟨device,boot,?_,?_,done,among,?_⟩
    · change sender.protocol.eventIds.nextSequence.toNat = _
      rw [List.length_append,List.length_singleton]
      omega
    · rw [List.take_append_of_le_length enough,Option.toList_none,List.append_nil]
      exact events
    · rw [all,idle]
      exact List.append_nil _
  · rw [accepted]
    have room : taken.length + 1 ≤ UInt64.size - 2 := by omega
    have number : sender.protocol.eventIds.nextSequence = UInt64.ofNat (taken.length + 1) := by
      apply UInt64.toNat_inj.mp
      rw [UInt64.toNat_ofNat_of_lt' (by omega)]
      omega
    refine ⟨makes.owner.trans device,makes.boot.trans boot,?_,?_,?_⟩
    · rw [makes.sequence,List.length_append,List.length_singleton]
      omega
    · rw [List.take_of_length_le (by omega)] at events
      rw [List.map_append,events,List.take_of_length_le (by simpa using room),numbered_concat]
      simp only [Option.toList_some,List.map_cons,List.map_nil,makes.device,makes.asked,makes.identifier,device,boot,
        number]
    · rcases pending with settled | ⟨tx,onItsWay⟩
      · refine ⟨done ++ [event],among.trans (List.sublist_append_left _ _),?_⟩
        rw [all,settled]
        simp [SenderPhase.pending]
      · refine ⟨done,among,?_⟩
        rw [all,onItsWay]
        simp [SenderPhase.pending]

theorem Numbered.attempt (numbers : Numbered deviceId bootId sender taken created delivered) (discovered sends : Bool) :
    Numbered deviceId bootId (sender.attempt discovered sends).2 taken created delivered := by
  obtain ⟨device,boot,sequence,events,done,among,all⟩ := numbers
  obtain ⟨protocol,onItsWay,-⟩ := sender.attempt_cases discovered sends
  refine ⟨protocol ▸ device,protocol ▸ boot,protocol ▸ sequence,events,?_⟩
  cases left : (sender.attempt discovered sends).2.phase.pending with
  | none => exact ⟨created,among.trans (all ▸ List.sublist_append_left _ _),(List.append_nil _).symm⟩
  | some pending =>
    rw [onItsWay pending left] at all
    exact ⟨done,among,all⟩

theorem Numbered.wait (numbers : Numbered deviceId bootId sender taken created delivered) (received : Received)
    (deadlineReached : Bool) : Numbered deviceId bootId (sender.waitForAck skip received deadlineReached).2 taken created
      (delivered ++ (sender.waitForAck skip received deadlineReached).1.toList) := by
  obtain ⟨device,boot,sequence,events,done,among,all⟩ := numbers
  obtain ⟨protocol,onItsWay,acknowledged⟩ := sender.waitForAck_cases skip received deadlineReached
  refine ⟨protocol ▸ device,protocol ▸ boot,protocol ▸ sequence,events,?_⟩
  cases outcome : (sender.waitForAck skip received deadlineReached).1 with
  | none =>
    rw [Option.toList_none,List.append_nil]
    cases left : (sender.waitForAck skip received deadlineReached).2.phase.pending with
    | none => exact ⟨created,among.trans (all ▸ List.sublist_append_left _ _),(List.append_nil _).symm⟩
    | some pending =>
      rw [onItsWay pending left] at all
      exact ⟨done,among,all⟩
  | some event =>
    obtain ⟨tx,payload,waiting,-,-⟩ := acknowledged event outcome
    rw [EventSender.waitForAck_delivered outcome]
    rw [waiting] at all
    exact ⟨created,all ▸ among.append_right [event],(List.append_nil _).symm⟩

end

/-! ### All turns -/

/-- What holds between the two tasks at any time. -/
structure Pipeline (config : InputConfig) (levels : UInt8 → Bool) (deviceId : DeviceId) (bootId : UInt64)
    (tasks : NodeTasks) : Prop where
  detecting : ∃ controller, tasks.input.controller = some controller ∧
    Detecting config levels tasks.readings tasks.detected controller
  scheduled : Scheduled config tasks.input.pins tasks.input.nowMs tasks.readings
  conserved : tasks.taken ++ tasks.actionEvents.items = tasks.detected.filterMap (actionOfEvent config)
  bounded : tasks.actionEvents.queue.length ≤ actionEventsCapacity
  numbers : Numbered deviceId bootId tasks.sender tasks.taken tasks.created tasks.delivered

section
variable {skip : Reader Unit} {config : InputConfig} {levels : UInt8 → Bool} {deviceId : DeviceId} {bootId : UInt64}
  {tasks : NodeTasks}

theorem Pipeline.sample (pipeline : Pipeline config levels deviceId bootId tasks)
    (unambiguous : InputController.Unambiguous config.mappings) (rawHigh : Bool) :
    Pipeline config levels deviceId bootId (tasks.turn skip (.sample rawHigh)) := by
  obtain ⟨⟨controller,held,detecting⟩,scheduled,conserved,bounded,numbers⟩ := pipeline
  simp only [NodeTasks.turn]
  by_cases free : tasks.actionEvents.outbox = []
  · rw [if_pos free]
    unfold InputTask.sample
    cases pins : tasks.input.pins with
    | nil =>
      simp only [held]
      exact ⟨⟨controller,held,detecting⟩,scheduled,conserved,bounded,numbers⟩
    | cons gpio pins =>
      rw [pins] at scheduled
      by_cases has : controller.hasGpio gpio = true
      · obtain ⟨result,updated,triggered,detecting'⟩ := detecting.update unambiguous has rawHigh tasks.input.nowMs
        simp only [held,if_pos has,updated,Except.toOption,Option.getD_some]
        refine ⟨⟨_,rfl,detecting'⟩,scheduled.read (detecting.holds.hasGpio.mp has) rawHigh,?_,bounded,numbers⟩
        rw [Mailbox.items_offer,← List.append_assoc,conserved,triggered,List.filterMap_append]
      · simp only [held,if_neg has]
        exact ⟨⟨controller,rfl,detecting⟩,scheduled.skip fun configured => has (detecting.holds.hasGpio.mpr configured),
          conserved,bounded,numbers⟩
  · rw [if_neg free]
    exact ⟨⟨controller,held,detecting⟩,scheduled,conserved,bounded,numbers⟩

theorem Pipeline.turn (pipeline : Pipeline config levels deviceId bootId tasks)
    (unambiguous : InputController.Unambiguous config.mappings) (turn : Turn) :
    Pipeline config levels deviceId bootId (tasks.turn skip turn) := by
  cases turn with
  | sample rawHigh => exact pipeline.sample unambiguous rawHigh
  | nextPass =>
    simp only [NodeTasks.turn,InputTask.nextPass]
    by_cases free : tasks.actionEvents.outbox = []
    · rw [if_pos free]
      by_cases ended : tasks.input.pins = []
      · rw [if_pos ended]
        exact { pipeline with scheduled := Scheduled.nextPass (ended ▸ pipeline.scheduled) }
      · rw [if_neg ended]
        exact pipeline
    · rw [if_neg free]
      exact pipeline
  | send =>
    exact { pipeline with
      conserved := by
        change tasks.taken ++ (tasks.actionEvents.send actionEventsCapacity).items = _
        rw [Mailbox.items_send]
        exact pipeline.conserved
      bounded := Mailbox.bounded_send _ _ pipeline.bounded }
  | take =>
    simp only [NodeTasks.turn]
    by_cases idle : tasks.sender.phase = .idle
    · rw [if_pos idle]
      have received := tasks.actionEvents.items_receive
      have bounded := Mailbox.bounded_receive actionEventsCapacity tasks.actionEvents pipeline.bounded
      rcases taking : tasks.actionEvents.receive with ⟨_ | action,rest⟩
      · exact pipeline
      · rw [taking] at received bounded
        refine { pipeline with conserved := ?_, bounded := bounded, numbers := pipeline.numbers.take idle action }
        rw [← pipeline.conserved,← received]
        exact List.append_assoc _ _ _
    · rw [if_neg idle]
      exact pipeline
  | attempt discovered sends => exact { pipeline with numbers := pipeline.numbers.attempt discovered sends }
  | wait received deadlineReached => exact { pipeline with numbers := pipeline.numbers.wait received deadlineReached }

variable (skip) in
theorem Pipeline.run (pipeline : Pipeline config levels deviceId bootId tasks)
    (unambiguous : InputController.Unambiguous config.mappings) (turns : List Turn) :
    Pipeline config levels deviceId bootId (tasks.run skip turns) := by
  induction turns generalizing tasks with
  | nil => exact pipeline
  | cons turn turns ih => exact ih (pipeline.turn unambiguous turn)

end

theorem pipeline_new {config : PersistedNodeConfig} {controller : InputController} {bootId : UInt64}
    {sender : EventSender} (built : InputController.new config.inputConfig = .ok controller)
    (booted : EventSender.new config.deviceId.val bootId config.eventRetryCount = .ok sender) (levels : UInt8 → Bool) :
    Pipeline config.inputConfig levels config.deviceId bootId (.new config levels sender) where
  detecting := ⟨_,by rw [NodeTasks.new,InputTask.new,built]; rfl,detecting_new built levels⟩
  scheduled := scheduled_new
  conserved := rfl
  bounded := Nat.zero_le _
  numbers := numbered_new booted

/-- Pass after pass the pins in use are read in their order, each for a detector of its own.
Every action of a detected event, and nothing else, is taken in that order or is still under
way; the channel never holds more than it has room for; the actions taken are the events of
the boot, numbered from one until the numbers run out; and events are delivered at most once
and in their order. -/
theorem no_action_is_lost (skip : Reader Unit) {config : PersistedNodeConfig} {controller : InputController}
    {bootId : UInt64} {sender : EventSender} (built : InputController.new config.inputConfig = .ok controller)
    (booted : EventSender.new config.deviceId.val bootId config.eventRetryCount = .ok sender) (levels : UInt8 → Bool)
    (turns : List Turn) :
    let tasks := (NodeTasks.new config levels sender).run skip turns
    Scheduled config.inputConfig tasks.input.pins tasks.input.nowMs tasks.readings ∧
    ((∀ event ∈ tasks.detected, event.gpio ∈ config.gpioInputs.items.map (·.gpio)) ∧
      ∀ gpioInput ∈ config.gpioInputs.items,
        (tasks.detected.filter (·.gpio = gpioInput.gpio)).map (·.inputEvent) =
          (loneRun config.inputConfig levels tasks.readings gpioInput).2) ∧
    (tasks.taken ++ tasks.actionEvents.items = tasks.detected.filterMap (actionOfEvent config.inputConfig) ∧
      tasks.actionEvents.queue.length ≤ actionEventsCapacity) ∧
    tasks.created.map (fun event => (event.deviceId,event.eventId.val,event.actionId)) =
      numbered config.deviceId bootId (tasks.taken.take (UInt64.size - 2)) ∧
    ∃ done, tasks.delivered.Sublist done ∧ tasks.created = done ++ (tasks.sender.phase.pending.map (·.1)).toList := by
  intro tasks
  have unambiguous := (InputController.new_spec built).2.2.2
  obtain ⟨⟨_,-,detecting⟩,scheduled,conserved,bounded,numbers⟩ :=
    (pipeline_new built booted levels).run skip unambiguous turns
  exact ⟨scheduled,⟨detecting.configured,detecting.own⟩,⟨conserved,bounded⟩,numbers.events,numbers.settled⟩

/-- One input with one mapping. -/
def oneButton : PersistedNodeConfig :=
  { PersistedNodeConfig.defaults with
    gpioInputs := ⟨[{ gpio := 0,activeHigh := true,debounceMs := 10 }],by decide⟩
    inputMappings := ⟨[{ gpio := 0,inputEvent := .offToOn,actionId := 7,enabled := true }],by decide⟩ }

/-- The input is active in two passes, and its action is taken. -/
def oneTurnOn : List Turn :=
  List.replicate 26 (.sample true) ++ [.nextPass,.sample true,.send,.take]

theorem no_action_is_lost_button : ∃ sender,
    EventSender.new oneButton.deviceId.val 1 oneButton.eventRetryCount = .ok sender ∧
      let tasks := (NodeTasks.new oneButton (fun _ => false) sender).run (fun _ => none) oneTurnOn
      tasks.taken = [{ actionId := 7 }] ∧
        tasks.taken ++ tasks.actionEvents.items = tasks.detected.filterMap (actionOfEvent oneButton.inputConfig) := by
  obtain ⟨sender,booted⟩ : ∃ sender,
      EventSender.new oneButton.deviceId.val 1 oneButton.eventRetryCount = .ok sender := ⟨_,rfl⟩
  obtain ⟨controller,built⟩ : ∃ controller, InputController.new oneButton.inputConfig = .ok controller := ⟨_,rfl⟩
  have lossless := no_action_is_lost (fun _ => none) built booted (fun _ => false) oneTurnOn
  refine ⟨sender,booted,?_,lossless.2.2.1.1⟩
  cases booted
  decide +kernel

end UchiPulse.Node
