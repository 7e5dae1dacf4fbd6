import UchiPulse.Node.Controller
import UchiPulse.Node.Debounce

/-! From a detected event to its action. A sample makes at most three events and a mapping is
found for each at most once, so that nothing runs out of room. -/
namespace UchiPulse.Node
open Common

/-! ### The events of a sample -/

namespace GestureDetector
section
variable (timing : GestureTiming) (sample : Sample) (self : GestureDetector)

/-- What the window of a pending click reports. -/
def clickEvents : List InputEvent :=
  match self.pendingClickSinceMs with
  | none => []
  | some since =>
    if elapsed sample.nowMs since > timing.doubleClickIntervalMs ∧
        ¬ (sample.active = true ∧ self.candidate ≠ self.stable ∧ self.candidate = true ∧
          elapsed self.candidateSinceMs since ≤ timing.doubleClickIntervalMs) then [.click]
    else []

/-- What a level reports that has lasted. -/
def levelEvents : List InputEvent :=
  if sample.active = self.candidate ∧ self.candidate ≠ self.stable ∧
      elapsed sample.nowMs self.candidateSinceMs ≥ timing.debounceMs then
    if self.candidate then [.offToOn]
    else if self.longPressEmitted = false ∧ self.secondClickInProgress = true then [.onToOff,.doubleClick]
    else [.onToOff]
  else []

/-- What a press reports that is held. -/
def holdEvents : List InputEvent :=
  match self.pressedSinceMs with
  | none => []
  | some since =>
    if self.stable = true ∧ self.longPressEmitted = false ∧
        elapsed sample.nowMs since ≥ timing.longPressThresholdMs then [.longPress]
    else []

/-- All events of a sample, one timer after the other, in a list without a bound. -/
def detected : List InputEvent :=
  let expired := (self.expirePendingClick timing sample []).1
  let debounced := (expired.debounce timing sample []).1
  self.clickEvents timing sample ++ expired.levelEvents timing sample ++ debounced.holdEvents timing sample

theorem expirePendingClick_events : (self.expirePendingClick timing sample []).2 = self.clickEvents timing sample := by
  unfold expirePendingClick clickEvents
  cases self.pendingClickSinceMs with
  | none => rfl
  | some since =>
    simp only [gt_iff_lt,Bool.and_eq_false_iff,bne_eq_false_iff_eq,decide_eq_false_iff_not]
    split_ifs with reported listed listed
    · rfl
    · exact absurd reported (by grind)
    · exact absurd listed (by grind)
    · rfl

theorem debounce_levelEvents : (self.debounce timing sample []).2 = self.levelEvents timing sample := by
  unfold debounce levelEvents acceptPress acceptRelease
  by_cases changed : sample.active = self.candidate
  · rw [if_neg (not_not.mpr changed)]
    simp only [changed,true_and]
    split_ifs <;> first | rfl | simp_all
  · rw [if_pos changed,if_neg fun both => changed both.1]

theorem recogniseLongPress_events :
    (self.recogniseLongPress timing sample []).2 = self.holdEvents timing sample := by
  unfold recogniseLongPress holdEvents
  cases self.pressedSinceMs with
  | none => rfl
  | some since =>
    dsimp only
    split_ifs <;> rfl

/-- Nothing that is detected is dropped. -/
theorem update_detected : (self.update timing sample []).2 = self.detected timing sample := by
  simp only [update_stages,expirePendingClick_events,debounce_levelEvents,recogniseLongPress_events]
  rfl

/-- A sample reports a click at most, and then a press and a long press or the two events of a release. -/
theorem detected_length : (self.detected timing sample).length ≤ 3 := by
  have click : (self.clickEvents timing sample).length ≤ 1 := by
    unfold clickEvents
    repeat' split
    all_goals simp
  have hold (self : GestureDetector) : (self.holdEvents timing sample).length ≤ 1 := by
    unfold holdEvents
    repeat' split
    all_goals simp
  have level (self : GestureDetector) : (self.levelEvents timing sample).length ≤ 1 ∨
      (self.levelEvents timing sample).length = 2 ∧ (self.debounce timing sample []).1.stable = false := by
    unfold levelEvents debounce acceptRelease
    split_ifs <;> simp_all
  have released {self : GestureDetector} (down : self.stable = false) : self.holdEvents timing sample = [] := by
    unfold holdEvents
    cases self.pressedSinceMs <;> simp [down]
  have level := level (self.expirePendingClick timing sample []).1
  have hold := hold ((self.expirePendingClick timing sample []).1.debounce timing sample []).1
  rw [detected,List.length_append,List.length_append]
  rcases level with one | ⟨two,down⟩
  · omega
  · rw [released down,List.length_nil]
    omega

end
end GestureDetector

/-! ### The actions of the events -/

namespace InputController

/-- A mapping that applies to an event. -/
def Applies (gpio : UInt8) (inputEvent : InputEvent) (mapping : InputMapping) : Prop :=
  mapping.enabled = true ∧ mapping.gpio = gpio ∧ mapping.inputEvent = inputEvent

instance (gpio : UInt8) (inputEvent : InputEvent) (mapping : InputMapping) :
    Decidable (Applies gpio inputEvent mapping) :=
  inferInstanceAs (Decidable (_ ∧ _))

/-- The action of the first mapping that applies. -/
def actionOf (mappings : List InputMapping) (gpio : UInt8) (inputEvent : InputEvent) : Option TriggeredAction :=
  (mappings.find? fun mapping => Applies gpio inputEvent mapping).map fun mapping => { actionId := mapping.actionId }

/-- No two mappings are for the same event. -/
def Unambiguous (mappings : List InputMapping) : Prop :=
  mappings.Pairwise fun mapping other => ¬ (other.gpio = mapping.gpio ∧ other.inputEvent = mapping.inputEvent)

theorem checkMappings_unambiguous {inputs : List RuntimeInput} {mappings : List InputMapping}
    (checked : checkMappings inputs mappings = .ok ()) : Unambiguous mappings := by
  induction mappings with
  | nil => exact .nil
  | cons mapping behind ih =>
    obtain ⟨⟨⟩,-,checked⟩ := bind_ok.mp checked
    obtain ⟨⟨⟩,apart,checked⟩ := bind_ok.mp checked
    rw [failIf_ok] at apart
    refine .cons (fun other member same => apart ?_) (ih checked)
    exact List.any_eq_true.mpr ⟨other,member,decide_eq_true same⟩

theorem triggered_filter (mappings : List InputMapping) (gpio : UInt8) (inputEvent : InputEvent) :
    triggered mappings gpio inputEvent =
      (mappings.filter fun mapping => Applies gpio inputEvent mapping).map fun mapping =>
        { actionId := mapping.actionId } :=
  rfl

/-- What an event triggers is the action of its one mapping. -/
theorem triggered_eq {mappings : List InputMapping} (unambiguous : Unambiguous mappings) (gpio : UInt8)
    (inputEvent : InputEvent) :
    triggered mappings gpio inputEvent = (actionOf mappings gpio inputEvent).toList := by
  induction mappings with
  | nil => rfl
  | cons mapping behind ih =>
    obtain ⟨apart,rest⟩ := List.pairwise_cons.mp unambiguous
    by_cases applies : Applies gpio inputEvent mapping
    · have others : behind.filter (fun mapping => Applies gpio inputEvent mapping) = [] := by
        rw [List.filter_eq_nil_iff]
        intro other member also
        obtain ⟨-,gpio',event'⟩ := of_decide_eq_true also
        exact apart other member ⟨gpio'.trans applies.2.1.symm,event'.trans applies.2.2.symm⟩
      rw [triggered_filter,List.filter_cons,if_pos (decide_eq_true applies),others,actionOf,List.find?_cons,
        decide_eq_true applies]
      rfl
    · rw [triggered_filter,List.filter_cons,if_neg (by simp [applies]),actionOf,List.find?_cons,
        decide_eq_false applies]
      exact ih rest

/-- No mapping applies to an event, or a single one does and its action is found. -/
theorem applying_cases {mappings : List InputMapping} (unambiguous : Unambiguous mappings) (gpio : UInt8)
    (inputEvent : InputEvent) :
    (mappings.filter fun mapping => Applies gpio inputEvent mapping) = [] ∧ actionOf mappings gpio inputEvent = none ∨
      ∃ mapping, (mappings.filter fun mapping => Applies gpio inputEvent mapping) = [mapping] ∧
        actionOf mappings gpio inputEvent = some { actionId := mapping.actionId } := by
  have listed := triggered_eq unambiguous gpio inputEvent
  rw [triggered_filter] at listed
  cases found : actionOf mappings gpio inputEvent with
  | none =>
    rw [found] at listed
    exact .inl ⟨List.map_eq_nil_iff.mp listed,rfl⟩
  | some action =>
    rw [found] at listed
    obtain ⟨mapping,single,same⟩ := List.map_eq_singleton_iff.mp listed
    exact .inr ⟨mapping,single,by rw [same]⟩

theorem push_room {α ε : Type} {room : Nat} {error : ε} {items : List α} (space : items.length < room) (item : α) :
    push room error items item = .ok (items ++ [item]) :=
  if_pos space

/-- The loop finds room for every event and for its action. -/
theorem resolve_eq {mappings : List InputMapping} (unambiguous : Unambiguous mappings) (gpio : UInt8)
    (detected : List InputEvent) (result : InputSampleResult)
    (events : result.inputEvents.length + detected.length ≤ maxEventsPerSample)
    (actions : result.actions.length + detected.length ≤ maxEventsPerSample) :
    resolve mappings gpio result detected = .ok {
      inputEvents := result.inputEvents ++ detected.map fun inputEvent => { gpio,inputEvent }
      actions := result.actions ++ detected.filterMap (actionOf mappings gpio) } := by
  induction detected generalizing result with
  | nil => simp [resolve]
  | cons inputEvent detected ih =>
    rw [List.length_cons] at events actions
    have added : (triggered mappings gpio inputEvent).foldlM (push maxEventsPerSample
        InputProcessError.tooManyEvents) result.actions =
          .ok (result.actions ++ (actionOf mappings gpio inputEvent).toList) := by
      rw [triggered_eq unambiguous]
      cases actionOf mappings gpio inputEvent with
      | none => simp [pure,Except.pure]
      | some action =>
        simp only [Option.toList_some,List.foldlM_cons,List.foldlM_nil,bind_pure]
        exact push_room (by omega) action
    rw [resolve,push_room (by omega)]
    simp only [bind,Except.bind] at added ⊢
    rw [added]
    dsimp only
    rw [ih]
    · have first : (inputEvent :: detected).filterMap (actionOf mappings gpio) =
          (actionOf mappings gpio inputEvent).toList ++ detected.filterMap (actionOf mappings gpio) := by
        cases found : actionOf mappings gpio inputEvent <;> simp [found]
      simp only [first,List.map_cons,List.append_assoc,List.singleton_append]
    · simp only [List.length_append,List.length_singleton]
      omega
    · have one : (actionOf mappings gpio inputEvent).toList.length ≤ 1 := by
        cases actionOf mappings gpio inputEvent <;> simp
      simp only [List.length_append]
      omega

/-! ### The reachable controllers -/

/-- The timing of the gestures is replaced. -/
def setGestureTiming (self : InputController) (doubleClickIntervalMs longPressThresholdMs : UInt32) :
    InputController :=
  { self with doubleClickIntervalMs,longPressThresholdMs }

end InputController

inductive InputCommand where
  | call (call : InputCall)
  | setGestureTiming (doubleClickIntervalMs longPressThresholdMs : UInt32)
deriving DecidableEq

namespace InputController

/-- A call is replied to, a new timing is not. -/
def command (self : InputController) : InputCommand → Option InputReply × InputController
  | .call call =>
    let (reply,next) := self.call call
    (some reply,next)
  | .setGestureTiming doubleClickIntervalMs longPressThresholdMs =>
    (none,self.setGestureTiming doubleClickIntervalMs longPressThresholdMs)

/-- The settings of an input. -/
def settings (input : RuntimeInput) : GpioInputConfig where
  gpio := input.gpio
  activeHigh := input.activeHigh
  debounceMs := input.debounceMs

theorem onInput_settings {α : Type} (gpio : UInt8) (change : RuntimeInput → α × RuntimeInput)
    {inputs next : List RuntimeInput} {result : α} (keeps : ∀ input, settings (change input).2 = settings input)
    (changed : onInput gpio change inputs = some (result,next)) : next.map settings = inputs.map settings := by
  induction inputs generalizing next with
  | nil => cases changed
  | cons input inputs ih =>
    by_cases here : input.gpio = gpio
    · simp only [onInput,if_pos here,Option.some.injEq,Prod.mk.injEq] at changed
      obtain ⟨-,rfl⟩ := changed
      rw [List.map_cons,List.map_cons,keeps]
    · simp only [onInput,if_neg here,Option.map_eq_some_iff] at changed
      obtain ⟨⟨found,rest⟩,later,same⟩ := changed
      obtain ⟨rfl,rfl⟩ := Prod.mk.inj same
      rw [List.map_cons,List.map_cons,ih later]

/-- No command changes the mappings or the settings of an input. -/
theorem command_keeps (self : InputController) (command : InputCommand) :
    (self.command command).2.mappings = self.mappings ∧
      (self.command command).2.inputs.map settings = self.inputs.map settings := by
  cases command with
  | setGestureTiming doubleClick longPress => exact ⟨rfl,rfl⟩
  | call call =>
    cases call with
    | initialise gpio rawHigh nowMs =>
      simp only [InputController.command,InputController.call,initialise]
      split
      next => exact ⟨rfl,rfl⟩
      next changed => exact ⟨rfl,onInput_settings _ _ (fun _ => rfl) changed⟩
    | update gpio rawHigh nowMs =>
      simp only [InputController.command,InputController.call,update]
      split
      next => exact ⟨rfl,rfl⟩
      next changed => exact ⟨rfl,onInput_settings _ _ (fun _ => rfl) changed⟩

theorem run_keeps (self : InputController) (commands : List InputCommand) :
    (Channels.run command self commands).2.mappings = self.mappings ∧
      (Channels.run command self commands).2.inputs.map settings = self.inputs.map settings := by
  induction commands generalizing self with
  | nil => exact ⟨rfl,rfl⟩
  | cons command commands ih =>
    obtain ⟨mappings,inputs⟩ := self.command_keeps command
    obtain ⟨mappings',inputs'⟩ := ih (self.command command).2
    exact ⟨mappings'.trans mappings,inputs'.trans inputs⟩

/-- What the loop added are the configured inputs behind those it began with. -/
theorem addInputs_settings {inputs result : List RuntimeInput} {gpioInputs : List GpioInputConfig}
    (added : addInputs inputs gpioInputs = .ok result) :
    result.map settings = inputs.map settings ++ gpioInputs := by
  induction gpioInputs generalizing inputs with
  | nil =>
    cases added
    simp
  | cons gpioInput gpioInputs ih =>
    obtain ⟨-,-,added⟩ := addInputs_cons.mp added
    rw [ih added]
    simp [settings]

theorem addInputs_nodup {inputs result : List RuntimeInput} {gpioInputs : List GpioInputConfig}
    (distinct : (inputs.map (·.gpio)).Nodup) (added : addInputs inputs gpioInputs = .ok result) :
    (result.map (·.gpio)).Nodup := by
  induction gpioInputs generalizing inputs with
  | nil =>
    cases added
    exact distinct
  | cons gpioInput gpioInputs ih =>
    obtain ⟨fresh,-,added⟩ := addInputs_cons.mp added
    refine ih ?_ added
    rw [List.map_append,List.map_singleton]
    refine List.nodup_append.mpr ⟨distinct,List.nodup_singleton _,?_⟩
    rintro own member _ added rfl
    rw [List.mem_singleton] at added
    obtain ⟨input,listed,rfl⟩ := List.mem_map.mp member
    exact fresh (List.any_eq_true.mpr ⟨input,listed,decide_eq_true added⟩)

theorem new_spec {config : InputConfig} {fresh : InputController} (built : new config = .ok fresh) :
    fresh.mappings = config.mappings ∧ fresh.inputs.map settings = config.gpioInputs ∧
      (config.gpioInputs.map (·.gpio)).Nodup ∧ Unambiguous config.mappings := by
  have gpios := new_gpios built
  obtain ⟨inputs,added,built⟩ := bind_ok.mp built
  obtain ⟨⟨⟩,checked,built⟩ := bind_ok.mp built
  cases built
  have distinct : (inputs.map (·.gpio)).Nodup := addInputs_nodup (by simp) added
  exact ⟨rfl,addInputs_settings added,gpios ▸ distinct,checkMappings_unambiguous checked⟩

/-- What a sample of a configured input finds, detects and returns. -/
theorem update_eq {self : InputController} (unambiguous : Unambiguous self.mappings) {gpio : UInt8}
    {input : RuntimeInput} (known : self.inputs.find? (·.gpio = gpio) = some input) (rawHigh : Bool) (nowMs : Nat) :
    let timing : GestureTiming := {
      debounceMs := input.debounceMs.toNat
      doubleClickIntervalMs := self.doubleClickIntervalMs.toNat
      longPressThresholdMs := self.longPressThresholdMs.toNat }
    let events := input.detector.detected timing { active := input.active rawHigh,nowMs }
    (self.update gpio rawHigh nowMs).1 = .ok {
      inputEvents := events.map fun inputEvent => { gpio,inputEvent }
      actions := events.filterMap (actionOf self.mappings gpio) } := by
  intro timing events
  have three : events.length ≤ 3 := input.detector.detected_length timing { active := input.active rawHigh,nowMs }
  obtain ⟨next,changed,-⟩ := onInput_some gpio
    (RuntimeInput.update self.doubleClickIntervalMs self.longPressThresholdMs rawHigh nowMs) known rfl
  have same : (RuntimeInput.update self.doubleClickIntervalMs self.longPressThresholdMs rawHigh nowMs input).1 =
      events :=
    GestureDetector.update_detected timing { active := input.active rawHigh,nowMs } input.detector
  have resolved := resolve_eq unambiguous gpio events { inputEvents := [],actions := [] }
    (by simp only [List.length_nil,maxEventsPerSample]; omega)
    (by simp only [List.length_nil,maxEventsPerSample]; omega)
  simp only [update,changed,same,resolved,List.nil_append]

/-! ### The other polarity -/

/-- The input of a GPIO with its polarity turned. -/
def turn (gpio : UInt8) (input : RuntimeInput) : RuntimeInput :=
  if input.gpio = gpio then { input with activeHigh := !input.activeHigh } else input

/-- The controller with the polarity of a GPIO turned. -/
def turned (gpio : UInt8) (self : InputController) : InputController :=
  { self with inputs := self.inputs.map (turn gpio) }

theorem turn_gpio (gpio : UInt8) (input : RuntimeInput) : (turn gpio input).gpio = input.gpio := by
  unfold turn
  split <;> rfl

/-- A change that does not tell the turned input from the other is the same change of all inputs. -/
theorem onInput_turn {α : Type} (gpio own : UInt8) {change change' : RuntimeInput → α × RuntimeInput}
    (same : ∀ input, input.gpio = own → change' (turn gpio input) = ((change input).1,turn gpio (change input).2))
    (inputs : List RuntimeInput) :
    onInput own change' (inputs.map (turn gpio)) =
      (onInput own change inputs).map fun (result,next) => (result,next.map (turn gpio)) := by
  induction inputs with
  | nil => rfl
  | cons input inputs ih =>
    rw [List.map_cons,onInput,onInput,turn_gpio]
    by_cases here : input.gpio = own
    · rw [if_pos here,if_pos here,same input here]
      rfl
    · rw [if_neg here,if_neg here,ih]
      cases onInput own change inputs <;> rfl

end InputController

/-- The call with its level inverted where it is for the GPIO. -/
def InputCall.inverted (gpio : UInt8) : InputCall → InputCall
  | .initialise own rawHigh nowMs => .initialise own (if own = gpio then !rawHigh else rawHigh) nowMs
  | .update own rawHigh nowMs => .update own (if own = gpio then !rawHigh else rawHigh) nowMs

def InputCommand.inverted (gpio : UInt8) : InputCommand → InputCommand
  | .call inner => .call (inner.inverted gpio)
  | .setGestureTiming doubleClickIntervalMs longPressThresholdMs =>
    .setGestureTiming doubleClickIntervalMs longPressThresholdMs

def GpioInputConfig.turned (gpio : UInt8) (self : GpioInputConfig) : GpioInputConfig :=
  if self.gpio = gpio then { self with activeHigh := !self.activeHigh } else self

/-- The configuration with the polarity of a GPIO turned. -/
def InputConfig.turned (gpio : UInt8) (self : InputConfig) : InputConfig :=
  { self with gpioInputs := self.gpioInputs.map (·.turned gpio) }

namespace InputController

/-- The detector sees the same level. -/
theorem active_turn (gpio : UInt8) (input : RuntimeInput) (rawHigh : Bool) :
    (turn gpio input).active (if input.gpio = gpio then !rawHigh else rawHigh) = input.active rawHigh := by
  unfold turn RuntimeInput.active
  by_cases here : input.gpio = gpio
  · cases input.activeHigh <;> simp [here]
  · simp [here]

theorem turn_detector (gpio : UInt8) (input : RuntimeInput) (detector : GestureDetector) :
    { turn gpio input with debounceMs := input.debounceMs,detector } = turn gpio { input with detector } := by
  unfold turn
  split <;> rfl

theorem turn_fields (gpio : UInt8) (input : RuntimeInput) :
    (turn gpio input).debounceMs = input.debounceMs ∧ (turn gpio input).detector = input.detector := by
  unfold turn
  split <;> exact ⟨rfl,rfl⟩

/-- A turned controller replies to the inverted calls as the other does to the calls. -/
theorem call_turned (gpio : UInt8) (self : InputController) (call : InputCall) :
    (self.turned gpio).call (call.inverted gpio) = ((self.call call).1,(self.call call).2.turned gpio) := by
  cases call with
  | initialise own rawHigh nowMs =>
    have same (input : RuntimeInput) (here : input.gpio = own) :
        RuntimeInput.initialise (if own = gpio then !rawHigh else rawHigh) nowMs (turn gpio input) =
          ((RuntimeInput.initialise rawHigh nowMs input).1,
            turn gpio (RuntimeInput.initialise rawHigh nowMs input).2) := by
      subst here
      simp only [RuntimeInput.initialise,active_turn,turn_fields,turn_detector]
    have inputs := onInput_turn gpio own same self.inputs
    simp only [InputCall.inverted,InputController.call,initialise,turned,inputs]
    cases onInput own (RuntimeInput.initialise rawHigh nowMs) self.inputs <;> rfl
  | update own rawHigh nowMs =>
    have same (input : RuntimeInput) (here : input.gpio = own) :
        RuntimeInput.update self.doubleClickIntervalMs self.longPressThresholdMs
            (if own = gpio then !rawHigh else rawHigh) nowMs (turn gpio input) =
          ((RuntimeInput.update self.doubleClickIntervalMs self.longPressThresholdMs rawHigh nowMs input).1,
            turn gpio
              (RuntimeInput.update self.doubleClickIntervalMs self.longPressThresholdMs rawHigh nowMs input).2) := by
      subst here
      simp only [RuntimeInput.update,active_turn,turn_fields,turn_detector]
    have inputs := onInput_turn gpio own same self.inputs
    simp only [InputCall.inverted,InputController.call,update,turned,inputs]
    cases onInput own (RuntimeInput.update self.doubleClickIntervalMs self.longPressThresholdMs rawHigh nowMs)
      self.inputs <;> rfl

theorem command_turned (gpio : UInt8) (self : InputController) (command : InputCommand) :
    (self.turned gpio).command (command.inverted gpio) =
      ((self.command command).1,(self.command command).2.turned gpio) := by
  cases command with
  | call call => simp only [InputCommand.inverted,InputController.command,call_turned]
  | setGestureTiming doubleClick longPress => rfl

theorem run_turned (gpio : UInt8) (self : InputController) (commands : List InputCommand) :
    Channels.run command (self.turned gpio) (commands.map (·.inverted gpio)) =
      ((Channels.run command self commands).1,(Channels.run command self commands).2.turned gpio) := by
  induction commands generalizing self with
  | nil => rfl
  | cons command commands ih => simp only [List.map_cons,Channels.run,command_turned,ih]

theorem addInputs_turned (gpio : UInt8) {inputs result : List RuntimeInput} {gpioInputs : List GpioInputConfig}
    (added : addInputs inputs gpioInputs = .ok result) :
    addInputs (inputs.map (turn gpio)) (gpioInputs.map (·.turned gpio)) = .ok (result.map (turn gpio)) := by
  induction gpioInputs generalizing inputs with
  | nil =>
    cases added
    rfl
  | cons gpioInput gpioInputs ih =>
    obtain ⟨fresh,room,added⟩ := addInputs_cons.mp added
    have own : (gpioInput.turned gpio).gpio = gpioInput.gpio := by
      unfold GpioInputConfig.turned
      split <;> rfl
    have one : turn gpio {
          gpio := gpioInput.gpio,activeHigh := gpioInput.activeHigh,debounceMs := gpioInput.debounceMs
          detector := .new } = {
        gpio := (gpioInput.turned gpio).gpio,activeHigh := (gpioInput.turned gpio).activeHigh
        debounceMs := (gpioInput.turned gpio).debounceMs,detector := .new } := by
      unfold turn GpioInputConfig.turned
      dsimp only
      split <;> rfl
    refine addInputs_cons.mpr ⟨?_,by rwa [List.length_map],?_⟩
    · simp only [List.any_map,Function.comp_def,turn_gpio,own]
      exact fresh
    · rw [← one,← List.map_singleton,← List.map_append]
      exact ih added

theorem checkMappings_turned (gpio : UInt8) (inputs : List RuntimeInput) (mappings : List InputMapping) :
    checkMappings (inputs.map (turn gpio)) mappings = checkMappings inputs mappings := by
  induction mappings with
  | nil => rfl
  | cons mapping behind ih =>
    simp only [checkMappings,ih,List.any_map,Function.comp_def,turn_gpio]

theorem new_turned (gpio : UInt8) {config : InputConfig} {fresh : InputController} (built : new config = .ok fresh) :
    new (config.turned gpio) = .ok (fresh.turned gpio) := by
  obtain ⟨inputs,added,built⟩ := bind_ok.mp built
  obtain ⟨⟨⟩,checked,built⟩ := bind_ok.mp built
  cases built
  refine bind_ok.mpr ⟨_,addInputs_turned gpio added,bind_ok.mpr ⟨(),?_,rfl⟩⟩
  exact (checkMappings_turned gpio inputs config.mappings).trans checked

/-! ### The input of a GPIO -/

/-- A configured input is found with its settings, whatever its detector has become. -/
theorem find_configured {inputs : List RuntimeInput} (distinct : (inputs.map (·.gpio)).Nodup)
    {gpioInput : GpioInputConfig} (member : gpioInput ∈ inputs.map settings) :
    ∃ detector, inputs.find? (·.gpio = gpioInput.gpio) = some {
      gpio := gpioInput.gpio,activeHigh := gpioInput.activeHigh,debounceMs := gpioInput.debounceMs,detector } := by
  obtain ⟨input,listed,rfl⟩ := List.mem_map.mp member
  obtain ⟨found,search⟩ : ∃ found, inputs.find? (·.gpio = input.gpio) = some found :=
    Option.isSome_iff_exists.mp (List.find?_isSome.mpr ⟨input,listed,by simp⟩)
  have own : found.gpio = input.gpio := by simpa using List.find?_some search
  have same : found = input := List.inj_on_of_nodup_map distinct (List.mem_of_find?_eq_some search) listed own
  subst same
  exact ⟨found.detector,search⟩

end InputController

/-- Every sample of a configured input succeeds, after any commands. It lists the detected
events in order and for each the action of its one enabled mapping, if there is one. An
input behaves as one of the other polarity does on the inverted levels. -/
theorem events_resolved (config : InputConfig) (fresh : InputController)
    (built : InputController.new config = .ok fresh) :
    (∀ commands, ∀ gpioInput ∈ config.gpioInputs,
      let reached := (Channels.run InputController.command fresh commands).2
      ∃ detector, reached.inputs.find? (·.gpio = gpioInput.gpio) = some {
          gpio := gpioInput.gpio,activeHigh := gpioInput.activeHigh,debounceMs := gpioInput.debounceMs,detector } ∧
        ∀ rawHigh nowMs,
          let events := detector.detected {
              debounceMs := gpioInput.debounceMs.toNat
              doubleClickIntervalMs := reached.doubleClickIntervalMs.toNat
              longPressThresholdMs := reached.longPressThresholdMs.toNat }
            { active := if gpioInput.activeHigh then rawHigh else !rawHigh,nowMs }
          (reached.update gpioInput.gpio rawHigh nowMs).1 = .ok {
            inputEvents := events.map fun inputEvent => { gpio := gpioInput.gpio,inputEvent }
            actions := events.filterMap (InputController.actionOf config.mappings gpioInput.gpio) }) ∧
    (∀ gpio inputEvent,
      let applying := config.mappings.filter fun mapping => InputController.Applies gpio inputEvent mapping
      applying = [] ∧ InputController.actionOf config.mappings gpio inputEvent = none ∨
        ∃ mapping, applying = [mapping] ∧
          InputController.actionOf config.mappings gpio inputEvent = some { actionId := mapping.actionId }) ∧
    ∀ gpio commands, ∃ fresh', InputController.new (config.turned gpio) = .ok fresh' ∧
      (Channels.run InputController.command fresh' (commands.map (·.inverted gpio))).1 =
        (Channels.run InputController.command fresh commands).1 := by
  obtain ⟨mappings,inputs,gpios,unambiguous⟩ := InputController.new_spec built
  refine ⟨?_,fun gpio inputEvent => InputController.applying_cases unambiguous gpio inputEvent,?_⟩
  · intro commands gpioInput member reached
    obtain ⟨mappings',inputs'⟩ := InputController.run_keeps fresh commands
    have configured : reached.inputs.map InputController.settings = config.gpioInputs := inputs'.trans inputs
    have distinct : (reached.inputs.map (·.gpio)).Nodup := by
      rw [← configured,List.map_map] at gpios
      exact gpios
    obtain ⟨detector,known⟩ := InputController.find_configured distinct (configured ▸ member)
    refine ⟨detector,known,fun rawHigh nowMs => ?_⟩
    have unambiguous' : InputController.Unambiguous reached.mappings := by
      rw [show reached.mappings = config.mappings from mappings'.trans mappings]
      exact unambiguous
    have sample := InputController.update_eq unambiguous' known rawHigh nowMs
    rw [show reached.mappings = config.mappings from mappings'.trans mappings] at sample
    exact sample
  · intro gpio commands
    exact ⟨_,InputController.new_turned gpio built,by rw [InputController.run_turned]⟩

/-- A long press of the second input of the two, which is low when pressed. -/
theorem events_resolved_overlapping : ∃ fresh, InputController.new twoInputs = .ok fresh ∧
    let reached := (Channels.run InputController.command fresh
      [.call (.initialise 3 true 0),.call (.update 3 false 10),.setGestureTiming 200 0]).2
    (reached.update 3 false 40).1 = .ok {
      inputEvents := [{ gpio := 3,inputEvent := .offToOn },{ gpio := 3,inputEvent := .longPress }]
      actions := [{ actionId := 7 }] } := by
  obtain ⟨fresh,built⟩ : ∃ fresh, InputController.new twoInputs = .ok fresh := ⟨_,rfl⟩
  refine ⟨fresh,built,?_⟩
  obtain ⟨detector,known,sample⟩ := (events_resolved twoInputs fresh built).1
    [.call (.initialise 3 true 0),.call (.update 3 false 10),.setGestureTiming 200 0]
    { gpio := 3,activeHigh := false,debounceMs := 30 } (by decide)
  refine (sample false 40).trans ?_
  cases built
  cases known
  decide

end UchiPulse.Node
