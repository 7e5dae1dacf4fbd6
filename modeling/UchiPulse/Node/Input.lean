import UchiPulse.Common.Types

/-! The gesture detector of one GPIO input. Three timers compete on every sample: the
debounce of a level change, the window of a double click and the threshold of a long
press. Times are milliseconds since boot. -/
namespace UchiPulse.Node
open Common

def maxEventsPerSample : Nat := 16

structure GestureDetector where
  stable : Bool
  candidate : Bool
  candidateSinceMs : Nat
  pressedSinceMs : Option Nat
  longPressEmitted : Bool
  pendingClickSinceMs : Option Nat
  secondClickInProgress : Bool
deriving DecidableEq

/-- The settings every sample is judged by. -/
structure GestureTiming where
  debounceMs : Nat
  doubleClickIntervalMs : Nat
  longPressThresholdMs : Nat

structure Sample where
  active : Bool
  nowMs : Nat
deriving DecidableEq

/-- A subtraction that saturates at zero. -/
def elapsed (nowMs sinceMs : Nat) : Nat := nowMs - sinceMs

/-- An event that does not fit is dropped. -/
def pushEvent (output : List InputEvent) (event : InputEvent) : List InputEvent :=
  if output.length < maxEventsPerSample then output ++ [event] else output

namespace GestureDetector

def new : GestureDetector where
  stable := false
  candidate := false
  candidateSinceMs := 0
  pressedSinceMs := none
  longPressEmitted := false
  pendingClickSinceMs := none
  secondClickInProgress := false

def initialized (_ : GestureDetector) (active : Bool) (nowMs : Nat) : GestureDetector where
  stable := active
  candidate := active
  candidateSinceMs := nowMs
  pressedSinceMs := if active then some nowMs else none
  longPressEmitted := false
  pendingClickSinceMs := none
  secondClickInProgress := false

/-- A pending click whose window has passed is reported, unless the level change being
debounced began inside the window. -/
def expirePendingClick (timing : GestureTiming) (sample : Sample) (self : GestureDetector)
    (output : List InputEvent) : GestureDetector × List InputEvent :=
  match self.pendingClickSinceMs with
  | none => (self,output)
  | some pendingSinceMs =>
    let secondPressStartedInWindow := sample.active && self.candidate != self.stable &&
      self.candidate &&
      decide (elapsed self.candidateSinceMs pendingSinceMs ≤ timing.doubleClickIntervalMs)
    if elapsed sample.nowMs pendingSinceMs > timing.doubleClickIntervalMs ∧
        secondPressStartedInWindow = false then
      ({ self with pendingClickSinceMs := none,secondClickInProgress := false },
        pushEvent output .click)
    else (self,output)

/-- The new stable level of a press. -/
def acceptPress (timing : GestureTiming) (sample : Sample) (self : GestureDetector)
    (output : List InputEvent) : GestureDetector × List InputEvent :=
  have second : Bool := match self.pendingClickSinceMs with
    | none => false
    | some since => decide (elapsed self.candidateSinceMs since ≤ timing.doubleClickIntervalMs)
  ({ self with
      stable := true,pressedSinceMs := some sample.nowMs,longPressEmitted := false,
      secondClickInProgress := second,
      pendingClickSinceMs := if second then none else self.pendingClickSinceMs },
    pushEvent output .offToOn)

/-- The new stable level of a release. -/
def acceptRelease (sample : Sample) (self : GestureDetector)
    (output : List InputEvent) : GestureDetector × List InputEvent :=
  let output := pushEvent output .onToOff
  if self.longPressEmitted then
    ({ self with stable := false,pressedSinceMs := none,secondClickInProgress := false },output)
  else if self.secondClickInProgress then
    ({ self with
        stable := false,pendingClickSinceMs := none,secondClickInProgress := false,
        pressedSinceMs := none },
      pushEvent output .doubleClick)
  else
    ({ self with
        stable := false,pendingClickSinceMs := some sample.nowMs,pressedSinceMs := none },output)

/-- A changed level starts over; one that lasted becomes the stable level. -/
def debounce (timing : GestureTiming) (sample : Sample) (self : GestureDetector)
    (output : List InputEvent) : GestureDetector × List InputEvent :=
  if sample.active ≠ self.candidate then
    ({ self with candidate := sample.active,candidateSinceMs := sample.nowMs },output)
  else if self.candidate ≠ self.stable ∧
      elapsed sample.nowMs self.candidateSinceMs ≥ timing.debounceMs then
    if self.candidate then self.acceptPress timing sample output
    else self.acceptRelease sample output
  else (self,output)

/-- A press held for the threshold is reported once. -/
def recogniseLongPress (timing : GestureTiming) (sample : Sample) (self : GestureDetector)
    (output : List InputEvent) : GestureDetector × List InputEvent :=
  match self.pressedSinceMs with
  | none => (self,output)
  | some pressedSinceMs =>
    if self.stable = true ∧ self.longPressEmitted = false ∧
        elapsed sample.nowMs pressedSinceMs ≥ timing.longPressThresholdMs then
      ({ self with longPressEmitted := true },pushEvent output .longPress)
    else (self,output)

def update (timing : GestureTiming) (sample : Sample) (self : GestureDetector)
    (output : List InputEvent) : GestureDetector × List InputEvent :=
  let (self,output) := self.expirePendingClick timing sample output
  let (self,output) := self.debounce timing sample output
  self.recogniseLongPress timing sample output

/-- Every sample gets an output of its own; the events are listed in order. -/
def run (timing : GestureTiming) : GestureDetector → List Sample → GestureDetector × List InputEvent
  | self, [] => (self,[])
  | self, sample :: samples =>
    let (next,events) := self.update timing sample []
    let (last,later) := run timing next samples
    (last,events ++ later)

/-- Stable inactive, without a pending click or a level change under way. -/
def Resting (self : GestureDetector) : Prop :=
  self.stable = false ∧ self.pendingClickSinceMs = none ∧ self.candidate = self.stable

end GestureDetector

/-- The times do not decrease, starting from `sinceMs`. -/
def Ordered : Nat → List Sample → Prop
  | _, [] => True
  | sinceMs, sample :: samples => sinceMs ≤ sample.nowMs ∧ Ordered sample.nowMs samples

end UchiPulse.Node
