import UchiPulse.Lib.Debounce
import UchiPulse.Node.Presses

/-! The edges of one input. Behind its gestures the detector is a debouncer: pending clicks
and long presses neither hold an edge back nor bring one about. -/
namespace UchiPulse.Node
open Common

namespace GestureDetector

/-- In front of a sample. -/
def state (timing : GestureTiming) (self : GestureDetector) (samples : Nat → Sample) : Nat → GestureDetector
  | 0 => self
  | k + 1 => ((state timing self samples k).update timing (samples k) []).1

def eventsAt (timing : GestureTiming) (self : GestureDetector) (samples : Nat → Sample) (k : Nat) : List InputEvent :=
  ((self.state timing samples k).update timing (samples k) []).2

/-- The events of one sample, by the stages they come from. -/
theorem debounce_output {timing : GestureTiming} {sample : Sample} (self : GestureDetector) {output : List InputEvent}
    (room : output.length + 1 < maxEventsPerSample) : self.debounce timing sample output =
      ((self.debounce timing sample []).1,output ++ (self.debounce timing sample []).2) := by
  have second : output.length + 1 < 16 := room
  have first : output.length < 16 := by omega
  unfold debounce acceptPress acceptRelease
  split_ifs <;> simp [pushEvent,first,second,maxEventsPerSample]

theorem recognise_output {timing : GestureTiming} {sample : Sample} (self : GestureDetector) {output : List InputEvent}
    (room : output.length < maxEventsPerSample) : self.recogniseLongPress timing sample output =
      ((self.recogniseLongPress timing sample []).1,output ++ (self.recogniseLongPress timing sample []).2) := by
  have place : output.length < 16 := room
  unfold recogniseLongPress
  cases self.pressedSinceMs with
  | none => simp
  | some since =>
    simp only
    split
    · simp [pushEvent,place,maxEventsPerSample]
    · simp

/-- The three stages of a sample, each with its own events. -/
theorem update_stages (timing : GestureTiming) (sample : Sample) (self : GestureDetector) :
    self.update timing sample [] =
      let expired := self.expirePendingClick timing sample []
      let debounced := expired.1.debounce timing sample []
      let recognised := debounced.1.recogniseLongPress timing sample []
      (recognised.1,expired.2 ++ debounced.2 ++ recognised.2) := by
  have first : (self.expirePendingClick timing sample []).2.length ≤ 1 := expire_events rfl
  have second : ((self.expirePendingClick timing sample []).1.debounce timing sample
      (self.expirePendingClick timing sample []).2).2.length ≤ 3 := debounce_events first
  have room : (self.expirePendingClick timing sample []).2.length + 1 < maxEventsPerSample := by
    simp only [maxEventsPerSample]
    omega
  rw [debounce_output _ room] at second
  have space : ((self.expirePendingClick timing sample []).2 ++
      ((self.expirePendingClick timing sample []).1.debounce timing sample []).2).length < maxEventsPerSample := by
    simp only [maxEventsPerSample] at second ⊢
    omega
  simp only [update]
  rw [debounce_output _ room,recognise_output _ space]

theorem run_append (timing : GestureTiming) (self : GestureDetector) (front back : List Sample) :
    self.run timing (front ++ back) = (((self.run timing front).1.run timing back).1,
      (self.run timing front).2 ++ ((self.run timing front).1.run timing back).2) := by
  induction front generalizing self with
  | nil => rfl
  | cons sample front ih => simp only [List.cons_append,run,ih,List.append_assoc]

/-- The levels of a detector, without its gestures. -/
def debouncer (self : GestureDetector) : Debouncer Bool where
  stable := self.stable
  candidate := self.candidate
  since := self.candidateSinceMs

end GestureDetector

/-- The level an edge goes to. -/
def edgeLevel : InputEvent → Option Bool
  | .offToOn => some true
  | .onToOff => some false
  | _ => none

def edgeEvent (level : Bool) : InputEvent := if level then .offToOn else .onToOff

namespace GestureDetector

theorem expire_debouncer (timing : GestureTiming) (sample : Sample) (self : GestureDetector) :
    (self.expirePendingClick timing sample []).1.debouncer = self.debouncer ∧
    (self.expirePendingClick timing sample []).2.filterMap edgeLevel = [] := by
  unfold expirePendingClick
  cases self.pendingClickSinceMs with
  | none => exact ⟨rfl,rfl⟩
  | some since =>
    simp only
    split
    · exact ⟨rfl,rfl⟩
    · exact ⟨rfl,rfl⟩

theorem recognise_debouncer (timing : GestureTiming) (sample : Sample) (self : GestureDetector) :
    (self.recogniseLongPress timing sample []).1.debouncer = self.debouncer ∧
    (self.recogniseLongPress timing sample []).2.filterMap edgeLevel = [] := by
  unfold recogniseLongPress
  cases self.pressedSinceMs with
  | none => exact ⟨rfl,rfl⟩
  | some since =>
    simp only
    split
    · exact ⟨rfl,rfl⟩
    · exact ⟨rfl,rfl⟩

theorem debounce_debouncer (timing : GestureTiming) (sample : Sample) (self : GestureDetector) :
    (self.debounce timing sample []).1.debouncer =
      (self.debouncer.step Sample.active Sample.nowMs timing.debounceMs sample).1 ∧
    (self.debounce timing sample []).2.filterMap edgeLevel =
      (self.debouncer.step Sample.active Sample.nowMs timing.debounceMs sample).2.toList := by
  unfold debounce Debouncer.step
  by_cases changed : sample.active ≠ self.candidate
  · simp [debouncer,changed]
  · have same : ¬ sample.active ≠ self.debouncer.candidate := changed
    by_cases lasted : self.candidate ≠ self.stable ∧ elapsed sample.nowMs self.candidateSinceMs ≥ timing.debounceMs
    · have long : self.debouncer.candidate ≠ self.debouncer.stable ∧
          sample.nowMs - self.debouncer.since ≥ timing.debounceMs := lasted
      rw [if_neg changed,if_pos lasted,if_neg same,if_pos long]
      cases level : self.candidate with
      | true => simp [acceptPress,debouncer,pushEvent,maxEventsPerSample,edgeLevel,level]
      | false =>
        simp only [Bool.false_eq_true,if_false,acceptRelease]
        split_ifs <;> simp [debouncer,pushEvent,maxEventsPerSample,edgeLevel,level]
    · have kept : ¬ (self.debouncer.candidate ≠ self.debouncer.stable ∧
          sample.nowMs - self.debouncer.since ≥ timing.debounceMs) := lasted
      rw [if_neg changed,if_neg lasted,if_neg same,if_neg kept]
      exact ⟨rfl,rfl⟩

/-- A sample moves the levels as it moves those of a debouncer, and reports its change. -/
theorem update_debouncer (timing : GestureTiming) (sample : Sample) (self : GestureDetector) :
    (self.update timing sample []).1.debouncer =
      (self.debouncer.step Sample.active Sample.nowMs timing.debounceMs sample).1 ∧
    (self.update timing sample []).2.filterMap edgeLevel =
      (self.debouncer.step Sample.active Sample.nowMs timing.debounceMs sample).2.toList := by
  have expired := self.expire_debouncer timing sample
  have debounced := (self.expirePendingClick timing sample []).1.debounce_debouncer timing sample
  have recognised :=
    ((self.expirePendingClick timing sample []).1.debounce timing sample []).1.recognise_debouncer timing sample
  rw [expired.1] at debounced
  simp only [update_stages,List.filterMap_append]
  rw [recognised.1,debounced.1,expired.2,debounced.2,recognised.2]
  simp

theorem state_debouncer (timing : GestureTiming) (self : GestureDetector) (samples : Nat → Sample) (k : Nat) :
    (self.state timing samples k).debouncer =
      self.debouncer.state Sample.active Sample.nowMs timing.debounceMs samples k := by
  induction k with
  | zero => rfl
  | succ k ih => rw [state,(update_debouncer timing (samples k) _).1,ih,Debouncer.state]

theorem eventsAt_edge (timing : GestureTiming) (self : GestureDetector) (samples : Nat → Sample) (k : Nat) :
    (self.eventsAt timing samples k).filterMap edgeLevel =
      (self.debouncer.edge Sample.active Sample.nowMs timing.debounceMs samples k).toList := by
  rw [eventsAt,(update_debouncer timing (samples k) _).2,state_debouncer,Debouncer.edge]

/-- The finite runs of a sequence of samples. -/
theorem run_range (timing : GestureTiming) (self : GestureDetector) (samples : Nat → Sample) (count : Nat) :
    self.run timing ((List.range count).map samples) =
      (self.state timing samples count,(List.range count).flatMap (self.eventsAt timing samples)) := by
  induction count with
  | zero => rfl
  | succ count ih =>
    rw [List.range_succ,List.map_append,run_append,ih,List.flatMap_append]
    simp [run,state,eventsAt]

end GestureDetector

theorem mem_edgeEvent {events : List InputEvent} {level : Bool} :
    edgeEvent level ∈ events ↔ level ∈ events.filterMap edgeLevel := by
  rw [List.mem_filterMap]
  constructor
  · exact fun listed => ⟨_,listed,by cases level <;> rfl⟩
  · rintro ⟨event,listed,same⟩
    cases event <;> simp only [edgeLevel,reduceCtorEq,Option.some.injEq] at same
    all_goals
      rw [← same]
      exact listed

section
variable (timing : GestureTiming) (detector : GestureDetector) (level : Bool) (startMs : Nat)

theorem settled_initialized : (detector.initialized level startMs).debouncer.Settled := rfl

theorem edge_at_iff (samples : Nat → Sample) (k : Nat) (value : Bool) :
    edgeEvent value ∈ (detector.initialized level startMs).eventsAt timing samples k ↔
      (detector.initialized level startMs).debouncer.edge Sample.active Sample.nowMs timing.debounceMs samples k =
        some value := by
  rw [mem_edgeEvent,GestureDetector.eventsAt_edge,Option.mem_toList]

/-- The edges of a run alternate, away from the initial level. An edge is reported at the first
sample of a run at its level that is the debounce time away from the first one. So a burst
reports nothing, and a level that is held is reported. -/
theorem debouncing_exact (samples : Nat → Sample) (ordered : Debouncer.Ordered Sample.nowMs samples) :
    let start := detector.initialized level startMs
    (∀ count,
      (level :: (start.run timing ((List.range count).map samples)).2.filterMap edgeLevel).IsChain (· ≠ ·) ∧
      (level :: (start.run timing ((List.range count).map samples)).2.filterMap edgeLevel).getLast? =
        some (start.state timing samples count).stable) ∧
    (∀ k value, edgeEvent value ∈ start.eventsAt timing samples k ↔
      (start.state timing samples k).stable ≠ value ∧
      ∃ first, first < k ∧ Debouncer.Run Sample.active samples value first k ∧
        timing.debounceMs ≤ (samples k).nowMs - (samples first).nowMs ∧
        ∀ m, first < m → m < k → ¬ timing.debounceMs ≤ (samples m).nowMs - (samples first).nowMs) ∧
    (∀ value first last, Debouncer.Run Sample.active samples value first last →
      (samples last).nowMs - (samples first).nowMs < timing.debounceMs →
      ∀ k, first ≤ k → k ≤ last → ∀ other, edgeEvent other ∉ start.eventsAt timing samples k) ∧
    ∀ value first last, first < last → (∀ m, first ≤ m → m ≤ last → (samples m).active = value) →
      timing.debounceMs ≤ (samples last).nowMs - (samples first).nowMs →
      (start.state timing samples (last + 1)).stable = value ∧
        ((start.state timing samples first).stable ≠ value →
          ∃ k, first ≤ k ∧ k ≤ last ∧ edgeEvent value ∈ start.eventsAt timing samples k) := by
  intro start
  have settled : start.debouncer.Settled := settled_initialized detector level startMs
  have stable (k : Nat) : (start.state timing samples k).stable =
      (start.debouncer.state Sample.active Sample.nowMs timing.debounceMs samples k).stable :=
    congrArg Debouncer.stable (start.state_debouncer timing samples k)
  refine ⟨fun count => ?_,fun k value => ?_,fun value first last run short k low high other reported => ?_,
    fun value first last two held long => ?_⟩
  · have listed : (start.run timing ((List.range count).map samples)).2.filterMap edgeLevel =
        start.debouncer.edges Sample.active Sample.nowMs timing.debounceMs samples count := by
      rw [start.run_range,List.filterMap_flatMap,Debouncer.edges,List.filterMap_eq_flatMap_toList]
      exact List.flatMap_congr fun k _ => start.eventsAt_edge timing samples k
    rw [listed,stable]
    exact Debouncer.edges_alternate settled count
  · rw [edge_at_iff,Debouncer.edge_iff settled,stable]
  · rw [edge_at_iff,Debouncer.edge_burst settled ordered run short low high] at reported
    cases reported
  · have reached := Debouncer.state_held settled ordered two held long
    rw [stable,stable]
    refine ⟨reached,fun apart => ?_⟩
    obtain ⟨k,low,high,changed⟩ := Debouncer.exists_edge (by omega) apart reached
    exact ⟨k,low,by omega,(edge_at_iff timing detector level startMs samples k value).mpr changed⟩

end

/-- A contact that bounces once, and is held from then on. -/
def bouncing (k : Nat) : Sample where
  active := k = 1 ∨ 3 ≤ k
  nowMs := 10 * k

theorem debouncing_exact_bounce :
    let timing : GestureTiming := ⟨30,400,800⟩
    let start := GestureDetector.new.initialized false 0
    InputEvent.offToOn ∉ start.eventsAt timing bouncing 1 ∧
      InputEvent.offToOn ∈ start.eventsAt timing bouncing 6 := by
  have ordered : Debouncer.Ordered Sample.nowMs bouncing := fun k => by
    simp only [bouncing]
    omega
  obtain ⟨-,edges,bursts,-⟩ := debouncing_exact ⟨30,400,800⟩ .new false 0 bouncing ordered
  constructor
  · refine bursts true 1 1 ⟨fun m low high => ?_,fun m last => ?_⟩ (by decide) 1 (Nat.le_refl 1) (Nat.le_refl 1) true
    · rw [Nat.le_antisymm high low]
      rfl
    · obtain rfl : m = 0 := by omega
      decide
  · refine (edges 6 true).mpr ⟨by decide,3,by decide,⟨fun m low high => ?_,fun m last => ?_⟩,by decide,fun m above below => ?_⟩
    · exact decide_eq_true (Or.inr low)
    · obtain rfl : m = 2 := by omega
      decide
    · simp only [bouncing]
      omega

end UchiPulse.Node
