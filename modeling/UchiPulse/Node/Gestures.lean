import Mathlib.Data.List.Nodup
import UchiPulse.Node.Debounce

/-! The gesture of a press. A click waits for the rest of a double click from its release on;
a long press is recognised while it is held. Both windows are measured between samples. -/
namespace UchiPulse.Node
open Common

namespace GestureDetector
section
variable {timing : GestureTiming} {sample : Sample} {self : GestureDetector}

/-- The edge made by a sample. -/
def change (timing : GestureTiming) (sample : Sample) (self : GestureDetector) : Option Bool :=
  (self.debouncer.step Sample.active Sample.nowMs timing.debounceMs sample).2

/-- The pending click is reported by a sample. -/
def Expires (timing : GestureTiming) (sample : Sample) (self : GestureDetector) : Prop :=
  ∃ since, self.pendingClickSinceMs = some since ∧ timing.doubleClickIntervalMs < elapsed sample.nowMs since ∧
    ¬ (sample.active = true ∧ self.candidate ≠ self.stable ∧ self.candidate = true ∧
      elapsed self.candidateSinceMs since ≤ timing.doubleClickIntervalMs)

/-- The press under way has lasted for the threshold. -/
def Lasts (timing : GestureTiming) (sample : Sample) (self : GestureDetector) : Prop :=
  self.stable = true ∧ ∃ since, self.pressedSinceMs = some since ∧
    timing.longPressThresholdMs ≤ elapsed sample.nowMs since

/-- Where no click is pending, none is reported. -/
theorem not_expires (gone : self.pendingClickSinceMs = none) : ¬ Expires timing sample self := by
  rintro ⟨since,pending,-⟩
  rw [gone] at pending
  cases pending

theorem expire_lost (expires : Expires timing sample self) : self.expirePendingClick timing sample [] =
    ({ self with pendingClickSinceMs := none,secondClickInProgress := false },[.click]) := by
  obtain ⟨since,pending,late,outside⟩ := expires
  unfold expirePendingClick
  rw [pending]
  refine if_pos ⟨late,?_⟩
  rw [Bool.eq_false_iff]
  intro inside
  simp only [Bool.and_eq_true,bne_iff_ne,decide_eq_true_eq] at inside
  exact outside ⟨inside.1.1.1,inside.1.1.2,inside.1.2,inside.2⟩

theorem expire_kept (kept : ¬ Expires timing sample self) : self.expirePendingClick timing sample [] = (self,[]) := by
  unfold expirePendingClick
  cases pending : self.pendingClickSinceMs with
  | none => rfl
  | some since =>
    refine if_neg fun ⟨late,outside⟩ => kept ⟨since,pending,late,?_⟩
    rintro ⟨active,apart,level,inside⟩
    have same : self.stable = true := by simpa [active,level,inside] using outside
    exact apart (level.trans same.symm)

theorem change_iff {level : Bool} : self.change timing sample = some level ↔ sample.active = level ∧
    self.candidate = level ∧ self.stable ≠ level ∧ elapsed sample.nowMs self.candidateSinceMs ≥ timing.debounceMs :=
  Debouncer.step_edge

theorem debounce_quiet (quiet : self.change timing sample = none) : ∃ candidate since,
    self.debounce timing sample [] = ({ self with candidate := candidate,candidateSinceMs := since },[]) := by
  unfold debounce
  by_cases changed : sample.active ≠ self.candidate
  · exact ⟨_,_,if_pos changed⟩
  · have kept : ¬ (self.candidate ≠ self.stable ∧
        elapsed sample.nowMs self.candidateSinceMs ≥ timing.debounceMs) := fun ⟨apart,long⟩ => by
      rw [change_iff.mpr ⟨not_not.mp changed,rfl,Ne.symm apart,long⟩] at quiet
      cases quiet
    exact ⟨self.candidate,self.candidateSinceMs,by rw [if_neg changed,if_neg kept]⟩

theorem debounce_changed {level : Bool} (changed : self.change timing sample = some level) :
    self.debounce timing sample [] =
      if level then self.acceptPress timing sample [] else self.acceptRelease sample [] := by
  obtain ⟨active,candidate,apart,long⟩ := change_iff.mp changed
  unfold debounce
  rw [if_neg (not_not.mpr (active.trans candidate.symm)),if_pos ⟨fun same => apart (same.symm.trans candidate),long⟩,
    candidate]

theorem change_expired : (self.expirePendingClick timing sample []).1.change timing sample = self.change timing sample := by
  rw [change,(expire_debouncer timing sample self).1,change]

/-! ### The three stages in one -/

theorem mem_expire {event : InputEvent} : event ∈ (self.expirePendingClick timing sample []).2 ↔
    event = .click ∧ Expires timing sample self := by
  by_cases expires : Expires timing sample self
  · simp [expire_lost expires,expires]
  · simp [expire_kept expires,expires]

theorem recognise_long (open' : self.longPressEmitted = false) (lasts : Lasts timing sample self) :
    self.recogniseLongPress timing sample [] = ({ self with longPressEmitted := true },[.longPress]) := by
  obtain ⟨stable,since,pressed,long⟩ := lasts
  unfold recogniseLongPress
  rw [pressed]
  exact if_pos ⟨stable,open',long⟩

theorem recognise_short (short : ¬ (self.longPressEmitted = false ∧ Lasts timing sample self)) :
    self.recogniseLongPress timing sample [] = (self,[]) := by
  unfold recogniseLongPress
  cases pressed : self.pressedSinceMs with
  | none => rfl
  | some since => exact if_neg fun ⟨stable,open',long⟩ => short ⟨open',stable,since,pressed,long⟩

/-- The third stage touches nothing but its own flag. -/
theorem recognise_fields : (self.recogniseLongPress timing sample []).1.stable = self.stable ∧
    (self.recogniseLongPress timing sample []).1.pressedSinceMs = self.pressedSinceMs ∧
    (self.recogniseLongPress timing sample []).1.pendingClickSinceMs = self.pendingClickSinceMs ∧
    (self.recogniseLongPress timing sample []).1.secondClickInProgress = self.secondClickInProgress ∧
    ((self.recogniseLongPress timing sample []).1.longPressEmitted = true ↔
      self.longPressEmitted = true ∨ Lasts timing sample self) := by
  by_cases long : self.longPressEmitted = false ∧ Lasts timing sample self
  · rw [recognise_long long.1 long.2]
    exact ⟨rfl,rfl,rfl,rfl,by simp [long.2]⟩
  · rw [recognise_short long]
    refine ⟨rfl,rfl,rfl,rfl,.inl,fun either => ?_⟩
    rcases either with emitted | lasts
    · exact emitted
    · by_contra open'
      exact long ⟨Bool.eq_false_iff.mpr open',lasts⟩

theorem mem_recognise {event : InputEvent} : event ∈ (self.recogniseLongPress timing sample []).2 ↔
    event = .longPress ∧ self.longPressEmitted = false ∧ Lasts timing sample self := by
  by_cases long : self.longPressEmitted = false ∧ Lasts timing sample self
  · simp [recognise_long long.1 long.2,long.1,long.2]
  · simp [recognise_short long,long]

theorem acceptRelease_events : (self.acceptRelease sample []).2 =
    .onToOff :: if self.longPressEmitted = false ∧ self.secondClickInProgress = true then [.doubleClick] else [] := by
  unfold acceptRelease
  by_cases long : self.longPressEmitted = true
  · rw [if_pos long,if_neg fun ⟨open',_⟩ => by simp [long] at open']
    rfl
  · have open' : self.longPressEmitted = false := Bool.eq_false_iff.mpr long
    rw [if_neg long]
    by_cases second : self.secondClickInProgress = true
    · rw [if_pos second,if_pos ⟨open',second⟩]
      rfl
    · rw [if_neg second,if_neg fun both => second both.2]
      rfl

theorem mem_debounce {event : InputEvent} : event ∈ (self.debounce timing sample []).2 ↔
    event = .offToOn ∧ self.change timing sample = some true ∨
    event = .onToOff ∧ self.change timing sample = some false ∨
    event = .doubleClick ∧ self.change timing sample = some false ∧ self.longPressEmitted = false ∧
      self.secondClickInProgress = true := by
  cases changed : self.change timing sample with
  | none =>
    obtain ⟨_,_,same⟩ := debounce_quiet changed
    simp [same]
  | some level =>
    rw [debounce_changed changed]
    cases level with
    | true => simp [acceptPress,pushEvent,maxEventsPerSample]
    | false =>
      rw [if_neg Bool.false_ne_true,acceptRelease_events,List.mem_cons]
      by_cases second : self.longPressEmitted = false ∧ self.secondClickInProgress = true
      · simp [second]
      · simp [second]

theorem expire_fields : (self.expirePendingClick timing sample []).1.stable = self.stable ∧
    (self.expirePendingClick timing sample []).1.pressedSinceMs = self.pressedSinceMs ∧
    (self.expirePendingClick timing sample []).1.longPressEmitted = self.longPressEmitted := by
  by_cases expires : Expires timing sample self
  · rw [expire_lost expires]
    exact ⟨rfl,rfl,rfl⟩
  · rw [expire_kept expires]
    exact ⟨rfl,rfl,rfl⟩

/-- The events of a sample. -/
theorem mem_update {event : InputEvent} : event ∈ (self.update timing sample []).2 ↔
    event = .click ∧ Expires timing sample self ∨
    (event = .offToOn ∧ self.change timing sample = some true ∨
      event = .onToOff ∧ self.change timing sample = some false ∨
      event = .doubleClick ∧ self.change timing sample = some false ∧ self.longPressEmitted = false ∧
        (self.expirePendingClick timing sample []).1.secondClickInProgress = true) ∨
    event = .longPress ∧
      ((self.expirePendingClick timing sample []).1.debounce timing sample []).1.longPressEmitted = false ∧
      Lasts timing sample ((self.expirePendingClick timing sample []).1.debounce timing sample []).1 := by
  rw [update_stages]
  simp only [List.mem_append,mem_expire,mem_debounce,mem_recognise,change_expired,expire_fields.2.2,or_assoc]

theorem mem_click : .click ∈ (self.update timing sample []).2 ↔ Expires timing sample self := by
  simp [mem_update]

theorem mem_doubleClick : .doubleClick ∈ (self.update timing sample []).2 ↔
    self.change timing sample = some false ∧ self.longPressEmitted = false ∧
      (self.expirePendingClick timing sample []).1.secondClickInProgress = true := by
  simp [mem_update]

/-- No event is reported twice for one sample. -/
theorem update_nodup : (self.update timing sample []).2.Nodup := by
  have expired : (self.expirePendingClick timing sample []).2.Nodup := by
    by_cases expires : Expires timing sample self
    · rw [expire_lost expires]
      exact List.nodup_singleton _
    · rw [expire_kept expires]
      exact List.nodup_nil
  have debounced (self : GestureDetector) : (self.debounce timing sample []).2.Nodup := by
    cases changed : self.change timing sample with
    | none =>
      obtain ⟨_,_,same⟩ := debounce_quiet changed
      rw [same]
      exact List.nodup_nil
    | some level =>
      rw [debounce_changed changed]
      cases level with
      | true => exact List.nodup_singleton _
      | false =>
        rw [if_neg Bool.false_ne_true,acceptRelease_events]
        split_ifs <;> decide
  have recognised (self : GestureDetector) : (self.recogniseLongPress timing sample []).2.Nodup := by
    by_cases long : self.longPressEmitted = false ∧ Lasts timing sample self
    · rw [recognise_long long.1 long.2]
      exact List.nodup_singleton _
    · rw [recognise_short long]
      exact List.nodup_nil
  rw [update_stages]
  refine List.nodup_append.mpr ⟨List.nodup_append.mpr ⟨expired,debounced _,?_⟩,recognised _,?_⟩
  · rintro event first _ second rfl
    rw [mem_expire] at first
    simp [mem_debounce,first.1] at second
  · rintro event first _ second rfl
    rw [mem_recognise] at second
    simp [mem_expire,mem_debounce,second.1] at first

/-- A sample without an edge. -/
theorem update_quiet (quiet : self.change timing sample = none) :
    (self.update timing sample []).1.pressedSinceMs = self.pressedSinceMs ∧
    (self.update timing sample []).1.pendingClickSinceMs =
      (self.expirePendingClick timing sample []).1.pendingClickSinceMs ∧
    (self.update timing sample []).1.secondClickInProgress =
      (self.expirePendingClick timing sample []).1.secondClickInProgress ∧
    ((self.update timing sample []).1.longPressEmitted = true ↔
      self.longPressEmitted = true ∨ Lasts timing sample self) ∧
    (.longPress ∈ (self.update timing sample []).2 ↔ self.longPressEmitted = false ∧ Lasts timing sample self) := by
  rw [← change_expired] at quiet
  obtain ⟨candidate,since,debounced⟩ := debounce_quiet quiet
  have lasts : Lasts timing sample ((self.expirePendingClick timing sample []).1.debounce timing sample []).1 ↔
      Lasts timing sample self := by
    rw [debounced,Lasts,expire_fields.1,expire_fields.2.1,Lasts]
  have long : ((self.expirePendingClick timing sample []).1.debounce timing sample []).1.longPressEmitted =
      self.longPressEmitted := by
    rw [debounced]
    exact expire_fields.2.2
  refine ⟨?_,?_,?_,?_,?_⟩
  · simp only [update_stages,recognise_fields,debounced]
    exact expire_fields.2.1
  · simp only [update_stages,recognise_fields,debounced]
  · simp only [update_stages,recognise_fields,debounced]
  · simp only [update_stages,recognise_fields,long,lasts]
  · simp [mem_update,long,lasts]

/-- A sample with the edge of a press. -/
theorem update_press (press : self.change timing sample = some true) :
    (self.update timing sample []).1.pressedSinceMs = some sample.nowMs ∧
    ((self.update timing sample []).1.secondClickInProgress = true ↔
      ∃ since, (self.expirePendingClick timing sample []).1.pendingClickSinceMs = some since ∧
        elapsed self.candidateSinceMs since ≤ timing.doubleClickIntervalMs) ∧
    ((self.update timing sample []).1.pendingClickSinceMs = none ↔
      ∀ since, (self.expirePendingClick timing sample []).1.pendingClickSinceMs = some since →
        elapsed self.candidateSinceMs since ≤ timing.doubleClickIntervalMs) ∧
    ((self.update timing sample []).1.longPressEmitted = true ↔ timing.longPressThresholdMs ≤ 0) ∧
    (.longPress ∈ (self.update timing sample []).2 ↔ timing.longPressThresholdMs ≤ 0) := by
  have since : (self.expirePendingClick timing sample []).1.candidateSinceMs = self.candidateSinceMs :=
    congrArg Debouncer.since (expire_debouncer timing sample self).1
  rw [← change_expired] at press
  have debounced := debounce_changed press
  rw [if_pos rfl] at debounced
  have lasts : Lasts timing sample ((self.expirePendingClick timing sample []).1.debounce timing sample []).1 ↔
      timing.longPressThresholdMs ≤ 0 := by
    simp [debounced,acceptPress,Lasts,elapsed]
  have fresh : ((self.expirePendingClick timing sample []).1.debounce timing sample []).1.longPressEmitted = false := by
    rw [debounced]
    rfl
  refine ⟨?_,?_,?_,?_,?_⟩
  · simp only [update_stages,recognise_fields,debounced]
    rfl
  · simp only [update_stages,recognise_fields,debounced,acceptPress,since]
    cases (self.expirePendingClick timing sample []).1.pendingClickSinceMs <;> simp
  · simp only [update_stages,recognise_fields,debounced,acceptPress,since]
    cases (self.expirePendingClick timing sample []).1.pendingClickSinceMs <;> simp
  · simp [update_stages,recognise_fields,fresh,lasts]
  · simp [mem_update,fresh,lasts]

/-- A sample with the edge of a release. -/
theorem update_release (release : self.change timing sample = some false) :
    (self.longPressEmitted = false → .doubleClick ∉ (self.update timing sample []).2 →
      (self.update timing sample []).1.pendingClickSinceMs = some sample.nowMs) ∧
    .longPress ∉ (self.update timing sample []).2 := by
  have debounced := debounce_changed (change_expired.trans release)
  rw [if_neg Bool.false_ne_true] at debounced
  have down : ((self.expirePendingClick timing sample []).1.acceptRelease sample []).1.stable = false := by
    unfold acceptRelease
    split_ifs <;> rfl
  constructor
  · intro open' single
    rw [mem_doubleClick] at single
    have first : ¬ (self.expirePendingClick timing sample []).1.secondClickInProgress = true :=
      fun second => single ⟨release,open',second⟩
    have short : ¬ (self.expirePendingClick timing sample []).1.longPressEmitted = true := by
      rw [expire_fields.2.2,open']
      exact Bool.false_ne_true
    simp only [update_stages,recognise_fields,debounced]
    unfold acceptRelease
    rw [if_neg short,if_neg first]
  · simp [mem_update,debounced,Lasts,down]

theorem mem_offToOn : .offToOn ∈ (self.update timing sample []).2 ↔ self.change timing sample = some true := by
  simp [mem_update]

theorem mem_onToOff : .onToOff ∈ (self.update timing sample []).2 ↔ self.change timing sample = some false := by
  simp [mem_update]

theorem update_stable : (self.update timing sample []).1.stable = (self.change timing sample).getD self.stable :=
  (congrArg Debouncer.stable (update_debouncer timing sample self).1).trans (Debouncer.step_stable _ _)

/-- An edge leaves the stable level. -/
theorem quiet_of_level {level : Bool} (stable : self.stable = level)
    (other : self.change timing sample ≠ some (!level)) : self.change timing sample = none := by
  cases changed : self.change timing sample with
  | none => rfl
  | some next =>
    have apart := (change_iff.mp changed).2.2.1
    rw [stable] at apart
    rw [changed,Bool.eq_not_of_ne (Ne.symm apart)] at other
    exact absurd rfl other

end
end GestureDetector

/-! ### Presses -/

/-- The press that began with an edge is under way after a sample. -/
structure Holding (events : Nat → List InputEvent) (s k : Nat) : Prop where
  inside : s ≤ k
  pressed : .offToOn ∈ events s
  held : ∀ m, s < m → m ≤ k → .onToOff ∉ events m

/-- A press that is over: the first sample of its run, and the samples of its two edges. -/
structure Press (samples : Nat → Sample) (events : Nat → List InputEvent) (c s r : Nat) : Prop where
  run : Debouncer.Run Sample.active samples true c s
  begun : c < s
  pressed : .offToOn ∈ events s
  before : s < r
  held : ∀ m, s < m → m < r → .onToOff ∉ events m
  released : .onToOff ∈ events r

namespace GestureDetector
section
variable {timing : GestureTiming} {start : GestureDetector} {samples : Nat → Sample}

/-- The state of a press under way. -/
theorem holding_state {s k : Nat} (holding : Holding (start.eventsAt timing samples) s k) :
    (start.state timing samples (k + 1)).stable = true ∧
    (start.state timing samples (k + 1)).pressedSinceMs = some (samples s).nowMs ∧
    ((start.state timing samples (k + 1)).longPressEmitted = true ↔
      ∃ m, s ≤ m ∧ m ≤ k ∧ timing.longPressThresholdMs ≤ (samples m).nowMs - (samples s).nowMs) ∧
    ((start.state timing samples (k + 1)).longPressEmitted = true ↔
      ∃ m, s ≤ m ∧ m ≤ k ∧ .longPress ∈ start.eventsAt timing samples m) := by
  obtain ⟨inside,pressed,held⟩ := holding
  induction k, inside using Nat.le_induction with
  | base =>
    have press := mem_offToOn.mp pressed
    obtain ⟨since,-,-,long,reported⟩ := update_press press
    refine ⟨?_,since,?_,?_⟩
    · rw [state,update_stable,press]
      rfl
    · refine long.trans ⟨fun short => ⟨s,Nat.le_refl s,Nat.le_refl s,by omega⟩,?_⟩
      rintro ⟨m,low,high,lasted⟩
      obtain rfl := Nat.le_antisymm high low
      omega
    · refine long.trans ⟨fun short => ⟨s,Nat.le_refl s,Nat.le_refl s,reported.mpr short⟩,?_⟩
      rintro ⟨m,low,high,listed⟩
      obtain rfl := Nat.le_antisymm high low
      exact reported.mp listed
  | succ k inside ih =>
    obtain ⟨stable,since,lasted,long⟩ := ih fun m low high => held m low (by omega)
    have quiet := quiet_of_level stable fun released =>
      held (k + 1) (by omega) (Nat.le_refl _) (mem_onToOff.mpr released)
    obtain ⟨pressed',-,-,long',reported⟩ := update_quiet quiet
    have lasts : Lasts timing (samples (k + 1)) (start.state timing samples (k + 1)) ↔
        timing.longPressThresholdMs ≤ (samples (k + 1)).nowMs - (samples s).nowMs := by
      simp [Lasts,stable,since,elapsed]
    refine ⟨?_,pressed'.trans since,?_,?_⟩
    · rw [state,update_stable,quiet]
      exact stable
    · rw [state,long',lasted,lasts]
      constructor
      · rintro (⟨m,low,high,here⟩ | here)
        · exact ⟨m,low,by omega,here⟩
        · exact ⟨k + 1,by omega,Nat.le_refl _,here⟩
      · rintro ⟨m,low,high,here⟩
        rcases Nat.lt_or_ge k m with last | earlier
        · obtain rfl : m = k + 1 := by omega
          exact .inr here
        · exact .inl ⟨m,low,earlier,here⟩
    · rw [state,long']
      constructor
      · intro either
        by_cases before : (start.state timing samples (k + 1)).longPressEmitted = true
        · obtain ⟨m,low,high,here⟩ := long.mp before
          exact ⟨m,low,by omega,here⟩
        · exact ⟨k + 1,by omega,Nat.le_refl _,
            reported.mpr ⟨Bool.eq_false_iff.mpr before,either.resolve_left before⟩⟩
      · rintro ⟨m,low,high,here⟩
        rcases Nat.lt_or_ge k m with last | earlier
        · obtain rfl : m = k + 1 := by omega
          exact .inr (reported.mp here).2
        · exact .inl (long.mpr ⟨m,low,earlier,here⟩)

/-- A long press is reported at the first sample of the press that is the threshold away from
its edge. -/
theorem longPress_iff {s k : Nat} (holding : Holding (start.eventsAt timing samples) s k) :
    .longPress ∈ start.eventsAt timing samples k ↔
      timing.longPressThresholdMs ≤ (samples k).nowMs - (samples s).nowMs ∧
      ∀ m, s ≤ m → m < k → ¬ timing.longPressThresholdMs ≤ (samples m).nowMs - (samples s).nowMs := by
  rcases Nat.eq_or_lt_of_le holding.inside with rfl | later
  · obtain ⟨-,-,-,-,reported⟩ := update_press (mem_offToOn.mp holding.pressed)
    refine reported.trans ⟨fun short => ⟨by omega,fun m low high => absurd high (by omega)⟩,fun first => ?_⟩
    have here := first.1
    omega
  · obtain ⟨k,rfl⟩ : ∃ n, k = n + 1 := ⟨k - 1,by omega⟩
    have before : Holding (start.eventsAt timing samples) s k :=
      ⟨by omega,holding.pressed,fun m low high => holding.held m low (by omega)⟩
    obtain ⟨stable,since,lasted,-⟩ := holding_state before
    have quiet := quiet_of_level stable fun released =>
      holding.held (k + 1) later (Nat.le_refl _) (mem_onToOff.mpr released)
    obtain ⟨-,-,-,-,reported⟩ := update_quiet quiet
    rw [eventsAt,reported,← Bool.not_eq_true,lasted]
    simp only [Lasts,stable,since,elapsed,Option.some.injEq,exists_eq_left',true_and,not_exists,not_and]
    constructor
    · rintro ⟨short,here⟩
      exact ⟨here,fun m low high => short m low (by omega)⟩
    · rintro ⟨here,short⟩
      exact ⟨fun m low high => short m low (by omega),here⟩

/-- A stable press began with an edge, unless the input was initialised active. -/
theorem stable_held {k : Nat} (stable : (start.state timing samples (k + 1)).stable = true) :
    (∃ s, Holding (start.eventsAt timing samples) s k) ∨
      start.stable = true ∧ ∀ m, m ≤ k → .onToOff ∉ start.eventsAt timing samples m := by
  induction k with
  | zero =>
    rw [state,update_stable] at stable
    cases changed : (start.state timing samples 0).change timing (samples 0) with
    | none =>
      rw [changed] at stable
      refine .inr ⟨stable,fun m low released => ?_⟩
      obtain rfl := Nat.le_zero.mp low
      have edge := mem_onToOff.mp released
      rw [changed] at edge
      cases edge
    | some level =>
      rw [changed] at stable
      obtain rfl : level = true := stable
      exact .inl ⟨0,Nat.le_refl 0,mem_offToOn.mpr changed,fun m low high => absurd high (by omega)⟩
  | succ k ih =>
    rw [state,update_stable] at stable
    cases changed : (start.state timing samples (k + 1)).change timing (samples (k + 1)) with
    | none =>
      rw [changed] at stable
      have still : .onToOff ∉ start.eventsAt timing samples (k + 1) := fun released => by
        have edge := mem_onToOff.mp released
        rw [changed] at edge
        cases edge
      rcases ih stable with ⟨s,inside,pressed,held⟩ | ⟨active,held⟩
      · refine .inl ⟨s,by omega,pressed,fun m low high => ?_⟩
        rcases Nat.lt_or_ge k m with last | earlier
        · rwa [show m = k + 1 by omega]
        · exact held m low earlier
      · refine .inr ⟨active,fun m high => ?_⟩
        rcases Nat.lt_or_ge k m with last | earlier
        · rwa [show m = k + 1 by omega]
        · exact held m earlier
    | some level =>
      rw [changed] at stable
      obtain rfl : level = true := stable
      exact .inl ⟨k + 1,Nat.le_refl _,mem_offToOn.mpr changed,fun m low high => absurd high (by omega)⟩

/-- A long press belongs to a press under way. -/
theorem longPress_held {k : Nat} (listed : .longPress ∈ start.eventsAt timing samples k) :
    (∃ s, Holding (start.eventsAt timing samples) s k) ∨
      start.stable = true ∧ ∀ m, m ≤ k → .onToOff ∉ start.eventsAt timing samples m := by
  refine stable_held ?_
  rw [state,update_stable]
  cases changed : (start.state timing samples k).change timing (samples k) with
  | none => exact ((update_quiet changed).2.2.2.2.mp listed).2.1
  | some level =>
    cases level with
    | true => rfl
    | false => exact absurd listed (update_release changed).2

/-! ### Clicks -/

/-- A released press waits for its click, or has had its only one. -/
theorem pending_state {r k : Nat} (pending : (start.state timing samples (r + 1)).pendingClickSinceMs = some (samples r).nowMs)
    (released : (start.state timing samples (r + 1)).stable = false) (later : r < k)
    (idle : ∀ m, r < m → m < k → .offToOn ∉ start.eventsAt timing samples m) :
    (start.state timing samples k).stable = false ∧
    ((start.state timing samples k).pendingClickSinceMs = some (samples r).nowMs ∧
        (∀ m, r < m → m < k → .click ∉ start.eventsAt timing samples m) ∨
      (start.state timing samples k).pendingClickSinceMs = none ∧
        ∃ m, r < m ∧ m < k ∧ .click ∈ start.eventsAt timing samples m ∧
          ∀ n, r < n → n < k → .click ∈ start.eventsAt timing samples n → n = m) := by
  induction k, later using Nat.le_induction with
  | base => exact ⟨released,.inl ⟨pending,fun m low high => absurd high (by omega)⟩⟩
  | succ k later ih =>
    obtain ⟨stable,before⟩ := ih fun m low high => idle m low (by omega)
    have quiet := quiet_of_level stable fun pressed =>
      idle k later (Nat.lt_succ_self k) (mem_offToOn.mpr pressed)
    have kept : (start.state timing samples (k + 1)).pendingClickSinceMs =
        ((start.state timing samples k).expirePendingClick timing (samples k) []).1.pendingClickSinceMs :=
      (update_quiet quiet).2.1
    refine ⟨?_,?_⟩
    · rw [state,update_stable,quiet]
      exact stable
    · rcases before with ⟨waits,none'⟩ | ⟨over',m,low,high,click,only⟩
      · by_cases expires : Expires timing (samples k) (start.state timing samples k)
        · refine .inr ⟨by rw [kept,expire_lost expires],k,later,Nat.lt_succ_self k,mem_click.mpr expires,
            fun n low high listed => ?_⟩
          by_contra other
          exact none' n low (by omega) listed
        · refine .inl ⟨by rw [kept,expire_kept expires]; exact waits,fun m low high listed => ?_⟩
          rcases Nat.lt_or_ge m k with earlier | last
          · exact none' m low earlier listed
          · obtain rfl : m = k := by omega
            exact expires (mem_click.mp listed)
      · have quiet' : ¬ Expires timing (samples k) (start.state timing samples k) := by
          rintro ⟨since,waits,-⟩
          rw [over'] at waits
          cases waits
        refine .inr ⟨by rw [kept,expire_kept quiet']; exact over',m,low,by omega,click,fun n low' high' listed => ?_⟩
        rcases Nat.lt_or_ge n k with earlier | last
        · exact only n low' earlier listed
        · obtain rfl : n = k := by omega
          exact absurd (mem_click.mp listed) quiet'

/-- Nothing is pending while a press is held, and what it is the second click of is settled. -/
theorem holding_pending {s k : Nat} (holding : Holding (start.eventsAt timing samples) s k)
    (settled : (start.state timing samples (s + 1)).pendingClickSinceMs = none) :
    (start.state timing samples (k + 1)).pendingClickSinceMs = none ∧
    (start.state timing samples (k + 1)).secondClickInProgress =
      (start.state timing samples (s + 1)).secondClickInProgress := by
  obtain ⟨inside,pressed,held⟩ := holding
  induction k, inside using Nat.le_induction with
  | base => exact ⟨settled,rfl⟩
  | succ k inside ih =>
    have before : Holding (start.eventsAt timing samples) s k := ⟨inside,pressed,fun m low high => held m low (by omega)⟩
    obtain ⟨pending,second⟩ := ih before.held
    have quiet := quiet_of_level (holding_state before).1 fun released =>
      held (k + 1) (by omega) (Nat.le_refl _) (mem_onToOff.mpr released)
    obtain ⟨-,pending',second',-⟩ := update_quiet quiet
    have kept : ¬ Expires timing (samples (k + 1)) (start.state timing samples (k + 1)) := by
      rintro ⟨since,waits,-⟩
      rw [pending] at waits
      cases waits
    rw [expire_kept kept] at pending' second'
    exact ⟨pending'.trans pending,second'.trans second⟩

theorem press_short {c s r : Nat} (press : Press samples (start.eventsAt timing samples) c s r)
    (short : ∀ m, s ≤ m → m ≤ r → .longPress ∉ start.eventsAt timing samples m) :
    (start.state timing samples r).longPressEmitted = false := by
  obtain ⟨n,rfl⟩ : ∃ n, r = n + 1 := ⟨r - 1,by have := press.before; omega⟩
  have before := press.before
  have holding : Holding (start.eventsAt timing samples) s n :=
    ⟨by omega,press.pressed,fun m low high => press.held m low (by omega)⟩
  rw [Bool.eq_false_iff]
  intro long
  obtain ⟨m,low,high,listed⟩ := (holding_state holding).2.2.2.mp long
  exact short m low (by omega) listed

/-- A short press that does not complete a double click waits from its release on. -/
theorem press_waits {c s r : Nat} (press : Press samples (start.eventsAt timing samples) c s r)
    (short : ∀ m, s ≤ m → m ≤ r → .longPress ∉ start.eventsAt timing samples m)
    (single : .doubleClick ∉ start.eventsAt timing samples r) :
    (start.state timing samples (r + 1)).pendingClickSinceMs = some (samples r).nowMs ∧
      (start.state timing samples (r + 1)).stable = false := by
  have released := mem_onToOff.mp press.released
  refine ⟨(update_release released).1 (press_short press short) single,?_⟩
  rw [state,update_stable,released]
  rfl

/-- A click that nothing follows. -/
theorem click_alone {r k : Nat}
    (pending : (start.state timing samples (r + 1)).pendingClickSinceMs = some (samples r).nowMs)
    (released : (start.state timing samples (r + 1)).stable = false) (later : r < k)
    (inactive : ∀ m, r < m → m ≤ k → (samples m).active = false) :
    .click ∈ start.eventsAt timing samples k ↔
      timing.doubleClickIntervalMs < (samples k).nowMs - (samples r).nowMs ∧
      ∀ m, r < m → m < k → ¬ timing.doubleClickIntervalMs < (samples m).nowMs - (samples r).nowMs := by
  have idle (m : Nat) (low : r < m) (high : m ≤ k) : .offToOn ∉ start.eventsAt timing samples m := fun pressed => by
    have active := (change_iff.mp (mem_offToOn.mp pressed)).1
    rw [inactive m low high] at active
    cases active
  have expires (m : Nat) (low : r < m) (high : m ≤ k) : .click ∈ start.eventsAt timing samples m ↔
      (start.state timing samples m).pendingClickSinceMs = some (samples r).nowMs ∧
        timing.doubleClickIntervalMs < (samples m).nowMs - (samples r).nowMs := by
    have before := (pending_state pending released low fun n low' high' => idle n low' (by omega)).2
    rw [eventsAt,mem_click,Expires,inactive m low high]
    constructor
    · rintro ⟨since,waits,late,-⟩
      rcases before with ⟨same,-⟩ | ⟨gone,-⟩
      · rw [same,Option.some.injEq] at waits
        exact ⟨same,by rwa [← waits] at late⟩
      · rw [gone] at waits
        cases waits
    · rintro ⟨same,late⟩
      exact ⟨_,same,late,fun both => Bool.false_ne_true both.1⟩
  have before := (pending_state pending released later fun m low high => idle m low (by omega)).2
  rw [expires k later (Nat.le_refl k)]
  constructor
  · rintro ⟨same,late⟩
    refine ⟨late,fun m low high early => ?_⟩
    rcases before with ⟨-,silent⟩ | ⟨gone,-⟩
    · have waits := (pending_state pending released low fun n low' high' => idle n low' (by omega)).2
      rcases waits with ⟨waits,-⟩ | ⟨-,n,low',high',click,-⟩
      · exact silent m low high ((expires m low (by omega)).mpr ⟨waits,early⟩)
      · exact silent n low' (by omega) click
    · rw [gone] at same
      cases same
  · rintro ⟨late,first⟩
    rcases before with ⟨same,-⟩ | ⟨-,m,low,high,click,-⟩
    · exact ⟨same,late⟩
    · exact absurd ((expires m low (by omega)).mp click).2 (first m low high)

theorem press_inactive {c s r : Nat} (press : Press samples (start.eventsAt timing samples) c s r) :
    (samples r).active = false :=
  (change_iff.mp (mem_onToOff.mp press.released)).1

end

/-! ### A second press -/

section
variable {timing : GestureTiming} {start : GestureDetector} {samples : Nat → Sample} {r c s : Nat}
  (settled : start.debouncer.Settled) (ordered : Debouncer.Ordered Sample.nowMs samples)
  (pending : (start.state timing samples (r + 1)).pendingClickSinceMs = some (samples r).nowMs)
  (released : (start.state timing samples (r + 1)).stable = false)
  (run : Debouncer.Run Sample.active samples true c s) (begun : c < s) (after : r < c)
  (idle : ∀ m, r < m → m < s → .offToOn ∉ start.eventsAt timing samples m)
include settled pending released run after idle

/-- The start of a press that is not yet stable. -/
theorem second_since {m : Nat} (low : c < m) (high : m ≤ s) :
    (start.state timing samples m).stable = false ∧ (start.state timing samples m).candidate = true ∧
      (start.state timing samples m).candidateSinceMs = (samples c).nowMs := by
  have stable := (pending_state pending released (show r < m by omega) fun n low' high' => idle n low' (by omega)).1
  obtain ⟨n,rfl⟩ : ∃ n, m = n + 1 := ⟨m - 1,by omega⟩
  have levels := start.state_debouncer timing samples (n + 1)
  have began : Debouncer.Run Sample.active samples true c n :=
    ⟨fun i above below => run.held i above (by omega),run.begins⟩
  have open' : (start.debouncer.state Sample.active Sample.nowMs timing.debounceMs samples (n + 1)).stable ≠ true := by
    rw [← levels]
    exact fun pressed => Bool.false_ne_true (stable.symm.trans pressed)
  obtain ⟨candidate,since⟩ := Debouncer.state_run settled began (by omega) open'
  rw [← levels] at candidate since
  exact ⟨stable,candidate,since⟩

include ordered in
/-- A click is only reported before a second press that began too late. -/
theorem expires_late {m : Nat} (low : r < m) (high : m ≤ s)
    (expires : Expires timing (samples m) (start.state timing samples m)) :
    timing.doubleClickIntervalMs < (samples c).nowMs - (samples r).nowMs := by
  obtain ⟨since,waits,late,outside⟩ := expires
  have same : since = (samples r).nowMs := by
    rcases (pending_state pending released low fun n low' high' => idle n low' (by omega)).2 with ⟨same,-⟩ | ⟨gone,-⟩
    · rw [same,Option.some.injEq] at waits
      exact waits.symm
    · rw [gone] at waits
      cases waits
  rw [same] at late outside
  rcases Nat.lt_or_ge c m with inside | before
  · obtain ⟨stable,candidate,began⟩ := second_since settled pending released run after idle inside high
    by_contra close
    refine outside ⟨run.held m (by omega) high,by rw [candidate,stable]; exact Bool.false_ne_true.symm,candidate,?_⟩
    rw [began]
    exact Nat.not_lt.mp close
  · have bound := Debouncer.ordered_le ordered before
    simp only [elapsed] at late
    omega

include begun in
/-- The click that a late second press does not complete is reported before it. -/
theorem click_before (late : timing.doubleClickIntervalMs < (samples c).nowMs - (samples r).nowMs) :
    (start.state timing samples s).pendingClickSinceMs = none ∧
    ∃ k, r < k ∧ k ≤ c ∧ .click ∈ start.eventsAt timing samples k ∧
      ∀ m, r < m → m < s → .click ∈ start.eventsAt timing samples m → m = k := by
  have inner (m : Nat) (high : m ≤ s) : ∀ n, r < n → n < m → .offToOn ∉ start.eventsAt timing samples n :=
    fun n low' high' => idle n low' (by omega)
  -- at the first sample of the run the candidate is still inactive
  have expires : (start.state timing samples c).pendingClickSinceMs = some (samples r).nowMs →
      Expires timing (samples c) (start.state timing samples c) := by
    intro waits
    refine ⟨_,waits,late,fun ⟨_,_,candidate,_⟩ => ?_⟩
    obtain ⟨n,rfl⟩ : ∃ n, c = n + 1 := ⟨c - 1,by omega⟩
    have tracks := Debouncer.tracks_state Sample.active Sample.nowMs timing.debounceMs samples settled (n + 1)
    have last := tracks.last n rfl
    rw [← start.state_debouncer timing samples (n + 1)] at last
    exact run.begins n rfl (last.symm.trans candidate)
  have reported : ∃ k, r < k ∧ k ≤ c ∧ .click ∈ start.eventsAt timing samples k := by
    rcases (pending_state pending released after (inner c (by omega))).2 with ⟨waits,-⟩ | ⟨-,k,low,high,click,-⟩
    · exact ⟨c,after,Nat.le_refl c,mem_click.mpr (expires waits)⟩
    · exact ⟨k,low,by omega,click⟩
  obtain ⟨k,low,high,click⟩ := reported
  rcases (pending_state pending released (show r < s by omega) idle).2 with ⟨-,silent⟩ | ⟨gone,m,-,-,-,only⟩
  · exact absurd click (silent k low (by omega))
  · refine ⟨gone,k,low,high,click,fun n low' high' listed => ?_⟩
    exact (only n low' high' listed).trans (only k low (by omega) click).symm

omit run in
include ordered in
/-- A second press completes a double click, or comes after a click. -/
theorem second_press {r' : Nat} (press : Press samples (start.eventsAt timing samples) c s r')
    (short : ∀ m, s ≤ m → m ≤ r' → .longPress ∉ start.eventsAt timing samples m) :
    (.doubleClick ∈ start.eventsAt timing samples r' ↔
      (samples c).nowMs - (samples r).nowMs ≤ timing.doubleClickIntervalMs) ∧
    ((samples c).nowMs - (samples r).nowMs ≤ timing.doubleClickIntervalMs →
      ∀ m, r < m → m ≤ r' → .click ∉ start.eventsAt timing samples m) ∧
    (¬ (samples c).nowMs - (samples r).nowMs ≤ timing.doubleClickIntervalMs →
      ∃ k, r < k ∧ k ≤ c ∧ ∀ m, r < m → m ≤ r' → (.click ∈ start.eventsAt timing samples m ↔ m = k)) := by
  have run := press.run
  have begun := press.begun
  have early {m : Nat} := expires_late (m := m) settled ordered pending released run after idle
  have edge := mem_offToOn.mp press.pressed
  obtain ⟨-,second,waits,-⟩ := update_press edge
  have since := (second_since settled pending released run after idle begun (Nat.le_refl s)).2.2
  -- the press itself settles what is pending
  have settled' : (start.state timing samples (s + 1)).pendingClickSinceMs = none ∧
      ((start.state timing samples (s + 1)).secondClickInProgress = true ↔
        (samples c).nowMs - (samples r).nowMs ≤ timing.doubleClickIntervalMs) := by
    by_cases close : (samples c).nowMs - (samples r).nowMs ≤ timing.doubleClickIntervalMs
    · have kept : ¬ Expires timing (samples s) (start.state timing samples s) := fun expires =>
        Nat.not_le.mpr (early (by omega) (Nat.le_refl s) expires) close
      have before : (start.state timing samples s).pendingClickSinceMs = some (samples r).nowMs := by
        rcases (pending_state pending released (show r < s by omega) idle).2 with ⟨same,-⟩ | ⟨-,m,low,high,click,-⟩
        · exact same
        · exact absurd close (Nat.not_le.mpr (early low (by omega) (mem_click.mp click)))
      rw [expire_kept kept,before,since] at second waits
      simp only [elapsed,Option.some.injEq,exists_eq_left',forall_eq'] at second waits
      exact ⟨waits.mpr close,second⟩
    · obtain ⟨gone,-⟩ := click_before settled pending released run begun after idle (Nat.not_le.mp close)
      have kept : ¬ Expires timing (samples s) (start.state timing samples s) := not_expires gone
      rw [expire_kept kept,gone] at second waits
      simp only [reduceCtorEq,false_and,exists_false,iff_false,false_implies,implies_true,iff_true] at second waits
      exact ⟨waits,iff_of_false second close⟩
  obtain ⟨n,rfl⟩ : ∃ n, r' = n + 1 := ⟨r' - 1,by have := press.before; omega⟩
  have inside : s ≤ n := Nat.le_of_lt_succ press.before
  have held (k : Nat) (low : s ≤ k) (high : k ≤ n) : Holding (start.eventsAt timing samples) s k :=
    ⟨low,press.pressed,fun m above below => press.held m above (by omega)⟩
  -- and nothing is pending from then on
  have silent (m : Nat) (low : s < m) (high : m ≤ n + 1) : .click ∉ start.eventsAt timing samples m := by
    obtain ⟨k,rfl⟩ : ∃ k, m = k + 1 := ⟨m - 1,by omega⟩
    intro listed
    have gone := (holding_pending (held k (by omega) (by omega)) settled'.1).1
    exact not_expires gone (mem_click.mp listed)
  have double : .doubleClick ∈ start.eventsAt timing samples (n + 1) ↔
      (start.state timing samples (n + 1)).secondClickInProgress = true := by
    obtain ⟨gone,-⟩ := holding_pending (held n inside (Nat.le_refl n)) settled'.1
    have kept : ¬ Expires timing (samples (n + 1)) (start.state timing samples (n + 1)) := not_expires gone
    rw [eventsAt,mem_doubleClick,expire_kept kept]
    exact ⟨fun all => all.2.2,fun both => ⟨mem_onToOff.mp press.released,press_short press short,both⟩⟩
  refine ⟨?_,fun close m low high listed => ?_,fun late => ?_⟩
  · rw [double,(holding_pending (held n inside (Nat.le_refl n)) settled'.1).2]
    exact settled'.2
  · rcases Nat.lt_or_ge s m with above | below
    · exact silent m above high listed
    · exact Nat.not_le.mpr (early low below (mem_click.mp listed)) close
  · obtain ⟨gone,k,low,high,click,only⟩ :=
      click_before settled pending released run begun after idle (Nat.not_le.mp late)
    refine ⟨k,low,high,fun m low' high' => ⟨fun listed => ?_,fun same => same ▸ click⟩⟩
    rcases Nat.lt_trichotomy s m with above | rfl | below
    · exact absurd listed (silent m above high')
    · exact absurd (mem_click.mp listed) (not_expires gone)
    · exact only m low' below listed

end
end GestureDetector

section
variable (timing : GestureTiming) (detector : GestureDetector) (level : Bool) (startMs : Nat)

/-- The gestures of every press. A long press is reported once, at the first sample that is the
threshold away from the press. Of two short presses in a row the first is reported by a click
that comes before the second one, or both by a double click. A short press that nothing follows
is a click once its window has passed. -/
theorem presses_classified (samples : Nat → Sample) (ordered : Debouncer.Ordered Sample.nowMs samples) :
    let eventsAt := (detector.initialized level startMs).eventsAt timing samples
    let short := fun s r => ∀ m, s ≤ m → m ≤ r → InputEvent.longPress ∉ eventsAt m
    (∀ k, (eventsAt k).Nodup) ∧
    (∀ s k, Holding eventsAt s k → (InputEvent.longPress ∈ eventsAt k ↔
      timing.longPressThresholdMs ≤ (samples k).nowMs - (samples s).nowMs ∧
      ∀ m, s ≤ m → m < k → ¬ timing.longPressThresholdMs ≤ (samples m).nowMs - (samples s).nowMs)) ∧
    (∀ k, InputEvent.longPress ∈ eventsAt k → (∃ s, Holding eventsAt s k) ∨
      level = true ∧ ∀ m, m ≤ k → InputEvent.onToOff ∉ eventsAt m) ∧
    (∀ c₁ s₁ r₁ c₂ s₂ r₂, Press samples eventsAt c₁ s₁ r₁ → Press samples eventsAt c₂ s₂ r₂ →
      r₁ < s₂ → (∀ m, r₁ < m → m < s₂ → InputEvent.offToOn ∉ eventsAt m) →
      short s₁ r₁ → short s₂ r₂ → InputEvent.doubleClick ∉ eventsAt r₁ →
      (InputEvent.doubleClick ∈ eventsAt r₂ ↔
        (samples c₂).nowMs - (samples r₁).nowMs ≤ timing.doubleClickIntervalMs) ∧
      ((samples c₂).nowMs - (samples r₁).nowMs ≤ timing.doubleClickIntervalMs →
        ∀ m, r₁ < m → m ≤ r₂ → InputEvent.click ∉ eventsAt m) ∧
      (¬ (samples c₂).nowMs - (samples r₁).nowMs ≤ timing.doubleClickIntervalMs →
        ∃ k, r₁ < k ∧ k ≤ c₂ ∧ c₂ < s₂ ∧
          ∀ m, r₁ < m → m ≤ r₂ → (InputEvent.click ∈ eventsAt m ↔ m = k))) ∧
    ∀ c s r, Press samples eventsAt c s r → short s r → InputEvent.doubleClick ∉ eventsAt r →
      ∀ k, r < k → (∀ m, r < m → m ≤ k → (samples m).active = false) →
        (InputEvent.click ∈ eventsAt k ↔
          timing.doubleClickIntervalMs < (samples k).nowMs - (samples r).nowMs ∧
          ∀ m, r < m → m < k → ¬ timing.doubleClickIntervalMs < (samples m).nowMs - (samples r).nowMs) := by
  intro eventsAt short
  refine ⟨fun k => GestureDetector.update_nodup,fun s k holding => GestureDetector.longPress_iff holding,
    fun k listed => GestureDetector.longPress_held listed,?_,?_⟩
  · intro c₁ s₁ r₁ c₂ s₂ r₂ first second apart idle noLong noLong' single
    obtain ⟨pending,released⟩ := GestureDetector.press_waits first noLong single
    have after : r₁ < c₂ := by
      by_contra before
      have active := second.run.held r₁ (by omega) (by omega)
      rw [GestureDetector.press_inactive first] at active
      cases active
    obtain ⟨double,silent,click⟩ := GestureDetector.second_press (settled_initialized detector level startMs) ordered
      pending released after idle second noLong'
    refine ⟨double,silent,fun late => ?_⟩
    obtain ⟨k,low,high,only⟩ := click late
    exact ⟨k,low,high,second.begun,only⟩
  · intro c s r press noLong single k later inactive
    obtain ⟨pending,released⟩ := GestureDetector.press_waits press noLong single
    exact GestureDetector.click_alone pending released later inactive

end
/-- Two short taps, each of two samples. -/
def tapping (k : Nat) : Sample where
  active := k = 1 ∨ k = 2 ∨ k = 5 ∨ k = 6
  nowMs := 10 * k

theorem presses_classified_taps :
    InputEvent.doubleClick ∈ (GestureDetector.new.initialized false 0).eventsAt ⟨10,400,800⟩ tapping 8 ∧
    ∀ m, 4 < m → m ≤ 8 →
      InputEvent.click ∉ (GestureDetector.new.initialized false 0).eventsAt ⟨10,400,800⟩ tapping m := by
  have ordered : Debouncer.Ordered Sample.nowMs tapping := fun k => by
    simp only [tapping]
    omega
  obtain ⟨-,-,-,classified,-⟩ := presses_classified ⟨10,400,800⟩ .new false 0 tapping ordered
  have press (c : Nat) (at' : c = 1 ∨ c = 5) : Press tapping
      ((GestureDetector.new.initialized false 0).eventsAt ⟨10,400,800⟩ tapping) c (c + 1) (c + 3) := by
    refine ⟨⟨fun m low high => ?_,fun m last => ?_⟩,Nat.lt_succ_self c,?_,by omega,fun m low high => ?_,?_⟩
    · obtain rfl | rfl | rfl | rfl : m = 1 ∨ m = 2 ∨ m = 5 ∨ m = 6 := by omega
      all_goals rfl
    · obtain rfl | rfl : m = 0 ∨ m = 4 := by omega
      all_goals decide
    · obtain rfl | rfl := at'
      all_goals decide
    · obtain rfl | rfl : m = 3 ∨ m = 7 := by omega
      all_goals decide
    · obtain rfl | rfl := at'
      all_goals decide
  obtain ⟨double,silent,-⟩ := classified 1 2 4 5 6 8 (press 1 (.inl rfl)) (press 5 (.inr rfl)) (by decide)
    (fun m low high => by obtain rfl : m = 5 := by omega
                          decide)
    (fun m low high => by obtain rfl | rfl | rfl : m = 2 ∨ m = 3 ∨ m = 4 := by omega
                          all_goals decide)
    (fun m low high => by obtain rfl | rfl | rfl : m = 6 ∨ m = 7 ∨ m = 8 := by omega
                          all_goals decide)
    (by decide)
  exact ⟨double.mpr (by decide),silent (by decide)⟩

end UchiPulse.Node
