import UchiPulse.Node.Input

/-! What the gestures of one input say about its presses. Each gesture is credited to
the presses it reports; the invariant accounts for every press that is over exactly
once: credited, waiting for the rest of a click, or dropped by a long second press. -/
namespace UchiPulse.Node
open Common

/-- Presses are numbered from one as they start. `credits` lists, for each gesture, the
presses it reports: a click the last one ended, a double click the last two, a long press
the last one started. -/
structure Presses where
  started : Nat
  ended : Nat
  credits : List Nat

/-- A press is under way when the input was initialised active. -/
def Presses.start (active : Bool) : Presses where
  started := if active then 1 else 0
  ended := 0
  credits := []

def Presses.note (self : Presses) : InputEvent → Presses
  | .offToOn => { self with started := self.started + 1 }
  | .onToOff => { self with ended := self.ended + 1 }
  | .click => { self with credits := self.credits ++ [self.ended] }
  | .doubleClick => { self with credits := self.credits ++ [self.ended - 1,self.ended] }
  | .longPress => { self with credits := self.credits ++ [self.started] }

def Presses.feed (self : Presses) (events : List InputEvent) : Presses := events.foldl note self

theorem Presses.feed_append (self : Presses) (front back : List InputEvent) :
    self.feed (front ++ back) = (self.feed front).feed back :=
  List.foldl_append

/-- How many presses the gestures of a run report. -/
def gestures (events : List InputEvent) : Nat :=
  events.count .click + 2 * events.count .doubleClick + events.count .longPress

theorem Presses.feed_counts (self : Presses) (events : List InputEvent) :
    (self.feed events).started = self.started + events.count .offToOn ∧
    (self.feed events).ended = self.ended + events.count .onToOff ∧
    (self.feed events).credits.length = self.credits.length + gestures events := by
  induction events generalizing self with
  | nil => exact ⟨rfl,rfl,rfl⟩
  | cons event events ih =>
    obtain ⟨started,ended,length⟩ := ih (self.note event)
    simp only [Presses.feed,List.foldl_cons] at started ended length ⊢
    rw [started,ended,length]
    cases event <;> simp [Presses.note,gestures] <;> omega

/-! ### Accounting -/

/-- The press whose gesture is still open. -/
def waiting (self : GestureDetector) (presses : Presses) : List Nat :=
  if self.pendingClickSinceMs.isSome ∨
      (self.stable = true ∧ self.secondClickInProgress = true ∧ self.longPressEmitted = false)
  then [presses.ended] else []

/-- Presses whose account is closed or waiting: those that ended, and one reported long. -/
def settled (self : GestureDetector) (presses : Presses) : Nat :=
  presses.ended + if self.stable = true ∧ self.longPressEmitted = true then 1 else 0

structure Accounted (detector : GestureDetector) (presses : Presses) (lost : List Nat) : Prop where
  under_way : presses.started = presses.ended + if detector.stable then 1 else 0
  pressed_waits : detector.stable = true → detector.pendingClickSinceMs = none
  released_first : detector.stable = false → detector.secondClickInProgress = false
  once : ∀ press, presses.credits.count press + lost.count press +
    (waiting detector presses).count press =
      if 1 ≤ press ∧ press ≤ settled detector presses then 1 else 0

theorem pushEvent_eq {output : List InputEvent} (event : InputEvent)
    (room : output.length < maxEventsPerSample) : pushEvent output event = output ++ [event] :=
  if_pos room

theorem Presses.feed_push (self : Presses) (output : List InputEvent) (event : InputEvent)
    (room : output.length < maxEventsPerSample) :
    self.feed (pushEvent output event) = (self.feed output).note event := by
  rw [pushEvent_eq event room,Presses.feed_append]
  rfl

theorem accounted_start (detector : GestureDetector) (active : Bool) (nowMs : Nat) :
    Accounted (detector.initialized active nowMs) (.start active) [] where
  under_way := by cases active <;> rfl
  pressed_waits _ := rfl
  released_first _ := rfl
  once press := by
    simp [waiting,settled,GestureDetector.initialized,Presses.start]
    omega

section
variable {timing : GestureTiming} {sample : Sample} {self : GestureDetector} {presses : Presses}
  {output : List InputEvent} {lost : List Nat}

theorem expire_accounted (accounted : Accounted self (presses.feed output) lost)
    (room : output.length < maxEventsPerSample) :
    Accounted (self.expirePendingClick timing sample output).1
      (presses.feed (self.expirePendingClick timing sample output).2) lost := by
  unfold GestureDetector.expirePendingClick
  cases pending : self.pendingClickSinceMs with
  | none => exact accounted
  | some since =>
    simp only
    split
    next =>
      have released : self.stable = false := by
        by_contra pressed
        have none := accounted.pressed_waits (by simpa using pressed)
        rw [pending] at none
        cases none
      have before := accounted.once
      simp only [presses.feed_push output .click room]
      refine ⟨accounted.under_way,fun _ => rfl,fun _ => rfl,fun press => ?_⟩
      have balance := before press
      simp only [waiting,settled,Presses.note,pending,released,Option.isSome_some,Option.isSome_none,
        true_or,if_true,Bool.false_eq_true,false_and,or_self,if_false,List.count_append,List.count_nil,
        Nat.add_zero] at balance ⊢
      omega
    next => exact accounted

/-- A click still pending after the first stage is inside its window. -/
theorem expire_window {since : Nat}
    (pending : (self.expirePendingClick timing sample output).1.pendingClickSinceMs = some since)
    (later : self.candidateSinceMs ≤ sample.nowMs) :
    elapsed self.candidateSinceMs since ≤ timing.doubleClickIntervalMs := by
  unfold GestureDetector.expirePendingClick at pending
  cases before : self.pendingClickSinceMs with
  | none => simp [before] at pending
  | some start =>
    simp only [before] at pending
    split at pending
    next => simp at pending
    next inside =>
      have same : start = since := by simpa [before] using pending
      subst same
      by_contra long
      refine inside ⟨?_,?_⟩
      · simp only [elapsed] at long ⊢
        omega
      · simp [long]

theorem debounce_accounted (accounted : Accounted self (presses.feed output) lost)
    (room : output.length + 1 < maxEventsPerSample)
    (window : ∀ since, self.pendingClickSinceMs = some since →
      elapsed self.candidateSinceMs since ≤ timing.doubleClickIntervalMs) :
    Accounted (self.debounce timing sample output).1
      (presses.feed (self.debounce timing sample output).2) lost := by
  have place : output.length < maxEventsPerSample := by omega
  have before := accounted.once
  have started := accounted.under_way
  unfold GestureDetector.debounce
  split
  next => exact ⟨accounted.under_way,accounted.pressed_waits,accounted.released_first,accounted.once⟩
  next =>
    split
    next change =>
      split
      next pressed =>
        have released : self.stable = false := by
          simpa [pressed] using change.1
        have first := accounted.released_first released
        simp only [GestureDetector.acceptPress,presses.feed_push output .offToOn place]
        cases pending : self.pendingClickSinceMs with
        | none =>
          refine ⟨?_,fun _ => rfl,fun h => (by cases h),fun press => ?_⟩
          · simp only [released] at started
            simp only [Presses.note,started]
            simp
          · have balance := before press
            simp only [waiting,settled,Presses.note,pending,released,first,Option.isSome_none,
              Bool.false_eq_true,false_and,and_false,or_self,if_false] at balance ⊢
            exact balance
        | some since =>
          have inside := window since pending
          refine ⟨?_,fun _ => by simp [inside],fun h => (by cases h),fun press => ?_⟩
          · simp only [released] at started
            simp only [Presses.note,started]
            simp
          · have balance := before press
            simp only [waiting,settled,Presses.note,pending,released,Option.isSome_some,inside,
              decide_true,and_self,or_true,true_or,if_true,Bool.false_eq_true,false_and,and_false,
              if_false] at balance ⊢
            exact balance
      next notPressed =>
        have pressed : self.stable = true := by
          have := change.1
          cases stable : self.stable <;> simp_all
        have none := accounted.pressed_waits pressed
        simp only [pressed,if_true] at started
        unfold GestureDetector.acceptRelease
        split
        next long =>
          simp only [presses.feed_push output .onToOff place]
          refine ⟨?_,fun h => (by cases h),fun _ => rfl,fun press => ?_⟩
          · simp only [Presses.note,started]
            simp
          · have balance := before press
            simp only [waiting,settled,Presses.note,none,pressed,long,Option.isSome_none,
              Bool.false_eq_true,Bool.true_eq_false,and_self,and_false,false_and,or_self,if_true,
              if_false] at balance ⊢
            exact balance
        next notLong =>
          have short : self.longPressEmitted = false := by simpa using notLong
          split
          next second =>
            have room' : (pushEvent output .onToOff).length < maxEventsPerSample := by
              rw [pushEvent_eq _ place,List.length_append]
              exact room
            simp only [presses.feed_push _ .doubleClick room',presses.feed_push output .onToOff place]
            refine ⟨?_,fun h => (by cases h),fun _ => rfl,fun press => ?_⟩
            · simp only [Presses.note,started]
              simp
            · have balance := before press
              have atEnded := before (presses.feed output).ended
              simp only [waiting,settled,Presses.note,none,pressed,short,second,Option.isSome_none,
                Bool.false_eq_true,and_self,and_false,false_and,or_true,or_self,if_true,
                if_false,List.count_append,List.count_cons,List.count_nil,beq_iff_eq,
                Nat.add_zero,Nat.add_sub_cancel] at balance atEnded ⊢
              split_ifs at balance atEnded ⊢ <;> omega
          next notSecond =>
            have first : self.secondClickInProgress = false := by simpa using notSecond
            simp only [presses.feed_push output .onToOff place]
            refine ⟨?_,fun h => (by cases h),fun _ => first,fun press => ?_⟩
            · simp only [Presses.note,started]
              simp
            · have balance := before press
              simp only [waiting,settled,Presses.note,none,pressed,short,first,Option.isSome_none,
                Option.isSome_some,Bool.false_eq_true,and_self,and_false,false_and,true_or,or_self,
                if_true,if_false,List.count_cons,List.count_nil,beq_iff_eq,
                Nat.add_zero] at balance ⊢
              split_ifs at balance ⊢ <;> omega
    next => exact accounted

/-- The second press of a double click is held for the threshold of a long press. -/
def Held (timing : GestureTiming) (sample : Sample) (self : GestureDetector) : Prop :=
  self.stable = true ∧ self.secondClickInProgress = true ∧ self.longPressEmitted = false ∧
    ∃ pressed ∈ self.pressedSinceMs, elapsed sample.nowMs pressed ≥ timing.longPressThresholdMs

instance : Decidable (Held timing sample self) := by unfold Held; infer_instance

theorem recognise_accounted (accounted : Accounted self (presses.feed output) lost)
    (room : output.length < maxEventsPerSample) :
    Accounted (self.recogniseLongPress timing sample output).1
      (presses.feed (self.recogniseLongPress timing sample output).2)
      (if Held timing sample self then lost ++ [(presses.feed output).ended] else lost) := by
  unfold GestureDetector.recogniseLongPress
  cases since : self.pressedSinceMs with
  | none => simpa [Held,since] using accounted
  | some pressed =>
    simp only
    split
    next long =>
      obtain ⟨stable,first,held⟩ := long
      have none := accounted.pressed_waits stable
      have started := accounted.under_way
      simp only [stable,if_true] at started
      simp only [presses.feed_push output .longPress room]
      refine ⟨by simpa [Presses.note,stable] using started,fun _ => none,
        fun released => by simp [stable] at released,fun press => ?_⟩
      have balance := accounted.once press
      simp only [Held,since,stable,first,Option.mem_def,Option.some.injEq,exists_eq_left',held,and_true,
        true_and]
      simp only [waiting,settled,Presses.note,none,stable,first,started,Option.isSome_none,
        Bool.false_eq_true,Bool.true_eq_false,and_true,true_and,and_false,false_or,or_self,
        if_true,if_false,List.count_append,List.count_cons,List.count_nil,beq_iff_eq,
        Nat.add_zero,Nat.zero_add] at balance ⊢
      cases second : self.secondClickInProgress <;>
        simp only [second,Bool.false_eq_true,if_true,if_false,List.count_append,List.count_cons,
          List.count_nil,beq_iff_eq,Nat.zero_add] at balance ⊢ <;>
        split_ifs at balance ⊢ <;> omega
    next short =>
      have notHeld : ¬ Held timing sample self := by
        rintro ⟨stable,-,first,pressed',member,held⟩
        rw [since,Option.mem_def,Option.some.injEq] at member
        exact short ⟨stable,first,member ▸ held⟩
      simpa [notHeld] using accounted

/-- The stable level goes inactive with this sample. -/
def Releases (timing : GestureTiming) (sample : Sample) (self : GestureDetector) : Prop :=
  sample.active = false ∧ self.candidate = false ∧ self.stable = true ∧
    elapsed sample.nowMs self.candidateSinceMs ≥ timing.debounceMs

/-- The sample turns the second press of a double click into a long press; the first
press is then reported by nothing. -/
def Overtaken (timing : GestureTiming) (sample : Sample) (self : GestureDetector) : Prop :=
  Held timing sample self ∧ ¬ Releases timing sample self

instance : Decidable (Releases timing sample self) := by unfold Releases; infer_instance
instance : Decidable (Overtaken timing sample self) := by unfold Overtaken; infer_instance

theorem debounce_held (threshold : 0 < timing.longPressThresholdMs) :
    Held timing sample (self.debounce timing sample output).1 ↔ Overtaken timing sample self := by
  unfold GestureDetector.debounce Overtaken Releases
  split
  next changed =>
    have same (h : sample.active = false) (h' : self.candidate = false) : False :=
      changed (by rw [h,h'])
    constructor
    · exact fun held => ⟨held,fun release => same release.1 release.2.1⟩
    · exact fun held => held.1
  next stays =>
    have level : sample.active = self.candidate := not_not.mp stays
    split
    next change =>
      split
      next pressed =>
        have released : self.stable = false := by simpa [pressed] using change.1
        constructor
        · rintro ⟨-,-,-,since,member,held⟩
          simp only [GestureDetector.acceptPress,Option.mem_def,Option.some.injEq] at member
          rw [← member,elapsed] at held
          omega
        · rintro ⟨⟨stable,-⟩,-⟩
          rw [released] at stable
          cases stable
      next notPressed =>
        have inactive : self.candidate = false := by simpa using notPressed
        have pressed : self.stable = true := by
          have := change.1
          cases stable : self.stable <;> simp_all
        constructor
        · rintro ⟨stable,-⟩
          unfold GestureDetector.acceptRelease at stable
          split_ifs at stable
        · rintro ⟨-,notReleased⟩
          exact absurd ⟨level.trans inactive,inactive,pressed,change.2⟩ notReleased
    next notChange =>
      constructor
      · refine fun held => ⟨held,fun release => notChange ⟨?_,release.2.2.2⟩⟩
        rw [release.2.1,release.2.2.1]
        decide
      · exact fun held => held.1

theorem expire_overtaken (accounted : Accounted self presses lost) :
    Overtaken timing sample (self.expirePendingClick timing sample output).1 ↔
      Overtaken timing sample self := by
  unfold GestureDetector.expirePendingClick
  cases pending : self.pendingClickSinceMs with
  | none => rfl
  | some since =>
    simp only
    split
    next =>
      have released : self.stable ≠ true := by
        intro pressed
        have none := accounted.pressed_waits pressed
        rw [pending] at none
        cases none
      exact ⟨fun overtaking => absurd overtaking.1.1 released,fun overtaking => absurd overtaking.1.1 released⟩
    next => rfl

theorem expire_events (empty : output = []) :
    (self.expirePendingClick timing sample output).2.length ≤ 1 := by
  subst empty
  unfold GestureDetector.expirePendingClick
  cases self.pendingClickSinceMs with
  | none => simp
  | some since => simp only; split <;> simp [pushEvent,maxEventsPerSample]

theorem debounce_events (room : output.length ≤ 1) :
    (self.debounce timing sample output).2.length ≤ 3 := by
  have one : output.length < 16 := by omega
  have two : output.length + 1 < 16 := by omega
  unfold GestureDetector.debounce GestureDetector.acceptPress GestureDetector.acceptRelease
  split_ifs <;> simp [pushEvent,maxEventsPerSample,one,two] <;> omega

/-- The candidate level is never younger than the last sample. -/
theorem update_since (later : self.candidateSinceMs ≤ sample.nowMs) :
    (self.update timing sample output).1.candidateSinceMs ≤ sample.nowMs := by
  have expire (output : List InputEvent) :
      (self.expirePendingClick timing sample output).1.candidateSinceMs = self.candidateSinceMs := by
    unfold GestureDetector.expirePendingClick
    cases self.pendingClickSinceMs <;> simp only; split <;> rfl
  have debounce (self : GestureDetector) (output : List InputEvent)
      (later : self.candidateSinceMs ≤ sample.nowMs) :
      (self.debounce timing sample output).1.candidateSinceMs ≤ sample.nowMs := by
    unfold GestureDetector.debounce GestureDetector.acceptPress GestureDetector.acceptRelease
    split_ifs <;> first | exact later | exact Nat.le_refl _
  have recognise (self : GestureDetector) (output : List InputEvent) :
      (self.recogniseLongPress timing sample output).1.candidateSinceMs = self.candidateSinceMs := by
    unfold GestureDetector.recogniseLongPress
    cases self.pressedSinceMs <;> simp only; split <;> rfl
  simp only [GestureDetector.update]
  rw [recognise]
  exact debounce _ _ (by rw [expire]; exact later)

/-- One sample closes or opens accounts, and drops a press only if one is overtaken. -/
theorem update_accounted (accounted : Accounted self presses lost)
    (later : self.candidateSinceMs ≤ sample.nowMs) : ∃ dropped,
    Accounted (self.update timing sample []).1 (presses.feed (self.update timing sample []).2)
      (lost ++ dropped) ∧
    (0 < timing.longPressThresholdMs → (dropped = [] ↔ ¬ Overtaken timing sample self)) := by
  have window : ∀ since, (self.expirePendingClick timing sample []).1.pendingClickSinceMs = some since →
      elapsed self.candidateSinceMs since ≤ timing.doubleClickIntervalMs :=
    fun since pending => expire_window pending later
  have expired : Accounted (self.expirePendingClick timing sample []).1
      (presses.feed (self.expirePendingClick timing sample []).2) lost :=
    expire_accounted accounted (by decide)
  have overtaken : Overtaken timing sample (self.expirePendingClick timing sample []).1 ↔
      Overtaken timing sample self := expire_overtaken accounted
  have room : (self.expirePendingClick timing sample []).2.length ≤ 1 := expire_events rfl
  have same : (self.expirePendingClick timing sample []).1.candidateSinceMs = self.candidateSinceMs := by
    unfold GestureDetector.expirePendingClick
    cases self.pendingClickSinceMs <;> simp only; split <;> rfl
  have debounced : Accounted (GestureDetector.debounce timing sample _ _).1 (presses.feed _) lost :=
    debounce_accounted expired (by simp only [maxEventsPerSample]; omega)
      (fun start pending => by rw [same]; exact window start pending)
  have held (threshold : 0 < timing.longPressThresholdMs) :
      Held timing sample ((self.expirePendingClick timing sample []).1.debounce timing sample
        (self.expirePendingClick timing sample []).2).1 ↔
        Overtaken timing sample (self.expirePendingClick timing sample []).1 :=
    debounce_held threshold
  have room : ((self.expirePendingClick timing sample []).1.debounce timing sample
      (self.expirePendingClick timing sample []).2).2.length ≤ 3 := debounce_events room
  have recognised : Accounted (GestureDetector.recogniseLongPress timing sample _ _).1 (presses.feed _) _ :=
    recognise_accounted debounced (by simp only [maxEventsPerSample]; omega)
  simp only [GestureDetector.update]
  split at recognised
  next yes =>
    refine ⟨_,recognised,fun threshold => ?_⟩
    simp [overtaken.mp ((held threshold).mp yes)]
  next no =>
    refine ⟨[],by simpa using recognised,fun threshold => ?_⟩
    simpa using fun overtaking => no ((held threshold).mpr (overtaken.mpr overtaking))

end

/-- No sample of the run overtakes the second press of a double click. -/
def Kept (timing : GestureTiming) : GestureDetector → List Sample → Prop
  | _, [] => True
  | self, sample :: samples =>
    ¬ Overtaken timing sample self ∧ Kept timing (self.update timing sample []).1 samples

theorem run_accounted (timing : GestureTiming) (samples : List Sample) (self : GestureDetector)
    (presses : Presses) (lost : List Nat) (sinceMs : Nat)
    (accounted : Accounted self presses lost) (later : self.candidateSinceMs ≤ sinceMs)
    (ordered : Ordered sinceMs samples) : ∃ dropped,
    Accounted (self.run timing samples).1 (presses.feed (self.run timing samples).2)
      (lost ++ dropped) ∧
    (0 < timing.longPressThresholdMs → (dropped = [] ↔ Kept timing self samples)) := by
  induction samples generalizing self presses lost sinceMs with
  | nil => exact ⟨[],by simpa [GestureDetector.run,Presses.feed] using accounted,by simp [Kept]⟩
  | cons sample samples ih =>
    have now := Nat.le_trans later ordered.1
    obtain ⟨dropped,step,kept⟩ : ∃ dropped, Accounted (self.update timing sample []).1 _ (lost ++ dropped) ∧ _ :=
      update_accounted accounted now
    obtain ⟨rest,run,keeps⟩ := ih _ _ _ _ step (update_since now) ordered.2
    refine ⟨dropped ++ rest,?_,fun threshold => ?_⟩
    · simpa [GestureDetector.run,Presses.feed_append] using run
    · rw [List.append_eq_nil_iff,kept threshold,keeps threshold,Kept]

/-! ### Whole runs -/

theorem perm_range_of_count (list : List Nat) (last : Nat)
    (once : ∀ k, list.count k = if 1 ≤ k ∧ k ≤ last then 1 else 0) : list.Perm (List.range' 1 last) := by
  rw [List.perm_iff_count]
  intro k
  rw [once k]
  by_cases member : k ∈ List.range' 1 last
  · rw [List.Nodup.count List.nodup_range',if_pos member,if_pos]
    rw [List.mem_range'_1] at member
    omega
  · rw [List.count_eq_zero_of_not_mem member,if_neg]
    rw [List.mem_range'_1] at member
    omega

theorem Accounted.perm {detector : GestureDetector} {presses : Presses} {lost : List Nat}
    (accounted : Accounted detector presses lost) :
    (presses.credits ++ lost ++ waiting detector presses).Perm
      (List.range' 1 (settled detector presses)) := by
  apply perm_range_of_count
  intro press
  rw [List.count_append,List.count_append]
  exact accounted.once press

theorem Accounted.settled_le {detector : GestureDetector} {presses : Presses} {lost : List Nat}
    (accounted : Accounted detector presses lost) : settled detector presses ≤ presses.started := by
  rw [accounted.under_way,settled]
  cases detector.stable <;> cases detector.longPressEmitted <;> simp

/-- No press is counted twice: the gestures are credited to different presses, all of
them started, so they report at most as many presses as were started. -/
theorem gestures_le_presses (timing : GestureTiming) (detector : GestureDetector) (active : Bool)
    (startMs : Nat) (samples : List Sample) (ordered : Ordered startMs samples) :
    let events := ((detector.initialized active startMs).run timing samples).2
    gestures events ≤ events.count .offToOn + (if active then 1 else 0) ∧
      ((Presses.start active).feed events).credits.Nodup ∧
      ∀ press ∈ ((Presses.start active).feed events).credits,
        1 ≤ press ∧ press ≤ events.count .offToOn + if active then 1 else 0 := by
  intro events
  obtain ⟨lost,accounted,-⟩ := run_accounted timing samples _ _ _ startMs
    (accounted_start detector active startMs) (Nat.le_refl _) ordered
  change Accounted _ ((Presses.start active).feed events) _ at accounted
  obtain ⟨started,-,length⟩ := (Presses.start active).feed_counts events
  have perm := accounted.perm
  have bound := accounted.settled_le
  have total := perm.length_eq
  have nodup := perm.nodup_iff.mpr List.nodup_range'
  simp only [List.length_append,List.length_range'] at total
  have first : ((Presses.start active).feed events).started =
      events.count .offToOn + if active then 1 else 0 := by
    rw [started,Presses.start,Nat.add_comm]
  have none : (Presses.start active).credits.length = 0 := rfl
  refine ⟨by omega,?_,fun press member => ?_⟩
  · exact (List.nodup_append.mp (List.nodup_append.mp nodup).1).1
  · have inRange := perm.mem_iff.mp (List.mem_append_left _ (List.mem_append_left _ member))
    rw [List.mem_range'_1] at inRange
    omega

theorem gestures_le_presses_chatter :
    let samples := [⟨true,5⟩,⟨true,20⟩,⟨false,25⟩,⟨false,40⟩,⟨true,45⟩,⟨false,47⟩,⟨true,48⟩,⟨true,60⟩]
    Ordered 0 samples ∧
      gestures ((GestureDetector.new.initialized false 0).run ⟨10,400,1000⟩ samples).2 ≤
        ((GestureDetector.new.initialized false 0).run ⟨10,400,1000⟩ samples).2.count .offToOn + 0 := by
  intro samples
  have ordered : Ordered 0 samples := by simp [samples,Ordered]
  exact ⟨ordered,(gestures_le_presses ⟨10,400,1000⟩ .new false 0 samples ordered).1⟩

/-- At rest every completed press has been reported, exactly as long as no second press
of a double click was held for the long-press threshold. -/
theorem presses_reported_iff (timing : GestureTiming)
    (threshold : 0 < timing.longPressThresholdMs) (detector : GestureDetector) (startMs : Nat)
    (samples : List Sample) (ordered : Ordered startMs samples)
    (resting : ((detector.initialized false startMs).run timing samples).1.Resting) :
    let events := ((detector.initialized false startMs).run timing samples).2
    (gestures events = events.count .onToOff ∧
      ((Presses.start false).feed events).credits.Perm (List.range' 1 (events.count .onToOff))) ↔
    Kept timing (detector.initialized false startMs) samples := by
  intro events
  obtain ⟨lost,accounted,kept⟩ := run_accounted timing samples _ _ _ startMs
    (accounted_start detector false startMs) (Nat.le_refl _) ordered
  change Accounted _ ((Presses.start false).feed events) _ at accounted
  rw [← kept threshold]
  obtain ⟨released,noClick,-⟩ := resting
  obtain ⟨-,ended,length⟩ := (Presses.start false).feed_counts events
  have perm := accounted.perm
  have closed : waiting ((detector.initialized false startMs).run timing samples).1
      ((Presses.start false).feed events) = [] := by
    simp [waiting,noClick,released]
  have completed : settled ((detector.initialized false startMs).run timing samples).1
      ((Presses.start false).feed events) = events.count .onToOff := by
    simp only [settled,released,ended,Bool.false_eq_true,false_and,if_false,Nat.add_zero]
    exact Nat.zero_add _
  rw [closed,completed,List.nil_append,List.append_nil] at perm
  have none : (Presses.start false).credits.length = 0 := rfl
  constructor
  · rintro ⟨same,-⟩
    have total := perm.length_eq
    simp only [List.length_append,List.length_range'] at total
    apply List.eq_nil_of_length_eq_zero
    omega
  · rintro rfl
    rw [List.append_nil] at perm
    refine ⟨?_,perm⟩
    have total := perm.length_eq
    rw [List.length_range'] at total
    omega

/-- A short press, then within the window a press held past the threshold. -/
def shortThenLong : List Sample :=
  [⟨true,10⟩,⟨true,40⟩,⟨false,50⟩,⟨false,80⟩,⟨true,100⟩,⟨true,130⟩,⟨true,1200⟩,⟨false,1210⟩,⟨false,1240⟩]

theorem presses_reported_iff_double :
    let samples := [⟨true,10⟩,⟨true,40⟩,⟨false,50⟩,⟨false,80⟩,⟨true,100⟩,⟨true,130⟩,⟨false,140⟩,⟨false,170⟩]
    Ordered 0 samples ∧
      gestures ((GestureDetector.new.initialized false 0).run ⟨30,400,1000⟩ samples).2 =
        ((GestureDetector.new.initialized false 0).run ⟨30,400,1000⟩ samples).2.count .onToOff := by
  intro samples
  have ordered : Ordered 0 samples := by simp [samples,Ordered]
  exact ⟨ordered,((presses_reported_iff ⟨30,400,1000⟩ (by decide) .new 0 samples ordered
    (by unfold GestureDetector.Resting; decide)).mpr (by
      simp only [samples,Kept]; decide)).1⟩

/-- The first of two presses is reported by nothing. -/
theorem short_then_long_loses_press :
    Ordered 0 shortThenLong ∧
    ((GestureDetector.new.initialized false 0).run ⟨30,400,1000⟩ shortThenLong).1.Resting ∧
    gestures ((GestureDetector.new.initialized false 0).run ⟨30,400,1000⟩ shortThenLong).2 = 1 ∧
    ((GestureDetector.new.initialized false 0).run ⟨30,400,1000⟩ shortThenLong).2.count .onToOff = 2 := by
  refine ⟨by simp [shortThenLong,Ordered],by unfold GestureDetector.Resting; decide,by decide,by decide⟩

end UchiPulse.Node
