import Mathlib.Data.List.Induction
import UchiPulse.Hub.State

/-! The communication state after any messages and ticks. What a device shows follows from its
last message and from the ticks: each tick judges it by the time of that message. -/
namespace UchiPulse.Hub
open Common Db Sql

/-- What changes the communication state. -/
inductive Call where
  | observeMessage (message : UdpMessage) (now : Nat)
  | markOffline (now : Nat)

def Call.now : Call → Nat
  | .observeMessage _ now => now
  | .markOffline now => now

/-- A message that is a sign of life of a device. -/
def SignOfLife (deviceId : String) (message : UdpMessage) : Prop :=
  (deviceIdOf message).val = deviceId ∧ isBlank deviceId = false ∧ message.messageType ≠ .ack

instance (deviceId : String) (message : UdpMessage) : Decidable (SignOfLife deviceId message) := by
  unfold SignOfLife; infer_instance

/-- When a call is a sign of life. -/
def Call.seen (deviceId : String) : Call → Option Nat
  | .observeMessage message now => if SignOfLife deviceId message then some now else none
  | .markOffline _ => none

/-- The calls are made in the order of their times, from the start on. -/
def Timed (start : Nat) (calls : List Call) : Prop := (start :: calls.map Call.now).Pairwise (· ≤ ·)

instance (start : Nat) (calls : List Call) : Decidable (Timed start calls) := by unfold Timed; infer_instance

theorem Timed.init {start : Nat} {calls : List Call} {call : Call} (timed : Timed start (calls ++ [call])) :
    Timed start calls :=
  List.Pairwise.sublist (by simp) timed

theorem Timed.last {start : Nat} {calls : List Call} {call : Call} (timed : Timed start (calls ++ [call])) :
    start ≤ call.now ∧ ∀ earlier ∈ calls, earlier.now ≤ call.now := by
  have split : Timed start (calls ++ [call]) = ((start :: calls.map Call.now) ++ [call.now]).Pairwise (· ≤ ·) := by
    simp [Timed]
  rw [split,List.pairwise_append] at timed
  have before := timed.2.2
  exact ⟨before start List.mem_cons_self call.now List.mem_cons_self,fun earlier listed =>
    before earlier.now (List.mem_cons_of_mem _ (List.mem_map_of_mem listed)) call.now List.mem_cons_self⟩

namespace CommunicationStateManager

def call (self : CommunicationStateManager) : Call → CommunicationStateManager
  | .observeMessage message now => (self.observeMessage message now).2
  | .markOffline now => self.markOffline now

def calls (self : CommunicationStateManager) (calls : List Call) : CommunicationStateManager := calls.foldl call self

theorem calls_concat (self : CommunicationStateManager) (calls : List Call) (call : Call) :
    self.calls (calls ++ [call]) = (self.calls calls).call call :=
  List.foldl_concat ..

/-- A message is noted for the device it is a sign of life of, and for no other. -/
theorem observeMessage_device (self : CommunicationStateManager) (message : UdpMessage) (now : Nat) (deviceId : String) :
    (self.observeMessage message now).2.device deviceId = if SignOfLife deviceId message then
      (self.device deviceId).map fun state => { state with status := .online,lastSeenAt := some now }
    else self.device deviceId := by
  simp only [observeMessage,device]
  by_cases blank : isBlank (deviceIdOf message).val = true
  · rw [if_pos blank,if_neg]
    rintro ⟨rfl,named,-⟩
    exact Bool.false_ne_true (named.symm.trans blank)
  · rw [if_neg blank]
    by_cases ack : message.messageType = .ack
    · rw [if_pos ack,if_neg fun accepted => accepted.2.2 ack]
    · rw [if_neg ack]
      by_cases speaker : (deviceIdOf message).val = deviceId
      · subst speaker
        rw [if_pos ⟨rfl,Bool.eq_false_iff.mpr blank,ack⟩]
        cases found : self.devices (deviceIdOf message).val with
        | none => exact found
        | some state => exact if_pos rfl
      · rw [if_neg fun accepted => speaker accepted.1]
        cases self.devices (deviceIdOf message).val with
        | none => rfl
        | some state => exact if_neg (Ne.symm speaker)

/-- A message that is no sign of life of a managed device leaves everything as it was. -/
theorem observeMessage_ignored {self : CommunicationStateManager} {message : UdpMessage} (now : Nat)
    (ignored : message.messageType = .ack ∨ isBlank (deviceIdOf message).val = true ∨
      self.device (deviceIdOf message).val = none) : (self.observeMessage message now).2 = self := by
  unfold observeMessage
  by_cases blank : isBlank (deviceIdOf message).val = true
  · rw [if_pos blank]
  · rw [if_neg blank]
    by_cases ack : message.messageType = .ack
    · rw [if_pos ack]
    · rw [if_neg ack]
      have unknown : self.devices (deviceIdOf message).val = none := (ignored.resolve_left ack).resolve_left blank
      simp only [unknown]

theorem observeMessage_timeout (self : CommunicationStateManager) (message : UdpMessage) (now : Nat) :
    (self.observeMessage message now).2.offlineTimeout = self.offlineTimeout := by
  simp only [observeMessage]
  split_ifs
  · rfl
  · rfl
  · cases self.devices (deviceIdOf message).val <;> rfl

/-- No call changes the timeout or the set of managed devices. -/
theorem call_managed (self : CommunicationStateManager) (call : Call) :
    (self.call call).offlineTimeout = self.offlineTimeout ∧
      ∀ deviceId, ((self.call call).device deviceId).isSome = (self.device deviceId).isSome := by
  cases call with
  | observeMessage message now =>
    exact ⟨self.observeMessage_timeout message now,self.observeMessage_managed message now⟩
  | markOffline now => exact ⟨rfl,fun deviceId => Option.isSome_map⟩

theorem calls_managed (self : CommunicationStateManager) (calls : List Call) :
    (self.calls calls).offlineTimeout = self.offlineTimeout ∧
      ∀ deviceId, ((self.calls calls).device deviceId).isSome = (self.device deviceId).isSome := by
  induction calls using List.reverseRecOn with
  | nil => exact ⟨rfl,fun _ => rfl⟩
  | append_singleton calls call ih =>
    rw [calls_concat]
    obtain ⟨timeout,managed⟩ := (self.calls calls).call_managed call
    exact ⟨timeout.trans ih.1,fun deviceId => (managed deviceId).trans (ih.2 deviceId)⟩

/-- As a database fills it. -/
theorem fromDatabase_initial {start timeout : Nat} {env : Env} {connection last : Connection}
    {self : CommunicationStateManager} (built : fromDatabase start timeout env connection = (.ok self,last)) :
    self.offlineTimeout = timeout ∧ ∀ deviceId state, self.device deviceId = some state →
      state = { deviceId,status := .initialWait,initialWaitStartedAt := start,lastSeenAt := none } := by
  obtain ⟨devices,connection',-,filled⟩ := Program.bind_eq_ok.mp built
  cases filled
  refine ⟨rfl,fun deviceId state found => ?_⟩
  simp only [device] at found
  split_ifs at found
  exact (Option.some.inj found).symm

end CommunicationStateManager

/-! ### What a device shows -/

/-- When a device was seen last. -/
def lastSeen (deviceId : String) (calls : List Call) : Option Nat :=
  (calls.filterMap (Call.seen deviceId)).getLast?

/-- No tick came after the first deadline. -/
def InTime (start timeout : Nat) (calls : List Call) : Prop :=
  ∀ now, Call.markOffline now ∈ calls → now - start < timeout

/-- The state of a device after calls. An offline device missed a deadline that holds still. -/
structure Shows (start timeout : Nat) (calls : List Call) (deviceId : String) (state : DeviceState) : Prop where
  began : state.initialWaitStartedAt = start
  last : state.lastSeenAt = lastSeen deviceId calls
  waits : state.status = .initialWait ↔ lastSeen deviceId calls = none ∧ InTime start timeout calls
  missed : state.status = .offline → ∃ now, Call.markOffline now ∈ calls ∧
    timeout ≤ now - (lastSeen deviceId calls).getD start

section
variable {start timeout : Nat} {deviceId : String} {calls : List Call} {state : DeviceState}

theorem lastSeen_concat (call : Call) :
    lastSeen deviceId (calls ++ [call]) = (call.seen deviceId).or (lastSeen deviceId calls) := by
  simp only [lastSeen,List.filterMap_append]
  cases seen : call.seen deviceId <;> simp [seen]

theorem shows_accepted {message : UdpMessage} (now : Nat) (accepted : SignOfLife deviceId message)
    (shows : Shows start timeout calls deviceId state) :
    Shows start timeout (calls ++ [.observeMessage message now]) deviceId
      { state with status := .online,lastSeenAt := some now } := by
  have seen : lastSeen deviceId (calls ++ [.observeMessage message now]) = some now := by
    rw [lastSeen_concat,Call.seen,if_pos accepted,Option.some_or]
  refine ⟨shows.began,seen.symm,?_,fun offline => by cases offline⟩
  rw [seen]
  exact ⟨fun waits => (by cases waits),fun none => by cases none.1⟩

theorem shows_other {message : UdpMessage} (now : Nat) (other : ¬ SignOfLife deviceId message)
    (shows : Shows start timeout calls deviceId state) :
    Shows start timeout (calls ++ [.observeMessage message now]) deviceId state := by
  have seen : lastSeen deviceId (calls ++ [.observeMessage message now]) = lastSeen deviceId calls := by
    rw [lastSeen_concat,Call.seen,if_neg other,Option.none_or]
  have ticks (at' : Nat) : Call.markOffline at' ∈ calls ++ [.observeMessage message now] ↔ .markOffline at' ∈ calls := by
    simp
  refine ⟨shows.began,by rw [seen]; exact shows.last,?_,fun offline => ?_⟩
  · rw [seen,shows.waits]
    simp only [InTime,ticks]
  · obtain ⟨at',tick,late⟩ := shows.missed offline
    exact ⟨at',(ticks at').mpr tick,by rw [seen]; exact late⟩

/-- A tick shows a device offline exactly when its deadline is over. -/
theorem tick_offline {now : Nat} (timed : Timed start (calls ++ [.markOffline now]))
    (shows : Shows start timeout calls deviceId state) (kept : ¬ timeout ≤ now - state.lastSeenAt.getD start) :
    state.status ≠ .offline := by
  intro offline
  obtain ⟨earlier,tick,late⟩ := shows.missed offline
  have order := timed.last.2 _ tick
  simp only [Call.now] at order
  rw [shows.last] at kept
  omega

theorem shows_tick {now : Nat} (timed : Timed start (calls ++ [.markOffline now]))
    (shows : Shows start timeout calls deviceId state) :
    Shows start timeout (calls ++ [.markOffline now]) deviceId
      (if now - state.lastSeenAt.getD state.initialWaitStartedAt ≥ timeout then { state with status := .offline }
        else state) := by
  have seen : lastSeen deviceId (calls ++ [.markOffline now]) = lastSeen deviceId calls := by
    rw [lastSeen_concat,Call.seen,Option.none_or]
  have inTime : InTime start timeout (calls ++ [.markOffline now]) ↔ InTime start timeout calls ∧ now - start < timeout := by
    simp only [InTime,List.mem_append,List.mem_singleton,Call.markOffline.injEq]
    constructor
    · exact fun all => ⟨fun at' tick => all at' (.inl tick),all now (.inr rfl)⟩
    · rintro ⟨before,here⟩ at' (tick | rfl)
      · exact before at' tick
      · exact here
  by_cases late : now - state.lastSeenAt.getD state.initialWaitStartedAt ≥ timeout
  · rw [if_pos late]
    rw [shows.began] at late
    refine ⟨shows.began,by rw [seen]; exact shows.last,?_,fun _ => ⟨now,by simp,by rw [seen,← shows.last]; exact late⟩⟩
    rw [seen,inTime]
    refine ⟨fun waits => (by cases waits),?_⟩
    rintro ⟨unseen,-,early⟩
    rw [shows.last,unseen,Option.getD_none] at late
    omega
  · rw [if_neg late]
    rw [shows.began] at late
    refine ⟨shows.began,by rw [seen]; exact shows.last,?_,fun offline => absurd offline (tick_offline timed shows late)⟩
    rw [seen,inTime,shows.waits]
    constructor
    · rintro ⟨unseen,before⟩
      rw [shows.last,unseen,Option.getD_none] at late
      exact ⟨unseen,before,by omega⟩
    · rintro ⟨unseen,before,-⟩
      exact ⟨unseen,before⟩

/-- Every run shows what its calls say. -/
theorem shows_calls {env : Env} {connection last : Connection} {self : CommunicationStateManager}
    (built : CommunicationStateManager.fromDatabase start timeout env connection = (.ok self,last))
    (timed : Timed start calls) (found : (self.calls calls).device deviceId = some state) :
    Shows start timeout calls deviceId state := by
  obtain ⟨limit,initial⟩ := CommunicationStateManager.fromDatabase_initial built
  induction calls using List.reverseRecOn generalizing state with
  | nil =>
    obtain rfl := initial deviceId state found
    refine ⟨rfl,rfl,?_,fun offline => by cases offline⟩
    exact ⟨fun _ => ⟨rfl,fun now tick => by cases tick⟩,fun _ => rfl⟩
  | append_singleton calls call ih =>
    rw [CommunicationStateManager.calls_concat] at found
    cases call with
    | observeMessage message now =>
      simp only [CommunicationStateManager.call,CommunicationStateManager.observeMessage_device] at found
      by_cases accepted : SignOfLife deviceId message
      · rw [if_pos accepted] at found
        obtain ⟨before,known,rfl⟩ := Option.map_eq_some_iff.mp found
        exact shows_accepted now accepted (ih timed.init known)
      · rw [if_neg accepted] at found
        exact shows_other now accepted (ih timed.init found)
    | markOffline now =>
      obtain ⟨before,known,rfl⟩ := Option.map_eq_some_iff.mp found
      rw [(self.calls_managed calls).1,limit]
      exact shows_tick timed (ih timed.init known)

end

/-- The state of every device after any calls. A message of a managed device shows it online; a
tick shows exactly those offline that were silent for the timeout. A device waits until its
first message or the first tick after its deadline. Nothing else changes anything. -/
theorem status_tracks_messages {start timeout : Nat} {env : Env} {connection last : Connection}
    {manager : CommunicationStateManager}
    (built : CommunicationStateManager.fromDatabase start timeout env connection = (.ok manager,last))
    (calls : List Call) (timed : Timed start calls) :
    (∀ deviceId, ((manager.calls calls).device deviceId).isSome = (manager.device deviceId).isSome) ∧
    (∀ deviceId state, (manager.calls calls).device deviceId = some state →
      state.lastSeenAt = lastSeen deviceId calls ∧
      (state.status = .initialWait ↔ lastSeen deviceId calls = none ∧ InTime start timeout calls)) ∧
    (∀ before after deviceId state, calls = before ++ after → (manager.calls calls).device deviceId = some state →
      state.status = .initialWait →
      ∃ earlier, (manager.calls before).device deviceId = some earlier ∧ earlier.status = .initialWait) ∧
    (∀ before message now, calls = before ++ [.observeMessage message now] →
      (∀ deviceId, SignOfLife deviceId message → (manager.device deviceId).isSome →
        ∃ state, (manager.calls calls).device deviceId = some state ∧ state.status = .online ∧
          state.lastSeenAt = some now) ∧
      (∀ deviceId, ¬ SignOfLife deviceId message →
        (manager.calls calls).device deviceId = (manager.calls before).device deviceId) ∧
      (message.messageType = .ack ∨ isBlank (deviceIdOf message).val = true ∨
        manager.device (deviceIdOf message).val = none → manager.calls calls = manager.calls before)) ∧
    ∀ before now, calls = before ++ [.markOffline now] →
      ∀ deviceId state, (manager.calls calls).device deviceId = some state →
        (state.status = .offline ↔ timeout ≤ now - state.lastSeenAt.getD start) := by
  obtain ⟨limit,-⟩ := CommunicationStateManager.fromDatabase_initial built
  have managed := (manager.calls_managed calls).2
  refine ⟨managed,fun deviceId state found => ?_,?_,?_,?_⟩
  · have shows := shows_calls built timed found
    exact ⟨shows.last,shows.waits⟩
  · intro before after deviceId state split found waits
    obtain ⟨unseen,inTime⟩ := (shows_calls built timed found).waits.mp waits
    have known : ((manager.calls before).device deviceId).isSome := by
      rw [(manager.calls_managed before).2,← managed,found]
      rfl
    obtain ⟨earlier,found'⟩ := Option.isSome_iff_exists.mp known
    subst split
    have timed' : Timed start before := timed.sublist (by simp)
    refine ⟨earlier,found',(shows_calls built timed' found').waits.mpr ⟨?_,fun now tick => ?_⟩⟩
    · simp only [lastSeen,List.filterMap_append,List.getLast?_eq_none_iff,List.append_eq_nil_iff] at unseen ⊢
      exact unseen.1
    · exact inTime now (List.mem_append_left _ tick)
  · rintro before message now rfl
    have changed (deviceId : String) := (manager.calls before).observeMessage_device message now deviceId
    rw [manager.calls_concat,CommunicationStateManager.call]
    refine ⟨fun deviceId accepted known => ?_,fun deviceId other => ?_,fun ignored => ?_⟩
    · rw [changed,if_pos accepted]
      rw [← (manager.calls_managed before).2] at known
      obtain ⟨earlier,found⟩ := Option.isSome_iff_exists.mp known
      rw [found]
      exact ⟨_,rfl,rfl,rfl⟩
    · rw [changed,if_neg other]
    · refine CommunicationStateManager.observeMessage_ignored now (ignored.imp_right (Or.imp_right fun unknown => ?_))
      rw [← Option.isNone_iff_eq_none,← Option.not_isSome,(manager.calls_managed before).2,unknown]
      rfl
  · rintro before now rfl deviceId state found
    rw [manager.calls_concat] at found
    obtain ⟨earlier,known,rfl⟩ := Option.map_eq_some_iff.mp found
    have shows := shows_calls built timed.init known
    rw [(manager.calls_managed before).1,limit,shows.began]
    by_cases late : now - earlier.lastSeenAt.getD start ≥ timeout
    · rw [if_pos late]
      exact ⟨fun _ => late,fun _ => rfl⟩
    · rw [if_neg late]
      exact iff_of_false (tick_offline timed shows late) late

/-- One enabled device. -/
def oneDevice : Tables where
  __ := Tables.empty
  devices := [{
    deviceId := "node",name := "kitchen",deviceType := "INPUT",registeredAt := "",updatedAt := "",enabled := true }]

theorem status_tracks_messages_silent :
    let calls : List Call := [.observeMessage (.hello ⟨"node",by decide⟩) 3,.markOffline 7,.markOffline 9]
    ∃ manager last, CommunicationStateManager.fromDatabase 0 5 Db.Env.quiet (.opened oneDevice) = (.ok manager,last) ∧
      ∃ state, (manager.calls calls).device "node" = some state ∧ state.status = .offline := by
  intro calls
  have timed : Timed 0 calls := by decide
  obtain ⟨manager,built⟩ : ∃ manager, (CommunicationStateManager.fromDatabase 0 5 Db.Env.quiet
      (.opened oneDevice)).1 = .ok manager := ⟨_,rfl⟩
  have opened := Program.result_eq built
  obtain ⟨managed,shown,-,-,ticks⟩ := status_tracks_messages opened calls timed
  have known : ((manager.calls calls).device "node").isSome := by
    rw [managed]
    cases built
    decide
  obtain ⟨state,found⟩ := Option.isSome_iff_exists.mp known
  have last := (shown "node" state found).1
  refine ⟨manager,_,opened,state,found,(ticks (calls.take 2) 9 rfl "node" state found).mpr ?_⟩
  rw [last]
  decide

end UchiPulse.Hub
