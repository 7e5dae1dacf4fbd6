import UchiPulse.Hub.Ack
import UchiPulse.Hub.Presence
import UchiPulse.Node.Heartbeat

/-! A node's heartbeats and the hub's timeout. Every datagram arrives at once, and the node
takes a turn at least once a second; the hub checks the timeout whenever it likes. -/
namespace UchiPulse.Delivery
open Common Json Node Hub Db

structure Pair (A : Type) where
  task : HeartbeatTask
  /-- The latest turn of the node's loop. -/
  lastTurn : Nat
  now : Nat
  hub : HubUdpProcessor A

/-- What may happen next. -/
inductive Tick where
  | turn (now : Nat) (request : Bool) (receivedAt : String) (env : Env)
  /-- A datagram that is not of the node's heartbeat task. -/
  | datagram (payload : List UInt8) (now : Nat) (receivedAt : String) (env : Env)
  /-- The hub marks devices as offline. -/
  | check (now : Nat)

def Tick.now : Tick → Nat
  | .turn now _ _ _ => now
  | .datagram _ now _ _ => now
  | .check now => now

section
variable {A E : Type} (skip : Reader Unit) (handler : ActionHandler A E) (protocol : NodeUdpProtocol)
  (second interval : Nat)

/-- The hub receives one datagram after the other. -/
def deliver (now : Nat) (receivedAt : String) (env : Env) (hub : HubUdpProcessor A)
    (datagrams : List (List UInt8)) : HubUdpProcessor A :=
  datagrams.foldl (fun hub datagram => (Hub.receive skip handler datagram now receivedAt env hub).2) hub

def Pair.tick (self : Pair A) : Tick → Pair A
  | .turn now request receivedAt env =>
    let (task,datagrams) := self.task.turn skip protocol interval request now
    { task,lastTurn := now,now,hub := deliver skip handler now receivedAt env self.hub datagrams }
  | .datagram payload now receivedAt env =>
    { self with now,hub := (Hub.receive skip handler payload now receivedAt env self.hub).2 }
  | .check now => { self with now,hub := self.hub.markOffline now }

def Pair.run (self : Pair A) (ticks : List Tick) : Pair A :=
  ticks.foldl (Pair.tick skip handler protocol interval) self

/-- The clock does not go back, the node's next turn is at most a second after its last one,
and the database finds the node's device enabled whenever its heartbeat task is heard. Only
the node speaks for itself, and only to a hub it knows; nothing else stops the hub. -/
def Pair.Allowed (heard : String) (self : Pair A) (tick : Tick) : Prop :=
  self.now ≤ tick.now ∧ tick.now ≤ self.lastTurn + second ∧
    match tick with
    | .turn now request receivedAt env =>
      ∀ front datagram back, (self.task.turn skip protocol interval request now).2 = front ++ datagram :: back →
        HubUdpProcessor.FindsEnabled env (deliver skip handler now receivedAt env self.hub front) heard
    | .datagram payload now receivedAt env =>
      (HubUdpProcessor.SpeaksFor skip heard payload → self.task.hubEndpoint = true) ∧
        ∃ reply, (Hub.receive skip handler payload now receivedAt env self.hub).1 = .continues reply
    | .check _ => True

def Pair.Possible (heard : String) : Pair A → List Tick → Prop
  | _, [] => True
  | self, tick :: ticks =>
    self.Allowed skip handler protocol second interval heard tick ∧
      Pair.Possible heard (self.tick skip handler protocol interval tick) ticks

end

/-- The node's loop is running, and the hub has not heard of it yet. -/
structure Pair.Started {A : Type} (second interval : Nat) (heard : String) (self : Pair A) : Prop where
  turned : self.lastTurn ≤ self.now
  soon : self.now ≤ self.lastTurn + second
  beaten : self.task.lastHeartbeat ≤ self.lastTurn
  due : self.lastTurn < self.task.lastHeartbeat + interval
  unheard : ¬ Heard heard self.hub.state

/-- What holds at every point of a run. -/
structure Pair.Invariant {A : Type} (second interval timeout : Nat) (heard : String) (self : Pair A) : Prop where
  turned : self.lastTurn ≤ self.now
  soon : self.now ≤ self.lastTurn + second
  beaten : self.task.lastHeartbeat ≤ self.lastTurn
  due : self.lastTurn < self.task.lastHeartbeat + interval
  known : Heard heard self.hub.state → self.task.hubEndpoint = true ∧ isBlank heard = false
  alive : Alive heard self.task.lastHeartbeat self.now timeout self.hub.state

section
variable {A E : Type} {skip : Reader Unit} {handler : ActionHandler A E} {protocol : NodeUdpProtocol}
  {second interval timeout : Nat} {heard : DeviceId}

/-! ### The datagrams of a turn -/

/-- The hub reads the node's identifier as the node writes it. -/
theorem sign_datagram (skip : Reader Unit) (spelled : escape protocol.deviceId.val = heard.val)
    {message read : UdpMessage} (kind : (message = protocol.hello ∧ read = .hello heard) ∨
      (message = protocol.heartbeat ∧ read = .heartbeat heard)) :
    ∃ datagram, NodeUdpProtocol.encodeMessage skip message heartbeatBufferSize = .ok datagram ∧
      decode (UdpMessage.codec skip) datagram = .ok read := by
  have fits := heard.fits
  have image : (Codec.text deviceIdCapacity).image protocol.deviceId = some heard :=
    Text.ofString?_eq_some.mpr spelled.symm
  have size : ((UdpMessage.codec skip).write message).length ≤ heartbeatBufferSize := by
    have limit : deviceIdCapacity = 64 := rfl
    rw [UdpMessage.write_length]
    rcases kind with ⟨rfl,-⟩ | ⟨rfl,-⟩ <;>
      simp only [NodeUdpProtocol.hello,NodeUdpProtocol.heartbeat,spelled,heartbeatBufferSize] <;>
      omega
  refine ⟨(UdpMessage.codec skip).write message,?_,(decode_write _ _ _).mpr ?_⟩
  · rw [NodeUdpProtocol.encodeMessage,encode_eq_ok.mpr ⟨rfl,size⟩]
  · rcases kind with ⟨rfl,rfl⟩ | ⟨rfl,rfl⟩
    · change ((Codec.text deviceIdCapacity).image protocol.deviceId).map UdpMessage.hello = _
      rw [image]
      rfl
    · change ((Codec.text deviceIdCapacity).image protocol.deviceId).map UdpMessage.heartbeat = _
      rw [image]
      rfl

/-- A turn that is not due only answers a request; one that is due ends with a heartbeat, if
the hub is known. -/
theorem turn_cases (skip : Reader Unit) (spelled : escape protocol.deviceId.val = heard.val) (interval : Nat)
    (task : HeartbeatTask) (request : Bool) (now : Nat) :
    let (next,datagrams) := task.turn skip protocol interval request now
    next.hubEndpoint = (task.hubEndpoint || request) ∧ (datagrams ≠ [] → next.hubEndpoint = true) ∧
      ((now < task.lastHeartbeat + interval ∧ next.lastHeartbeat = task.lastHeartbeat) ∨
        (next.lastHeartbeat = now ∧ (next.hubEndpoint = true → ∃ front datagram, datagrams = front ++ [datagram] ∧
          decode (UdpMessage.codec skip) datagram = .ok (.heartbeat heard)))) := by
  obtain ⟨datagram,encoded,decoded⟩ := sign_datagram skip spelled (.inr ⟨rfl,rfl⟩)
  by_cases due : now - task.lastHeartbeat ≥ interval
  · simp only [HeartbeatTask.turn,if_pos due,encoded]
    refine ⟨trivial,?_,.inr ⟨trivial,fun known => ⟨_,datagram,by rw [if_pos known]; rfl,decoded⟩⟩⟩
    cases request <;> cases task.hubEndpoint <;> simp
  · simp only [HeartbeatTask.turn,if_neg due]
    refine ⟨trivial,?_,.inl ⟨by omega,trivial⟩⟩
    cases request <;> cases task.hubEndpoint <;> simp

theorem alive_deliver (skip : Reader Unit) (handler : ActionHandler A E) {start now : Nat} (receivedAt : String)
    (env : Env) {hub : HubUdpProcessor A} {deviceId : String} (past : start ≤ now) (datagrams : List (List UInt8))
    (alive : Alive deviceId start now timeout hub.state) :
    Alive deviceId start now timeout (deliver skip handler now receivedAt env hub datagrams).state := by
  induction datagrams generalizing hub with
  | nil => exact alive
  | cons datagram datagrams ih => exact ih (alive_receive past alive)

theorem heard_deliver {now : Nat} {receivedAt : String} {env : Env} {hub : HubUdpProcessor A}
    {deviceId : String} (datagrams : List (List UInt8))
    (seen : Heard deviceId (deliver skip handler now receivedAt env hub datagrams).state) :
    Heard deviceId hub.state ∨ datagrams ≠ [] ∧ isBlank deviceId = false := by
  induction datagrams generalizing hub with
  | nil => exact .inl seen
  | cons datagram datagrams ih =>
    rcases ih seen with later | ⟨-,named⟩
    · rcases heard_receive later with before | ⟨-,named⟩
      · exact .inl before
      · exact .inr ⟨by simp,named⟩
    · exact .inr ⟨by simp,named⟩

/-! ### Steps and runs -/

theorem invariant_turn {self : Pair A} (positive : 0 < interval) (spelled : escape protocol.deviceId.val = heard.val)
    (invariant : self.Invariant second interval timeout heard.val) {now : Nat} {request : Bool}
    {receivedAt : String} {env : Env}
    (allowed : self.Allowed skip handler protocol second interval heard.val (.turn now request receivedAt env)) :
    (self.tick skip handler protocol interval (.turn now request receivedAt env)).Invariant second interval timeout
      heard.val := by
  obtain ⟨order,soon,finds⟩ := allowed
  simp only [Tick.now] at order soon finds
  have cases := turn_cases skip spelled interval self.task request now
  obtain ⟨task,lastTurn,clock,hub⟩ := self
  obtain ⟨turned,-,beaten,due,known,alive⟩ := invariant
  simp only at order soon finds cases turned beaten due known alive
  simp only [Pair.tick]
  rcases outcome : task.turn skip protocol interval request now with ⟨next,datagrams⟩
  rw [outcome] at cases finds
  obtain ⟨endpoint,sends,beats⟩ := cases
  simp only
  have known' : Heard heard.val (deliver skip handler now receivedAt env hub datagrams).state →
      next.hubEndpoint = true ∧ isBlank heard.val = false := by
    intro seen
    rcases heard_deliver datagrams seen with before | ⟨sent,named⟩
    · obtain ⟨found,named⟩ := known before
      exact ⟨by rw [endpoint,found]; rfl,named⟩
    · exact ⟨sends sent,named⟩
  have past : task.lastHeartbeat ≤ now := by omega
  rcases beats with ⟨early,same⟩ | ⟨same,beat⟩
  · refine ⟨Nat.le_refl _,Nat.le_add_right _ _,by rwa [same],by rwa [same],known',?_⟩
    rw [same]
    exact alive_deliver skip handler receivedAt env past datagrams (alive.later order)
  · refine ⟨Nat.le_refl _,Nat.le_add_right _ _,by rw [same],by rw [same]; exact Nat.lt_add_of_pos_right positive,known',?_⟩
    rw [same]
    have limit := (alive_deliver skip handler receivedAt env past datagrams (alive.later order)).1
    by_cases seen : Heard heard.val (deliver skip handler now receivedAt env hub datagrams).state
    · obtain ⟨found,named⟩ := known' seen
      obtain ⟨front,datagram,rfl,decoded⟩ := beat found
      have answered := finds front datagram [] rfl
      have before := alive_deliver skip handler receivedAt env past front (alive.later order)
      simp only [deliver,List.foldl_append]
      exact alive_sign decoded (.inr rfl) rfl named answered before.1
    · exact .of_unheard limit seen

theorem invariant_tick {self : Pair A} (positive : 0 < interval) (spelled : escape protocol.deviceId.val = heard.val)
    (invariant : self.Invariant second interval timeout heard.val) {tick : Tick}
    (allowed : self.Allowed skip handler protocol second interval heard.val tick) :
    (self.tick skip handler protocol interval tick).Invariant second interval timeout heard.val := by
  cases tick with
  | turn now request receivedAt env => exact invariant_turn positive spelled invariant allowed
  | datagram payload now receivedAt env =>
    obtain ⟨order,soon,speaks,-⟩ := allowed
    obtain ⟨turned,-,beaten,due,known,alive⟩ := invariant
    simp only [Tick.now] at order soon
    refine ⟨Nat.le_trans turned order,soon,beaten,due,fun seen => ?_,?_⟩
    · rcases heard_receive seen with before | ⟨spoken,named⟩
      · exact known before
      · exact ⟨speaks spoken,named⟩
    · have past : self.task.lastHeartbeat ≤ now := by omega
      exact alive_receive past (alive.later order)
  | check now =>
    obtain ⟨order,soon,-⟩ := allowed
    obtain ⟨turned,-,beaten,due,known,alive⟩ := invariant
    simp only [Tick.now] at order soon
    exact ⟨Nat.le_trans turned order,soon,beaten,due,fun seen => known (heard_markOffline seen),
      alive_markOffline (alive.later order)⟩

theorem possibleRun_append {heard : String} {self : Pair A} (first second' : List Tick) :
    self.Possible skip handler protocol second interval heard (first ++ second') ↔
      self.Possible skip handler protocol second interval heard first ∧
        (self.run skip handler protocol interval first).Possible skip handler protocol second interval heard second' := by
  induction first generalizing self with
  | nil => exact ⟨fun possible => ⟨trivial,possible⟩,fun possible => possible.2⟩
  | cons tick ticks ih =>
    simp only [List.cons_append,Pair.Possible,ih,and_assoc]
    rfl

theorem invariant_run {self : Pair A} (positive : 0 < interval) (spelled : escape protocol.deviceId.val = heard.val)
    (invariant : self.Invariant second interval timeout heard.val) {ticks : List Tick}
    (possible : self.Possible skip handler protocol second interval heard.val ticks) :
    (self.run skip handler protocol interval ticks).Invariant second interval timeout heard.val := by
  induction ticks generalizing self with
  | nil => exact invariant
  | cons tick ticks ih =>
    obtain ⟨allowed,rest⟩ := possible
    exact ih (invariant_tick positive spelled invariant allowed) rest

end

/-- At every point of a run, a node that was heard was last seen less than an interval and a
second ago. It looks online, or the hub's timeout is over, which cannot be when it is at
least an interval and a second. -/
theorem heard_node_stays_online {A E : Type} {skip : Reader Unit} {handler : ActionHandler A E}
    {protocol : NodeUdpProtocol} {second interval : Nat} {heard : DeviceId} {start : Pair A} {ticks : List Tick}
    (positive : 0 < interval) (spelled : escape protocol.deviceId.val = heard.val)
    (started : start.Started second interval heard.val)
    (possible : start.Possible skip handler protocol second interval heard.val ticks) :
    let reached := start.run skip handler protocol interval ticks
    let timeout := start.hub.state.offlineTimeout
    ∀ state seen, reached.hub.state.device heard.val = some state → state.lastSeenAt = some seen →
      reached.now < seen + (interval + second) ∧
      (state.status = .online ∨ state.status = .offline ∧ seen + timeout ≤ reached.now) ∧
      (interval + second ≤ timeout → state.status = .online) := by
  intro reached timeout state seen found last
  obtain ⟨turned,soon,beaten,due,unheard⟩ := started
  obtain ⟨-,soonAfter,-,dueAfter,-,alive⟩ := invariant_run positive spelled
    ⟨turned,soon,beaten,due,fun seen => absurd seen unheard,.of_unheard rfl unheard⟩ possible
  obtain ⟨first,past,status⟩ := alive.2 state seen found last
  have recent : reached.now < seen + (interval + second) := by
    change (start.run skip handler protocol interval ticks).now < _
    omega
  refine ⟨recent,status,fun long => ?_⟩
  rcases status with online | ⟨-,overdue⟩
  · exact online
  · omega

/-! ### The defaults -/

def defaultHeartbeatIntervalSec : Nat := 180
def defaultOfflineTimeoutSec : Nat := 180

/-- Turns of the node at which nothing is due and nobody asks. -/
def idleTurns (gap : Nat) : Nat → Nat → List Tick
  | _, 0 => []
  | now, count + 1 => .turn (now + gap) false "0" Env.quiet :: idleTurns gap (now + gap) count

theorem idle_turns {A E : Type} (skip : Reader Unit) (handler : ActionHandler A E) (protocol : NodeUdpProtocol)
    {second interval gap : Nat} (soon : gap ≤ second) (heard : String) (count : Nat) (now : Nat)
    (task : HeartbeatTask) (hub : HubUdpProcessor A) (beaten : task.lastHeartbeat ≤ now)
    (early : now + gap * count < task.lastHeartbeat + interval) :
    let self : Pair A := { task,lastTurn := now,now,hub }
    self.Possible skip handler protocol second interval heard (idleTurns gap now count) ∧
      self.run skip handler protocol interval (idleTurns gap now count) =
        { task,lastTurn := now + gap * count,now := now + gap * count,hub } := by
  induction count generalizing now with
  | zero => exact ⟨trivial,rfl⟩
  | succ count ih =>
    have next : now + gap + gap * count = now + gap * (count + 1) := by
      rw [Nat.mul_succ]
      omega
    have waits : ¬ now + gap - task.lastHeartbeat ≥ interval := by omega
    have turned : task.turn skip protocol interval false (now + gap) = (task,[]) := by
      simp only [HeartbeatTask.turn,if_neg waits,Bool.or_false,Bool.false_eq_true,if_false]
    have ticked : Pair.tick skip handler protocol interval { task,lastTurn := now,now,hub }
        (.turn (now + gap) false "0" Env.quiet) = { task,lastTurn := now + gap,now := now + gap,hub } := by
      simp only [Pair.tick,turned]
      rfl
    obtain ⟨possible,ran⟩ := ih (now + gap) (by omega) (by omega)
    refine ⟨⟨⟨Nat.le_add_right _ _,Nat.add_le_add_left soon _,?_⟩,?_⟩,?_⟩
    · intro front datagram back sent
      simp only [turned] at sent
      simp at sent
    · rw [ticked]
      exact possible
    · simp only [idleTurns,Pair.run,List.foldl_cons,ticked]
      rw [← next]
      exact ran

/-- The node's first turn answers the hub; the heartbeat is due after 180 s. -/
def defaultTicks : List Tick :=
  .turn 500 true "0" Env.quiet :: idleTurns 900 500 199 ++ [.check 180550]

def smallProtocol : NodeUdpProtocol where
  deviceId := smallDevice
  eventIds := { bootId := 1,nextSequence := 1 }

/-- Times are in milliseconds. -/
def smallPair (offlineTimeoutSec : Nat) : Pair ActionEngine where
  task := { hubEndpoint := false,lastHeartbeat := 0 }
  lastTurn := 0
  now := 0
  hub := { smallHub with state := { smallHub.state with offlineTimeout := 1000 * offlineTimeoutSec } }

theorem small_started (offlineTimeoutSec : Nat) :
    (smallPair offlineTimeoutSec).Started 1000 (1000 * defaultHeartbeatIntervalSec) "n" := by
  refine ⟨Nat.le_refl 0,Nat.zero_le _,Nat.le_refl 0,by simp [smallPair,defaultHeartbeatIntervalSec],?_⟩
  rintro ⟨state,seen,found,last⟩
  cases found
  cases last

theorem small_hello : NodeUdpProtocol.encodeMessage (fun _ => none) smallProtocol.hello heartbeatBufferSize =
    .ok ((UdpMessage.codec fun _ => none).write smallProtocol.hello) := by
  decide +kernel

theorem small_turn : HeartbeatTask.turn (fun _ => none) smallProtocol (1000 * defaultHeartbeatIntervalSec)
    { hubEndpoint := false,lastHeartbeat := 0 } true 500 =
      ({ hubEndpoint := true,lastHeartbeat := 0 },[(UdpMessage.codec fun _ => none).write smallProtocol.hello]) := by
  have early : ¬ 500 - 0 ≥ 1000 * defaultHeartbeatIntervalSec := by decide
  simp only [HeartbeatTask.turn,if_neg early,small_hello]
  rfl

/-- The hub after the node's HELLO. -/
def helloHub (offlineTimeoutSec : Nat) : HubUdpProcessor ActionEngine :=
  (Hub.receive (fun _ => none) ActionEngine.handler ((UdpMessage.codec fun _ => none).write smallProtocol.hello) 500
    "0" Env.quiet (smallPair offlineTimeoutSec).hub).2

theorem small_allowed (offlineTimeoutSec : Nat) :
    (smallPair offlineTimeoutSec).Allowed (fun _ => none) ActionEngine.handler smallProtocol 1000
      (1000 * defaultHeartbeatIntervalSec) "n" (.turn 500 true "0" Env.quiet) := by
  refine ⟨Nat.zero_le _,?_,?_⟩
  · simp [smallPair,Tick.now]
  · intro front datagram back sent
    simp only [smallPair,small_turn] at sent
    obtain ⟨rfl,-⟩ := List.cons_eq_append_iff.mp sent |>.resolve_right (by simp)
    exact ⟨_,_,rfl,rfl⟩

/-- A run with the default interval ends with the hub's check, just before the heartbeat. -/
theorem small_run (offlineTimeoutSec : Nat) :
    let self := smallPair offlineTimeoutSec
    let interval := 1000 * defaultHeartbeatIntervalSec
    self.Possible (fun _ => none) ActionEngine.handler smallProtocol 1000 interval "n" defaultTicks ∧
      self.run (fun _ => none) ActionEngine.handler smallProtocol interval defaultTicks =
        { task := { hubEndpoint := true,lastHeartbeat := 0 },lastTurn := 179600,now := 180550,
          hub := (helloHub offlineTimeoutSec).markOffline 180550 } := by
  intro self interval
  have soon : 900 ≤ 1000 := by decide
  have early : 500 + 900 * 199 < 0 + interval := by decide
  have answered : self.tick (fun _ => none) ActionEngine.handler smallProtocol interval
      (.turn 500 true "0" Env.quiet) =
        { task := { hubEndpoint := true,lastHeartbeat := 0 },lastTurn := 500,now := 500,
          hub := helloHub offlineTimeoutSec } := by
    simp only [Pair.tick,self,smallPair,interval,small_turn]
    rfl
  obtain ⟨waited,ran⟩ := idle_turns (fun _ => none) ActionEngine.handler smallProtocol soon "n" 199 500
    { hubEndpoint := true,lastHeartbeat := 0 } (helloHub offlineTimeoutSec) (Nat.zero_le _) early
  refine ⟨⟨small_allowed offlineTimeoutSec,?_⟩,?_⟩
  · rw [answered]
    refine possibleRun_append _ _ |>.mpr ⟨waited,⟨?_,?_,trivial⟩,trivial⟩
    · rw [ran]
      simp [Tick.now]
    · rw [ran]
      simp [Tick.now]
  · simp only [defaultTicks,Pair.run,List.cons_append,List.foldl_cons,List.foldl_append,answered]
    rw [Pair.run] at ran
    rw [ran]
    rfl

/-- With both defaults at 180 s, a node that is never late looks offline before its heartbeat. -/
theorem heard_node_stays_online_defaults :
    let start := smallPair defaultOfflineTimeoutSec
    let interval := 1000 * defaultHeartbeatIntervalSec
    start.Started 1000 interval "n" ∧
      start.Possible (fun _ => none) ActionEngine.handler smallProtocol 1000 interval "n" defaultTicks ∧
      (start.run (fun _ => none) ActionEngine.handler smallProtocol interval defaultTicks).hub.state.device "n" =
        some { deviceId := "n",status := .offline,initialWaitStartedAt := 0,lastSeenAt := some 500 } := by
  obtain ⟨possible,ran⟩ := small_run defaultOfflineTimeoutSec
  refine ⟨small_started _,possible,?_⟩
  rw [ran]
  decide +kernel

theorem heard_node_stays_online_longer :
    let start := smallPair (defaultOfflineTimeoutSec + 1)
    let interval := 1000 * defaultHeartbeatIntervalSec
    ∃ state, (start.run (fun _ => none) ActionEngine.handler smallProtocol interval defaultTicks).hub.state.device "n" =
      some state ∧ state.lastSeenAt = some 500 ∧ state.status = .online := by
  intro start interval
  obtain ⟨possible,ran⟩ := small_run (defaultOfflineTimeoutSec + 1)
  have seen : (start.run (fun _ => none) ActionEngine.handler smallProtocol interval defaultTicks).hub.state.device
      "n" = some { deviceId := "n",status := .online,initialWaitStartedAt := 0,lastSeenAt := some 500 } := by
    rw [ran]
    decide +kernel
  have spelled : escape smallProtocol.deviceId.val = smallDevice.val := by decide
  have stays := heard_node_stays_online (by decide) spelled (small_started _) possible _ _ seen rfl
  exact ⟨_,seen,rfl,stays.2.2 (by decide)⟩

end UchiPulse.Delivery
