import UchiPulse.Delivery.Safety
import UchiPulse.Lib.Precedence

/-! The delivery keeps the order. The node goes on with the next action only when it is done
with an event, so an event that was delivered is stored before any later one. -/
namespace UchiPulse.Delivery
open Common Json Node Hub Db

/-- What an event is known by in the history and in the record of calls. -/
abbrev EventKey : Type := String × String

def keyOf (event : PendingEvent) : EventKey := (event.deviceId.val,event.eventId.val)

def storedKeys {A : Type} (hub : HubUdpProcessor (Recorded A)) : List EventKey :=
  (stored hub).map fun row => (row.deviceId,row.eventId)

def calledKeys {A : Type} (hub : HubUdpProcessor (Recorded A)) : List EventKey :=
  (calls hub).map fun call => (call.deviceId,call.eventId)

section
variable {A E : Type} {skip : Reader Unit} {deviceId : DeviceId} {used : List UInt64} {before : List EventRow}
  {handler : ActionHandler A E} {start : A} {self : System A}

/-- In this log no later event is before one that was delivered. -/
def Kept (log : List EventKey) (created delivered : List PendingEvent) : Prop :=
  created.Pairwise fun earlier event => earlier ∈ delivered → NotBehind log (keyOf earlier) (keyOf event)

/-- The event on its way is the latest one, and the logs keep the order. -/
structure InOrder (system : System A) : Prop where
  settled : system.delivered.Sublist system.created
  pending : ∀ sender, system.node = some sender → ∀ event tx, sender.phase.pending = some (event,tx) →
    ∃ earlier, system.created = earlier ++ [event] ∧ system.delivered.Sublist earlier
  stored : Kept (storedKeys system.hub) system.created system.delivered
  called : Kept (calledKeys system.hub) system.created system.delivered

/-- The rows of the node in a history are of boots it has had. -/
def OfBoots (deviceId : DeviceId) (bootIds : List UInt64) (rows : List EventRow) : Prop :=
  ∀ row ∈ rows, row.deviceId = deviceId.val → ∃ bootId ∈ bootIds, ∃ sequence, row.eventId = eventIdText bootId sequence

/-- One key more, or none. -/
def Adds (old : List EventKey) (log next : List EventKey) : Prop :=
  next.Sublist log ∨ ∃ key ∉ old, next = log ++ [key]

/-! ### Logs -/

section
variable {log next old : List EventKey} {created delivered : List PendingEvent} {event : PendingEvent}

theorem Kept.creates (kept : Kept log created delivered) (new : keyOf event ∉ log) :
    Kept log (created ++ [event]) delivered := by
  refine List.pairwise_append.mpr ⟨kept,List.pairwise_singleton _ _,fun earlier _ other last _ => ?_⟩
  rw [List.mem_singleton.mp last]
  exact notBehind_of_new new

/-- Nothing is later than the latest event. -/
theorem Kept.delivers (kept : Kept log (created ++ [event]) delivered) (apart : event ∉ created) :
    Kept log (created ++ [event]) (delivered ++ [event]) := by
  have before {earlier : PendingEvent} (listed : earlier ∈ created) (done : earlier ∈ delivered ++ [event]) :
      earlier ∈ delivered := by
    rcases List.mem_append.mp done with known | last
    · exact known
    · exact absurd (List.mem_singleton.mp last ▸ listed) apart
  obtain ⟨among,-,across⟩ := List.pairwise_append.mp kept
  refine List.pairwise_append.mpr ⟨?_,List.pairwise_singleton _ _,fun earlier listed last same done => ?_⟩
  · exact among.imp_of_mem fun listed _ ordered done => ordered (before listed done)
  · exact across earlier listed last same (before listed done)

theorem Kept.adds (kept : Kept log created delivered) (known : ∀ event ∈ delivered, keyOf event ∈ old)
    (adds : Adds old log next) : Kept next created delivered := by
  refine List.Pairwise.imp (fun ordered done => ?_) kept
  rcases adds with fewer | ⟨key,new,rfl⟩
  · exact (ordered done).sublist fewer
  · exact (ordered done).concat fun same => new (same ▸ known _ done)

end

/-! ### Moves -/

theorem known_stored {rows : List EventRow} {event : PendingEvent} (known : Known rows event.deviceId event.eventId) :
    keyOf event ∈ rows.map fun row => (row.deviceId,row.eventId) := by
  obtain ⟨row,listed,device,same⟩ := known
  exact List.mem_map.mpr ⟨row,listed,Prod.ext device same⟩

theorem called_stored (invariant : Invariant skip deviceId used before self) {key : EventKey}
    (among : key ∈ calledKeys self.hub) : key ∈ storedKeys self.hub := by
  obtain ⟨call,listed,rfl⟩ := List.mem_map.mp among
  obtain ⟨row,stored,device,event⟩ := invariant.records.known call listed
  exact List.mem_map.mpr ⟨row,stored,Prod.ext device event⟩

/-- A new event has a key that no log has. -/
theorem key_new {created : List PendingEvent} {event : PendingEvent} {hub : HubUdpProcessor (Recorded A)}
    {bootIds : List UInt64} {node : Option EventSender}
    (old : OfBoots deviceId used before)
    (records : Records skip deviceId before created hub)
    (numbered : Numbered skip deviceId used bootIds node (created ++ [event])) : keyOf event ∉ storedKeys hub := by
  intro among
  have latest : event ∈ created ++ [event] := List.mem_append_right _ (List.mem_singleton.mpr rfl)
  obtain ⟨row,listed,same⟩ := List.mem_map.mp among
  obtain ⟨device,identifier⟩ := Prod.mk.inj same
  rw [numbered.device event latest] at device
  rcases records.rows row listed device with first | ⟨other,made,known,-⟩
  · obtain ⟨bootId,earlier,sequence,text⟩ := old row first device
    obtain ⟨boot,number,own,-,fresh,-⟩ := numbered.made event latest
    obtain ⟨rfl,-⟩ := eventIdText_inj (text.symm.trans (identifier.trans own))
    exact fresh earlier
  · have distinct := numbered.distinct
    rw [List.map_append,List.nodup_append] at distinct
    exact distinct.2.2 _ (List.mem_map_of_mem made) _ (List.mem_singleton.mpr rfl)
      (Text.ext (known.symm.trans identifier))

variable (skip) in
/-- A pass of the hub's main loop. -/
theorem receive_adds (reading : Reading handler) {hub : HubUdpProcessor (Recorded A)}
    (idle : hub.database.working = none) (payload : List UInt8) (now : Nat) (receivedAt : String) {env : Env}
    (stable : Sql.Stable env history) :
    let next := (Hub.receive skip handler.recorded payload now receivedAt env hub).2
    Adds (storedKeys hub) (storedKeys hub) (storedKeys next) ∧
      Adds (storedKeys hub) (calledKeys hub) (calledKeys next) := by
  intro next
  obtain ⟨-,⟨same,record⟩ | ⟨device,eventId,actionId,row,stores⟩,-⟩ :=
    receive_effect skip stable (reading env stable) payload now receivedAt hub idle
  · have rows : storedKeys next = storedKeys hub := congrArg (List.map _) same
    have made : calledKeys next = calledKeys hub := congrArg (List.map _) record
    rw [rows,made]
    exact ⟨.inl (List.Sublist.refl _),.inl (List.Sublist.refl _)⟩
  · have new : (device.val,eventId.val) ∉ storedKeys hub := by
      intro among
      obtain ⟨other,listed,key⟩ := List.mem_map.mp among
      exact stores.fresh ⟨other,listed,Prod.mk.inj key⟩
    refine ⟨.inr ⟨_,new,?_⟩,.inr ⟨_,new,?_⟩⟩
    · simp only [next,storedKeys,stored,stores.added,List.map_append,List.map_singleton,stores.device,stores.event]
    · simp only [next,calledKeys,stores.called,List.map_append,List.map_singleton]

/-- A move of the hub leaves the node and its events. -/
theorem InOrder.hub (inOrder : InOrder self) (invariant : Invariant skip deviceId used before self) {after : System A}
    (node : after.node = self.node) (created : after.created = self.created)
    (delivered : after.delivered = self.delivered)
    (stored : Adds (storedKeys self.hub) (storedKeys self.hub) (storedKeys after.hub))
    (called : Adds (storedKeys self.hub) (calledKeys self.hub) (calledKeys after.hub)) : InOrder after := by
  have known : ∀ event ∈ self.delivered, keyOf event ∈ storedKeys self.hub := fun event done =>
    known_stored (invariant.traffic.delivered event done).2
  constructor
  · rw [delivered,created]
    exact inOrder.settled
  · rw [node,delivered,created]
    exact inOrder.pending
  · rw [delivered,created]
    exact inOrder.stored.adds known stored
  · rw [delivered,created]
    exact inOrder.called.adds known called

/-- The node goes on with the event it has. -/
theorem InOrder.proceeds (inOrder : InOrder self) {sender next : EventSender} (node : self.node = some sender)
    (pending : ∀ pending, next.phase.pending = some pending → sender.phase.pending = some pending)
    (sent : List (List UInt8)) : InOrder { self with node := some next,sent } where
  settled := inOrder.settled
  pending := by
    rintro _ ⟨⟩ event tx busy
    exact inOrder.pending sender node event tx (pending _ busy)
  stored := inOrder.stored
  called := inOrder.called

theorem InOrder.trigger (inOrder : InOrder self) (invariant : Invariant skip deviceId used before self)
    (old : OfBoots deviceId used before) (action : TriggeredAction) :
    InOrder (step skip handler start deviceId self (.trigger action)) := by
  cases node : self.node with
  | none => simpa only [step,node] using inOrder
  | some sender =>
    have after : Invariant skip deviceId used before (step skip handler start deviceId self (.trigger action)) :=
      trigger_invariant invariant node action
    simp only [step,node] at after ⊢
    rcases sender.accept_cases skip action with same | ⟨event,next,made,makes,pending⟩
    · rw [same,Option.toList_none,List.append_nil]
      exact inOrder.proceeds node (fun _ busy => busy) self.sent
    · rw [made,Option.toList_some] at after ⊢
      have new := key_new old invariant.records after.numbered
      exact {
        settled := inOrder.settled.trans (List.sublist_append_left _ _)
        pending := by
          rintro _ ⟨⟩ other tx busy
          obtain ⟨rfl,-⟩ := pending other tx busy
          exact ⟨_,rfl,inOrder.settled⟩
        stored := inOrder.stored.creates new
        called := inOrder.called.creates fun among => new (called_stored invariant among) }

/-- An event that was delivered is no longer on its way. -/
theorem waitForAck_done {sender : EventSender} {received : Received} {deadlineReached : Bool} {event : PendingEvent}
    (done : (sender.waitForAck skip received deadlineReached).1 = some event) :
    (sender.waitForAck skip received deadlineReached).2.phase.pending = none := by
  unfold EventSender.waitForAck at done ⊢
  split at done
  next =>
    cases received with
    | elapsed => cases done
    | failed => cases done
    | datagram payload =>
      simp only at done ⊢
      split at done
      next matched =>
        rw [if_pos matched]
        rfl
      next => cases done
  next => cases done

theorem InOrder.wait (inOrder : InOrder self) (invariant : Invariant skip deviceId used before self)
    (received : Received) (deadlineReached : Bool) :
    InOrder (step skip handler start deviceId self (.wait received deadlineReached)) := by
  cases node : self.node with
  | none => simpa only [step,node] using inOrder
  | some sender =>
    simp only [step,node]
    obtain ⟨-,pending,delivers⟩ := sender.waitForAck_cases skip received deadlineReached
    cases done : (sender.waitForAck skip received deadlineReached).1 with
    | none =>
      rw [Option.toList_none,List.append_nil]
      exact inOrder.proceeds node pending self.sent
    | some event =>
      obtain ⟨tx,payload,busy,-,-⟩ := delivers event done
      obtain ⟨earlier,created,settled⟩ := inOrder.pending sender node event tx busy
      have distinct := invariant.numbered.distinct
      have stored := inOrder.stored
      have called := inOrder.called
      rw [created] at distinct stored called
      have apart : event ∉ earlier := by
        rw [List.map_append,List.nodup_append] at distinct
        exact fun listed => distinct.2.2 _ (List.mem_map_of_mem listed) _ (List.mem_singleton.mpr rfl) rfl
      exact {
        settled := by
          rw [created]
          exact settled.append (List.Sublist.refl _)
        pending := by
          rintro _ ⟨⟩ other tx' busy
          rw [waitForAck_done done] at busy
          cases busy
        stored := created ▸ stored.delivers apart
        called := created ▸ called.delivers apart }

theorem InOrder.step (inOrder : InOrder self) (reading : Reading handler)
    (invariant : Invariant skip deviceId used before self)
    (old : OfBoots deviceId used before) (move : Move) (allowed : Allowed skip deviceId self move) :
    InOrder (step skip handler start deviceId self move) := by
  -- the logs stay as they are
  have quiet (log : List EventKey) : Adds (storedKeys self.hub) log log := .inl (List.Sublist.refl _)
  cases move with
  | boot bootId eventRetryCount =>
    refine ⟨inOrder.settled,fun sender running event tx busy => ?_,inOrder.stored,inOrder.called⟩
    cases made : EventSender.new deviceId.val bootId eventRetryCount with
    | error error =>
      simp only [Delivery.step,made] at running
      cases running
    | ok booted =>
      simp only [Delivery.step,made] at running
      cases running
      rw [(EventSender.new_ok made).2] at busy
      cases busy
  | powerOff => exact ⟨inOrder.settled,fun _ running => (by cases running),inOrder.stored,inOrder.called⟩
  | trigger action => exact inOrder.trigger invariant old action
  | attempt discovered sends =>
    cases node : self.node with
    | none => simpa only [Delivery.step,node] using inOrder
    | some sender =>
      simp only [Delivery.step,node]
      exact inOrder.proceeds node (sender.attempt_cases discovered sends).2.1 _
  | wait received deadlineReached => exact inOrder.wait invariant received deadlineReached
  | receive payload now receivedAt env =>
    obtain ⟨stored,called⟩ := receive_adds skip reading invariant.records.idle payload now receivedAt allowed.2
    simp only [Delivery.step]
    split
    · rcases received : Hub.receive skip handler.recorded payload now receivedAt env self.hub with ⟨reply | error,hub⟩
      · rw [received] at stored called
        exact inOrder.hub invariant rfl rfl rfl stored called
      · rw [received] at stored called
        exact inOrder.hub invariant rfl rfl rfl stored called
    · exact inOrder
  | crash payload now receivedAt env called =>
    obtain ⟨stored,handled⟩ := receive_adds skip reading invariant.records.idle payload now receivedAt allowed.2
    simp only [Delivery.step]
    split
    · cases called with
      | true => exact inOrder.hub invariant rfl rfl rfl stored handled
      | false => exact inOrder.hub invariant rfl rfl rfl stored (quiet _)
    · exact inOrder
  | quiet now =>
    simp only [Delivery.step]
    split
    · exact inOrder.hub invariant rfl rfl rfl (quiet _) (quiet _)
    · exact inOrder
  | stop => exact inOrder.hub invariant rfl rfl rfl (quiet _) (quiet _)
  | restart connection initialWaitStartedAt offlineTimeout env =>
    obtain ⟨idle,same,stable⟩ := allowed
    simp only [Delivery.step]
    split
    · exact inOrder.hub invariant rfl rfl rfl (quiet _) (quiet _)
    next hub opened =>
      obtain ⟨unmoved,restarted⟩ := fromDatabase_ok stable opened
      have rows : storedKeys hub = storedKeys self.hub := congrArg (List.map _) ((unmoved idle).2.trans same)
      have record : calledKeys hub = calledKeys self.hub := by rw [calledKeys,calls,restarted]; rfl
      exact inOrder.hub invariant rfl rfl rfl (rows ▸ quiet _) (record ▸ quiet _)

theorem InOrder.run (inOrder : InOrder self) (reading : Reading handler) (plain : Plain deviceId.val)
    (invariant : Invariant skip deviceId used before self)
    (old : OfBoots deviceId used before) (moves : List Move)
    (possible : Possible skip handler start deviceId self moves) :
    InOrder (run skip handler start deviceId self moves) := by
  induction moves generalizing self with
  | nil => exact inOrder
  | cons move moves ih =>
    obtain ⟨allowed,later⟩ := possible
    exact ih (inOrder.step reading invariant old move allowed)
      (step_invariant start reading plain invariant move allowed).1 later

end

/-- In every run: the events are delivered in the order of their actions, the history has them in
that order, and so has the record of the calls of the action handler, as far as it has them. -/
theorem delivered_in_order (skip : Reader Unit) (deviceId : DeviceId) (plain : Plain deviceId.val)
    (start : System ActionEngine) (initial : Initial deviceId start) (moves : List Move)
    (possible : Possible skip ActionEngine.handler .new deviceId start moves) :
    let system := run skip ActionEngine.handler .new deviceId start moves
    let delivered := system.delivered.map keyOf
    system.delivered.Sublist system.created ∧
    (storedKeys system.hub).filter (· ∈ delivered) = delivered ∧
    (calledKeys system.hub).filter (· ∈ delivered) = delivered.filter (· ∈ calledKeys system.hub) := by
  intro system delivered
  have reading : Reading ActionEngine.handler := fun env stable => keeps_handler stable
  have first : InOrder start := {
    settled := by rw [initial.delivered]; exact List.nil_sublist _
    pending := by simp [initial.node]
    stored := by simp [Kept,initial.created]
    called := by simp [Kept,initial.created] }
  have invariant := (run_invariant reading plain moves (initial_invariant initial) possible).1
  have inOrder := first.run reading plain (initial_invariant initial) initial.rows moves possible
  have keys (event : PendingEvent) (listed : event ∈ system.created) : keyOf event = (deviceId.val,event.eventId.val) :=
    congrArg (fun device : DeviceId => (device.val,event.eventId.val)) (invariant.numbered.device event listed)
  have apart : delivered.Nodup := by
    have all : (system.created.map keyOf).Nodup := by
      refine List.Nodup.map_on (fun one among other known same => ?_) invariant.numbered.distinct.of_map
      rw [keys one among,keys other known] at same
      exact List.inj_on_of_nodup_map invariant.numbered.distinct among known (Text.ext (Prod.mk.inj same).2)
    exact all.sublist (inOrder.settled.map keyOf)
  have ordered {log : List EventKey} (kept : Kept log system.created system.delivered) :
      delivered.Pairwise (NotBehind log) := by
    refine List.pairwise_map.mpr ?_
    exact (kept.sublist inOrder.settled).imp_of_mem fun done _ before => before done
  have unique : (storedKeys system.hub).Nodup := invariant.records.unique
  have once : (calledKeys system.hub).Nodup := invariant.records.once
  refine ⟨inOrder.settled,?_,filter_of_notBehind once apart (ordered inOrder.called)⟩
  rw [filter_of_notBehind unique apart (ordered inOrder.stored)]
  refine List.filter_eq_self.mpr fun key listed => decide_eq_true ?_
  obtain ⟨event,done,rfl⟩ := List.mem_map.mp listed
  exact known_stored (invariant.traffic.delivered event done).2

def secondEvent : PendingEvent := { firstEvent with eventId := ⟨eventIdText 1 2,by decide⟩ }

/-- The node goes on with its second event; then a copy of the first one is late. -/
def lateCopy : List Move := [
  .boot 1 3,.trigger { actionId := 1 },.attempt true true,.receive plainEvent 0 "0" Db.Env.quiet,
  .wait (.datagram ((UdpMessage.codec fun _ => none).write (.ack firstEvent.deviceId firstEvent.eventId))) false,
  .trigger { actionId := 1 },.attempt true true,
  .receive ((UdpMessage.codec fun _ => none).write secondEvent.message) 1 "1" Db.Env.quiet,
  .receive plainEvent 2 "2" Db.Env.quiet,
  .wait (.datagram ((UdpMessage.codec fun _ => none).write (.ack secondEvent.deviceId secondEvent.eventId))) false]

theorem delivered_in_order_lateCopy :
    let system := run (fun _ => none) ActionEngine.handler .new firstEvent.deviceId smallSystem lateCopy
    system.delivered = [firstEvent,secondEvent] ∧
      (storedKeys system.hub).filter (· ∈ system.delivered.map keyOf) = [keyOf firstEvent,keyOf secondEvent] := by
  have alone : Sql.Stable Db.Env.quiet history := Sql.stable_of_alone fun _ => rfl
  have initial : Initial firstEvent.deviceId smallSystem := {
    node := rfl
    sent := rfl
    created := rfl
    delivered := rfl
    idle := rfl
    calls := rfl
    unique := by decide
    rows := fun _ member => absurd member List.not_mem_nil }
  have possible : Possible (fun _ => none) ActionEngine.handler .new firstEvent.deviceId smallSystem lateCopy := by
    -- what arrives was sent before
    refine (fun sent : _ ∧ _ ∧ _ ∧ _ ∧ _ => ⟨List.not_mem_nil,trivial,trivial,⟨.inl sent.1,alone⟩,.inl sent.2.1,trivial,
      trivial,⟨.inl sent.2.2.1,alone⟩,⟨.inl sent.2.2.2.1,alone⟩,.inl sent.2.2.2.2,trivial⟩) ?_
    decide +kernel
  have ordered := (delivered_in_order (fun _ => none) firstEvent.deviceId (by decide) smallSystem initial lateCopy
    possible).2.1
  have delivered : (run (fun _ => none) ActionEngine.handler .new firstEvent.deviceId smallSystem lateCopy).delivered =
      [firstEvent,secondEvent] := by decide +kernel
  generalize run (fun _ => none) ActionEngine.handler .new firstEvent.deviceId smallSystem lateCopy = system
    at ordered delivered ⊢
  refine ⟨delivered,ordered.trans ?_⟩
  rw [delivered]
  rfl

end UchiPulse.Delivery
