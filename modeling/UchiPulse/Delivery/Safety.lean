import UchiPulse.Delivery.Correlation
import UchiPulse.Delivery.System
import UchiPulse.Hub.Validation
import UchiPulse.Lib.Grouping

/-! The delivery is safe in every run: an event is handed to the action handler once at
most, and what the node marks as delivered is stored, with its own action. -/
namespace UchiPulse.Delivery
open Common Json Node Hub Db

/-- The event history of a hub. -/
abbrev stored {A : Type} (hub : HubUdpProcessor (Recorded A)) : List EventRow := history hub.database.committed

section
variable {A E : Type} (skip : Reader Unit) (deviceId : DeviceId) (used : List UInt64) (before : List EventRow)

/-! ### The invariant -/

/-- The identifier was made by a boot of this run, before what its sequence is at now. -/
def MadeBy (bootIds : List UInt64) (node : Option EventSender) (eventId : EventId) : Prop :=
  ∃ bootId sequence, eventId.val = eventIdText bootId sequence ∧ bootId ∈ bootIds ∧ bootId ∉ used ∧
    ∀ sender, node = some sender → sender.protocol.eventIds.bootId = bootId →
      sequence.toNat < sender.protocol.eventIds.nextSequence.toNat

/-- The running sender, and the event it is busy with. -/
structure Running (bootIds : List UInt64) (created : List PendingEvent) (sender : EventSender) : Prop where
  device : sender.protocol.deviceId = deviceId
  boot : sender.protocol.eventIds.bootId ∈ bootIds
  fresh : sender.protocol.eventIds.bootId ∉ used
  pending : ∀ event tx, sender.phase.pending = some (event,tx) →
    event ∈ created ∧ tx = (UdpMessage.codec skip).write event.message

/-- The events of the node, with distinct identifiers. -/
structure Numbered (bootIds : List UInt64) (node : Option EventSender) (created : List PendingEvent) : Prop where
  earlier : ∀ bootId ∈ used, bootId ∈ bootIds
  device : ∀ event ∈ created, event.deviceId = deviceId
  made : ∀ event ∈ created, MadeBy used bootIds node event.eventId
  distinct : (created.map (·.eventId)).Nodup
  running : ∀ sender, node = some sender → Running skip deviceId used bootIds created sender

/-- The history and the record of calls. -/
structure Records (created : List PendingEvent) (hub : HubUdpProcessor (Recorded A)) : Prop where
  idle : hub.database.working = none
  unique : ((stored hub).map fun row => (row.deviceId,row.eventId)).Nodup
  rows : ∀ row ∈ stored hub, row.deviceId = deviceId.val →
    row ∈ before ∨ ∃ event ∈ created, row.eventId = event.eventId.val ∧
      Utf8.bytes row.payload = (UdpMessage.codec skip).write event.message
  once : ((calls hub).map fun call => (call.deviceId,call.eventId)).Nodup
  known : ∀ call ∈ calls hub, ∃ row ∈ stored hub, row.deviceId = call.deviceId ∧ row.eventId = call.eventId
  called : ∀ call ∈ calls hub, call.deviceId = deviceId.val →
    ∃ event ∈ created, call.eventId = event.eventId.val ∧ call.actionId = event.actionId

/-- What is on its way, and what has arrived. -/
structure Traffic (created : List PendingEvent) (sent : List (List UInt8)) (delivered : List PendingEvent)
    (rows : List EventRow) : Prop where
  sent : ∀ payload ∈ sent, (∃ event ∈ created, payload = (UdpMessage.codec skip).write event.message) ∨
    ∃ deviceId eventId, payload = (UdpMessage.codec skip).write (.ack deviceId eventId) ∧
      Known rows deviceId eventId
  delivered : ∀ event ∈ delivered, event ∈ created ∧ Known rows event.deviceId event.eventId

structure Invariant (system : System A) : Prop where
  numbered : Numbered skip deviceId used system.bootIds system.node system.created
  records : Records skip deviceId before system.created system.hub
  traffic : Traffic skip system.created system.sent system.delivered (stored system.hub)

variable {skip deviceId used before}

/-! ### The node's moves -/

theorem numbered_boot {bootIds : List UInt64} {node : Option EventSender} {created : List PendingEvent}
    {bootId : UInt64} {eventRetryCount : UInt8} (numbered : Numbered skip deviceId used bootIds node created)
    (fresh : bootId ∉ bootIds) :
    Numbered skip deviceId used (bootId :: bootIds)
      (EventSender.new deviceId.val bootId eventRetryCount).toOption created := by
  have booted : ∀ sender, (EventSender.new deviceId.val bootId eventRetryCount).toOption = some sender →
      sender.protocol = { deviceId,eventIds := .new bootId } ∧ sender.phase = .idle := by
    intro sender same
    cases made : EventSender.new deviceId.val bootId eventRetryCount with
    | error error => rw [made] at same; cases same
    | ok sender' =>
      rw [made] at same
      cases same
      exact EventSender.new_ok made
  exact {
    earlier := fun other member => List.mem_cons_of_mem _ (numbered.earlier other member)
    device := numbered.device
    made := by
      intro event member
      obtain ⟨boot,sequence,text,known,new,-⟩ := numbered.made event member
      refine ⟨boot,sequence,text,List.mem_cons_of_mem _ known,new,fun sender running same => ?_⟩
      rw [(booted sender running).1] at same
      have reused : boot = bootId := same.symm
      exact absurd (reused ▸ known) fresh
    distinct := numbered.distinct
    running := by
      intro sender running
      obtain ⟨protocol,phase⟩ := booted sender running
      exact {
        device := by rw [protocol]
        boot := by simp [protocol,EventIdGenerator.new]
        fresh := fun old => fresh (by
          have known := numbered.earlier _ old
          rwa [protocol] at known)
        pending := by simp [phase,SenderPhase.pending] } }

theorem numbered_powerOff {bootIds : List UInt64} {node : Option EventSender} {created : List PendingEvent}
    (numbered : Numbered skip deviceId used bootIds node created) :
    Numbered skip deviceId used bootIds none created where
  earlier := numbered.earlier
  device := numbered.device
  made event member := by
    obtain ⟨boot,sequence,text,known,new,-⟩ := numbered.made event member
    exact ⟨boot,sequence,text,known,new,by simp⟩
  distinct := numbered.distinct
  running := by simp

/-- A sender that goes on with the event it has. -/
theorem numbered_proceeds {bootIds : List UInt64} {sender next : EventSender} {created : List PendingEvent}
    (numbered : Numbered skip deviceId used bootIds (some sender) created)
    (protocol : next.protocol = sender.protocol)
    (pending : ∀ pending, next.phase.pending = some pending → sender.phase.pending = some pending) :
    Numbered skip deviceId used bootIds (some next) created where
  earlier := numbered.earlier
  device := numbered.device
  made event member := by
    obtain ⟨boot,sequence,text,known,new,before⟩ := numbered.made event member
    refine ⟨boot,sequence,text,known,new,?_⟩
    rintro _ ⟨⟩ same
    rw [protocol] at same ⊢
    exact before sender rfl same
  distinct := numbered.distinct
  running := by
    rintro _ ⟨⟩
    have running := numbered.running sender rfl
    exact {
      device := by rw [protocol,running.device]
      boot := by rw [protocol]; exact running.boot
      fresh := by rw [protocol]; exact running.fresh
      pending := fun event tx busy => running.pending event tx (pending _ busy) }

theorem numbered_makes {bootIds : List UInt64} {sender next : EventSender} {created : List PendingEvent}
    {action : TriggeredAction} {event : PendingEvent}
    (numbered : Numbered skip deviceId used bootIds (some sender) created)
    (makes : Makes sender.protocol action event next.protocol)
    (pending : ∀ pending tx, next.phase.pending = some (pending,tx) →
      pending = event ∧ tx = (UdpMessage.codec skip).write event.message) :
    Numbered skip deviceId used bootIds (some next) (created ++ [event]) := by
  have running := numbered.running sender rfl
  have new : event.eventId ∉ created.map (·.eventId) := by
    intro old
    obtain ⟨other,member,same⟩ := List.mem_map.mp old
    obtain ⟨boot,sequence,text,-,-,before⟩ := numbered.made other member
    rw [same,makes.identifier] at text
    obtain ⟨rfl,rfl⟩ := eventIdText_inj text
    exact absurd (before sender rfl rfl) (Nat.lt_irrefl _)
  exact {
    earlier := numbered.earlier
    device := by
      intro other member
      rcases List.mem_append.mp member with old | last
      · exact numbered.device other old
      · rw [List.mem_singleton.mp last,makes.device,running.device]
    made := by
      intro other member
      rcases List.mem_append.mp member with old | last
      · obtain ⟨boot,sequence,text,known,fresh,before⟩ := numbered.made other old
        refine ⟨boot,sequence,text,known,fresh,?_⟩
        rintro _ ⟨⟩ same
        have := before sender rfl (makes.boot ▸ same)
        rw [makes.sequence]
        omega
      · rw [List.mem_singleton.mp last]
        refine ⟨_,_,makes.identifier,running.boot,running.fresh,?_⟩
        rintro _ ⟨⟩ -
        rw [makes.sequence]
        omega
    distinct := by
      rw [List.map_append]
      refine numbered.distinct.append (List.nodup_singleton _) fun other old last => new ?_
      rwa [← show other = event.eventId from List.mem_singleton.mp last]
    running := by
      rintro _ ⟨⟩
      exact {
        device := by rw [makes.owner,running.device]
        boot := by rw [makes.boot]; exact running.boot
        fresh := by rw [makes.boot]; exact running.fresh
        pending := by
          intro other tx busy
          obtain ⟨rfl,written⟩ := pending other tx busy
          exact ⟨by simp,written⟩ } }

/-! ### The messages -/

theorem plain_message (plain : Plain deviceId.val) {bootIds : List UInt64} {node : Option EventSender}
    {created : List PendingEvent} (numbered : Numbered skip deviceId used bootIds node created)
    {event : PendingEvent} (member : event ∈ created) : event.message.Plain := by
  obtain ⟨boot,sequence,text,-⟩ := numbered.made event member
  refine ⟨?_,?_⟩
  · rwa [numbered.device event member]
  · rw [text]
    exact eventIdText_plain boot sequence

/-- The node's datagram is read as its event. -/
theorem decode_event {event : PendingEvent} (plain : event.message.Plain) :
    decode (UdpMessage.codec skip) ((UdpMessage.codec skip).write event.message) = .ok event.message :=
  (UdpMessage.decode_write_self skip event.message).mpr plain

theorem decode_ack {deviceId : DeviceId} {eventId : EventId} {message : UdpMessage}
    (decoded : decode (UdpMessage.codec skip) ((UdpMessage.codec skip).write (.ack deviceId eventId)) =
      .ok message) :
    ∃ found known, message = .ack found known ∧ found.val = escape deviceId.val ∧
      known.val = escape eventId.val := by
  have image := (decode_write _ _ _).mp decoded
  simp only [UdpMessage.codec,UdpMessage.image,Option.bind_eq_some_iff,Option.map_eq_some_iff] at image
  obtain ⟨found,device,known,event,rfl⟩ := image
  exact ⟨found,known,rfl,image_text_val device,image_text_val event⟩

/-- A plain identifier in a decoded ACK is the one the ACK was written with. -/
theorem plain_text {n : Nat} {text found : Text n} (plain : Plain found.val)
    (escaped : found.val = escape text.val) : text = found := by
  have before : Plain text.val := plain_of_plain_escape (escaped ▸ plain)
  exact Text.ext (by rw [escaped,escape_of_plain before])

section
variable {bootIds : List UInt64} {node : Option EventSender} {created delivered : List PendingEvent}
  {sent : List (List UInt8)} {rows : List EventRow} {payload : List UInt8}

/-- What is recognised as the ACK of an event stems from the hub, which has stored it. -/
theorem known_of_ack (plain : Plain deviceId.val) (numbered : Numbered skip deviceId used bootIds node created)
    (traffic : Traffic skip created sent delivered rows) (genuine : Genuine skip deviceId sent payload)
    {event : PendingEvent} (member : event ∈ created)
    (acked : decode (UdpMessage.codec skip) payload = .ok (.ack deviceId event.eventId)) :
    Known rows event.deviceId event.eventId := by
  rcases genuine with known | ⟨-,noAck⟩
  · rcases traffic.sent payload known with ⟨other,made,rfl⟩ | ⟨device,eventId,rfl,row⟩
    · rw [decode_event (plain_message plain numbered made)] at acked
      cases acked
    · obtain ⟨found,eventFound,same,deviceText,eventText⟩ := decode_ack acked
      obtain ⟨rfl,rfl⟩ := UdpMessage.ack.inj same
      obtain ⟨-,plainId⟩ := plain_message plain numbered member
      rw [plain_text plain deviceText,plain_text plainId eventText] at row
      rwa [numbered.device event member]
  · exact absurd acked (noAck _)

/-- What is read as an event of the node is the datagram of that event. -/
theorem event_of_genuine (plain : Plain deviceId.val) (numbered : Numbered skip deviceId used bootIds node created)
    (traffic : Traffic skip created sent delivered rows) (genuine : Genuine skip deviceId sent payload)
    {eventId : EventId} {actionId : ActionId}
    (decoded : decode (UdpMessage.codec skip) payload = .ok (.event deviceId eventId actionId)) :
    ∃ event ∈ created, event.eventId = eventId ∧ event.actionId = actionId ∧
      payload = (UdpMessage.codec skip).write event.message := by
  rcases genuine with known | ⟨noEvent,-⟩
  · rcases traffic.sent payload known with ⟨event,made,rfl⟩ | ⟨device,other,rfl,-⟩
    · rw [decode_event (plain_message plain numbered made)] at decoded
      cases decoded
      exact ⟨event,made,rfl,rfl,rfl⟩
    · obtain ⟨_,_,same,-⟩ := decode_ack decoded
      cases same
  · exact absurd decoded (noEvent _ _)

/-! ### More events, more rows -/

theorem known_mono {rows' : List EventRow} {device : DeviceId} {eventId : EventId} (more : rows ⊆ rows')
    (known : Known rows device eventId) : Known rows' device eventId := by
  obtain ⟨row,member,same⟩ := known
  exact ⟨row,more member,same⟩

theorem traffic_mono {created' : List PendingEvent} {rows' : List EventRow}
    (traffic : Traffic skip created sent delivered rows) (events : created ⊆ created') (more : rows ⊆ rows') :
    Traffic skip created' sent delivered rows' where
  sent payload member := by
    rcases traffic.sent payload member with ⟨event,made,written⟩ | ⟨device,eventId,written,known⟩
    · exact .inl ⟨event,events made,written⟩
    · exact .inr ⟨device,eventId,written,known_mono more known⟩
  delivered event member :=
    have ⟨made,known⟩ := traffic.delivered event member
    ⟨events made,known_mono more known⟩

theorem records_mono {created' : List PendingEvent} {hub : HubUdpProcessor (Recorded A)}
    (records : Records skip deviceId before created hub) (events : created ⊆ created') :
    Records skip deviceId before created' hub where
  idle := records.idle
  unique := records.unique
  rows row member own := (records.rows row member own).imp_right fun ⟨event,made,same⟩ =>
    ⟨event,events made,same⟩
  once := records.once
  known := records.known
  called call member own :=
    have ⟨event,made,same⟩ := records.called call member own
    ⟨event,events made,same⟩

/-! ### The hub's moves -/

/-- The same rows, with all the calls or fewer. -/
theorem records_keeps {hub next : HubUdpProcessor (Recorded A)} (records : Records skip deviceId before created hub)
    (idle : next.database.working = none) (same : stored next = stored hub)
    (fewer : (calls next).Sublist (calls hub)) : Records skip deviceId before created next where
  idle := idle
  unique := by rw [same]; exact records.unique
  rows := by rw [same]; exact records.rows
  once := records.once.sublist (fewer.map _)
  known call member := by rw [same]; exact records.known call (fewer.subset member)
  called call member := records.called call (fewer.subset member)

/-- A stored event has a new key, and so has the call for it, if it comes to that. -/
theorem records_stores {hub next : HubUdpProcessor (Recorded A)} {device : DeviceId} {eventId : EventId}
    {actionId : ActionId} {row : EventRow} (records : Records skip deviceId before created hub)
    (stores : Stores skip payload device eventId actionId row hub next) (idle : next.database.working = none)
    (own : device = deviceId → ∃ event ∈ created, event.eventId = eventId ∧ event.actionId = actionId ∧
      payload = (UdpMessage.codec skip).write event.message) :
    Records skip deviceId before created next where
  idle := idle
  unique := by
    rw [stored,stores.added,List.map_append]
    refine records.unique.append (List.nodup_singleton _) fun key old last => stores.fresh ?_
    obtain ⟨other,member,rfl⟩ := List.mem_map.mp old
    obtain ⟨sameDevice,sameEvent⟩ := Prod.mk.inj (List.mem_singleton.mp last)
    exact ⟨other,member,sameDevice.trans stores.device,sameEvent.trans stores.event⟩
  rows other member ofNode := by
    rw [stored,stores.added] at member
    rcases List.mem_append.mp member with old | last
    · exact records.rows other old ofNode
    · rw [List.mem_singleton.mp last] at ofNode ⊢
      obtain ⟨event,made,rfl,-,written⟩ := own (Text.ext (stores.device.symm.trans ofNode))
      exact .inr ⟨event,made,stores.event,by rw [stores.bytes,written]⟩
  once := by
    rw [stores.called,List.map_append]
    refine records.once.append (List.nodup_singleton _) fun key old last => stores.fresh ?_
    obtain ⟨call,member,rfl⟩ := List.mem_map.mp old
    obtain ⟨sameDevice,sameEvent⟩ := Prod.mk.inj (List.mem_singleton.mp last)
    obtain ⟨other,among,device,event⟩ := records.known call member
    exact ⟨other,among,device.trans sameDevice,event.trans sameEvent⟩
  known call member := by
    rw [stores.called] at member
    rw [stored,stores.added]
    rcases List.mem_append.mp member with old | last
    · obtain ⟨other,among,same⟩ := records.known call old
      exact ⟨other,List.mem_append_left _ among,same⟩
    · rw [List.mem_singleton.mp last]
      exact ⟨row,by simp,stores.device,stores.event⟩
  called call member ofNode := by
    rw [stores.called] at member
    rcases List.mem_append.mp member with old | last
    · exact records.called call old ofNode
    · rw [List.mem_singleton.mp last] at ofNode ⊢
      obtain ⟨event,made,rfl,rfl,-⟩ := own (Text.ext ofNode)
      exact ⟨event,made,rfl,rfl⟩

end

/-! ### Whole runs -/

variable {handler : ActionHandler A E} {start : A} {self : System A}

/-- The handler never writes the event history. -/
def Reading (handler : ActionHandler A E) : Prop :=
  ∀ env, Sql.Stable env history → handler.Keeps history env

/-- One pass of the hub's main loop. -/
theorem receive_records (reading : Reading handler) (plain : Plain deviceId.val)
    (invariant : Invariant skip deviceId used before self) {payload : List UInt8} {now : Nat} {receivedAt : String}
    {env : Env} (genuine : Genuine skip deviceId self.sent payload) (stable : Sql.Stable env history)
    {outcome : LoopStep} {next : HubUdpProcessor (Recorded A)}
    (received : Hub.receive skip handler.recorded payload now receivedAt env self.hub = (outcome,next)) :
    Records skip deviceId before self.created next ∧ stored self.hub <+: stored next ∧
      calls self.hub <+: calls next ∧
      ∀ reply, outcome = .continues (some reply) → ∃ device eventId,
        reply = (UdpMessage.codec skip).write (.ack device eventId) ∧ Known (stored next) device eventId := by
  have effect := receive_effect skip stable (reading env stable) payload now receivedAt self.hub
    invariant.records.idle
  rw [received] at effect
  obtain ⟨idle,⟨same,record⟩ | ⟨device,eventId,actionId,row,stores⟩,replied⟩ := effect
  · have rows : stored next = stored self.hub := same
    have made : calls next = calls self.hub := record
    exact ⟨records_keeps invariant.records idle rows (by rw [made]),⟨[],by rw [rows,List.append_nil]⟩,
      ⟨[],by rw [made,List.append_nil]⟩,replied⟩
  · refine ⟨records_stores invariant.records stores idle ?_,⟨_,stores.added.symm⟩,⟨_,stores.called.symm⟩,replied⟩
    rintro rfl
    exact event_of_genuine plain invariant.numbered invariant.traffic genuine stores.decoded

section
variable {sender : EventSender}

theorem trigger_invariant (invariant : Invariant skip deviceId used before self) (node : self.node = some sender)
    (action : TriggeredAction) :
    Invariant skip deviceId used before (step skip handler start deviceId self (.trigger action)) := by
  obtain ⟨numbered,records,traffic⟩ := invariant
  rw [node] at numbered
  simp only [step,node]
  rcases sender.accept_cases skip action with same | ⟨event,next,made,makes,pending⟩
  · rw [same,Option.toList_none,List.append_nil]
    exact ⟨numbered,records,traffic⟩
  · rw [made,Option.toList_some]
    have more : self.created ⊆ self.created ++ [event] := List.subset_append_left _ _
    exact ⟨numbered_makes numbered makes pending,records_mono records more,
      traffic_mono traffic more (List.Subset.refl _)⟩

theorem attempt_invariant (invariant : Invariant skip deviceId used before self) (node : self.node = some sender)
    (discovered sends : Bool) :
    Invariant skip deviceId used before (step skip handler start deviceId self (.attempt discovered sends)) := by
  obtain ⟨numbered,records,traffic⟩ := invariant
  rw [node] at numbered
  simp only [step,node]
  obtain ⟨protocol,pending,datagram⟩ := sender.attempt_cases discovered sends
  refine ⟨numbered_proceeds numbered protocol pending,records,?_⟩
  exact {
    sent := by
      intro payload member
      rcases List.mem_append.mp member with old | last
      · exact traffic.sent payload old
      · obtain ⟨event,busy⟩ := datagram payload (Option.mem_toList.mp last)
        exact .inl ⟨event,(numbered.running sender rfl).pending event payload busy⟩
    delivered := traffic.delivered }

theorem wait_invariant (plain : Plain deviceId.val) (invariant : Invariant skip deviceId used before self)
    (node : self.node = some sender) (received : Received) (deadlineReached : Bool)
    (allowed : Allowed skip deviceId self (.wait received deadlineReached)) :
    Invariant skip deviceId used before (step skip handler start deviceId self (.wait received deadlineReached)) := by
  obtain ⟨numbered,records,traffic⟩ := invariant
  rw [node] at numbered
  simp only [step,node]
  obtain ⟨protocol,pending,delivers⟩ := sender.waitForAck_cases skip received deadlineReached
  refine ⟨numbered_proceeds numbered protocol pending,records,?_⟩
  exact {
    sent := traffic.sent
    delivered := by
      intro event member
      rcases List.mem_append.mp member with old | last
      · exact traffic.delivered event old
      · obtain ⟨tx,payload,busy,rfl,matched⟩ := delivers event (Option.mem_toList.mp last)
        have running := numbered.running sender rfl
        have made := (running.pending event tx busy).1
        rw [NodeUdpProtocol.ackMatches_iff,running.device] at matched
        exact ⟨made,known_of_ack plain numbered traffic allowed made matched⟩ }

end

theorem receive_invariant (reading : Reading handler) (plain : Plain deviceId.val)
    (invariant : Invariant skip deviceId used before self) {payload : List UInt8} {now : Nat} {receivedAt : String}
    {env : Env} (allowed : Allowed skip deviceId self (.receive payload now receivedAt env)) :
    Invariant skip deviceId used before (step skip handler start deviceId self (.receive payload now receivedAt env)) ∧
      stored self.hub <+:
        stored (step skip handler start deviceId self (.receive payload now receivedAt env)).hub := by
  by_cases up : self.up = true
  · rcases received : Hub.receive skip handler.recorded payload now receivedAt env self.hub with
      ⟨reply | error,hub⟩ <;>
      obtain ⟨records,more,-,replied⟩ := receive_records reading plain invariant allowed.1 allowed.2 received <;>
      have traffic := traffic_mono invariant.traffic (List.Subset.refl _) more.subset <;>
      simp only [step,if_pos up,received]
    · refine ⟨⟨invariant.numbered,records,?_⟩,more⟩
      exact {
        sent := by
          intro payload member
          rcases List.mem_append.mp member with old | last
          · exact traffic.sent payload old
          · exact .inr (replied payload (congrArg LoopStep.continues (Option.mem_toList.mp last)))
        delivered := traffic.delivered }
    · exact ⟨⟨invariant.numbered,records,traffic⟩,more⟩
  · simp only [step,if_neg up]
    exact ⟨invariant,List.prefix_rfl⟩

theorem crash_invariant (reading : Reading handler) (plain : Plain deviceId.val)
    (invariant : Invariant skip deviceId used before self) {payload : List UInt8} {now : Nat} {receivedAt : String}
    {env : Env} {called : Bool} (allowed : Allowed skip deviceId self (.crash payload now receivedAt env called)) :
    Invariant skip deviceId used before
        (step skip handler start deviceId self (.crash payload now receivedAt env called)) ∧
      stored self.hub <+:
        stored (step skip handler start deviceId self (.crash payload now receivedAt env called)).hub := by
  by_cases up : self.up = true
  · rcases received : Hub.receive skip handler.recorded payload now receivedAt env self.hub with ⟨outcome,hub⟩
    obtain ⟨records,more,record,-⟩ := receive_records reading plain invariant allowed.1 allowed.2 received
    have traffic := traffic_mono invariant.traffic (List.Subset.refl _) more.subset
    simp only [step,if_pos up,received]
    cases called with
    | true => exact ⟨⟨invariant.numbered,records,traffic⟩,more⟩
    | false =>
      refine ⟨⟨invariant.numbered,?_,traffic⟩,more⟩
      exact records_keeps records records.idle rfl record.sublist
  · simp only [step,if_neg up]
    exact ⟨invariant,List.prefix_rfl⟩

theorem restart_invariant (invariant : Invariant skip deviceId used before self) {connection : Connection}
    {initialWaitStartedAt offlineTimeout : Nat} {env : Env}
    (allowed : Allowed skip deviceId self (.restart connection initialWaitStartedAt offlineTimeout env)) :
    Invariant skip deviceId used before (step skip handler start deviceId self
        (.restart connection initialWaitStartedAt offlineTimeout env)) ∧
      stored self.hub <+: stored (step skip handler start deviceId self
        (.restart connection initialWaitStartedAt offlineTimeout env)).hub := by
  obtain ⟨idle,same,stable⟩ := allowed
  simp only [step]
  split
  next failed => exact ⟨⟨invariant.numbered,invariant.records,invariant.traffic⟩,List.prefix_rfl⟩
  next hub opened =>
    obtain ⟨unmoved,restarted⟩ := fromDatabase_ok stable opened
    obtain ⟨closed,kept⟩ := unmoved idle
    have rows : stored hub = stored self.hub := kept.trans same
    have record : calls hub = calls self.hub := by rw [calls,restarted]
    refine ⟨⟨invariant.numbered,?_,rows ▸ invariant.traffic⟩,rows ▸ List.prefix_rfl⟩
    exact records_keeps invariant.records closed rows (record ▸ List.Sublist.refl _)

theorem step_invariant (start : A) (reading : Reading handler) (plain : Plain deviceId.val)
    (invariant : Invariant skip deviceId used before self) (move : Move) (allowed : Allowed skip deviceId self move) :
    Invariant skip deviceId used before (step skip handler start deviceId self move) ∧
      stored self.hub <+: stored (step skip handler start deviceId self move).hub := by
  have ⟨numbered,records,traffic⟩ := invariant
  -- the moves of the node leave the hub
  have ofNode : stored self.hub <+: stored self.hub := List.prefix_rfl
  cases move with
  | boot bootId eventRetryCount => exact ⟨⟨numbered_boot numbered allowed,records,traffic⟩,ofNode⟩
  | powerOff => exact ⟨⟨numbered_powerOff numbered,records,traffic⟩,ofNode⟩
  | trigger action =>
    cases node : self.node with
    | none => simpa only [step,node] using ⟨invariant,ofNode⟩
    | some sender => exact ⟨trigger_invariant invariant node action,by simpa only [step,node] using ofNode⟩
  | attempt discovered sends =>
    cases node : self.node with
    | none => simpa only [step,node] using ⟨invariant,ofNode⟩
    | some sender =>
      exact ⟨attempt_invariant invariant node discovered sends,by simpa only [step,node] using ofNode⟩
  | wait received deadlineReached =>
    cases node : self.node with
    | none => simpa only [step,node] using ⟨invariant,ofNode⟩
    | some sender =>
      exact ⟨wait_invariant plain invariant node received deadlineReached allowed,
        by simpa only [step,node] using ofNode⟩
  | receive payload now receivedAt env => exact receive_invariant reading plain invariant allowed
  | crash payload now receivedAt env called => exact crash_invariant reading plain invariant allowed
  | quiet now =>
    simp only [step]
    split
    · exact ⟨⟨numbered,records_keeps records records.idle rfl (List.Sublist.refl _),traffic⟩,ofNode⟩
    · exact ⟨invariant,ofNode⟩
  | stop => exact ⟨⟨numbered,records,traffic⟩,ofNode⟩
  | restart connection initialWaitStartedAt offlineTimeout env => exact restart_invariant invariant allowed

theorem run_invariant (reading : Reading handler) (plain : Plain deviceId.val) (moves : List Move)
    (invariant : Invariant skip deviceId used before self) (possible : Possible skip handler start deviceId self moves) :
    Invariant skip deviceId used before (run skip handler start deviceId self moves) ∧
      stored self.hub <+: stored (run skip handler start deviceId self moves).hub := by
  induction moves generalizing self with
  | nil => exact ⟨invariant,List.prefix_rfl⟩
  | cons move moves ih =>
    obtain ⟨allowed,later⟩ := possible
    have advanced := step_invariant start reading plain invariant move allowed
    obtain ⟨last,rest⟩ := ih advanced.1 later
    exact ⟨last,advanced.2.trans rest⟩

theorem possible_append {moves later : List Move} :
    Possible skip handler start deviceId self (moves ++ later) ↔
      Possible skip handler start deviceId self moves ∧
        Possible skip handler start deviceId (run skip handler start deviceId self moves) later := by
  induction moves generalizing self with
  | nil => simp [Possible,run]
  | cons move moves ih =>
    rw [List.cons_append,Possible,Possible,ih,and_assoc]
    rfl

theorem initial_invariant (initial : Initial deviceId self) :
    Invariant skip deviceId self.bootIds (stored self.hub) self where
  numbered := {
    earlier := fun _ member => member
    device := by simp [initial.created]
    made := by simp [initial.created]
    distinct := by simp [initial.created]
    running := by simp [initial.node] }
  records := {
    idle := initial.idle
    unique := initial.unique
    rows := fun row member _ => .inl member
    once := by simp [initial.calls]
    known := by simp [initial.calls]
    called := by simp [initial.calls] }
  traffic := {
    sent := by simp [initial.sent]
    delivered := by simp [initial.delivered] }

/-- A row of an event of this run is not one the run began with. -/
theorem not_before (initial : Initial deviceId self) {bootIds : List UInt64} {node : Option EventSender}
    {event : PendingEvent} (device : event.deviceId = deviceId) (made : MadeBy self.bootIds bootIds node event.eventId)
    {row : EventRow} (old : row ∈ stored self.hub) (own : row.deviceId = event.deviceId.val) :
    row.eventId ≠ event.eventId.val := by
  intro same
  obtain ⟨boot,sequence,text,-,fresh,-⟩ := made
  obtain ⟨oldBoot,known,oldSequence,oldText⟩ := initial.rows row old (device ▸ own)
  obtain ⟨rfl,-⟩ := eventIdText_inj (oldText.symm.trans (same.trans text))
  exact fresh known

end

/-- The key is that of this event. -/
def IsFor (event : PendingEvent) (deviceId eventId : String) : Prop :=
  deviceId = event.deviceId.val ∧ eventId = event.eventId.val

instance (event : PendingEvent) (deviceId eventId : String) : Decidable (IsFor event deviceId eventId) := by
  unfold IsFor
  infer_instance

theorem isFor_key {event : PendingEvent} {deviceId eventId : String}
    (isFor : decide (IsFor event deviceId eventId) = true) :
    (deviceId,eventId) = (event.deviceId.val,event.eventId.val) :=
  have ⟨device,same⟩ := of_decide_eq_true isFor
  Prod.ext device same

/-- In every run, from any start and at any time of it: the events of the node are distinct,
and the handler is called once at most for each; an event marked as delivered has exactly
one row, which carries that event; and rows stay, and are of events of the node. -/
theorem delivery_safe (skip : Reader Unit) (deviceId : DeviceId) (plain : Plain deviceId.val)
    (start : System ActionEngine) (initial : Initial deviceId start) (moves later : List Move)
    (possible : Possible skip ActionEngine.handler .new deviceId start (moves ++ later)) :
    let system := run skip ActionEngine.handler .new deviceId start moves
    let last := run skip ActionEngine.handler .new deviceId start (moves ++ later)
    (system.created.map (·.eventId)).Nodup ∧
    (∀ event ∈ system.created,
      ((calls system.hub).filter fun call => IsFor event call.deviceId call.eventId).length ≤ 1) ∧
    (∀ call ∈ calls system.hub, call.deviceId = deviceId.val → ∃ event ∈ system.created,
      IsFor event call.deviceId call.eventId ∧ call.actionId = event.actionId) ∧
    (∀ event ∈ system.delivered, ∃ row,
      ((stored system.hub).filter fun row => IsFor event row.deviceId row.eventId) = [row] ∧
      decode (UdpMessage.codec skip) (Utf8.bytes row.payload) = .ok event.message) ∧
    stored start.hub <+: stored system.hub ∧ stored system.hub <+: stored last.hub ∧
    ∀ row ∈ stored system.hub, row.deviceId = deviceId.val → row ∈ stored start.hub ∨
      ∃ event ∈ system.created, IsFor event row.deviceId row.eventId ∧
        decode (UdpMessage.codec skip) (Utf8.bytes row.payload) = .ok event.message := by
  intro system last
  have reading : Reading ActionEngine.handler := fun env stable => keeps_handler stable
  obtain ⟨before,after⟩ := possible_append.mp possible
  obtain ⟨invariant,more⟩ := run_invariant reading plain moves (initial_invariant initial) before
  obtain ⟨-,rest⟩ := run_invariant reading plain later invariant after
  have rows : ∀ row ∈ stored system.hub, row.deviceId = deviceId.val → row ∈ stored start.hub ∨
      ∃ event ∈ system.created, IsFor event row.deviceId row.eventId ∧
        decode (UdpMessage.codec skip) (Utf8.bytes row.payload) = .ok event.message := by
    intro row member own
    rcases invariant.records.rows row member own with old | ⟨event,made,same,written⟩
    · exact .inl old
    · refine .inr ⟨event,made,⟨?_,same⟩,?_⟩
      · rw [own,invariant.numbered.device event made]
      · rw [written]
        exact decode_event (plain_message plain invariant.numbered made)
  refine ⟨invariant.numbered.distinct,fun event _ => ?_,fun call member own => ?_,fun event arrived => ?_,
    more,?_,rows⟩
  · exact length_filter_le_one (fun _ isFor => isFor_key isFor) invariant.records.once
  · obtain ⟨event,made,same,asked⟩ := invariant.records.called call member own
    exact ⟨event,made,⟨own.trans (congrArg Text.val (invariant.numbered.device event made).symm),same⟩,asked⟩
  · obtain ⟨made,row,member,device,same⟩ := invariant.traffic.delivered event arrived
    have ofNode := invariant.numbered.device event made
    have key : (row.deviceId,row.eventId) = (event.deviceId.val,event.eventId.val) := Prod.ext device same
    refine ⟨row,?_,?_⟩
    · exact filter_eq_singleton (fun _ isFor => (isFor_key isFor).trans key.symm) invariant.records.unique member
        (decide_eq_true ⟨device,same⟩)
    · rcases rows row member (device.trans (congrArg Text.val ofNode)) with old | ⟨other,among,⟨-,known⟩,decoded⟩
      · exact absurd same (not_before initial ofNode (invariant.numbered.made event made) old device)
      · have equal : other = event := List.inj_on_of_nodup_map invariant.numbered.distinct among made
          (Text.ext (known.symm.trans same))
        rwa [equal] at decoded
  · change stored system.hub <+: stored (run skip ActionEngine.handler .new deviceId start (moves ++ later)).hub
    rw [run,List.foldl_append]
    exact rest

/-- The small hub, and a node that has never been on. -/
def smallSystem : System ActionEngine where
  bootIds := []
  node := none
  sent := []
  created := []
  delivered := []
  up := true
  hub := {
    database := smallHub.database
    state := smallHub.state
    actionHandler := { handler := .new,calls := [] } }

/-- The node boots and sends an event, whose datagram arrives twice; the first ACK is lost. -/
def twoCopies : List Move := [
  .boot 1 3,.trigger { actionId := 1 },.attempt true true,.receive plainEvent 0 "0" Db.Env.quiet,
  .wait .elapsed true,.receive plainEvent 1 "1" Db.Env.quiet,.attempt true true,
  .wait (.datagram ((UdpMessage.codec fun _ => none).write (.ack firstEvent.deviceId firstEvent.eventId))) false]

theorem delivery_safe_twoCopies :
    let system := run (fun _ => none) ActionEngine.handler .new firstEvent.deviceId smallSystem twoCopies
    system.delivered = [firstEvent] ∧
      ((calls system.hub).filter fun call => IsFor firstEvent call.deviceId call.eventId).length ≤ 1 := by
  intro system
  have alone : Sql.Stable Db.Env.quiet history := Sql.stable_of_alone fun _ => rfl
  have initial : Initial firstEvent.deviceId smallSystem := {
    node := rfl
    sent := rfl
    created := rfl
    delivered := rfl
    idle := rfl
    calls := rfl
    unique := by decide
    rows := fun _ member => absurd member List.not_mem_nil }
  have possible : Possible (fun _ => none) ActionEngine.handler .new firstEvent.deviceId smallSystem
      (twoCopies ++ []) := by
    refine ⟨List.not_mem_nil,trivial,trivial,⟨.inl ?_,alone⟩,trivial,⟨.inl ?_,alone⟩,trivial,.inl ?_,trivial⟩ <;>
      decide +kernel
  have delivered : system.delivered = [firstEvent] := by decide +kernel
  have created : firstEvent ∈ system.created := by decide +kernel
  exact ⟨delivered,(delivery_safe (fun _ => none) firstEvent.deviceId (by decide) smallSystem initial twoCopies []
    possible).2.1 firstEvent created⟩

end UchiPulse.Delivery
