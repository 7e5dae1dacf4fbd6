import Mathlib.Data.Fintype.Defs
import UchiPulse.Delivery.Network
import UchiPulse.Lib.JsonSize

/-! A network of many nodes is, to each of them, a node and the hub alone; and the nodes talk to
nobody but the hub. -/
namespace UchiPulse.Delivery
open Common Json Node Hub Db

section
variable {ι α A E : Type} [DecidableEq ι] {skip : Reader Unit} {handler : ActionHandler A E} {start : A}
  {layout : Layout ι α}

namespace Network
variable {self : Network ι α A} {node other : ι}

/-! ### What a node sees -/

theorem view_other (apart : other ≠ node) (station : Station α) :
    (self.change other station).view node = self.view node := by
  simp only [view,change,Function.update_of_ne apart.symm]

theorem view_own (station : Station α) : (self.change node station).view node =
    { self.view node with
      bootIds := station.bootIds
      node := station.tasks.map (·.sender)
      created := station.created
      delivered := station.delivered } := by
  simp only [view,change,Function.update_self]

theorem view_send (transmissions : List (Transmission ι α)) : (self.send transmissions).view node =
    { self.view node with
      sent := (self.view node).sent ++ (transmissions.filter (Carries node)).map (·.payload) } := by
  simp only [view,send,List.filter_append,List.map_append]

/-- What a node does with its control socket is not part of the view. -/
theorem carries_control (transmissions : List (α × List UInt8)) (source : α) :
    (transmissions.map fun datagram => ({
      origin := .control other,source,target := datagram.1,payload := datagram.2 } : Transmission ι α)).filter
        (Carries node) = [] := by
  refine List.filter_eq_nil_iff.mpr fun transmission among => ?_
  obtain ⟨datagram,-,rfl⟩ := List.mem_map.mp among
  simp [Carries]

theorem carries_own (datagram : Option (List UInt8)) (source target : α) :
    ((datagram.toList.map fun payload => ({
      origin := .event node,source,target,payload } : Transmission ι α)).filter (Carries node)).map (·.payload) =
        datagram.toList := by
  cases datagram <;> simp [Carries]

theorem carries_other (apart : other ≠ node) (datagram : Option (List UInt8)) (source target : α) :
    (datagram.toList.map fun payload => ({
      origin := .event other,source,target,payload } : Transmission ι α)).filter (Carries node) = [] := by
  cases datagram <;> simp [Carries,apart]

theorem view_hub : (self.view node).hub = self.hub := rfl

/-- Nothing is sent to a hub that is not known. -/
theorem attempt_unknown (sender : EventSender) (sends : Bool) : (sender.attempt false sends).1 = none := by
  unfold EventSender.attempt
  split
  · split <;> rfl
  · rfl

theorem view_tasks {tasks : Option (Tasks α)} (found : (self.stations node).tasks = tasks) :
    (self.view node).node = tasks.map (·.sender) := by
  simp only [view,found]

/-- A node without its tasks does nothing. -/
theorem run_off {move : Move} (off : (self.stations node).tasks = none)
    (ofNode : (∃ action, move = .trigger action) ∨ (∃ discovered sends, move = .attempt discovered sends) ∨
      ∃ received deadlineReached, move = .wait received deadlineReached) :
    Delivery.run skip handler start (layout.deviceId node) (self.view node) [move] = self.view node := by
  have none := view_tasks off
  simp only [Delivery.run,List.foldl_cons,List.foldl_nil]
  rcases ofNode with ⟨action,rfl⟩ | ⟨discovered,sends,rfl⟩ | ⟨received,deadlineReached,rfl⟩ <;>
    simp only [Delivery.step,none,Option.map_none]

theorem encoded_helloRequest : encodeHelloRequest helloRequestSize = .ok helloRequest := by
  decide +kernel

/-- A move of the network is what it is to the node and the hub alone. -/
theorem view_step (move : NetworkMove ι α) : (self.step skip handler start layout move).view node =
    Delivery.run skip handler start (layout.deviceId node) (self.view node) (self.moves skip handler node move) := by
  cases move with
  | boot other bootId eventRetryCount now =>
    by_cases same : other = node
    · subst same
      simp only [step,moves,if_true,view_own,Delivery.run,List.foldl_cons,List.foldl_nil,Delivery.step,Option.map_map,
        Function.comp_def,Option.map_id']
      rfl
    · simp only [step,moves,if_neg same,view_other same]
      rfl
  | powerOff other =>
    by_cases same : other = node
    · subst same
      simp only [step,moves,if_true,view_own]
      rfl
    · simp only [step,moves,if_neg same,view_other same]
      rfl
  | trigger other action =>
    by_cases same : other = node
    · subst same
      simp only [moves,if_true]
      cases found : (self.stations other).tasks with
      | none =>
        rw [run_off found (.inl ⟨action,rfl⟩)]
        simp only [step,found]
      | some tasks =>
        have running := view_tasks found
        simp only [step,found,view_own,Delivery.run,List.foldl_cons,List.foldl_nil,Delivery.step,running,Option.map_some]
        rfl
    · simp only [step,moves,if_neg same]
      split
      · rfl
      · rw [view_other same]
        rfl
  | turn other received now =>
    simp only [step,moves]
    split
    · rfl
    next tasks found =>
      rw [view_send,carries_control,List.map_nil,List.append_nil]
      by_cases same : other = node
      · subst same
        rw [view_own]
        simp only [view,found,Delivery.run,List.foldl_nil,Option.map_some]
      · rw [view_other same]
        rfl
  | attempt other sends =>
    by_cases same : other = node
    · subst same
      simp only [moves,if_true]
      cases found : (self.stations other).tasks with
      | none =>
        rw [run_off found (.inr (.inl ⟨_,sends,rfl⟩))]
        simp only [step,found]
      | some tasks =>
        have running := view_tasks found
        simp only [step,found,Delivery.run,List.foldl_cons,List.foldl_nil,Delivery.step,running,Option.map_some,
          Option.any_some]
        cases endpoint : tasks.discovery.hubEndpoint with
        | none =>
          simp only [view_own,Option.isSome_none,attempt_unknown,Option.toList_none,List.append_nil,Option.map_some]
          rfl
        | some target =>
          simp only [view_send,view_own,carries_own,Option.isSome_some,Option.map_some]
          rfl
    · simp only [step,moves,if_neg same]
      split
      · rfl
      · split
        · rw [view_other same]
          rfl
        · rw [view_send,carries_other same,List.map_nil,List.append_nil,view_other same]
          rfl
  | wait other waited deadlineReached =>
    by_cases same : other = node
    · subst same
      simp only [moves,if_true]
      cases found : (self.stations other).tasks with
      | none =>
        rw [run_off found (.inr (.inr ⟨_,deadlineReached,rfl⟩))]
        simp only [step,found]
      | some tasks =>
        have running := view_tasks found
        simp only [step,found,view_own,Delivery.run,List.foldl_cons,List.foldl_nil,Delivery.step,running,Option.map_some]
        rfl
    · simp only [step,moves,if_neg same]
      split
      · rfl
      · rw [view_other same]
        rfl
  | receive transmission now receivedAt env sends =>
    by_cases up : self.up = true
    · have seen : (self.view node).up = true := up
      rcases received : Hub.receive skip handler.recorded transmission.read now receivedAt env self.hub with
        ⟨(_ | payload) | error,hub⟩
      · simp only [step,moves,Delivery.run,List.foldl_cons,List.foldl_nil,Delivery.step,view_hub,if_pos up,if_pos seen,
          received,Option.toList_none,List.append_nil]
        rfl
      · cases sends
        · simp only [step,moves,Delivery.run,List.foldl_cons,List.foldl_nil,Delivery.step,view_hub,if_pos up,if_pos seen,
            received]
          rfl
        · simp only [step,moves,Delivery.run,List.foldl_cons,List.foldl_nil,Delivery.step,view_hub,if_pos up,if_pos seen,
            received,view_send,if_true]
          simp [Carries,view]
      · simp only [step,moves,Delivery.run,List.foldl_cons,List.foldl_nil,Delivery.step,view_hub,if_pos up,if_pos seen,
          received]
        rfl
    · have seen : ¬ (self.view node).up = true := up
      simp only [step,moves,if_neg up]
      split
      · simp only [Delivery.run,List.foldl_cons,List.foldl_nil,Delivery.step,if_neg seen]
      · simp only [Delivery.run,List.foldl_cons,List.foldl_nil,Delivery.step,if_neg seen]
  | crash transmission now receivedAt env called =>
    simp only [step,moves,Delivery.run,List.foldl_cons,List.foldl_nil,Delivery.step]
    by_cases up : self.up = true
    · have seen : (self.view node).up = true := up
      simp only [if_pos up,if_pos seen,view_hub]
      rfl
    · have seen : ¬ (self.view node).up = true := up
      simp only [if_neg up,if_neg seen]
  | quiet now =>
    simp only [step,moves,Delivery.run,List.foldl_cons,List.foldl_nil,Delivery.step]
    by_cases up : self.up = true
    · have seen : (self.view node).up = true := up
      simp only [if_pos up,if_pos seen,view_hub]
      rfl
    · have seen : ¬ (self.view node).up = true := up
      simp only [if_neg up,if_neg seen]
  | stop => rfl
  | restart connection initialWaitStartedAt offlineTimeout env sends =>
    simp only [step,moves,Delivery.run,List.foldl_cons,Delivery.step,view_hub]
    rcases HubUdpProcessor.fromDatabase connection initialWaitStartedAt offlineTimeout
        ({ handler := start,calls := calls self.hub } : Recorded A) env with error | hub
    · cases sends <;> rfl
    · rw [encoded_helloRequest]
      cases sends
      · rfl
      · simp only [view_send]
        simp [Carries,view]
  | speak source target payload =>
    simp only [step,moves,view_send]
    simp [Carries,Delivery.run]

end Network

/-! ### What is on the network -/

/-- Every message fits into the hub's buffer. -/
theorem message_fits (skip : Reader Unit) (message : UdpMessage) :
    ((UdpMessage.codec skip).write message).length ≤ receiveBufferSize := by
  have escaped {n : Nat} (text : Text n) : (Utf8.bytes (escape text.val)).length ≤ 6 * n :=
    (escape_length text.val).trans (Nat.mul_le_mul_left 6 text.fits)
  have device (deviceId : DeviceId) : (Utf8.bytes (escape deviceId.val)).length ≤ 384 := escaped deviceId
  have event (eventId : EventId) : (Utf8.bytes (escape eventId.val)).length ≤ 768 := escaped eventId
  have action (actionId : ActionId) : (writeNat actionId.toNat).length ≤ 10 :=
    writeNat_size _ ▸ natSize_le (by decide) (actionId.toNat_lt.trans (by decide))
  rw [UdpMessage.write_length,receiveBufferSize]
  cases message with
  | hello deviceId => have := device deviceId; simp only; omega
  | heartbeat deviceId => have := device deviceId; simp only; omega
  | event deviceId eventId actionId =>
    have := device deviceId
    have := event eventId
    have := action actionId
    simp only
    omega
  | ack deviceId eventId =>
    have := device deviceId
    have := event eventId
    simp only
    omega

/-- A message with plain identifiers is read as it is, and is no request. -/
theorem plain_read {message : UdpMessage} (plain : message.Plain) :
    decode (UdpMessage.codec skip) ((UdpMessage.codec skip).write message) = .ok message ∧
      isHelloRequest ((UdpMessage.codec skip).write message) = false := by
  have decoded := (UdpMessage.decode_write_self skip message).mpr plain
  exact ⟨decoded,message_or_request skip _ decoded⟩

theorem helloRequest_unread (message : UdpMessage) : decode (UdpMessage.codec skip) helloRequest ≠ .ok message := by
  intro decoded
  have request : isHelloRequest helloRequest = true := by decide +kernel
  rw [message_or_request skip _ decoded] at request
  cases request

section
variable (skip : Reader Unit) (layout : Layout ι α) (transmission : Transmission ι α)

/-- A datagram of a party is sent from its own socket and says who sent it. -/
def Honest : Prop :=
  match transmission.origin with
  | .request => transmission.source = layout.hub ∧ transmission.payload = helloRequest
  | .reply => transmission.source = layout.hub ∧ ∃ deviceId eventId,
      transmission.payload = (UdpMessage.codec skip).write (.ack deviceId eventId)
  | .event node => transmission.source = layout.event node ∧ transmission.target = layout.hub ∧
      ∃ message, (∃ eventId actionId, message = .event (layout.deviceId node) eventId actionId) ∧ message.Plain ∧
        transmission.payload = (UdpMessage.codec skip).write message
  | .control node => transmission.source = layout.control node ∧ transmission.target = layout.hub ∧
      ∃ message, (message = .hello (layout.deviceId node) ∨ message = .heartbeat (layout.deviceId node)) ∧
        transmission.payload = (UdpMessage.codec skip).write message
  | .stranger => Network.Foreign skip layout transmission.payload ∧ Network.Foreign skip layout transmission.read

end

namespace Honest
variable {transmission : Transmission ι α} {node : ι}

omit [DecidableEq ι] in
/-- The hub reads all that the parties send. -/
theorem read (honest : Honest skip layout transmission) (party : transmission.origin ≠ .stranger) :
    transmission.read = transmission.payload := by
  refine List.take_of_length_le ?_
  unfold Honest at honest
  split at honest
  · rw [honest.2]
    decide +kernel
  · obtain ⟨-,deviceId,eventId,written⟩ := honest
    rw [written]
    exact message_fits skip _
  · obtain ⟨-,-,message,-,-,written⟩ := honest
    rw [written]
    exact message_fits skip _
  · obtain ⟨-,-,message,-,written⟩ := honest
    rw [written]
    exact message_fits skip _
  next origin => exact absurd origin party

omit [DecidableEq ι] in
/-- Only the hub asks for the nodes. -/
theorem asks (honest : Honest skip layout transmission) (plain : ∀ node, Plain (layout.deviceId node).val)
    (request : isHelloRequest transmission.payload = true) : transmission.source = layout.hub := by
  unfold Honest at honest
  split at honest
  · exact honest.1
  · exact honest.1
  · obtain ⟨-,-,message,-,known,written⟩ := honest
    rw [written,(plain_read known).2] at request
    cases request
  next sender _ =>
    obtain ⟨-,-,message,kind,written⟩ := honest
    have known : message.Plain := by rcases kind with rfl | rfl <;> exact plain sender
    rw [written,(plain_read known).2] at request
    cases request
  · rw [honest.1.1] at request
    cases request

/-- What a node sees of it, or neither an EVENT nor an ACK of the node. -/
theorem genuine (honest : Honest skip layout transmission) (plain : ∀ node, Plain (layout.deviceId node).val)
    (apart : Function.Injective layout.deviceId) (node : ι) :
    Network.Carries node transmission = true ∨
      (∀ eventId actionId, decode (UdpMessage.codec skip) transmission.payload ≠
        .ok (.event (layout.deviceId node) eventId actionId)) ∧
      ∀ eventId, decode (UdpMessage.codec skip) transmission.payload ≠ .ok (.ack (layout.deviceId node) eventId) := by
  unfold Honest at honest
  split at honest
  · rw [honest.2]
    exact .inr ⟨fun _ _ => helloRequest_unread _,fun _ => helloRequest_unread _⟩
  next origin => exact .inl (by simp [Network.Carries,origin])
  next sender origin =>
    obtain ⟨-,-,message,⟨eventId,actionId,rfl⟩,known,written⟩ := honest
    by_cases own : sender = node
    · exact .inl (by simp [Network.Carries,origin,own])
    · rw [written,(plain_read known).1]
      refine .inr ⟨fun _ _ same => own ?_,fun _ same => by cases same⟩
      exact apart (UdpMessage.event.inj (Except.ok.inj same)).1
  next sender origin =>
    obtain ⟨-,-,message,kind,written⟩ := honest
    have known : message.Plain := by rcases kind with rfl | rfl <;> exact plain sender
    rw [written,(plain_read known).1]
    rcases kind with rfl | rfl
    · exact .inr ⟨fun _ _ same => (by cases same),fun _ same => (by cases same)⟩
    · exact .inr ⟨fun _ _ same => (by cases same),fun _ same => (by cases same)⟩
  · exact .inr (honest.1.2 node)

end Honest

/-! ### Whole runs -/

section
variable (skip : Reader Unit) (layout : Layout ι α)

/-- An EVENT that a reply is for, sent from where the reply goes. -/
def Asked (sent : List (Transmission ι α)) (reply : Transmission ι α) : Prop :=
  ∃ asked ∈ sent, asked.source = reply.target ∧ ∃ deviceId eventId actionId,
    decode (UdpMessage.codec skip) asked.read = .ok (.event deviceId eventId actionId) ∧
      reply.payload = (UdpMessage.codec skip).write (.ack deviceId eventId)

structure Routed (sent : List (Transmission ι α)) : Prop where
  honest : ∀ transmission ∈ sent, Honest skip layout transmission
  asked : ∀ reply ∈ sent, reply.origin = .reply → Asked skip sent reply

/-- The tasks speak for their node, and know of no other hub. -/
structure Tied (node : ι) (tasks : Tasks α) : Prop where
  device : tasks.protocol.deviceId = layout.deviceId node
  hub : ∀ target, tasks.discovery.hubEndpoint = some target → target = layout.hub

/-- What a run keeps, from the network at its start. -/
structure Sound (first network : Network ι α A) : Prop where
  routed : Routed skip layout network.sent
  tied : ∀ node tasks, (network.stations node).tasks = some tasks → Tied layout node tasks
  views : ∀ node,
    Invariant skip (layout.deviceId node) (first.stations node).bootIds (stored first.hub) (network.view node)

end

variable {first self : Network ι α A} {node : ι} {transmission : Transmission ι α}

omit [DecidableEq ι] in
theorem Routed.append {sent new : List (Transmission ι α)} (routed : Routed skip layout sent)
    (added : ∀ transmission ∈ new, Honest skip layout transmission ∧
      (transmission.origin = .reply → Asked skip sent transmission)) : Routed skip layout (sent ++ new) where
  honest transmission among := by
    rcases List.mem_append.mp among with old | last
    · exact routed.honest transmission old
    · exact (added transmission last).1
  asked reply among ofHub := by
    have before : Asked skip sent reply := by
      rcases List.mem_append.mp among with old | last
      · exact routed.asked reply old ofHub
      · exact (added reply last).2 ofHub
    obtain ⟨asked,known,same⟩ := before
    exact ⟨asked,List.mem_append_left _ known,same⟩

theorem Routed.genuine (routed : Routed skip layout self.sent) (plain : ∀ node, Plain (layout.deviceId node).val)
    (apart : Function.Injective layout.deviceId) (among : transmission ∈ self.sent) (node : ι) :
    Genuine skip (layout.deviceId node) (self.view node).sent transmission.payload := by
  rcases (routed.honest transmission among).genuine plain apart node with carried | foreign
  · exact .inl (List.mem_map_of_mem (List.mem_filter.mpr ⟨among,carried⟩))
  · exact .inr foreign

/-- So it is with what the hub reads. -/
theorem Routed.genuine_read (routed : Routed skip layout self.sent) (plain : ∀ node, Plain (layout.deviceId node).val)
    (apart : Function.Injective layout.deviceId) (among : transmission ∈ self.sent) (node : ι) :
    Genuine skip (layout.deviceId node) (self.view node).sent transmission.read := by
  have honest := routed.honest transmission among
  by_cases party : transmission.origin = .stranger
  · unfold Honest at honest
    rw [party] at honest
    exact .inr (honest.2.2 node)
  · rw [honest.read party]
    exact routed.genuine plain apart among node

/-- What may happen on the network may happen to the node and the hub alone. -/
theorem Sound.possible (sound : Sound skip layout first self) (plain : ∀ node, Plain (layout.deviceId node).val)
    (apart : Function.Injective layout.deviceId) (move : NetworkMove ι α) (allowed : self.Allowed skip layout move)
    (node : ι) :
    Delivery.Possible skip handler start (layout.deviceId node) (self.view node) (self.moves skip handler node move) := by
  cases move with
  | boot other bootId eventRetryCount now =>
    simp only [Network.moves]
    split
    next same =>
      subst same
      exact ⟨allowed,trivial⟩
    · trivial
  | powerOff other =>
    simp only [Network.moves]
    split
    · exact ⟨trivial,trivial⟩
    · trivial
  | trigger other action =>
    simp only [Network.moves]
    split
    · exact ⟨trivial,trivial⟩
    · trivial
  | turn other received now => trivial
  | attempt other sends =>
    simp only [Network.moves]
    split
    · exact ⟨trivial,trivial⟩
    · trivial
  | wait other waited deadlineReached =>
    simp only [Network.moves]
    split
    · refine ⟨?_,trivial⟩
      cases waited with
      | arrives transmission =>
        simp only [Waited.received]
        split
        · exact sound.routed.genuine plain apart allowed.1 node
        · trivial
      | failed => trivial
      | elapsed => trivial
    · trivial
  | receive transmission now receivedAt env sends =>
    have genuine := sound.routed.genuine_read plain apart allowed.1 node
    simp only [Network.moves]
    split <;> exact ⟨⟨genuine,allowed.2.2⟩,trivial⟩
  | crash transmission now receivedAt env called =>
    exact ⟨⟨sound.routed.genuine_read plain apart allowed.1 node,allowed.2.2⟩,trivial⟩
  | quiet now => exact ⟨trivial,trivial⟩
  | stop => exact ⟨trivial,trivial⟩
  | restart connection initialWaitStartedAt offlineTimeout env sends =>
    refine ⟨allowed,?_⟩
    cases sends
    · exact ⟨trivial,trivial⟩
    · trivial
  | speak source target payload => trivial

/-! ### The datagrams of a step -/

theorem tied_change (tied : ∀ node tasks, (self.stations node).tasks = some tasks → Tied layout node tasks)
    {other : ι} {station : Station α} (own : ∀ tasks, station.tasks = some tasks → Tied layout other tasks)
    (node : ι) (tasks : Tasks α) (running : ((self.change other station).stations node).tasks = some tasks) :
    Tied layout node tasks := by
  by_cases same : node = other
  · subst same
    simp only [Network.change,Function.update_self] at running
    exact own tasks running
  · simp only [Network.change,Function.update_of_ne same] at running
    exact tied node tasks running

omit [DecidableEq ι] in
/-- A HELLO and a heartbeat go to the hub, which the node learns from a request of the hub. -/
theorem Routed.turn {sent : List (Transmission ι α)} (routed : Routed skip layout sent)
    (plain : ∀ node, Plain (layout.deviceId node).val) {tasks : Tasks α} (tied : Tied layout node tasks)
    {received : Option (Transmission ι α)} (known : ∀ transmission, received = some transmission → transmission ∈ sent)
    (interval now : Nat) :
    let turned := tasks.discovery.turn skip tasks.protocol interval
      (received.map fun transmission => (transmission.source,transmission.payload)) now
    (∀ target, turned.1.hubEndpoint = some target → target = layout.hub) ∧
    ∀ datagram ∈ turned.2, Honest skip layout
      { origin := .control node,source := layout.control node,target := datagram.1,payload := datagram.2 } := by
  intro turned
  have hub : ∀ target, turned.1.hubEndpoint = some target → target = layout.hub := by
    intro target found
    rw [DiscoveryTask.turn_endpoint] at found
    rcases Option.or_eq_some_iff.mp found with asked | ⟨-,old⟩
    · obtain ⟨payload,arrived,request⟩ := DiscoveryTask.asker_eq_some asked
      obtain ⟨transmission,same,rfl,rfl⟩ : ∃ transmission, received = some transmission ∧
          transmission.source = target ∧ transmission.payload = payload := by
        simpa using arrived
      exact (routed.honest transmission (known transmission same)).asks plain request
    · exact tied.hub target old
  refine ⟨hub,?_⟩
  rintro ⟨target,payload⟩ among
  obtain ⟨found,written⟩ := DiscoveryTask.turn_sends among
  refine ⟨rfl,hub target found,?_⟩
  have speaker := tied.device
  rcases written with hello | heartbeat
  · exact ⟨_,.inl (congrArg UdpMessage.hello speaker),hello⟩
  · exact ⟨_,.inr (congrArg UdpMessage.heartbeat speaker),heartbeat⟩

/-- An EVENT goes to the hub. -/
theorem Sound.attempt (sound : Sound skip layout first self) (plain : ∀ node, Plain (layout.deviceId node).val)
    {tasks : Tasks α} (running : (self.stations node).tasks = some tasks) {target : α}
    (found : tasks.discovery.hubEndpoint = some target) {sends : Bool} {payload : List UInt8}
    (sent : (tasks.sender.attempt true sends).1 = some payload) :
    Honest skip layout { origin := .event node,source := layout.event node,target,payload } := by
  obtain ⟨event,busy⟩ := (tasks.sender.attempt_cases true sends).2.2 payload sent
  have numbered := (sound.views node).numbered
  have sender := Network.view_tasks running
  obtain ⟨made,written⟩ := (numbered.running tasks.sender sender).pending event payload busy
  have device := numbered.device event made
  refine ⟨rfl,(sound.tied node tasks running).hub target found,event.message,⟨event.eventId,event.actionId,?_⟩,?_,
    written⟩
  · rw [← device]
    rfl
  · exact plain_message (plain node) numbered made

variable (layout) in
omit [DecidableEq ι] in
/-- A reply goes to where the EVENT came from. -/
theorem reply_asked (known : transmission ∈ self.sent) {payload : List UInt8}
    {now : Nat} {receivedAt : String} {env : Env} {hub : HubUdpProcessor (Recorded A)}
    (replied : Hub.receive skip handler.recorded transmission.read now receivedAt env self.hub =
      (.continues (some payload),hub)) :
    let reply : Transmission ι α := { origin := .reply,source := layout.hub,target := transmission.source,payload }
    Honest skip layout reply ∧ Asked skip self.sent reply := by
  obtain ⟨deviceId,eventId,actionId,decoded,written⟩ := receive_reply replied
  exact ⟨⟨rfl,deviceId,eventId,written⟩,transmission,known,rfl,deviceId,eventId,actionId,decoded,written⟩

/-- What is sent in a step is honest, and the tasks stay tied. -/
theorem Sound.routed_step (sound : Sound skip layout first self) (plain : ∀ node, Plain (layout.deviceId node).val)
    (move : NetworkMove ι α) (allowed : self.Allowed skip layout move) :
    Routed skip layout (self.step skip handler start layout move).sent ∧
    ∀ node tasks, ((self.step skip handler start layout move).stations node).tasks = some tasks →
      Tied layout node tasks := by
  have ⟨routed,tied,views⟩ := sound
  cases move with
  | boot other bootId eventRetryCount now =>
    refine ⟨routed,tied_change tied fun tasks running => ?_⟩
    obtain ⟨sender,booted,rfl⟩ := Option.map_eq_some_iff.mp running
    cases made : EventSender.new (layout.deviceId other).val bootId eventRetryCount with
    | error error =>
      rw [made] at booted
      cases booted
    | ok booting =>
      rw [made] at booted
      cases booted
      exact {
        device := by rw [(EventSender.new_ok made).1]
        hub := fun target found => by cases found }
  | powerOff other => exact ⟨routed,tied_change tied fun tasks running => by cases running⟩
  | trigger other action =>
    simp only [Network.step]
    split
    · exact ⟨routed,tied⟩
    next tasks found =>
      refine ⟨routed,tied_change tied fun next running => ?_⟩
      cases running
      exact ⟨(tied other tasks found).device,(tied other tasks found).hub⟩
  | turn other received now =>
    simp only [Network.step]
    split
    · exact ⟨routed,tied⟩
    next tasks found =>
      have known : ∀ transmission, received = some transmission → transmission ∈ self.sent := by
        rintro transmission rfl
        exact allowed.1
      obtain ⟨hub,datagrams⟩ := routed.turn plain (tied other tasks found) known (layout.interval other) now
      refine ⟨routed.append fun transmission among => ?_,tied_change tied fun next running => ?_⟩
      · obtain ⟨datagram,listed,rfl⟩ := List.mem_map.mp among
        exact ⟨datagrams datagram listed,fun ofHub => by cases ofHub⟩
      · cases running
        exact ⟨(tied other tasks found).device,hub⟩
  | attempt other sends =>
    simp only [Network.step]
    split
    · exact ⟨routed,tied⟩
    next tasks found =>
      have still (sender : EventSender) : Tied layout other { tasks with sender } :=
        ⟨(tied other tasks found).device,(tied other tasks found).hub⟩
      split
      · refine ⟨routed,tied_change tied fun next running => ?_⟩
        cases running
        exact still _
      next target endpoint =>
        refine ⟨routed.append fun transmission among => ?_,tied_change tied fun next running => ?_⟩
        · obtain ⟨payload,sent,rfl⟩ := List.mem_map.mp among
          exact ⟨sound.attempt plain found endpoint (Option.mem_toList.mp sent),fun ofHub => by cases ofHub⟩
        · cases running
          exact still _
  | wait other waited deadlineReached =>
    simp only [Network.step]
    split
    · exact ⟨routed,tied⟩
    next tasks found =>
      refine ⟨routed,tied_change tied fun next running => ?_⟩
      cases running
      exact ⟨(tied other tasks found).device,(tied other tasks found).hub⟩
  | receive transmission now receivedAt env sends =>
    simp only [Network.step]
    split
    · split
      · exact ⟨routed,tied⟩
      next payload hub replied =>
        split
        · refine ⟨routed.append fun reply among => ?_,tied⟩
          rw [List.mem_singleton.mp among]
          have answered := reply_asked layout allowed.1 replied
          exact ⟨answered.1,fun _ => answered.2⟩
        · exact ⟨routed,tied⟩
      · exact ⟨routed,tied⟩
    · exact ⟨routed,tied⟩
  | crash transmission now receivedAt env called =>
    simp only [Network.step]
    split <;> exact ⟨routed,tied⟩
  | quiet now =>
    simp only [Network.step]
    split <;> exact ⟨routed,tied⟩
  | stop => exact ⟨routed,tied⟩
  | restart connection initialWaitStartedAt offlineTimeout env sends =>
    simp only [Network.step,Network.encoded_helloRequest]
    split
    · exact ⟨routed,tied⟩
    · split
      next payload encoded _ =>
        cases encoded
        refine ⟨routed.append fun request among => ?_,tied⟩
        rw [List.mem_singleton.mp among]
        exact ⟨⟨rfl,rfl⟩,fun ofHub => by cases ofHub⟩
      · exact ⟨routed,tied⟩
  | speak source target payload =>
    refine ⟨routed.append fun spoken among => ?_,tied⟩
    rw [List.mem_singleton.mp among]
    exact ⟨allowed,fun ofHub => by cases ofHub⟩

theorem Sound.step (sound : Sound skip layout first self) (reading : Reading handler)
    (plain : ∀ node, Plain (layout.deviceId node).val) (apart : Function.Injective layout.deviceId)
    (move : NetworkMove ι α) (allowed : self.Allowed skip layout move) :
    Sound skip layout first (self.step skip handler start layout move) where
  routed := (sound.routed_step plain move allowed).1
  tied := (sound.routed_step plain move allowed).2
  views node := by
    rw [Network.view_step]
    exact (run_invariant reading (plain node) _ (sound.views node) (sound.possible plain apart move allowed node)).1

theorem Sound.run (sound : Sound skip layout first self) (reading : Reading handler)
    (plain : ∀ node, Plain (layout.deviceId node).val) (apart : Function.Injective layout.deviceId)
    (moves : List (NetworkMove ι α)) (possible : self.Possible skip handler start layout moves) :
    Sound skip layout first (self.run skip handler start layout moves) := by
  induction moves generalizing self with
  | nil => exact sound
  | cons move moves ih => exact ih (sound.step reading plain apart move possible.1) possible.2

/-- The run as a node sees it. -/
theorem Sound.run_view (sound : Sound skip layout first self) (reading : Reading handler)
    (plain : ∀ node, Plain (layout.deviceId node).val) (apart : Function.Injective layout.deviceId)
    (moves : List (NetworkMove ι α)) (possible : self.Possible skip handler start layout moves) (node : ι) :
    ∃ seen, Delivery.Possible skip handler start (layout.deviceId node) (self.view node) seen ∧
      (self.run skip handler start layout moves).view node =
        Delivery.run skip handler start (layout.deviceId node) (self.view node) seen := by
  induction moves generalizing self with
  | nil => exact ⟨[],trivial,rfl⟩
  | cons move moves ih =>
    obtain ⟨allowed,later⟩ := possible
    obtain ⟨seen,more,same⟩ := ih (sound.step reading plain apart move allowed) later
    rw [Network.view_step] at more same
    have now : Delivery.Possible skip handler start (layout.deviceId node) (self.view node)
        (self.moves skip handler node move) := sound.possible plain apart move allowed node
    refine ⟨self.moves skip handler node move ++ seen,possible_append.mpr ⟨now,more⟩,?_⟩
    rw [Delivery.run,List.foldl_append]
    exact same

/-- Only the node itself sends its EVENTs. -/
theorem Honest.event_of_node (honest : Honest skip layout transmission)
    (plain : ∀ node, Plain (layout.deviceId node).val) (apart : Function.Injective layout.deviceId) {eventId : EventId}
    {actionId : ActionId}
    (decoded : decode (UdpMessage.codec skip) transmission.read = .ok (.event (layout.deviceId node) eventId actionId)) :
    transmission.source = layout.event node := by
  by_cases party : transmission.origin = .stranger
  · unfold Honest at honest
    rw [party] at honest
    exact absurd decoded ((honest.2.2 node).1 eventId actionId)
  rw [honest.read party] at decoded
  rcases honest.genuine plain apart node with carried | ⟨noEvent,-⟩
  · unfold Honest at honest
    rcases (by simpa [Network.Carries] using carried : transmission.origin = .reply ∨ transmission.origin = .event node)
      with ofHub | own
    · rw [ofHub] at honest
      obtain ⟨-,device,event,written⟩ := honest
      rw [written] at decoded
      obtain ⟨_,_,same,-⟩ := decode_ack decoded
      cases same
    · rw [own] at honest
      exact honest.1
  · exact absurd decoded (noEvent eventId actionId)

/-- The ACK of an event goes to the node whose event it is, which is stored. -/
theorem Sound.acked (sound : Sound skip layout first self) (plain : ∀ node, Plain (layout.deviceId node).val)
    (apart : Function.Injective layout.deviceId) (among : transmission ∈ self.sent) (ofHub : transmission.origin = .reply)
    {eventId : EventId}
    (decoded : decode (UdpMessage.codec skip) transmission.payload = .ok (.ack (layout.deviceId node) eventId)) :
    transmission.target = layout.event node ∧ ∃ event ∈ (self.stations node).created, event.eventId = eventId ∧
      Known (stored self.hub) (layout.deviceId node) eventId := by
  obtain ⟨numbered,-,traffic⟩ := sound.views node
  obtain ⟨asked,known,source,deviceId,_,actionId,event,written⟩ := sound.routed.asked transmission among ofHub
  have acked := decoded
  rw [written] at decoded
  obtain ⟨_,_,same,deviceText,eventText⟩ := decode_ack decoded
  cases same
  cases plain_text (plain node) deviceText
  obtain ⟨pending,made,rfl,-⟩ := event_of_genuine (plain node) numbered traffic
    (sound.routed.genuine_read plain apart known node) event
  have identifier : Plain pending.eventId.val := (plain_message (plain node) numbered made).2
  cases plain_text (by rwa [eventText,escape_of_plain identifier]) eventText
  have kept := known_of_ack (plain node) numbered traffic (sound.routed.genuine plain apart among node) made acked
  rw [numbered.device pending made] at kept
  refine ⟨?_,pending,made,rfl,kept⟩
  rw [← source]
  exact (sound.routed.honest asked known).event_of_node plain apart event

end

/-- Nothing has been sent, and to each node the network is as it is at the start of a run. -/
theorem sound_initial {ι α A : Type} [DecidableEq ι] (skip : Reader Unit) {layout : Layout ι α}
    {start : Network ι α A} (initial : ∀ node, Initial (layout.deviceId node) (start.view node))
    (quiet : start.sent = []) : Sound skip layout start start where
  routed := by
    rw [quiet]
    exact ⟨fun _ among => absurd among List.not_mem_nil,fun _ among => absurd among List.not_mem_nil⟩
  tied node tasks running := by
    have off := (initial node).node
    rw [Network.view_tasks running] at off
    cases off
  views node := initial_invariant (initial node)

/-- Whatever happens on the network: to each node it is a run of the node and the hub alone. -/
theorem network_refines (skip : Reader Unit) {ι α : Type} [DecidableEq ι] (layout : Layout ι α)
    (plain : ∀ node, Plain (layout.deviceId node).val) (apart : Function.Injective layout.deviceId)
    (start : Network ι α ActionEngine) (initial : ∀ node, Initial (layout.deviceId node) (start.view node))
    (quiet : start.sent = []) (moves : List (NetworkMove ι α))
    (possible : start.Possible skip ActionEngine.handler .new layout moves) (node : ι) :
    ∃ seen, Possible skip ActionEngine.handler .new (layout.deviceId node) (start.view node) seen ∧
      (start.run skip ActionEngine.handler .new layout moves).view node =
        run skip ActionEngine.handler .new (layout.deviceId node) (start.view node) seen :=
  (sound_initial skip initial quiet).run_view (fun _ stable => keeps_handler stable) plain apart moves possible node

/-- Whatever happens on the network: a node sends to the hub only, and the hub acknowledges an event
of the node to that node only, once it is stored. -/
theorem network_routes (skip : Reader Unit) {ι α : Type} [DecidableEq ι] (layout : Layout ι α)
    (plain : ∀ node, Plain (layout.deviceId node).val) (apart : Function.Injective layout.deviceId)
    (start : Network ι α ActionEngine) (initial : ∀ node, Initial (layout.deviceId node) (start.view node))
    (quiet : start.sent = []) (moves : List (NetworkMove ι α))
    (possible : start.Possible skip ActionEngine.handler .new layout moves) :
    let network := start.run skip ActionEngine.handler .new layout moves
    ∀ transmission ∈ network.sent, ∀ node,
      (transmission.origin = .control node ∨ transmission.origin = .event node → transmission.target = layout.hub) ∧
      ∀ eventId, transmission.origin = .reply →
        decode (UdpMessage.codec skip) transmission.payload = .ok (.ack (layout.deviceId node) eventId) →
        transmission.target = layout.event node ∧
          ∃ event ∈ (network.stations node).created, event.eventId = eventId ∧
            Known (stored network.hub) (layout.deviceId node) eventId := by
  intro network transmission among node
  have sound : Sound skip layout start network :=
    (sound_initial skip initial quiet).run (fun _ stable => keeps_handler stable) plain apart moves possible
  refine ⟨fun own => ?_,fun eventId ofHub decoded => sound.acked plain apart among ofHub decoded⟩
  have honest := sound.routed.honest transmission among
  unfold Honest at honest
  rcases own with control | event
  · rw [control] at honest
    exact honest.2.1
  · rw [event] at honest
    exact honest.2.1

def smallLayout : Layout Bool Nat where
  hub := 0
  helloRequestAddr := 1
  control node := if node then 2 else 3
  event node := if node then 4 else 5
  deviceId node := if node then smallDevice else ⟨"m",by decide⟩
  interval _ := 10000

/-- The small hub, and two nodes that have never been on. -/
def smallNetwork : Network Bool Nat ActionEngine where
  stations _ := { bootIds := [],tasks := none,created := [],delivered := [] }
  sent := []
  up := false
  hub := smallSystem.hub

def smallRequest : Transmission Bool Nat :=
  { origin := .request,source := 0,target := 1,payload := helloRequest }

def smallEvent (node : Bool) : Transmission Bool Nat where
  origin := .event node
  source := smallLayout.event node
  target := 0
  payload := (UdpMessage.codec fun _ => none).write { firstEvent with deviceId := smallLayout.deviceId node }.message

def smallAck : Transmission Bool Nat where
  origin := .reply
  source := 0
  target := 4
  payload := (UdpMessage.codec fun _ => none).write (.ack firstEvent.deviceId firstEvent.eventId)

/-- Both nodes send their first event; the hub knows but one of them. -/
def bothSend : List (NetworkMove Bool Nat) := [
  .restart smallHub.database 0 1000 Db.Env.quiet true,.boot true 1 3 0,.boot false 1 3 0,
  .turn true (some smallRequest) 1,.turn false (some smallRequest) 1,
  .trigger true { actionId := 1 },.trigger false { actionId := 1 },.attempt true true,.attempt false true,
  .receive (smallEvent false) 2 "2" Db.Env.quiet true,.receive (smallEvent true) 3 "3" Db.Env.quiet true,
  .wait true (.arrives smallAck) false,.wait false .elapsed true]

theorem bothSend_possible :
    smallNetwork.Possible (fun _ => none) ActionEngine.handler .new smallLayout bothSend := by
  have alone : Sql.Stable Db.Env.quiet history := Sql.stable_of_alone fun _ => rfl
  -- what arrives was sent before
  refine (fun sent : _ ∉ _ ∧ _ ∉ _ ∧ _ ∧ _ ∧ _ ∧ _ ∧ _ =>
    ⟨⟨rfl,rfl,alone⟩,sent.1,sent.2.1,⟨sent.2.2.1,.inr rfl⟩,⟨sent.2.2.2.1,.inr rfl⟩,trivial,trivial,trivial,trivial,⟨sent.2.2.2.2.1,.inl rfl,alone⟩,
    ⟨sent.2.2.2.2.2.1,.inl rfl,alone⟩,⟨sent.2.2.2.2.2.2,rfl⟩,trivial,trivial⟩) ?_
  decide +kernel

theorem smallNetwork_initial (node : Bool) : Initial (smallLayout.deviceId node) (smallNetwork.view node) where
  node := rfl
  sent := rfl
  created := rfl
  delivered := rfl
  idle := rfl
  calls := rfl
  unique := List.nodup_nil
  rows _ member := absurd member List.not_mem_nil

theorem network_refines_bothSend : ∃ seen,
    (run (fun _ => none) ActionEngine.handler .new (smallLayout.deviceId true) (smallNetwork.view true) seen).delivered =
      [firstEvent] := by
  obtain ⟨seen,-,same⟩ := network_refines (fun _ => none) smallLayout (by decide) (by decide) smallNetwork
    smallNetwork_initial rfl bothSend bothSend_possible true
  refine ⟨seen,?_⟩
  rw [← same]
  decide +kernel

/-- Both events have the same identifier, and one of them is acknowledged. -/
theorem network_routes_bothSend :
    let network := smallNetwork.run (fun _ => none) ActionEngine.handler .new smallLayout bothSend
    smallAck ∈ network.sent ∧ ((network.stations false).created.map (·.eventId)) = [firstEventId] ∧
      smallAck.target = smallLayout.event true ∧ Known (stored network.hub) smallDevice firstEventId := by
  have routes := network_routes (fun _ => none) smallLayout (by decide) (by decide) smallNetwork smallNetwork_initial rfl
    bothSend bothSend_possible
  have sent : smallAck ∈ (smallNetwork.run (fun _ => none) ActionEngine.handler .new smallLayout bothSend).sent ∧
      ((smallNetwork.run (fun _ => none) ActionEngine.handler .new smallLayout bothSend).stations false).created.map
        (·.eventId) = [firstEventId] := by decide +kernel
  generalize smallNetwork.run (fun _ => none) ActionEngine.handler .new smallLayout bothSend = network at routes sent ⊢
  have decoded : decode (UdpMessage.codec fun _ => none) smallAck.payload = .ok (.ack smallDevice firstEventId) := by
    decide +kernel
  obtain ⟨target,event,-,-,known⟩ := (routes smallAck sent.1 true).2 firstEventId rfl decoded
  exact ⟨sent.1,sent.2,target,known⟩

end UchiPulse.Delivery
