import UchiPulse.Control.Protocol
import UchiPulse.Control.Requests
import UchiPulse.Management.RequestIds
import UchiPulse.Node.Answers

/-! A session of the control app with a node. The app counts its requests and hands them to
the worker that owns the serial port; the worker writes them and hands back the lines it reads;
the node reads packets and answers. What one of them sends waits until the next one takes it. -/
namespace UchiPulse.Management
open Common Control Json Framing Node Packets

inductive WorkerCommand where
  | send (line : List UInt8)
  | close
deriving DecidableEq

inductive WorkerEvent where
  | opened
  | line (text : String)
  | error (text : String)
  | closed
deriving DecidableEq

/-- Where the worker's loop is, once the port is open. -/
inductive WorkerPhase where
  /-- It takes one command after the other. -/
  | receiving
  | writing (rest : List UInt8)
  | reading
  | ended
deriving DecidableEq

structure CdcSession (S : Type) where
  connected : Bool
  opened : Bool
  requestNumber : UInt64
  /-- The requests that were handed to the worker. -/
  requests : List Request
  /-- The lines that the app has taken. -/
  received : List String
  commands : List WorkerCommand
  events : List WorkerEvent
  worker : WorkerPhase
  decoder : LineDecoder
  /-- The bytes written to the port, and how many of them the node has read. -/
  written : List UInt8
  delivered : Nat
  /-- How many of the node's bytes the worker has read. -/
  taken : Nat
  port : CdcPort S

inductive SessionTurn where
  | sendCommand (command : Command) (params : JsonText)
  | disconnect
  | pollEvents
  | tryRecv
  | write (count : Nat)
  | read (count : Nat)
  | fail (message : String)
  | serve (count : Nat)

/-- The count stops at its largest value. -/
def nextNumber (requestNumber : UInt64) : UInt64 :=
  if requestNumber.toNat + 1 < UInt64.size then requestNumber + 1 else requestNumber

def eventOf : Except String String → WorkerEvent
  | .ok text => .line text
  | .error error => .error error

/-- The lines among some events. -/
def linesIn (events : List WorkerEvent) : List String :=
  events.filterMap fun event =>
    match event with
    | .line text => some text
    | _ => none

def readSize : Nat := 512

section
variable {S ε : Type} (skip : Reader Unit) (device : ConfigStorage S ε) (world : PortWorld)
  (display : List UInt8 → String)

namespace CdcSession

/-- The app counts a request whether or not it can be handed over. -/
def sendCommand (self : CdcSession S) (command : Command) (params : JsonText) : CdcSession S :=
  if self.connected && self.opened then
    let requestNumber := nextNumber self.requestNumber
    match buildRequest command.name params requestNumber with
    | .error _ => { self with requestNumber }
    | .ok line =>
      if self.worker = .ended then { self with requestNumber }
      else { self with
        requestNumber
        requests := self.requests ++ [{ command,params,number := requestNumber }]
        commands := self.commands ++ [.send line] }
  else self

def disconnect (self : CdcSession S) : CdcSession S :=
  if self.connected then
    if self.worker = .ended then { self with connected := false }
    else { self with connected := false,commands := self.commands ++ [.close] }
  else self

def pollEvents (self : CdcSession S) : CdcSession S :=
  if self.connected then { self with
    opened := self.opened || .opened ∈ self.events
    received := self.received ++ linesIn self.events
    events := [] }
  else self

/-- The port is read when there is no command. -/
def tryRecv (self : CdcSession S) : CdcSession S :=
  match self.worker,self.commands with
  | .receiving,[] => { self with worker := .reading }
  | .receiving,.send line :: commands => { self with worker := .writing line,commands }
  | .receiving,.close :: commands => { self with worker := .ended,commands,events := self.events ++ [.closed] }
  | _,_ => self

/-- The next bytes of a line. -/
def write (self : CdcSession S) (count : Nat) : CdcSession S :=
  match self.worker with
  | .writing rest => { self with
      worker := if rest.drop count = [] then .receiving else .writing (rest.drop count)
      written := self.written ++ rest.take count }
  | _ => self

def nextBytes (self : CdcSession S) (count : Nat) : List UInt8 :=
  (self.port.served.packets.flatten.drop self.taken).take (min count readSize)

/-- Nothing is read when the time is over. -/
def read (self : CdcSession S) (count : Nat) : CdcSession S :=
  match self.worker with
  | .reading =>
    let (decoder,lines) := self.decoder.feed display (self.nextBytes count)
    { self with
      worker := .receiving
      decoder
      events := self.events ++ lines.map eventOf
      taken := self.taken + (self.nextBytes count).length }
  | _ => self

def fail (self : CdcSession S) (message : String) : CdcSession S :=
  match self.worker with
  | .writing _ | .reading => { self with worker := .ended,events := self.events ++ [.error message] }
  | _ => self

def nextPacket (self : CdcSession S) (count : Nat) : Packet where
  bytes := (self.written.drop self.delivered).take (min count maxPacketSize)
  fits := by
    rw [List.length_take]
    exact (Nat.min_le_left _ _).trans (Nat.min_le_right _ _)

/-- The node's turn. -/
def serve (self : CdcSession S) (count : Nat) : CdcSession S :=
  { self with
    port := self.port.turn skip device world (.readPacket (self.nextPacket count))
    delivered := self.delivered + (self.nextPacket count).bytes.length }

def turn (self : CdcSession S) : SessionTurn → CdcSession S
  | .sendCommand command params => self.sendCommand command params
  | .disconnect => self.disconnect
  | .pollEvents => self.pollEvents
  | .tryRecv => self.tryRecv
  | .write count => self.write count
  | .read count => self.read display count
  | .fail message => self.fail message
  | .serve count => self.serve skip device world count

def run (self : CdcSession S) (turns : List SessionTurn) : CdcSession S := turns.foldl (turn skip device world display) self

/-- The port has just been opened, by an app that has sent some requests before. -/
def start (handler : NodeCdcHandler S) (requestNumber : UInt64) : CdcSession S where
  connected := true
  opened := false
  requestNumber := requestNumber
  requests := []
  received := []
  commands := []
  events := [.opened]
  worker := .receiving
  decoder := .initial
  written := []
  delivered := 0
  taken := 0
  port := (CdcPort.new handler).turn skip device world .waitConnection

end CdcSession

end

/-! ### The lines of the requests -/

theorem unescaped_of_plain {text : String} (plain : Plain text) : compactText text = unescaped text := by
  rw [compactText_of_plain plain,writeText,escape_of_plain plain]
  rfl

theorem space_nil : Space [] := List.forall_mem_nil _

/-- A request as a line that states its identifier and its command. -/
def askedLine (request : Request) : AskedLine where
  object := {
    members := [entry "version" (writeNat 1),entry "request_id" (unescaped request.id.val),
      entry "command" (unescaped request.commandName.val),entry "params" request.params.bytes]
    closing := []
    space := space_nil
    spaced := by
      simp only [List.forall_mem_cons]
      exact ⟨entry_spaced _ _,entry_spaced _ _,entry_spaced _ _,entry_spaced _ _,nofun⟩
    keys := by
      simp only [List.forall_mem_cons]
      exact ⟨⟨_,entry_named (by decide) _⟩,⟨_,entry_named (by decide) _⟩,⟨_,entry_named (by decide) _⟩,
        ⟨_,entry_named (by decide) _⟩,nofun⟩
    values := by
      simp only [List.forall_mem_cons]
      exact ⟨value_one,value_unescaped request.id_plain,value_unescaped request.command.name_plain,
        request.params.value,nofun⟩ }
  id := request.id
  before := []
  after := []
  plain := request.id_plain
  holds := by
    refine ⟨[_],_,[_,_],rfl,rfl,rfl,?_⟩
    simp only [List.singleton_append,List.forall_mem_cons]
    exact ⟨entry_not_named (by decide) _ (by decide),entry_not_named (by decide) _ (by decide),
      entry_not_named (by decide) _ (by decide),nofun⟩
  spaceBefore := space_nil
  spaceAfter := space_nil
  command := request.commandName
  commandPlain := request.command.name_plain
  asks := by
    refine ⟨[_,_],_,[_],rfl,rfl,rfl,?_⟩
    simp only [List.cons_append,List.nil_append,List.forall_mem_cons]
    exact ⟨entry_not_named (by decide) _ (by decide),entry_not_named (by decide) _ (by decide),
      entry_not_named (by decide) _ (by decide),nofun⟩

theorem askedLine_bytes (request : Request) : (askedLine request).bytes = request.bytes := by
  have member (name : String) (text : List UInt8) : (entry name text).bytes = writeEntry (name,text) := by
    simp [entry,Member.bytes,Padded.bytes,writeEntry]
  have identifier := unescaped_of_plain request.id_plain
  have command := unescaped_of_plain request.command.name_plain
  have version : cdcProtocolVersion.toNat = 1 := rfl
  simp only [Request.bytes,Request.text,requestObject,IdentifiedLine.bytes,IdentifiedLine.text,askedLine,
    ObjectText.bytes,writeObject,writeItems,writeRest,List.flatMap_cons,List.flatMap_nil,member,identifier,version,
    List.nil_append,List.append_nil]
  rw [show compactText request.commandName.val = unescaped request.commandName.val from command]
  rfl

theorem request_free (request : Request) : lineFeed ∉ request.text := request.oneLine.2

/-- A request is long enough for the node's queue. -/
theorem request_long (request : Request) : maxPacketSize ≤ maxCdcQueuedLines * (request.text.length + 1) := by
  have keys : ["version","request_id","command","params"].map String.utf8ByteSize = [7,10,7,6] := rfl
  simp only [List.map_cons,List.map_nil,List.cons.injEq,and_true] at keys
  obtain ⟨version,requestId,command,params⟩ := keys
  simp only [Request.text,requestObject,writeObject_size,objectSize,arraySize,List.map_cons,List.map_nil,
    List.sum_cons,List.sum_nil,version,requestId,command,params,maxPacketSize,maxCdcQueuedLines]
  omega

/-- The bytes of some requests. -/
def requestBytes (requests : List Request) : List UInt8 := requests.flatMap Request.bytes

theorem segments_requests (requests : List Request) : segments lineFeed (requestBytes requests) = requests.map Request.text := by
  induction requests with
  | nil => rfl
  | cons request requests ih =>
    rw [requestBytes,List.flatMap_cons,Request.bytes,List.append_assoc,List.singleton_append,
      segments_line (request_free request)]
    exact congrArg _ ih

theorem requests_long (requests : List Request) : LongLines (requestBytes requests) := by
  intro segment among
  rw [segments_requests] at among
  obtain ⟨request,-,rfl⟩ := List.mem_map.mp among
  exact request_long request

/-- The requests that fit into the node's line. -/
def shortRequests (requests : List Request) : List Request :=
  requests.filter fun request => request.bytes.length ≤ Node.maxCdcLineSize

/-- The lines that are complete in the front of the requests. -/
theorem linesOf_requests {requests : List Request} {front back : List UInt8}
    (split : requestBytes requests = front ++ back) : ∃ count,
      CdcLineParser.linesOf (Framing.feed (Frame.push lineFeed Node.maxCdcLineSize) Frame.start front).2 =
        ((shortRequests (requests.take count)).map askedLine).map (·.bytes) ∧
      (back = [] → requests.take count = requests) := by
  have among := segments_requests requests
  rw [split,segments_append] at among
  have first : segments lineFeed front <+: requests.map Request.text := by
    rw [← among]
    split
    · exact List.prefix_rfl
    · exact List.prefix_append _ _
  obtain ⟨count,complete⟩ : ∃ count, segments lineFeed front = (requests.take count).map Request.text := by
    refine ⟨(segments lineFeed front).length,?_⟩
    rw [List.map_take]
    exact List.prefix_iff_eq_take.mp first
  refine ⟨count,?_,fun whole => ?_⟩
  · rw [CdcLineParser.linesOf_stream,complete,List.map_map,List.map_map,List.filter_map]
    simp only [shortRequests,Function.comp_def,askedLine_bytes,Request.bytes]
    rfl
  · rw [whole,List.append_nil] at split
    rw [← split,segments_requests] at complete
    have size := congrArg List.length complete
    rw [List.length_map,List.length_map,List.length_take] at size
    exact List.take_of_length_le (by omega)

/-! ### The responses as lines -/

/-- What the worker hands on, if all of it is lines. -/
theorem linesIn_ok {lines : List (Except String String)} (ok : ∀ line ∈ lines, ∃ text, line = .ok text) :
    (linesIn (lines.map eventOf)).map .ok = lines := by
  induction lines with
  | nil => rfl
  | cons line lines ih =>
    obtain ⟨⟨text,rfl⟩,others⟩ := List.forall_mem_cons.mp ok
    exact congrArg _ (ih others)

theorem linesIn_append (first second : List WorkerEvent) :
    linesIn (first ++ second) = linesIn first ++ linesIn second :=
  List.filterMap_append

/-- A response of the node, as the control app's decoder takes it. -/
def ResponseLine (response : List UInt8) : Prop :=
  ∃ text : String, response = Utf8.bytes text ++ [lineFeed] ∧ lineFeed ∉ Utf8.bytes text ∧
    (Utf8.bytes text).getLast? ≠ some 13 ∧ (Utf8.bytes text).length < Control.maxCdcLineSize

theorem write_getLast (skip : Reader Unit) (response : CdcResponse NodeCdcData) :
    (response.write (NodeCdcData.write skip)).getLast? ≠ some 13 := by
  have brace : (response.write (NodeCdcData.write skip)).getLast? = some closeBrace := List.getLast?_concat ..
  rw [brace]
  decide

theorem responseLine_answers {skip : Reader Unit} {id : RequestId} {response : List UInt8}
    (answers : Answers (CdcResponse.write (NodeCdcData.write skip)) id response)
    (fits : response.length ≤ Node.maxCdcLineSize) : ResponseLine response := by
  obtain ⟨written,rfl,⟨⟨text,decoded⟩,free⟩,-⟩ := answers
  have bytes := Utf8.decode_eq_some.mp decoded
  have last := write_getLast skip written
  rw [← bytes] at free last fits ⊢
  rw [List.length_append,List.length_singleton] at fits
  exact ⟨text,rfl,free,last,Nat.lt_of_lt_of_le fits (by decide)⟩

section
variable {display : List UInt8 → String}

variable (display) in
/-- One response after the other comes out as it is. -/
theorem feed_responses {responses : List (List UInt8)} (readable : ∀ response ∈ responses, ResponseLine response) :
    ∃ texts : List String, LineDecoder.initial.feed display responses.flatten = (.initial,texts.map .ok) ∧
      texts.map (Utf8.bytes · ++ [lineFeed]) = responses := by
  induction responses with
  | nil => exact ⟨[],rfl,rfl⟩
  | cons response responses ih =>
    obtain ⟨⟨text,rfl,free,ending,fits⟩,others⟩ := List.forall_mem_cons.mp readable
    obtain ⟨texts,fed,same⟩ := ih others
    have first := @LineDecoder.feedAll_line display [Utf8.bytes text ++ [lineFeed]] (Utf8.bytes text) free
      (List.flatten_singleton)
    rw [LineDecoder.feedAll,Framing.feedAll_eq,List.flatten_singleton,if_pos fits,stripSuffix,if_neg ending,
      responseText,Utf8.decode_bytes] at first
    refine ⟨text :: texts,?_,congrArg _ same⟩
    rw [List.flatten_cons,LineDecoder.feed,Framing.feed_append,first]
    exact congrArg (fun rest => (rest.1,_ :: rest.2)) fed

variable (display) in
/-- The front of the responses comes out as the first of them. -/
theorem feed_front {responses : List (List UInt8)} (readable : ∀ response ∈ responses, ResponseLine response)
    {front back : List UInt8} (split : responses.flatten = front ++ back) :
    (∀ line ∈ (LineDecoder.initial.feed display front).2, ∃ text, line = .ok text) ∧
    ∀ texts : List String, (LineDecoder.initial.feed display front).2 = texts.map .ok →
      texts.map (Utf8.bytes · ++ [lineFeed]) <+: responses := by
  obtain ⟨all,fed,same⟩ := feed_responses display readable
  rw [split,LineDecoder.feed,Framing.feed_append] at fed
  have outputs : (LineDecoder.initial.feed display front).2 <+: all.map .ok := by
    rw [← (Prod.mk.inj fed).2]
    exact List.prefix_append _ _
  constructor
  · intro line among
    obtain ⟨text,-,rfl⟩ := List.mem_map.mp (outputs.subset among)
    exact ⟨text,rfl⟩
  · intro texts found
    rw [found] at outputs
    have inj : Function.Injective (Except.ok : String → Except String String) := fun _ _ => Except.ok.inj
    have first : texts <+: all := (List.prefix_map_iff_of_injective inj).mp outputs
    rw [← same]
    exact first.map _

end

/-! ### The invariant -/

/-- What a command brings to the port. -/
def WorkerCommand.bytes : WorkerCommand → List UInt8
  | .send line => line
  | .close => []

def WorkerPhase.rest : WorkerPhase → List UInt8
  | .writing rest => rest
  | _ => []

section
variable {S ε : Type} {skip : Reader Unit} {device : ConfigStorage S ε} {world : PortWorld}
  {display : List UInt8 → String} {handler : NodeCdcHandler S} {session : CdcSession S}

/-- The numbers of the requests grow, unless the count has come to its end. -/
structure Numbered (session : CdcSession S) : Prop where
  below : ∀ request ∈ session.requests, request.number.toNat ≤ session.requestNumber.toNat
  grow : session.requestNumber.toNat + 1 < UInt64.size →
    (session.requests.map (·.number.toNat)).Pairwise (· < ·)

/-- Nothing is lost between the app, the worker and the node, and nothing is out of order. -/
structure Linked (skip : Reader Unit) (device : ConfigStorage S ε) (world : PortWorld) (display : List UInt8 → String)
    (handler : NodeCdcHandler S) (session : CdcSession S) : Prop where
  outgoing : session.worker ≠ .ended → session.written ++ session.worker.rest ++
    session.commands.flatMap WorkerCommand.bytes = requestBytes session.requests
  front : session.written <+: requestBytes session.requests
  delivered : session.delivered ≤ session.written.length
  reads : CdcPort.Reads (Served.new handler) (session.written.take session.delivered) session.port skip device world
  taken : session.taken ≤ session.port.served.packets.flatten.length
  decoded : LineDecoder.initial.feed display (session.port.served.packets.flatten.take session.taken) =
    (session.decoder,(session.received ++ linesIn session.events).map .ok)
  numbers : Numbered session

theorem nextNumber_cases (requestNumber : UInt64) :
    (requestNumber.toNat + 1 < UInt64.size ∧ (nextNumber requestNumber).toNat = requestNumber.toNat + 1) ∨
      (UInt64.size ≤ requestNumber.toNat + 1 ∧ nextNumber requestNumber = requestNumber) := by
  unfold nextNumber
  split
  next more =>
    refine .inl ⟨more,?_⟩
    simp only [UInt64.toNat_add,UInt64.toNat_one]
    exact Nat.mod_eq_of_lt more
  next full => exact .inr ⟨Nat.not_lt.mp full,rfl⟩

/-- The next number is larger than those before, as long as the count goes on. -/
theorem Numbered.send (numbers : Numbered session) (command : Command) (params : JsonText) {after : CdcSession S}
    (requestNumber : after.requestNumber = nextNumber session.requestNumber)
    (requests : after.requests = session.requests ∨
      after.requests = session.requests ++ [{ command,params,number := nextNumber session.requestNumber }]) :
    Numbered after := by
  have size := (nextNumber session.requestNumber).toNat_lt
  have limit : UInt64.size = 2 ^ 64 := rfl
  constructor
  · intro request among
    rw [requestNumber]
    have old (among : request ∈ session.requests) :
        request.number.toNat ≤ (nextNumber session.requestNumber).toNat := by
      have before := numbers.below request among
      rcases nextNumber_cases session.requestNumber with ⟨-,more⟩ | ⟨-,same⟩
      · omega
      · rwa [same]
    rcases requests with same | more
    · exact old (same ▸ among)
    · rw [more,List.mem_append,List.mem_singleton] at among
      rcases among with before | rfl
      · exact old before
      · exact Nat.le_refl _
  · intro goesOn
    rw [requestNumber] at goesOn
    rcases nextNumber_cases session.requestNumber with ⟨less,more⟩ | ⟨full,same⟩
    · rcases requests with same | added
      · rw [same]
        exact numbers.grow less
      · rw [added,List.map_append,List.pairwise_append]
        refine ⟨numbers.grow less,List.pairwise_singleton _ _,fun number before other last => ?_⟩
        obtain ⟨request,among,rfl⟩ := List.mem_map.mp before
        rw [List.map_singleton,List.mem_singleton] at last
        have below := numbers.below request among
        rw [last]
        change request.number.toNat < (nextNumber session.requestNumber).toNat
        omega
    · rw [same] at goesOn
      omega

/-! ### The node's side -/

/-- What the node has served are the first of the short requests. -/
theorem Linked.served (linked : Linked skip device world display handler session) : ∃ count,
    session.port.served = (Served.new handler).all skip device world
      (((shortRequests (session.requests.take count)).map askedLine).map (·.bytes)) := by
  obtain ⟨back,split⟩ := linked.front
  have parts : requestBytes session.requests =
      session.written.take session.delivered ++ (session.written.drop session.delivered ++ back) := by
    rw [← List.append_assoc,List.take_append_drop,split]
  obtain ⟨count,lines,-⟩ := linesOf_requests parts
  exact ⟨count,by rw [linked.reads.served,lines]⟩

theorem Linked.readable (skips : Skips skip) (linked : Linked skip device world display handler session) :
    ∀ response ∈ session.port.served.responses, ResponseLine response := by
  obtain ⟨count,served⟩ := linked.served
  obtain ⟨handled,answered,responses,answering⟩ := (Served.new handler).answering skips device world
    ((shortRequests (session.requests.take count)).map askedLine)
  rw [← served] at answering
  have written : session.port.served.responses = responses := answering.written
  rw [written]
  intro response among
  obtain ⟨line,-,answers,fits⟩ := forall₂_right answering.answers among
  exact responseLine_answers answers fits

/-- The node's bytes are its responses. -/
theorem Linked.flatten (always : ∀ line packet, world.writable line packet = true)
    (linked : Linked skip device world display handler session) :
    session.port.served.packets.flatten = session.port.served.responses.flatten := by
  have written : session.port.served.packets = packetsOf session.port.served.responses := by
    rw [linked.reads.served]
    exact Served.all_keeps (fun served => served.packets = packetsOf served.responses)
      (fun _ line => Served.next_written always line) rfl _
  rw [written]
  exact flatten_messages (by decide) _

/-! ### One turn -/

theorem linked_start (skip : Reader Unit) (device : ConfigStorage S ε) (world : PortWorld)
    (display : List UInt8 → String) (handler : NodeCdcHandler S) (requestNumber : UInt64) :
    Linked skip device world display handler (.start skip device world handler requestNumber) where
  outgoing _ := rfl
  front := List.prefix_rfl
  delivered := Nat.le_refl 0
  reads := (CdcPort.closed_new handler).opened skip device world [] (by decide)
  taken := Nat.zero_le _
  decoded := rfl
  numbers := ⟨List.forall_mem_nil _,fun _ => List.Pairwise.nil⟩

theorem Linked.sendCommand (linked : Linked skip device world display handler session) (command : Command)
    (params : JsonText) : Linked skip device world display handler (session.sendCommand command params) := by
  unfold CdcSession.sendCommand
  split
  next =>
    simp only [buildRequest_eq { command,params,number := nextNumber session.requestNumber : Request }]
    split
    next => exact { linked with numbers := linked.numbers.send command params rfl (.inl rfl) }
    next running =>
      have bytes : requestBytes (session.requests ++
          [{ command,params,number := nextNumber session.requestNumber }]) = requestBytes session.requests ++
            Request.bytes { command,params,number := nextNumber session.requestNumber } := by
        rw [requestBytes,List.flatMap_append,List.flatMap_singleton]
        rfl
      refine { linked with
        outgoing := fun _ => ?_, front := ?_, numbers := linked.numbers.send command params rfl (.inr rfl) }
      · rw [bytes,← linked.outgoing running,List.flatMap_append,List.flatMap_singleton]
        exact (List.append_assoc _ _ _).symm
      · rw [bytes]
        exact linked.front.trans (List.prefix_append _ _)
  next => exact linked

theorem Linked.disconnect (linked : Linked skip device world display handler session) :
    Linked skip device world display handler session.disconnect := by
  unfold CdcSession.disconnect
  split
  · split
    · exact { linked with numbers := ⟨linked.numbers.below,linked.numbers.grow⟩ }
    next running =>
      refine { linked with outgoing := fun _ => ?_, numbers := ⟨linked.numbers.below,linked.numbers.grow⟩ }
      rw [← linked.outgoing running,List.flatMap_append,List.flatMap_singleton]
      exact congrArg _ (List.append_nil _)
  · exact linked

theorem Linked.pollEvents (linked : Linked skip device world display handler session) :
    Linked skip device world display handler session.pollEvents := by
  unfold CdcSession.pollEvents
  split
  · refine { linked with decoded := ?_, numbers := ⟨linked.numbers.below,linked.numbers.grow⟩ }
    change _ = (session.decoder,(session.received ++ linesIn session.events ++ []).map Except.ok)
    rw [List.append_nil]
    exact linked.decoded
  · exact linked

theorem Linked.tryRecv (linked : Linked skip device world display handler session) :
    Linked skip device world display handler session.tryRecv := by
  have outgoing := linked.outgoing
  have numbers : Numbered session := linked.numbers
  unfold CdcSession.tryRecv
  split
  next running nothing =>
    rw [running] at outgoing
    exact { linked with outgoing := fun _ => outgoing (by decide), numbers := ⟨numbers.below,numbers.grow⟩ }
  next line commands running first =>
    rw [running,first,List.flatMap_cons,← List.append_assoc] at outgoing
    refine { linked with outgoing := fun _ => ?_, numbers := ⟨numbers.below,numbers.grow⟩ }
    rw [← outgoing (by decide)]
    exact congrArg (· ++ line ++ _) (List.append_nil _).symm
  next commands running first =>
    refine { linked with
      outgoing := fun running => absurd rfl running, decoded := ?_, numbers := ⟨numbers.below,numbers.grow⟩ }
    rw [linesIn_append,show linesIn [_] = [] from rfl,List.append_nil]
    exact linked.decoded
  next => exact linked

theorem Linked.write (linked : Linked skip device world display handler session) (count : Nat) :
    Linked skip device world display handler (session.write count) := by
  have outgoing := linked.outgoing
  unfold CdcSession.write
  split
  next rest busy =>
    rw [busy] at outgoing
    have all := outgoing (by nofun)
    have phase : (if rest.drop count = [] then WorkerPhase.receiving else .writing (rest.drop count)).rest =
        rest.drop count := by
      split
      next ended => exact ended.symm
      next => rfl
    have parts : session.written ++ rest.take count ++ (rest.drop count ++ session.commands.flatMap WorkerCommand.bytes) =
        requestBytes session.requests := by
      rw [← all,List.append_assoc,← List.append_assoc (rest.take count),List.take_append_drop,← List.append_assoc]
      rfl
    refine { linked with
      outgoing := fun _ => ?_, front := ?_, delivered := ?_, reads := ?_,
      numbers := ⟨linked.numbers.below,linked.numbers.grow⟩ }
    · change _ ++ _ ++ (if rest.drop count = [] then WorkerPhase.receiving else .writing (rest.drop count)).rest ++ _ = _
      rw [phase,List.append_assoc,parts]
    · exact ⟨_,parts⟩
    · rw [List.length_append]
      exact linked.delivered.trans (Nat.le_add_right _ _)
    · rw [List.take_append_of_le_length linked.delivered]
      exact linked.reads
  next => exact linked

theorem Linked.fail (linked : Linked skip device world display handler session) (message : String) :
    Linked skip device world display handler (session.fail message) := by
  have ended : Linked skip device world display handler
      { session with worker := .ended,events := session.events ++ [.error message] } := by
    refine { linked with
      outgoing := fun running => absurd rfl running, decoded := ?_,
      numbers := ⟨linked.numbers.below,linked.numbers.grow⟩ }
    rw [linesIn_append,show linesIn [_] = [] from rfl,List.append_nil]
    exact linked.decoded
  unfold CdcSession.fail
  split
  · exact ended
  · exact ended
  · exact linked

/-- What the worker reads are lines of the responses. -/
theorem Linked.read (skips : Skips skip) (always : ∀ line packet, world.writable line packet = true)
    (linked : Linked skip device world display handler session) (count : Nat) :
    Linked skip device world display handler (session.read display count) := by
  unfold CdcSession.read
  split
  next reading =>
    have outgoing := linked.outgoing
    rw [reading] at outgoing
    obtain ⟨bytes,chosen⟩ : ∃ bytes, session.nextBytes count = bytes := ⟨_,rfl⟩
    rw [chosen]
    rw [CdcSession.nextBytes] at chosen
    have exactly : session.port.served.packets.flatten.take (session.taken + bytes.length) =
        session.port.served.packets.flatten.take session.taken ++ bytes := by
      rw [List.take_add,← chosen]
      congr 1
      exact List.take_eq_take_iff.mpr (by simp)
    have fed : LineDecoder.initial.feed display (session.port.served.packets.flatten.take (session.taken + bytes.length)) =
        ((session.decoder.feed display bytes).1,
          (session.received ++ linesIn session.events).map .ok ++ (session.decoder.feed display bytes).2) := by
      rw [exactly,LineDecoder.feed,Framing.feed_append]
      have before := linked.decoded
      rw [LineDecoder.feed] at before
      rw [before]
    have split : session.port.served.responses.flatten =
        session.port.served.packets.flatten.take (session.taken + bytes.length) ++
          session.port.served.packets.flatten.drop (session.taken + bytes.length) := by
      rw [List.take_append_drop,linked.flatten always]
    have ok := (feed_front display (linked.readable skips) split).1
    rw [fed] at ok
    have lines := linesIn_ok fun line among => ok line (List.mem_append_right _ among)
    have room : session.taken + bytes.length ≤ session.port.served.packets.flatten.length := by
      have bound := linked.taken
      rw [← chosen,List.length_take,List.length_drop]
      omega
    have all : LineDecoder.initial.feed display (session.port.served.packets.flatten.take (session.taken + bytes.length)) =
        ((session.decoder.feed display bytes).1,
          (session.received ++ linesIn (session.events ++ (session.decoder.feed display bytes).2.map eventOf)).map .ok) := by
      have more : (session.received ++ linesIn session.events ++
          linesIn ((session.decoder.feed display bytes).2.map eventOf)).map Except.ok =
            (session.received ++ linesIn session.events).map Except.ok ++ (session.decoder.feed display bytes).2 := by
        rw [List.map_append,lines]
      rw [fed,linesIn_append,← List.append_assoc,more]
    exact { linked with
      outgoing := fun _ => outgoing (by decide)
      taken := room
      decoded := all
      numbers := ⟨linked.numbers.below,linked.numbers.grow⟩ }
  next => exact linked

/-- A packet brings the node further along the requests. -/
theorem Linked.serve (linked : Linked skip device world display handler session) (count : Nat) :
    Linked skip device world display handler (session.serve skip device world count) := by
  unfold CdcSession.serve
  obtain ⟨⟨bytes,fits⟩,same⟩ : ∃ packet, session.nextPacket count = packet := ⟨_,rfl⟩
  have chosen : (session.written.drop session.delivered).take (min count maxPacketSize) = bytes :=
    congrArg Packet.bytes same
  rw [same]
  have exactly : session.written.take (session.delivered + bytes.length) =
      session.written.take session.delivered ++ bytes := by
    rw [List.take_add,← chosen]
    congr 1
    exact List.take_eq_take_iff.mpr (by simp)
  have room : session.delivered + bytes.length ≤ session.written.length := by
    have bound := linked.delivered
    rw [← chosen,List.length_take,List.length_drop]
    omega
  obtain ⟨back,split⟩ := linked.front
  have long : LongLines (session.written.take session.delivered ++ bytes ++
      (session.written.drop (session.delivered + bytes.length) ++ back)) := by
    rw [← exactly,← List.append_assoc,List.take_append_drop,split]
    exact requests_long _
  have reads := linked.reads.readPacket ⟨bytes,fits⟩ (LongLines.count_le _ ⟨bytes,fits⟩ _ long)
  obtain ⟨more,grown⟩ := session.port.turn_packets skip device world ⟨bytes,fits⟩
  have front : (session.port.turn skip device world (.readPacket ⟨bytes,fits⟩)).served.packets.flatten =
      session.port.served.packets.flatten ++ more.flatten := by
    rw [← grown,List.flatten_append]
  refine { linked with
    delivered := ?_, reads := ?_, taken := ?_, decoded := ?_,
    numbers := ⟨linked.numbers.below,linked.numbers.grow⟩ }
  · exact room
  · rw [exactly]
    exact reads
  · rw [front,List.length_append]
    exact linked.taken.trans (Nat.le_add_right _ _)
  · rw [front,List.take_append_of_le_length linked.taken]
    exact linked.decoded

theorem Linked.turn (skips : Skips skip) (always : ∀ line packet, world.writable line packet = true)
    (linked : Linked skip device world display handler session) (turn : SessionTurn) :
    Linked skip device world display handler (session.turn skip device world display turn) := by
  cases turn with
  | sendCommand command params => exact linked.sendCommand command params
  | disconnect => exact linked.disconnect
  | pollEvents => exact linked.pollEvents
  | tryRecv => exact linked.tryRecv
  | write count => exact linked.write count
  | read count => exact linked.read skips always count
  | fail message => exact linked.fail message
  | serve count => exact linked.serve count

theorem Linked.run (skips : Skips skip) (always : ∀ line packet, world.writable line packet = true)
    (linked : Linked skip device world display handler session) (turns : List SessionTurn) :
    Linked skip device world display handler (session.run skip device world display turns) := by
  induction turns generalizing session with
  | nil => exact linked
  | cons turn turns ih => exact ih (linked.turn skips always turn)

/-! ### The requests and what the app has of them -/

theorem forall₂_left {α β : Type} {related : α → β → Prop} {first : List α} {second : List β}
    (all : List.Forall₂ related first second) {item : α} (among : item ∈ first) : ∃ other ∈ second, related item other :=
  forall₂_right all.flip among

/-- Nothing is under way, and the node runs. -/
structure Settled (session : CdcSession S) : Prop where
  commands : session.commands = []
  idle : session.worker ≠ .ended ∧ session.worker.rest = []
  delivered : session.delivered = session.written.length
  taken : session.taken = session.port.served.packets.flatten.length
  events : session.events = []
  running : session.port.served.rebooting = false

/-- When nothing is under way, the node has seen all requests. -/
theorem Linked.served_settled (linked : Linked skip device world display handler session) (settled : Settled session) :
    session.port.served = (Served.new handler).all skip device world
      (((shortRequests session.requests).map askedLine).map (·.bytes)) := by
  have whole := linked.outgoing settled.idle.1
  rw [settled.idle.2,settled.commands,List.append_nil,List.flatMap_nil,List.append_nil] at whole
  have parts : requestBytes session.requests = session.written.take session.delivered ++ [] := by
    rw [settled.delivered,List.take_length,List.append_nil,whole]
  obtain ⟨count,lines,all⟩ := linesOf_requests parts
  rw [linked.reads.served,lines,all rfl]

theorem Numbered.distinct (numbers : Numbered session) (goesOn : session.requestNumber.toNat + 1 < UInt64.size) :
    (session.requests.map Request.id).Nodup := by
  refine List.pairwise_map.mpr ((List.pairwise_map.mp (numbers.grow goesOn)).imp fun {first second} less same => ?_)
  have texts : requestIdText first.number = requestIdText second.number := congrArg Text.val same
  rw [requestIdText_inj texts] at less
  exact Nat.lt_irrefl _ less

theorem Linked.received (skips : Skips skip) (always : ∀ line packet, world.writable line packet = true)
    (linked : Linked skip device world display handler session) :
    session.received.map (Utf8.bytes · ++ [lineFeed]) <+: session.port.served.responses ∧
      (Settled session → session.received.map (Utf8.bytes · ++ [lineFeed]) = session.port.served.responses) := by
  have readable := linked.readable skips
  have bytes := linked.flatten always
  constructor
  · have split : session.port.served.responses.flatten = session.port.served.packets.flatten.take session.taken ++
        session.port.served.packets.flatten.drop session.taken := by
      rw [List.take_append_drop,bytes]
    have front := (feed_front display readable split).2 _ (congrArg Prod.snd linked.decoded)
    rw [List.map_append] at front
    exact (List.prefix_append _ _).trans front
  · intro settled
    have decoded := linked.decoded
    rw [settled.taken,List.take_length,settled.events,bytes] at decoded
    obtain ⟨texts,fed,same⟩ := feed_responses display readable
    rw [decoded] at fed
    have inj : Function.Injective (Except.ok : String → Except String String) := fun _ _ => Except.ok.inj
    have all := List.map_injective_iff.mpr inj (Prod.mk.inj fed).2
    rw [← same,← all]
    exact congrArg _ (List.append_nil _).symm

end

/-- Whatever the app, the worker and the node do in between, the node handles the requests that
fit into its line once and in their order; each response is the answer to one of them, and only
`get_config` may have none; the app takes the responses in their order, under identifiers that
do not repeat until the count is full; and when nothing is under way it has all of them. -/
theorem requests_answered {S ε : Type} {skip : Reader Unit} (skips : Skips skip) (device : ConfigStorage S ε)
    {world : PortWorld} (always : ∀ line packet, world.writable line packet = true) (display : List UInt8 → String)
    (handler : NodeCdcHandler S) (requestNumber : UInt64) (turns : List SessionTurn) :
    let session := (CdcSession.start skip device world handler requestNumber).run skip device world display turns
    let served := session.port.served
    let answers (request : Request) := Answers (CdcResponse.write (NodeCdcData.write skip)) request.id
    ∃ handled answered : List Request,
      (handled <+: shortRequests session.requests ∧ served.lines = handled.map Request.bytes) ∧
      (answered.Sublist handled ∧ List.Forall₂ answers answered served.responses ∧
        ∀ request ∈ handled, request.command ≠ .getConfig → ∃ response ∈ served.responses, answers request response) ∧
      session.received.map (Utf8.bytes · ++ [lineFeed]) <+: served.responses ∧
      (session.requestNumber.toNat + 1 < UInt64.size → (session.requests.map Request.id).Nodup) ∧
      (Settled session → handled = shortRequests session.requests ∧
        session.received.map (Utf8.bytes · ++ [lineFeed]) = served.responses) := by
  intro session served answers
  have linked : Linked skip device world display handler session :=
    (linked_start skip device world display handler requestNumber).run skips always turns
  obtain ⟨received,receivedAll⟩ := linked.received skips always
  obtain ⟨among,front,same,settles⟩ : ∃ among : List Request, among <+: shortRequests session.requests ∧
      served = (Served.new handler).all skip device world ((among.map askedLine).map (·.bytes)) ∧
      (Settled session → among = shortRequests session.requests) := by
    by_cases settled : Settled session
    · exact ⟨_,List.prefix_rfl,linked.served_settled settled,fun _ => rfl⟩
    · obtain ⟨count,served⟩ := linked.served
      exact ⟨_,(List.take_prefix count session.requests).filter _,served,fun now => absurd now settled⟩
  obtain ⟨lines,answered,responses,answering⟩ := (Served.new handler).answering skips device world (among.map askedLine)
  rw [← same] at answering
  obtain ⟨handled,handledFront,rfl⟩ : ∃ handled : List Request, handled <+: among ∧ lines = handled.map askedLine := by
    refine ⟨among.take lines.length,List.take_prefix _ _,?_⟩
    rw [List.map_take]
    exact List.prefix_iff_eq_take.mp answering.front
  obtain ⟨chosen,chosenAmong,rfl⟩ := List.sublist_map_iff.mp answering.among
  have written : served.responses = responses := answering.written
  have pairs : List.Forall₂ answers chosen served.responses := by
    rw [written]
    exact (List.forall₂_map_left_iff.mp answering.answers).imp fun _ _ found => found.1
  refine ⟨handled,chosen,⟨handledFront.trans front,?_⟩,⟨chosenAmong,pairs,fun request listed other => ?_⟩,received,
    linked.numbers.distinct,fun settled => ⟨?_,receivedAll settled⟩⟩
  · refine answering.record.trans ?_
    rw [List.map_map]
    exact List.map_congr_left fun request _ => askedLine_bytes request
  · have asked : (askedLine request).command.val ≠ "get_config" := by
      change request.command.name ≠ "get_config"
      revert other
      cases request.command <;> decide
    have found := answering.all (askedLine request) (List.mem_map_of_mem listed) asked
    obtain ⟨response,inside,holds,-⟩ := forall₂_left answering.answers found
    exact ⟨response,written ▸ inside,holds⟩
  · have all : handled.map askedLine = among.map askedLine := answering.complete settled.running
    have size := congrArg List.length all
    rw [List.length_map,List.length_map] at size
    rw [handledFront.eq_of_length size,settles settled]

def emptyParams : JsonText where
  bytes := writeObject []
  value := value_empty
  line := writeObject_oneLine nofun

/-- Two requests that the app sends before the first of them is answered. -/
def twoRequests : List SessionTurn :=
  [.pollEvents,.sendCommand .getStatus emptyParams,.sendCommand .factoryReset emptyParams,.tryRecv,.write 80,.serve 64,
    .tryRecv,.serve 64,.write 100,.serve 64,.serve 64,.tryRecv,.read 512,.pollEvents]

theorem requests_answered_twice :
    let session := (CdcSession.start skipValue MemoryConfigStorage.device quietPort factoryHandler 6).run skipValue
      MemoryConfigStorage.device quietPort (fun _ => "") twoRequests
    (session.requests.map Request.id).Nodup ∧
      session.received.map (Utf8.bytes · ++ [lineFeed]) = session.port.served.responses ∧
      session.port.served.lines = session.requests.map Request.bytes := by
  have always : ∀ line packet, quietPort.writable line packet = true := fun _ _ => rfl
  have answered := requests_answered skipValue_skips MemoryConfigStorage.device always (fun _ => "") factoryHandler 6
    twoRequests
  have facts :
      let session := (CdcSession.start skipValue MemoryConfigStorage.device quietPort factoryHandler 6).run skipValue
        MemoryConfigStorage.device quietPort (fun _ => "") twoRequests
      (session.commands.length = 0 ∧ session.events.length = 0 ∧ session.port.served.rebooting = false) ∧
      (session.worker ≠ .ended ∧ session.worker.rest = []) ∧
      (session.delivered = session.written.length ∧
        session.taken = session.port.served.packets.flatten.length) ∧
      session.requestNumber.toNat + 1 < UInt64.size ∧
      ∀ size ∈ session.requests.map (·.bytes.length), size ≤ Node.maxCdcLineSize := by decide +kernel
  generalize (CdcSession.start skipValue MemoryConfigStorage.device quietPort factoryHandler 6).run skipValue
      MemoryConfigStorage.device quietPort (fun _ => "") twoRequests = session at answered facts ⊢
  obtain ⟨⟨commands,events,running⟩,idle,⟨delivered,taken⟩,goesOn,sizes⟩ := facts
  obtain ⟨handled,-,⟨-,lines⟩,-,-,distinct,settles⟩ := answered
  have fits : ∀ request ∈ session.requests, request.bytes.length ≤ Node.maxCdcLineSize := List.forall_mem_map.mp sizes
  have short : shortRequests session.requests = session.requests :=
    List.filter_eq_self.mpr fun request among => decide_eq_true (fits request among)
  obtain ⟨all,received⟩ := settles {
    commands := List.eq_nil_of_length_eq_zero commands
    idle,delivered,taken,running
    events := List.eq_nil_of_length_eq_zero events }
  refine ⟨distinct goesOn,received,?_⟩
  rw [lines,all,short]

end UchiPulse.Management
