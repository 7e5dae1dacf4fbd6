import UchiPulse.Lib.Packets
import UchiPulse.Node.LineParser

/-! The task of the node's CDC port. After each packet it answers the lines that are complete,
and it writes each response in packets that the host can put together again. -/
namespace UchiPulse.Node
open Common Json Framing Packets

def maxPacketSize : Nat := 64

/-- What is read with one call. -/
structure Packet where
  bytes : List UInt8
  fits : bytes.length ≤ maxPacketSize

/-- What a line is answered with, beside the configuration. -/
structure LineStatus where
  ipAddress : Option Ipv4Text
  hubEndpoint : Option (Text 64)

/-- What the task meets, for each line it handles and each packet it writes for it. -/
structure PortWorld where
  status : Nat → LineStatus
  writable : Nat → Nat → Bool

/-- The packets from an offset on, until one cannot be written. -/
def writeChunks (writable : Nat → Bool) (response : List UInt8) : Nat → Nat → List (List UInt8)
  | 0, _ => []
  | left + 1, packet =>
    if writable packet then
      (response.drop (packet * maxPacketSize)).take maxPacketSize :: writeChunks writable response left (packet + 1)
    else []

/-- An empty packet ends a response that fills its last one. -/
def writeResponse (writable : Nat → Bool) (response : List UInt8) : List (List UInt8) :=
  let count := (response.length + (maxPacketSize - 1)) / maxPacketSize
  let chunks := writeChunks writable response count 0
  if response.length % maxPacketSize = 0 && writable count then chunks ++ [[]] else chunks

/-- The handler, and a record of its lines and of what it has made of them. -/
structure Served (S : Type) where
  handler : NodeCdcHandler S
  lines : List (List UInt8)
  responses : List (List UInt8)
  packets : List (List UInt8)
  /-- The watchdog was triggered, and the task only spins. -/
  rebooting : Bool

inductive PortEvent where
  | waitConnection
  | readPacket (packet : Packet)
  | readFailed

structure CdcPort (S : Type) where
  parser : CdcLineParser
  connected : Bool
  served : Served S

section
variable {S ε : Type} (skip : Reader Unit) (device : ConfigStorage S ε) (world : PortWorld)

namespace Served

def new (handler : NodeCdcHandler S) : Served S where
  handler := handler
  lines := []
  responses := []
  packets := []
  rebooting := false

/-- One line. A response that cannot be encoded is not written. -/
def next (self : Served S) (line : List UInt8) : Served S :=
  if self.rebooting then self
  else
    let status := world.status self.lines.length
    let (handler,result) :=
      self.handler.handleLineWithStatus skip device line maxCdcLineSize status.ipAddress status.hubEndpoint
    match result with
    | .error _ => { self with handler,lines := self.lines ++ [line] }
    | .ok result => {
        handler
        lines := self.lines ++ [line]
        responses := self.responses ++ [result.response]
        packets := self.packets ++ writeResponse (world.writable self.lines.length) result.response
        rebooting := result.action = .reboot }

/-- One line after the other, until one of them reboots the node. -/
def all (self : Served S) (lines : List (List UInt8)) : Served S := lines.foldl (next skip device world) self

end Served

namespace CdcPort

def new (handler : NodeCdcHandler S) : CdcPort S where
  parser := .new
  connected := false
  served := .new handler

/-- The lines that wait in the queue. -/
def popLines : Nat → CdcPort S → CdcPort S
  | 0, self => self
  | left + 1, self =>
    if self.served.rebooting then self
    else
      match self.parser.popLine with
      | (_,none) => self
      | (parser,some line) => popLines left { self with parser,served := self.served.next skip device world line }

/-- An error of the parser is ignored, and a failed read starts it anew. -/
def turn (self : CdcPort S) (event : PortEvent) : CdcPort S :=
  if self.served.rebooting then self
  else
    match event,self.connected with
    | .waitConnection,false => { self with connected := true }
    | .readPacket packet,true =>
      let parser := (self.parser.feed packet.bytes).1
      popLines skip device world parser.lines.length { self with parser }
    | .readFailed,true => { self with parser := .new,connected := false }
    | _,_ => self

def run (self : CdcPort S) (events : List PortEvent) : CdcPort S := events.foldl (turn skip device world) self

end CdcPort

end

/-! ### The packets of a response -/

theorem writeChunks_sublist (writable : Nat → Bool) (response : List UInt8) (left packet : Nat) :
    (writeChunks writable response left packet).Sublist
      (pieces maxPacketSize left (response.drop (packet * maxPacketSize))) := by
  induction left generalizing packet with
  | zero => exact List.Sublist.slnil
  | succ left ih =>
    have later := ih (packet + 1)
    rw [Nat.succ_mul,← List.drop_drop] at later
    unfold writeChunks
    split
    · exact later.cons_cons _
    · exact List.nil_sublist _

theorem writeChunks_all {writable : Nat → Bool} (always : ∀ packet, writable packet = true) (response : List UInt8)
    (left packet : Nat) : writeChunks writable response left packet =
      pieces maxPacketSize left (response.drop (packet * maxPacketSize)) := by
  induction left generalizing packet with
  | zero => rfl
  | succ left ih =>
    rw [writeChunks,if_pos (always packet),ih,Nat.succ_mul,← List.drop_drop]
    rfl

theorem pieces_succ (count : Nat) (message : List UInt8) : pieces maxPacketSize (count + 1) message =
    pieces maxPacketSize count message ++ [(message.drop (count * maxPacketSize)).take maxPacketSize] := by
  induction count generalizing message with
  | zero => simp [pieces]
  | succ count ih =>
    rw [pieces,ih,List.drop_drop,Nat.add_comm maxPacketSize,← Nat.succ_mul]
    rfl

/-- How many packets have symbols of a response. -/
theorem chunks_count (length : Nat) : (length + (maxPacketSize - 1)) / maxPacketSize =
    if length % maxPacketSize = 0 then length / maxPacketSize else length / maxPacketSize + 1 := by
  unfold maxPacketSize
  split <;> omega

theorem writeResponse_sublist (writable : Nat → Bool) (response : List UInt8) :
    (writeResponse writable response).Sublist (packets maxPacketSize response) := by
  have chunks := writeChunks_sublist writable response
    ((response.length + (maxPacketSize - 1)) / maxPacketSize) 0
  rw [Nat.zero_mul,List.drop_zero,chunks_count] at chunks
  unfold writeResponse packets
  rw [chunks_count]
  by_cases fills : response.length % maxPacketSize = 0
  · have past : response.length ≤ response.length / maxPacketSize * maxPacketSize :=
      Nat.le_of_eq (Nat.div_mul_cancel (Nat.dvd_of_mod_eq_zero fills)).symm
    rw [if_pos fills] at chunks
    rw [pieces_succ,List.drop_of_length_le past,List.take_nil]
    simp only [fills,if_true,decide_true,Bool.true_and]
    split
    · exact chunks.append (List.Sublist.refl _)
    · exact chunks.trans (List.sublist_append_left _ _)
  · rw [if_neg fills] at chunks
    simpa only [fills,if_false,decide_false,Bool.false_and,Bool.false_eq_true] using chunks

theorem writeResponse_all {writable : Nat → Bool} (always : ∀ packet, writable packet = true) (response : List UInt8) :
    writeResponse writable response = packets maxPacketSize response := by
  unfold writeResponse packets
  simp only [writeChunks_all always,always,Nat.zero_mul,List.drop_zero,chunks_count,Bool.and_true]
  by_cases fills : response.length % maxPacketSize = 0
  · have past : response.length ≤ response.length / maxPacketSize * maxPacketSize :=
      Nat.le_of_eq (Nat.div_mul_cancel (Nat.dvd_of_mod_eq_zero fills)).symm
    rw [pieces_succ,List.drop_of_length_le past,List.take_nil]
    simp [fills]
  · simp [fills]

/-! ### The lines of a connection -/

namespace CdcLineParser

theorem feedByte_lines (self : CdcLineParser) (byte : UInt8) :
    (self.feedByte byte).1.lines.length ≤ self.lines.length + [byte].count lineFeed := by
  unfold feedByte
  by_cases ends : byte = lineFeed <;> split_ifs <;> simp_all

/-- Lines that have room in the queue are not lost. -/
theorem keeps_of_count (self : CdcLineParser) (bytes : List UInt8)
    (room : self.lines.length + bytes.count lineFeed ≤ maxCdcQueuedLines) : self.Keeps bytes := by
  induction bytes generalizing self with
  | nil => trivial
  | cons byte bytes ih =>
    have more := self.feedByte_lines byte
    rw [← List.singleton_append,List.count_append] at room
    refine ⟨?_,ih _ (by omega)⟩
    rintro ⟨-,-,rfl,full⟩
    have one : [lineFeed].count lineFeed = 1 := by decide
    omega

theorem linesOf_stream (stream : List UInt8) :
    linesOf (Framing.feed (Frame.push lineFeed maxCdcLineSize) Frame.start stream).2 =
      ((segments lineFeed stream).map (· ++ [lineFeed])).filter (·.length ≤ maxCdcLineSize) := by
  rw [Frame.feed_eq,linesOf_append,linesOf_verdicts]
  split
  · exact List.append_nil _
  · exact List.append_nil _

end CdcLineParser

/-- The bytes of a connection. -/
def streamOf (connection : List Packet) : List UInt8 := connection.flatMap (·.bytes)

/-- Each line fills as much of a packet as it takes of the queue. -/
def LongLines (stream : List UInt8) : Prop :=
  ∀ segment ∈ segments lineFeed stream, maxPacketSize ≤ maxCdcQueuedLines * (segment.length + 1)

instance (stream : List UInt8) : Decidable (LongLines stream) := by
  unfold LongLines; infer_instance

/-- No packet completes more lines than have room in the queue. -/
theorem LongLines.count_le (front : List UInt8) (packet : Packet) (back : List UInt8)
    (long : LongLines (front ++ packet.bytes ++ back)) : packet.bytes.count lineFeed ≤ maxCdcQueuedLines := by
  have least : ∀ segment ∈ segments lineFeed (front ++ packet.bytes ++ back), 15 ≤ segment.length := by
    intro segment among
    have quarter := long segment among
    unfold maxPacketSize maxCdcQueuedLines at quarter
    omega
  have fits := packet.fits
  unfold maxPacketSize at fits
  unfold maxCdcQueuedLines
  rcases count_piece front packet.bytes back least with few | none <;> omega

section
variable {S ε : Type} {skip : Reader Unit} {device : ConfigStorage S ε} {world : PortWorld}

namespace Served

theorem next_rebooting {self : Served S} (rebooting : self.rebooting = true) (line : List UInt8) :
    self.next skip device world line = self := by
  simp only [next,rebooting,if_true]

theorem all_rebooting {self : Served S} (rebooting : self.rebooting = true) (lines : List (List UInt8)) :
    self.all skip device world lines = self := by
  induction lines with
  | nil => rfl
  | cons line lines ih =>
    rw [all,List.foldl_cons,next_rebooting rebooting]
    exact ih

theorem all_append (self : Served S) (first second : List (List UInt8)) :
    self.all skip device world (first ++ second) = (self.all skip device world first).all skip device world second :=
  List.foldl_append

end Served

namespace CdcPort

variable (skip device world) in
/-- The queue is empty again, unless one of its lines reboots the node. -/
theorem popLines_served (self : CdcPort S) :
    (self.popLines skip device world self.parser.lines.length).served =
        self.served.all skip device world self.parser.lines ∧
      (self.popLines skip device world self.parser.lines.length).connected = self.connected ∧
      ((self.popLines skip device world self.parser.lines.length).served.rebooting = false →
        (self.popLines skip device world self.parser.lines.length).parser = { self.parser with lines := [] }) := by
  obtain ⟨⟨current,lines,dropping⟩,connected,served⟩ := self
  induction lines generalizing served with
  | nil => exact ⟨rfl,rfl,fun _ => rfl⟩
  | cons line lines ih =>
    simp only [List.length_cons,popLines]
    by_cases rebooting : served.rebooting = true
    · simp only [if_pos rebooting]
      exact ⟨(Served.all_rebooting rebooting _).symm,trivial,fun off => absurd (rebooting.symm.trans off) (by decide)⟩
    · simp only [if_neg rebooting,CdcLineParser.popLine]
      exact ih (served.next skip device world line)

theorem turn_rebooting {self : CdcPort S} (rebooting : self.served.rebooting = true) (event : PortEvent) :
    self.turn skip device world event = self := by
  simp only [turn,rebooting,if_true]

theorem run_rebooting {self : CdcPort S} (rebooting : self.served.rebooting = true) (events : List PortEvent) :
    self.run skip device world events = self := by
  induction events with
  | nil => rfl
  | cons event events ih =>
    rw [run,List.foldl_cons,turn_rebooting rebooting]
    exact ih

theorem run_append (self : CdcPort S) (first second : List PortEvent) :
    self.run skip device world (first ++ second) = (self.run skip device world first).run skip device world second :=
  List.foldl_append

/-- Behind the bytes of a connection the port has served its lines. -/
structure Reads (before : Served S) (stream : List UInt8) (port : CdcPort S) (skip : Reader Unit)
    (device : ConfigStorage S ε) (world : PortWorld) : Prop where
  served : port.served = before.all skip device world
    (CdcLineParser.linesOf (Framing.feed (Frame.push lineFeed maxCdcLineSize) Frame.start stream).2)
  connected : port.served.rebooting = false → port.connected = true
  frame : port.served.rebooting = false →
    port.parser.frame = (Framing.feed (Frame.push lineFeed maxCdcLineSize) Frame.start stream).1
  empty : port.served.rebooting = false → port.parser.lines = []
  size : port.served.rebooting = false → port.parser.current.length ≤ maxCdcLineSize

theorem Reads.readPacket {before : Served S} {stream : List UInt8} {self : CdcPort S}
    (reads : Reads before stream self skip device world) (packet : Packet)
    (few : packet.bytes.count lineFeed ≤ maxCdcQueuedLines) :
    Reads before (stream ++ packet.bytes) (self.turn skip device world (.readPacket packet)) skip device world := by
  have lines : CdcLineParser.linesOf
      (Framing.feed (Frame.push lineFeed maxCdcLineSize) Frame.start (stream ++ packet.bytes)).2 =
        CdcLineParser.linesOf (Framing.feed (Frame.push lineFeed maxCdcLineSize) Frame.start stream).2 ++
          CdcLineParser.linesOf (Framing.feed (Frame.push lineFeed maxCdcLineSize)
            (Framing.feed (Frame.push lineFeed maxCdcLineSize) Frame.start stream).1 packet.bytes).2 := by
    rw [Framing.feed_append,CdcLineParser.linesOf_append]
  by_cases rebooting : self.served.rebooting = true
  · rw [turn_rebooting rebooting]
    have never {result : Prop} (off : self.served.rebooting = false) : result :=
      absurd (rebooting.symm.trans off) (by decide)
    exact {
      served := by
        rw [lines,Served.all_append,← reads.served,Served.all_rebooting rebooting]
      connected := never
      frame := never
      empty := never
      size := never }
  · have off : self.served.rebooting = false := Bool.eq_false_iff.mpr rebooting
    have follows := self.parser.feedBytes_follows none packet.bytes (reads.size off)
      (self.parser.keeps_of_count _ (by rw [reads.empty off]; simpa using few))
    have frame := follows.frame
    have queued := follows.lines
    have size := follows.size
    rw [reads.frame off] at frame queued
    rw [reads.empty off,List.nil_append] at queued
    rw [← CdcLineParser.feed_state] at frame queued size
    obtain ⟨served,connected,emptied⟩ :=
      popLines_served skip device world
        { self with parser := (self.parser.feed packet.bytes).1 }
    have turned : self.turn skip device world (.readPacket packet) =
        popLines skip device world (self.parser.feed packet.bytes).1.lines.length
          { self with parser := (self.parser.feed packet.bytes).1 } := by
      simp only [turn,off,reads.connected off,Bool.false_eq_true,if_false]
    rw [← turned] at served connected emptied
    exact {
      served := by rw [served,queued,lines,Served.all_append,← reads.served]
      connected := fun _ => connected.trans (reads.connected off)
      frame := fun still => by
        rw [emptied still,Framing.feed_append]
        exact frame
      empty := fun still => by rw [emptied still]
      size := fun still => by
        rw [emptied still]
        exact size }

theorem Reads.readPackets {before : Served S} {stream : List UInt8} {self : CdcPort S}
    (reads : Reads before stream self skip device world) (connection : List Packet)
    (long : LongLines (stream ++ streamOf connection)) :
    Reads before (stream ++ streamOf connection) (self.run skip device world (connection.map .readPacket))
      skip device world := by
  induction connection generalizing self stream with
  | nil => simpa [streamOf,run] using reads
  | cons packet connection ih =>
    rw [streamOf,List.flatMap_cons,← List.append_assoc] at long ⊢
    have few := LongLines.count_le stream packet (streamOf connection) long
    exact ih (reads.readPacket packet few) long

/-- Between two connections. -/
structure Closed (port : CdcPort S) : Prop where
  parser : port.served.rebooting = false → port.parser = .new
  connected : port.served.rebooting = false → port.connected = false

theorem closed_new (handler : NodeCdcHandler S) : (new handler).Closed := ⟨fun _ => rfl,fun _ => rfl⟩

variable (skip device world) in
theorem Closed.opened {self : CdcPort S} (closed : self.Closed) (connection : List Packet)
    (long : LongLines (streamOf connection)) :
    Reads self.served (streamOf connection)
      (self.run skip device world (.waitConnection :: connection.map .readPacket)) skip device world := by
  by_cases rebooting : self.served.rebooting = true
  · rw [run_rebooting rebooting]
    have never {result : Prop} (off : self.served.rebooting = false) : result :=
      absurd (rebooting.symm.trans off) (by decide)
    exact ⟨(Served.all_rebooting rebooting _).symm,never,never,never,never⟩
  · have off : self.served.rebooting = false := Bool.eq_false_iff.mpr rebooting
    have opened : self.turn skip device world .waitConnection = { self with connected := true } := by
      simp only [turn,off,closed.connected off,Bool.false_eq_true,if_false]
    have reads : Reads self.served [] { self with connected := true } skip device world := {
      served := rfl
      connected := fun _ => rfl
      frame := fun _ => by rw [closed.parser off]; rfl
      empty := fun _ => by rw [closed.parser off]; rfl
      size := fun _ => by rw [closed.parser off]; exact Nat.zero_le _ }
    rw [run,List.foldl_cons,opened]
    exact reads.readPackets connection long

/-- A connection that ends. -/
def closing (connection : List Packet) : List PortEvent :=
  .waitConnection :: connection.map .readPacket ++ [.readFailed]

variable (skip device world) in
theorem Closed.closed {self : CdcPort S} (closed : self.Closed) (connection : List Packet)
    (long : LongLines (streamOf connection)) :
    (self.run skip device world (closing connection)).Closed ∧
      (self.run skip device world (closing connection)).served =
        self.served.all skip device world (CdcLineParser.linesOf
          (Framing.feed (Frame.push lineFeed maxCdcLineSize) Frame.start (streamOf connection)).2) := by
  have reads := closed.opened skip device world connection long
  rw [closing,run_append]
  generalize self.run skip device world (.waitConnection :: connection.map .readPacket) = read at reads
  rw [← reads.served]
  change (read.turn skip device world .readFailed).Closed ∧ (read.turn skip device world .readFailed).served = _
  by_cases rebooting : read.served.rebooting = true
  · rw [turn_rebooting rebooting]
    have never {result : Prop} (off : read.served.rebooting = false) : result :=
      absurd (rebooting.symm.trans off) (by decide)
    exact ⟨⟨never,never⟩,rfl⟩
  · have off : read.served.rebooting = false := Bool.eq_false_iff.mpr rebooting
    have ended : read.turn skip device world .readFailed = { read with parser := .new,connected := false } := by
      simp only [turn,off,reads.connected off,Bool.false_eq_true,if_false]
    rw [ended]
    exact ⟨⟨fun _ => rfl,fun _ => rfl⟩,rfl⟩

variable (skip device world) in
theorem Closed.closings {self : CdcPort S} (closed : self.Closed) (connections : List (List Packet))
    (long : ∀ connection ∈ connections, LongLines (streamOf connection)) :
    (self.run skip device world (connections.flatMap closing)).Closed ∧
      (self.run skip device world (connections.flatMap closing)).served =
        self.served.all skip device world (connections.flatMap fun connection => CdcLineParser.linesOf
          (Framing.feed (Frame.push lineFeed maxCdcLineSize) Frame.start (streamOf connection)).2) := by
  induction connections generalizing self with
  | nil => exact ⟨closed,rfl⟩
  | cons connection connections ih =>
    obtain ⟨first,others⟩ := List.forall_mem_cons.mp long
    obtain ⟨closed',served⟩ := closed.closed skip device world connection first
    rw [List.flatMap_cons,run_append,List.flatMap_cons,Served.all_append,← served]
    exact ih closed' others

end CdcPort

/-! ### The record of the lines -/

/-- The packets of some responses. -/
def packetsOf (responses : List (List UInt8)) : List (List UInt8) := responses.flatMap (packets maxPacketSize)

theorem packetsOf_concat (responses : List (List UInt8)) (response : List UInt8) :
    packetsOf (responses ++ [response]) = packetsOf responses ++ packets maxPacketSize response := by
  rw [packetsOf,packetsOf,List.flatMap_append,List.flatMap_singleton]

namespace Served

theorem next_cases {self : Served S} (running : self.rebooting = false) (line : List UInt8) :
    (self.next skip device world line).lines = self.lines ++ [line] ∧
      ((self.next skip device world line).responses = self.responses ∧
          (self.next skip device world line).packets = self.packets ∨
        ∃ response, (self.next skip device world line).responses = self.responses ++ [response] ∧
          (self.next skip device world line).packets =
            self.packets ++ writeResponse (world.writable self.lines.length) response) := by
  simp only [next,running,Bool.false_eq_true,if_false]
  split
  · exact ⟨rfl,.inl ⟨rfl,rfl⟩⟩
  · exact ⟨rfl,.inr ⟨_,rfl,rfl⟩⟩

variable (skip device world) in
/-- Lines are handled in their order, and all of them while the node runs. -/
theorem all_lines (self : Served S) (lines : List (List UInt8)) :
    ∃ handled, handled <+: lines ∧ (self.all skip device world lines).lines = self.lines ++ handled ∧
      ((self.all skip device world lines).rebooting = false → handled = lines) := by
  induction lines generalizing self with
  | nil => exact ⟨[],List.nil_prefix,(List.append_nil _).symm,fun _ => rfl⟩
  | cons line lines ih =>
    by_cases rebooting : self.rebooting = true
    · rw [all_rebooting rebooting]
      exact ⟨[],List.nil_prefix,(List.append_nil _).symm,fun off => absurd (rebooting.symm.trans off) (by decide)⟩
    · obtain ⟨handled,front,record,complete⟩ := ih (self.next skip device world line)
      refine ⟨line :: handled,List.cons_prefix_cons.mpr ⟨rfl,front⟩,?_,fun off => ?_⟩
      · refine record.trans ?_
        rw [(next_cases (Bool.eq_false_iff.mpr rebooting) line).1,List.append_assoc,List.singleton_append]
      · rw [complete off]

/-- What is written are packets of the responses, in their order. -/
theorem next_packets {self : Served S} (line : List UInt8)
    (written : self.packets.Sublist (packetsOf self.responses)) :
    (self.next skip device world line).packets.Sublist
      (packetsOf (self.next skip device world line).responses) := by
  by_cases rebooting : self.rebooting = true
  · rwa [next_rebooting rebooting]
  · rcases (next_cases (Bool.eq_false_iff.mpr rebooting) line).2 with ⟨responses,same⟩ | ⟨response,responses,more⟩
    · rwa [responses,same]
    · rw [responses,more,packetsOf_concat]
      exact written.append (writeResponse_sublist _ response)

theorem next_written (always : ∀ line packet, world.writable line packet = true) {self : Served S}
    (line : List UInt8) (written : self.packets = packetsOf self.responses) :
    (self.next skip device world line).packets = packetsOf (self.next skip device world line).responses := by
  by_cases rebooting : self.rebooting = true
  · rwa [next_rebooting rebooting]
  · rcases (next_cases (Bool.eq_false_iff.mpr rebooting) line).2 with ⟨responses,same⟩ | ⟨response,responses,more⟩
    · rwa [responses,same]
    · rw [responses,more,packetsOf_concat,written,writeResponse_all (always self.lines.length)]

theorem all_keeps (kept : Served S → Prop) (step : ∀ self line, kept self → kept (next skip device world self line))
    {self : Served S} (now : kept self) (lines : List (List UInt8)) : kept (self.all skip device world lines) := by
  induction lines generalizing self with
  | nil => exact now
  | cons line lines ih => exact ih (step self line now)

variable (skip device world) in
theorem next_prefix (self : Served S) (line : List UInt8) :
    self.packets <+: (self.next skip device world line).packets := by
  by_cases rebooting : self.rebooting = true
  · exact ⟨[],by rw [next_rebooting rebooting,List.append_nil]⟩
  · rcases (next_cases (Bool.eq_false_iff.mpr rebooting) line).2 with ⟨-,same⟩ | ⟨response,-,more⟩
    · exact ⟨[],(List.append_nil _).trans same.symm⟩
    · exact ⟨_,more.symm⟩

end Served

variable (skip device world) in
/-- Packets that are written stay written. -/
theorem CdcPort.turn_packets (self : CdcPort S) (packet : Packet) :
    self.served.packets <+: (self.turn skip device world (.readPacket packet)).served.packets := by
  have popped := (popLines_served skip device world
    { self with parser := (self.parser.feed packet.bytes).1 }).1
  have grown := Served.all_keeps (fun served => self.served.packets <+: served.packets)
    (fun served line before => before.trans (served.next_prefix skip device world line))
    List.prefix_rfl (self.parser.feed packet.bytes).1.lines
  rw [← popped] at grown
  unfold turn
  split
  · exact List.prefix_rfl
  · split
    next same _ => cases same
    next same _ => cases same; exact grown
    next same _ => cases same
    next => exact List.prefix_rfl

end

/-- The lines of some connections that are within the limit. -/
def linesOfConnections (connections : List (List Packet)) : List (List UInt8) :=
  connections.flatMap fun connection =>
    ((segments lineFeed (streamOf connection)).map (· ++ [lineFeed])).filter (·.length ≤ maxCdcLineSize)

/-- However its bytes are cut into packets, connection after connection, each line within the
limit is handled once and in its order, until one of them reboots the node; what a connection
leaves unfinished is not seen in the next one. The packets written belong to the responses in
their order, and when none is refused the host has exactly the responses. -/
theorem cdc_port_serves {S ε : Type} (skip : Reader Unit) (device : ConfigStorage S ε) (world : PortWorld)
    (handler : NodeCdcHandler S) (connections : List (List Packet)) (last : List Packet)
    (long : ∀ connection ∈ connections ++ [last], LongLines (streamOf connection)) :
    let served := ((CdcPort.new handler).run skip device world
      (connections.flatMap CdcPort.closing ++ .waitConnection :: last.map .readPacket)).served
    let lines := linesOfConnections (connections ++ [last])
    served = (Served.new handler).all skip device world lines ∧
    (served.lines <+: lines ∧ (served.rebooting = false → served.lines = lines)) ∧
    (served.packets.Sublist (packetsOf served.responses) ∧
      ∀ packet ∈ served.packets, packet.length ≤ maxPacketSize) ∧
    ((∀ line packet, world.writable line packet = true) →
      feed (gather maxPacketSize) [] served.packets = ([],served.responses)) := by
  intro served lines
  have all : served = (Served.new handler).all skip device world lines := by
    have first : ∀ connection ∈ connections, LongLines (streamOf connection) := fun connection among =>
      long connection (List.mem_append_left _ among)
    have rest : LongLines (streamOf last) := long last (List.mem_append_right _ (List.mem_singleton.mpr rfl))
    obtain ⟨closed,before⟩ := (CdcPort.closed_new handler).closings skip device world connections first
    have reads := closed.opened skip device world last rest
    simp only [CdcLineParser.linesOf_stream] at before
    simp only [served,lines,CdcPort.run_append,linesOfConnections,List.flatMap_append,List.flatMap_singleton,
      Served.all_append]
    rw [reads.served,CdcLineParser.linesOf_stream,before]
    rfl
  obtain ⟨handled,front,record,complete⟩ := (Served.new handler).all_lines skip device world lines
  have written : served.packets.Sublist (packetsOf served.responses) := by
    rw [all]
    exact Served.all_keeps (fun served => served.packets.Sublist (packetsOf served.responses))
      (fun _ line => Served.next_packets line) List.Sublist.slnil lines
  refine ⟨all,?_,⟨written,fun packet among => ?_⟩,fun always => ?_⟩
  · rw [all,record]
    exact ⟨front,complete⟩
  · obtain ⟨response,-,piece⟩ := List.mem_flatMap.mp (written.subset among)
    exact packets_fit piece
  · have exactly : served.packets = packetsOf served.responses := by
      rw [all]
      exact Served.all_keeps (fun served => served.packets = packetsOf served.responses)
        (fun _ line => Served.next_written always line) rfl lines
    rw [exactly]
    exact gather_messages (by decide) _

def factoryHandler : NodeCdcHandler MemoryConfigStorage where
  manager := { storage := .empty configStorageSize,config := .defaults }

/-- A connection that ends within a line. -/
def brokenOff : List Packet := [⟨List.replicate 40 123,by decide⟩]

/-- A line of 16 bytes in two packets. -/
def twoPackets : List Packet := [⟨List.replicate 9 120,by decide⟩,⟨List.replicate 6 120 ++ [lineFeed],by decide⟩]

def quietPort : PortWorld where
  status _ := { ipAddress := none,hubEndpoint := none }
  writable _ _ := true

theorem cdc_port_serves_reconnected :
    let served := ((CdcPort.new factoryHandler).run (fun _ => none) MemoryConfigStorage.device quietPort
      ([brokenOff].flatMap CdcPort.closing ++ .waitConnection :: twoPackets.map .readPacket)).served
    served.lines = [List.replicate 15 120 ++ [lineFeed]] ∧
      feed (gather maxPacketSize) [] served.packets = ([],served.responses) := by
  intro served
  obtain ⟨-,⟨-,complete⟩,-,whole⟩ := cdc_port_serves (fun _ => none) MemoryConfigStorage.device quietPort factoryHandler
    [brokenOff] twoPackets (by decide)
  have running : served.rebooting = false := by decide +kernel
  refine ⟨(complete running).trans ?_,whole fun _ _ => rfl⟩
  decide

end UchiPulse.Node
