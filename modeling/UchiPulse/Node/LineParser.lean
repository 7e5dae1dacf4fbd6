import UchiPulse.Lib.Framing
import UchiPulse.Node.Cdc

/-! The lines of the node's CDC port. They wait in a queue of four; a line that is completed
while the queue is full is lost. -/
namespace UchiPulse.Node
open Json Framing

def maxCdcQueuedLines : Nat := 4

inductive CdcFrameError where
  | lineTooLong | queueFull
deriving DecidableEq

structure CdcLineParser where
  current : List UInt8
  lines : List (List UInt8)
  droppingOverlong : Bool

namespace CdcLineParser

def new : CdcLineParser where
  current := []
  lines := []
  droppingOverlong := false

/-- One byte, and the error it sets. -/
def feedByte (self : CdcLineParser) (byte : UInt8) : CdcLineParser × Option CdcFrameError :=
  if self.droppingOverlong then
    (if byte = lineFeed then { self with droppingOverlong := false } else self,none)
  else if self.current.length = maxCdcLineSize then
    ({ self with current := [],droppingOverlong := byte ≠ lineFeed },some .lineTooLong)
  else if byte = lineFeed then
    if self.lines.length < maxCdcQueuedLines then
      ({ self with current := [],lines := self.lines ++ [self.current ++ [byte]] },none)
    else ({ self with current := [] },some .queueFull)
  else ({ self with current := self.current ++ [byte] },none)

/-- The loop over the bytes, with the error set so far; a later one takes its place. -/
def feedBytes (self : CdcLineParser) (error : Option CdcFrameError) :
    List UInt8 → CdcLineParser × Option CdcFrameError
  | [] => (self,error)
  | byte :: bytes =>
    let (next,failed) := self.feedByte byte
    next.feedBytes (failed.or error) bytes

def feed (self : CdcLineParser) (bytes : List UInt8) : CdcLineParser × Except CdcFrameError Unit :=
  match self.feedBytes none bytes with
  | (self,none) => (self,.ok ())
  | (self,some error) => (self,.error error)

def popLine (self : CdcLineParser) : CdcLineParser × Option (List UInt8) :=
  match self.lines with
  | [] => (self,none)
  | line :: lines => ({ self with lines },some line)

end CdcLineParser

/-! ### Runs -/

inductive ParserCall where
  | feed (bytes : List UInt8)
  | popLine

/-- The bytes fed by some calls. -/
def ParserCall.bytes : ParserCall → List UInt8
  | .feed bytes => bytes
  | .popLine => []

/-- The parser with the lines taken from it and the results of the feeds, in order. -/
structure ParserRun where
  parser : CdcLineParser
  popped : List (List UInt8)
  results : List (Except CdcFrameError Unit)

def ParserRun.step (self : ParserRun) : ParserCall → ParserRun
  | .feed bytes =>
    let (parser,result) := self.parser.feed bytes
    { self with parser,results := self.results ++ [result] }
  | .popLine =>
    let (parser,line) := self.parser.popLine
    { self with parser,popped := self.popped ++ line.toList }

def ParserRun.start : ParserRun where
  parser := .new
  popped := []
  results := []

def ParserRun.run (self : ParserRun) (calls : List ParserCall) : ParserRun := calls.foldl step self

namespace CdcLineParser

/-- A line is completed by this byte while the queue is full. -/
def Loses (self : CdcLineParser) (byte : UInt8) : Prop :=
  self.droppingOverlong = false ∧ self.current.length ≠ maxCdcLineSize ∧ byte = lineFeed ∧
    self.lines.length ≥ maxCdcQueuedLines

instance (self : CdcLineParser) (byte : UInt8) : Decidable (self.Loses byte) := by
  unfold Loses; infer_instance

/-- No line is completed while the queue is full. -/
def Keeps (self : CdcLineParser) : List UInt8 → Prop
  | [] => True
  | byte :: bytes => ¬ self.Loses byte ∧ (self.feedByte byte).1.Keeps bytes

instance decidableKeeps (self : CdcLineParser) : (bytes : List UInt8) → Decidable (self.Keeps bytes)
  | [] => inferInstanceAs (Decidable True)
  | byte :: bytes =>
    have := (self.feedByte byte).1.decidableKeeps bytes
    inferInstanceAs (Decidable (¬ self.Loses byte ∧ (self.feedByte byte).1.Keeps bytes))

end CdcLineParser

/-- The same in every feed of a run. -/
def ParserRun.Keeps (self : ParserRun) : List ParserCall → Prop
  | [] => True
  | .feed bytes :: calls => self.parser.Keeps bytes ∧ (self.step (.feed bytes)).Keeps calls
  | .popLine :: calls => (self.step .popLine).Keeps calls

/-! ### The queue behind the frame -/

namespace CdcLineParser

def frame (self : CdcLineParser) : Frame UInt8 where
  current := self.current
  dropping := self.droppingOverlong

/-- The lines among some verdicts, with their line feeds. -/
def linesOf (verdicts : List (Framed UInt8)) : List (List UInt8) :=
  verdicts.filterMap fun verdict =>
    match verdict with
    | .line segment => some (segment ++ [lineFeed])
    | .overlong => none

/-- What one byte does: the frame goes on, and a line that is completed waits in the queue. -/
theorem feedByte_frame (self : CdcLineParser) (byte : UInt8) (size : self.current.length ≤ maxCdcLineSize)
    (kept : ¬ self.Loses byte) :
    (self.feedByte byte).1.frame = (self.frame.push lineFeed maxCdcLineSize byte).1 ∧
      (self.feedByte byte).1.lines = self.lines ++ linesOf (self.frame.push lineFeed maxCdcLineSize byte).2 ∧
      (self.feedByte byte).2 =
        if .overlong ∈ (self.frame.push lineFeed maxCdcLineSize byte).2 then some .lineTooLong else none := by
  obtain ⟨current,lines,dropping⟩ := self
  simp only [Loses,not_and,Nat.not_le,ge_iff_le] at kept
  simp only at size
  unfold feedByte Frame.push
  by_cases dropped : dropping = true
  · by_cases ends : byte = lineFeed <;> simp [frame,linesOf,dropped,ends]
  · have open' : dropping = false := by simpa using dropped
    by_cases full : current.length = maxCdcLineSize
    · simp [frame,linesOf,open',full]
    · have small : ¬ maxCdcLineSize ≤ current.length := by omega
      by_cases ends : byte = lineFeed
      · have room := kept open' full ends
        simp [frame,linesOf,open',full,small,ends,room,Frame.start]
      · simp [frame,linesOf,open',full,small,ends]

theorem feedByte_size (self : CdcLineParser) (byte : UInt8) (size : self.current.length ≤ maxCdcLineSize) :
    (self.feedByte byte).1.current.length ≤ maxCdcLineSize := by
  unfold feedByte
  split_ifs <;> simp <;> omega

theorem linesOf_append (first second : List (Framed UInt8)) : linesOf (first ++ second) = linesOf first ++ linesOf second :=
  List.filterMap_append

/-- The same for the bytes of one feed. -/
structure Follows (before : CdcLineParser) (error : Option CdcFrameError) (bytes : List UInt8)
    (result : CdcLineParser × Option CdcFrameError) : Prop where
  frame : result.1.frame = (Framing.feed (Frame.push lineFeed maxCdcLineSize) before.frame bytes).1
  lines : result.1.lines = before.lines ++ linesOf (Framing.feed (Frame.push lineFeed maxCdcLineSize) before.frame bytes).2
  error : result.2 = if .overlong ∈ (Framing.feed (Frame.push lineFeed maxCdcLineSize) before.frame bytes).2
    then some .lineTooLong else error
  size : result.1.current.length ≤ maxCdcLineSize

theorem feedBytes_follows (self : CdcLineParser) (error : Option CdcFrameError) (bytes : List UInt8)
    (size : self.current.length ≤ maxCdcLineSize) (kept : self.Keeps bytes) :
    self.Follows error bytes (self.feedBytes error bytes) := by
  induction bytes generalizing self error with
  | nil => exact ⟨rfl,by simp [feedBytes,Framing.feed,linesOf],by simp [feedBytes,Framing.feed],size⟩
  | cons byte bytes ih =>
    obtain ⟨here,later⟩ := kept
    obtain ⟨frame,lines,failed⟩ := self.feedByte_frame byte size here
    have rest := ih (self.feedByte byte).1 ((self.feedByte byte).2.or error) (self.feedByte_size byte size) later
    have first := rest.frame
    have queued := rest.lines
    have last := rest.error
    rw [frame] at first queued last
    rw [lines] at queued
    refine ⟨first,?_,?_,rest.size⟩
    · rw [feedBytes,queued,Framing.feed,linesOf_append,List.append_assoc]
    · rw [feedBytes,last,failed,Framing.feed]
      simp only [List.mem_append]
      by_cases tooLong : .overlong ∈ (self.frame.push lineFeed maxCdcLineSize byte).2
      · simp [tooLong]
      · simp [tooLong]

/-- An error set is not taken back. -/
theorem feedBytes_error (self : CdcLineParser) (error : CdcFrameError) (bytes : List UInt8) :
    ∃ last, (self.feedBytes (some error) bytes).2 = some last := by
  induction bytes generalizing self error with
  | nil => exact ⟨error,rfl⟩
  | cons byte bytes ih =>
    simp only [feedBytes]
    cases (self.feedByte byte).2 with
    | none => exact ih _ error
    | some later => exact ih _ later

theorem feedBytes_append (self : CdcLineParser) (error : Option CdcFrameError) (front back : List UInt8) :
    self.feedBytes error (front ++ back) =
      (self.feedBytes error front).1.feedBytes (self.feedBytes error front).2 back := by
  induction front generalizing self error with
  | nil => rfl
  | cons byte front ih => exact ih _ _

theorem feedByte_loses {self : CdcLineParser} {byte : UInt8} (loses : self.Loses byte) :
    (self.feedByte byte).2 = some .queueFull := by
  obtain ⟨opened,short,ends,full⟩ := loses
  have noRoom : ¬ self.lines.length < maxCdcQueuedLines := Nat.not_lt.mpr full
  simp only [feedByte,opened,Bool.false_eq_true,if_false,if_neg short,if_pos ends,if_neg noRoom]

theorem feed_state (self : CdcLineParser) (bytes : List UInt8) :
    (self.feed bytes).1 = (self.feedBytes none bytes).1 := by
  unfold feed
  rcases self.feedBytes none bytes with ⟨after,none | error⟩ <;> rfl

theorem feed_error_iff (self : CdcLineParser) (bytes : List UInt8) (error : CdcFrameError) :
    (self.feed bytes).2 = .error error ↔ (self.feedBytes none bytes).2 = some error := by
  unfold feed
  rcases self.feedBytes none bytes with ⟨after,none | other⟩ <;> simp

/-- A feed that loses a line says so. -/
theorem feed_loses (self : CdcLineParser) {front back : List UInt8} {byte : UInt8}
    (loses : (self.feed front).1.Loses byte) : ∃ error, (self.feed (front ++ byte :: back)).2 = .error error := by
  rw [feed_state] at loses
  simp only [feed_error_iff,feedBytes_append,feedBytes,feedByte_loses loses]
  exact feedBytes_error _ _ back

end CdcLineParser

/-! ### The lines of a run -/

/-- What a run has made of the bytes fed so far. -/
structure ParserRun.Invariant (ran : ParserRun) (stream : List UInt8) : Prop where
  frame : ran.parser.frame = (Framing.feed (Frame.push lineFeed maxCdcLineSize) Frame.start stream).1
  lines : ran.popped ++ ran.parser.lines =
    CdcLineParser.linesOf (Framing.feed (Frame.push lineFeed maxCdcLineSize) Frame.start stream).2
  tooLong : .error .lineTooLong ∈ ran.results ↔
    .overlong ∈ (Framing.feed (Frame.push lineFeed maxCdcLineSize) Frame.start stream).2
  size : ran.parser.current.length ≤ maxCdcLineSize

namespace ParserRun

theorem invariant_start : start.Invariant [] where
  frame := rfl
  lines := rfl
  tooLong := by simp [start,Framing.feed]
  size := Nat.zero_le _

theorem step_feed (self : ParserRun) (bytes : List UInt8) :
    self.step (.feed bytes) = { self with
      parser := (self.parser.feed bytes).1,results := self.results ++ [(self.parser.feed bytes).2] } := rfl

theorem invariant_feed {self : ParserRun} {stream bytes : List UInt8} (invariant : self.Invariant stream)
    (kept : self.parser.Keeps bytes) : (self.step (.feed bytes)).Invariant (stream ++ bytes) := by
  have follows := self.parser.feedBytes_follows none bytes invariant.size kept
  have frame := follows.frame
  have lines := follows.lines
  have error := follows.error
  rw [invariant.frame] at frame lines error
  rw [step_feed]
  refine ⟨?_,?_,?_,?_⟩
  · rw [CdcLineParser.feed_state,Framing.feed_append]
    exact frame
  · rw [CdcLineParser.feed_state,Framing.feed_append,CdcLineParser.linesOf_append,← invariant.lines,lines,
      List.append_assoc]
  · rw [Framing.feed_append,List.mem_append,List.mem_append,List.mem_singleton,invariant.tooLong]
    refine or_congr Iff.rfl ?_
    rw [eq_comm,CdcLineParser.feed_error_iff,error]
    split <;> simp_all
  · rw [CdcLineParser.feed_state]
    exact follows.size

theorem invariant_popLine {self : ParserRun} {stream : List UInt8} (invariant : self.Invariant stream) :
    (self.step .popLine).Invariant stream := by
  obtain ⟨⟨current,lines,dropping⟩,popped,results⟩ := self
  cases lines with
  | nil => exact ⟨invariant.frame,by simpa [step,CdcLineParser.popLine] using invariant.lines,invariant.tooLong,invariant.size⟩
  | cons line lines =>
    exact ⟨invariant.frame,by simpa [step,CdcLineParser.popLine] using invariant.lines,invariant.tooLong,invariant.size⟩

theorem invariant_run {self : ParserRun} {stream : List UInt8} (calls : List ParserCall)
    (invariant : self.Invariant stream) (kept : self.Keeps calls) :
    (self.run calls).Invariant (stream ++ calls.flatMap ParserCall.bytes) := by
  induction calls generalizing self stream with
  | nil => simpa [run] using invariant
  | cons call calls ih =>
    rw [List.flatMap_cons,← List.append_assoc]
    cases call with
    | feed bytes => exact ih (invariant_feed invariant kept.1) kept.2
    | popLine =>
      rw [ParserCall.bytes,List.append_nil]
      exact ih (invariant_popLine invariant) kept

end ParserRun

theorem linesOf_verdicts (segments : List (List UInt8)) :
    CdcLineParser.linesOf (segments.map (Frame.verdict maxCdcLineSize)) =
      (segments.map (· ++ [lineFeed])).filter (·.length ≤ maxCdcLineSize) := by
  induction segments with
  | nil => rfl
  | cons segment segments ih =>
    rw [CdcLineParser.linesOf] at ih
    by_cases fits : segment.length < maxCdcLineSize
    · have within : segment.length + 1 ≤ maxCdcLineSize := fits
      simp [CdcLineParser.linesOf,Frame.verdict,fits,within,ih]
    · have long : ¬ segment.length + 1 ≤ maxCdcLineSize := fits
      simp [CdcLineParser.linesOf,Frame.verdict,fits,long,ih]

/-- However the bytes are cut and the lines are taken, as long as no line is completed while
four are waiting: the lines are those within the limit, and a feed reports one that broke it.
A feed that does lose a line returns an error. -/
theorem parser_lines (calls : List ParserCall) :
    (ParserRun.start.Keeps calls →
      let stream := calls.flatMap ParserCall.bytes
      let ran := ParserRun.start.run calls
      ran.popped ++ ran.parser.lines =
          ((segments lineFeed stream).map (· ++ [lineFeed])).filter (·.length ≤ maxCdcLineSize) ∧
        (.error .lineTooLong ∈ ran.results ↔
          (∃ segment ∈ segments lineFeed stream, maxCdcLineSize < (segment ++ [lineFeed]).length) ∨
            maxCdcLineSize < (remainder lineFeed stream).length)) ∧
    ∀ (front back : List UInt8) (byte : UInt8),
      ((ParserRun.start.run calls).parser.feed front).1.Loses byte →
      ∃ error, ((ParserRun.start.run calls).parser.feed (front ++ byte :: back)).2 = .error error := by
  refine ⟨fun kept => ?_,fun front back byte loses => CdcLineParser.feed_loses _ loses⟩
  intro stream ran
  have invariant := ParserRun.invariant_run calls ParserRun.invariant_start kept
  rw [List.nil_append] at invariant
  have lines := invariant.lines
  have tooLong := invariant.tooLong
  rw [Frame.feed_eq] at lines tooLong
  refine ⟨?_,?_⟩
  · have nothing (verdicts : List (Framed UInt8)) (long : ∀ verdict ∈ verdicts, verdict = .overlong) :
        CdcLineParser.linesOf verdicts = [] :=
      List.filterMap_eq_nil_iff.mpr fun verdict listed => by rw [long verdict listed]
    rw [lines,CdcLineParser.linesOf_append,linesOf_verdicts,nothing,List.append_nil]
    split <;> simp
  · rw [tooLong,List.mem_append,List.mem_map]
    refine or_congr ?_ ?_
    · refine exists_congr fun segment => and_congr_right fun _ => ?_
      rw [Frame.verdict_eq_overlong_iff,List.length_append,List.length_singleton,Nat.lt_succ_iff]
    · split
      next fits => simpa using fits
      next long => simpa using long

/-- A fragment, two lines at once, and an empty line. -/
theorem parser_lines_fragments :
    let calls := [ParserCall.feed [97],.feed [98,lineFeed,99,lineFeed],.popLine,.feed [lineFeed],.popLine]
    ParserRun.start.Keeps calls ∧
      (ParserRun.start.run calls).popped ++ (ParserRun.start.run calls).parser.lines =
        [[97,98,lineFeed],[99,lineFeed],[lineFeed]] := by
  intro calls
  have kept : ParserRun.start.Keeps calls := by
    simp [calls,ParserRun.Keeps]
    decide
  refine ⟨kept,?_⟩
  rw [((parser_lines calls).1 kept).1]
  decide

end UchiPulse.Node
