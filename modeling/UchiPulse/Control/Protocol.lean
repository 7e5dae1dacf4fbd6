import UchiPulse.Lib.Framing
import UchiPulse.Lib.Json

/-! The lines the control app reads from the port. Unlike the hub, it counts the line feed
against the limit, and it reports a line over it. -/
namespace UchiPulse.Control
open Json

def maxCdcLineSize : Nat := 64 * 1024

structure LineDecoder where
  current : List UInt8
  droppingOverlong : Bool
deriving DecidableEq

def stripSuffix (suffix : UInt8) (line : List UInt8) : List UInt8 :=
  if line.getLast? = some suffix then line.dropLast else line

/-- `display` is the text of a UTF-8 error. -/
def responseText (display : List UInt8 → String) (line : List UInt8) : Except String String :=
  match Utf8.decode line with
  | some text => .ok text
  | none => .error s!"CDC response was not UTF-8: {display line}"

namespace LineDecoder

def initial : LineDecoder where
  current := []
  droppingOverlong := false

variable (display : List UInt8 → String)

def push (self : LineDecoder) (byte : UInt8) : LineDecoder × List (Except String String) :=
  if self.droppingOverlong then
    (if byte = lineFeed then { self with droppingOverlong := false } else self,[])
  else if self.current.length ≥ maxCdcLineSize then
    ({ current := [],droppingOverlong := byte ≠ lineFeed },
      [.error s!"CDC response exceeded {maxCdcLineSize} bytes"])
  else if byte = lineFeed then
    (initial,[responseText display (stripSuffix 13 (stripSuffix lineFeed (self.current ++ [byte])))])
  else ({ self with current := self.current ++ [byte] },[])

def feed : LineDecoder → List UInt8 → LineDecoder × List (Except String String) := Framing.feed (push display)

/-- The bytes of several reads of the port. -/
def feedAll : LineDecoder → List (List UInt8) → LineDecoder × List (Except String String) :=
  Framing.feedAll (push display)

/-- The decoder's frame. -/
def ofFrame (frame : Frame UInt8) : LineDecoder where
  current := frame.current
  droppingOverlong := frame.dropping

/-- What the decoder says of a segment. -/
def response : Framed UInt8 → Except String String
  | .line segment => responseText display (stripSuffix 13 segment)
  | .overlong => .error s!"CDC response exceeded {maxCdcLineSize} bytes"

variable {display}

/-- The decoder is the frame with a text for each verdict. -/
theorem push_ofFrame (frame : Frame UInt8) (byte : UInt8) :
    (ofFrame frame).push display byte = (ofFrame (frame.push lineFeed maxCdcLineSize byte).1,
      (frame.push lineFeed maxCdcLineSize byte).2.map (response display)) := by
  obtain ⟨current,dropping⟩ := frame
  unfold push Frame.push
  by_cases dropped : dropping = true
  · by_cases ends : byte = lineFeed <;> simp [ofFrame,dropped,ends]
  · by_cases full : current.length ≥ maxCdcLineSize
    · simp [ofFrame,dropped,full,response]
    · by_cases ends : byte = lineFeed
      · simp [ofFrame,dropped,full,ends,response,stripSuffix,initial,Frame.start]
      · simp [ofFrame,dropped,full,ends]

/-- However a stream is cut into reads, every segment has its answer, in order. -/
theorem feedAll_stream (pieces : List (List UInt8)) :
    initial.feedAll display pieces =
      (ofFrame (.after maxCdcLineSize (Framing.remainder lineFeed pieces.flatten)),
        ((Framing.segments lineFeed pieces.flatten).map (Frame.verdict maxCdcLineSize) ++
          if (Framing.remainder lineFeed pieces.flatten).length ≤ maxCdcLineSize then [] else [Framed.overlong]).map
            (response display)) := by
  rw [feedAll,Framing.feedAll_eq,show initial = ofFrame Frame.start from rfl,
    Framing.feed_map ofFrame (response display) push_ofFrame,Frame.feed_eq]

/-- However a line is cut into reads, it comes out whole when it stays under the limit. -/
theorem feedAll_line (pieces : List (List UInt8)) (line : List UInt8) (free : lineFeed ∉ line)
    (whole : pieces.flatten = line ++ [lineFeed]) :
    (initial.feedAll display pieces) =
      (initial,if line.length < maxCdcLineSize then [responseText display (stripSuffix 13 line)]
        else [.error s!"CDC response exceeded {maxCdcLineSize} bytes"]) := by
  have none : lineFeed ∉ ([] : List UInt8) := List.not_mem_nil
  rw [feedAll_stream,whole,Framing.segments_line free,Framing.remainder_line free,Framing.segments_free none,
    Framing.remainder_free none]
  by_cases fits : line.length < maxCdcLineSize
  · simp [Frame.verdict,Frame.after,fits,response,ofFrame,initial]
  · simp [Frame.verdict,Frame.after,fits,response,ofFrame,initial]

end LineDecoder

end UchiPulse.Control
