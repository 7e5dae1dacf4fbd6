import UchiPulse.Control.Protocol
import UchiPulse.Hub.LineDecoder

/-! The lines that the hub and the control app make of one stream. The two decoders differ
in their limits, and in what they do about a line over it. -/
namespace UchiPulse.Management
open Json Framing

/-- What the control app says of a line over its limit. -/
def overlong : Except String String := .error s!"CDC response exceeded {Control.maxCdcLineSize} bytes"

theorem hub_answers (lines : List (List UInt8)) :
    lines.flatMap Hub.LineDecoder.answer =
      (lines.filter (·.length ≤ Hub.maxCdcLineSize)).map fun line => Hub.trimEndMatches '\r' (Utf8.lossy line) := by
  induction lines with
  | nil => rfl
  | cons line lines ih =>
    rw [List.flatMap_cons,ih]
    by_cases fits : line.length ≤ Hub.maxCdcLineSize <;> simp [Hub.LineDecoder.answer,fits]

theorem control_response (display : List UInt8 → String) (line : List UInt8) :
    Control.LineDecoder.response display (Frame.verdict Control.maxCdcLineSize line) =
      if line.length + 1 ≤ Control.maxCdcLineSize then Control.responseText display (Control.stripSuffix 13 line)
      else overlong := by
  by_cases fits : line.length < Control.maxCdcLineSize
  · rw [Frame.verdict,if_pos fits,if_pos (Nat.succ_le_of_lt fits)]
    rfl
  · rw [Frame.verdict,if_neg fits,if_neg (fun small => fits (Nat.lt_of_succ_le small))]
    rfl

/-- However a stream is cut, the hub gives the lines within its limit, and the control app one
answer for each line; a line over the limit is answered before it ends. -/
theorem lines_of_stream (display : List UInt8 → String) (pieces : List (List UInt8)) :
    (Hub.LineDecoder.initial.feedAll pieces).2 =
      ((segments lineFeed pieces.flatten).filter (·.length ≤ Hub.maxCdcLineSize)).map
        (fun line => Hub.trimEndMatches '\r' (Utf8.lossy line)) ∧
    (Control.LineDecoder.initial.feedAll display pieces).2 =
      (segments lineFeed pieces.flatten).map (fun line =>
        if line.length + 1 ≤ Control.maxCdcLineSize then Control.responseText display (Control.stripSuffix 13 line)
        else overlong) ++
      (if (remainder lineFeed pieces.flatten).length ≤ Control.maxCdcLineSize then [] else [overlong]) ∧
    (∀ (decoder : Hub.LineDecoder) (front back : List UInt8), decoder.feed (front ++ back) =
      (((decoder.feed front).1.feed back).1,(decoder.feed front).2 ++ ((decoder.feed front).1.feed back).2)) ∧
    ∀ (decoder : Control.LineDecoder) (front back : List UInt8), decoder.feed display (front ++ back) =
      (((decoder.feed display front).1.feed display back).1,
        (decoder.feed display front).2 ++ ((decoder.feed display front).1.feed display back).2) := by
  refine ⟨?_,?_,feed_append _,feed_append _⟩
  · rw [Hub.LineDecoder.feedAll_stream,hub_answers]
  · have rest : (if (remainder lineFeed pieces.flatten).length ≤ Control.maxCdcLineSize then []
        else [Framed.overlong]).map (Control.LineDecoder.response display) =
        if (remainder lineFeed pieces.flatten).length ≤ Control.maxCdcLineSize then [] else [overlong] := by
      by_cases fits : (remainder lineFeed pieces.flatten).length ≤ Control.maxCdcLineSize
      · rw [if_pos fits,if_pos fits,List.map_nil]
      · rw [if_neg fits,if_neg fits]
        rfl
    simp only [Control.LineDecoder.feedAll_stream,List.map_append,List.map_map,rest]
    exact congrArg (· ++ _) (List.map_congr_left fun line _ => control_response display line)

end UchiPulse.Management
