import Mathlib.Data.List.DropRight
import UchiPulse.Lib.Framing
import UchiPulse.Lib.Json

/-! The lines of the hub's CDC port. A line over the limit is dropped without an answer. -/
namespace UchiPulse.Hub
open Json

def maxCdcLineSize : Nat := 64 * 1024

structure LineDecoder where
  current : List UInt8
  dropping : Bool
deriving DecidableEq

def trimEndMatches (pattern : Char) (text : String) : String :=
  String.ofList (text.toList.rdropWhile (· == pattern))

namespace LineDecoder

def initial : LineDecoder where
  current := []
  dropping := false

def push (self : LineDecoder) (byte : UInt8) : LineDecoder × List String :=
  if byte = lineFeed then
    (initial,if self.dropping then [] else [trimEndMatches '\r' (Utf8.lossy self.current)])
  else if self.dropping then (self,[])
  else if self.current.length ≥ maxCdcLineSize then ({ current := [],dropping := true },[])
  else ({ self with current := self.current ++ [byte] },[])

def feed : LineDecoder → List UInt8 → LineDecoder × List String := Framing.feed push

/-- The bytes of several reads of the port. -/
def feedAll : LineDecoder → List (List UInt8) → LineDecoder × List String := Framing.feedAll push

/-- In the middle of a line. -/
def held (line : List UInt8) : LineDecoder where
  current := line
  dropping := false

theorem feed_held (line rest : List UInt8) (free : lineFeed ∉ rest)
    (fits : line.length + rest.length ≤ maxCdcLineSize) :
    Framing.feed push (held line) rest = (held (line ++ rest),[]) := by
  refine Framing.feed_holds (fun line symbol other room => ?_) line rest free fits
  have small : ¬ line.length ≥ maxCdcLineSize := by omega
  simp only [push,held,if_neg other,Bool.false_eq_true,if_false]
  exact if_neg small

theorem feed_dropping (rest : List UInt8) (free : lineFeed ∉ rest) :
    Framing.feed push { current := [],dropping := true } rest = ({ current := [],dropping := true },[]) :=
  Framing.feed_ignores (fun symbol other => by simp only [push,if_neg other,if_true]) rest free

/-- A line and its line feed: it comes out, or it is too long and does not. -/
def answer (line : List UInt8) : List String :=
  if line.length ≤ maxCdcLineSize then [trimEndMatches '\r' (Utf8.lossy line)] else []

/-- Nothing comes out in front of a line feed. -/
theorem feed_free {line : List UInt8} (free : lineFeed ∉ line) :
    Framing.feed push initial line =
      (if line.length ≤ maxCdcLineSize then held line else { current := [],dropping := true },[]) := by
  by_cases fits : line.length ≤ maxCdcLineSize
  · rw [if_pos fits]
    exact feed_held [] line free (by simpa using fits)
  · obtain ⟨front,byte,back,rfl,size⟩ := Framing.exists_over (Nat.lt_of_not_le fits)
    simp only [List.mem_append,List.mem_cons,not_or] at free
    have collected := feed_held [] front free.1 (by simpa using Nat.le_of_eq size)
    have full : push (held front) byte = ({ current := [],dropping := true },[]) := by
      simp only [push,held,if_neg (Ne.symm free.2.1),Bool.false_eq_true,if_false]
      exact if_pos (Nat.le_of_eq size.symm)
    rw [if_neg fits,Framing.feed_append,show initial = held [] from rfl,collected]
    simp only [List.nil_append,Framing.feed,full,feed_dropping back free.2.2]

theorem feed_line {line : List UInt8} (free : lineFeed ∉ line) :
    Framing.feed push initial (line ++ [lineFeed]) = (initial,answer line) := by
  rw [Framing.feed_append,feed_free free,Framing.feed_one]
  by_cases fits : line.length ≤ maxCdcLineSize
  · simp [push,held,answer,fits]
  · simp [push,answer,fits]

/-- However a stream is cut into reads, its lines come out in order. -/
theorem feedAll_stream (pieces : List (List UInt8)) :
    (initial.feedAll pieces).2 = (Framing.segments lineFeed pieces.flatten).flatMap answer := by
  rw [feedAll,Framing.feedAll_eq,Framing.feed_stream _ answer (fun line => feed_line) pieces.flatten,
    feed_free (Framing.remainder_not_mem pieces.flatten),List.append_nil]

/-- However a line is cut into reads, it comes out whole, or not at all when it is too long. -/
theorem feedAll_line (pieces : List (List UInt8)) (line : List UInt8) (free : lineFeed ∉ line)
    (whole : pieces.flatten = line ++ [lineFeed]) :
    initial.feedAll pieces =
      (initial,if line.length ≤ maxCdcLineSize then [trimEndMatches '\r' (Utf8.lossy line)] else []) := by
  rw [feedAll,Framing.feedAll_eq,whole]
  exact feed_line free

end LineDecoder

end UchiPulse.Hub
