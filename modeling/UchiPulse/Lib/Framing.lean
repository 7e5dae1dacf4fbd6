import Mathlib.Data.List.Induction

/-! Decoders that are fed one symbol at a time and now and then give something out. Where
the input is cut into pieces makes no difference to them. -/
namespace UchiPulse
namespace Framing
variable {σ β ω : Type} (step : σ → β → σ × List ω)

def feed : σ → List β → σ × List ω
  | state, [] => (state,[])
  | state, symbol :: rest =>
    let (next,first) := step state symbol
    let (last,others) := feed next rest
    (last,first ++ others)

def feedAll : σ → List (List β) → σ × List ω
  | state, [] => (state,[])
  | state, piece :: pieces =>
    let (next,first) := feed step state piece
    let (last,others) := feedAll next pieces
    (last,first ++ others)

theorem feed_append (state : σ) (front back : List β) :
    feed step state (front ++ back) =
      ((feed step (feed step state front).1 back).1,
        (feed step state front).2 ++ (feed step (feed step state front).1 back).2) := by
  induction front generalizing state with
  | nil => rfl
  | cons symbol front ih =>
    simp only [List.cons_append,feed,ih,List.append_assoc]

theorem feedAll_eq (state : σ) (pieces : List (List β)) :
    feedAll step state pieces = feed step state pieces.flatten := by
  induction pieces generalizing state with
  | nil => rfl
  | cons piece pieces ih =>
    simp only [List.flatten_cons,feed_append,feedAll,ih]

section
variable {step} {separator : β}

/-- Symbols that a state takes without giving anything out, up to a bound. -/
theorem feed_holds {held : List β → σ} {bound : Nat}
    (takes : ∀ line symbol, symbol ≠ separator → line.length < bound →
      step (held line) symbol = (held (line ++ [symbol]),[]))
    (line rest : List β) (free : separator ∉ rest) (fits : line.length + rest.length ≤ bound) :
    feed step (held line) rest = (held (line ++ rest),[]) := by
  induction rest generalizing line with
  | nil => simp [feed]
  | cons symbol rest ih =>
    simp only [List.mem_cons,not_or,List.length_cons] at free fits
    have first := takes line symbol (Ne.symm free.1) (by omega)
    have later := ih (line ++ [symbol]) free.2 (by simp only [List.length_append,List.length_singleton]; omega)
    simp only [feed,first,later,List.append_assoc,List.singleton_append,List.append_nil]

/-- Symbols that a state ignores. -/
theorem feed_ignores {state : σ} (ignores : ∀ symbol, symbol ≠ separator → step state symbol = (state,[]))
    (rest : List β) (free : separator ∉ rest) : feed step state rest = (state,[]) := by
  induction rest with
  | nil => rfl
  | cons symbol rest ih =>
    simp only [List.mem_cons,not_or] at free
    simp only [feed,ignores symbol (Ne.symm free.1),ih free.2,List.append_nil]

/-- A line over a bound has a symbol right behind it. -/
theorem exists_over {symbols : List β} {bound : Nat} (long : bound < symbols.length) :
    ∃ front symbol back, symbols = front ++ symbol :: back ∧ front.length = bound := by
  refine ⟨symbols.take bound,symbols[bound],symbols.drop (bound + 1),?_,?_⟩
  · rw [List.getElem_cons_drop,List.take_append_drop]
  · exact List.length_take_of_le (Nat.le_of_lt long)

theorem feed_one (state : σ) (symbol : β) : feed step state [symbol] = step state symbol := by
  simp [feed]

end

/-! ### Streams of segments -/

section
variable [DecidableEq β] (separator : β)

/-- What stands in front of each separator of a stream, and in front of the separator before. -/
def segments (stream : List β) : List (List β) := (stream.splitOn separator).dropLast

/-- What follows the last separator. -/
def remainder (stream : List β) : List β :=
  (stream.splitOn separator).getLast (List.splitOn_ne_nil separator stream)

variable {separator}

theorem segments_free {stream : List β} (free : separator ∉ stream) : segments separator stream = [] := by
  rw [segments,List.splitOn_eq_singleton free]
  rfl

theorem remainder_free {stream : List β} (free : separator ∉ stream) : remainder separator stream = stream := by
  simp only [remainder,List.splitOn_eq_singleton free,List.getLast_singleton]

theorem segments_line {segment : List β} (free : separator ∉ segment) (stream : List β) :
    segments separator (segment ++ separator :: stream) = segment :: segments separator stream := by
  rw [segments,List.splitOn_append_cons_self_of_not_mem free,
    List.dropLast_cons_of_ne_nil (List.splitOn_ne_nil separator stream)]
  rfl

theorem remainder_line {segment : List β} (free : separator ∉ segment) (stream : List β) :
    remainder separator (segment ++ separator :: stream) = remainder separator stream := by
  simp only [remainder,List.splitOn_append_cons_self_of_not_mem free]
  exact List.getLast_cons (List.splitOn_ne_nil separator stream)

/-- A stream is segment after segment, up to a rest without a separator. -/
theorem stream_induction (separator : β) {motive : List β → Prop} (rest : ∀ stream, separator ∉ stream → motive stream)
    (line : ∀ segment stream, separator ∉ segment → motive stream → motive (segment ++ separator :: stream))
    (stream : List β) : motive stream := by
  generalize size : stream.length = length
  induction length using Nat.strongRecOn generalizing stream with
  | ind length ih =>
    by_cases free : separator ∈ stream
    · obtain ⟨segment,others,rfl,first⟩ := List.eq_append_cons_of_mem free
      have shorter : others.length < length := by
        rw [← size,List.length_append,List.length_cons]
        omega
      exact line segment others first (ih _ shorter others rfl)
    · exact rest stream free

theorem remainder_not_mem (stream : List β) : separator ∉ remainder separator stream := by
  induction stream using stream_induction separator with
  | rest stream free => rwa [remainder_free free]
  | line segment stream free ih => rwa [remainder_line free]

/-- What follows the last separator of the front begins the first segment of the back. -/
theorem segments_append (front back : List β) : segments separator (front ++ back) =
    match segments separator back with
    | [] => segments separator front
    | first :: rest => segments separator front ++ (remainder separator front ++ first) :: rest := by
  induction front using stream_induction separator with
  | rest front free =>
    rw [segments_free free,remainder_free free]
    induction back using stream_induction separator with
    | rest back free' =>
      have none : separator ∉ front ++ back := by simp [free,free']
      rw [segments_free free',segments_free none]
    | line segment back free' ih =>
      have none : separator ∉ front ++ segment := by simp [free,free']
      rw [← List.append_assoc,segments_line none,segments_line free']
      rfl
  | line segment front free ih =>
    rw [List.append_assoc,List.cons_append,segments_line free,segments_line free,remainder_line free,ih]
    cases segments separator back <;> rfl

theorem segments_front (front back : List β) {segment : List β} (among : segment ∈ segments separator front) :
    segment ∈ segments separator (front ++ back) := by
  rw [segments_append]
  split
  · exact among
  · exact List.mem_append_left _ among

/-- All segments of a later piece but the first are segments of the whole. -/
theorem segments_later (front back : List β) {segment : List β} (among : segment ∈ (segments separator back).tail) :
    segment ∈ segments separator (front ++ back) := by
  rw [segments_append]
  split
  next none => rw [none] at among; cases among
  next first rest split =>
    rw [split] at among
    exact List.mem_append_right _ (List.mem_cons_of_mem _ among)

theorem segments_count (stream : List β) : (segments separator stream).length = stream.count separator := by
  induction stream using stream_induction separator with
  | rest stream free => rw [segments_free free,List.count_eq_zero_of_not_mem free,List.length_nil]
  | line segment stream free ih =>
    rw [segments_line free,List.length_cons,ih,List.count_append,List.count_eq_zero_of_not_mem free,
      List.count_cons_self,Nat.zero_add]

/-- Segments take up their symbols and their separators. -/
theorem segments_size (stream : List β) {least : Nat} (long : ∀ segment ∈ segments separator stream, least ≤ segment.length) :
    (least + 1) * (segments separator stream).length ≤ stream.length := by
  induction stream using stream_induction separator with
  | rest stream free => simp [segments_free free]
  | line segment stream free ih =>
    rw [segments_line free] at long ⊢
    obtain ⟨first,others⟩ := List.forall_mem_cons.mp long
    have rest := ih others
    rw [List.length_cons,List.length_append,List.length_cons,Nat.mul_succ]
    omega

/-- In a stream of long segments, a piece has few separators. -/
theorem count_piece (front piece back : List β) {least : Nat}
    (long : ∀ segment ∈ segments separator (front ++ piece ++ back), least ≤ segment.length) :
    (least + 1) * (piece.count separator - 1) + 1 ≤ piece.length ∨ piece.count separator = 0 := by
  induction piece using stream_induction separator with
  | rest piece free => exact .inr (List.count_eq_zero_of_not_mem free)
  | line segment piece free ih =>
    have later : ∀ other ∈ segments separator piece, least ≤ other.length := fun other among => by
      apply long
      apply segments_front
      apply segments_later
      rwa [segments_line free]
    have size := segments_size piece later
    rw [segments_count] at size
    rw [List.count_append,List.count_eq_zero_of_not_mem free,List.count_cons_self,List.length_append,List.length_cons]
    refine .inl ?_
    rw [Nat.zero_add,Nat.add_sub_cancel]
    omega

/-- A decoder that starts over behind each separator makes of a stream what it makes of its segments. -/
theorem feed_stream {start : σ} (out : List β → List ω)
    (line : ∀ segment, separator ∉ segment → feed step start (segment ++ [separator]) = (start,out segment))
    (stream : List β) :
    feed step start stream = ((feed step start (remainder separator stream)).1,
      (segments separator stream).flatMap out ++ (feed step start (remainder separator stream)).2) := by
  induction stream using stream_induction separator with
  | rest stream free => rw [segments_free free,remainder_free free,List.flatMap_nil,List.nil_append]
  | line segment stream free ih =>
    have split : segment ++ separator :: stream = segment ++ [separator] ++ stream := by simp
    rw [segments_line free,remainder_line free,split,feed_append,line segment free,ih,List.flatMap_cons,
      List.append_assoc]

end

/-- A decoder that follows another one. -/
theorem feed_map {σ' ω' : Type} {step : σ → β → σ × List ω} {step' : σ' → β → σ' × List ω'} (place : σ → σ')
    (give : ω → ω') (same : ∀ state symbol, step' (place state) symbol =
      (place (step state symbol).1,(step state symbol).2.map give)) (state : σ) (stream : List β) :
    feed step' (place state) stream = (place (feed step state stream).1,(feed step state stream).2.map give) := by
  induction stream generalizing state with
  | nil => rfl
  | cons symbol stream ih => simp only [feed,same,ih,List.map_append]

end Framing

/-! ### Segments up to a limit -/

/-- What becomes of a segment. -/
inductive Framed (β : Type) where
  | line (segment : List β)
  | overlong
deriving DecidableEq

/-- The symbols of a segment under way, unless it has become too long. -/
structure Frame (β : Type) where
  current : List β
  dropping : Bool

namespace Frame
open Framing
variable {β : Type} [DecidableEq β] (separator : β) (limit : Nat)

def start : Frame β where
  current := []
  dropping := false

/-- A separator counts against the limit; one that breaks it ends its segment all the same. -/
def push (self : Frame β) (symbol : β) : Frame β × List (Framed β) :=
  if self.dropping then ({ self with dropping := symbol ≠ separator },[])
  else if self.current.length ≥ limit then ({ current := [],dropping := symbol ≠ separator },[.overlong])
  else if symbol = separator then (start,[.line self.current])
  else ({ self with current := self.current ++ [symbol] },[])

def verdict (segment : List β) : Framed β := if segment.length < limit then .line segment else .overlong

/-- In the middle of a segment. -/
def after (segment : List β) : Frame β :=
  if segment.length ≤ limit then { current := segment,dropping := false } else { current := [],dropping := true }

variable {separator limit}

omit [DecidableEq β] in
theorem verdict_eq_overlong_iff {segment : List β} : verdict limit segment = .overlong ↔ limit ≤ segment.length := by
  unfold verdict
  split
  next fits => exact ⟨fun same => (by cases same),fun long => absurd fits (Nat.not_lt.mpr long)⟩
  next long => exact ⟨fun _ => Nat.not_lt.mp long,fun _ => rfl⟩

theorem feed_free {segment : List β} (free : separator ∉ segment) :
    feed (push separator limit) start segment =
      (after limit segment,if segment.length ≤ limit then [] else [.overlong]) := by
  induction segment using List.reverseRecOn with
  | nil => simp [feed,after,start]
  | append_singleton segment symbol ih =>
    simp only [List.mem_append,List.mem_singleton,not_or] at free
    have other : symbol ≠ separator := Ne.symm free.2
    rw [feed_append,ih free.1,feed_one,List.length_append,List.length_singleton]
    by_cases fits : segment.length ≤ limit
    · simp only [after,if_pos fits,push,Bool.false_eq_true,if_false,List.nil_append,List.length_append,
        List.length_singleton]
      by_cases room : segment.length + 1 ≤ limit
      · have small : ¬ segment.length ≥ limit := by omega
        simp only [if_neg small,if_neg other,if_pos room]
      · have full : segment.length ≥ limit := by omega
        simp only [if_neg room,if_pos full,decide_eq_true other]
    · have long : ¬ segment.length + 1 ≤ limit := by omega
      simp [after,fits,long,push,other]

/-- A segment and its separator. -/
theorem feed_segment {segment : List β} (free : separator ∉ segment) :
    feed (push separator limit) start (segment ++ [separator]) = (start,[verdict limit segment]) := by
  rw [feed_append,feed_free free,feed_one]
  by_cases fits : segment.length ≤ limit
  · simp only [after,if_pos fits,push,Bool.false_eq_true,if_false,List.nil_append,verdict]
    by_cases room : segment.length < limit
    · have small : ¬ segment.length ≥ limit := by omega
      simp only [if_neg small,if_true,if_pos room]
    · have full : segment.length ≥ limit := by omega
      simp only [if_pos full,if_neg room,start,ne_eq,not_true_eq_false,decide_false]
  · have long : ¬ segment.length < limit := by omega
    simp [after,fits,push,start,verdict,long]

/-- Every segment has its verdict, in order; a rest that is too long has it before its end. -/
theorem feed_eq (stream : List β) :
    feed (push separator limit) start stream = (after limit (remainder separator stream),
      (segments separator stream).map (verdict limit) ++
        if (remainder separator stream).length ≤ limit then [] else [.overlong]) := by
  rw [feed_stream _ (fun segment => [verdict limit segment]) (fun segment => feed_segment) stream,
    feed_free (remainder_not_mem stream),List.map_eq_flatMap]

end Frame

end UchiPulse
