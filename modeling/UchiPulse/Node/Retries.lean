import Mathlib.Order.WellFounded
import UchiPulse.Lib.JsonSize
import UchiPulse.Node.Sender

/-! The retries of one EVENT: how often it is handed to the socket, when that ends, and how
the attempts are numbered. The counter has 16 bits, the number of an attempt 8. -/
namespace UchiPulse.Node
open Common Json

/-! ### The policy -/

namespace RetryPolicy

/-- The policy after a number of calls. -/
def after (self : RetryPolicy) : Nat → RetryPolicy
  | 0 => self
  | calls + 1 => (self.after calls).nextAttempt.2

theorem nextAttempt_of_le {self : RetryPolicy} (left : self.attemptsStarted.toNat ≤ self.retryCount.toNat) :
    self.nextAttempt = (some (self.attemptsStarted + 1).toUInt8,
      { self with attemptsStarted := self.attemptsStarted + 1 }) := by
  unfold nextAttempt
  rw [if_neg]
  rw [gt_iff_lt,UInt16.lt_iff_toNat_lt,UInt8.toNat_toUInt16]
  omega

theorem nextAttempt_of_lt {self : RetryPolicy} (used : self.retryCount.toNat < self.attemptsStarted.toNat) :
    self.nextAttempt = (none,self) := by
  unfold nextAttempt
  rw [if_pos]
  rwa [gt_iff_lt,UInt16.lt_iff_toNat_lt,UInt8.toNat_toUInt16]

/-- The counter takes all 256 attempts. -/
theorem attemptsStarted_add {self : RetryPolicy} (left : self.attemptsStarted.toNat ≤ self.retryCount.toNat) :
    (self.attemptsStarted + 1).toNat = self.attemptsStarted.toNat + 1 := by
  have small := self.retryCount.toNat_lt
  rw [UInt16.toNat_add,UInt16.toNat_one]
  exact Nat.mod_eq_of_lt (by omega)

theorem after_new (retryCount : UInt8) {calls : Nat} (bound : calls ≤ retryCount.toNat + 1) :
    ((new retryCount).after calls).retryCount = retryCount ∧
      ((new retryCount).after calls).attemptsStarted.toNat = calls := by
  induction calls with
  | zero => exact ⟨rfl,rfl⟩
  | succ calls ih =>
    obtain ⟨count,started⟩ := ih (by omega)
    have left : ((new retryCount).after calls).attemptsStarted.toNat ≤
        ((new retryCount).after calls).retryCount.toNat := by
      rw [count,started]
      omega
    rw [after,nextAttempt_of_le left]
    exact ⟨count,by rw [attemptsStarted_add left,started]⟩

/-- The number of an attempt is what the counter leaves in 8 bits. -/
theorem nextAttempt_new (retryCount : UInt8) {calls : Nat} (bound : calls ≤ retryCount.toNat) :
    ∃ number, ((new retryCount).after calls).nextAttempt.1 = some number ∧
      number.toNat = (calls + 1) % 256 := by
  obtain ⟨count,started⟩ := after_new retryCount (by omega : calls ≤ retryCount.toNat + 1)
  have left : ((new retryCount).after calls).attemptsStarted.toNat ≤
      ((new retryCount).after calls).retryCount.toNat := by
    rw [count,started]
    exact bound
  refine ⟨_,by rw [nextAttempt_of_le left],?_⟩
  rw [UInt16.toNat_toUInt8,attemptsStarted_add left,started]

/-- Every attempt from the first to the last is numbered by its place. -/
def Numbered (retryCount : UInt8) : Prop :=
  ∀ k, 1 ≤ k → k ≤ retryCount.toNat + 1 →
    ∃ number, ((new retryCount).after (k - 1)).nextAttempt.1 = some number ∧ number.toNat = k

theorem numbered_iff (retryCount : UInt8) : Numbered retryCount ↔ retryCount.toNat < 255 := by
  have small := retryCount.toNat_lt
  constructor
  · intro numbered
    obtain ⟨number,_,last⟩ := numbered (retryCount.toNat + 1) (by omega) (by omega)
    have byte := number.toNat_lt
    omega
  · intro bound k first last
    obtain ⟨number,returned,value⟩ := nextAttempt_new retryCount (by omega : k - 1 ≤ retryCount.toNat)
    refine ⟨number,returned,?_⟩
    rw [value,Nat.sub_add_cancel first]
    exact Nat.mod_eq_of_lt (by omega)

end RetryPolicy

/-! ### The EVENT fits its buffer -/

/-- The identifier of an EVENT needs no escape, so that all it says fits the buffer. -/
theorem encodeMessage_event (skip : Reader Unit) {protocol next : NodeUdpProtocol} {action : TriggeredAction}
    {event : PendingEvent} (makes : Makes protocol action event next) :
    NodeUdpProtocol.encodeMessage skip event.message eventTxSize =
      .ok ((UdpMessage.codec skip).write event.message) := by
  have device := (escape_length event.deviceId.val).trans (Nat.mul_le_mul_left 6 event.deviceId.fits)
  have identifier : (Utf8.bytes (escape event.eventId.val)).length = 33 := by
    rw [makes.identifier,escape_of_plain (eventIdText_plain _ _),eventIdText_length]
  have asked : (writeNat event.actionId.toNat).length ≤ 10 :=
    writeNat_size _ ▸ natSize_le (by decide) (event.actionId.toNat_lt.trans (by decide))
  have fits : ((UdpMessage.codec skip).write event.message).length ≤ eventTxSize := by
    rw [PendingEvent.message,UdpMessage.write_length]
    simp only [identifier,deviceIdCapacity,eventTxSize] at device ⊢
    omega
  unfold NodeUdpProtocol.encodeMessage
  rw [encode_eq_ok.mpr ⟨rfl,fits⟩]

/-! ### The loop -/

/-- What the sender meets while an EVENT is on its way. -/
inductive SendOutcome where
  | attempt (discovered sends : Bool)
  | wait (received : Received) (deadlineReached : Bool)
deriving DecidableEq

/-- The wait comes to its end by the deadline. -/
def SendOutcome.timesOut : SendOutcome → Bool
  | .attempt .. => false
  | .wait .elapsed _ => true
  | .wait _ deadlineReached => deadlineReached

namespace EventSender

/-- The bytes an attempt hands to the socket, which may fail to send them. -/
def handsOver (self : EventSender) (discovered : Bool) : Option (List UInt8) :=
  (self.attempt discovered true).1

section

variable (skip : Reader Unit)

/-- One step, with what it hands over. -/
def meet (self : EventSender) : SendOutcome → Option (List UInt8) × EventSender
  | .attempt discovered sends => (self.handsOver discovered,(self.attempt discovered sends).2)
  | .wait received deadlineReached => (none,(self.waitForAck skip received deadlineReached).2)

/-- The steps of a run, with all they hand over. -/
def meetAll (self : EventSender) : List SendOutcome → List (List UInt8) × EventSender
  | [] => ([],self)
  | outcome :: outcomes =>
    let (handed,next) := self.meet skip outcome
    let (rest,last) := next.meetAll outcomes
    (handed.toList ++ rest,last)

/-- A datagram that is the ACK of the event. -/
def Acknowledges (self : EventSender) (event : PendingEvent) : SendOutcome → Prop
  | .wait (.datagram payload) _ => self.protocol.ackMatches skip event payload = true
  | _ => False

end

theorem meetAll_append (skip : Reader Unit) (self : EventSender) (before rest : List SendOutcome) :
    self.meetAll skip (before ++ rest) =
      ((self.meetAll skip before).1 ++ ((self.meetAll skip before).2.meetAll skip rest).1,
        ((self.meetAll skip before).2.meetAll skip rest).2) := by
  induction before generalizing self with
  | nil => rfl
  | cons outcome before ih => simp only [List.cons_append,meetAll,ih,List.append_assoc]

/-- Nothing more is handed over once the sender is idle. -/
theorem meetAll_idle (skip : Reader Unit) {self : EventSender} (idle : self.phase = .idle)
    (outcomes : List SendOutcome) : self.meetAll skip outcomes = ([],self) := by
  have stays (outcome : SendOutcome) : self.meet skip outcome = (none,self) := by
    obtain ⟨protocol,eventRetryCount,phase⟩ := self
    cases idle
    cases outcome <;> rfl
  induction outcomes with
  | nil => rfl
  | cons outcome outcomes ih => simp only [meetAll,stays,ih,Option.toList_none,List.nil_append]

/-- The event is on its way, and each attempt so far has handed it over. -/
structure OnItsWay (event : PendingEvent) (tx : List UInt8) (retryCount : UInt8) (handed : Nat)
    (sender : EventSender) : Prop where
  busy : ∃ policy, (sender.phase = .sending event tx policy ∨ sender.phase = .waiting event tx policy) ∧
    policy.retryCount = retryCount ∧ policy.attemptsStarted.toNat = handed
  bound : handed ≤ retryCount.toNat + 1

/-- What one step can do to an event on its way: it may end, and why; it goes on with nothing
handed over; or the same bytes are handed over once more. -/
theorem meet_cases (skip : Reader Unit) {event : PendingEvent} {tx : List UInt8} {retryCount : UInt8}
    {handed : Nat} {self : EventSender} (way : OnItsWay event tx retryCount handed self) (outcome : SendOutcome) :
    (self.meet skip outcome).2.protocol = self.protocol ∧
    ((self.meet skip outcome).1 = none ∧ (self.meet skip outcome).2.phase = .idle ∧
        (handed = retryCount.toNat + 1 ∨ (∃ sends, outcome = .attempt false sends) ∨
          self.Acknowledges skip event outcome) ∨
      (self.meet skip outcome).1 = none ∧ OnItsWay event tx retryCount handed (self.meet skip outcome).2 ∨
      (self.meet skip outcome).1 = some tx ∧
        OnItsWay event tx retryCount (handed + 1) (self.meet skip outcome).2) := by
  obtain ⟨protocol,eventRetryCount,phase⟩ := self
  obtain ⟨⟨policy,rfl | rfl,rfl,rfl⟩,bound⟩ := way
  · cases outcome with
    | wait received deadlineReached => exact ⟨rfl,.inr (.inl ⟨rfl,⟨policy,.inl rfl,rfl,rfl⟩,bound⟩)⟩
    | attempt discovered sends =>
      by_cases left : policy.attemptsStarted.toNat ≤ policy.retryCount.toNat
      · have next := RetryPolicy.nextAttempt_of_le left
        cases discovered with
        | false =>
          have step : meet skip ⟨protocol,eventRetryCount,.sending event tx policy⟩ (.attempt false sends) =
              (none,⟨protocol,eventRetryCount,.idle⟩) := by
            simp [meet,handsOver,attempt,next]
          rw [step]
          exact ⟨rfl,.inl ⟨rfl,rfl,.inr (.inl ⟨sends,rfl⟩)⟩⟩
        | true =>
          -- a failed attempt is over at once, the others wait for the ACK
          have more := RetryPolicy.attemptsStarted_add left
          have handed : (meet skip ⟨protocol,eventRetryCount,.sending event tx policy⟩ (.attempt true sends)).1 =
              some tx := by
            simp [meet,handsOver,attempt,next]
          have phase : (meet skip ⟨protocol,eventRetryCount,.sending event tx policy⟩ (.attempt true sends)).2 =
              ⟨protocol,eventRetryCount,if sends
                then .waiting event tx { policy with attemptsStarted := policy.attemptsStarted + 1 }
                else .sending event tx { policy with attemptsStarted := policy.attemptsStarted + 1 }⟩ := by
            cases sends <;> simp [meet,attempt,next]
          rw [handed,phase]
          cases sends
          · exact ⟨rfl,.inr (.inr ⟨rfl,⟨_,.inl rfl,rfl,more⟩,by omega⟩)⟩
          · exact ⟨rfl,.inr (.inr ⟨rfl,⟨_,.inr rfl,rfl,more⟩,by omega⟩)⟩
      · have next := RetryPolicy.nextAttempt_of_lt (Nat.lt_of_not_le left)
        have step : meet skip ⟨protocol,eventRetryCount,.sending event tx policy⟩ (.attempt discovered sends) =
            (none,⟨protocol,eventRetryCount,.idle⟩) := by
          simp [meet,handsOver,attempt,next]
        rw [step]
        exact ⟨rfl,.inl ⟨rfl,rfl,.inl (by omega)⟩⟩
  · cases outcome with
    | attempt discovered sends => exact ⟨rfl,.inr (.inl ⟨rfl,⟨policy,.inr rfl,rfl,rfl⟩,bound⟩)⟩
    | wait received deadlineReached =>
      have waits : OnItsWay event tx policy.retryCount policy.attemptsStarted.toNat
          ⟨protocol,eventRetryCount,.waiting event tx policy⟩ := ⟨⟨policy,.inr rfl,rfl,rfl⟩,bound⟩
      have again : OnItsWay event tx policy.retryCount policy.attemptsStarted.toNat
          ⟨protocol,eventRetryCount,.sending event tx policy⟩ := ⟨⟨policy,.inl rfl,rfl,rfl⟩,bound⟩
      cases received with
      | elapsed => exact ⟨rfl,.inr (.inl ⟨rfl,again⟩)⟩
      | failed => cases deadlineReached <;> exact ⟨rfl,.inr (.inl ⟨rfl,by assumption⟩)⟩
      | datagram payload =>
        by_cases matched : protocol.ackMatches skip event payload = true
        · have step : meet skip ⟨protocol,eventRetryCount,.waiting event tx policy⟩
              (.wait (.datagram payload) deadlineReached) = (none,⟨protocol,eventRetryCount,.idle⟩) := by
            simp only [meet,waitForAck,if_pos matched]
          rw [step]
          exact ⟨rfl,.inl ⟨rfl,rfl,.inr (.inr matched)⟩⟩
        · have step : meet skip ⟨protocol,eventRetryCount,.waiting event tx policy⟩
              (.wait (.datagram payload) deadlineReached) =
                (none,⟨protocol,eventRetryCount,if deadlineReached then .sending event tx policy
                  else .waiting event tx policy⟩) := by
            simp only [meet,waitForAck,if_neg matched]
            cases deadlineReached <;> rfl
          rw [step]
          cases deadlineReached <;> exact ⟨rfl,.inr (.inl ⟨rfl,by assumption⟩)⟩

/-! ### The end of the loop -/

/-- The steps that are left: two for each attempt, its sending and its wait. -/
def rank (self : EventSender) : Nat :=
  match self.phase with
  | .idle => 0
  | .sending _ _ policy => 2 * (policy.retryCount.toNat + 1 - policy.attemptsStarted.toNat) + 1
  | .waiting _ _ policy => 2 * (policy.retryCount.toNat + 1 - policy.attemptsStarted.toNat) + 2

/-- An outcome the sender acts on. -/
def Advances (self : EventSender) (outcome : SendOutcome) : Prop :=
  match self.phase with
  | .idle => False
  | .sending .. => ∃ discovered sends, outcome = .attempt discovered sends
  | .waiting .. => outcome.timesOut = true

theorem rank_meet (skip : Reader Unit) (self : EventSender) (outcome : SendOutcome) :
    (self.meet skip outcome).2.rank ≤ self.rank ∧
      (self.Advances outcome → (self.meet skip outcome).2.rank < self.rank) := by
  obtain ⟨protocol,eventRetryCount,phase⟩ := self
  cases phase with
  | idle => cases outcome <;> exact ⟨le_rfl,False.elim⟩
  | sending event tx policy =>
    cases outcome with
    | wait received deadlineReached => exact ⟨le_rfl,fun ⟨_,_,attempts⟩ => by cases attempts⟩
    | attempt discovered sends =>
      suffices less : _ < _ from ⟨less.le,fun _ => less⟩
      by_cases left : policy.attemptsStarted.toNat ≤ policy.retryCount.toNat
      · have next := RetryPolicy.nextAttempt_of_le left
        have more := RetryPolicy.attemptsStarted_add left
        cases discovered <;> cases sends <;> simp only [meet,attempt,next,rank] <;> simp [more] <;> omega
      · have next := RetryPolicy.nextAttempt_of_lt (Nat.lt_of_not_le left)
        simp only [meet,attempt,next,rank]
        omega
  | waiting event tx policy =>
    cases outcome with
    | attempt discovered sends => exact ⟨le_rfl,fun timesOut => by cases timesOut⟩
    | wait received deadlineReached =>
      simp only [meet,waitForAck,Advances]
      cases received with
      | elapsed => simp [rank]
      | failed => cases deadlineReached <;> simp [rank,SendOutcome.timesOut]
      | datagram payload =>
        by_cases matched : protocol.ackMatches skip event payload = true
        · simp [matched,rank]
        · cases deadlineReached <;> simp [matched,rank,SendOutcome.timesOut]

theorem advances_attempt {self : EventSender} (odd : self.rank % 2 = 1) (discovered sends : Bool) :
    self.Advances (.attempt discovered sends) := by
  obtain ⟨protocol,eventRetryCount,phase⟩ := self
  cases phase with
  | idle => cases odd
  | sending event tx policy => exact ⟨discovered,sends,rfl⟩
  | waiting event tx policy =>
    simp only [rank] at odd
    omega

theorem advances_timesOut {self : EventSender} (even : self.rank % 2 = 0) (busy : self.phase ≠ .idle)
    {outcome : SendOutcome} (timesOut : outcome.timesOut = true) : self.Advances outcome := by
  obtain ⟨protocol,eventRetryCount,phase⟩ := self
  cases phase with
  | idle => exact absurd rfl busy
  | waiting event tx policy => exact timesOut
  | sending event tx policy =>
    simp only [rank] at even
    omega

theorem rank_eq_zero {self : EventSender} : self.rank = 0 ↔ self.phase = .idle := by
  obtain ⟨protocol,eventRetryCount,phase⟩ := self
  cases phase <;> simp [rank]

/-! ### Whole runs -/

/-- The hub is known and the event is not acknowledged. -/
def Unanswered (skip : Reader Unit) (self : EventSender) (event : PendingEvent) (outcome : SendOutcome) : Prop :=
  (∀ sends, outcome ≠ .attempt false sends) ∧ ¬ self.Acknowledges skip event outcome

theorem meetAll_cases (skip : Reader Unit) {event : PendingEvent} {tx : List UInt8} {retryCount : UInt8}
    {handed : Nat} {self : EventSender} (way : OnItsWay event tx retryCount handed self)
    (outcomes : List SendOutcome) :
    ∃ more, (self.meetAll skip outcomes).1 = List.replicate more tx ∧ handed + more ≤ retryCount.toNat + 1 ∧
      (OnItsWay event tx retryCount (handed + more) (self.meetAll skip outcomes).2 ∨
        (self.meetAll skip outcomes).2.phase = .idle ∧
          ((∀ outcome ∈ outcomes, self.Unanswered skip event outcome) → handed + more = retryCount.toNat + 1)) := by
  induction outcomes generalizing self handed with
  | nil => exact ⟨0,rfl,way.bound,.inl way⟩
  | cons outcome outcomes ih =>
    obtain ⟨same,⟨none,idle,why⟩ | ⟨none,goes⟩ | ⟨some,goes⟩⟩ := meet_cases skip way outcome
    · simp only [meetAll,none,meetAll_idle skip idle]
      refine ⟨0,rfl,way.bound,.inr ⟨idle,fun unanswered => ?_⟩⟩
      obtain ⟨known,open'⟩ := unanswered outcome (by simp)
      rcases why with all | ⟨sends,unknown⟩ | acknowledged
      · exact all
      · exact absurd unknown (known sends)
      · exact absurd acknowledged open'
    all_goals
      obtain ⟨more,bytes,bound,rest⟩ := ih goes
      have event_same (later : SendOutcome) : (self.meet skip outcome).2.Unanswered skip event later ↔
          self.Unanswered skip event later := by
        unfold Unanswered Acknowledges
        rw [same]
    · simp only [meetAll,none,bytes]
      refine ⟨more,rfl,bound,rest.imp_right fun ⟨idle,exact⟩ => ⟨idle,fun unanswered => exact ?_⟩⟩
      exact fun later member => (event_same later).mpr (unanswered later (List.mem_cons_of_mem _ member))
    · simp only [meetAll,some,bytes]
      refine ⟨more + 1,rfl,by omega,?_⟩
      rw [show handed + (more + 1) = handed + 1 + more by omega]
      refine rest.imp_right fun ⟨idle,exact⟩ => ⟨idle,fun unanswered => exact ?_⟩
      exact fun later member => (event_same later).mpr (unanswered later (List.mem_cons_of_mem _ member))

/-- An outcome of every kind comes again and again: attempts are made and waits time out. -/
def Fair (outcomes : Nat → SendOutcome) : Prop :=
  ∀ n, (∃ m, n ≤ m ∧ ∃ discovered sends, outcomes m = .attempt discovered sends) ∧
    ∃ m, n ≤ m ∧ (outcomes m).timesOut = true

/-- The firstOutcomes outcomes of a stream. -/
def firstOutcomes (outcomes : Nat → SendOutcome) (n : Nat) : List SendOutcome := (List.range n).map outcomes

end EventSender

/-- A rank that never grows, and stays nowhere short of the goal, brings a run there. -/
theorem exists_of_rank {σ : Type} {run : Nat → σ} (rank : σ → Nat) (goal : σ → Prop)
    (kept : ∀ n, rank (run (n + 1)) ≤ rank (run n))
    (drops : ∀ n, ¬ goal (run n) → ∃ m, n ≤ m ∧ rank (run m) ≠ rank (run n)) : ∃ n, goal (run n) := by
  have falls : Antitone fun n => rank (run n) := antitone_nat_of_succ_le kept
  let least := Function.argmin fun n => rank (run n)
  refine ⟨least,?_⟩
  by_contra short
  obtain ⟨m,later,other⟩ := drops least short
  exact other (le_antisymm (falls later) (Function.argmin_le (fun n => rank (run n)) m))

namespace EventSender

theorem meetAll_first (skip : Reader Unit) (self : EventSender) (outcomes : Nat → SendOutcome) (n : Nat) :
    (self.meetAll skip (firstOutcomes outcomes (n + 1))).2 =
      ((self.meetAll skip (firstOutcomes outcomes n)).2.meet skip (outcomes n)).2 := by
  rw [firstOutcomes,List.range_succ,List.map_append,meetAll_append]
  rfl

/-- The loop ends: the rank stays as it is only while nothing the sender waits for comes. -/
theorem eventually_idle (skip : Reader Unit) (self : EventSender) {outcomes : Nat → SendOutcome}
    (fair : Fair outcomes) : ∃ n, (self.meetAll skip (firstOutcomes outcomes n)).2.phase = .idle := by
  let run (n : Nat) := (self.meetAll skip (firstOutcomes outcomes n)).2
  have step (n : Nat) : run (n + 1) = ((run n).meet skip (outcomes n)).2 := self.meetAll_first skip outcomes n
  have kept (n : Nat) : (run (n + 1)).rank ≤ (run n).rank := by
    rw [step]
    exact (rank_meet skip (run n) (outcomes n)).1
  refine exists_of_rank rank (fun sender => sender.phase = .idle) kept fun n busy => ?_
  by_contra none
  have stays (m : Nat) (later : n ≤ m) : (run m).rank = (run n).rank := by
    by_contra other
    exact none ⟨m,later,other⟩
  have rests (m : Nat) (later : n ≤ m) : ¬ (run m).Advances (outcomes m) := by
    intro acts
    have less := (rank_meet skip (run m) (outcomes m)).2 acts
    rw [← step,stays m later,stays (m + 1) (by omega)] at less
    exact absurd less (Nat.lt_irrefl _)
  -- the parity of the rank tells an attempt from a wait
  rcases Nat.mod_two_eq_zero_or_one (run n).rank with even | odd
  · obtain ⟨m,later,timesOut⟩ := (fair n).2
    refine rests m later (advances_timesOut (by rw [stays m later]; exact even) ?_ timesOut)
    rw [Ne,← rank_eq_zero,stays m later,rank_eq_zero]
    exact busy
  · obtain ⟨m,later,discovered,sends,attempts⟩ := (fair n).1
    refine rests m later ?_
    rw [attempts]
    exact advances_attempt (by rw [stays m later]; exact odd) discovered sends

end EventSender

/-- The retries of an EVENT end, hand over the same bytes each time, and stop at the ACK. -/
structure BoundedRetries (skip : Reader Unit) (retryCount : UInt8) (event : PendingEvent) (sender : EventSender) :
    Prop where
  atMost : ∀ outcomes, (sender.meetAll skip outcomes).1.length ≤ retryCount.toNat + 1
  sameBytes : ∀ outcomes, ∀ bytes ∈ (sender.meetAll skip outcomes).1,
    bytes = (UdpMessage.codec skip).write event.message
  exact : ∀ outcomes, (∀ outcome ∈ outcomes, sender.Unanswered skip event outcome) →
    (sender.meetAll skip outcomes).2.phase = .idle →
      (sender.meetAll skip outcomes).1.length = retryCount.toNat + 1
  ends : ∀ outcomes, EventSender.Fair outcomes →
    ∃ n, (sender.meetAll skip (EventSender.firstOutcomes outcomes n)).2.phase = .idle
  silent : ∀ before payload deadlineReached rest tx retryPolicy,
    (sender.meetAll skip before).2.phase = .waiting event tx retryPolicy →
    sender.protocol.ackMatches skip event payload = true →
      (sender.meetAll skip (before ++ .wait (.datagram payload) deadlineReached :: rest)).1 =
        (sender.meetAll skip before).1

namespace EventSender

theorem meetAll_protocol (skip : Reader Unit) (self : EventSender) (outcomes : List SendOutcome) :
    (self.meetAll skip outcomes).2.protocol = self.protocol := by
  induction outcomes generalizing self with
  | nil => rfl
  | cons outcome outcomes ih =>
    rw [meetAll,ih]
    cases outcome with
    | attempt discovered sends => exact (attempt_cases self discovered sends).1
    | wait received deadlineReached => exact (waitForAck_cases skip self received deadlineReached).1

/-- The ACK ends the wait, and with it the retries. -/
theorem meetAll_acknowledged (skip : Reader Unit) {self : EventSender} {event : PendingEvent} {tx payload : List UInt8}
    {retryPolicy : RetryPolicy} (waits : self.phase = .waiting event tx retryPolicy)
    (matched : self.protocol.ackMatches skip event payload = true) (deadlineReached : Bool)
    (rest : List SendOutcome) :
    (self.meetAll skip (.wait (.datagram payload) deadlineReached :: rest)).1 = [] := by
  obtain ⟨protocol,eventRetryCount,phase⟩ := self
  cases waits
  have step : meet skip ⟨protocol,eventRetryCount,.waiting event tx retryPolicy⟩
      (.wait (.datagram payload) deadlineReached) = (none,⟨protocol,eventRetryCount,.idle⟩) := by
    simp only [meet,waitForAck,if_pos matched]
  rw [meetAll,step]
  exact congrArg Prod.fst (meetAll_idle skip rfl rest)

/-- An action that is taken puts its EVENT on the way, unsent as yet. -/
theorem accept_way {skip : Reader Unit} {self next : EventSender} {action : TriggeredAction}
    {event : PendingEvent} (accepted : self.accept skip action = (some event,next)) :
    OnItsWay event ((UdpMessage.codec skip).write event.message) self.eventRetryCount 0 next := by
  obtain ⟨protocol,eventRetryCount,phase⟩ := self
  cases phase with
  | sending => cases accepted
  | waiting => cases accepted
  | idle =>
    unfold accept at accepted
    rcases eventFromAction_cases protocol action with ⟨made,after,outcome,makes⟩ | ⟨error,failed⟩
    · simp only [outcome,encodeMessage_event skip makes] at accepted
      cases accepted
      exact ⟨⟨_,.inl rfl,rfl,rfl⟩,Nat.zero_le _⟩
    · simp only [failed] at accepted
      cases accepted

end EventSender

theorem retries_bounded {skip : Reader Unit} {sender next : EventSender} {action : TriggeredAction}
    {event : PendingEvent} (accepted : sender.accept skip action = (some event,next)) :
    BoundedRetries skip sender.eventRetryCount event next := by
  have way := EventSender.accept_way accepted
  have run (outcomes : List SendOutcome) := EventSender.meetAll_cases skip way outcomes
  exact {
    atMost := fun outcomes => by
      obtain ⟨count,bytes,most,-⟩ := run outcomes
      rw [bytes,List.length_replicate]
      omega
    sameBytes := fun outcomes bytes member => by
      obtain ⟨count,all,-⟩ := run outcomes
      rw [all] at member
      exact List.eq_of_mem_replicate member
    exact := fun outcomes unanswered idle => by
      obtain ⟨count,bytes,-,⟨⟨policy,busy | busy,-⟩,-⟩ | ⟨-,all⟩⟩ := run outcomes
      · cases idle.symm.trans busy
      · cases idle.symm.trans busy
      · have count_eq := all unanswered
        rw [bytes,List.length_replicate]
        omega
    ends := fun outcomes fair => next.eventually_idle skip fair
    silent := fun before payload deadlineReached rest tx retryPolicy waits matched => by
      rw [EventSender.meetAll_append]
      rw [← next.meetAll_protocol skip before] at matched
      rw [EventSender.meetAll_acknowledged skip waits matched,List.append_nil] }

/-- The loop is bounded and stops at the ACK whatever the configured retries. Its attempts are
numbered by their place exactly when fewer than 255 retries are configured. -/
theorem retries_iff (skip : Reader Unit) (sender next : EventSender) (action : TriggeredAction)
    (event : PendingEvent) (accepted : sender.accept skip action = (some event,next)) :
    BoundedRetries skip sender.eventRetryCount event next ∧
    (BoundedRetries skip sender.eventRetryCount event next ∧ RetryPolicy.Numbered sender.eventRetryCount ↔
      sender.eventRetryCount.toNat < 255) := by
  have always := retries_bounded accepted
  refine ⟨always,?_⟩
  rw [RetryPolicy.numbered_iff]
  exact and_iff_right always

def quietId : DeviceId := ⟨"quiet",by decide⟩

/-- A node after its boot. -/
def quietSender (eventRetryCount : UInt8) : EventSender where
  protocol := { deviceId := quietId,eventIds := .new 7 }
  eventRetryCount := eventRetryCount
  phase := .idle

def firstPending : PendingEvent where
  deviceId := quietId
  eventId := ⟨"0000000000000007-0000000000000001",by decide⟩
  actionId := 1

theorem retries_iff_default :
    ∃ next, (quietSender 3).accept (fun _ => none) { actionId := 1 } = (some firstPending,next) ∧
      BoundedRetries (fun _ => none) 3 firstPending next ∧ RetryPolicy.Numbered 3 := by
  have accepted : ((quietSender 3).accept (fun _ => none) { actionId := 1 }).1 = some firstPending := by
    decide +kernel
  have loop := retries_iff (fun _ => none) (quietSender 3) _ { actionId := 1 } firstPending (Prod.ext accepted rfl)
  exact ⟨_,Prod.ext accepted rfl,loop.2.mpr (by decide)⟩

/-- With 255 retries the last attempt is numbered 0. -/
theorem retries_wrap : ((RetryPolicy.new 255).after 255).nextAttempt.1 = some 0 ∧
    ∃ next, (quietSender 255).accept (fun _ => none) { actionId := 1 } = (some firstPending,next) ∧
      ¬ (BoundedRetries (fun _ => none) 255 firstPending next ∧ RetryPolicy.Numbered 255) := by
  have accepted : ((quietSender 255).accept (fun _ => none) { actionId := 1 }).1 = some firstPending := by
    decide +kernel
  refine ⟨by decide +kernel,_,Prod.ext accepted rfl,?_⟩
  rintro ⟨-,numbered⟩
  exact absurd ((RetryPolicy.numbered_iff 255).mp numbered) (by decide)

end UchiPulse.Node
